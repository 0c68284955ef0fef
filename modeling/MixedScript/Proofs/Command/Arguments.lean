import MixedScript.Command.Arguments
import MixedScript.Proofs.Settings.Overrides

/-! Values for fields of options that come from arguments. Every option gives a known field a value of
its type, whatever the arguments are; so what is laid over a configuration can only be rejected where
the values do not go together. -/

namespace MixedScript.Command

open Settings

variable {form : OptionForm} {p p' : Progress} {value : Value}

-----------------------------------------------------------------------------------------
-- Options
-----------------------------------------------------------------------------------------

/-- A value for a field that exists, of its type. -/
def Proper (s : Section) (field : String) (value : Value) : Prop :=
  field ∈ s.fieldNames ∧ Fits s field value

/-- If an option is about a field, the field exists, and all that the option can say is of its type. -/
def OptionForm.Sound (form : OptionForm) : Prop :=
  ∀ s field, form.topic = .field s field →
    field ∈ s.fieldNames
    ∧ (form.takes = none → Fits s field (.bool false))
    ∧ ∀ reading text value,
        form.takes = some reading → reading.read text = .ok value → Fits s field value

theorem read_text {reading : ValueForm} (other : reading ≠ .integer) {text : String}
    (h : reading.read text = .ok value)
    : value = .str text := by
  cases reading with
  | text => exact (Except.ok.inj h).symm
  | integer => exact absurd rfl other
  | oneOf allowed =>
      simp only [ValueForm.read] at h
      split at h
      · exact (Except.ok.inj h).symm
      · cases h

theorem read_integer {text : String} (h : ValueForm.integer.read text = .ok value)
    : ∃ i, value = .int i := by
  simp only [ValueForm.read] at h
  split at h
  · next i _ => exact ⟨i, (Except.ok.inj h).symm⟩
  · cases h

theorem sound_fieldForm {s : Section} {entry : String × Value} (h : entry ∈ s.fields)
    : (fieldForm s entry.1 entry.2).Sound := by
  have known : entry.1 ∈ s.fieldNames := List.mem_map_of_mem h
  have initial := get_default h
  rcases default_cases h with ⟨b, default⟩ | ⟨i, default⟩ | ⟨x, default⟩ <;>
    rw [default] at initial ⊢ <;>
    rintro t field ⟨⟩ <;>
    refine ⟨known, fun bare => ?_, fun reading text value taken read => ?_⟩
  · simp [Fits, initial, typeMismatch?]
  · cases taken
  · cases bare
  · cases taken
    obtain ⟨j, rfl⟩ := read_integer read
    simp [Fits, initial, typeMismatch?]
  · cases bare
  · have other : reading ≠ .integer := by
      rintro rfl
      simp only [fieldForm, Option.some.injEq] at taken
      split at taken
      · cases taken
      · split at taken <;> cases taken
    obtain rfl := read_text other read
    simp [Fits, initial, typeMismatch?]

theorem sound_of_mem (h : form ∈ optionForms)
    : form.Sound := by
  rcases List.mem_append.mp h with general | special
  · have aside : ∀ s field, form.topic ≠ .field s field := by
      simp only [List.mem_cons, List.not_mem_nil, or_false] at general
      rcases general with rfl | rfl | rfl | rfl | rfl | rfl | rfl | rfl | rfl | rfl <;> simp
    exact fun s field topic => absurd topic (aside s field)
  · obtain ⟨s, -, held⟩ := List.mem_flatMap.mp special
    obtain ⟨entry, listed, rfl⟩ := List.mem_map.mp held
    exact sound_fieldForm listed

theorem mem_of_formOf? {name : String} (h : formOf? name = some form)
    : form ∈ optionForms ∧ name ∈ form.names := by
  have named := List.find?_some h
  exact ⟨List.mem_of_find?_eq_some h, by simpa using named⟩

/-- No option with a name of one letter takes a value. -/
theorem takes_of_short {c : Char} (h : formOf? (String.ofList ['-', c]) = some form)
    : form.takes = none := by
  have each : ∀ form ∈ optionForms, ∀ name ∈ form.names, name.length = 2 → form.takes = none := by
    decide +kernel
  obtain ⟨held, named⟩ := mem_of_formOf? h
  exact each form held _ named (by rw [String.length_ofList]; rfl)

-----------------------------------------------------------------------------------------
-- Words
-----------------------------------------------------------------------------------------

/-- An argument stands for options that exist. -/
def Word.Known : Word → Prop
  | .option candidates => ∀ c ∈ candidates, c.form ∈ optionForms
  | _ => True

theorem known_long {c : Candidate} {cs : Chars} (h : c ∈ longCandidates cs)
    : c.form ∈ optionForms := by
  unfold longCandidates at h
  obtain ⟨form, held, made⟩ := List.mem_flatMap.mp h
  obtain ⟨name, -, rfl⟩ := List.mem_map.mp made
  exact held

theorem known_short {c : Candidate} {cs : Chars} (h : c ∈ shortCandidates cs)
    : c.form ∈ optionForms := by
  unfold shortCandidates at h
  obtain ⟨form, found, rfl⟩ := Option.map_eq_some_iff.mp (Option.mem_toList.mp h)
  exact (mem_of_formOf? found).1

theorem known_classify (s : String)
    : (classify s).Known := by
  simp only [classify]
  split
  · trivial
  · split
    · next form found => simpa [Word.Known] using (mem_of_formOf? found).1
    · split
      · trivial
      · split
        · next form found =>
            split at found
            · simpa [Word.Known] using (mem_of_formOf? found).1
            · cases found
        · split
          · split <;> trivial
          · intro c held
            split at held
            · exact known_short held
            · exact known_long held

theorem known_classifyAll (arguments : List String)
    : ∀ word ∈ classifyAll arguments, word.Known := by
  induction arguments with
  | nil => simp [classifyAll]
  | cons s rest ih =>
      unfold classifyAll
      split
      · simp [Word.Known]
      · intro word held
        rcases List.mem_cons.mp held with rfl | held
        · exact known_classify s
        · exact ih word held

/-- Letters that are run together stand for options without values. -/
theorem cluster_ok {letters : Chars} {forms : List OptionForm} {left : Bool}
    (known : form ∈ optionForms) (bare : form.takes = none)
    (h : cluster form letters = .ok (forms, left))
    : ∀ f ∈ forms, f ∈ optionForms ∧ f.takes = none := by
  induction letters generalizing form forms left with
  | nil =>
      obtain ⟨rfl, -⟩ := Prod.mk.inj (Except.ok.inj h)
      simp [known, bare]
  | cons c letters ih =>
      unfold cluster at h
      split at h
      · cases h
      · split at h
        · obtain ⟨rfl, -⟩ := Prod.mk.inj (Except.ok.inj h)
          simp [known, bare]
        · next next found =>
            split at h
            · cases h
            · cases later : cluster next letters with
              | error e => simp [later, Except.map] at h
              | ok result =>
                  rw [later] at h
                  obtain ⟨rfl, -⟩ := Prod.mk.inj (Except.ok.inj h)
                  intro f held
                  rcases List.mem_cons.mp held with rfl | held
                  · exact ⟨known, bare⟩
                  · exact ih (mem_of_formOf? found).1 (takes_of_short found) later f held

-----------------------------------------------------------------------------------------
-- Reading
-----------------------------------------------------------------------------------------

/-- What has been read gives fields values of their types. -/
def Progress.Sound (p : Progress) : Prop :=
  ∀ entry ∈ p.arguments.fields, Proper entry.1.1 entry.1.2 entry.2

/-- An option that says something proper of the field that it is about keeps what has been read sound. -/
theorem Progress.Sound.apply {topic : Topic} (h : p.Sound)
    (proper : ∀ s field, topic = .field s field → Proper s field value)
    (applied : p.apply topic value = .ok p')
    : p'.Sound := by
  cases topic with
  | help | version => cases applied
  | config | noConfig | severity | logFile | trace =>
      obtain rfl := Except.ok.inj applied
      exact h
  | mode m =>
      unfold Progress.apply at applied
      simp only at applied
      split at applied
      · obtain rfl := Except.ok.inj applied
        exact h
      · cases applied
  | field s field =>
      obtain rfl := Except.ok.inj applied
      intro entry held
      rcases List.mem_cons.mp held with rfl | held
      · exact proper s field rfl
      · exact h entry held

theorem Progress.Sound.applyValue {reading : ValueForm} {text : String} (h : p.Sound)
    (known : form ∈ optionForms) (taken : form.takes = some reading)
    (read : reading.read text = .ok value) (applied : p.apply form.topic value = .ok p')
    : p'.Sound := by
  refine h.apply (fun s field topic => ?_) applied
  obtain ⟨named, -, fits⟩ := sound_of_mem known s field topic
  exact ⟨named, fits reading text value taken read⟩

theorem Progress.Sound.applyBare (h : p.Sound) (known : form ∈ optionForms)
    (bare : form.takes = none) (applied : p.apply form.topic (.bool false) = .ok p')
    : p'.Sound := by
  refine h.apply (fun s field topic => ?_) applied
  obtain ⟨named, fits, -⟩ := sound_of_mem known s field topic
  exact ⟨named, fits bare⟩

theorem Progress.Sound.applyEach {forms : List OptionForm} (h : p.Sound)
    (known : ∀ f ∈ forms, f ∈ optionForms ∧ f.takes = none)
    (applied : forms.foldlM (fun (p : Progress) form => p.apply form.topic (.bool false)) p = .ok p')
    : p'.Sound := by
  induction forms generalizing p with
  | nil =>
      obtain rfl := Except.ok.inj applied
      exact h
  | cons form forms ih =>
      obtain ⟨here, rest⟩ := List.forall_mem_cons.mp known
      rw [List.foldlM_cons] at applied
      obtain ⟨mid, first, later⟩ := bind_eq_ok.mp applied
      exact ih (h.applyBare here.1 here.2 first) rest later

theorem Progress.Sound.applyAlone {c : Candidate} (h : p.Sound) (known : c.form ∈ optionForms)
    (applied : p.applyAlone c = .ok p')
    : p'.Sound := by
  unfold Progress.applyAlone at applied
  split at applied
  · next reading a taken _ =>
      obtain ⟨value, read, applied⟩ := bind_eq_ok.mp applied
      exact h.applyValue known taken read applied
  · cases applied
  · next bare _ => exact h.applyBare known bare applied
  · next a bare _ =>
      split at applied
      · cases applied
      · obtain ⟨⟨forms, left⟩, clustered, applied⟩ := bind_eq_ok.mp applied
        obtain ⟨mid, each, last⟩ := bind_eq_ok.mp applied
        have sound := h.applyEach (cluster_ok known bare clustered) each
        obtain rfl := Except.ok.inj last
        split
        · exact sound
        · exact sound

theorem Progress.Sound.endRow (h : p.Sound)
    : p.endRow.Sound := by
  unfold Progress.endRow
  split <;> exact h

theorem Progress.Sound.addPath (h : p.Sound) (s : String)
    : (p.addPath s).Sound := by
  unfold Progress.addPath
  split <;> exact h

theorem Progress.Sound.addDivider (h : p.Sound)
    : p.addDivider.Sound := by
  unfold Progress.addDivider
  split <;> exact h

/-- Reading arguments keeps what has been read sound. -/
theorem Progress.Sound.readWords {words : List Word} (h : p.Sound)
    (known : ∀ word ∈ words, word.Known) (read : readWords words p = .ok p')
    : p'.Sound := by
  -- One case for each way to read on: what is read on with is still sound.
  fun_induction Command.readWords words p with
  | case1 p =>
      obtain rfl := Except.ok.inj read
      exact h
  | case2 s rest p ih => exact ih (h.addPath s) (List.forall_mem_cons.mp known).2 read
  | case3 rest p ih => exact ih h.addDivider (List.forall_mem_cons.mp known).2 read
  | case4 rest p ih => exact ih h.endRow (List.forall_mem_cons.mp known).2 read
  | case5 c s rest p reading _ taken ih =>
      obtain ⟨value, valued, read⟩ := bind_eq_ok.mp read
      obtain ⟨mid, applied, read⟩ := bind_eq_ok.mp read
      have here : c.form ∈ optionForms := known (.option [c]) (by simp) c (by simp)
      refine ih mid (h.endRow.applyValue here taken valued applied) (fun word held => ?_) read
      exact known word (by simp [held])
  | case6 c s rest p _ ih =>
      obtain ⟨mid, applied, read⟩ := bind_eq_ok.mp read
      have here : c.form ∈ optionForms := known (.option [c]) (by simp) c (by simp)
      refine ih mid ((h.endRow.applyAlone here applied).addPath s) (fun word held => ?_) read
      exact known word (by simp [held])
  | case7 c rest p _ ih =>
      obtain ⟨mid, applied, read⟩ := bind_eq_ok.mp read
      have here : c.form ∈ optionForms := known (.option [c]) (by simp) c (by simp)
      exact ih mid (h.endRow.applyAlone here applied) (List.forall_mem_cons.mp known).2 read
  | case8 => cases read

variable {words : List String} {a : Arguments}

/-- What arguments give to fields is of the types of the fields. -/
theorem proper_of_parse (parsed : Arguments.parse words = .ok a)
    : ∀ entry ∈ a.fields, Proper entry.1.1 entry.1.2 entry.2 := by
  obtain ⟨p, read, parsed⟩ := bind_eq_ok.mp parsed
  have start : Progress.Sound {} := fun _ held => by cases held
  have sound : p.Sound := start.readWords (known_classifyAll words) read
  split at parsed
  · cases parsed
  · obtain rfl := Except.ok.inj parsed
    exact sound

theorem proper_of_lookup (parsed : Arguments.parse words = .ok a) {s : Section} {field : String}
    (given : a.fields.lookup (s, field) = some value)
    : Proper s field value := by
  obtain ⟨before, after, made, -⟩ := List.lookup_eq_some_iff.mp given
  exact proper_of_parse parsed ((s, field), value) (by simp [made])

-----------------------------------------------------------------------------------------
-- Over a configuration
-----------------------------------------------------------------------------------------

/-- The values that arguments give to the fields of a section, as its table. -/
def Arguments.table (a : Arguments) (s : Section) : Mapping :=
  s.fieldNames.filterMap (fun field =>
    (a.fields.lookup (s, field)).map (fun value => (.str field, value)))

theorem overrides_eq_tablesOf (a : Arguments)
    : a.overrides = tablesOf a.table sections :=
  rfl

theorem mem_table {s : Section} {entry : Scalar × Value}
    : entry ∈ a.table s
      ↔ ∃ field ∈ s.fieldNames, a.fields.lookup (s, field) = some entry.2 ∧ entry.1 = .str field := by
  obtain ⟨key, value⟩ := entry
  simp only [Arguments.table, List.mem_filterMap, Option.map_eq_some_iff, Prod.mk.injEq]
  constructor
  · rintro ⟨field, known, _, given, rfl, rfl⟩
    exact ⟨field, known, given, rfl⟩
  · rintro ⟨field, known, given, rfl⟩
    exact ⟨field, known, value, given, rfl, rfl⟩

theorem unique_table (a : Arguments) (s : Section)
    : (a.table s).Unique := by
  refine List.pairwise_filterMap.mpr ((fieldNames_nodup s).imp ?_)
  intro x y apart entry first other second
  obtain ⟨_, -, rfl⟩ := Option.map_eq_some_iff.mp first
  obtain ⟨_, -, rfl⟩ := Option.map_eq_some_iff.mp second
  exact Scalar.sameKey_ne apart

theorem get?_table {s : Section} {field : String} (known : field ∈ s.fieldNames)
    : (a.table s).get? (.str field) = a.fields.lookup (s, field) := by
  cases given : a.fields.lookup (s, field) with
  | some value => exact (unique_table a s).get?_of_mem (mem_table.mpr ⟨field, known, given, rfl⟩)
  | none =>
      refine Mapping.get?_eq_none.mpr fun entry held => ?_
      obtain ⟨other, -, there, named⟩ := mem_table.mp held
      rw [named]
      refine Scalar.sameKey_ne fun same => ?_
      rw [same, given] at there
      cases there

theorem layable_table (parsed : Arguments.parse words = .ok a) (s : Section)
    : Layable s (a.table s) where
  unique := unique_table a s
  plain entry held := by
    obtain ⟨field, known, given, -⟩ := mem_table.mp held
    exact (proper_of_lookup parsed given).2.plain known
  named entry held := by
    obtain ⟨field, known, -, named⟩ := mem_table.mp held
    exact ⟨field, known, named⟩

/-- The value from arguments for a field that counts over a configuration. -/
def Arguments.heeded (a : Arguments) (config : Mapping) (s : Section) (field : String)
    : Option Value :=
  if standsBehindTable s field config then none else a.fields.lookup (s, field)

/-- Values from arguments, laid over a configuration, count over its own, but for those of fields that
the configuration names at the top level behind the table of their section: these keep their values.
Only the options for writing can be rejected then, where the values do not go together. -/
theorem arguments_over_config {config : Mapping} {d : Drafts}
    (parsed : Arguments.parse words = .ok a) (genuine : Genuine config)
    (accepted : Drafts.ofMapping config = .ok d)
    : (∀ e, Drafts.ofMapping (config.merge a.overrides) = .ok e →
        ∀ s, ∀ field ∈ Section.fieldNames s,
          (e.draft s).get field = (a.heeded config s field).getD ((d.draft s).get field))
      ∧ ∀ r, Drafts.ofMapping (config.merge a.overrides) = .error r →
          (d.writer.overlay (a.heeded config .writer)).check ≠ .ok ()
          ∧ ∃ reason, r = .invalid .writer reason := by
  have fit : ∀ s, ∀ field ∈ Section.fieldNames s, ∀ value,
      (a.table s).get? (.str field) = some value → Fits s field value := by
    intro s field known value given
    rw [get?_table known] at given
    exact (proper_of_lookup parsed given).2
  have counts : ∀ s, ∀ field ∈ Section.fieldNames s,
      Settings.heeded a.table config s field = a.heeded config s field := by
    intro s field known
    rw [Settings.heeded, Arguments.heeded, get?_table known]
  have writer : d.writer.overlay (Settings.heeded a.table config .writer)
      = d.writer.overlay (a.heeded config .writer) := by
    refine Draft.overlay_congr fun field known => counts .writer field ?_
    exact fields_of_ofMapping accepted .writer ▸ known
  have laid := ofMapping_mergeTables genuine (layable_table parsed) fit sections (by decide)
    (by intro s; cases s <;> decide) accepted
  rw [overrides_eq_tablesOf, laid]
  cases outcome : (d.overlay (Settings.heeded a.table config)).writer.checked with
  | ok w =>
      refine ⟨fun e made s field known => ?_, by rintro r ⟨⟩⟩
      obtain rfl := Except.ok.inj made
      rw [Drafts.draft_overlay, Draft.get_overlay _ _ (fields_of_ofMapping accepted s ▸ known),
        counts s field known]
  | error r' =>
      refine ⟨by rintro e ⟨⟩, fun r failed => ?_⟩
      obtain rfl := Except.error.inj failed
      obtain ⟨unchecked, reason, rfl⟩ := Draft.checked_error outcome
      refine ⟨writer ▸ unchecked, reason, ?_⟩
      have owned : d.writer.owner = .writer := owner_of_ofMapping accepted .writer
      simp only [Drafts.overlay, Draft.overlay, owned]

/-- A configuration with a field at the top level, ahead of the table of its section. -/
def starredConfig : Mapping :=
  [(.str "emphasis_symbol", .str "*"), (.str "renderer", .map [(.str "bullet_symbols", .str "*")])]

theorem starredConfig_genuine
    : Genuine starredConfig where
  unique := by
    unfold Mapping.Unique
    decide +kernel
  tables s table found := by
    cases s with
    | reader | spacing => cases found
    | writer =>
        obtain rfl := Value.map.inj (Option.some.inj found)
        exact List.pairwise_singleton _ _

/-- An option given for emphasis counts over the configuration, which keeps its bullets. -/
theorem arguments_over_starredConfig
    : ∃ a d e,
        Arguments.parse ["--emphasis-symbol", "_", "a.md"] = .ok a
        ∧ Drafts.ofMapping starredConfig = .ok d
        ∧ Drafts.ofMapping (starredConfig.merge a.overrides) = .ok e
        ∧ (e.draft .writer).get "emphasis_symbol" = .str "_"
        ∧ (e.draft .writer).get "bullet_symbols" = .str "*" := by
  let a : Arguments :=
    { paths := ["a.md"], fields := [((.writer, "emphasis_symbol"), .str "_")] }
  have parsed : Arguments.parse ["--emphasis-symbol", "_", "a.md"] = .ok a :=
    ok_of_toOption (by decide +kernel)
  let d : Drafts :=
    { reader := .default .reader
      writer := (Draft.default .writer).set "bullet_symbols" (.str "*")
      spacing := .default .spacing }
  have accepted : Drafts.ofMapping starredConfig = .ok d := ok_of_toOption (by decide +kernel)
  have laid : (Drafts.ofMapping (starredConfig.merge a.overrides)).toOption.isSome = true := by
    decide +kernel
  obtain ⟨e, made⟩ := Option.isSome_iff_exists.mp laid
  have counts := (arguments_over_config parsed starredConfig_genuine accepted).1 e
    (ok_of_toOption made) .writer
  refine ⟨a, d, e, parsed, accepted, ok_of_toOption made, ?_, ?_⟩
  · rw [counts _ (by decide)]
    rfl
  · rw [counts _ (by decide)]
    rfl

/-- A configuration with a field at the top level, behind the table of its section. -/
def shadowingConfig : Mapping :=
  [(.str "spacing", .map []), (.str "normalize_text", .bool true)]

theorem shadowingConfig_genuine
    : Genuine shadowingConfig where
  unique := by
    unfold Mapping.Unique
    decide +kernel
  tables s table found := by
    cases s with
    | reader | writer => cases found
    | spacing =>
        obtain rfl := Value.map.inj (Option.some.inj found)
        exact List.Pairwise.nil

/-- Text is spaced although the arguments say that it is not to be. -/
theorem field_behind_table_hides_argument
    : ¬ ∀ (words : List String) (a : Arguments) (config : Mapping) (d e : Drafts),
        Arguments.parse words = .ok a →
        Genuine config →
        Drafts.ofMapping config = .ok d →
        Drafts.ofMapping (config.merge a.overrides) = .ok e →
        ∀ s field value,
          a.fields.lookup (s, field) = some value → (e.draft s).get field = value := by
  intro wins
  let a : Arguments := { fields := [((.spacing, "normalize_text"), .bool false)] }
  have parsed : Arguments.parse ["--no-text-normalization"] = .ok a :=
    ok_of_toOption (by decide +kernel)
  let d : Drafts := ⟨.default .reader, .default .writer, .default .spacing⟩
  have accepted : Drafts.ofMapping shadowingConfig = .ok d := ok_of_toOption (by decide +kernel)
  have laid : Drafts.ofMapping (shadowingConfig.merge a.overrides) = .ok d :=
    ok_of_toOption (by decide +kernel)
  have off := wins _ a _ d d parsed shadowingConfig_genuine accepted laid .spacing "normalize_text"
    (.bool false) (by decide)
  exact absurd off (by decide +kernel)

end MixedScript.Command
