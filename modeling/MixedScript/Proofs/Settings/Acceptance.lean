import MixedScript.Proofs.Settings.OptionValues

/-! Which configurations are accepted, and what options they make. A configuration is seen as what it
mentions, in order and without its layout: an option is the same at the top level and in the table of its
section, and of what is said of it several times the last counts. -/

namespace MixedScript.Settings

variable {s : Section} {field : String} {value : Value} {config other table : Mapping} {key : Scalar}
  {all own : List Assignment}

-----------------------------------------------------------------------------------------
-- Mentions
-----------------------------------------------------------------------------------------

/-- A key with its value somewhere in a configuration. -/
structure Mention where
  /-- The section whose table the key stands in; of a key at the top level, the section of that field. -/
  owner : Option Section
  key : Scalar
  value : Value

/-- Whether a mention is of a field of a section. -/
def Mention.names (s : Section) (field : String) (m : Mention) : Bool :=
  m.owner == some s && m.key == .str field

/-- What an entry of a configuration mentions: the entries of the table of a section, else itself. -/
def mentionsIn : Scalar × Value → List Mention
  | (.str name, value) =>
    match Section.ofName? name, value with
    | some s, .map table => table.map (fun entry => ⟨some s, entry.1, entry.2⟩)
    | _, _ => [⟨Section.ofField? name, .str name, value⟩]
  | (key, value) => [⟨none, key, value⟩]

/-- What a configuration mentions, in order. -/
def mentions (config : Mapping) : List Mention :=
  config.flatMap mentionsIn

/-- The value of the last mention of a field. -/
def finalValue? (s : Section) (field : String) (config : Mapping) : Option Value :=
  ((mentions config).filter (Mention.names s field)).getLast?.map Mention.value

/-- The final values of the fields of a section, and the defaults of those that are not mentioned. -/
def finalDraft (config : Mapping) (s : Section) : Draft :=
  ⟨s, s.fields.map (fun entry => (entry.1, (finalValue? s entry.1 config).getD entry.2))⟩

/-- A mention of an option, by a name that its section knows. -/
def Mention.Known (m : Mention) : Prop :=
  ∃ s : Section, ∃ field ∈ s.fieldNames, m.owner = some s ∧ m.key = .str field

/-- An entry with nothing but known names: the table of a section with fields of that section, or a field. -/
inductive Keyed : Scalar × Value → Prop
  | table (s : Section) (table : Mapping) (named : NamesFields s table) : Keyed (.str s.name, .map table)
  | field (s : Section) (field : String) (known : field ∈ s.fieldNames) (value : Value)
    : Keyed (.str field, value)

/-- A configuration of known names, with final values of the types and in the ranges of their fields. -/
structure Acceptable (config : Mapping) : Prop where
  keyed : ∀ entry ∈ config, Keyed entry
  typed
    : ∀ s, ∀ entry ∈ Section.fields s, ∀ value,
        finalValue? s entry.1 config = some value → SameType entry.2 value
  inRange : WriterRange (finalDraft config .writer).get

theorem ofName?_field (known : field ∈ s.fieldNames)
    : Section.ofName? field = none := by
  cases found : Section.ofName? field with
  | none => rfl
  | some t => exact absurd (ofName?_eq_some.mp found).symm (name_ne_field t s known)

theorem mentionsIn_table (s : Section) (table : Mapping)
    : mentionsIn (.str s.name, .map table) = table.map (fun entry => ⟨some s, entry.1, entry.2⟩) := by
  simp only [mentionsIn, ofName?_name]

theorem mentionsIn_field (known : field ∈ s.fieldNames) (value : Value)
    : mentionsIn (.str field, value) = [⟨some s, .str field, value⟩] := by
  simp only [mentionsIn, ofName?_field known, ofField?_eq_some.mpr known]

/-- Whether an entry is keyed shows in what it mentions. -/
theorem keyed_iff_known {entry : Scalar × Value}
    : Keyed entry ↔ ∀ m ∈ mentionsIn entry, m.Known := by
  constructor
  · rintro (⟨s, table, named⟩ | ⟨s, field, known, value⟩) m held
    · rw [mentionsIn_table] at held
      obtain ⟨inner, within, rfl⟩ := List.mem_map.mp held
      obtain ⟨field, known, named⟩ := named inner within
      exact ⟨s, field, known, rfl, named⟩
    · rw [mentionsIn_field known] at held
      obtain rfl := List.mem_singleton.mp held
      exact ⟨s, field, known, rfl, rfl⟩
  · intro known
    obtain ⟨key, value⟩ := entry
    unfold mentionsIn at known
    split at known
    · next name value same =>
        obtain ⟨rfl, rfl⟩ := Prod.mk.inj same
        split at known
        · next t table found =>
            rw [ofName?_eq_some.mp found]
            refine .table t table fun inner within => ?_
            obtain ⟨u, field, held, owned, named⟩ := known _ (List.mem_map_of_mem within)
            obtain rfl := Option.some.inj owned
            exact ⟨field, held, named⟩
        · obtain ⟨t, field, held, -, named⟩ := known _ List.mem_cons_self
          obtain rfl := Scalar.str.inj named
          exact .field t name held _
    · obtain ⟨_, _, -, owned, -⟩ := known _ List.mem_cons_self
      cases owned

theorem keyed_iff_mentions
    : (∀ entry ∈ config, Keyed entry) ↔ ∀ m ∈ mentions config, m.Known := by
  simp only [keyed_iff_known, mentions, List.forall_mem_flatMap]

-----------------------------------------------------------------------------------------
-- Assignments are mentions
-----------------------------------------------------------------------------------------

/-- An assignment as a mention. -/
def Assignment.mention (a : Assignment) : Mention :=
  ⟨some a.owner, .str a.field, a.value⟩

theorem tableAssignments_mention (read : tableAssignments s table = .ok own)
    : table.map (fun entry => ⟨some s, entry.1, entry.2⟩) = own.map Assignment.mention := by
  induction table generalizing own with
  | nil =>
      obtain rfl := Except.ok.inj read
      rfl
  | cons entry table ih =>
      obtain ⟨key, value⟩ := entry
      obtain ⟨field, -, rfl, later, rest, rfl⟩ := tableAssignments_cons_ok.mp read
      rw [List.map_cons, List.map_cons, ih rest]
      rfl

theorem entryAssignments_mention (read : entryAssignments key value = .ok own)
    : mentionsIn (key, value) = own.map Assignment.mention := by
  rcases entryAssignments_ok read with ⟨t, table, rfl, rfl, tabled⟩ | ⟨t, field, known, rfl, rfl⟩
  · rw [mentionsIn_table, tableAssignments_mention tabled]
  · rw [mentionsIn_field known]
    rfl

/-- The assignments of a configuration are what it mentions, in the same order. -/
theorem assignments_mention (read : assignments config = .ok all)
    : mentions config = all.map Assignment.mention := by
  induction config generalizing all with
  | nil =>
      obtain rfl := Except.ok.inj read
      rfl
  | cons entry config ih =>
      obtain ⟨own, later, entered, rest, rfl⟩ := assignments_cons_ok.mp read
      rw [List.map_append, ← entryAssignments_mention entered, ← ih rest]
      rfl

theorem lastValue?_eq_finalValue? (read : assignments config = .ok all) (s : Section) (field : String)
    : lastValue? s field all = finalValue? s field config := by
  have named : ∀ a : Assignment, (Mention.names s field ∘ Assignment.mention) a
      = (a.owner == s && a.field == field) := by
    intro a
    rw [Bool.eq_iff_iff]
    simp [Mention.names, Assignment.mention]
  rw [finalValue?, assignments_mention read, List.filter_map, List.getLast?_map, Option.map_map,
    funext named, lastValue?, ← List.head?_filter, List.filter_reverse, List.head?_reverse]
  rfl

theorem assigned_eq_finalDraft (read : assignments config = .ok all) (s : Section)
    : assigned s all = finalDraft config s := by
  simp only [assigned, Draft.overlay, lastValue?_eq_finalValue? read]
  rfl

theorem entryAssignments_exists
    : (∃ own, entryAssignments key value = .ok own) ↔ Keyed (key, value) := by
  constructor
  · rintro ⟨own, read⟩
    rcases entryAssignments_ok read with ⟨t, table, rfl, rfl, tabled⟩ | ⟨t, field, known, rfl, -⟩
    · exact .table t table (tableAssignments_ok.mp ⟨own, tabled⟩)
    · exact .field t field known value
  · rintro (⟨t, table, named⟩ | ⟨t, field, known, _⟩)
    · rw [entryAssignments_table]
      exact tableAssignments_ok.mpr named
    · simp only [entryAssignments, ofName?_field known, ofField?_eq_some.mpr known]
      exact ⟨_, rfl⟩

/-- A configuration makes assignments exactly when every entry is keyed. -/
theorem assignments_exists
    : (∃ all, assignments config = .ok all) ↔ ∀ entry ∈ config, Keyed entry := by
  induction config with
  | nil => simp [assignments]
  | cons entry config ih =>
      obtain ⟨key, value⟩ := entry
      rw [List.forall_mem_cons, ← ih, ← entryAssignments_exists]
      simp only [assignments_cons_ok]
      constructor
      · rintro ⟨_, own, later, entered, rest, -⟩
        exact ⟨⟨own, entered⟩, later, rest⟩
      · rintro ⟨⟨own, entered⟩, later, rest⟩
        exact ⟨_, own, later, entered, rest, rfl⟩

-----------------------------------------------------------------------------------------
-- Acceptance
-----------------------------------------------------------------------------------------

variable {d : Drafts} {o : FormatOptions}

theorem Acceptable.fits (acceptable : Acceptable config) (read : assignments config = .ok all)
    (last : lastValue? s field all = some value)
    : Fits s field value := by
  have known : field ∈ s.fieldNames := known_of_assignments read _ (mem_of_lastValue? last)
  obtain ⟨entry, held, rfl⟩ := List.mem_map.mp known
  rw [lastValue?_eq_finalValue? read] at last
  exact (fits_iff held).mpr (acceptable.typed s entry held value last)

theorem Acceptable.typed_finalDraft (acceptable : Acceptable config) (s : Section)
    : (finalDraft config s).Typed s := by
  obtain ⟨all, read⟩ := assignments_exists.mpr acceptable.keyed
  rw [← assigned_eq_finalDraft read]
  exact typed_assigned fun _ _ last => acceptable.fits read last

/-- Just the acceptable configurations make drafts, those with the final values. -/
theorem ofMapping_ok_iff
    : Drafts.ofMapping config = .ok d
      ↔ Acceptable config ∧ ∀ s, d.draft s = finalDraft config s := by
  rw [Drafts.ofMapping_ok]
  constructor
  · rintro ⟨all, read, drafted⟩
    have outcome := fun s => draftOf_ok (known_of_assignments read) (drafted s)
    refine ⟨⟨assignments_exists.mp ⟨all, read⟩, fun s entry held value last => ?_, ?_⟩, fun s => ?_⟩
    · rw [← lastValue?_eq_finalValue? read] at last
      exact (fits_iff held).mp ((outcome s).1 entry.1 value last)
    · rw [← assigned_eq_finalDraft read]
      exact (Draft.check_writer_iff (typed_assigned (outcome .writer).1)).mp (outcome .writer).2.1
    · rw [(outcome s).2.2, assigned_eq_finalDraft read]
  · rintro ⟨acceptable, same⟩
    obtain ⟨all, read⟩ := assignments_exists.mpr acceptable.keyed
    refine ⟨all, read, fun s => ?_⟩
    rw [draftOf_eq_checked (known_of_assignments read) (fun _ _ last => acceptable.fits read last),
      Draft.checked_ok, same s, ← assigned_eq_finalDraft read]
    refine ⟨?_, rfl⟩
    by_cases writing : s = .writer
    · subst writing
      rw [assigned_eq_finalDraft read]
      exact (Draft.check_writer_iff (acceptable.typed_finalDraft .writer)).mpr acceptable.inRange
    · exact assigned_check writing

theorem Acceptable.exists_drafts (acceptable : Acceptable config)
    : ∃ d, Drafts.ofMapping config = .ok d ∧ ∀ s, d.draft s = finalDraft config s := by
  have same : ∀ s,
      (Drafts.mk (finalDraft config .reader) (finalDraft config .writer) (finalDraft config .spacing)).draft s
        = finalDraft config s := by
    intro s
    cases s <;> rfl
  exact ⟨_, ofMapping_ok_iff.mpr ⟨acceptable, same⟩, same⟩

theorem Acceptable.valuesOf_toOptions (acceptable : Acceptable config)
    (same : ∀ s, d.draft s = finalDraft config s) (s : Section)
    : valuesOf d.toOptions s = (finalDraft config s).values := by
  have typed : ∀ s, (d.draft s).Typed s := fun s => same s ▸ acceptable.typed_finalDraft s
  have writing : d.writer = finalDraft config .writer := same .writer
  rw [Drafts.valuesOf_toOptions typed (writing ▸ acceptable.inRange), same]

theorem optionsOf_eq_ok
    : optionsOf config = .ok o ↔ ∃ d, Drafts.ofMapping config = .ok d ∧ d.toOptions = o := by
  unfold optionsOf
  cases Drafts.ofMapping config <;> simp [Except.mapError, bind, Except.bind, pure, Except.pure]

/-- Options are known by their values, so a configuration makes those with its final values. -/
theorem optionsOf_ok_iff
    : optionsOf config = .ok o
      ↔ Acceptable config ∧ ∀ s, valuesOf o s = (finalDraft config s).values := by
  rw [optionsOf_eq_ok]
  constructor
  · rintro ⟨d, drafted, rfl⟩
    obtain ⟨acceptable, same⟩ := ofMapping_ok_iff.mp drafted
    exact ⟨acceptable, acceptable.valuesOf_toOptions same⟩
  · rintro ⟨acceptable, values⟩
    obtain ⟨d, drafted, same⟩ := acceptable.exists_drafts
    refine ⟨d, drafted, eq_of_valuesOf fun s => ?_⟩
    rw [values s, acceptable.valuesOf_toOptions same]

-----------------------------------------------------------------------------------------
-- Layouts
-----------------------------------------------------------------------------------------

/-- Two layouts of one configuration: with the keys in another order, or with options moved between the top
level and the tables of their sections. -/
inductive Relaid : Mapping → Mapping → Prop
  | order {config other : Mapping} (same : config.Perm other) : Relaid config other
  | orderWithin (s : Section) {table other : Mapping} (same : table.Perm other) (rest : Mapping)
    : Relaid ((.str s.name, .map table) :: rest) ((.str s.name, .map other) :: rest)
  | move (s : Section) (field : String) (known : field ∈ s.fieldNames) (value : Value)
      (table rest : Mapping)
    : Relaid ((.str field, value) :: (.str s.name, .map table) :: rest)
        ((.str s.name, .map ((.str field, value) :: table)) :: rest)
  | emptyTable (s : Section) (rest : Mapping) : Relaid ((.str s.name, .map []) :: rest) rest
  | symm {config other : Mapping} (same : Relaid config other) : Relaid other config
  | trans {config between other : Mapping} (first : Relaid config between) (second : Relaid between other)
    : Relaid config other

/-- An option moves into the table of its section also where there is none before. -/
theorem Relaid.intoTable (known : field ∈ s.fieldNames) (value : Value) (rest : Mapping)
    : Relaid ((.str field, value) :: rest) ((.str s.name, .map [(.str field, value)]) :: rest) := by
  have opened : Relaid ((.str field, value) :: rest) ((.str s.name, .map []) :: (.str field, value) :: rest) :=
    .symm (.emptyTable s _)
  have ahead : Relaid ((.str s.name, .map []) :: (.str field, value) :: rest)
      ((.str field, value) :: (.str s.name, .map []) :: rest) :=
    .order (.swap ..)
  exact .trans opened (.trans ahead (.move s field known value [] rest))

/-- A configuration that mentions no field twice. -/
def MentionsOnce (config : Mapping) : Prop :=
  ∀ s, ∀ field ∈ Section.fieldNames s, ((mentions config).filter (Mention.names s field)).length ≤ 1

theorem mentions_cons (entry : Scalar × Value) (config : Mapping)
    : mentions (entry :: config) = mentionsIn entry ++ mentions config :=
  List.flatMap_cons

/-- Another layout mentions the same, if in another order. -/
theorem Relaid.mentions_perm (same : Relaid config other)
    : (mentions config).Perm (mentions other) := by
  induction same with
  | order same => exact same.flatMap_right mentionsIn
  | orderWithin s same rest =>
      rw [mentions_cons, mentions_cons, mentionsIn_table, mentionsIn_table]
      exact (same.map _).append_right _
  | move s field known value table rest =>
      rw [mentions_cons, mentions_cons, mentions_cons, mentionsIn_table, mentionsIn_table,
        mentionsIn_field known]
      exact .refl _
  | emptyTable s rest =>
      rw [mentions_cons, mentionsIn_table]
      exact .refl _
  | symm _ ih => exact ih.symm
  | trans _ _ first second => exact first.trans second

/-- Where a field is mentioned once, its final value does not depend on the order. -/
theorem MentionsOnce.finalValue? (once : MentionsOnce config) (same : (mentions config).Perm (mentions other))
    (known : field ∈ s.fieldNames)
    : finalValue? s field other = finalValue? s field config := by
  have few := once s field known
  have named := same.filter (Mention.names s field)
  unfold Settings.finalValue?
  generalize (mentions config).filter (Mention.names s field) = mine at few named
  match mine with
  | [] => rw [named.nil_eq]
  | [m] => rw [List.singleton_perm.mp named]
  | _ :: _ :: _ => simp at few

theorem MentionsOnce.finalDraft (once : MentionsOnce config) (same : (mentions config).Perm (mentions other))
    (s : Section)
    : finalDraft other s = finalDraft config s := by
  simp only [Settings.finalDraft, Draft.mk.injEq, true_and]
  refine List.map_congr_left fun entry held => ?_
  rw [once.finalValue? same (List.mem_map_of_mem held)]

theorem MentionsOnce.acceptable_iff (once : MentionsOnce config)
    (same : (mentions config).Perm (mentions other))
    : Acceptable other ↔ Acceptable config := by
  have keyed : (∀ entry ∈ other, Keyed entry) ↔ ∀ entry ∈ config, Keyed entry := by
    simp only [keyed_iff_mentions, same.mem_iff]
  have final : ∀ s, ∀ entry ∈ Section.fields s,
      Settings.finalValue? s entry.1 other = Settings.finalValue? s entry.1 config :=
    fun s entry held => once.finalValue? same (List.mem_map_of_mem held)
  constructor
  · rintro ⟨named, typed, range⟩
    refine ⟨keyed.mp named, fun s entry held value last => ?_, once.finalDraft same .writer ▸ range⟩
    exact typed s entry held value ((final s entry held).trans last)
  · rintro ⟨named, typed, range⟩
    refine ⟨keyed.mpr named, fun s entry held value last => ?_, (once.finalDraft same .writer).symm ▸ range⟩
    exact typed s entry held value ((final s entry held).symm.trans last)

/-- Where no field is mentioned twice, another layout makes the same options. -/
theorem MentionsOnce.optionsOf (once : MentionsOnce config) (relaid : Relaid config other)
    : (Settings.optionsOf other).toOption = (Settings.optionsOf config).toOption := by
  have same := relaid.mentions_perm
  have either (o : FormatOptions) : Settings.optionsOf other = .ok o ↔ Settings.optionsOf config = .ok o := by
    simp only [optionsOf_ok_iff, once.acceptable_iff same, once.finalDraft same]
  refine Option.ext fun o => ⟨fun held => ?_, fun held => ?_⟩
  · rw [(either o).mp (ok_of_toOption held)]
    rfl
  · rw [(either o).mpr (ok_of_toOption held)]
    rfl

end MixedScript.Settings
