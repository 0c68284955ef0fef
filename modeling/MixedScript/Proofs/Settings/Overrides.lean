import MixedScript.Proofs.Settings.Fields

/-! Tables of sections laid over a configuration. A value that is laid over a field counts, unless the
configuration gives the field a value at the top level behind the table of its section: keys of the
configuration keep their places, and the last value in order counts. -/

namespace MixedScript.Settings

variable {s : Section} {field : String} {value : Value} {all own : List Assignment}
  {config table : Mapping} {key : Scalar}

-----------------------------------------------------------------------------------------
-- Sections
-----------------------------------------------------------------------------------------

theorem ofName?_name (s : Section)
    : Section.ofName? s.name = some s := by
  cases s <;> decide

theorem ofName?_eq_some {name : String}
    : Section.ofName? name = some s ↔ name = s.name := by
  constructor
  · intro found
    unfold Section.ofName? at found
    have named := List.find?_some found
    exact (beq_iff_eq.mp named).symm
  · rintro rfl
    exact ofName?_name s

/-- A field is known by its name alone. -/
theorem ofField?_eq_some
    : Section.ofField? field = some s ↔ field ∈ s.fieldNames := by
  constructor
  · intro found
    simpa using List.find?_some found
  · have each : ∀ s ∈ Section.all, ∀ field ∈ s.fieldNames, Section.ofField? field = some s := by
      decide
    exact each s (by cases s <;> decide) field

/-- No field has the name of a section. -/
theorem name_ne_field (s t : Section) (h : field ∈ t.fieldNames)
    : s.name ≠ field := by
  have each : ∀ s ∈ Section.all, ∀ t ∈ Section.all, ∀ field ∈ t.fieldNames, s.name ≠ field := by
    decide
  exact each s (by cases s <;> decide) t (by cases t <;> decide) field h

theorem fieldNames_nodup (s : Section)
    : s.fieldNames.Nodup := by
  cases s <;> decide

theorem sameKey_name (s t : Section)
    : (Scalar.str s.name).sameKey (.str t.name) = decide (s = t) := by
  cases s <;> cases t <;> decide

theorem sameKey_name_field (s t : Section) (h : field ∈ t.fieldNames)
    : (Scalar.str s.name).sameKey (.str field) = false :=
  Scalar.sameKey_ne (name_ne_field s t h)

-----------------------------------------------------------------------------------------
-- Tables
-----------------------------------------------------------------------------------------

/-- A table that names nothing but fields of a section. -/
def NamesFields (s : Section) (table : Mapping) : Prop :=
  ∀ entry ∈ table, ∃ field ∈ s.fieldNames, entry.1 = .str field

theorem tableAssignments_cons_ok
    : tableAssignments s ((key, value) :: table) = .ok own
      ↔ ∃ field ∈ s.fieldNames, key = .str field
          ∧ ∃ later, tableAssignments s table = .ok later ∧ own = ⟨s, field, value⟩ :: later := by
  cases key with
  | str x =>
      by_cases known : x ∈ s.fieldNames
      · simp only [tableAssignments, List.contains_eq_mem, known, decide_true, if_true, bind_eq_ok]
        constructor
        · rintro ⟨later, rest, made⟩
          exact ⟨x, known, rfl, later, rest, (Except.ok.inj made).symm⟩
        · rintro ⟨_, -, named, later, rest, rfl⟩
          obtain rfl := Scalar.str.inj named
          exact ⟨later, rest, rfl⟩
      · simp [tableAssignments, known]
  | null | bool | int | float | date | bytes => simp [tableAssignments]

theorem tableAssignments_ok
    : (∃ own, tableAssignments s table = .ok own) ↔ NamesFields s table := by
  induction table with
  | nil => simp [tableAssignments, NamesFields]
  | cons entry table ih =>
      obtain ⟨key, value⟩ := entry
      have step : NamesFields s ((key, value) :: table)
          ↔ (∃ field ∈ s.fieldNames, key = .str field) ∧ NamesFields s table := by
        simp [NamesFields]
      rw [step, ← ih]
      constructor
      · rintro ⟨own, read⟩
        obtain ⟨field, known, named, later, rest, -⟩ := tableAssignments_cons_ok.mp read
        exact ⟨⟨field, known, named⟩, later, rest⟩
      · rintro ⟨⟨field, known, named⟩, later, rest⟩
        exact ⟨_, tableAssignments_cons_ok.mpr ⟨field, known, named, later, rest, rfl⟩⟩

/-- A table without a key that stands twice gives each field what stands under its name. -/
theorem lastValue?_table (unique : table.Unique) (read : tableAssignments s table = .ok own)
    : lastValue? s field own = table.get? (.str field) := by
  induction table generalizing own with
  | nil =>
      obtain rfl := Except.ok.inj read
      rfl
  | cons entry table ih =>
      obtain ⟨key, value⟩ := entry
      obtain ⟨name, -, rfl, later, rest, rfl⟩ := tableAssignments_cons_ok.mp read
      have tail := ih unique.tail rest
      rw [← List.singleton_append, lastValue?_append, lastValue?_single, tail]
      by_cases here : name = field
      · subst here
        have same : (Scalar.str name).sameKey (.str name) = true := Scalar.sameKey_str.mpr rfl
        simp [Mapping.get?_cons_same same, unique.get?_tail same]
      · simp [Mapping.get?_cons_other (Scalar.sameKey_ne here), here]

theorem tableAssignments_owner (read : tableAssignments s table = .ok own)
    : ∀ a ∈ own, a.owner = s ∧ a.field ∈ s.fieldNames := by
  induction table generalizing own with
  | nil =>
      obtain rfl := Except.ok.inj read
      simp
  | cons entry table ih =>
      obtain ⟨name, known, -, later, rest, rfl⟩ := tableAssignments_cons_ok.mp read
      intro a held
      rcases List.mem_cons.mp held with rfl | held
      · exact ⟨rfl, known⟩
      · exact ih rest a held

theorem lastValue?_otherTable {t : Section} (read : tableAssignments t table = .ok own) (other : s ≠ t)
    : lastValue? s field own = none := by
  refine lastValue?_eq_none.mpr fun a held ⟨named, _⟩ => ?_
  exact other (named ▸ (tableAssignments_owner read a held).1)

theorem NamesFields.merge {above : Mapping} (below : NamesFields s table) (plain : above.Plain)
    (named : NamesFields s above)
    : NamesFields s (table.merge above) := by
  induction above generalizing table with
  | nil => exact below
  | cons entry above ih =>
      obtain ⟨key, value⟩ := entry
      rw [plain.merge_cons]
      refine ih ?_ (fun e held => plain e (List.mem_cons_of_mem _ held))
        (fun e held => named e (List.mem_cons_of_mem _ held))
      rcases table.insert_cases key value with ⟨-, added⟩ | ⟨before, k, old, after, rfl, -, -, -, put⟩
      · rw [added]
        intro e held
        rcases List.mem_append.mp held with held | held
        · exact below e held
        · obtain rfl := List.mem_singleton.mp held
          exact named _ (by simp)
      · rw [put]
        intro e held
        have kept := below (k, old) (by simp)
        simp only [List.mem_append, List.mem_cons] at held
        rcases held with held | rfl | held
        · exact below e (by simp [held])
        · exact kept
        · exact below e (by simp [held])

-----------------------------------------------------------------------------------------
-- Entries of a configuration
-----------------------------------------------------------------------------------------

/-- An entry is the table of a section, or a field at the top level. -/
theorem entryAssignments_ok (read : entryAssignments key value = .ok own)
    : (∃ t table, key = .str (Section.name t) ∧ value = .map table ∧ tableAssignments t table = .ok own)
      ∨ ∃ t : Section, ∃ field ∈ t.fieldNames, key = .str field ∧ own = [⟨t, field, value⟩] := by
  unfold entryAssignments at read
  split at read
  · next name =>
      split at read
      · next t found =>
          split at read
          · next table => exact .inl ⟨t, table, by rw [ofName?_eq_some.mp found], rfl, read⟩
          · cases read
      · split at read
        · next t found =>
            refine .inr ⟨t, name, ofField?_eq_some.mp found, rfl, (Except.ok.inj read).symm⟩
        · cases read
  · cases read

theorem entryAssignments_table (t : Section) (table : Mapping)
    : entryAssignments (.str t.name) (.map table) = tableAssignments t table := by
  simp only [entryAssignments, ofName?_name]

/-- The assignments of a configuration are to fields of their sections. -/
theorem known_of_assignments (read : assignments config = .ok all)
    : Known all := by
  induction config generalizing all with
  | nil =>
      obtain rfl := Except.ok.inj read
      exact fun a held => by cases held
  | cons entry config ih =>
      obtain ⟨own, later, entered, rest, rfl⟩ := assignments_cons_ok.mp read
      intro a held
      rcases List.mem_append.mp held with held | held
      · rcases entryAssignments_ok entered with ⟨t, table, -, -, tabled⟩ | ⟨t, field, known, -, rfl⟩
        · obtain ⟨rfl, known⟩ := tableAssignments_owner tabled a held
          exact known
        · obtain rfl := List.mem_singleton.mp held
          exact known
      · exact ih rest a held

/-- Where a configuration has no table of a section, its fields stand at the top level. -/
theorem lastValue?_flat (unique : config.Unique) (read : assignments config = .ok all)
    (untabled : config.get? (.str s.name) = none) (known : field ∈ s.fieldNames)
    : lastValue? s field all = config.get? (.str field) := by
  induction config generalizing all with
  | nil =>
      obtain rfl := Except.ok.inj read
      rfl
  | cons entry config ih =>
      obtain ⟨key, value⟩ := entry
      obtain ⟨own, later, entered, rest, rfl⟩ := assignments_cons_ok.mp read
      have apart := Mapping.get?_eq_none.mp untabled (key, value) (by simp)
      rw [Mapping.get?_cons_other apart] at untabled
      rw [lastValue?_append, ih unique.tail rest untabled]
      rcases entryAssignments_ok entered with ⟨t, table, rfl, rfl, tabled⟩ | ⟨t, name, named, rfl, rfl⟩
      · have other : s ≠ t := by
          rintro rfl
          simp [sameKey_name] at apart
        rw [lastValue?_otherTable tabled other, Option.or_none,
          Mapping.get?_cons_other (sameKey_name_field t s known)]
      · rw [lastValue?_single]
        by_cases here : name = field
        · subst here
          obtain rfl := Option.some.inj
            ((ofField?_eq_some.mpr named).symm.trans (ofField?_eq_some.mpr known))
          have same : (Scalar.str name).sameKey (.str name) = true := Scalar.sameKey_str.mpr rfl
          simp [Mapping.get?_cons_same same, unique.get?_tail same]
        · simp [Mapping.get?_cons_other (Scalar.sameKey_ne here), here]

-----------------------------------------------------------------------------------------
-- One table laid over
-----------------------------------------------------------------------------------------

/-- Whether a field stands at the top level of a configuration behind the table of its section. -/
def standsBehindTable (s : Section) (field : String) : Mapping → Bool
  | [] => false
  | (key, _) :: rest =>
    if key.sameKey (.str s.name) then (Mapping.get? (.str field) rest).isSome
    else standsBehindTable s field rest

theorem standsBehindTable_split {before after : Mapping}
    (ahead : before.get? (.str s.name) = none) (here : key.sameKey (.str s.name) = true)
    : standsBehindTable s field (before ++ (key, value) :: after)
      = (after.get? (.str field)).isSome := by
  induction before with
  | nil => simp only [List.nil_append, standsBehindTable, here, if_true]
  | cons entry before ih =>
      have apart := Mapping.get?_eq_none.mp ahead entry (by simp)
      rw [Mapping.get?_cons_other apart] at ahead
      simp only [List.cons_append, standsBehindTable, apart, Bool.false_eq_true, if_false, ih ahead]

theorem standsBehindTable_untabled (untabled : config.get? (.str s.name) = none)
    : standsBehindTable s field config = false := by
  induction config with
  | nil => rfl
  | cons entry config ih =>
      have apart := Mapping.get?_eq_none.mp untabled entry (by simp)
      rw [Mapping.get?_cons_other apart] at untabled
      simp only [standsBehindTable, apart, Bool.false_eq_true, if_false, ih untabled]

/-- The table of one section moves no field of another. -/
theorem standsBehindTable_insert {t : Section} (other : t ≠ s) (known : field ∈ s.fieldNames)
    (value : Value) (config : Mapping)
    : standsBehindTable s field (config.insert (.str t.name) value)
      = standsBehindTable s field config := by
  have apart : (Scalar.str t.name).sameKey (.str s.name) = false := by simp [sameKey_name, other]
  induction config with
  | nil => simp [Mapping.insert, standsBehindTable, apart]
  | cons entry config ih =>
      obtain ⟨key, old⟩ := entry
      cases here : key.sameKey (.str t.name) with
      | true =>
          have elsewhere : key.sameKey (.str s.name) = false := by
            rw [Scalar.sameKey_congr here, apart]
          simp [Mapping.insert, standsBehindTable, here, elsewhere]
      | false =>
          have kept : Mapping.get? (.str field) (Mapping.insert (.str t.name) value config)
              = Mapping.get? (.str field) config := by
            rw [Mapping.get?_insert, sameKey_name_field t s known]
            rfl
          simp only [Mapping.insert, here, Bool.false_eq_true, if_false, standsBehindTable, kept, ih]

/-- No key stands twice in a configuration, nor in the table of a section. -/
structure Genuine (config : Mapping) : Prop where
  unique : config.Unique
  tables
    : ∀ (s : Section) (table : Mapping),
        config.get? (.str s.name) = some (.map table) → table.Unique

/-- A table that can be laid over the one of a section. -/
structure Layable (s : Section) (table : Mapping) : Prop where
  plain : table.Plain
  unique : table.Unique
  named : NamesFields s table

theorem Genuine.mergeTable (h : Genuine config) (layable : Layable s table)
    : Genuine (config.merge [(.str s.name, .map table)]) := by
  rw [Mapping.merge_cons, Mapping.merge]
  refine ⟨h.unique.insert .., fun t inner found => ?_⟩
  rw [Mapping.get?_insert, sameKey_name] at found
  by_cases same : s = t
  · subst same
    simp only [decide_true, if_true, Option.some.injEq] at found
    cases held : config.get? (.str s.name) with
    | none =>
        rw [held, Mapping.mergeValue] at found
        · exact Value.map.inj found ▸ layable.unique
        · simp
    | some below =>
        cases below with
        | map below =>
            rw [held, Mapping.mergeValue] at found
            exact Value.map.inj found ▸ (h.tables s below held).merge layable.plain
        | scalar | list | set =>
            rw [held, Mapping.mergeValue] at found
            · exact Value.map.inj found ▸ layable.unique
            · simp
  · simp only [same, decide_false, Bool.false_eq_true, if_false] at found
    exact h.tables t inner found

/-- What a table laid over its section assigns: its values, but for fields that stand behind. -/
theorem assignments_mergeTable (h : Genuine config) (layable : Layable s table)
    (read : assignments config = .ok all)
    : ∃ all',
        assignments (config.merge [(.str s.name, .map table)]) = .ok all'
        ∧ ∀ t, ∀ field ∈ Section.fieldNames t,
            lastValue? t field all'
            = (if t = s ∧ standsBehindTable s field config = false then table.get? (.str field)
                else none).or (lastValue? t field all) := by
  rw [Mapping.merge_cons, Mapping.merge]
  obtain ⟨own, tabled⟩ := tableAssignments_ok.mpr layable.named
  -- The table goes behind everything, or into the place of the one that is there.
  rcases config.insert_cases (.str s.name) (Mapping.mergeValue (config.get? (.str s.name)) (.map table))
    with ⟨absent, added⟩ | ⟨before, k, old, after, rfl, here, ahead, found, put⟩
  · have entered : entryAssignments (.str s.name) (.map table) = .ok own := by
      rw [entryAssignments_table, tabled]
    have laid : Mapping.mergeValue none (.map table) = .map table := by
      rw [Mapping.mergeValue]
      simp
    rw [absent, laid] at added
    rw [absent, laid, added]
    refine ⟨all ++ own, ?_, fun t field known => ?_⟩
    · refine assignments_append_ok.mpr ⟨all, own, read, ?_, rfl⟩
      exact assignments_cons_ok.mpr ⟨own, [], entered, rfl, by simp⟩
    · rw [lastValue?_append, standsBehindTable_untabled absent]
      by_cases same : t = s
      · subst same
        simp [lastValue?_table layable.unique tabled]
      · simp [lastValue?_otherTable tabled same, same]
  · obtain rfl := Scalar.sameKey_str.mp here
    obtain ⟨first, _, readBefore, readRest, rfl⟩ := assignments_append_ok.mp read
    obtain ⟨below, later, entered, readAfter, rfl⟩ := assignments_cons_ok.mp readRest
    obtain ⟨inner, rfl, tabledBelow⟩
        : ∃ inner, old = .map inner ∧ tableAssignments s inner = .ok below := by
      rcases entryAssignments_ok entered with ⟨t, inner, named, rfl, tabled⟩ | ⟨t, field, known, named, -⟩
      · have same := sameKey_name s t
        rw [← named, Scalar.sameKey_str.mpr rfl] at same
        obtain rfl := of_decide_eq_true same.symm
        exact ⟨inner, rfl, tabled⟩
      · exact absurd (Scalar.str.inj named) (name_ne_field s t known)
    have laid : Mapping.mergeValue (some (.map inner)) (.map table) = .map (Mapping.merge inner table) := by
      rw [Mapping.mergeValue]
    rw [found, laid] at put
    rw [found, laid, put]
    have uniqueInner : Mapping.Unique inner := h.tables s inner found
    have namesInner : NamesFields s inner := tableAssignments_ok.mp ⟨below, tabledBelow⟩
    obtain ⟨own', tabled'⟩ := tableAssignments_ok.mpr (namesInner.merge layable.plain layable.named)
    have uniqueRest : Mapping.Unique ((.str s.name, .map inner) :: after) :=
      (List.pairwise_append.mp h.unique).2.1
    have untabled : Mapping.get? (.str s.name) after = none := uniqueRest.get?_tail here
    refine ⟨first ++ (own' ++ later), ?_, fun t field known => ?_⟩
    · refine assignments_append_ok.mpr ⟨first, _, readBefore, ?_, rfl⟩
      refine assignments_cons_ok.mpr ⟨own', later, ?_, readAfter, rfl⟩
      rw [entryAssignments_table, tabled']
    · simp only [lastValue?_append, standsBehindTable_split ahead here]
      by_cases same : t = s
      · subst same
        have flat := lastValue?_flat uniqueRest.tail readAfter untabled known
        have merged : Mapping.get? (.str field) (Mapping.merge inner table)
            = (table.get? (.str field)).or (Mapping.get? (.str field) inner) :=
          Mapping.get?_merge layable.plain layable.unique
        rw [flat, lastValue?_table (uniqueInner.merge layable.plain) tabled', merged,
          lastValue?_table uniqueInner tabledBelow]
        cases Mapping.get? (.str field) after <;> simp [Option.or_assoc]
      · simp [lastValue?_otherTable tabled' same, lastValue?_otherTable tabledBelow same, same]

-----------------------------------------------------------------------------------------
-- Tables of several sections laid over
-----------------------------------------------------------------------------------------

variable {tables : Section → Mapping} {d : Drafts}

/-- The tables of sections as a configuration, without those that are empty. -/
def tablesOf (tables : Section → Mapping) (sections : List Section) : Mapping :=
  sections.filterMap (fun s =>
    if (tables s).isEmpty then none else some (.str s.name, .map (tables s)))

/-- The value of a table for a field that counts over a configuration. -/
def heeded (tables : Section → Mapping) (config : Mapping) (s : Section) (field : String)
    : Option Value :=
  if standsBehindTable s field config then none else (tables s).get? (.str field)

/-- What tables laid over a configuration assign, section after section. -/
theorem assignments_mergeTables (h : Genuine config) (layable : ∀ s, Layable s (tables s))
    {sections : List Section} (distinct : sections.Nodup) (read : assignments config = .ok all)
    : ∃ all',
        assignments (config.merge (tablesOf tables sections)) = .ok all'
        ∧ ∀ t ∈ sections, ∀ field ∈ Section.fieldNames t,
            lastValue? t field all' = (heeded tables config t field).or (lastValue? t field all)
        := by
  have each
      : ∃ all',
          assignments (config.merge (tablesOf tables sections)) = .ok all'
          ∧ ∀ t, ∀ field ∈ Section.fieldNames t,
              lastValue? t field all'
              = (if t ∈ sections then heeded tables config t field else none).or
                  (lastValue? t field all) := by
    -- By induction on the sections: a table that has been laid over moves no field of another.
    induction sections generalizing config all with
    | nil => exact ⟨all, by rwa [tablesOf, List.filterMap_nil, Mapping.merge], by simp⟩
    | cons s sections ih =>
        obtain ⟨apart, distinct⟩ := List.nodup_cons.mp distinct
        by_cases empty : tables s = []
        · have skipped : tablesOf tables (s :: sections) = tablesOf tables sections := by
            simp [tablesOf, empty]
          obtain ⟨all', read', last⟩ := ih h distinct read
          refine ⟨all', by rw [skipped, read'], fun t field known => ?_⟩
          rw [last t field known]
          by_cases same : t = s
          · subst same
            simp [apart, heeded, empty, Mapping.get?]
          · simp [same]
        · have laid : config.merge (tablesOf tables (s :: sections))
              = Mapping.merge (config.merge [(.str s.name, .map (tables s))])
                  (tablesOf tables sections) := by
            simp [tablesOf, empty, Mapping.merge_cons, Mapping.merge]
          obtain ⟨mid, readMid, lastMid⟩ := assignments_mergeTable h (layable s) read
          obtain ⟨all', read', last⟩ := ih (h.mergeTable (layable s)) distinct readMid
          refine ⟨all', by rw [laid, read'], fun t field known => ?_⟩
          rw [last t field known, lastMid t field known]
          by_cases same : t = s
          · subst same
            cases behind : standsBehindTable t field config <;> simp [apart, heeded, behind]
          · have kept := standsBehindTable_insert (Ne.symm same) known
              (Mapping.mergeValue (config.get? (.str s.name)) (.map (tables s))) config
            simp [same, heeded, Mapping.merge, kept]
  obtain ⟨all', read', last⟩ := each
  refine ⟨all', read', fun t asked field known => ?_⟩
  rw [last t field known, if_pos asked]

/-- The draft of a section. -/
def Drafts.draft (d : Drafts) : Section → Draft
  | .reader => d.reader
  | .writer => d.writer
  | .spacing => d.spacing

/-- Drafts with values laid over those of their fields. -/
def Drafts.overlay (d : Drafts) (f : Section → String → Option Value) : Drafts :=
  ⟨d.reader.overlay (f .reader), d.writer.overlay (f .writer), d.spacing.overlay (f .spacing)⟩

theorem Drafts.draft_overlay (d : Drafts) (f : Section → String → Option Value) (s : Section)
    : (d.overlay f).draft s = (d.draft s).overlay (f s) := by
  cases s <;> rfl

theorem Drafts.ofMapping_ok
    : Drafts.ofMapping config = .ok d
      ↔ ∃ all, assignments config = .ok all ∧ ∀ s, draftOf s all = .ok (d.draft s) := by
  obtain ⟨reader, writer, spacing⟩ := d
  simp only [ofMapping, bind_eq_ok, pure, Except.pure, Except.ok.injEq, mk.injEq]
  constructor
  · rintro ⟨all, read, _, r, _, w, _, p, rfl, rfl, rfl⟩
    refine ⟨all, read, fun s => ?_⟩
    cases s with
    | reader => exact r
    | writer => exact w
    | spacing => exact p
  · rintro ⟨all, read, each⟩
    exact ⟨all, read, _, each .reader, _, each .writer, _, each .spacing, rfl, rfl, rfl⟩

theorem assigned_fields (s : Section) (all : List Assignment)
    : (assigned s all).values.map Prod.fst = s.fieldNames := by
  simp [assigned, Draft.overlay, Draft.default, Section.fieldNames]

theorem fields_of_ofMapping (accepted : Drafts.ofMapping config = .ok d) (s : Section)
    : (d.draft s).values.map Prod.fst = s.fieldNames := by
  obtain ⟨all, read, drafted⟩ := Drafts.ofMapping_ok.mp accepted
  obtain ⟨-, -, made⟩ := draftOf_ok (known_of_assignments read) (drafted s)
  rw [made, assigned_fields]

theorem owner_of_ofMapping (accepted : Drafts.ofMapping config = .ok d) (s : Section)
    : (d.draft s).owner = s := by
  obtain ⟨all, read, drafted⟩ := Drafts.ofMapping_ok.mp accepted
  obtain ⟨-, -, made⟩ := draftOf_ok (known_of_assignments read) (drafted s)
  rw [made]
  rfl

/-- Only the options for writing can be rejected for their values. -/
theorem assigned_check (other : s ≠ .writer)
    : (assigned s all).check = .ok () := by
  cases s with
  | writer => exact absurd rfl other
  | reader | spacing => rfl

/-- Tables laid over a configuration lay their values over its drafts, as far as they are heeded. -/
theorem ofMapping_mergeTables (h : Genuine config) (layable : ∀ s, Layable s (tables s))
    (fit : ∀ s, ∀ field ∈ s.fieldNames, ∀ value,
      (tables s).get? (.str field) = some value → Fits s field value)
    (sections : List Section) (distinct : sections.Nodup) (complete : ∀ s, s ∈ sections)
    (accepted : Drafts.ofMapping config = .ok d)
    : Drafts.ofMapping (config.merge (tablesOf tables sections))
      = (d.overlay (heeded tables config)).writer.checked.map
          (fun _ => d.overlay (heeded tables config)) := by
  obtain ⟨all, read, drafted⟩ := Drafts.ofMapping_ok.mp accepted
  obtain ⟨all', read', last⟩ := assignments_mergeTables h layable distinct read
  have known' := known_of_assignments read'
  have before := fun s => draftOf_ok (known_of_assignments read) (drafted s)
  have fits : ∀ s field value, lastValue? s field all' = some value → Fits s field value := by
    intro s field value held
    have known : field ∈ s.fieldNames := known' _ (mem_of_lastValue? held)
    rw [last s (complete s) field known] at held
    rcases Option.or_eq_some_iff.mp held with above | ⟨-, below⟩
    · unfold heeded at above
      split at above
      · cases above
      · exact fit s field known value above
    · exact (before s).1 field value below
  have laid : ∀ s, assigned s all' = (d.overlay (heeded tables config)).draft s := by
    intro s
    rw [Drafts.draft_overlay, (before s).2.2]
    unfold assigned
    rw [Draft.overlay_overlay]
    exact Draft.overlay_congr fun field known => last s (complete s) field known
  have drafts : ∀ s, draftOf s all' = ((d.overlay (heeded tables config)).draft s).checked := by
    intro s
    rw [draftOf_eq_checked known' (fits s), laid]
  have accept : ∀ s ≠ .writer,
      draftOf s all' = .ok ((d.overlay (heeded tables config)).draft s) := by
    intro s other
    rw [drafts, Draft.checked_ok]
    exact ⟨laid s ▸ assigned_check other, rfl⟩
  rw [Drafts.ofMapping, read']
  simp only [bind, Except.bind, accept .reader (by simp), accept .spacing (by simp)]
  have writer : draftOf .writer all' = (d.overlay (heeded tables config)).writer.checked :=
    drafts .writer
  rw [writer]
  cases outcome : (d.overlay (heeded tables config)).writer.checked with
  | error r => rfl
  | ok e =>
      obtain rfl := (Draft.checked_ok.mp outcome).2
      rfl

end MixedScript.Settings
