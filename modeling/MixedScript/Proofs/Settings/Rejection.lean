import MixedScript.Proofs.Settings.Acceptance

/-! What comes of a configuration that is not accepted: an error of validation, unless the first entry that is not
keyed has a key without a text. The message that is made about such a key fails itself. -/

namespace MixedScript.Settings

variable {s : Section} {value : Value} {config table : Mapping} {key : Scalar} {entry : Scalar × Value}
  {all : List Assignment} {r : Rejection} {m : Mishap}

/-- An entry that is rejected for a key without a text, an integer with too many digits: its own, or the first
one in the table of a section that is no field. -/
inductive StumblesAt : Scalar × Value → Prop
  | key {i : Int} (overlong : Text.isOverlong i = true) (value : Value) : StumblesAt (.int i, value)
  | inTable (s : Section) (before : Mapping) {i : Int} (named : NamesFields s before)
    (overlong : Text.isOverlong i = true) (value : Value) (after : Mapping)
    : StumblesAt (.str s.name, .map (before ++ (.int i, value) :: after))

/-- A configuration in which the first entry that is not keyed is rejected for a key without a text. -/
def StumblesOnKey (config : Mapping) : Prop :=
  ∃ before entry after,
    config = before ++ entry :: after
    ∧ (∀ earlier ∈ before, Keyed earlier)
    ∧ StumblesAt entry

-----------------------------------------------------------------------------------------
-- Messages
-----------------------------------------------------------------------------------------

theorem hasText_eq_false
    : key.hasText = false ↔ ∃ i, key = .int i ∧ Text.isOverlong i = true := by
  cases key <;> simp [Scalar.hasText]

theorem keyText_eq_error
    : keyText key = .error m
      ↔ m = Text.tooManyDigits none ∧ ∃ i, key = .int i ∧ Text.isOverlong i = true := by
  rw [← hasText_eq_false]
  unfold keyText
  split
  · exact iff_of_false nofun (by simp [Scalar.hasText])
  · exact iff_of_false nofun (by simp [Scalar.hasText])
  · cases text : key.hasText with
    | true => exact iff_of_false nofun (by simp)
    | false =>
        rw [if_neg Bool.false_ne_true, Except.error.injEq, eq_comm]
        exact (and_iff_left rfl).symm

/-- A rejection cannot be told only if it is for a key without a text. -/
theorem Rejection.toProblem_outside
    : r.toProblem = .outside m
      ↔ m = Text.tooManyDigits none
        ∧ ∃ i, Text.isOverlong i = true ∧ (r = .unknown (.int i) ∨ ∃ s, r = .unknownIn s (.int i)) := by
  have either
      : r.toProblem = .outside m
        ↔ ∃ key, keyText key = .error m ∧ (r = .unknown key ∨ ∃ s, r = .unknownIn s key) := by
    cases r with
    | unknown key | unknownIn s key => cases told : keyText key <;> simp [toProblem, told]
    | _ => simp [toProblem]
  simp only [either, keyText_eq_error]
  constructor
  · rintro ⟨_, ⟨rfl, i, rfl, overlong⟩, unknown⟩
    exact ⟨rfl, i, overlong, unknown⟩
  · rintro ⟨rfl, i, overlong, unknown⟩
    exact ⟨_, ⟨rfl, i, rfl, overlong⟩, unknown⟩

theorem Rejection.toProblem_own {e : Error} (told : r.toProblem = .own e)
    : e.category = .validation := by
  cases r with
  | unknown key | unknownIn s key =>
      simp only [toProblem] at told
      split at told <;> cases told
      rfl
  | _ =>
      cases told
      rfl

-----------------------------------------------------------------------------------------
-- The first key that is not known
-----------------------------------------------------------------------------------------

/-- What stops a walk through a list stands at its head, or in the rest if the head is passed. -/
theorem exists_split_cons {α : Type} {Passed Stops : α → Prop} {x : α} {xs : List α}
    : (∃ before y after, x :: xs = before ++ y :: after ∧ (∀ z ∈ before, Passed z) ∧ Stops y)
      ↔ Stops x
        ∨ Passed x ∧ ∃ before y after, xs = before ++ y :: after ∧ (∀ z ∈ before, Passed z) ∧ Stops y := by
  constructor
  · rintro ⟨_ | ⟨first, before⟩, y, after, split, passed, stops⟩
    · obtain ⟨rfl, rfl⟩ := List.cons.inj split
      exact .inl stops
    · obtain ⟨rfl, rfl⟩ := List.cons.inj split
      obtain ⟨here, passed⟩ := List.forall_mem_cons.mp passed
      exact .inr ⟨here, before, y, after, rfl, passed, stops⟩
  · rintro (stops | ⟨here, before, y, after, rfl, passed, stops⟩)
    · exact ⟨[], x, xs, rfl, by simp, stops⟩
    · exact ⟨x :: before, y, after, rfl, List.forall_mem_cons.mpr ⟨here, passed⟩, stops⟩

theorem tableAssignments_cons_error
    : tableAssignments s (entry :: table) = .error r
      ↔ ((∀ field ∈ s.fieldNames, entry.1 ≠ .str field) ∧ r = .unknownIn s entry.1)
        ∨ (∃ field ∈ s.fieldNames, entry.1 = .str field) ∧ tableAssignments s table = .error r := by
  obtain ⟨key, value⟩ := entry
  by_cases known : ∃ field ∈ s.fieldNames, key = .str field
  · obtain ⟨field, held, rfl⟩ := known
    have passed : tableAssignments s ((.str field, value) :: table) = .error r
        ↔ tableAssignments s table = .error r := by
      simp [tableAssignments, held, map_eq_error]
    rw [passed]
    constructor
    · exact fun later => .inr ⟨⟨field, held, rfl⟩, later⟩
    · rintro (⟨unknown, -⟩ | ⟨-, later⟩)
      · exact absurd rfl (unknown field held)
      · exact later
  · have unknown : ∀ field ∈ s.fieldNames, key ≠ .str field := fun field held same =>
      known ⟨field, held, same⟩
    have stopped : tableAssignments s ((key, value) :: table) = .error (.unknownIn s key) := by
      cases key with
      | str field =>
          have other : s.fieldNames.contains field = false := by
            simpa using fun held => unknown field held rfl
          simp only [tableAssignments, other, Bool.false_eq_true, if_false]
      | _ => rfl
    rw [stopped, Except.error.injEq, eq_comm]
    constructor
    · exact fun same => .inl ⟨unknown, same⟩
    · rintro (⟨-, same⟩ | ⟨held, -⟩)
      · exact same
      · exact absurd held known

/-- The table of a section is rejected for its first key that is no field. -/
theorem tableAssignments_eq_error
    : tableAssignments s table = .error r
      ↔ ∃ before entry after,
          table = before ++ entry :: after
          ∧ NamesFields s before
          ∧ (∀ field ∈ s.fieldNames, entry.1 ≠ .str field)
          ∧ r = .unknownIn s entry.1 := by
  induction table with
  | nil => simp [tableAssignments]
  | cons entry table ih =>
      unfold NamesFields at ih ⊢
      rw [tableAssignments_cons_error, ih, exists_split_cons]

/-- A configuration is rejected for its first entry that is not keyed. -/
theorem assignments_eq_error
    : assignments config = .error r
      ↔ ∃ before entry after,
          config = before ++ entry :: after
          ∧ (∀ earlier ∈ before, Keyed earlier)
          ∧ entryAssignments entry.1 entry.2 = .error r := by
  induction config with
  | nil => simp [assignments]
  | cons entry config ih =>
      rw [exists_split_cons, ← ih, ← entryAssignments_exists]
      obtain ⟨key, value⟩ := entry
      cases entered : entryAssignments key value <;> simp [assignments, entered, bind_eq_error, map_eq_error]

theorem entryAssignments_outside
    : (∃ r, entryAssignments key value = .error r ∧ r.toProblem = .outside m)
      ↔ m = Text.tooManyDigits none ∧ StumblesAt (key, value) := by
  constructor
  · rintro ⟨r, refused, told⟩
    obtain ⟨rfl, i, overlong, unknown⟩ := Rejection.toProblem_outside.mp told
    refine ⟨rfl, ?_⟩
    unfold entryAssignments at refused
    split at refused
    · split at refused
      · next s named =>
          split at refused
          · next table =>
              obtain ⟨before, ⟨k, v⟩, after, rfl, passed, -, rfl⟩ := tableAssignments_eq_error.mp refused
              obtain ⟨t, same⟩ : ∃ t, Rejection.unknownIn s k = .unknownIn t (.int i) := by simpa using unknown
              obtain ⟨rfl, rfl⟩ := Rejection.unknownIn.inj same
              rw [ofName?_eq_some.mp named]
              exact .inTable s before passed overlong v after
          · obtain rfl := Except.error.inj refused
            simp at unknown
      · split at refused
        · cases refused
        · obtain rfl := Except.error.inj refused
          simp at unknown
    · obtain rfl := Except.error.inj refused
      obtain rfl : key = .int i := by simpa using unknown
      exact .key overlong value
  · rintro ⟨rfl, stumbles⟩
    cases stumbles with
    | @key i overlong =>
        exact ⟨_, rfl, Rejection.toProblem_outside.mpr ⟨rfl, i, overlong, .inl rfl⟩⟩
    | @inTable s before i named overlong v after =>
        have refused : tableAssignments s (before ++ (.int i, v) :: after) = .error (.unknownIn s (.int i)) :=
          tableAssignments_eq_error.mpr ⟨before, _, after, rfl, named, by simp, rfl⟩
        exact ⟨_, (entryAssignments_table ..).trans refused,
          Rejection.toProblem_outside.mpr ⟨rfl, i, overlong, .inr ⟨s, rfl⟩⟩⟩

-----------------------------------------------------------------------------------------
-- Configurations
-----------------------------------------------------------------------------------------

theorem optionsOf_eq_error {p : Problem}
    : optionsOf config = .error p ↔ ∃ r, Drafts.ofMapping config = .error r ∧ r.toProblem = p := by
  unfold optionsOf
  cases Drafts.ofMapping config <;> simp [Except.mapError, bind, Except.bind, pure, Except.pure]

theorem checkTypes_eq_error {values : List (String × Value)} (failed : checkTypes s values = .error r)
    : ∃ field expected value, r = .wrongType s field expected value := by
  induction values with
  | nil => cases failed
  | cons entry values ih =>
      unfold checkTypes at failed
      split at failed
      · exact ⟨_, _, _, (Except.error.inj failed).symm⟩
      · exact ih failed

/-- What is wrong with a value can be told. -/
theorem draftOf_eq_error (failed : draftOf s all = .error r)
    : ∃ e, r.toProblem = .own e := by
  rcases bind_eq_error.mp failed with mistyped | ⟨_, -, failed⟩
  · obtain ⟨field, expected, value, rfl⟩ := checkTypes_eq_error mistyped
    exact ⟨_, rfl⟩
  · split at failed
    · cases failed
    · obtain rfl := Except.error.inj failed
      exact ⟨_, rfl⟩
    · obtain rfl := Except.error.inj failed
      exact ⟨_, rfl⟩

/-- A configuration is rejected for its keys, or for the values of a section. -/
theorem ofMapping_eq_error (failed : Drafts.ofMapping config = .error r)
    : assignments config = .error r ∨ ∃ s all, draftOf s all = .error r := by
  simp only [Drafts.ofMapping, bind_eq_error] at failed
  rcases failed with keys | ⟨all, -, reader | ⟨_, -, writer | ⟨_, -, spacing | ⟨_, -, made⟩⟩⟩⟩
  · exact .inl keys
  · exact .inr ⟨_, _, reader⟩
  · exact .inr ⟨_, _, writer⟩
  · exact .inr ⟨_, _, spacing⟩
  · cases made

/-- A configuration that is rejected for a value is told so. -/
theorem ofMapping_outside
    : (∃ r, Drafts.ofMapping config = .error r ∧ r.toProblem = .outside m)
      ↔ ∃ r, assignments config = .error r ∧ r.toProblem = .outside m := by
  refine exists_congr fun r => and_congr_left fun told => ⟨fun failed => ?_, fun failed => ?_⟩
  · rcases ofMapping_eq_error failed with keys | ⟨s, all, values⟩
    · exact keys
    · obtain ⟨e, own⟩ := draftOf_eq_error values
      cases own.symm.trans told
  · exact bind_eq_error.mpr (.inl failed)

/-- A configuration is rejected outside the errors of the library exactly where it stumbles on a key. -/
theorem optionsOf_outside_iff
    : optionsOf config = .error (.outside m) ↔ m = Text.tooManyDigits none ∧ StumblesOnKey config := by
  rw [optionsOf_eq_error, ofMapping_outside]
  simp only [assignments_eq_error, StumblesOnKey]
  constructor
  · rintro ⟨r, ⟨before, entry, after, split, keyed, refused⟩, told⟩
    obtain ⟨rfl, stumbles⟩ := entryAssignments_outside.mp ⟨r, refused, told⟩
    exact ⟨rfl, before, entry, after, split, keyed, stumbles⟩
  · rintro ⟨rfl, before, entry, after, split, keyed, stumbles⟩
    obtain ⟨r, refused, told⟩ := entryAssignments_outside.mpr ⟨rfl, stumbles⟩
    exact ⟨r, ⟨before, entry, after, split, keyed, refused⟩, told⟩

/-- Every other configuration that is not acceptable is rejected with an error of validation. -/
theorem optionsOf_invalid_iff
    : (∃ e, optionsOf config = .error (.own e) ∧ e.category = .validation)
      ↔ ¬ Acceptable config ∧ ¬ StumblesOnKey config := by
  constructor
  · rintro ⟨e, failed, -⟩
    refine ⟨fun acceptable => ?_, fun stumbles => ?_⟩
    · obtain ⟨d, drafted, -⟩ := acceptable.exists_drafts
      cases failed.symm.trans (optionsOf_eq_ok.mpr ⟨d, drafted, rfl⟩)
    · cases failed.symm.trans (optionsOf_outside_iff.mpr ⟨rfl, stumbles⟩)
  · rintro ⟨unacceptable, calm⟩
    rcases outcome : optionsOf config with (e | m) | o
    · obtain ⟨r, -, told⟩ := optionsOf_eq_error.mp outcome
      exact ⟨e, rfl, r.toProblem_own told⟩
    · exact absurd (optionsOf_outside_iff.mp outcome).2 calm
    · exact absurd (optionsOf_ok_iff.mp outcome).1 unacceptable

/-- Just the configurations of known names, with final values of the types and in the ranges of their
fields, make options: those with the final values, and the defaults of the fields that are not mentioned.
Whatever else there is, is rejected with an error of validation, unless it stumbles on a key that is an integer
with too many digits: it has no text that a message could tell, and this mishap is all that comes of it. Where no
field is mentioned twice, the layout does not matter. -/
theorem optionsOf_acceptable (config : Mapping)
    : ((∃ o, optionsOf config = .ok o) ↔ Acceptable config)
      ∧ (∀ o,
          optionsOf config = .ok o
          ↔ Acceptable config
            ∧ ∀ s,
                valuesOf o s
                = s.fields.map (fun entry => (entry.1, (finalValue? s entry.1 config).getD entry.2)))
      ∧ ((∃ e, optionsOf config = .error (.own e) ∧ e.category = .validation)
          ↔ ¬ Acceptable config ∧ ¬ StumblesOnKey config)
      ∧ (∀ m,
          optionsOf config = .error (.outside m)
          ↔ m = Text.tooManyDigits none ∧ StumblesOnKey config)
      ∧ (MentionsOnce config →
          ∀ other, Relaid config other → (optionsOf other).toOption = (optionsOf config).toOption) := by
  refine ⟨⟨fun ⟨o, made⟩ => (optionsOf_ok_iff.mp made).1, fun acceptable => ?_⟩, fun o => optionsOf_ok_iff,
    optionsOf_invalid_iff, fun m => optionsOf_outside_iff, fun once other relaid => once.optionsOf relaid⟩
  obtain ⟨d, drafted, -⟩ := acceptable.exists_drafts
  exact ⟨d.toOptions, optionsOf_eq_ok.mpr ⟨d, drafted, rfl⟩⟩

/-- A switch in the table of its section, and a text at the top level. -/
def switchInTable : Mapping :=
  [(.str "spacing", .map [(.str "normalize_math", .bool false)]), (.str "bullet_symbols", .str "*+")]

/-- The switch at the top level, and the text in the table of its section. -/
def textInTable : Mapping :=
  [(.str "normalize_math", .bool false), (.str "renderer", .map [(.str "bullet_symbols", .str "*+")])]

theorem switchInTable_relaid
    : Relaid switchInTable textInTable := by
  have out : Relaid switchInTable [(.str "normalize_math", .bool false), (.str "bullet_symbols", .str "*+")] :=
    .symm (.intoTable (s := .spacing) (by decide) (.bool false) [(.str "bullet_symbols", .str "*+")])
  have into : Relaid [(.str "bullet_symbols", .str "*+"), (.str "normalize_math", .bool false)]
      [(.str "renderer", .map [(.str "bullet_symbols", .str "*+")]), (.str "normalize_math", .bool false)] :=
    .intoTable (s := .writer) (by decide) (.str "*+") [(.str "normalize_math", .bool false)]
  exact .trans out (.trans (.order (.swap ..)) (.trans into (.order (.swap ..))))

/-- Both layouts make the same options. A truth value is no number, so it gives no width. -/
theorem switchInTable_acceptable
    : MentionsOnce switchInTable
      ∧ Relaid switchInTable textInTable
      ∧ (optionsOf textInTable).toOption = (optionsOf switchInTable).toOption
      ∧ Acceptable switchInTable
      ∧ ¬ Acceptable [(.str "list_indent_width", .bool true)] := by
  have once : MentionsOnce switchInTable := by
    intro s
    cases s <;> decide
  have made : optionsOf switchInTable
      = .ok { writer := { bullets := [.star, .plus] }, spacing := { math := false } } := by
    decide +kernel
  have refused : (optionsOf [(.str "list_indent_width", .bool true)]).toOption = none := by
    decide +kernel
  obtain ⟨makes, -, -, -, layout⟩ := optionsOf_acceptable switchInTable
  refine ⟨once, switchInTable_relaid, layout once _ switchInTable_relaid, makes.mp ⟨_, made⟩,
    fun acceptable => ?_⟩
  obtain ⟨o, held⟩ := (optionsOf_acceptable _).1.mpr acceptable
  rw [held] at refused
  cases refused

/-- A table of writing options with an integer of one digit too many for a key. -/
def overlongKey : Mapping :=
  [(.str "renderer", .map [(.int (.ofNat (Nat.pow 10 Text.digitLimit)), .int 1)])]

theorem overlongKey_stumbles
    : StumblesOnKey overlongKey := by
  have overlong : Text.isOverlong (.ofNat (Nat.pow 10 Text.digitLimit)) = true := by
    simp only [Text.isOverlong, Int.natAbs_ofNat', Nat.le_refl, decide_true]
  exact ⟨[], _, [], rfl, nofun, .inTable .writer [] nofun overlong _ []⟩

/-- Not every configuration makes options or is rejected with an error of validation, even if all its own keys are
texts. -/
theorem overlongKey_fails_outside
    : ¬ ∀ config : Mapping,
          (∀ entry ∈ config, ∃ name, entry.1 = .str name) →
          (∃ o, optionsOf config = .ok o)
          ∨ ∃ e, optionsOf config = .error (.own e) ∧ e.category = .validation := by
  intro foreseen
  have failed : optionsOf overlongKey = .error (.outside (Text.tooManyDigits none)) :=
    optionsOf_outside_iff.mpr ⟨rfl, overlongKey_stumbles⟩
  have named : ∀ entry ∈ overlongKey, ∃ name, entry.1 = .str name := fun entry held =>
    ⟨"renderer", congrArg Prod.fst (List.mem_singleton.mp held)⟩
  rcases foreseen overlongKey named with ⟨o, made⟩ | ⟨e, invalid, -⟩
  · cases failed.symm.trans made
  · cases failed.symm.trans invalid

end MixedScript.Settings
