import MixedScript.Proofs.Mapping
import MixedScript.Proofs.Result
import MixedScript.Settings.Mapping
import Mathlib.Data.List.Induction

/-! What assignments make of the fields of a section: the last value counts, and a draft under
assignments is the draft of the defaults with those values laid over it. -/

namespace MixedScript.Settings

variable {s : Section} {field : String} {value : Value} {all : List Assignment}

-----------------------------------------------------------------------------------------
-- Drafts
-----------------------------------------------------------------------------------------

namespace Draft

/-- A draft with values laid over those of its fields. -/
def overlay (d : Draft) (f : String → Option Value) : Draft :=
  ⟨d.owner, d.values.map (fun entry => (entry.1, (f entry.1).getD entry.2))⟩

theorem overlay_none (d : Draft)
    : d.overlay (fun _ => none) = d := by
  simp [overlay]

theorem overlay_overlay (d : Draft) (f g : String → Option Value)
    : (d.overlay f).overlay g = d.overlay (fun x => (g x).or (f x)) := by
  simp only [overlay, List.map_map, mk.injEq, true_and]
  refine List.map_congr_left fun entry _ => ?_
  cases h : g entry.1 <;> simp [h]

theorem set_eq_overlay (d : Draft) (field : String) (value : Value)
    : d.set field value = d.overlay (fun x => if field == x then some value else none) := by
  simp only [set, overlay, mk.injEq, true_and]
  refine List.map_congr_left fun entry _ => ?_
  by_cases h : entry.1 = field
  · simp [h]
  · simp [h, Ne.symm h]

theorem overlay_congr {d : Draft} {f g : String → Option Value}
    (h : ∀ field ∈ d.values.map Prod.fst, f field = g field)
    : d.overlay f = d.overlay g := by
  simp only [overlay, mk.injEq, true_and]
  refine List.map_congr_left fun entry held => ?_
  rw [h entry.1 (List.mem_map_of_mem held)]

/-- What has been laid over the fields of a draft hides their values. -/
theorem get_overlay (d : Draft) (f : String → Option Value)
    (known : field ∈ d.values.map Prod.fst)
    : (d.overlay f).get field = (f field).getD (d.get field) := by
  obtain ⟨owner, values⟩ := d
  simp only [get, overlay]
  induction values with
  | nil => cases known
  | cons entry values ih =>
      simp only [List.map_cons, List.find?_cons]
      by_cases here : entry.1 = field
      · simp [here]
      · have apart : (entry.1 == field) = false := by simp [here]
        rw [apart]
        refine ih ?_
        simpa [Ne.symm here] using known

end Draft

-----------------------------------------------------------------------------------------
-- The last value
-----------------------------------------------------------------------------------------

/-- The value that the last assignment to a field gives it. -/
def lastValue? (s : Section) (field : String) (all : List Assignment) : Option Value :=
  (all.reverse.find? (fun a => a.owner == s && a.field == field)).map Assignment.value

theorem lastValue?_append (s : Section) (field : String) (first later : List Assignment)
    : lastValue? s field (first ++ later)
      = (lastValue? s field later).or (lastValue? s field first) := by
  simp [lastValue?, List.find?_append, Option.map_or]

theorem lastValue?_single (s : Section) (field : String) (a : Assignment)
    : lastValue? s field [a] = if a.owner = s ∧ a.field = field then some a.value else none := by
  by_cases h : a.owner = s ∧ a.field = field
  · simp [lastValue?, h]
  · rw [if_neg h]
    simpa [lastValue?] using h

theorem lastValue?_eq_none
    : lastValue? s field all = none ↔ ∀ a ∈ all, ¬ (a.owner = s ∧ a.field = field) := by
  simp [lastValue?]

theorem mem_of_lastValue? (h : lastValue? s field all = some value)
    : ⟨s, field, value⟩ ∈ all := by
  obtain ⟨a, found, rfl⟩ := Option.map_eq_some_iff.mp h
  have held := List.mem_reverse.mp (List.mem_of_find?_eq_some found)
  have named := List.find?_some found
  simp only [Bool.and_eq_true, beq_iff_eq] at named
  obtain ⟨rfl, rfl⟩ := named
  exact held

/-- The values that a further assignment to the section leaves. -/
theorem finalValues_concat (s : Section) (all : List Assignment) (a : Assignment)
    : finalValues s (all ++ [a])
      = if a.owner = s then
          if (finalValues s all).any (fun entry => entry.1 == a.field) then
            (finalValues s all).map
              (fun entry => if entry.1 == a.field then (a.field, a.value) else entry)
          else finalValues s all ++ [(a.field, a.value)]
        else finalValues s all := by
  by_cases own : a.owner = s
  · have kept : (all ++ [a]).filter (fun a => a.owner == s)
        = all.filter (fun a => a.owner == s) ++ [a] := by
      simp [own]
    rw [if_pos own, finalValues, kept, List.foldl_append]
    rfl
  · simp [finalValues, own]

/-- The final value of a field is the last one that it was given. -/
theorem mem_finalValues
    : (field, value) ∈ finalValues s all ↔ lastValue? s field all = some value := by
  induction all using List.reverseRecOn with
  | nil => simp [finalValues, lastValue?]
  | append_singleton all a ih =>
      rw [finalValues_concat, lastValue?_append, lastValue?_single]
      by_cases own : a.owner = s
      · by_cases here : a.field = field
        · subst here
          simp only [own, if_true, and_self, Option.some_or, Option.some.injEq]
          split
          · next known =>
              obtain ⟨⟨f, v⟩, held, same⟩ := List.any_eq_true.mp known
              simp only [List.mem_map]
              constructor
              · rintro ⟨entry, -, made⟩
                split at made
                · exact (Prod.mk.inj made).2
                · next other => exact absurd (congrArg Prod.fst made) (by simpa using other)
              · rintro rfl
                exact ⟨_, held, if_pos same⟩
          · next unknown =>
              have absent : (a.field, value) ∉ finalValues s all := by
                intro held
                exact unknown (List.any_eq_true.mpr ⟨_, held, by simp⟩)
              simp [absent, eq_comm]
        · have apart : ¬ (s = s ∧ a.field = field) := fun h => here h.2
          simp only [own, if_true, here, and_false, if_false, Option.none_or]
          rw [← ih]
          split
          · simp only [List.mem_map]
            constructor
            · rintro ⟨entry, held, made⟩
              split at made
              · exact absurd (congrArg Prod.fst made) here
              · exact made ▸ held
            · intro held
              exact ⟨_, held, if_neg (by simp [Ne.symm here])⟩
          · simp [Ne.symm here]
      · simp [own, ih]

-----------------------------------------------------------------------------------------
-- Drafts under assignments
-----------------------------------------------------------------------------------------

/-- Changes made one after the other are laid over a draft, the last one of each field. -/
theorem foldl_set (d : Draft) (changes : List (String × Value))
    : changes.foldl (fun d change => d.set change.1 change.2) d
      = d.overlay (fun x => (changes.reverse.find? (fun change => change.1 == x)).map Prod.snd) := by
  induction changes using List.reverseRecOn with
  | nil => exact d.overlay_none.symm
  | append_singleton changes change ih =>
      rw [List.foldl_append, ih, List.foldl_cons, List.foldl_nil, Draft.set_eq_overlay,
        Draft.overlay_overlay]
      congr 1
      funext x
      cases here : change.1 == x <;> simp [here]

theorem find?_finalValues (s : Section) (field : String) (all : List Assignment)
    : ((finalValues s all).reverse.find? (fun entry => entry.1 == field)).map Prod.snd
      = lastValue? s field all := by
  cases found : (finalValues s all).reverse.find? (fun entry => entry.1 == field) with
  | some entry =>
      have held := List.mem_reverse.mp (List.mem_of_find?_eq_some found)
      have named : entry.1 = field := by simpa using List.find?_some found
      subst named
      exact (mem_finalValues.mp held).symm
  | none =>
      cases last : lastValue? s field all with
      | none => rfl
      | some value =>
          have held := List.mem_reverse.mpr (mem_finalValues.mpr last)
          simpa using List.find?_eq_none.mp found _ held

/-- A value is of the type of its field. -/
def Fits (s : Section) (field : String) (value : Value) : Prop :=
  typeMismatch? ((Draft.default s).get field) value = none

theorem get_default {s : Section} {entry : String × Value} (h : entry ∈ s.fields)
    : (Draft.default s).get entry.1 = entry.2 := by
  have each : ∀ s ∈ Section.all, ∀ entry ∈ s.fields, (Draft.default s).get entry.1 = entry.2 := by
    decide +kernel
  exact each s (by cases s <;> decide) entry h

/-- By default a field is on or off, a number or a text. -/
theorem default_cases {s : Section} {entry : String × Value} (h : entry ∈ s.fields)
    : (∃ b, entry.2 = .bool b) ∨ (∃ i, entry.2 = .int i) ∨ ∃ x, entry.2 = .str x := by
  cases s <;> simp only [Section.fields, List.mem_cons, List.not_mem_nil, or_false] at h <;>
    rcases h with rfl | rfl | rfl | rfl | rfl | rfl | rfl <;> simp

/-- What is of the type of a field is no list and no table. -/
theorem Fits.plain (h : Fits s field value) (known : field ∈ s.fieldNames)
    : ∃ c, value = .scalar c := by
  obtain ⟨entry, held, rfl⟩ := List.mem_map.mp known
  unfold Fits at h
  rw [get_default held] at h
  rcases default_cases held with ⟨_, default⟩ | ⟨_, default⟩ | ⟨_, default⟩ <;>
    rw [default] at h <;>
    cases value <;> simp_all [typeMismatch?]

theorem checkTypes_ok {values : List (String × Value)}
    : checkTypes s values = .ok () ↔ ∀ entry ∈ values, Fits s entry.1 entry.2 := by
  induction values with
  | nil => simp [checkTypes]
  | cons entry values ih =>
      obtain ⟨field, value⟩ := entry
      cases mismatch : typeMismatch? ((Draft.default s).get field) value <;>
        simp [checkTypes, Fits, mismatch, ih]

/-- A draft that has passed its check, or why it has not. -/
def Draft.checked (d : Draft) : Except Rejection Draft :=
  match d.check with
  | .ok _ => .ok d
  | .error (.badValue reason) => .error (.invalid d.owner reason)
  | .error _ => .error (.invalid d.owner "")

theorem Draft.checked_ok {d e : Draft}
    : d.checked = .ok e ↔ d.check = .ok () ∧ e = d := by
  unfold checked
  split
  · next passed => simp [passed, eq_comm]
  · next failed => simp [failed]
  · next failed => simp [failed]

/-- The draft of a section with the values that assignments give last. -/
def assigned (s : Section) (all : List Assignment) : Draft :=
  (Draft.default s).overlay (fun field => lastValue? s field all)

/-- Assignments to fields of a section alone. -/
def Known (all : List Assignment) : Prop :=
  ∀ a ∈ all, a.field ∈ a.owner.fieldNames

theorem Draft.checked_error {d : Draft} {r : Rejection} (h : d.checked = .error r)
    : d.check ≠ .ok () ∧ ∃ reason, r = .invalid d.owner reason := by
  unfold checked at h
  cases outcome : d.check with
  | ok => simp [outcome] at h
  | error m =>
      refine ⟨by simp, ?_⟩
      rw [outcome] at h
      cases m <;> exact ⟨_, (Except.error.inj h).symm⟩

theorem ofFields_finalValues (known : Known all)
    : Draft.ofFields s (finalValues s all) = do
        (assigned s all).check
        return assigned s all := by
  have named : (finalValues s all).all (fun change => s.fieldNames.contains change.1) = true := by
    rw [List.all_eq_true]
    rintro ⟨field, value⟩ held
    simpa using known _ (mem_of_lastValue? (mem_finalValues.mp held))
  have laid : (finalValues s all).foldl (fun d change => d.set change.1 change.2) (Draft.default s)
      = assigned s all := by
    rw [foldl_set, assigned]
    simp only [find?_finalValues]
  simp only [Draft.ofFields, Draft.update, Draft.default, named, if_true] at laid ⊢
  rw [laid]

/-- Values of the right types make the draft that holds them, if its check allows it. -/
theorem draftOf_eq_checked (known : Known all)
    (fit : ∀ field value, lastValue? s field all = some value → Fits s field value)
    : draftOf s all = (assigned s all).checked := by
  have typed : checkTypes s (finalValues s all) = .ok () :=
    checkTypes_ok.mpr fun entry held => fit _ _ (mem_finalValues.mp held)
  simp only [draftOf, typed, ofFields_finalValues known, Draft.checked]
  cases (assigned s all).check with
  | ok => rfl
  | error m => cases m <;> rfl

theorem draftOf_ok {d : Draft} (known : Known all) (h : draftOf s all = .ok d)
    : (∀ field value, lastValue? s field all = some value → Fits s field value)
      ∧ (assigned s all).check = .ok ()
      ∧ d = assigned s all := by
  obtain ⟨⟨⟩, typed, -⟩ := bind_eq_ok.mp h
  have fit : ∀ field value, lastValue? s field all = some value → Fits s field value :=
    fun field value last => checkTypes_ok.mp typed _ (mem_finalValues.mpr last)
  rw [draftOf_eq_checked known fit] at h
  exact ⟨fit, Draft.checked_ok.mp h⟩

-----------------------------------------------------------------------------------------
-- Assignments of a configuration
-----------------------------------------------------------------------------------------

variable {config table : Mapping} {key : Scalar}

theorem assignments_cons_ok
    : assignments ((key, value) :: config) = .ok all
      ↔ ∃ own later,
          entryAssignments key value = .ok own
          ∧ assignments config = .ok later
          ∧ all = own ++ later := by
  simp only [assignments, bind_eq_ok]
  constructor
  · rintro ⟨own, first, later, rest, made⟩
    exact ⟨own, later, first, rest, (Except.ok.inj made).symm⟩
  · rintro ⟨own, later, first, rest, rfl⟩
    exact ⟨own, first, later, rest, rfl⟩

/-- A configuration is read entry by entry. -/
theorem assignments_append_ok {more : Mapping}
    : assignments (config ++ more) = .ok all
      ↔ ∃ first later,
          assignments config = .ok first
          ∧ assignments more = .ok later
          ∧ all = first ++ later := by
  induction config generalizing all with
  | nil => simp [assignments, eq_comm]
  | cons entry config ih =>
      obtain ⟨key, value⟩ := entry
      simp only [List.cons_append, assignments_cons_ok, ih]
      constructor
      · rintro ⟨own, _, entered, ⟨first, later, read, rest, rfl⟩, rfl⟩
        exact ⟨own ++ first, later, ⟨own, first, entered, read, rfl⟩, rest, by simp⟩
      · rintro ⟨_, later, ⟨own, first, entered, read, rfl⟩, rest, rfl⟩
        exact ⟨own, first ++ later, entered, ⟨first, later, read, rest, rfl⟩, by simp⟩

end MixedScript.Settings
