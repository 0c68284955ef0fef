import MixedScript.Proofs.Settings.Overrides
import Mathlib.Data.List.Basic

/-! Options seen field by field, under the names that a configuration gives them. A draft with values of
the right types that passes its check becomes the options with just these values, and options are known
by their values. -/

namespace MixedScript

-----------------------------------------------------------------------------------------
-- The values of options
-----------------------------------------------------------------------------------------

/-- The fields of reading options in order, with their values. -/
def ReaderOptions.values (o : ReaderOptions) : List (String × Value) := [
  ("parse_tables", .bool o.tables), ("parse_footnotes", .bool o.footnotes), ("parse_math", .bool o.math),
  ("parse_task_lists", .bool o.taskLists), ("parse_strikethrough", .bool o.strikethrough),
  ("parse_frontmatter", .bool o.frontMatter)]

/-- The fields of writing options in order, with their values. -/
def WriterOptions.values (o : WriterOptions) : List (String × Value) := [
  ("escape_special", .bool o.escape), ("emphasis_symbol", .str (String.ofList [o.emphasis.char])),
  ("bullet_symbols", .str (String.ofList (o.bullets.map Bullet.char))),
  ("list_indent_width", .int o.indentWidth), ("code_fence_char", .str (String.ofList [o.fence.char])),
  ("code_fence_min", .int o.fenceMin), ("metadata_frontmatter", .bool o.frontMatter)]

/-- The fields of spacing options in order, with their values. -/
def SpacingOptions.values (o : SpacingOptions) : List (String × Value) :=
  [("normalize_text", .bool o.text), ("normalize_math", .bool o.math)]

theorem ReaderOptions.eq_of_values {o p : ReaderOptions} (same : o.values = p.values)
    : o = p := by
  cases o
  cases p
  simpa [values] using same

theorem SpacingOptions.eq_of_values {o p : SpacingOptions} (same : o.values = p.values)
    : o = p := by
  cases o
  cases p
  simpa [values] using same

theorem EmphasisMark.ofChar?_char (m : EmphasisMark)
    : ofChar? m.char = some m := by
  cases m <;> rfl

theorem FenceMark.ofChar?_char (m : FenceMark)
    : ofChar? m.char = some m := by
  cases m <;> rfl

theorem Bullet.ofChar?_char (b : Bullet)
    : ofChar? b.char = some b := by
  cases b <;> rfl

theorem WriterOptions.eq_of_values {o p : WriterOptions} (same : o.values = p.values)
    : o = p := by
  simp only [values, List.cons.injEq, Prod.mk.injEq, true_and, Value.scalar.injEq, Scalar.bool.injEq,
    Scalar.str.injEq, Scalar.int.injEq, String.ofList_inj, Int.natCast_inj, and_true] at same
  obtain ⟨escape, emphasis, bullets, width, fence, least, front⟩ := same
  have emphasis : o.emphasis = p.emphasis :=
    Option.some.inj (by rw [← EmphasisMark.ofChar?_char, emphasis, EmphasisMark.ofChar?_char])
  have fence : o.fence = p.fence :=
    Option.some.inj (by rw [← FenceMark.ofChar?_char, fence, FenceMark.ofChar?_char])
  have bullets : o.bullets = p.bullets :=
    List.map_injective_iff.mpr
      (fun a b same => Option.some.inj (by rw [← Bullet.ofChar?_char, same, Bullet.ofChar?_char])) bullets
  cases o
  cases p
  simp_all

namespace Settings

variable {s : Section} {d : Draft} {field : String} {value : Value} {entry : String × Value}

/-- The fields of a section in order, with the values that options give them. -/
def valuesOf (o : FormatOptions) : Section → List (String × Value)
  | .reader => o.reader.values
  | .writer => o.writer.values
  | .spacing => o.spacing.values

/-- Options that nothing is said of have the default of every field. -/
theorem valuesOf_default (s : Section)
    : valuesOf {} s = s.fields := by
  cases s <;> decide

/-- Options are known by the values of their fields. -/
theorem eq_of_valuesOf {o p : FormatOptions} (same : ∀ s, valuesOf o s = valuesOf p s)
    : o = p := by
  obtain ⟨reader, writer, spacing⟩ := o
  obtain ⟨reader', writer', spacing'⟩ := p
  rw [FormatOptions.mk.injEq]
  exact ⟨ReaderOptions.eq_of_values (same .reader), WriterOptions.eq_of_values (same .writer),
    SpacingOptions.eq_of_values (same .spacing)⟩

-----------------------------------------------------------------------------------------
-- Values of the right types
-----------------------------------------------------------------------------------------

/-- Two values of one type, of the types that fields have. -/
inductive SameType : Value → Value → Prop
  | bool (a b : Bool) : SameType (.bool a) (.bool b)
  | int (a b : Int) : SameType (.int a) (.int b)
  | str (a b : String) : SameType (.str a) (.str b)

theorem fits_iff (held : entry ∈ s.fields)
    : Fits s entry.1 value ↔ SameType entry.2 value := by
  rw [Fits, get_default held]
  constructor
  · intro fits
    rcases default_cases held with ⟨b, default⟩ | ⟨i, default⟩ | ⟨x, default⟩ <;> rw [default] at fits ⊢
    all_goals
      cases value with
      | map | list | set => cases fits
      | scalar c => cases c <;> first | exact .bool _ _ | exact .int _ _ | exact .str _ _ | cases fits
  · intro same
    generalize entry.2 = default at same
    cases same <;> rfl

/-- A draft of a section with a value of the right type for every field. -/
structure Draft.Typed (s : Section) (d : Draft) : Prop where
  owner : d.owner = s
  named : d.values.map Prod.fst = s.fieldNames
  typed : ∀ entry ∈ s.fields, SameType entry.2 (d.get entry.1)

namespace Draft

theorem Typed.bool (typed : d.Typed s) (field : String) (b : Bool) (held : (field, .bool b) ∈ s.fields)
    : d.get field = .bool (d.flag field) := by
  have same := typed.typed _ held
  unfold flag
  generalize d.get field = value at same
  cases same
  rfl

theorem Typed.int (typed : d.Typed s) (field : String) (i : Int) (held : (field, .int i) ∈ s.fields)
    : ∃ j, d.get field = .int j := by
  have same := typed.typed _ held
  generalize d.get field = value at same
  cases same
  exact ⟨_, rfl⟩

theorem Typed.str (typed : d.Typed s) (field x : String) (held : (field, .str x) ∈ s.fields)
    : ∃ y, d.get field = .str y := by
  have same := typed.typed _ held
  generalize d.get field = value at same
  cases same
  exact ⟨_, rfl⟩

/-- A draft that names each field once is the list of what its fields hold. -/
theorem values_eq_get (d : Draft) (distinct : (d.values.map Prod.fst).Nodup)
    : d.values = (d.values.map Prod.fst).map (fun field => (field, d.get field)) := by
  obtain ⟨owner, values⟩ := d
  simp only [get, List.map_map]
  induction values with
  | nil => rfl
  | cons entry values ih =>
      obtain ⟨apart, distinct⟩ := List.nodup_cons.mp distinct
      have behind
          : values.map (fun later =>
                (later.1, ((values.find? (fun e => e.1 == later.1)).map Prod.snd).getD .null))
            = values.map (fun later =>
                (later.1, (((entry :: values).find? (fun e => e.1 == later.1)).map Prod.snd).getD .null)) := by
        refine List.map_congr_left fun later held => ?_
        have other : (entry.1 == later.1) = false := by
          rw [beq_eq_false_iff_ne]
          exact fun same => apart (same ▸ List.mem_map_of_mem held)
        rw [List.find?_cons, other]
      simp only [List.map_cons, Function.comp_def, ← behind]
      congr 1
      · simp
      · exact ih distinct

end Draft

-----------------------------------------------------------------------------------------
-- The check of writing options
-----------------------------------------------------------------------------------------

/-- Values of writing options in the ranges that the check allows. -/
structure WriterRange (value : String → Value) : Prop where
  emphasis : value "emphasis_symbol" = .str "*" ∨ value "emphasis_symbol" = .str "_"
  fence : value "code_fence_char" = .str "\x60" ∨ value "code_fence_char" = .str "~"
  bullets
    : ∃ marks : String, value "bullet_symbols" = .str marks
        ∧ marks ≠ "" ∧ ∀ c ∈ marks.toList, c ∈ ['-', '*', '+']
  width : ∃ i : Int, value "list_indent_width" = .int i ∧ 1 ≤ i
  least : ∃ i : Int, value "code_fence_min" = .int i ∧ 3 ≤ i

namespace Draft

theorem isOneOf_iff {a b : Char} {x : String}
    : isOneOf [a, b] (.str x) = true ↔ x = String.singleton a ∨ x = String.singleton b := by
  simp [isOneOf]

theorem allBullets_iff {cs : List Char}
    : cs.any (fun c => !bulletChars.contains c) = false ↔ ∀ c ∈ cs, c ∈ bulletChars := by
  simp only [List.any_eq_false, List.contains_eq_mem, Bool.not_eq_true, Bool.not_eq_false',
    decide_eq_true_eq]

/-- A complaint about a value is no success, whether or not the value has a text. -/
theorem complain_ne_ok {α : Type} {a : α} {text : Except Mishap String} {complaint : String → Mishap}
    : (text >>= fun told => Except.error (complaint told)) ≠ .ok a := by
  cases text <;> nofun

/-- The check goes through the fields one after the other and stops at the first out of range. -/
theorem checkWriter_iff {emphasis fence bullets : String} {width least : Int}
    (emphasised : d.get "emphasis_symbol" = .str emphasis)
    (fenced : d.get "code_fence_char" = .str fence)
    (bulleted : d.get "bullet_symbols" = .str bullets)
    (indented : d.get "list_indent_width" = .int width)
    (lengthy : d.get "code_fence_min" = .int least)
    : d.checkWriter = .ok ()
      ↔ isOneOf ['*', '_'] (.str emphasis) = true
        ∧ isOneOf ['\x60', '~'] (.str fence) = true
        ∧ bullets.isEmpty = false
        ∧ bullets.toList.any (fun c => !bulletChars.contains c) = false
        ∧ 1 ≤ width
        ∧ 3 ≤ least := by
  have throws {α : Type} {m : Mishap} {next : Unit → Except Mishap α}
      : (throw m >>= next) = .error m := rfl
  cases first : isOneOf ['*', '_'] (.str emphasis) with
  | false =>
      simp only [checkWriter, emphasised, first, Bool.false_eq_true, if_false, throws]
      exact iff_of_false complain_ne_ok (by simp)
  | true =>
  cases second : isOneOf ['\x60', '~'] (.str fence) with
  | false =>
      simp only [checkWriter, emphasised, fenced, first, second, Bool.false_eq_true, if_false, if_true,
        throws]
      exact iff_of_false complain_ne_ok (by simp)
  | true =>
  cases empty : bullets.isEmpty with
  | true =>
      simp only [checkWriter, emphasised, fenced, bulleted, first, second, if_true, throws,
        Value.truthy, empty, Bool.not_true, Bool.not_false, pure_bind]
      exact iff_of_false complain_ne_ok (by simp)
  | false =>
  cases other : bullets.toList.any (fun c => !bulletChars.contains c) with
  | true =>
      simp only [checkWriter, emphasised, fenced, bulleted, first, second, Bool.false_eq_true, if_false,
        if_true, throws, Value.truthy, empty, Bool.not_true, Bool.not_false, pure_bind,
        holdsOtherThanBullets?, other]
      exact iff_of_false complain_ne_ok (by simp)
  | false =>
      simp only [checkWriter, emphasised, fenced, bulleted, indented, lengthy, first, second,
        Bool.false_eq_true, if_false, if_true, throws, Value.truthy, empty, Bool.not_true, Bool.not_false,
        pure_bind, holdsOtherThanBullets?, other, isBelow?]
      cases narrow : decide (width < 1) with
      | true =>
          rw [decide_eq_true_eq] at narrow
          exact iff_of_false complain_ne_ok (by omega)
      | false =>
      rw [decide_eq_false_iff_not] at narrow
      cases short : decide (least < 3) with
      | true =>
          rw [decide_eq_true_eq] at short
          exact iff_of_false complain_ne_ok (by omega)
      | false =>
          rw [decide_eq_false_iff_not] at short
          exact iff_of_true rfl ⟨trivial, trivial, trivial, trivial, by omega, by omega⟩

/-- Of drafts with values of the right types the check passes those in the ranges. -/
theorem check_writer_iff (typed : d.Typed .writer)
    : d.check = .ok () ↔ WriterRange d.get := by
  obtain ⟨emphasis, emphasised⟩ := typed.str "emphasis_symbol" "*" (by decide)
  obtain ⟨fence, fenced⟩ := typed.str "code_fence_char" "\x60" (by decide)
  obtain ⟨bullets, bulleted⟩ := typed.str "bullet_symbols" "-" (by decide)
  obtain ⟨width, indented⟩ := typed.int "list_indent_width" 2 (by decide)
  obtain ⟨least, lengthy⟩ := typed.int "code_fence_min" 3 (by decide)
  have stage : d.check = d.checkWriter := by
    rw [check, typed.owner]
  rw [stage, checkWriter_iff emphasised fenced bulleted indented lengthy, isOneOf_iff, isOneOf_iff]
  constructor
  · rintro ⟨star, backtick, nonempty, marks, wide, long⟩
    exact {
      emphasis := by simpa [emphasised] using star
      fence := by simpa [fenced] using backtick
      bullets := ⟨bullets, bulleted, by simpa using nonempty, allBullets_iff.mp marks⟩
      width := ⟨width, indented, wide⟩
      least := ⟨least, lengthy, long⟩ }
  · intro range
    obtain ⟨_, held, nonempty, marks⟩ := range.bullets
    obtain ⟨_, held', wide⟩ := range.width
    obtain ⟨_, held'', long⟩ := range.least
    rw [bulleted] at held
    rw [indented] at held'
    rw [lengthy] at held''
    cases held
    cases held'
    cases held''
    refine ⟨?_, ?_, by simpa using nonempty, allBullets_iff.mpr marks, wide, long⟩
    · simpa [emphasised] using range.emphasis
    · simpa [fenced] using range.fence

-----------------------------------------------------------------------------------------
-- Options made of drafts
-----------------------------------------------------------------------------------------

/-- A section of nothing but switches holds whether each of its fields is on. -/
theorem values_switches (typed : d.Typed s) (switches : ∀ entry ∈ s.fields, ∃ b, entry.2 = .bool b)
    : d.values = s.fieldNames.map (fun field => (field, .bool (d.flag field))) := by
  rw [d.values_eq_get (typed.named ▸ fieldNames_nodup s), typed.named]
  refine List.map_congr_left fun field known => ?_
  obtain ⟨⟨field, default⟩, held, rfl⟩ := List.mem_map.mp known
  obtain ⟨b, rfl⟩ := switches _ held
  rw [typed.bool field b held]

theorem toReader_values (typed : d.Typed .reader)
    : d.toReader.values = d.values :=
  (values_switches typed (by simp [Section.fields])).symm

theorem toSpacing_values (typed : d.Typed .spacing)
    : d.toSpacing.values = d.values :=
  (values_switches typed (by simp [Section.fields])).symm

/-- Bullets are written as the characters that they were read from. -/
theorem bullets_char {cs : List Char} (marks : ∀ c ∈ cs, c ∈ bulletChars)
    : (cs.filterMap Bullet.ofChar?).map Bullet.char = cs := by
  induction cs with
  | nil => rfl
  | cons c cs ih =>
      have rest := ih fun c held => marks c (List.mem_cons_of_mem _ held)
      have first : c = '-' ∨ c = '*' ∨ c = '+' := by
        simpa [bulletChars] using marks c (by simp)
      obtain rfl | rfl | rfl := first <;>
        simpa [List.filterMap_cons, Bullet.ofChar?, Bullet.char] using rest

theorem orElse_nonempty {α : Type} {fallback : α} {xs : List α} (nonempty : xs ≠ [])
    : (orElse fallback xs).1 = xs := by
  cases xs with
  | nil => exact absurd rfl nonempty
  | cons => rfl

/-- Within the ranges nothing is replaced by a default. -/
theorem toWriter_values (typed : d.Typed .writer) (range : WriterRange d.get)
    : d.toWriter.values = d.values := by
  obtain ⟨marks, bulleted, nonempty, bullets⟩ := range.bullets
  obtain ⟨width, indented, wide⟩ := range.width
  obtain ⟨least, lengthy, long⟩ := range.least
  have emphasis : .str (String.ofList [d.toWriter.emphasis.char]) = d.get "emphasis_symbol" := by
    rcases range.emphasis with symbol | symbol <;>
      simp [toWriter, text, symbol, EmphasisMark.ofChar?, EmphasisMark.char]
  have fence : .str (String.ofList [d.toWriter.fence.char]) = d.get "code_fence_char" := by
    rcases range.fence with symbol | symbol <;>
      simp [toWriter, text, symbol, FenceMark.ofChar?, FenceMark.char]
  have written : d.toWriter.bullets.map Bullet.char = marks.toList := by
    have read := bullets_char bullets
    have some : marks.toList.filterMap Bullet.ofChar? ≠ [] := by
      intro none
      rw [none] at read
      exact nonempty (by simpa using read.symm)
    simp only [toWriter, text, bulleted]
    rw [orElse_nonempty some, read]
  have indent : ((d.toWriter.indentWidth : Nat) : Int) = width := by
    simp only [toWriter, natural, indented]
    omega
  have length : ((d.toWriter.fenceMin : Nat) : Int) = least := by
    simp only [toWriter, natural, lengthy]
    omega
  rw [d.values_eq_get (typed.named ▸ fieldNames_nodup .writer), typed.named]
  simp only [WriterOptions.values, emphasis, fence, written, indent, length, String.ofList_toList]
  rw [← bulleted, ← indented, ← lengthy]
  simp only [Section.fieldNames, Section.fields, List.map_cons, List.map_nil]
  rw [typed.bool "escape_special" true (by decide),
    typed.bool "metadata_frontmatter" true (by decide)]
  rfl

end Draft

/-- Options made of drafts have the values of the drafts. -/
theorem Drafts.valuesOf_toOptions {d : Drafts} (typed : ∀ s, (d.draft s).Typed s)
    (range : WriterRange d.writer.get) (s : Section)
    : valuesOf d.toOptions s = (d.draft s).values := by
  cases s with
  | reader => exact Draft.toReader_values (typed .reader)
  | writer => exact Draft.toWriter_values (typed .writer) range
  | spacing => exact Draft.toSpacing_values (typed .spacing)

/-- Assigned values of the right types make a draft with values of the right types, for the defaults
are. -/
theorem typed_assigned {all : List Assignment}
    (fit : ∀ field value, lastValue? s field all = some value → Fits s field value)
    : (assigned s all).Typed s := by
  refine ⟨rfl, assigned_fields s all, fun entry held => ?_⟩
  have known : entry.1 ∈ (Draft.default s).values.map Prod.fst := List.mem_map_of_mem held
  rw [assigned, Draft.get_overlay _ _ known, get_default held]
  cases last : lastValue? s entry.1 all with
  | some value => exact (fits_iff held).mp (fit _ _ last)
  | none =>
      obtain ⟨field, default⟩ := entry
      rcases default_cases held with ⟨b, rfl⟩ | ⟨i, rfl⟩ | ⟨x, rfl⟩
      · exact .bool b b
      · exact .int i i
      · exact .str x x

end Settings

end MixedScript
