import MixedScript.Markdown.Url
import MixedScript.Proofs.Encoding.Utf8
import MixedScript.Proofs.Text.Chars

/-! Destinations made readable. Every longest run of encoded bytes beyond ASCII is restored on its own, so that
a destination encodes to what it was before, and one that is restored stays as it is. -/

namespace MixedScript.Markdown

open Encoding (Bytes)

/-- A run of encoded bytes beyond ASCII. -/
inductive Escapes : Chars → Bytes → Prop
  | nil : Escapes [] []
  | cons {a b : Char} {x : UInt8} {source : Chars} {bytes : Bytes}
    (first : highByte? ['%', a, b] = some x) (later : Escapes source bytes)
    : Escapes ('%' :: a :: b :: source) (x :: bytes)

/-- A destination and what it is restored to, one run or other character after the other. -/
inductive Restored : Chars → Chars → Prop
  | nil : Restored [] []
  | plain {c : Char} {rest later : Chars} (other : highByte? (c :: rest) = none)
    (tail : Restored rest later)
    : Restored (c :: rest) (c :: later)
  | run {source rest later : Chars} {bytes : Bytes} (escapes : Escapes source bytes)
    (filled : source ≠ []) (ended : highByte? rest = none) (tail : Restored rest later)
    : Restored (source ++ rest) (restoreRun bytes source ++ later)

variable {a b c : Char} {x : UInt8} {bytes : Bytes} {u v cs s t before source rest after : Chars}

-----------------------------------------------------------------------------------------
-- Digits
-----------------------------------------------------------------------------------------

theorem lt_of_hexDigitValue? {i : Nat} (digit : Text.hexDigitValue? c = some i)
    : c.toNat < 0x80 := by
  refine Nat.lt_of_not_ge fun beyond => ?_
  have above : ∀ d : Char, d.toNat < 0x80 → ¬ c ≤ d := fun d near bound =>
    absurd (Nat.lt_of_le_of_lt (UInt32.le_iff_toNat_le.mp bound) near) (Nat.not_lt.mpr beyond)
  have lower : c.toLower = c :=
    dif_neg fun upper => above 'Z' (by decide) upper.2
  have decimal : c.isDigit = false := by
    rw [Char.isDigit, Bool.and_eq_false_iff]
    exact .inr (decide_eq_false (above '9' (by decide)))
  simp [Text.hexDigitValue?, lower, decimal, above 'f' (by decide)] at digit

theorem digitChar_of_hexDigitValue? {i : Nat} (digit : Text.hexDigitValue? c = some i)
    : i < 16 ∧ Nat.digitChar i = c.toLower := by
  have known : ∀ n < 0x80, ∀ i ∈ Text.hexDigitValue? (Char.ofNat n),
      i < 16 ∧ Nat.digitChar i = (Char.ofNat n).toLower := by decide +kernel
  exact Chars.of_below
    (P := fun c => ∀ i ∈ Text.hexDigitValue? c, i < 16 ∧ Nat.digitChar i = c.toLower) known
    (lt_of_hexDigitValue? digit) i digit

theorem hexDigits_byte {i j : Nat} (first : i < 16) (second : j < 16)
    : Text.hexDigits 2 (16 * i + j) = [Nat.digitChar i, Nat.digitChar j] := by
  have known : ∀ i < 16, ∀ j < 16,
      Text.hexDigits 2 (16 * i + j) = [Nat.digitChar i, Nat.digitChar j] := by decide +kernel
  exact known i first j second

theorem hexNumber?_pair {n : Nat}
    : Text.hexNumber? 2 (a :: b :: rest) = some n
      ↔ ∃ i j, Text.hexDigitValue? a = some i ∧ Text.hexDigitValue? b = some j
        ∧ n = 16 * i + j := by
  cases first : Text.hexDigitValue? a <;> cases second : Text.hexDigitValue? b <;>
    simp [Text.hexNumber?, Text.isHexDigit, Text.valueIn, first, second, eq_comm]

-----------------------------------------------------------------------------------------
-- Escapes
-----------------------------------------------------------------------------------------

/-- A byte beyond ASCII is encoded by a percent sign and the digits of its value. -/
theorem highByte?_eq_some
    : highByte? u = some x
      ↔ ∃ a b rest n, u = '%' :: a :: b :: rest ∧ Text.hexNumber? 2 [a, b] = some n ∧ 0x80 ≤ n
        ∧ UInt8.ofNat n = x := by
  constructor
  · intro h
    unfold highByte? at h
    split at h
    · next a b rest =>
        simp only [Option.map_eq_some_iff, Option.filter_eq_some_iff, decide_eq_true_eq] at h
        obtain ⟨n, ⟨number, high⟩, value⟩ := h
        exact ⟨a, b, rest, n, rfl, number, high, value⟩
    · cases h
  · rintro ⟨a, b, rest, n, rfl, number, high, rfl⟩
    simp [highByte?, number, Option.filter, high]

/-- What stands at the start of a text up to the first that is no encoded byte. -/
theorem exists_escapes (u : Chars)
    : ∃ source bytes rest, u = source ++ rest ∧ Escapes source bytes ∧ highByte? rest = none := by
  cases first : highByte? u with
  | none => exact ⟨[], [], u, rfl, .nil, first⟩
  | some x =>
      obtain ⟨a, b, later, n, rfl, -⟩ := highByte?_eq_some.mp first
      obtain ⟨source, bytes, rest, rfl, run, ended⟩ := exists_escapes later
      exact ⟨_, _, rest, rfl, .cons first run, ended⟩
termination_by u.length

theorem Escapes.eq_nil_iff (run : Escapes source bytes)
    : source = [] ↔ bytes = [] := by
  cases run <;> simp

theorem Escapes.high (run : Escapes source bytes)
    : ∀ x ∈ bytes, 0x80 ≤ x.toNat := by
  induction run with
  | nil => simp
  | cons first later ih =>
      obtain ⟨a, b, rest, n, same, number, high, rfl⟩ := highByte?_eq_some.mp first
      obtain ⟨i, j, digit, digit', rfl⟩ := hexNumber?_pair.mp number
      have small := (digitChar_of_hexDigitValue? digit).1
      have small' := (digitChar_of_hexDigitValue? digit').1
      rw [List.forall_mem_cons, UInt8.toNat_ofNat']
      exact ⟨by omega, ih⟩

-----------------------------------------------------------------------------------------
-- Restoring
-----------------------------------------------------------------------------------------

theorem restoreFrom_escapes (run : Escapes source bytes) (earlier : Bytes) (written rest : Chars)
    : restoreFrom earlier written 0 (source ++ rest)
      = restoreFrom (earlier ++ bytes) (written ++ source) 0 rest := by
  induction run generalizing earlier written with
  | nil => simp
  | @cons a b x source bytes first later ih =>
      have here : highByte? ('%' :: a :: b :: (source ++ rest)) = some x := first
      simp only [List.cons_append, restoreFrom, here, List.take_succ_cons, List.take_zero]
      rw [ih]
      simp

theorem restoreFrom_ended (ended : highByte? rest = none) (bytes : Bytes) (source : Chars)
    : restoreFrom bytes source 0 rest = restoreRun bytes source ++ restoreUrl rest := by
  cases rest with
  | nil => simp [restoreUrl, restoreFrom, restoreRun, Encoding.Utf8.decode, Encoding.Utf8.decodeFrom]
  | cons c rest =>
      simp [restoreUrl, restoreFrom, ended, restoreRun, Encoding.Utf8.decode,
        Encoding.Utf8.decodeFrom]

theorem restoreUrl_cons (other : highByte? (c :: rest) = none)
    : restoreUrl (c :: rest) = c :: restoreUrl rest := by
  simp [restoreUrl, restoreFrom, other, restoreRun, Encoding.Utf8.decode, Encoding.Utf8.decodeFrom]

theorem restoreUrl_unescaped (other : ∀ c ∈ cs, c ≠ '%') (rest : Chars)
    : restoreUrl (cs ++ rest) = cs ++ restoreUrl rest := by
  induction cs with
  | nil => rfl
  | cons c cs ih =>
      rw [List.forall_mem_cons] at other
      have here : highByte? (c :: (cs ++ rest)) = none := by
        rw [Option.eq_none_iff_forall_ne_some]
        intro x found
        obtain ⟨a, b, later, n, same, -⟩ := highByte?_eq_some.mp found
        exact other.1 (List.cons.inj same).1
      rw [List.cons_append, restoreUrl_cons here, ih other.2, List.cons_append]

/-- A run is restored as a whole. -/
theorem restoreUrl_run (run : Escapes source bytes) (ended : highByte? rest = none)
    : restoreUrl (source ++ rest) = restoreRun bytes source ++ restoreUrl rest := by
  rw [restoreUrl, restoreFrom_escapes run, restoreFrom_ended ended]
  rfl

theorem restored_restoreUrl (u : Chars)
    : Restored u (restoreUrl u) := by
  obtain ⟨source, bytes, rest, whole, run, ended⟩ := exists_escapes u
  cases source with
  | nil =>
      cases rest with
      | nil =>
          rw [whole]
          exact .nil
      | cons c rest =>
          have shorter : rest.length < u.length := by simp [whole]
          rw [whole, List.nil_append, restoreUrl_cons ended]
          exact .plain ended (restored_restoreUrl rest)
  | cons c source =>
      have shorter : rest.length < u.length := by
        rw [whole, List.length_append, List.length_cons]
        omega
      rw [whole, restoreUrl_run run ended]
      exact .run run (List.cons_ne_nil _ _) ended (restored_restoreUrl rest)
termination_by u.length

theorem Restored.eq (restored : Restored u v)
    : restoreUrl u = v := by
  induction restored with
  | nil => rfl
  | plain other tail ih => rw [restoreUrl_cons other, ih]
  | run escapes filled ended tail ih => rw [restoreUrl_run escapes ended, ih]

/-- A run that is a text is restored to it, and any other is kept. -/
theorem restoreRun_cases (bytes : Bytes) (source : Chars)
    : (∃ cs, bytes = Encoding.Utf8.encode cs ∧ restoreRun bytes source = cs)
      ∨ ((∀ cs, bytes ≠ Encoding.Utf8.encode cs) ∧ restoreRun bytes source = source) := by
  unfold restoreRun
  cases decoded : Encoding.Utf8.decode bytes with
  | ok cs => exact .inl ⟨cs, (Encoding.Utf8.decode_eq_ok_iff.mp decoded).symm, rfl⟩
  | error e =>
      refine .inr ⟨fun cs same => ?_, rfl⟩
      rw [Encoding.Utf8.decode_eq_ok_iff.mpr same.symm] at decoded
      cases decoded

-----------------------------------------------------------------------------------------
-- The bytes of a restored destination
-----------------------------------------------------------------------------------------

theorem utf8EncodeChar_ascii (small : c.toNat < 0x80)
    : String.utf8EncodeChar c = [UInt8.ofNat c.toNat] := by
  rw [String.utf8EncodeChar]
  exact if_pos (Nat.le_of_lt_succ small)

/-- A text without bytes of the ASCII range has no character of it. -/
theorem beyond_ascii (high : ∀ x ∈ Encoding.Utf8.encode cs, 0x80 ≤ x.toNat) (held : c ∈ cs)
    : 0x80 ≤ c.toNat := by
  refine Nat.le_of_not_lt fun small => ?_
  have byte : UInt8.ofNat c.toNat ∈ Encoding.Utf8.encode cs := by
    refine List.mem_flatMap.mpr ⟨c, held, ?_⟩
    rw [utf8EncodeChar_ascii small]
    exact List.mem_singleton_self _
  have above := high _ byte
  rw [UInt8.toNat_ofNat'] at above
  omega

/-- A text with the bytes of every character beyond ASCII percent-encoded. -/
def encodeBeyondAscii (cs : Chars) : Chars :=
  cs.flatMap (fun c => if c.toNat < 0x80 then [c] else (String.utf8EncodeChar c).flatMap percentByte)

theorem encodeBeyondAscii_append (s t : Chars)
    : encodeBeyondAscii (s ++ t) = encodeBeyondAscii s ++ encodeBeyondAscii t :=
  List.flatMap_append

theorem encodeBeyondAscii_ascii (ascii : ∀ c ∈ cs, c.toNat < 0x80)
    : encodeBeyondAscii cs = cs := by
  induction cs with
  | nil => rfl
  | cons c cs ih =>
      rw [List.forall_mem_cons] at ascii
      change (if _ then _ else _) ++ encodeBeyondAscii cs = _
      rw [if_pos ascii.1, ih ascii.2]
      rfl

theorem encodeBeyondAscii_high (high : ∀ c ∈ cs, 0x80 ≤ c.toNat)
    : encodeBeyondAscii cs = (Encoding.Utf8.encode cs).flatMap percentByte := by
  induction cs with
  | nil => rfl
  | cons c cs ih =>
      rw [List.forall_mem_cons] at high
      change (if _ then _ else _) ++ encodeBeyondAscii cs = _
      rw [if_neg (by omega), ih high.2, Encoding.Utf8.encode_cons, List.flatMap_append]

/-- Two digits that differ in their letter case at most. -/
def SameDigit (a b : Char) : Prop :=
  Text.isHexDigit a = true ∧ Text.isHexDigit b = true ∧ a.toLower = b.toLower

/-- Two texts that differ in the letter case of the digits of escapes at most. -/
inductive SameEscapes : Chars → Chars → Prop
  | nil : SameEscapes [] []
  | plain {s t : Chars} (c : Char) (tail : SameEscapes s t) : SameEscapes (c :: s) (c :: t)
  | escape {a b a' b' : Char} {s t : Chars} (first : SameDigit a a') (second : SameDigit b b')
    (tail : SameEscapes s t) : SameEscapes ('%' :: a :: b :: s) ('%' :: a' :: b' :: t)

theorem SameEscapes.refl (s : Chars)
    : SameEscapes s s := by
  induction s with
  | nil => exact .nil
  | cons c s ih => exact .plain c ih

theorem SameEscapes.append {s' t' : Chars} (front : SameEscapes s t) (back : SameEscapes s' t')
    : SameEscapes (s ++ s') (t ++ t') := by
  induction front with
  | nil => exact back
  | plain c tail ih => exact .plain c ih
  | escape first second tail ih => exact .escape first second ih

theorem sameDigit_upper {i : Nat} (digit : Text.hexDigitValue? a = some i)
    : SameDigit (Nat.digitChar i).toUpper a := by
  obtain ⟨small, lower⟩ := digitChar_of_hexDigitValue? digit
  have known : ∀ i < 16, Text.isHexDigit (Nat.digitChar i).toUpper = true
      ∧ (Nat.digitChar i).toUpper.toLower = Nat.digitChar i := by decide +kernel
  obtain ⟨inside, back⟩ := known i small
  refine ⟨inside, ?_, back.trans lower⟩
  rw [Text.isHexDigit, digit]
  rfl

/-- The bytes of a run encode to it. -/
theorem Escapes.sameEscapes (run : Escapes source bytes)
    : SameEscapes (bytes.flatMap percentByte) source := by
  induction run with
  | nil => exact .nil
  | cons first later ih =>
      obtain ⟨a, b, rest, n, same, number, high, rfl⟩ := highByte?_eq_some.mp first
      cases same
      obtain ⟨i, j, digit, digit', rfl⟩ := hexNumber?_pair.mp number
      have small := (digitChar_of_hexDigitValue? digit).1
      have small' := (digitChar_of_hexDigitValue? digit').1
      have value : (UInt8.ofNat (16 * i + j)).toNat = 16 * i + j := by
        rw [UInt8.toNat_ofNat']
        omega
      rw [List.flatMap_cons, percentByte, value, hexDigits_byte small small']
      exact .escape (sameDigit_upper digit) (sameDigit_upper digit') ih

/-- A restored destination encodes to what it was. -/
theorem Restored.sameEscapes (restored : Restored u v) (ascii : ∀ c ∈ u, c.toNat < 0x80)
    : SameEscapes (encodeBeyondAscii v) u := by
  induction restored with
  | nil => exact .nil
  | @plain c rest later other tail ih =>
      rw [List.forall_mem_cons] at ascii
      have here : encodeBeyondAscii [c] = [c] := encodeBeyondAscii_ascii (by simpa using ascii.1)
      rw [← List.singleton_append, encodeBeyondAscii_append, here]
      exact .plain c (ih ascii.2)
  | @run source rest later bytes escapes filled ended tail ih =>
      rw [List.forall_mem_append] at ascii
      rw [encodeBeyondAscii_append]
      refine .append ?_ (ih ascii.2)
      rcases restoreRun_cases bytes source with ⟨cs, rfl, text⟩ | ⟨-, kept⟩
      · rw [text, encodeBeyondAscii_high (fun c held => beyond_ascii escapes.high held)]
        exact escapes.sameEscapes
      · rw [kept, encodeBeyondAscii_ascii ascii.1]
        exact .refl source

-----------------------------------------------------------------------------------------
-- Restoring again
-----------------------------------------------------------------------------------------

/-- A run that is not kept as it is becomes a text beyond ASCII. -/
theorem restoreRun_head (escapes : Escapes source bytes) (filled : source ≠ [])
    : (∃ c later, restoreRun bytes source = c :: later ∧ 0x80 ≤ c.toNat)
      ∨ restoreRun bytes source = source := by
  rcases restoreRun_cases bytes source with ⟨cs, rfl, text⟩ | ⟨-, kept⟩
  · cases cs with
    | nil => exact absurd (escapes.eq_nil_iff.mpr rfl) filled
    | cons c cs =>
        exact .inl ⟨c, cs, text, beyond_ascii escapes.high List.mem_cons_self⟩
  · exact .inr kept

/-- A digit that stands in a restored destination stood there before. -/
theorem Restored.digit_inv {i : Nat} (restored : Restored u (c :: v))
    (digit : Text.hexDigitValue? c = some i)
    : ∃ rest, u = c :: rest ∧ Restored rest v := by
  have small := lt_of_hexDigitValue? digit
  generalize whole : c :: v = w at restored
  cases restored with
  | nil => cases whole
  | plain other tail =>
      cases whole
      exact ⟨_, rfl, tail⟩
  | run escapes filled ended tail =>
      exfalso
      rcases restoreRun_head escapes filled with ⟨d, later, same, beyond⟩ | kept
      · rw [same] at whole
        cases whole
        omega
      · rw [kept] at whole
        cases escapes with
        | nil => exact filled rfl
        | cons first more =>
            cases whole
            cases digit

/-- Restoring makes no new escapes. -/
theorem Restored.no_escape (restored : Restored u v) (other : highByte? u = none)
    : highByte? v = none := by
  rw [Option.eq_none_iff_forall_ne_some]
  intro x found
  obtain ⟨a, b, rest, n, rfl, number, high, value⟩ := highByte?_eq_some.mp found
  obtain ⟨i, j, digit, digit', -⟩ := hexNumber?_pair.mp number
  generalize whole : '%' :: a :: b :: rest = w at restored
  cases restored with
  | nil => cases whole
  | plain _ tail =>
      cases whole
      obtain ⟨u', rfl, later⟩ := tail.digit_inv digit
      obtain ⟨u'', rfl, -⟩ := later.digit_inv digit'
      rw [highByte?_eq_some.mpr ⟨a, b, u'', n, rfl, number, high, value⟩] at other
      cases other
  | run escapes filled ended tail =>
      cases escapes with
      | nil => exact filled rfl
      | cons first more =>
          have here := first.symm.trans other
          cases here

/-- A restored destination stays as it is. -/
theorem Restored.restoreUrl_eq (restored : Restored u v)
    : restoreUrl v = v := by
  induction restored with
  | nil => rfl
  | plain other tail ih =>
      rw [restoreUrl_cons ((Restored.plain other tail).no_escape other), ih]
  | @run source rest later bytes escapes filled ended tail ih =>
      rcases restoreRun_cases bytes source with ⟨cs, rfl, text⟩ | ⟨-, kept⟩
      · have unescaped : ∀ c ∈ cs, c ≠ '%' := by
          rintro c held rfl
          exact absurd (beyond_ascii escapes.high held) (by decide)
        rw [text, restoreUrl_unescaped unescaped, ih]
      · rw [kept, restoreUrl_run escapes (tail.no_escape ended), kept, ih]

-----------------------------------------------------------------------------------------
-- The parts of a destination
-----------------------------------------------------------------------------------------

/-- No encoded byte beyond ASCII stands at the end of a text. -/
def EndsApart (before : Chars) : Prop :=
  ∀ start a b, before = start ++ ['%', a, b] → highByte? ['%', a, b] = none

theorem EndsApart.tail (apart : EndsApart (s ++ t))
    : EndsApart t := by
  rintro start a b rfl
  exact apart (s ++ start) a b (List.append_assoc ..).symm

theorem Escapes.not_endsApart (escapes : Escapes source bytes) (filled : source ≠ [])
    : ¬ EndsApart source := by
  intro apart
  induction escapes with
  | nil => exact filled rfl
  | @cons a b x source bytes first later ih =>
      cases later with
      | nil =>
          rw [apart [] a b rfl] at first
          cases first
      | cons second more => exact ih (List.cons_ne_nil _ _) (EndsApart.tail (s := ['%', a, b]) apart)

/-- A percent sign is no part of an escape that starts before it. -/
theorem highByte?_append_percent (filled : before ≠ []) (rest : Chars)
    : highByte? (before ++ '%' :: rest) = highByte? before := by
  ext x
  rw [highByte?_eq_some, highByte?_eq_some]
  constructor
  · rintro ⟨a, b, later, n, whole, number, value⟩
    obtain ⟨i, j, digit, digit', -⟩ := hexNumber?_pair.mp number
    match before, filled with
    | [c], _ =>
        cases whole
        cases digit
    | [c, d], _ =>
        cases whole
        cases digit'
    | c :: d :: e :: more, _ =>
        cases whole
        exact ⟨a, b, more, n, rfl, number, value⟩
  · rintro ⟨a, b, later, n, rfl, number, value⟩
    exact ⟨a, b, later ++ '%' :: rest, n, rfl, number, value⟩

/-- What stands before a percent sign is restored on its own, unless a run goes on there. -/
theorem Restored.append (restored : Restored before v)
    (apart : highByte? ('%' :: rest) = none ∨ EndsApart before)
    : restoreUrl (before ++ '%' :: rest) = v ++ restoreUrl ('%' :: rest) := by
  induction restored with
  | nil => rfl
  | @plain c before later other tail ih =>
      have other' : highByte? (c :: (before ++ '%' :: rest)) = none := by
        rw [← List.cons_append, highByte?_append_percent (List.cons_ne_nil _ _), other]
      rw [List.cons_append, restoreUrl_cons other', List.cons_append]
      rw [ih (apart.imp_right (EndsApart.tail (s := [c])))]
  | @run source before later bytes escapes filled ended tail ih =>
      rw [List.append_assoc, List.append_assoc]
      cases before with
      | nil =>
          obtain rfl : later = [] := tail.eq.symm
          rw [List.append_nil] at apart
          have stop := apart.resolve_right (escapes.not_endsApart filled)
          rw [List.nil_append, restoreUrl_run escapes stop]
          rfl
      | cons c before =>
          have ended' : highByte? (c :: before ++ '%' :: rest) = none := by
            rw [highByte?_append_percent (List.cons_ne_nil _ _), ended]
          rw [restoreUrl_run escapes ended', ih (apart.imp_right EndsApart.tail)]

/-- A longest run of encoded bytes beyond ASCII between two texts. -/
structure LongestRun (before source : Chars) (bytes : Bytes) (after : Chars) : Prop where
  escapes : Escapes source bytes
  filled : source ≠ []
  starts : EndsApart before
  ended : highByte? after = none

theorem LongestRun.restoreUrl_eq (run : LongestRun before source bytes after)
    : restoreUrl (before ++ (source ++ after))
      = restoreUrl before ++ (restoreRun bytes source ++ restoreUrl after) := by
  have split : restoreUrl (before ++ (source ++ after))
      = restoreUrl before ++ restoreUrl (source ++ after) := by
    cases run.escapes with
    | nil => exact absurd rfl run.filled
    | cons first later => exact (restored_restoreUrl before).append (.inr run.starts)
  rw [split, restoreUrl_run run.escapes run.ended]

/-- What stays as it is between two texts: an escape of an ASCII byte, a percent sign that escapes nothing, and
a longest run of encoded bytes beyond ASCII that is no text. -/
inductive LeftAlone : Chars → Chars → Chars → Prop
  | ascii {before after : Chars} {a b : Char} {n : Nat} (number : Text.hexNumber? 2 [a, b] = some n)
    (small : n < 0x80) : LeftAlone before ['%', a, b] after
  | stray {before after : Chars} (other : Text.hexNumber? 2 after = none)
    : LeftAlone before ['%'] after
  | run {before source after : Chars} {bytes : Bytes} (run : LongestRun before source bytes after)
    (broken : ∀ cs, bytes ≠ Encoding.Utf8.encode cs) : LeftAlone before source after

theorem LeftAlone.restoreUrl_eq {part : Chars} (alone : LeftAlone before part after)
    : restoreUrl (before ++ (part ++ after)) = restoreUrl before ++ (part ++ restoreUrl after) := by
  cases alone with
  | @ascii _ a b n number small =>
      have other : highByte? ('%' :: ([a, b] ++ after)) = none := by
        simp [highByte?, number, Option.filter, small]
      have unescaped : ∀ c ∈ [a, b], c ≠ '%' := by
        obtain ⟨i, j, digit, digit', -⟩ := hexNumber?_pair.mp number
        simp only [List.forall_mem_cons, List.not_mem_nil, false_imp_iff, implies_true, and_true]
        constructor <;> rintro rfl <;> contradiction
      change restoreUrl (before ++ '%' :: ([a, b] ++ after)) = _
      rw [(restored_restoreUrl before).append (.inl other), restoreUrl_cons other,
        restoreUrl_unescaped unescaped]
      rfl
  | stray other =>
      have other : highByte? ('%' :: after) = none := by
        rw [Option.eq_none_iff_forall_ne_some]
        intro x found
        obtain ⟨a, b, later, n, same, number, -⟩ := highByte?_eq_some.mp found
        cases same
        obtain ⟨i, j, digits⟩ := hexNumber?_pair.mp number
        rw [hexNumber?_pair.mpr ⟨i, j, digits⟩] at other
        cases other
      change restoreUrl (before ++ '%' :: after) = _
      rw [(restored_restoreUrl before).append (.inl other), restoreUrl_cons other]
      rfl
  | run run broken =>
      rw [run.restoreUrl_eq]
      rcases restoreRun_cases _ part with ⟨cs, text, -⟩ | ⟨-, kept⟩
      · exact absurd text (broken cs)
      · rw [kept]

/-- A restored destination denotes what it did. It encodes to what it was, up to the letter case of digits in
escapes; encoded ASCII, stray percent signs and runs that are no text stay as they are, and every other run
becomes the text it encodes; and nothing changes when it is restored again. -/
theorem restoreUrl_denotes (ascii : ∀ c ∈ u, c.toNat < 0x80)
    : SameEscapes (encodeBeyondAscii (restoreUrl u)) u
      ∧ (∀ before part after, u = before ++ (part ++ after) → LeftAlone before part after →
          restoreUrl u = restoreUrl before ++ (part ++ restoreUrl after))
      ∧ (∀ before source after cs, u = before ++ (source ++ after) →
          LongestRun before source (Encoding.Utf8.encode cs) after →
          restoreUrl u = restoreUrl before ++ (cs ++ restoreUrl after))
      ∧ restoreUrl (restoreUrl u) = restoreUrl u := by
  have restored := restored_restoreUrl u
  refine ⟨restored.sameEscapes ascii, ?_, ?_, restored.restoreUrl_eq⟩
  · rintro before part after rfl alone
    exact alone.restoreUrl_eq
  · rintro before source after cs rfl run
    have text : restoreRun (Encoding.Utf8.encode cs) source = cs := by
      rw [restoreRun, Encoding.Utf8.decode_eq_ok_iff.mpr rfl]
    rw [run.restoreUrl_eq, text]

/-- A letter in small digits is restored, and the escape of an ASCII letter and the percent sign are not. -/
theorem small_digits_denote
    : let u := "/%e6%BC%A2%41%".toList
      let v := "/漢%41%".toList
      (∀ c ∈ u, c.toNat < 0x80)
      ∧ restoreUrl u = v
      ∧ SameEscapes (encodeBeyondAscii v) u
      ∧ LeftAlone "/%e6%BC%A2%41".toList ['%'] []
      ∧ v = restoreUrl "/%e6%BC%A2%41".toList ++ (['%'] ++ restoreUrl [])
      ∧ LongestRun ['/'] "%e6%BC%A2".toList (Encoding.Utf8.encode ['漢']) "%41%".toList
      ∧ v = restoreUrl ['/'] ++ (['漢'] ++ restoreUrl "%41%".toList)
      ∧ restoreUrl v = v := by
  intro u v
  have checked : u.all (fun c => c.toNat < 0x80) = true := by decide
  have ascii : ∀ c ∈ u, c.toNat < 0x80 := by simpa using checked
  have known : restoreUrl u = v := by decide +kernel
  have alone : LeftAlone "/%e6%BC%A2%41".toList ['%'] [] := .stray rfl
  have run : LongestRun ['/'] "%e6%BC%A2".toList (Encoding.Utf8.encode ['漢']) "%41%".toList :=
    { escapes := .cons rfl (.cons rfl (.cons rfl .nil))
      filled := by decide
      starts := by
        intro start a b whole
        have lengths := congrArg List.length whole
        rw [List.length_append, List.length_cons, List.length_nil] at lengths
        change 0 + 1 = start.length + 3 at lengths
        omega
      ended := rfl }
  obtain ⟨same, kept, text, again⟩ := restoreUrl_denotes ascii
  rw [known] at same kept text again
  exact ⟨ascii, known, same, alone, kept _ _ _ (by decide) alone, run, text _ _ _ _ (by decide) run,
    again⟩

end MixedScript.Markdown
