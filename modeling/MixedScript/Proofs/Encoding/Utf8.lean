import MixedScript.Encoding.Utf8
import MixedScript.Proofs.Result
import Mathlib.Tactic.SplitIfs

/-! UTF-8 is read strictly. Bytes are read as a text exactly if the text is written as these bytes: no overlong
form, no surrogate and no part of a character is let through. -/

namespace MixedScript.Encoding.Utf8

variable {bs rest : Bytes} {cs : Chars} {place : Nat} {b b₁ b₂ b₃ b₄ : UInt8} {o : Open}

-----------------------------------------------------------------------------------------
-- The bytes of a character
-----------------------------------------------------------------------------------------

theorem toNat_ofNat {n : Nat} (valid : n.isValidChar)
    : (Char.ofNat n).val.toNat = n := by
  rw [Char.ofNat, dif_pos valid]
  rfl

theorem eq_of_toNat {n : Nat} (same : n = b.toNat)
    : UInt8.ofNat n = b := by
  rw [same, UInt8.ofNat_toNat]

/-- A byte behind the first one of a character. -/
def Trails (b : UInt8) : Prop :=
  0x80 ≤ b.toNat ∧ b.toNat ≤ 0xBF

theorem encode_one (small : b.toNat < 0x80)
    : String.utf8EncodeChar (Char.ofNat b.toNat) = [b] := by
  have value := toNat_ofNat (n := b.toNat) (.inl (by omega))
  rw [String.utf8EncodeChar, value, if_pos (by omega), eq_of_toNat rfl]

theorem encode_two (first : 0xC2 ≤ b₁.toNat ∧ b₁.toNat ≤ 0xDF) (second : Trails b₂)
    : String.utf8EncodeChar (Char.ofNat (64 * (b₁.toNat - 0xC0) + (b₂.toNat - 0x80)))
      = [b₁, b₂] := by
  obtain ⟨low, high⟩ := second
  generalize code : 64 * (b₁.toNat - 0xC0) + (b₂.toNat - 0x80) = n
  have value := toNat_ofNat (n := n) (.inl (by omega))
  rw [String.utf8EncodeChar, value, if_neg (by omega), if_pos (by omega),
    eq_of_toNat (b := b₁) (by omega), eq_of_toNat (b := b₂) (by omega)]

/-- Three bytes of no overlong form and no surrogate. -/
theorem encode_three (first : 0xE0 ≤ b₁.toNat ∧ b₁.toNat ≤ 0xEF) (second : Trails b₂)
    (third : Trails b₃) (long : b₁.toNat = 0xE0 → 0xA0 ≤ b₂.toNat)
    (scalar : b₁.toNat = 0xED → b₂.toNat ≤ 0x9F)
    : String.utf8EncodeChar
        (Char.ofNat (64 * (64 * (b₁.toNat - 0xE0) + (b₂.toNat - 0x80)) + (b₃.toNat - 0x80)))
      = [b₁, b₂, b₃] := by
  obtain ⟨low₂, high₂⟩ := second
  obtain ⟨low₃, high₃⟩ := third
  generalize code : 64 * (64 * (b₁.toNat - 0xE0) + (b₂.toNat - 0x80)) + (b₃.toNat - 0x80) = n
  have value : (Char.ofNat n).val.toNat = n := by
    apply toNat_ofNat
    rw [Nat.isValidChar]
    omega
  rw [String.utf8EncodeChar, value, if_neg (by omega), if_neg (by omega), if_pos (by omega),
    eq_of_toNat (b := b₁) (by omega), eq_of_toNat (b := b₂) (by omega),
    eq_of_toNat (b := b₃) (by omega)]

/-- Four bytes of no overlong form and no more than the last code point. -/
theorem encode_four (first : 0xF0 ≤ b₁.toNat ∧ b₁.toNat ≤ 0xF4) (second : Trails b₂)
    (third : Trails b₃) (fourth : Trails b₄) (long : b₁.toNat = 0xF0 → 0x90 ≤ b₂.toNat)
    (scalar : b₁.toNat = 0xF4 → b₂.toNat ≤ 0x8F)
    : String.utf8EncodeChar
        (Char.ofNat
          (64 * (64 * (64 * (b₁.toNat - 0xF0) + (b₂.toNat - 0x80)) + (b₃.toNat - 0x80))
            + (b₄.toNat - 0x80)))
      = [b₁, b₂, b₃, b₄] := by
  obtain ⟨low₂, high₂⟩ := second
  obtain ⟨low₃, high₃⟩ := third
  obtain ⟨low₄, high₄⟩ := fourth
  generalize code : 64 * (64 * (64 * (b₁.toNat - 0xF0) + (b₂.toNat - 0x80)) + (b₃.toNat - 0x80))
    + (b₄.toNat - 0x80) = n
  have value : (Char.ofNat n).val.toNat = n := by
    apply toNat_ofNat
    rw [Nat.isValidChar]
    omega
  rw [String.utf8EncodeChar, value, if_neg (by omega), if_neg (by omega), if_neg (by omega),
    eq_of_toNat (b := b₁) (by omega), eq_of_toNat (b := b₂) (by omega),
    eq_of_toNat (b := b₃) (by omega), eq_of_toNat (b := b₄) (by omega)]

-----------------------------------------------------------------------------------------
-- Reading
-----------------------------------------------------------------------------------------

/-- What a byte above the ASCII range opens. -/
inductive Opens (b : UInt8) : Open → Prop
  | two (first : 0xC2 ≤ b.toNat ∧ b.toNat ≤ 0xDF) : Opens b ⟨b, b.toNat - 0xC0, 1, 0, 0x80, 0xBF⟩
  | three {low high} (first : 0xE0 ≤ b.toNat ∧ b.toNat ≤ 0xEF)
    (least : low = if b.toNat = 0xE0 then 0xA0 else 0x80)
    (greatest : high = if b.toNat = 0xED then 0x9F else 0xBF)
    : Opens b ⟨b, b.toNat - 0xE0, 1, 1, low, high⟩
  | four {low high} (first : 0xF0 ≤ b.toNat ∧ b.toNat ≤ 0xF4)
    (least : low = if b.toNat = 0xF0 then 0x90 else 0x80)
    (greatest : high = if b.toNat = 0xF4 then 0x8F else 0xBF)
    : Opens b ⟨b, b.toNat - 0xF0, 1, 2, low, high⟩

theorem opens_of_opening (h : opening b = some o)
    : Opens b o := by
  simp only [opening] at h
  split_ifs at h <;> obtain rfl := Option.some.inj h
  · exact .two ‹_›
  · rw [show 0 = b.toNat - 0xE0 by omega]
    exact .three (by omega) (by simp [*]) (by simp [*])
  · rw [show 0xD = b.toNat - 0xE0 by omega]
    exact .three (by omega) (by simp [*]) (by simp [*])
  · exact .three (by omega) (by simp [*]) (by simp [*])
  · rw [show 0 = b.toNat - 0xF0 by omega]
    exact .four (by omega) (by simp [*]) (by simp [*])
  · exact .four (by omega) (by simp [*]) (by rw [if_neg (by omega)])
  · rw [show 4 = b.toNat - 0xF0 by omega]
    exact .four (by omega) (by simp [*]) (by simp [*])

theorem opening_of_opens (h : Opens b o)
    : opening b = some o := by
  cases h with
  | two first => simp [opening, first]
  | three first least greatest =>
      subst least greatest
      simp only [opening]
      split_ifs <;> first | omega | simp_all
  | four first least greatest =>
      subst least greatest
      simp only [opening]
      split_ifs <;> first | omega | simp_all

/-- A character with the bytes that stand for it. -/
inductive Spelled : Char → Bytes → Prop
  | one {b : UInt8} (small : b.toNat < 0x80) : Spelled (Char.ofNat b.toNat) [b]
  | two {b₁ b₂ : UInt8} (first : 0xC2 ≤ b₁.toNat ∧ b₁.toNat ≤ 0xDF) (second : Trails b₂)
    : Spelled (Char.ofNat (64 * (b₁.toNat - 0xC0) + (b₂.toNat - 0x80))) [b₁, b₂]
  | three {b₁ b₂ b₃ : UInt8} (first : 0xE0 ≤ b₁.toNat ∧ b₁.toNat ≤ 0xEF)
    (second : Trails b₂) (third : Trails b₃)
    (long : b₁.toNat = 0xE0 → 0xA0 ≤ b₂.toNat) (scalar : b₁.toNat = 0xED → b₂.toNat ≤ 0x9F)
    : Spelled
        (Char.ofNat (64 * (64 * (b₁.toNat - 0xE0) + (b₂.toNat - 0x80)) + (b₃.toNat - 0x80)))
        [b₁, b₂, b₃]
  | four {b₁ b₂ b₃ b₄ : UInt8} (first : 0xF0 ≤ b₁.toNat ∧ b₁.toNat ≤ 0xF4)
    (second : Trails b₂) (third : Trails b₃) (fourth : Trails b₄)
    (long : b₁.toNat = 0xF0 → 0x90 ≤ b₂.toNat)
    (scalar : b₁.toNat = 0xF4 → b₂.toNat ≤ 0x8F)
    : Spelled
        (Char.ofNat
          (64 * (64 * (64 * (b₁.toNat - 0xF0) + (b₂.toNat - 0x80)) + (b₃.toNat - 0x80))
            + (b₄.toNat - 0x80)))
        [b₁, b₂, b₃, b₄]

theorem Spelled.encode_eq {c : Char} (h : Spelled c bs)
    : String.utf8EncodeChar c = bs := by
  cases h with
  | one small => exact encode_one small
  | two first second => exact encode_two first second
  | three first second third long scalar => exact encode_three first second third long scalar
  | four first second third fourth long scalar =>
      exact encode_four first second third fourth long scalar

theorem spelled_of_toNat {c : Char} {n : Nat} (h : Spelled (Char.ofNat n) bs) (same : n = c.toNat)
    : Spelled c bs := by
  rwa [same, Char.ofNat_toNat] at h

/-- Every character is spelled by its bytes. -/
theorem spelled_utf8EncodeChar (c : Char)
    : Spelled c (String.utf8EncodeChar c) := by
  have valid : c.toNat.isValidChar := c.valid
  rw [Nat.isValidChar] at valid
  have value : c.val.toNat = c.toNat := rfl
  rw [String.utf8EncodeChar, value]
  by_cases one : c.toNat ≤ 0x7F
  · rw [if_pos one]
    apply spelled_of_toNat (Spelled.one ?_) <;> rw [UInt8.toNat_ofNat'] <;> omega
  rw [if_neg one]
  by_cases two : c.toNat ≤ 0x7FF
  · rw [if_pos two]
    apply spelled_of_toNat (Spelled.two ?_ ?_) <;>
      simp only [Trails, UInt8.toNat_ofNat'] <;> omega
  rw [if_neg two]
  by_cases three : c.toNat ≤ 0xFFFF
  · rw [if_pos three]
    apply spelled_of_toNat (Spelled.three ?_ ?_ ?_ ?_ ?_) <;>
      simp only [Trails, UInt8.toNat_ofNat'] <;> omega
  · rw [if_neg three]
    apply spelled_of_toNat (Spelled.four ?_ ?_ ?_ ?_ ?_ ?_) <;>
      simp only [Trails, UInt8.toNat_ofNat'] <;> omega

theorem push_eq_ok {c : Char} {read : Except Fault Chars}
    : (do let later ← read; return c :: later) = .ok cs
      ↔ ∃ later, cs = c :: later ∧ read = .ok later := by
  cases read with
  | error e => simp [bind, Except.bind]
  | ok later => simp [bind, Except.bind, pure, Except.pure, eq_comm]

/-- Reading on inside a character with one byte owed. -/
theorem decodeFrom_last {bits read low high : Nat}
    : decodeFrom place (some ⟨b, bits, read, 0, low, high⟩) bs = .ok cs
      ↔ ∃ next rest later, bs = next :: rest ∧ (low ≤ next.toNat ∧ next.toNat ≤ high)
        ∧ cs = Char.ofNat (64 * bits + (next.toNat - 0x80)) :: later
        ∧ decodeFrom (place + 1) none rest = .ok later := by
  cases bs with
  | nil => simp [decodeFrom]
  | cons next rest =>
      by_cases inside : low ≤ next.toNat ∧ next.toNat ≤ high
      · simp only [decodeFrom, if_pos inside, push_eq_ok]
        constructor
        · rintro ⟨later, rfl, read⟩
          exact ⟨next, rest, later, rfl, inside, rfl, read⟩
        · rintro ⟨_, _, later, ⟨⟩, -, rfl, read⟩
          exact ⟨later, rfl, read⟩
      · simp only [decodeFrom, if_neg inside]
        constructor
        · intro failed
          cases failed
        · rintro ⟨_, _, -, ⟨⟩, owned, -⟩
          exact absurd owned inside

/-- Reading on inside a character with more bytes owed. -/
theorem decodeFrom_more {bits read owed low high : Nat}
    : decodeFrom place (some ⟨b, bits, read, owed + 1, low, high⟩) bs = .ok cs
      ↔ ∃ next rest, bs = next :: rest ∧ (low ≤ next.toNat ∧ next.toNat ≤ high)
        ∧ decodeFrom (place + 1)
            (some ⟨b, 64 * bits + (next.toNat - 0x80), read + 1, owed, 0x80, 0xBF⟩) rest
          = .ok cs := by
  cases bs with
  | nil => simp [decodeFrom]
  | cons next rest =>
      by_cases inside : low ≤ next.toNat ∧ next.toNat ≤ high
      · simp only [decodeFrom, if_pos inside]
        constructor
        · intro read
          exact ⟨next, rest, rfl, inside, read⟩
        · rintro ⟨_, _, ⟨⟩, -, read⟩
          exact read
      · simp only [decodeFrom, if_neg inside]
        constructor
        · intro failed
          cases failed
        · rintro ⟨_, _, ⟨⟩, owned, -⟩
          exact absurd owned inside

/-- Reading a character takes the bytes that spell it. -/
theorem spelled_of_decodeFrom (h : decodeFrom place none (b :: rest) = .ok cs)
    : ∃ c bytes left later place', Spelled c bytes ∧ b :: rest = bytes ++ left
      ∧ cs = c :: later ∧ decodeFrom place' none left = .ok later := by
  rw [decodeFrom] at h
  split at h
  · next small =>
      obtain ⟨later, rfl, read⟩ := push_eq_ok.mp h
      exact ⟨_, _, rest, later, _, .one small, rfl, rfl, read⟩
  · cases opened : opening b with
    | none => simp [opened] at h
    | some o =>
        simp only [opened] at h
        cases opens_of_opening opened with
        | two first =>
            obtain ⟨b₂, left, later, rfl, second, rfl, read⟩ := decodeFrom_last.mp h
            exact ⟨_, _, left, later, _, .two first second, rfl, rfl, read⟩
        | three first least greatest =>
            obtain ⟨b₂, _, rfl, second, h⟩ := decodeFrom_more.mp h
            obtain ⟨b₃, left, later, rfl, third, rfl, read⟩ := decodeFrom_last.mp h
            refine ⟨_, _, left, later, _, .three first ?_ third ?_ ?_, rfl, rfl, read⟩
            · rw [least, greatest] at second
              constructor <;> split_ifs at second <;> omega
            · intro lead
              rw [least, if_pos lead] at second
              exact second.1
            · intro lead
              rw [greatest, if_pos lead] at second
              exact second.2
        | four first least greatest =>
            obtain ⟨b₂, _, rfl, second, h⟩ := decodeFrom_more.mp h
            obtain ⟨b₃, _, rfl, third, h⟩ := decodeFrom_more.mp h
            obtain ⟨b₄, left, later, rfl, fourth, rfl, read⟩ := decodeFrom_last.mp h
            refine ⟨_, _, left, later, _, .four first ?_ third fourth ?_ ?_, rfl, rfl, read⟩
            · rw [least, greatest] at second
              constructor <;> split_ifs at second <;> omega
            · intro lead
              rw [least, if_pos lead] at second
              exact second.1
            · intro lead
              rw [greatest, if_pos lead] at second
              exact second.2

/-- The bytes that spell a character are read as that character. -/
theorem decodeFrom_of_spelled {c : Char} (spelled : Spelled c bs)
    (read : ∀ place, decodeFrom place none rest = .ok cs) (place : Nat)
    : decodeFrom place none (bs ++ rest) = .ok (c :: cs) := by
  cases spelled with
  | one small =>
      rw [List.singleton_append, decodeFrom, if_pos small]
      exact push_eq_ok.mpr ⟨cs, rfl, read _⟩
  | @two b₁ b₂ first second =>
      rw [List.cons_append, decodeFrom, if_neg (by omega), opening_of_opens (.two first)]
      exact decodeFrom_last.mpr ⟨b₂, rest, cs, rfl, second, rfl, read _⟩
  | @three b₁ b₂ b₃ first second third long scalar =>
      rw [List.cons_append, decodeFrom, if_neg (by omega),
        opening_of_opens (.three first rfl rfl)]
      refine decodeFrom_more.mpr ⟨b₂, _, rfl, ?_, ?_⟩
      · obtain ⟨low, high⟩ := second
        constructor <;> split_ifs <;> omega
      · exact decodeFrom_last.mpr ⟨b₃, rest, cs, rfl, third, rfl, read _⟩
  | @four b₁ b₂ b₃ b₄ first second third fourth long scalar =>
      rw [List.cons_append, decodeFrom, if_neg (by omega),
        opening_of_opens (.four first rfl rfl)]
      refine decodeFrom_more.mpr ⟨b₂, _, rfl, ?_, ?_⟩
      · obtain ⟨low, high⟩ := second
        constructor <;> split_ifs <;> omega
      · refine decodeFrom_more.mpr ⟨b₃, _, rfl, third, ?_⟩
        exact decodeFrom_last.mpr ⟨b₄, rest, cs, rfl, fourth, rfl, read _⟩

theorem encode_cons (c : Char) (cs : Chars)
    : encode (c :: cs) = String.utf8EncodeChar c ++ encode cs := rfl

theorem encode_of_decodeFrom (h : decodeFrom place none bs = .ok cs)
    : encode cs = bs := by
  induction cs generalizing place bs with
  | nil =>
      cases bs with
      | nil => rfl
      | cons b rest =>
          obtain ⟨c, bytes, left, later, place', -, -, impossible, -⟩ := spelled_of_decodeFrom h
          cases impossible
  | cons c cs ih =>
      cases bs with
      | nil => cases h
      | cons b rest =>
          obtain ⟨c, bytes, left, later, place', spelled, whole, same, read⟩ :=
            spelled_of_decodeFrom h
          obtain ⟨rfl, rfl⟩ := List.cons.inj same
          rw [encode_cons, spelled.encode_eq, ih read, whole]

theorem decodeFrom_encode (cs : Chars) (place : Nat)
    : decodeFrom place none (encode cs) = .ok cs := by
  induction cs generalizing place with
  | nil => rfl
  | cons c cs ih => exact decodeFrom_of_spelled (spelled_utf8EncodeChar c) ih place

/-- Bytes are read as a text exactly if they are the bytes of the text. -/
theorem decode_eq_ok_iff
    : decode bs = .ok cs ↔ encode cs = bs := by
  constructor
  · exact encode_of_decodeFrom
  · rintro rfl
    exact decodeFrom_encode cs 0

end MixedScript.Encoding.Utf8
