import MixedScript.Proofs.Encoding.DoubleByte

/-! Texts in GB 18030. A place tells its bytes, so a text is written as the bytes that it was read from. -/

namespace MixedScript.Encoding.Gb18030

variable {a b c d : UInt8} {bs rest : Bytes} {cs : Chars}

-----------------------------------------------------------------------------------------
-- Places and their bytes
-----------------------------------------------------------------------------------------

theorem doubleBytes_place (first : 0x81 ≤ a.toNat ∧ a.toNat ≤ 0xFE)
    (second : 0x40 ≤ b.toNat ∧ b.toNat ≤ 0xFE ∧ b.toNat ≠ 0x7F)
    : doubleBytes ((a.toNat - 0x81) * secondBytes + (b.toNat - 0x40) - (if 0x7F < b.toNat then 1 else 0))
      = [a, b] := by
  have row : ∃ low < 190,
      (a.toNat - 0x81) * secondBytes + (b.toNat - 0x40) - (if 0x7F < b.toNat then 1 else 0)
        = (a.toNat - 0x81) * 190 + low
      ∧ 0x40 + low + (if low < 63 then 0 else 1) = b.toNat := by
    refine ⟨b.toNat - 0x40 - (if 0x7F < b.toNat then 1 else 0), ?_, ?_, ?_⟩ <;>
      split_ifs <;> (try simp only [secondBytes]) <;> omega
  obtain ⟨low, small, place, back⟩ := row
  have high : 0x81 + ((a.toNat - 0x81) * 190 + low) / 190 = a.toNat := by omega
  have within : ((a.toNat - 0x81) * 190 + low) % 190 = low := by omega
  rw [place]
  simp only [doubleBytes, secondBytes, high, within, back, UInt8.ofNat_toNat]

theorem fourBytes_place (first : 0x81 ≤ a.toNat ∧ a.toNat ≤ 0xFE) (second : 0x30 ≤ b.toNat ∧ b.toNat ≤ 0x39)
    (third : 0x81 ≤ c.toNat ∧ c.toNat ≤ 0xFE) (fourth : 0x30 ≤ d.toNat ∧ d.toNat ≤ 0x39)
    : fourBytes (((a.toNat - 0x81) * 10 + (b.toNat - 0x30)) * 1260 + (c.toNat - 0x81) * 10 + (d.toNat - 0x30))
      = [a, b, c, d] := by
  generalize same
    : ((a.toNat - 0x81) * 10 + (b.toNat - 0x30)) * 1260 + (c.toNat - 0x81) * 10 + (d.toNat - 0x30) = place
  have one : 0x81 + place / 12600 = a.toNat := by omega
  have two : 0x30 + place / 1260 % 10 = b.toNat := by omega
  have three : 0x81 + place / 10 % 126 = c.toNat := by omega
  have four : 0x30 + place % 10 = d.toNat := by omega
  simp only [fourBytes, one, two, three, four, UInt8.ofNat_toNat]

theorem encodeChar_ascii (low : a.toNat < 0x80)
    : encodeChar (Char.ofNat a.toNat) = [a] := by
  have code : (Char.ofNat a.toNat).toNat = a.toNat := toNat_charOfNat (.inl (by omega))
  simp only [encodeChar, code, if_pos low, UInt8.ofNat_toNat]

-----------------------------------------------------------------------------------------
-- Texts
-----------------------------------------------------------------------------------------

/-- What reading does with a byte in front of others. -/
theorem decode_cons (a : UInt8) (bs : Bytes)
    : decode (a :: bs)
      = if a.toNat < 0x80 then (decode bs).map (Char.ofNat a.toNat :: ·)
        else if a.toNat == 0x80 || a.toNat == 0xFF then none
        else
          match bs with
          | [] => none
          | b :: bs =>
            if 0x30 ≤ b.toNat && b.toNat ≤ 0x39 then
              match bs with
              | c :: d :: bs =>
                if 0x81 ≤ c.toNat && c.toNat ≤ 0xFE && 0x30 ≤ d.toNat && d.toNat ≤ 0x39 then
                  match fourByteChar?
                    (((a.toNat - 0x81) * 10 + (b.toNat - 0x30)) * 1260 + (c.toNat - 0x81) * 10
                      + (d.toNat - 0x30)) with
                  | some char => (decode bs).map (char :: ·)
                  | none => none
                else none
              | _ => none
            else if 0x40 ≤ b.toNat && b.toNat ≤ 0xFE && b.toNat != 0x7F then
              match doubleByteChar?
                ((a.toNat - 0x81) * secondBytes + (b.toNat - 0x40) - (if 0x7F < b.toNat then 1 else 0)) with
              | some char => (decode bs).map (char :: ·)
              | none => none
            else none := by
  delta decode
  match bs with
  | [] | [_] | [_, _] | _ :: _ :: _ :: _ => rfl

/-- Bytes that start with a character, and what follows it. -/
inductive StartsWith : Bytes → Char → Bytes → Prop
  | one {a : UInt8} {rest : Bytes} (low : a.toNat < 0x80)
    : StartsWith (a :: rest) (Char.ofNat a.toNat) rest
  | two {a b : UInt8} {char : Char} {rest : Bytes} (first : 0x81 ≤ a.toNat ∧ a.toNat ≤ 0xFE)
    (second : 0x40 ≤ b.toNat ∧ b.toNat ≤ 0xFE ∧ b.toNat ≠ 0x7F)
    (found
      : doubleByteChar?
          ((a.toNat - 0x81) * secondBytes + (b.toNat - 0x40) - (if 0x7F < b.toNat then 1 else 0))
        = some char)
    : StartsWith (a :: b :: rest) char rest
  | four {a b c d : UInt8} {char : Char} {rest : Bytes} (first : 0x81 ≤ a.toNat ∧ a.toNat ≤ 0xFE)
    (second : 0x30 ≤ b.toNat ∧ b.toNat ≤ 0x39) (third : 0x81 ≤ c.toNat ∧ c.toNat ≤ 0xFE)
    (fourth : 0x30 ≤ d.toNat ∧ d.toNat ≤ 0x39)
    (found
      : fourByteChar?
          (((a.toNat - 0x81) * 10 + (b.toNat - 0x30)) * 1260 + (c.toNat - 0x81) * 10 + (d.toNat - 0x30))
        = some char)
    : StartsWith (a :: b :: c :: d :: rest) char rest

theorem StartsWith.encodeChar_append {char : Char} (starts : StartsWith bs char rest)
    : encodeChar char ++ rest = bs := by
  cases starts with
  | one low => rw [encodeChar_ascii low, List.singleton_append]
  | two first second found =>
      rw [encodeChar_of_doubleByteChar? found, doubleBytes_place first second]
      rfl
  | four first second third fourth found =>
      rw [encodeChar_of_fourByteChar? found, fourBytes_place first second third fourth]
      rfl

theorem StartsWith.length_lt {char : Char} (starts : StartsWith bs char rest)
    : rest.length < bs.length := by
  cases starts <;> simp only [List.length_cons] <;> omega

/-- Reading takes one character after the other. -/
theorem startsWith_of_decode (read : decode (a :: bs) = some cs)
    : ∃ char rest later, StartsWith (a :: bs) char rest ∧ decode rest = some later ∧ cs = char :: later := by
  rw [decode_cons] at read
  split at read
  · next low =>
      obtain ⟨later, behind, rfl⟩ := Option.map_eq_some_iff.mp read
      exact ⟨_, bs, later, .one low, behind, rfl⟩
  split at read
  · cases read
  next high lead =>
  have first : 0x81 ≤ a.toNat ∧ a.toNat ≤ 0xFE := by
    have bound := a.toNat_lt
    simp only [Bool.or_eq_true, beq_iff_eq] at lead
    omega
  split at read
  · cases read
  next b bs =>
  split at read
  · next second =>
      simp only [Bool.and_eq_true, decide_eq_true_eq] at second
      split at read
      · next c d bs =>
          split at read
          · next more =>
              simp only [Bool.and_eq_true, decide_eq_true_eq] at more
              split at read
              · next char found =>
                  obtain ⟨later, behind, rfl⟩ := Option.map_eq_some_iff.mp read
                  exact ⟨char, bs, later, .four first second more.1.1 ⟨more.1.2, more.2⟩ found, behind, rfl⟩
              · cases read
          · cases read
      · cases read
  · split at read
    · next second =>
        simp only [Bool.and_eq_true, decide_eq_true_eq, bne_iff_ne] at second
        split at read
        · next char found =>
            obtain ⟨later, behind, rfl⟩ := Option.map_eq_some_iff.mp read
            exact ⟨char, bs, later, .two first ⟨second.1.1, second.1.2, second.2⟩ found, behind, rfl⟩
        · cases read
    · cases read

/-- A text is written as the bytes that it was read from. By induction on the length of the bytes, for a
character takes up to four of them. -/
theorem encode_of_decode (read : decode bs = some cs)
    : cs.flatMap encodeChar = bs := by
  induction length : bs.length using Nat.strongRecOn generalizing bs cs with
  | ind n ih =>
      cases bs with
      | nil =>
          obtain rfl := Option.some.inj read
          rfl
      | cons a bs =>
          obtain ⟨char, rest, later, starts, behind, rfl⟩ := startsWith_of_decode read
          rw [List.flatMap_cons, ih _ (length ▸ starts.length_lt) behind rfl, starts.encodeChar_append]

end MixedScript.Encoding.Gb18030
