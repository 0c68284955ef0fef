import MixedScript.Output
import MixedScript.Proofs.Result

/-! The encoding that a text is read in: with a signature, UTF-8 with a signature; else UTF-8, if the bytes are
a text in it; else an encoding that a name tells, of the detector or of those that are tried in the end. -/

namespace MixedScript.Encoding

variable {detector : Detector} {codecs : SystemCodecs} {fallbacks : List String} {bs : Bytes} {cs : Chars}
  {d : Decoded} {name : String} {codec : Codec}

theorem ofName?_of_lookup (known : codecNames.lookup (plainName name) = some codec)
    : Codec.ofName? codecs name = some codec := by
  simp [Codec.ofName?, known]

theorem ofName?_utf8
    : Codec.ofName? codecs "utf-8" = some .utf8 :=
  ofName?_of_lookup rfl

theorem ofName?_utf8Signed
    : Codec.ofName? codecs "utf-8-sig" = some .utf8Signed :=
  ofName?_of_lookup rfl

-----------------------------------------------------------------------------------------
-- Reading
-----------------------------------------------------------------------------------------

/-- A text in an encoding is what its codec reads, under the name of the encoding. -/
theorem decodeAs_eq_ok
    : decodeAs codecs name bs = .ok d
      ↔ d.encoding = name ∧ ∃ codec, Codec.ofName? codecs name = some codec ∧ codec.decode bs = some d.text := by
  obtain ⟨text, encoding⟩ := d
  unfold decodeAs
  cases Codec.ofName? codecs name with
  | none => simp
  | some codec =>
      cases read : codec.decode bs with
      | none => simp [read]
      | some cs => simp [read, and_comm, eq_comm]

theorem decodeAs_own (h : decodeAs codecs name bs = .ok d)
    : decodeAs codecs d.encoding bs = .ok d := by
  rw [(decodeAs_eq_ok.mp h).1, h]

theorem decodeFirst_ok {names : List String} (h : (decodeFirst codecs bs names).result = .ok d)
    : decodeAs codecs d.encoding bs = .ok d := by
  induction names with
  | nil => cases h
  | cons name names ih =>
      unfold decodeFirst at h
      split at h
      · next decoded =>
          obtain rfl := Except.ok.inj h
          exact decodeAs_own decoded
      · obtain ⟨_, -, h⟩ := Work.bind_eq_ok.mp h
        exact ih h
      · cases h

/-- How a text has been read. -/
inductive ReadAs (codecs : SystemCodecs) (bs : Bytes) : Decoded → Prop
  | signed {cs : Chars} (signature : bs.take 3 = signature) (read : Utf8.decode (bs.drop 3) = .ok cs)
    : ReadAs codecs bs ⟨cs, "utf-8-sig"⟩
  | unsigned {cs : Chars} (read : Utf8.decode bs = .ok cs) : ReadAs codecs bs ⟨cs, "utf-8"⟩
  /-- Under a name, where the bytes are no text in UTF-8. -/
  | named {d : Decoded} {fault : Utf8.Fault} (bare : bs.take 3 ≠ signature)
    (broken : Utf8.decode bs = .error fault) (read : decodeAs codecs d.encoding bs = .ok d)
    : ReadAs codecs bs d

theorem readAs_of_decode (h : (decode detector codecs fallbacks bs).result = .ok d)
    : ReadAs codecs bs d := by
  unfold decode at h
  split at h
  · next signed =>
      split at h
      · next cs read =>
          obtain rfl := Except.ok.inj h
          exact .signed (beq_iff_eq.mp signed) read
      · cases h
  · next bare =>
      split at h
      · next cs read =>
          obtain rfl := Except.ok.inj h
          exact .unsigned read
      · next fault broken =>
          obtain ⟨_, -, h⟩ := Work.bind_eq_ok.mp h
          obtain ⟨guess, -, h⟩ := Work.bind_eq_ok.mp h
          have named (read : decodeAs codecs d.encoding bs = .ok d) : ReadAs codecs bs d :=
            .named (fun signed => bare (beq_iff_eq.mpr signed)) broken read
          split at h
          · exact named (decodeFirst_ok h)
          · split at h
            · next decoded =>
                obtain rfl := Except.ok.inj h
                exact named (decodeAs_own decoded)
            · obtain ⟨_, -, h⟩ := Work.bind_eq_ok.mp h
              exact named (decodeFirst_ok h)

/-- A text is read in an encoding that exists. -/
theorem decode_ok (h : (decode detector codecs fallbacks bs).result = .ok d)
    : ∃ codec, Codec.ofName? codecs d.encoding = some codec := by
  cases readAs_of_decode h with
  | signed => exact ⟨.utf8Signed, ofName?_utf8Signed⟩
  | unsigned => exact ⟨.utf8, ofName?_utf8⟩
  | named _ _ read =>
      obtain ⟨-, codec, known, -⟩ := decodeAs_eq_ok.mp read
      exact ⟨codec, known⟩

/-- No bytes are a text in UTF-8. -/
theorem decode_nil
    : (decode detector codecs fallbacks []).result = .ok ⟨[], "utf-8"⟩ := rfl

-----------------------------------------------------------------------------------------
-- Writing
-----------------------------------------------------------------------------------------

/-- In an encoding that exists a text fails to be written only for want of a character. -/
theorem encodeAs_error {m : Mishap}
    (known : Codec.ofName? codecs name = some codec) (h : encodeAs codecs name cs = .error m)
    : m = .unencodable := by
  simp only [encodeAs, known] at h
  split at h
  · cases h
  · exact (Except.error.inj h).symm

/-- UTF-8 has every character. -/
theorem encodeAs_utf8 (cs : Chars)
    : encodeAs codecs "utf-8" cs = .ok (Utf8.encode cs) := by
  simp only [encodeAs, ofName?_utf8, Codec.encode]

end MixedScript.Encoding
