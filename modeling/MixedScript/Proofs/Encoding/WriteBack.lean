import MixedScript.Proofs.Encoding.Detection
import MixedScript.Proofs.Encoding.Gb18030
import MixedScript.Proofs.Files

/-! Writing back what has been read. The name of an encoding tells the bytes of a text, with one exception: in
units of sixteen bits with a mark, the text is written with the lesser byte first, whatever order it was read in
and whether there was a mark or not. The text itself is the same even then. Of a codec of the system nothing is
known but what it reads and writes. -/

namespace MixedScript.Encoding

variable {detector : Detector} {codecs : SystemCodecs} {tried : List String} {bs : Bytes} {cs : Chars}
  {d : Decoded} {codec : Codec}

-----------------------------------------------------------------------------------------
-- Codecs
-----------------------------------------------------------------------------------------

theorem Utf8.encode_of_toOption (read : (Utf8.decode bs).toOption = some cs)
    : Utf8.encode cs = bs :=
  Utf8.decode_eq_ok_iff.mp (ok_of_toOption read)

/-- Whether a codec writes a text as the bytes that it was read from: with a signature if they have one, and in
marked units if they start with the mark of the lesser byte first. -/
def Codec.Restores : Codec → Bytes → Chars → Prop
  | utf8Signed, bs, _ => bs.take 3 = signature
  | utf16, bs, _ => ∃ rest, bs = 0xFF :: 0xFE :: rest
  | system codec, bs, cs => codec.encode cs = some bs
  | _, _, _ => True

/-- A text in marked units is written with the lesser byte first, and as it was read if it was marked so. -/
theorem decodeMarkedUnits_back (read : decodeMarkedUnits bs = some cs)
    : decodeMarkedUnits (0xFF :: 0xFE :: encodeUnits false cs) = some cs
      ∧ (0xFF :: 0xFE :: encodeUnits false cs = bs ↔ ∃ rest, bs = 0xFF :: 0xFE :: rest) := by
  refine ⟨decodeUnits_eq_some_iff.mpr rfl, fun same => ⟨_, same.symm⟩, ?_⟩
  rintro ⟨rest, rfl⟩
  have written : encodeUnits false cs = rest := decodeUnits_eq_some_iff.mp read
  rw [written]

/-- A text with a signature is written with one, and as it was read if it had one. -/
theorem utf8Signed_back (read : Codec.utf8Signed.decode bs = some cs)
    : Codec.utf8Signed.decode (signature ++ Utf8.encode cs) = some cs
      ∧ (signature ++ Utf8.encode cs = bs ↔ bs.take 3 = signature) := by
  refine ⟨?_, ?_, fun signed => ?_⟩
  · simp [Codec.decode, signature, Utf8.decode_eq_ok_iff.mpr rfl, Except.toOption]
  · rintro rfl
    rfl
  · have body : (Utf8.decode (bs.drop 3)).toOption = some cs := by
      simpa [Codec.decode, signed] using read
    rw [Utf8.encode_of_toOption body, ← signed, List.take_append_drop]

/-- A codec writes what it has read as the same bytes exactly where it is said to restore them. -/
theorem Codec.encode_eq_iff_restores (read : codec.decode bs = some cs)
    : codec.encode cs = some bs ↔ codec.Restores bs cs := by
  cases codec with
  | ascii | latin1 => exact iff_true_intro (encodeBelow_of_decodeBelow (by decide) read)
  | utf8 => exact iff_true_intro (congrArg some (Utf8.encode_of_toOption read))
  | utf8Signed => exact Option.some_inj.trans (utf8Signed_back read).2
  | utf16 => exact Option.some_inj.trans (decodeMarkedUnits_back read).2
  | utf16Little | utf16Big => exact iff_true_intro (congrArg some (decodeUnits_eq_some_iff.mp read))
  | gb18030 => exact iff_true_intro (congrArg some (Gb18030.encode_of_decode read))
  | system => exact Iff.rfl

/-- Each codec that is described here has bytes for every text that it has read, and reads them as that text. -/
theorem Codec.decode_encode (own : ∀ system, codec ≠ .system system) (read : codec.decode bs = some cs)
    : ∃ back, codec.encode cs = some back ∧ codec.decode back = some cs := by
  cases codec with
  | utf8Signed => exact ⟨_, rfl, (utf8Signed_back read).1⟩
  | utf16 => exact ⟨_, rfl, (decodeMarkedUnits_back read).1⟩
  | system codec => exact absurd rfl (own codec)
  | _ => exact ⟨bs, (encode_eq_iff_restores read).mpr trivial, read⟩

-----------------------------------------------------------------------------------------
-- Texts whose encoding has been found out
-----------------------------------------------------------------------------------------

/-- A text is read by a codec, and only bytes with a signature by the one that writes it. -/
theorem ReadAs.exists_codec (read : ReadAs codecs bs d)
    : ∃ codec,
        Codec.ofName? codecs d.encoding = some codec
        ∧ codec.decode bs = some d.text
        ∧ (codec = .utf8Signed → bs.take 3 = signature) := by
  cases read with
  | @signed cs signed read =>
      refine ⟨.utf8Signed, ofName?_utf8Signed, ?_, fun _ => signed⟩
      simp [Codec.decode, signed, read, Except.toOption]
  | @unsigned cs read =>
      refine ⟨.utf8, ofName?_utf8, ?_, nofun⟩
      simp [Codec.decode, read, Except.toOption]
  | named bare broken read =>
      obtain ⟨-, codec, known, read⟩ := decodeAs_eq_ok.mp read
      refine ⟨codec, known, read, ?_⟩
      rintro rfl
      simp [Codec.decode, bare, broken, Except.toOption] at read

theorem encodeAs_eq_ok (known : Codec.ofName? codecs d.encoding = some codec)
    : encodeAs codecs d.encoding cs = .ok bs ↔ codec.encode cs = some bs := by
  simp only [encodeAs, known]
  cases codec.encode cs <;> simp

/-- What a text is written as goes into every file that can be written to. -/
theorem send_of_encodeAs {f opened : Files} {p : Path} {encoding : String}
    (written : encodeAs codecs encoding cs = .ok bs) (emptied : Files.write f p [] = .ok opened)
    : ∃ tree, send f codecs (.file p) encoding cs = .ok (.file tree) ∧ tree.entry? p = some (some bs) := by
  obtain ⟨tree, filled⟩ := Files.write_again emptied bs
  exact ⟨tree, by simp only [send, Files.save, emptied, written, filled], Files.entry?_written filled⟩

/-- A text that has been read is written, in the encoding that it was read in, as the bytes that it was read from,
exactly if the codec of that encoding restores them. Of the codecs that are described here the one of marked units
alone may fail to, where the bytes do not start with the mark of the lesser byte first; even then the text is
written, and read as the same text. A codec of the system may read two sequences of bytes as one text. What a text
is written as goes into every file that can be written to. -/
theorem decode_written_back (read : (decode detector codecs tried bs).result = .ok d)
    : ∃ codec,
        Codec.ofName? codecs d.encoding = some codec
        ∧ codec.decode bs = some d.text
        ∧ (encodeAs codecs d.encoding d.text = .ok bs ↔ codec.Restores bs d.text)
        ∧ ((∀ system, codec ≠ .system system) →
            (codec ≠ .utf16 → encodeAs codecs d.encoding d.text = .ok bs)
            ∧ ∃ back, encodeAs codecs d.encoding d.text = .ok back ∧ decodeAs codecs d.encoding back = .ok d)
        ∧ ∀ back, encodeAs codecs d.encoding d.text = .ok back →
            ∀ f p opened, Files.write f p [] = .ok opened →
              ∃ tree, send f codecs (.file p) d.encoding d.text = .ok (.file tree)
                ∧ tree.entry? p = some (some back) := by
  obtain ⟨codec, known, read, signed⟩ := (readAs_of_decode read).exists_codec
  have restored := (encodeAs_eq_ok known).trans (Codec.encode_eq_iff_restores read)
  refine ⟨codec, known, read, restored, fun own => ⟨fun unmarked => restored.mpr ?_, ?_⟩,
    fun _ written _ _ _ emptied => send_of_encodeAs written emptied⟩
  · cases codec with
    | utf8Signed => exact signed rfl
    | utf16 => exact absurd rfl unmarked
    | system codec => exact absurd rfl (own codec)
    | _ => trivial
  · obtain ⟨back, written, reread⟩ := Codec.decode_encode own read
    exact ⟨back, (encodeAs_eq_ok known).mpr written, decodeAs_eq_ok.mpr ⟨rfl, codec, known, reread⟩⟩

/-- Marked units with the lesser byte first are written back as they were read. -/
theorem little_units_written_back
    : (decode (fun _ => some ⟨some "UTF-16", 100⟩) (fun _ => none) fallbacks [0xFF, 0xFE, 0x60, 0x4F]).result
        = .ok ⟨['你'], "UTF-16"⟩
      ∧ encodeAs (fun _ => none) "UTF-16" ['你'] = .ok [0xFF, 0xFE, 0x60, 0x4F] := by
  have read
      : (decode (fun _ => some ⟨some "UTF-16", 100⟩) (fun _ => none) fallbacks [0xFF, 0xFE, 0x60, 0x4F]).result
        = .ok ⟨['你'], "UTF-16"⟩ :=
    ok_of_toOption (by decide +kernel)
  obtain ⟨codec, known, -, restored, -⟩ := decode_written_back read
  obtain rfl : Codec.utf16 = codec :=
    Option.some_inj.mp ((ofName?_of_lookup rfl).symm.trans known)
  exact ⟨read, restored.mpr ⟨_, rfl⟩⟩

/-- The mark of the greater byte first is not kept: the text is written the other way round. -/
theorem big_units_written_little
    : ¬ ∀ (detector : Detector) (codecs : SystemCodecs) (bs : Bytes) (d : Decoded),
          (decode detector codecs fallbacks bs).result = .ok d → encodeAs codecs d.encoding d.text = .ok bs := by
  intro always
  have read
      : (decode (fun _ => some ⟨some "UTF-16", 100⟩) (fun _ => none) fallbacks [0xFE, 0xFF, 0x4F, 0x60]).result
        = .ok ⟨['你'], "UTF-16"⟩ :=
    ok_of_toOption (by decide +kernel)
  have written : encodeAs (fun _ => none) "UTF-16" ['你'] = .ok [0xFF, 0xFE, 0x60, 0x4F] :=
    ok_of_toOption (by decide +kernel)
  have same := (always _ _ _ _ read).symm.trans written
  exact absurd (Except.ok.inj same) (by decide)

end MixedScript.Encoding
