import MixedScript.Command.Item
import MixedScript.Proofs.Command.Console
import MixedScript.Proofs.Encoding.Detection
import MixedScript.Proofs.Format.Content

/-! Formatting a file in place. A run that fails leaves the file as it was, unless the formatted text
holds a character that the encoding of the file does not have: then the file has been emptied. -/

namespace MixedScript

open Encoding

-----------------------------------------------------------------------------------------
-- Files
-----------------------------------------------------------------------------------------

variable {s : Surroundings} {options : FormatOptions} {path : String} {f : FormattedFile} {p : Problem}

theorem Work.orUndecodable_ok {α : Type} {message : String} {w : Work α} {a : α}
    (h : (w.orUndecodable message).result = .ok a)
    : w.result = .ok a := by
  unfold Work.orUndecodable at h
  split at h
  · cases h
  · cases h
  · exact h

theorem readFile_ok {bs : Bytes} (h : (readFile s path).result = .ok bs)
    : s.files.entry? (Path.resolve s.current path) = some (some bs) := by
  unfold readFile at h
  split at h
  · next read =>
      obtain rfl := Except.ok.inj h
      exact (Files.read_eq_ok.mp read).1
  · cases h
  · cases h

/-- A file that is formatted has been read, in an encoding that exists; if it was empty, in UTF-8. -/
theorem formatFile_ok (h : (formatFile s options path).result = .ok f)
    : f.path = path
      ∧ (∃ codec, Codec.ofName? s.codecs f.encoding = some codec)
      ∧ ∃ bs, s.files.entry? (Path.resolve s.current path) = some (some bs)
        ∧ (bs = [] → f.encoding = "utf-8") := by
  obtain ⟨bs, read, h⟩ := Work.bind_eq_ok.mp h
  obtain ⟨decoded, decode, h⟩ := Work.bind_eq_ok.mp h
  obtain ⟨_, -, h⟩ := Work.bind_eq_ok.mp h
  obtain ⟨formatted, -, h⟩ := Work.bind_eq_ok.mp h
  obtain rfl := Except.ok.inj h
  have decode := Work.orUndecodable_ok decode
  refine ⟨rfl, decode_ok decode, bs, readFile_ok read, ?_⟩
  rintro rfl
  rw [decode_nil] at decode
  exact (congrArg Decoded.encoding (Except.ok.inj decode)).symm

-----------------------------------------------------------------------------------------
-- In place
-----------------------------------------------------------------------------------------

/-- A file formatted and written back: the tree of files after that, and what has come of it. -/
def formatInPlace (s : Surroundings) (options : FormatOptions) (path : String)
    : Files × Except Problem FormattedFile :=
  match (formatFile s options path).result with
  | .error p => (s.files, .error p)
  | .ok f => ((f.save s).1, (f.save s).2.result.map (fun _ => f))

theorem formatInPlace_error (h : (formatFile s options path).result = .error p)
    : formatInPlace s options path = (s.files, .error p) := by
  rw [formatInPlace, h]

theorem formatInPlace_ok (h : (formatFile s options path).result = .ok f)
    : formatInPlace s options path = ((f.save s).1, (f.save s).2.result.map (fun _ => f)) := by
  rw [formatInPlace, h]

-----------------------------------------------------------------------------------------
-- From the command line
-----------------------------------------------------------------------------------------

namespace Command

variable {setting : Setting} {c : Console} {input : String}

theorem now_tellAll (quiet : setting.logging.file = none) (j : Journal)
    : setting.now (c.tellAll setting.logging setting.stamp j) = setting.now c := by
  rw [Setting.now, Setting.now, tellAll_files quiet]

/-- In the mode that writes, an input that is a file is formatted in place. -/
theorem processItem_write (quiet : setting.logging.file = none) (named : input ≠ standardInput)
    : (processItem setting options .write c input).1.files
        = (formatInPlace (setting.now c) options input).1
      ∧ (processItem setting options .write c input).2
        = (formatInPlace (setting.now c) options input).2.map FormattedFile.changed := by
  have isFile : (input == standardInput) = false := by simp [named]
  simp only [processItem, formatItem, isFile, Setting.follow, Work.bind_pure_result, Bool.false_eq_true,
    if_false]
  cases formatted : (formatFile (setting.now c) options input).result with
  | error p =>
      rw [formatInPlace_error formatted]
      exact ⟨tellAll_files quiet _ _ _, rfl⟩
  | ok f =>
      rw [formatInPlace_ok formatted]
      simp only [Except.map, Mode.action]
      cases changed : f.changed with
      | false =>
          simp only [Bool.false_eq_true, if_false, perform, FormattedFile.save, changed]
          exact ⟨tellAll_files quiet _ _ _, rfl⟩
      | true =>
          simp only [if_true, perform, now_tellAll quiet, Setting.follow]
          cases saved : (f.save (setting.now c)).2.result with
          | error p => exact ⟨tellAll_files quiet _ _ _, rfl⟩
          | ok => exact ⟨tellAll_files quiet _ _ _, rfl⟩

end Command

/-- A formatted file cannot be written back: it can be opened, and thus is emptied, but its encoding
lacks a character of the formatted text. -/
def Unwritable (s : Surroundings) (f : FormattedFile) : Prop :=
  f.changed = true
    ∧ (∃ emptied, s.files.write (Path.resolve s.current f.path) [] = .ok emptied)
    ∧ encodeAs s.codecs f.encoding f.text = .error .unencodable

/-- What happens to a file that is saved. -/
theorem save_cases (s : Surroundings) (f : FormattedFile)
    : f.changed = false ∧ f.save s = (s.files, .pure ())
      ∨ f.changed = true
        ∧ ∃ result, Files.Saves s.files s.codecs (Path.resolve s.current f.path) f.encoding f.text result
          ∧ (f.save s).1 = result.1
          ∧ ((f.save s).2.result = .ok () ↔ result.2 = none) := by
  cases changed : f.changed with
  | false => exact .inl ⟨rfl, by simp only [FormattedFile.save, changed]; rfl⟩
  | true =>
      refine .inr ⟨rfl, _, Files.saves .., ?_⟩
      simp only [FormattedFile.save, changed, if_true]
      split
      · next saved => rw [saved]; exact ⟨rfl, by simp [Work.fail]⟩
      · next saved => rw [saved]; exact ⟨rfl, by simp [Work.tell]⟩

/-- What a file that has been formatted holds once it has been saved in vain. -/
theorem save_failed (formatted : (formatFile s options path).result = .ok f)
    (failed : (f.save s).2.result ≠ .ok ())
    : ((f.save s).1 = s.files ∧ ¬ Unwritable s f)
      ∨ (∃ emptied, s.files.write (Path.resolve s.current path) [] = .ok emptied
        ∧ (f.save s).1 = emptied) ∧ Unwritable s f := by
  obtain ⟨rfl, ⟨codec, known⟩, -⟩ := formatFile_ok formatted
  rcases save_cases s f with ⟨-, same⟩ | ⟨changed, result, saves, tree, succeeds⟩
  · exact absurd (by rw [same]; rfl) failed
  · rw [tree]
    cases saves with
    | closed refused =>
        refine .inl ⟨rfl, fun ⟨_, ⟨emptied, opened⟩, _⟩ => ?_⟩
        cases refused.symm.trans opened
    | emptied opened refused =>
        obtain rfl := encodeAs_error known refused
        exact .inr ⟨⟨_, opened, rfl⟩, changed, ⟨_, opened⟩, refused⟩
    | done => exact absurd (succeeds.mpr rfl) failed

/-- A file whose encoding lacks a character held something before it was emptied. -/
theorem Unwritable.filled (formatted : (formatFile s options path).result = .ok f)
    (h : Unwritable s f)
    : s.files.entry? (Path.resolve s.current path) ≠ some (some []) := by
  obtain ⟨-, -, bs, held, whenEmpty⟩ := formatFile_ok formatted
  intro empty
  obtain rfl := Option.some.inj (Option.some.inj (held.symm.trans empty))
  have refused := h.2.2
  rw [whenEmpty rfl, encodeAs_utf8] at refused
  cases refused

/-- Formatting in place touches no other file, whatever comes of it. -/
theorem formatInPlace_elsewhere (s : Surroundings) (options : FormatOptions) (path : String) {q : Path}
    (other : q ≠ Path.resolve s.current path)
    : Files.entry? (formatInPlace s options path).1 q = s.files.entry? q := by
  cases formatted : (formatFile s options path).result with
  | error p => rw [formatInPlace_error formatted]
  | ok f =>
      obtain ⟨rfl, -⟩ := formatFile_ok formatted
      rw [formatInPlace_ok formatted]
      rcases save_cases s f with ⟨-, same⟩ | ⟨-, result, saves, tree, -⟩
      · rw [same]
      · rw [tree]
        exact saves.elsewhere other

/-- When a file could not be formatted in place, its bytes are those from before exactly if it was not
for want of a character that it could not be written back; in that case it is left empty. No other
file is touched. -/
theorem failed_formatInPlace_keeps_file_iff (failed : (formatInPlace s options path).2 = .error p)
    : let place := Path.resolve s.current path
      let after := (formatInPlace s options path).1
      let before := s.files.entry? place
      let now := after.entry? place
      (now = before ↔ ∀ f, (formatFile s options path).result = .ok f → ¬ Unwritable s f)
        ∧ (now = before ∨ now = some (some []))
        ∧ ∀ q, q ≠ place → after.entry? q = s.files.entry? q := by
  intro place after before now
  rw [← and_assoc]
  refine ⟨?_, fun q other => formatInPlace_elsewhere s options path other⟩
  cases formatted : (formatFile s options path).result with
  | error q =>
      have same : after = s.files := congrArg Prod.fst (formatInPlace_error formatted)
      have kept : now = before := congrArg (fun f => f.entry? place) same
      exact ⟨⟨fun _ _ => nofun, fun _ => kept⟩, .inl kept⟩
  | ok f =>
      have outcome := formatInPlace_ok formatted
      have tree : after = (f.save s).1 := congrArg Prod.fst outcome
      have unsaved : (f.save s).2.result ≠ .ok () := by
        intro saved
        rw [outcome, saved] at failed
        cases failed
      rcases save_failed formatted unsaved with ⟨same, writable⟩ | ⟨⟨emptied, opened, same⟩, broken⟩
      · have same : after = s.files := tree.trans same
        have kept : now = before := congrArg (fun f => f.entry? place) same
        refine ⟨⟨fun _ g this => ?_, fun _ => kept⟩, .inl kept⟩
        obtain rfl := Except.ok.inj this
        exact writable
      · have same : after = emptied := tree.trans same
        have empty : now = some (some []) :=
          (congrArg (fun f => f.entry? place) same).trans (Files.entry?_written opened)
        refine ⟨⟨fun kept => ?_, fun writable => ?_⟩, .inr empty⟩
        · exact absurd (kept.symm.trans empty) (broken.filled formatted)
        · exact absurd broken (writable f rfl)

/-- A file in Latin-1 that links to a place with a CJK name. -/
def accentedFile : Surroundings where
  files := {
    entries := [(["a.md"], some [0xE9, 0x20, 0x5B, 0x61, 0x5D, 0x28, 0x25, 0x45, 0x34, 0x25, 0x42, 0x44,
      0x25, 0x41, 0x30, 0x29, 0x0A])] }
  current := []
  home := []
  detector _ := some ⟨some "ISO-8859-1", 90⟩
  codecs _ := none

theorem accentedFile_fails
    : ∃ p, (formatInPlace accentedFile {} "a.md").2 = .error p := by
  have failed : (formatInPlace accentedFile {} "a.md").2.toOption = none := by decide +kernel
  cases outcome : (formatInPlace accentedFile {} "a.md").2 with
  | error p => exact ⟨p, rfl⟩
  | ok f => simp [outcome, Except.toOption] at failed

theorem accentedFile_emptied
    : Files.entry? (formatInPlace accentedFile {} "a.md").1 (Path.resolve [] "a.md")
      = some (some []) := by
  decide +kernel

/-- The link is written with the character that it stands for, which Latin-1 does not have: the file
could not be written back and is empty. -/
theorem accentedFile_unwritable
    : ∃ p, (formatInPlace accentedFile {} "a.md").2 = .error p
        ∧ ∃ f, (formatFile accentedFile {} "a.md").result = .ok f ∧ Unwritable accentedFile f := by
  obtain ⟨p, failed⟩ := accentedFile_fails
  obtain ⟨kept, -, -⟩ := failed_formatInPlace_keeps_file_iff failed
  refine ⟨p, failed, ?_⟩
  by_contra writable
  have same := kept.mpr fun f formatted broken => writable ⟨f, formatted, broken⟩
  exact absurd (same.symm.trans accentedFile_emptied) (by decide +kernel)

/-- A file that could not be formatted in place may have lost all its bytes. -/
theorem failed_formatInPlace_empties_file
    : ¬ ∀ (s : Surroundings) (options : FormatOptions) (path : String) (p : Problem),
        (formatInPlace s options path).2 = .error p →
        Files.entry? (formatInPlace s options path).1 (Path.resolve s.current path)
          = s.files.entry? (Path.resolve s.current path) := by
  intro keeps
  obtain ⟨p, failed⟩ := accentedFile_fails
  have emptied := (keeps _ _ _ p failed).symm.trans accentedFile_emptied
  exact absurd emptied (by decide +kernel)

end MixedScript
