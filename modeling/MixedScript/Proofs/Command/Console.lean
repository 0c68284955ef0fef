import MixedScript.Command.Console
import MixedScript.Proofs.Files

/-! What the journal leaves alone when it is shown: the standard streams that texts come from and go to,
and all files but the log file. -/

namespace MixedScript.Command

variable {log : Option Path} {logging : Logging} {stamp : Nat → Stamp} {c c' : Console} {e : Entry}

/-- A console that differs from another in nothing but what has been told. -/
structure Console.ToldMore (log : Option Path) (c c' : Console) : Prop where
  input : c'.input = c.input
  output : c'.output = c.output
  locked : c'.files.locked = c.files.locked
  files : ∀ p, log ≠ some p → c'.files.entry? p = c.files.entry? p

namespace Console.ToldMore

theorem refl (log : Option Path) (c : Console)
    : ToldMore log c c :=
  ⟨rfl, rfl, rfl, fun _ _ => rfl⟩

theorem trans {c'' : Console} (h : ToldMore log c c') (h' : ToldMore log c' c'')
    : ToldMore log c c'' where
  input := h'.input.trans h.input
  output := h'.output.trans h.output
  locked := h'.locked.trans h.locked
  files p apart := (h'.files p apart).trans (h.files p apart)

/-- Without a log file all files are left alone. -/
theorem of_none (h : ToldMore none c c')
    : ToldMore log c c' :=
  ⟨h.input, h.output, h.locked, fun p _ => h.files p nofun⟩

/-- What could be read can be read still, but for the log file. -/
theorem read {p : Path} {bs : Encoding.Bytes} (h : ToldMore log c c') (apart : log ≠ some p)
    (held : c.files.read p = .ok bs)
    : c'.files.read p = .ok bs :=
  Files.read_of_same held (h.files p apart) h.locked

end Console.ToldMore

theorem appendLine_elsewhere {f : Files} {p q : Path} (other : q ≠ p) (line : String)
    : Files.entry? (appendLine f p line) q = f.entry? q := by
  simp only [appendLine]
  split
  · next written => exact Files.entry?_elsewhere written other
  · rfl

theorem appendLine_locked (f : Files) (p : Path) (line : String)
    : (appendLine f p line).locked = f.locked := by
  simp only [appendLine]
  split
  · next written => exact Files.locked_written written
  · rfl

theorem toldMore_tell (logging : Logging) (stamp : Nat → Stamp) (c : Console) (e : Entry)
    : c.ToldMore logging.file (c.tell logging stamp e) := by
  unfold Console.tell
  split
  · exact .refl _ c
  · refine ⟨rfl, rfl, ?_, fun p apart => ?_⟩
    · cases logging.file with
      | none => rfl
      | some place => exact appendLine_locked ..
    · cases log : logging.file with
      | none => rfl
      | some place =>
          refine appendLine_elsewhere ?_ _
          rintro rfl
          exact apart log

/-- Whatever a piece of work has to tell, the console has but told more. -/
theorem toldMore_tellAll (logging : Logging) (stamp : Nat → Stamp) (c : Console) (j : Journal)
    : c.ToldMore logging.file (c.tellAll logging stamp j) := by
  induction j generalizing c with
  | nil => exact .refl _ c
  | cons e j ih => exact (toldMore_tell logging stamp c e).trans (ih _)

theorem tell_files (quiet : logging.file = none) (stamp : Nat → Stamp) (c : Console) (e : Entry)
    : (c.tell logging stamp e).files = c.files := by
  unfold Console.tell
  split
  · rfl
  · simp only [quiet]

/-- What is told leaves the files alone where there is no log file. -/
theorem tellAll_files (quiet : logging.file = none) (stamp : Nat → Stamp)
    (c : Console) (j : Journal)
    : (c.tellAll logging stamp j).files = c.files := by
  induction j generalizing c with
  | nil => rfl
  | cons e j ih =>
      exact (ih (c.tell logging stamp e)).trans (tell_files quiet stamp c e)

/-- The log file that arguments ask for. -/
def Arguments.logPlace? (a : Arguments) (current : Path) : Option Path :=
  (a.logFile.filter (!·.isEmpty)).map (Path.resolve current)

/-- Opening the log file leaves all other files as they are. -/
theorem toldMore_startLogging (a : Arguments) (current : Path) (stamp : Nat → Stamp) (c : Console)
    : c.ToldMore (a.logPlace? current) (startLogging a current stamp c).2
      ∧ ((startLogging a current stamp c).1.file = none
        ∨ (startLogging a current stamp c).1.file = a.logPlace? current) := by
  unfold startLogging Arguments.logPlace?
  cases a.logFile.filter (!·.isEmpty) with
  | none => exact ⟨.refl _ c, .inl rfl⟩
  | some name =>
      dsimp only [Option.map_some]
      split
      · exact ⟨.of_none (toldMore_tell ⟨_, _, none⟩ ..), .inl rfl⟩
      · next files opened =>
          have made : c.ToldMore (some (Path.resolve current name)) { c with files := files } := by
            refine ⟨rfl, rfl, Files.locked_written opened, fun p apart => Files.entry?_elsewhere opened ?_⟩
            rintro rfl
            exact apart rfl
          exact ⟨made.trans (toldMore_tell ⟨_, _, some _⟩ ..), .inr rfl⟩

end MixedScript.Command
