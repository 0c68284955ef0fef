import MixedScript.Proofs.Command.Run
import MixedScript.Proofs.Format.InPlace

/-! A run on many inputs. Each is handled once, in order, whatever has come of those before it; the
first that fails gives the exit code. A file is written to only in the mode that writes, and only if
formatting it has succeeded and changed it. -/

namespace MixedScript.Command

variable {s : Setting} {options : FormatOptions} {m : Mode} {c c' : Console} {input : String}
  {inputs : List String} {i : Invocation} {a : Arguments}

-----------------------------------------------------------------------------------------
-- One input
-----------------------------------------------------------------------------------------

/-- All files but the log file hold what they held. -/
def SameFiles (log : Option Path) (f g : Files) : Prop :=
  ∀ p, log ≠ some p → g.entry? p = f.entry? p

/-- What may come of an input: the console after it, whether formatting has changed it or why it has
failed, and the file that was to be written, if any. -/
inductive Handled (s : Setting) (options : FormatOptions) (m : Mode) (c : Console) (input : String)
    : Console → Except Error Bool → Option FormattedFile → Prop
  /-- It could not be formatted. -/
  | unformatted {c' e} (failed : formatItem s options c input = (c', .error (.own e)))
      (files : SameFiles s.logging.file c.files c'.files)
      : Handled s options m c input c' (.error e) none
  /-- It has been formatted, and there is nothing to write back. -/
  | spared {read item c'} (formatted : formatItem s options c input = (read, .ok item))
      (nothing : ∀ f, item = .file f → m = .write → f.text = f.source)
      (files : SameFiles s.logging.file c.files c'.files)
      : Handled s options m c input c' (.ok (item.source != item.text)) none
  /-- It is a file that has been changed, and it has been written back. -/
  | saved {read f tree c'} (formatted : formatItem s options c input = (read, .ok (.file f)))
      (mode : m = .write) (changed : f.text ≠ f.source)
      (before : SameFiles s.logging.file c.files read.files)
      (saves : Files.Saves read.files s.surroundings.codecs (Path.resolve s.surroundings.current input) f.encoding f.text
        (tree, none))
      (after : SameFiles s.logging.file tree c'.files)
      : Handled s options m c input c' (.ok true) (some f)
  /-- It is a file that has been changed, and it could not be written back. -/
  | unsaved {read f tree mishap c'} (formatted : formatItem s options c input = (read, .ok (.file f)))
      (mode : m = .write) (changed : f.text ≠ f.source)
      (before : SameFiles s.logging.file c.files read.files)
      (saves : Files.Saves read.files s.surroundings.codecs (Path.resolve s.surroundings.current input) f.encoding f.text
        (tree, some mishap))
      (after : SameFiles s.logging.file tree c'.files)
      : Handled s options m c input c' (.error .unwritable) (some f)

/-- Formatting an input writes to no file, and a file that has been formatted is the one asked for. -/
theorem formatItem_files {read : Console} {result : Except Problem Item}
    (formatted : formatItem s options c input = (read, result))
    : SameFiles s.logging.file c.files read.files
      ∧ ∀ f, result = .ok (.file f) → f.path = input := by
  unfold formatItem at formatted
  split at formatted
  · obtain ⟨rfl, rfl⟩ := Prod.mk.inj formatted
    refine ⟨(toldMore_tellAll s.logging s.stamp { c with input := [] } _).files, fun f stream => ?_⟩
    obtain ⟨_, -, stream⟩ := Work.bind_eq_ok.mp stream
    obtain ⟨_, -, stream⟩ := Work.bind_eq_ok.mp stream
    cases stream
  · obtain ⟨rfl, rfl⟩ := Prod.mk.inj formatted
    refine ⟨(toldMore_tellAll s.logging s.stamp c _).files, fun f file => ?_⟩
    obtain ⟨g, formatted, same⟩ := Work.bind_eq_ok.mp file
    obtain rfl : g = f := by simpa using Except.ok.inj same
    exact (formatFile_ok formatted).1

/-- What a mode does writes to no file, unless it saves a changed one. -/
theorem perform_files (s : Setting) (c : Console) (item : Item) (m : Mode)
    (spared : ∀ f, item = .file f → m = .write → f.text = f.source)
    : (perform s c item (m.action item)).2 = .ok ()
      ∧ (perform s c item (m.action item)).1.files = c.files := by
  cases m with
  | print => exact ⟨rfl, rfl⟩
  | check | diff =>
      simp only [Mode.action]
      split <;> exact ⟨rfl, rfl⟩
  | write =>
      cases item with
      | stream => exact ⟨rfl, rfl⟩
      | file f =>
          have same : f.changed = false := by simp [FormattedFile.changed, spared f rfl rfl]
          simp only [Mode.action, same]
          exact ⟨rfl, rfl⟩

/-- A file that has been changed is saved in the mode that writes. -/
theorem processItem_save {read : Console} {f : FormattedFile}
    (formatted : formatItem s options c f.path = (read, .ok (.file f)))
    (changed : f.text ≠ f.source)
    : ∃ c' r, processItem s options .write c f.path = (c', r.mapError .own)
        ∧ Handled s options .write c f.path c' r (some f) := by
  have before := (formatItem_files formatted).1
  have differs : f.changed = true := by simpa [FormattedFile.changed] using changed.symm
  cases saved : read.files.save s.surroundings.codecs (Path.resolve s.surroundings.current f.path) f.encoding
      f.text with
  | mk tree outcome =>
      have saves := Files.saves read.files s.surroundings.codecs (Path.resolve s.surroundings.current f.path)
        f.encoding f.text
      rw [saved] at saves
      have after := fun j => (toldMore_tellAll s.logging s.stamp { read with files := tree } j).files
      cases outcome with
      | none =>
          have told := after [⟨.info, .formatter, "Reformatted " ++ Path.plain f.path⟩]
          refine ⟨_, .ok true, ?_, .saved formatted rfl changed before saves told⟩
          simp only [processItem, formatted, Mode.action, differs, if_true, perform,
            FormattedFile.save, Setting.now, saved]
          exact congrArg (Prod.mk _) (congrArg Except.ok differs)
      | some mishap =>
          refine ⟨_, .error .unwritable, ?_, .unsaved formatted rfl changed before saves (after [])⟩
          simp only [processItem, formatted, Mode.action, differs, if_true, perform,
            FormattedFile.save, Setting.now, saved]
          rfl

/-- An input is handled, unless something outside the program's own checks goes wrong. -/
theorem processItem_handled (s : Setting) (options : FormatOptions) (m : Mode) (c : Console)
    (input : String)
    : (∃ mishap, (processItem s options m c input).2 = .error (.outside mishap))
      ∨ ∃ c' r w, processItem s options m c input = (c', r.mapError .own)
        ∧ Handled s options m c input c' r w := by
  cases formatted : formatItem s options c input with
  | mk read result =>
      obtain ⟨same, path⟩ := formatItem_files formatted
      cases result with
      | error p =>
          cases p with
          | outside mishap => exact .inl ⟨mishap, by simp only [processItem, formatted]⟩
          | own e =>
              exact .inr ⟨read, .error e, none, by simp only [processItem, formatted]; rfl,
                .unformatted formatted same⟩
      | ok item =>
          right
          by_cases toSave : ∃ f, item = .file f ∧ m = .write ∧ f.text ≠ f.source
          · obtain ⟨f, rfl, rfl, changed⟩ := toSave
            obtain rfl := path f rfl
            obtain ⟨c', r, processed, handled⟩ := processItem_save formatted changed
            exact ⟨c', r, some f, processed, handled⟩
          · have nothing : ∀ f, item = .file f → m = .write → f.text = f.source := by
              intro f file mode
              by_contra changed
              exact toSave ⟨f, file, mode, changed⟩
            obtain ⟨done, kept⟩ := perform_files s read item m nothing
            refine ⟨(perform s read item (m.action item)).1, .ok item.changed, none, ?_,
              .spared formatted nothing ?_⟩
            · simp only [processItem, formatted]
              split
              · next failed => simp [failed] at done
              · next performed => simp only [performed]; rfl
            · rw [kept]
              exact same

section Step

variable {r : Except Error Bool} {w : Option FormattedFile}

/-- A write is attempted in the mode that writes, for a file that has been formatted and is changed by
that, and for nothing else. -/
theorem Handled.attempts_iff (h : Handled s options m c input c' r w) (f : FormattedFile)
    : w = some f
      ↔ m = .write ∧ f.text ≠ f.source
        ∧ ∃ read, formatItem s options c input = (read, .ok (.file f)) := by
  cases h with
  | unformatted failed =>
      refine ⟨nofun, fun ⟨_, _, read, formatted⟩ => ?_⟩
      cases failed.symm.trans formatted
  | spared made nothing =>
      refine ⟨nofun, fun ⟨mode, changed, read, formatted⟩ => ?_⟩
      cases made.symm.trans formatted
      exact absurd (nothing f rfl mode) changed
  | saved made mode changed | unsaved made mode changed =>
      constructor
      · rintro ⟨rfl⟩
        exact ⟨mode, changed, _, made⟩
      · rintro ⟨_, _, read, formatted⟩
        cases made.symm.trans formatted
        rfl

/-- An input leaves all files as they were, but for the log file and the one that it was to write. -/
theorem Handled.files (h : Handled s options m c input c' r w) {p : Path}
    (unlogged : s.logging.file ≠ some p)
    (untouched : ∀ f, w = some f → Path.resolve s.surroundings.current f.path ≠ p)
    : c'.files.entry? p = c.files.entry? p := by
  cases h with
  | unformatted _ files | spared _ _ files => exact files p unlogged
  | saved made _ _ before saves after | unsaved made _ _ before saves after =>
      obtain rfl := (formatItem_files made).2 _ rfl
      have elsewhere := saves.elsewhere (untouched _ rfl).symm
      exact ((after p unlogged).trans elsewhere).trans (before p unlogged)

end Step

-----------------------------------------------------------------------------------------
-- All inputs
-----------------------------------------------------------------------------------------

/-- The console once it has been told that an input has failed. -/
def Setting.report (s : Setting) (input : String) : Except Error Bool → Console → Console
  | .ok _, c => c
  | .error e, c =>
    (c.complain ("Error: " ++ input ++ ": " ++ e.message)).tell s.logging s.stamp
      (.debug .command "Formatting failed")

/-- Inputs that have been handled one after the other: what has come of each, and the files that were
to be written. -/
inductive Batch (s : Setting) (options : FormatOptions) (m : Mode)
    : Console → List String → List (Except Error Bool) → List (Option FormattedFile) → Console → Prop
  | nil {start : Console} : Batch s options m start [] [] [] start
  | cons {start after stop : Console} {input : String} {inputs : List String} {r w rs ws}
      (here : Handled s options m start input after r w)
      (later : Batch s options m (s.report input r after) inputs rs ws stop)
      : Batch s options m start (input :: inputs) (r :: rs) (w :: ws) stop

theorem report_files (s : Setting) (input : String) (r : Except Error Bool) (c : Console)
    : SameFiles s.logging.file c.files (s.report input r c).files := by
  cases r with
  | ok => exact fun _ _ => rfl
  | error e => exact (toldMore_tell s.logging s.stamp (c.complain _) _).files

section Runs

variable {rs : List (Except Error Bool)} {ws : List (Option FormattedFile)}

/-- Without the mode that writes no write is attempted. -/
theorem Batch.attempts_none (h : Batch s options m c inputs rs ws c') (mode : m ≠ .write)
    : ∀ w ∈ ws, w = none := by
  induction h with
  | nil => simp
  | @cons start after stop input inputs r w rs ws here _ ih =>
      have unattempted : w = none := by
        refine Option.eq_none_iff_forall_ne_some.mpr fun f attempted => ?_
        exact mode ((here.attempts_iff f).mp attempted).1
      simpa [unattempted] using ih

/-- All files but the log file and those that were to be written hold what they held. -/
theorem Batch.files (h : Batch s options m c inputs rs ws c') {p : Path}
    (unlogged : s.logging.file ≠ some p)
    (untouched : ∀ f, some f ∈ ws → Path.resolve s.surroundings.current f.path ≠ p)
    : c'.files.entry? p = c.files.entry? p := by
  induction h with
  | nil => rfl
  | @cons start after stop input inputs r w rs ws here _ ih =>
      have kept := here.files unlogged fun f same => untouched f (by simp [same])
      have told := report_files s input r after p unlogged
      exact ((ih fun f mem => untouched f (.tail _ mem)).trans told).trans kept

end Runs

/-- Inputs are handled up to one at which something outside the program's own checks goes wrong. -/
inductive Breaks (s : Setting) (options : FormatOptions) (m : Mode) (start : Console)
    (inputs : List String) (mishap : Mishap) : Prop
  | at {done input rest rs ws stop} (split : inputs = done ++ input :: rest)
      (before : Batch s options m start done rs ws stop)
      (outside : (processItem s options m stop input).2 = .error (.outside mishap))

/-- Every input is handled, whatever has come of those before it, unless something outside the
program's own checks goes wrong. -/
theorem processAll_batch (s : Setting) (options : FormatOptions) (m : Mode) (c : Console)
    (inputs : List String)
    : (∃ rs ws c', Batch s options m c inputs rs ws c'
        ∧ processAll s options m c inputs = (c', .ok rs))
      ∨ ∃ mishap, Breaks s options m c inputs mishap
        ∧ (processAll s options m c inputs).2 = .error mishap := by
  induction inputs generalizing c with
  | nil => exact .inl ⟨[], [], c, .nil, rfl⟩
  | cons input inputs ih =>
      rcases processItem_handled s options m c input with ⟨mishap, outside⟩ | ⟨after, r, w, made, here⟩
      · refine .inr ⟨mishap, .at (List.nil_append _).symm .nil outside, ?_⟩
        cases made : processItem s options m c input with
        | mk after result =>
            rw [made] at outside
            obtain rfl : result = .error (.outside mishap) := outside
            simp only [processAll, made]
      · have step : processAll s options m c (input :: inputs)
            = ((processAll s options m (s.report input r after) inputs).1,
              (processAll s options m (s.report input r after) inputs).2.map (r :: ·)) := by
          cases r <;> simp only [processAll, made, Except.mapError] <;> rfl
        rw [step]
        rcases ih (s.report input r after) with ⟨rs, ws, c', later, all⟩ | ⟨mishap, breaks, outside⟩
        · exact .inl ⟨r :: rs, w :: ws, c', .cons here later, by rw [all]; rfl⟩
        · obtain ⟨rfl, before, broken⟩ := breaks
          refine .inr ⟨mishap, .at (List.cons_append ..).symm (.cons here before) broken, ?_⟩
          rw [outside]
          rfl

/-- The exit code after what has come of all inputs. -/
inductive ExitsWith (m : Mode) (rs : List (Except Error Bool)) : Nat → Prop
  /-- The first input that fails gives it. -/
  | failed {before e after} (split : rs = before ++ .error e :: after)
      (first : ∀ r ∈ before, ∃ changed, r = .ok changed)
      : ExitsWith m rs e.exitCode
  /-- Changes are to be told, and there are some. -/
  | changed (succeeded : ∀ r ∈ rs, ∃ changed, r = .ok changed) (mode : m = .check)
      (some : .ok true ∈ rs)
      : ExitsWith m rs 1
  | fine (succeeded : ∀ r ∈ rs, ∃ changed, r = .ok changed) (none : m = .check → .ok true ∉ rs)
      : ExitsWith m rs 0

theorem firstFailure?_eq_none {rs : List (Except Error Bool)} (h : firstFailure? rs = none)
    : ∀ r ∈ rs, ∃ changed, r = .ok changed := by
  fun_induction firstFailure? rs with
  | case1 => simp
  | case2 => cases h
  | case3 changed rest ih => simpa using ih h

theorem firstFailure?_eq_some {rs : List (Except Error Bool)} {code : Nat}
    (h : firstFailure? rs = some code)
    : ∃ before e after, rs = before ++ .error e :: after
        ∧ (∀ r ∈ before, ∃ changed, r = .ok changed) ∧ e.exitCode = code := by
  fun_induction firstFailure? rs with
  | case1 => cases h
  | case2 e rest => exact ⟨[], e, rest, rfl, by simp, Option.some.inj h⟩
  | case3 changed rest ih =>
      obtain ⟨before, e, after, rfl, succeeded, same⟩ := ih h
      exact ⟨.ok changed :: before, e, after, rfl, by simpa using succeeded, same⟩

theorem any_isChange {rs : List (Except Error Bool)}
    : rs.any isChange = true ↔ .ok true ∈ rs := by
  have isChange_iff : ∀ r, isChange r = true ↔ r = .ok true := by
    intro r
    cases r <;> simp [isChange]
  simp [isChange_iff]

theorem exitsWith_exitCode (m : Mode) (rs : List (Except Error Bool))
    : ExitsWith m rs (exitCode m rs) := by
  unfold exitCode
  split
  · next code found =>
      obtain ⟨before, e, after, split, first, rfl⟩ := firstFailure?_eq_some found
      exact .failed split first
  · next unfailed =>
      have succeeded := firstFailure?_eq_none unfailed
      split
      · next told => exact .changed succeeded told.1 (any_isChange.mp told.2)
      · next quiet => exact .fine succeeded fun mode mem => quiet ⟨mode, any_isChange.mpr mem⟩

/-- A run whose inputs have been collected handles every one of them, in order and whatever has come
of those before it. It ends with the exit code of the first that fails; if none does, with one if it
is to check and formatting changes an input, else with zero. A write is attempted in the mode that
writes alone, for the files that formatting succeeds on and changes; all others but the log file hold
what they held. All this is so unless something outside the program's own checks goes wrong, which
ends the run. -/
theorem run_handles_batch {first : String} {rest : List String}
    (parsed : Arguments.parse i.arguments = .ok a)
    (prepared : (prepare i (i.view a) a).result = .ok (options, first :: rest))
    : let s := i.setting a
      let c := (i.opened a).tellAll s.logging s.stamp (prepare i (i.view a) a).journal
      (∃ rs ws c' code, Batch s options a.mode c (first :: rest) rs ws c'
        ∧ ExitsWith a.mode rs code
        ∧ run i = ⟨.ok code, c'⟩
        ∧ (a.mode ≠ .write → ∀ w ∈ ws, w = none)
        ∧ ∀ p, s.logging.file ≠ some p →
          (∀ f, some f ∈ ws → Path.resolve i.surroundings.current f.path ≠ p) →
          c'.files.entry? p = c.files.entry? p)
      ∨ ∃ mishap, Breaks s options a.mode c (first :: rest) mishap
        ∧ (run i).exit = .error mishap := by
  intro s c
  have outcome : run i
      = s.conclude a.mode (s.follow (i.opened a) (prepare i (i.view a) a)) := by
    simp only [run, parsed]
    rfl
  rw [Setting.follow, prepared] at outcome
  rcases processAll_batch s options a.mode c (first :: rest)
    with ⟨rs, ws, c', batch, all⟩ | ⟨mishap, breaks, outside⟩
  · refine .inl ⟨rs, ws, c', exitCode a.mode rs, batch, exitsWith_exitCode a.mode rs, ?_,
      batch.attempts_none, fun p unlogged untouched => batch.files unlogged untouched⟩
    simp only [outcome, Setting.conclude]
    rw [all]
    rfl
  · refine .inr ⟨mishap, breaks, ?_⟩
    simp only [outcome, Setting.conclude]
    rw [outside]
    rfl

/-- A check of a file that no codec reads, and of one that would change after it. -/
def brokenFirst : Invocation where
  arguments := ["--check", "a.md", "b.md"]
  surroundings :=
    { files := { entries := [(["a.md"], some [0xFF]), (["b.md"], some [0x61])] }
      current := []
      home := []
      detector := fun _ => none
      codecs := fun _ => some ⟨fun _ => none, fun _ => none⟩ }
  environment := none
  input := []
  stamp _ := ⟨"", ""⟩

/-- The second file is handled, and the first gives the exit code. -/
theorem brokenFirst_handles_both
    : let a : Arguments := { mode := .check, paths := ["a.md", "b.md"] }
      let s := brokenFirst.setting a
      let c := (brokenFirst.opened a).tellAll s.logging s.stamp
        (prepare brokenFirst (brokenFirst.view a) a).journal
      ∃ rs ws c', Batch s {} .check c ["a.md", "b.md"] rs ws c'
        ∧ ExitsWith .check rs 6
        ∧ run brokenFirst = ⟨.ok 6, c'⟩ := by
  intro a s c
  have parsed : Arguments.parse brokenFirst.arguments = .ok a :=
    ok_of_toOption (by decide +kernel)
  have prepared
      : (prepare brokenFirst (brokenFirst.view a) a).result = .ok ({}, ["a.md", "b.md"]) :=
    ok_of_toOption (by decide +kernel)
  have exits : (run brokenFirst).exit = .ok 6 := ok_of_toOption (by decide +kernel)
  rcases run_handles_batch parsed prepared
    with ⟨rs, ws, c', code, batch, ends, same, -⟩ | ⟨mishap, -, outside⟩
  · rw [same] at exits
    obtain rfl := Except.ok.inj exits
    exact ⟨rs, ws, c', batch, ends, same⟩
  · rw [outside] at exits
    cases exits

end MixedScript.Command
