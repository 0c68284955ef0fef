import MixedScript.Command.Run
import MixedScript.Proofs.Command.Item

/-! Runs on a single input. Whether its bytes come from the standard input or from a file, a run ends in
the same way, but where the text has pairs of carriage return and line feed. -/

namespace MixedScript.Command

open Encoding

variable {i : Invocation} {a : Arguments} {input : String}

/-- How a run ends after its only input. -/
def exitOf (m : Mode) : Except Problem Bool → Except Mishap Nat
  | .ok changed => .ok (if m = .check ∧ changed then 1 else 0)
  | .error (.own e) => .ok e.exitCode
  | .error (.outside mishap) => .error mishap

theorem exitOf_error (m : Mode) (p : Problem)
    : exitOf m (.error p) ≠ .ok 0 := by
  cases p with
  | outside => simp [exitOf]
  | own e =>
      have positive : ∀ k : Category, k.exitCode ≠ 0 := by
        intro k
        cases k <;> decide
      simpa [exitOf, Error.exitCode] using positive e.category

theorem processAll_single (s : Setting) (options : FormatOptions) (m : Mode) (c : Console)
    (input : String)
    : (processAll s options m c [input]).2.map (exitCode m)
        = exitOf m (processItem s options m c input).2
      ∧ (processAll s options m c [input]).1.output
        = (processItem s options m c input).1.output := by
  cases outcome : processItem s options m c input with
  | mk c' result =>
      cases result with
      | ok changed => simp [processAll, outcome, Except.map, exitCode, firstFailure?, exitOf, isChange]
      | error p =>
          cases p with
          | outside mishap => simp [processAll, outcome, Except.map, exitOf]
          | own e =>
              simp only [processAll, outcome]
              refine ⟨rfl, ?_⟩
              exact (toldMore_tell ..).output

/-- The console that a run starts with. -/
def Invocation.console (i : Invocation) : Console :=
  { files := i.surroundings.files, input := i.input }

/-- What inputs are processed with, once the journal is open. -/
def Invocation.setting (i : Invocation) (a : Arguments) : Setting where
  surroundings := i.surroundings
  logging := (startLogging a i.surroundings.current i.stamp i.console).1
  stamp := i.stamp

/-- The console once the journal is open. -/
def Invocation.opened (i : Invocation) (a : Arguments) : Console :=
  (startLogging a i.surroundings.current i.stamp i.console).2

/-- What a run works with. -/
def Invocation.view (i : Invocation) (a : Arguments) : Surroundings :=
  (i.setting a).now (i.opened a)

/-- A run on one input ends before it for want of options, or ends as the input does. -/
inductive RunsOne (i : Invocation) (a : Arguments) (input : String) (o : Outcome) : Prop
  | refused {p} (loaded : (loadOptions (i.view a) i.environment a).result = .error p)
    (exit : o.exit = exitOf a.mode (.error p)) (output : o.console.output = "")
    : RunsOne i a input o
  | processed {options c} (loaded : (loadOptions (i.view a) i.environment a).result = .ok options)
    (told : (i.opened a).ToldMore (i.setting a).logging.file c)
    (exit : o.exit = exitOf a.mode (processItem (i.setting a) options a.mode c input).2)
    (output : o.console.output = (processItem (i.setting a) options a.mode c input).1.output)
    : RunsOne i a input o

theorem opened_toldMore (i : Invocation) (a : Arguments)
    : i.console.ToldMore (a.logPlace? i.surroundings.current) (i.opened a) :=
  (toldMore_startLogging ..).1

/-- How a run ends, given what has come of its preparation. -/
def Setting.conclude (s : Setting) (mode : Mode)
    : Console × Except Problem (FormatOptions × List String) → Outcome
  | (c, .error (.outside m)) => ⟨.error m, c⟩
  | (c, .error (.own e)) => ⟨.ok e.exitCode, c.complain ("Error: " ++ e.message)⟩
  | (c, .ok (_, [])) => ⟨.ok Category.file.exitCode, c.complain "Error: No markdown files found"⟩
  | (c, .ok (options, inputs)) =>
    ⟨(processAll s options mode c inputs).2.map (exitCode mode), (processAll s options mode c inputs).1⟩

theorem runsOne (collected : (collectInputs (i.view a)
      (if a.paths.isEmpty then [standardInput] else a.paths)).result = .ok [input])
    : RunsOne i a input (runWith i a i.console) := by
  have silent : (i.opened a).output = "" := (opened_toldMore i a).output
  have told := toldMore_tellAll (i.setting a).logging i.stamp (i.opened a)
    (prepare i (i.view a) a).journal
  have outcome : runWith i a i.console
      = (i.setting a).conclude a.mode ((i.setting a).follow (i.opened a) (prepare i (i.view a) a)) :=
    rfl
  rw [outcome, Setting.follow]
  cases loaded : (loadOptions (i.view a) i.environment a).result with
  | error p =>
      have prepared : (prepare i (i.view a) a).result = .error p := Work.bind_of_error loaded _
      rw [prepared]
      cases p with
      | outside mishap => exact .refused loaded rfl (told.output.trans silent)
      | own e => exact .refused loaded rfl (told.output.trans silent)
  | ok options =>
      have prepared : (prepare i (i.view a) a).result = .ok (options, [input]) := by
        rw [prepare, Work.bind_of_ok loaded, Work.bind_of_ok collected]
        rfl
      rw [prepared]
      exact .processed loaded told (processAll_single ..).1 (processAll_single ..).2

-----------------------------------------------------------------------------------------
-- The same bytes
-----------------------------------------------------------------------------------------

variable {path : String} {decoded : Decoded}

/-- A file holds a text, the same as the standard input, and is not the log file. -/
structure SameBytes (i : Invocation) (a : Arguments) (path : String) (decoded : Decoded) : Prop where
  named : path ≠ standardInput
  held : i.surroundings.files.read (Path.resolve i.surroundings.current path) = .ok i.input
  placed : Path.resolve i.surroundings.current path ≠ []
  unlogged
    : a.logPlace? i.surroundings.current ≠ some (Path.resolve i.surroundings.current path)
  decodes : (decode i.surroundings.detector i.surroundings.codecs fallbacks i.input).result = .ok decoded

theorem SameBytes.opened (h : SameBytes i a path decoded)
    : (i.opened a).files.read (Path.resolve i.surroundings.current path) = .ok i.input :=
  (opened_toldMore i a).read h.unlogged h.held

theorem collectInputs_single {s : Surroundings} {written : String}
    (single : (inputsOf s written).result = .ok [input])
    : (collectInputs s [written]).result = .ok [input] := by
  rw [collectInputs, Work.bind_of_ok single]
  rfl

theorem collectInputs_stream (s : Surroundings) {paths : List String}
    (stream : paths = [] ∨ paths = [standardInput])
    : (collectInputs s (if paths.isEmpty then [standardInput] else paths)).result
      = .ok [standardInput] := by
  rcases stream with rfl | rfl <;> exact collectInputs_single rfl

theorem collectInputs_file (h : SameBytes i a path decoded)
    : (collectInputs (i.view a) [path]).result = .ok [path] := by
  have other : (path == standardInput) = false := by simp [h.named]
  have entry : (i.view a).files.entry? (Path.resolve (i.view a).current path)
      = some (some i.input) := (Files.read_eq_ok.mp h.opened).1
  have placed : Path.resolve (i.view a).current path ≠ [] := h.placed
  have noDirectory : (i.view a).files.isDirectory (Path.resolve (i.view a).current path) = false := by
    simp [Files.isDirectory, entry, placed]
  have isFile : (i.view a).files.holds (Path.resolve (i.view a).current path) = true := by
    simp [Files.holds, Files.isFile, entry]
  refine collectInputs_single ?_
  simp only [inputsOf, other, noDirectory, isFile, Bool.false_eq_true, if_false, if_true]
  rfl

/-- What becomes of a text in a run, once its options are known. -/
def Invocation.formatted (i : Invocation) (a : Arguments) (text : Chars)
    : Except Problem Formatted := do
  let options ← (loadOptions (i.view a) i.environment a).result
  (formatText options text).result

theorem formatted_ok {text : Chars} {f : Formatted} (h : i.formatted a text = .ok f)
    : ∃ options, (formatText options text).result = .ok f := by
  obtain ⟨options, -, formatted⟩ := bind_eq_ok.mp h
  exact ⟨options, formatted⟩

/-- How a run on one text ends, and what it prints, where it puts line ends into what becomes of the
text. -/
structure EndsWith (m : Mode) (source : Chars) (formatted : Except Problem Formatted)
    (ends : Chars → Chars) (o : Outcome) : Prop where
  exit : o.exit = exitOf m (formatted.map (fun f => source != ends f.text))
  output : o.console.output = m.printedOf ends formatted

/-- A run on one input ends as its text is formatted. -/
theorem RunsOne.endsWith {source : Chars} {ends : Chars → Chars} {o : Outcome}
    (h : RunsOne i a input o)
    (yields : ∀ options c, (i.opened a).ToldMore (i.setting a).logging.file c →
      Yields a.mode c source (formatText options source).result ends
        (processItem (i.setting a) options a.mode c input))
    : EndsWith a.mode source (i.formatted a source) ends o := by
  cases h with
  | @refused p loaded exit output =>
      have formatted : i.formatted a source = .error p := by
        rw [Invocation.formatted, loaded]
        rfl
      rw [formatted]
      exact ⟨exit, output⟩
  | @processed options c loaded told exit output =>
      have formatted : i.formatted a source = (formatText options source).result := by
        rw [Invocation.formatted, loaded]
        rfl
      have silent : c.output = "" := told.output.trans (opened_toldMore i a).output
      have yielded := yields options c told
      rw [formatted]
      refine ⟨by rw [exit, yielded.verdict], ?_⟩
      rw [output, yielded.output, silent, String.empty_append]

theorem endsWith_stream (a : Arguments) (plain : a.mode.Plain)
    (decodes : (decode i.surroundings.detector i.surroundings.codecs fallbacks i.input).result = .ok decoded)
    (stream : a.paths = [] ∨ a.paths = [standardInput])
    : EndsWith a.mode decoded.text (i.formatted a decoded.text) id (runWith i a i.console) := by
  have run : RunsOne i a standardInput (runWith i a i.console) :=
    runsOne (collectInputs_stream _ stream)
  refine run.endsWith fun options c told => processItem_stream plain ?_
  rw [told.input, (opened_toldMore i a).input]
  exact decodes

theorem endsWith_file (a : Arguments) (plain : a.mode.Plain) (h : SameBytes i a path decoded)
    (file : a.paths = [path])
    : EndsWith a.mode decoded.text (i.formatted a decoded.text) (withLineEndsOf decoded.text)
        (runWith i a i.console) := by
  have run : RunsOne i a path (runWith i a i.console) := by
    refine runsOne ?_
    rw [file]
    exact collectInputs_file h
  refine run.endsWith fun options c told => processItem_file plain h.named ?_ h.decodes
  refine told.read ?_ h.opened
  intro log
  rcases (toldMore_startLogging a i.surroundings.current i.stamp i.console).2 with none | same
  · exact absurd (none.symm.trans log) nofun
  · exact h.unlogged (same.symm.trans log)

/-- In the mode that prints texts, only what is printed tells of line ends. -/
theorem print_alike (source : Chars) (formatted : Except Problem Formatted)
    : exitOf .print (formatted.map (fun f => source != withLineEndsOf source f.text))
        = exitOf .print (formatted.map (fun f => source != f.text))
      ∧ (Mode.print.printedOf (withLineEndsOf source) formatted).toList
        = withLineEndsOf source (Mode.print.printedOf id formatted).toList := by
  cases formatted with
  | error p =>
      refine ⟨rfl, ?_⟩
      simp [Mode.printedOf, withLineEndsOf, Chars.replaceChar]
  | ok f => simp [Except.map, exitOf, Mode.printedOf, Mode.printed]

/-- A check of a text with pairs finds a change, unless the text gets its pairs back. -/
theorem check_alike_iff {source : Chars} {formatted : Except Problem Formatted}
    (made : i.formatted a source = formatted)
    : exitOf .check (formatted.map (fun f => source != withLineEndsOf source f.text))
        = exitOf .check (formatted.map (fun f => source != f.text))
      ↔ ¬ (HasPairs source
          ∧ exitOf .check (formatted.map (fun f => source != withLineEndsOf source f.text))
            = .ok 0) := by
  cases formatted with
  | error p => simp [Except.map, exitOf_error]
  | ok f =>
      -- Without pairs both verdicts compare the same texts; with pairs the bare text differs.
      by_cases pairs : HasPairs source
      · obtain ⟨options, formatted⟩ := formatted_ok made
        have changed : (source != f.text) = true := by simpa using ne_of_hasPairs formatted pairs
        by_cases kept : source = withLineEndsOf source f.text
        · simp [Except.map, exitOf, pairs, changed, ← kept]
        · have other : (source != withLineEndsOf source f.text) = true := by simpa using kept
          simp [Except.map, exitOf, changed, other]
      · simp [pairs, withLineEndsOf_plain pairs]

/-- The same bytes are treated alike from the standard input and from a file, but for pairs of carriage
return and line feed. A file gets them back in what is printed; and with pairs the standard input
always counts as changed, so that a check ends alike only if it does not find the file unchanged. -/
theorem stream_and_file_alike {streamWords fileWords paths : List String}
    (streamed : Arguments.parse streamWords = .ok { a with paths := paths })
    (filed : Arguments.parse fileWords = .ok { a with paths := [path] })
    (stream : paths = [] ∨ paths = [standardInput]) (same : SameBytes i a path decoded)
    : let fromStream := run { i with arguments := streamWords }
      let fromFile := run { i with arguments := fileWords }
      (a.mode = .print →
        fromFile.exit = fromStream.exit
        ∧ fromFile.console.output.toList
          = withLineEndsOf decoded.text fromStream.console.output.toList)
      ∧ (a.mode = .check →
        fromFile.console.output = fromStream.console.output
        ∧ (fromFile.exit = fromStream.exit
          ↔ ¬ (HasPairs decoded.text ∧ fromFile.exit = .ok 0))) := by
  intro fromStream fromFile
  have streamRun : fromStream = runWith i { a with paths := paths } i.console := by
    simp only [fromStream, run, streamed]
    rfl
  have fileRun : fromFile = runWith i { a with paths := [path] } i.console := by
    simp only [fromFile, run, filed]
    rfl
  have there : SameBytes i { a with paths := [path] } path decoded :=
    ⟨same.named, same.held, same.placed, same.unlogged, same.decodes⟩
  have streamEnd (plain : a.mode.Plain)
      : EndsWith a.mode decoded.text (i.formatted a decoded.text) id fromStream :=
    streamRun ▸ endsWith_stream { a with paths := paths } plain same.decodes stream
  have fileEnd (plain : a.mode.Plain)
      : EndsWith a.mode decoded.text (i.formatted a decoded.text) (withLineEndsOf decoded.text)
          fromFile :=
    fileRun ▸ endsWith_file { a with paths := [path] } plain there rfl
  constructor
  · intro mode
    have streamEnd := streamEnd (.inl mode)
    have fileEnd := fileEnd (.inl mode)
    rw [mode] at streamEnd fileEnd
    obtain ⟨exits, outputs⟩ := print_alike decoded.text (i.formatted a decoded.text)
    rw [fileEnd.exit, streamEnd.exit, fileEnd.output, streamEnd.output]
    exact ⟨exits, outputs⟩
  · intro mode
    have streamEnd := streamEnd (.inr mode)
    have fileEnd := fileEnd (.inr mode)
    rw [mode] at streamEnd fileEnd
    rw [fileEnd.exit, streamEnd.exit, fileEnd.output, streamEnd.output]
    refine ⟨?_, check_alike_iff rfl⟩
    cases i.formatted a decoded.text <;> rfl

/-- A run beside a file that holds what the standard input holds. -/
def besideFile (bs : Bytes) : Invocation where
  arguments := []
  surroundings :=
    { files := { entries := [(["a.md"], some bs)] }
      current := []
      home := []
      detector := fun _ => none
      codecs := fun _ => none }
  environment := none
  input := bs
  stamp _ := ⟨"", ""⟩

theorem besideFile_sameBytes {bs : Bytes} {decoded : Decoded}
    (decodes : (decode (fun _ => none) (fun _ => none) fallbacks bs).result = .ok decoded)
    : SameBytes (besideFile bs) { mode := .check } "a.md" decoded where
  named := by decide
  held := rfl
  placed := by
    change Path.resolve [] "a.md" ≠ []
    decide +kernel
  unlogged := nofun
  decodes := decodes

/-- A line with its line feed passes a check from either source. -/
theorem check_of_line_alike
    : let i := besideFile [0x61, 0x0A]
      (run { i with arguments := ["--check", "a.md"] }).exit
        = (run { i with arguments := ["--check"] }).exit := by
  have decodes : (decode (fun _ => none) (fun _ => none) fallbacks [0x61, 0x0A]).result
      = .ok ⟨['a', '\n'], "utf-8"⟩ :=
    ok_of_toOption (by decide +kernel)
  have streamed : Arguments.parse ["--check"] = .ok { mode := .check } :=
    ok_of_toOption (by decide +kernel)
  have filed : Arguments.parse ["--check", "a.md"] = .ok { mode := .check, paths := ["a.md"] } :=
    ok_of_toOption (by decide +kernel)
  have alike := stream_and_file_alike streamed filed (.inl rfl) (besideFile_sameBytes decodes)
  refine (alike.2 rfl).2.mpr fun ⟨pairs, _⟩ => ?_
  exact absurd pairs (by unfold HasPairs; decide)

/-- A line that ends in a pair fails a check from the standard input, and passes it from a file. -/
theorem check_of_pair_differs
    : ¬ ∀ (i : Invocation) (a : Arguments) (path : String) (decoded : Decoded)
          (streamWords fileWords : List String),
        Arguments.parse streamWords = .ok a →
        a.paths = [] →
        a.mode = .check →
        Arguments.parse fileWords = .ok { a with paths := [path] } →
        SameBytes i a path decoded →
        (run { i with arguments := fileWords }).exit
          = (run { i with arguments := streamWords }).exit := by
  intro alike
  have decodes : (decode (fun _ => none) (fun _ => none) fallbacks [0x61, 0x0D, 0x0A]).result
      = .ok ⟨['a', '\r', '\n'], "utf-8"⟩ :=
    ok_of_toOption (by decide +kernel)
  have streamed : Arguments.parse ["--check"] = .ok { mode := .check } :=
    ok_of_toOption (by decide +kernel)
  have filed : Arguments.parse ["--check", "a.md"] = .ok { mode := .check, paths := ["a.md"] } :=
    ok_of_toOption (by decide +kernel)
  have same := alike _ _ _ _ _ _ streamed rfl rfl filed (besideFile_sameBytes decodes)
  have unchanged : (run { besideFile [0x61, 0x0D, 0x0A] with arguments := ["--check", "a.md"] }).exit
      = .ok 0 :=
    ok_of_toOption (by decide +kernel)
  have changed : (run { besideFile [0x61, 0x0D, 0x0A] with arguments := ["--check"] }).exit = .ok 1 :=
    ok_of_toOption (by decide +kernel)
  rw [unchanged, changed] at same
  cases same

end MixedScript.Command
