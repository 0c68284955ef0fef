import MixedScript.Command.Item
import MixedScript.Proofs.Command.Console
import MixedScript.Proofs.Format.Content
import MixedScript.Proofs.Markdown.TopLine

/-! What comes of one input, from the standard input or from a file. The same bytes give the same text,
but for pairs of carriage return and line feed: only a file gets these back. -/

namespace MixedScript

open Encoding

variable {options : FormatOptions} {f : Formatted} {source text : Chars}

-----------------------------------------------------------------------------------------
-- Line ends
-----------------------------------------------------------------------------------------

/-- A formatted text has line feeds alone. -/
theorem return_not_mem_formatText (h : (formatText options source).result = .ok f)
    : '\r' ∉ f.text := by
  obtain ⟨document, spaced, -, -, written⟩ := formatText_ok h
  obtain ⟨body, -, written⟩ := bind_eq_ok.mp (ok_of_mapError written)
  rw [← Except.ok.inj written]
  exact Markdown.return_not_mem_cleanUp body

/-- Whether lines of a text end in pairs of carriage return and line feed. -/
def HasPairs (source : Chars) : Prop :=
  Chars.occursIn ['\r', '\n'] source = true

theorem withLineEndsOf_plain (plain : ¬ HasPairs source) (text : Chars)
    : withLineEndsOf source text = text :=
  if_neg plain

/-- A text with pairs is changed by formatting, unless it gets them back. -/
theorem ne_of_hasPairs (h : (formatText options source).result = .ok f) (pairs : HasPairs source)
    : source ≠ f.text := by
  rintro rfl
  exact return_not_mem_formatText h (Chars.mem_of_occursIn pairs (by simp))

namespace Command

variable {setting : Setting} {c : Console} {input : String} {m : Mode} {decoded : Decoded}

-----------------------------------------------------------------------------------------
-- One input
-----------------------------------------------------------------------------------------

/-- A mode that leaves files alone, and prints nothing but formatted texts. -/
def Mode.Plain (m : Mode) : Prop :=
  m = .print ∨ m = .check

/-- What a mode prints of a formatted text. -/
def Mode.printed (m : Mode) (text : Chars) : String :=
  if m = .print then String.ofList text else ""

theorem perform_plain (plain : m.Plain) (setting : Setting) (c : Console) (item : Item)
    : (perform setting c item (m.action item)).2 = .ok ()
      ∧ (perform setting c item (m.action item)).1.output = c.output ++ m.printed item.text := by
  rcases plain with rfl | rfl
  · exact ⟨rfl, rfl⟩
  · simp only [Mode.action]
    split
    · exact ⟨rfl, (String.append_empty ..).symm⟩
    · exact ⟨rfl, (String.append_empty ..).symm⟩

theorem processItem_plain (plain : m.Plain) {c' : Console} {item : Except Problem Item}
    (formatted : formatItem setting options c input = (c', item))
    : (processItem setting options m c input).2 = item.map Item.changed
      ∧ (processItem setting options m c input).1.output
        = c'.output ++ (match item with | .ok item => m.printed item.text | .error _ => "") := by
  cases item with
  | error p => simp [processItem, formatted, Except.map]
  | ok item =>
      obtain ⟨done, printed⟩ := perform_plain plain setting c' item
      simp only [processItem, formatted]
      split
      · next failed => simp [failed] at done
      · next performed =>
          rw [performed] at printed
          exact ⟨rfl, printed⟩

-----------------------------------------------------------------------------------------
-- The same bytes
-----------------------------------------------------------------------------------------

theorem decodeInput_ok {s : Surroundings} {bs : Bytes}
    (decodes : (decode s.detector s.codecs fallbacks bs).result = .ok decoded) (message : String)
    : (decodeInput s message bs).result = .ok decoded := by
  simp only [decodeInput, Work.orUndecodable, decodes]

theorem formatStream_result {s : Surroundings} {bs : Bytes}
    (decodes : (decode s.detector s.codecs fallbacks bs).result = .ok decoded)
    : (formatStream s options bs).result
      = (formatText options decoded.text).result.map (fun f => .stream decoded.text f.text) := by
  rw [formatStream, Work.bind_of_ok (decodeInput_ok decodes _), Work.bind_pure_result]

theorem formatFile_result {s : Surroundings} {path : String} {bs : Bytes}
    (held : s.files.read (Path.resolve s.current path) = .ok bs)
    (decodes : (decode s.detector s.codecs fallbacks bs).result = .ok decoded)
    : (formatFile s options path).result
      = (formatText options decoded.text).result.map (fun f =>
          ⟨path, decoded.text, withLineEndsOf decoded.text f.text, f.inserted, decoded.encoding⟩) := by
  have read : (readFile s path).result = .ok bs := by
    simp only [readFile, held]
    rfl
  rw [formatFile, Work.bind_of_ok read, Work.bind_of_ok (decodeInput_ok decodes _),
    Work.bind_of_ok rfl, Work.bind_pure_result]

/-- What a mode prints of what becomes of a text, with its line ends. -/
def Mode.printedOf (m : Mode) (ends : Chars → Chars) : Except Problem Formatted → String
  | .ok f => m.printed (ends f.text)
  | .error _ => ""

/-- What comes of an input whose text is formatted, with its line ends: whether it has changed, and
what has been printed after that. -/
structure Yields (m : Mode) (c : Console) (source : Chars) (formatted : Except Problem Formatted)
    (ends : Chars → Chars) (outcome : Console × Except Problem Bool) : Prop where
  verdict : outcome.2 = formatted.map (fun f => source != ends f.text)
  output : outcome.1.output = c.output ++ m.printedOf ends formatted

theorem Yields.of_formatItem (plain : m.Plain) {ends : Chars → Chars}
    {formatted : Except Problem Formatted} (item : Formatted → Item) {c' : Console}
    (made : formatItem setting options c input = (c', formatted.map item))
    (quiet : c'.output = c.output)
    (itemSource : ∀ f, (item f).source = source) (itemText : ∀ f, (item f).text = ends f.text)
    : Yields m c source formatted ends (processItem setting options m c input) := by
  obtain ⟨verdict, output⟩ := processItem_plain plain made
  cases formatted with
  | error p => exact ⟨verdict, quiet ▸ output⟩
  | ok f =>
      refine ⟨?_, ?_⟩
      · rw [verdict]
        simp only [Except.map, Item.changed, itemSource, itemText]
      · rw [output, quiet]
        simp only [Except.map, itemText, Mode.printedOf]

theorem processItem_stream (plain : m.Plain)
    (decodes : (decode setting.surroundings.detector setting.surroundings.codecs fallbacks c.input).result
      = .ok decoded)
    : Yields m c decoded.text (formatText options decoded.text).result id
        (processItem setting options m c standardInput) := by
  have formatted : (formatStream (setting.now c) options c.input).result = _ :=
    formatStream_result decodes
  have told := toldMore_tellAll setting.logging setting.stamp { c with input := [] }
    (formatStream (setting.now c) options c.input).journal
  refine .of_formatItem plain (fun f => .stream decoded.text f.text) ?_ told.output
    (fun _ => rfl) (fun _ => rfl)
  rw [← formatted]
  rfl

theorem processItem_file (plain : m.Plain) {bs : Bytes} (named : input ≠ standardInput)
    (held : c.files.read (Path.resolve setting.surroundings.current input) = .ok bs)
    (decodes : (decode setting.surroundings.detector setting.surroundings.codecs fallbacks bs).result
      = .ok decoded)
    : Yields m c decoded.text (formatText options decoded.text).result
        (withLineEndsOf decoded.text) (processItem setting options m c input) := by
  have formatted : (formatFile (setting.now c) options input).result = _ :=
    formatFile_result held decodes
  have told := toldMore_tellAll setting.logging setting.stamp c
    (do return Item.file (← formatFile (setting.now c) options input) : Work Item).journal
  have isFile : (input == standardInput) = false := by simp [named]
  refine .of_formatItem plain (fun f => .file
    ⟨input, decoded.text, withLineEndsOf decoded.text f.text, f.inserted, decoded.encoding⟩)
    ?_ told.output (fun _ => rfl) (fun _ => rfl)
  simp only [formatItem, isFile, Bool.false_eq_true, if_false, Setting.follow,
    Work.bind_pure_result, formatted]
  cases (formatText options decoded.text).result <;> rfl

end Command

end MixedScript
