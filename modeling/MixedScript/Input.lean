import MixedScript.Encoding.Detection
import MixedScript.Files

/-!
Where a source comes from: a text, bytes, something that can be read from, or a file.
-/

namespace MixedScript

/-- The input of the reader. -/
inductive Input where
  /-- The source itself. -/
  | text (cs : Chars)
  /-- Bytes whose encoding has to be found out. -/
  | bytes (bs : Encoding.Bytes)
  | textStream (cs : Chars)
  | byteStream (bs : Encoding.Bytes)
  /-- A stream of neither. -/
  | oddStream
  | file (path : String)
  /-- Anything else, of a type. -/
  | other (typeName : String)

/-- The surroundings of a run: the files, where it takes place, whose it is, what guesses encodings, and the codecs
of the system. -/
structure Surroundings where
  files : Files
  /-- The current directory. -/
  current : Path
  /-- The home directory of the user. -/
  home : Path
  detector : Encoding.Detector
  codecs : Encoding.SystemCodecs

def readFile (s : Surroundings) (path : String) : Work Encoding.Bytes :=
  match s.files.read (Path.resolve s.current path) with
  | .ok bs => return bs
  | .error .noSuchFile => .fail (.missingFile (Path.plain path))
  | .error _ => .fail (.fileAccess (Path.plain path))

/-- Work in which bytes that are no text are an error with a message of its own. -/
def Work.orUndecodable {α : Type} (message : String) (w : Work α) : Work α :=
  match w.result with
  | .error (.outside .undecodable) | .error (.outside (.badValue _)) =>
    ⟨.error (.own (.parsing message (some "decoding"))), w.journal⟩
  | _ => w

/-- The text of bytes. -/
def decodeInput (s : Surroundings) (message : String) (bs : Encoding.Bytes) : Work Encoding.Decoded :=
  (Encoding.decode s.detector s.codecs Encoding.fallbacks bs).orUndecodable message

/-- The text of an input. -/
def Input.load (s : Surroundings) : Input → Work Chars
  | text cs | textStream cs => return cs
  | bytes bs | byteStream bs => do return (← decodeInput s unreadable bs).text
  | oddStream => .fail (.parsing unreadable (some "decoding"))
  | file path => do
    let bs ← readFile s path
    return (← decodeInput s unreadable bs).text
  | other typeName => .fail (.invalid ("Unsupported input type: " ++ typeName) (some "input_data"))
where
  unreadable : String := "Could not read input as text"

end MixedScript
