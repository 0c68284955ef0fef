import MixedScript.Encoding.Detection
import MixedScript.Files

/-!
Where a text goes: a stream or a file. Streams of bytes and files get the text in an encoding, streams of text
get it as it is. A file is emptied before the text is encoded, so that a text that cannot be encoded leaves an
empty file behind.
-/

namespace MixedScript

/-- The bytes of a text in an encoding, if there is such an encoding and it has the characters of the text. -/
def Encoding.encodeAs (codecs : SystemCodecs) (name : String) (cs : Chars) : Except Mishap Encoding.Bytes :=
  match Codec.ofName? codecs name with
  | none => .error .unknownEncoding
  | some codec =>
    match codec.encode cs with
    | some bs => .ok bs
    | none => .error .unencodable

/-- The tree with a text in the file at a place, and what went wrong. -/
def Files.save (f : Files) (codecs : Encoding.SystemCodecs) (p : Path) (encoding : String) (cs : Chars) :
    Files × Option Mishap :=
  match f.write p [] with
  | .error m => (f, some m)
  | .ok emptied =>
    match Encoding.encodeAs codecs encoding cs with
    | .error m => (emptied, some m)
    | .ok bs =>
      match emptied.write p bs with
      | .error m => (emptied, some m)
      | .ok written => (written, none)

/-- Where a text goes. -/
inductive Destination where
  | byteStream
  | textStream
  | file (path : Path)
  /-- Something that cannot be written to. -/
  | other
  deriving DecidableEq, Repr

/-- What a destination has been given. -/
inductive Delivery where
  /-- Bytes to a stream. -/
  | bytes (bs : Encoding.Bytes)
  /-- Text to a stream. -/
  | text (cs : Chars)
  | file (tree : Files)
  deriving Repr

/-- A text sent to its destination in an encoding. -/
def send (f : Files) (codecs : Encoding.SystemCodecs) (d : Destination) (encoding : String) (cs : Chars) :
    Except Mishap Delivery :=
  match d with
  | .byteStream => (Encoding.encodeAs codecs encoding cs).map .bytes
  | .textStream => .ok (.text cs)
  | .file p =>
    match f.save codecs p encoding cs with
    | (tree, none) => .ok (.file tree)
    | (_, some m) => .error m
  | .other => .error .illTyped

/-- The error for a text that could not be written. -/
def Error.unwritable : Error :=
  .outputWrite "Failed to write output"

end MixedScript
