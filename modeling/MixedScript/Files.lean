import MixedScript.Encoding.Utf8
import MixedScript.Error

/-!
Files and directories, and the paths that lead to them. A tree of files is the list of what it holds; parents
of what it holds are directories.
-/

namespace MixedScript

/-- The names on the way from the root to a place. -/
abbrev Path := List String

namespace Path

/-- The names in a written path. Empty ones and single dots lead nowhere. -/
def names (written : String) : List String :=
  ((Chars.splitAt '/' written.toList).filter (fun part => !part.isEmpty && part != ['.'])).map String.ofList

/-- Whether a written path starts at the root. -/
def isAbsolute (written : String) : Bool :=
  written.toList.head? == some '/'

/-- A written path in its plain form. -/
def plain (written : String) : String :=
  let text := "/".intercalate (names written)
  if isAbsolute written then "/" ++ text else if text.isEmpty then "." else text

/-- A written path continued by a name. -/
def child (written name : String) : String :=
  let p := plain written
  if p == "." then name else if p == "/" then p ++ name else p ++ "/" ++ name

/-- The path from the root. -/
def shown (p : Path) : String :=
  "/" ++ "/".intercalate p

/-- The place that is reached from another along names, of which two dots lead to the parent. -/
def follow (place : Path) : List String → Path
  | [] => place
  | name :: rest => follow (if name == ".." then place.dropLast else place ++ [name]) rest

/-- The place that a written path leads to from the current directory. -/
def resolve (current : Path) (written : String) : Path :=
  follow (if isAbsolute written then [] else current) (names written)

/-- The last name of a written path. -/
def name (written : String) : String :=
  (names written).getLast?.getD ""

/-- The end of a name from its last full stop on, if something stands before and after that. -/
def suffix (name : String) : String :=
  let cs := name.toList
  let ending := Chars.takeEndWhile (· != '.') cs
  let start := cs.take (cs.length - ending.length)
  if ending.isEmpty || start.length < 2 then "" else "." ++ String.ofList ending

end Path

/-- A tree of files: the places it holds, each a file with its bytes or a directory. -/
structure Files where
  /-- What the tree holds; what was written last comes first. -/
  entries : List (Path × Option Encoding.Bytes) := []
  /-- The places of files that may not be read. -/
  locked : List Path := []
  deriving Repr

namespace Files

/-- What stands at a place. -/
def entry? (f : Files) (p : Path) : Option (Option Encoding.Bytes) :=
  f.entries.lookup p

/-- Whether a place lies below another. -/
def isBelow (p q : Path) : Bool :=
  p.length < q.length && q.take p.length == p

/-- Whether a directory stands at a place. -/
def isDirectory (f : Files) (p : Path) : Bool :=
  p.isEmpty || f.entry? p == some none ||
    ((f.entry? p).isNone && f.entries.any (fun (q, _) => isBelow p q))

/-- Whether a file stands at a place. -/
def isFile (f : Files) (p : Path) : Bool :=
  match f.entry? p with
  | some (some _) => true
  | _ => false

/-- Whether something stands at a place. -/
def holds (f : Files) (p : Path) : Bool :=
  f.isFile p || f.isDirectory p

/-- Why nothing can be found at a place: it leads through a file, or nowhere. -/
def absence (f : Files) (p : Path) : Mishap :=
  if (List.range p.length).any (fun n => f.isFile (p.take n)) then .notDirectory else .noSuchFile

/-- The bytes of the file at a place, if it may be read. -/
def read (f : Files) (p : Path) : Except Mishap Encoding.Bytes :=
  match f.entry? p with
  | some (some bs) => if f.locked.contains p then .error .notPermitted else .ok bs
  | _ => .error (if f.isDirectory p then .isDirectory else f.absence p)

/-- The bytes of the file at a place, whether or not they may be read; none if there is no file. -/
def content (f : Files) (p : Path) : Encoding.Bytes :=
  ((f.entry? p).getD none).getD []

/-- The tree with a file at a place, in an existing directory. -/
def write (f : Files) (p : Path) (bs : Encoding.Bytes) : Except Mishap Files :=
  if f.isDirectory p then .error .isDirectory
  else if f.isDirectory p.dropLast then
    .ok { f with entries := (p, some bs) :: f.entries.filter (fun (q, _) => q != p) }
  else .error (f.absence p)

/-- Whether a path comes before another, name by name. -/
def isBefore : Path → Path → Bool
  | [], _ => true
  | _ :: _, [] => false
  | a :: p, b :: q => if a == b then isBefore p q else a < b

/-- The files below a place, in order of their paths. -/
def below (f : Files) (p : Path) : List Path :=
  ((f.entries.filter (fun (q, content) => isBelow p q && content.isSome)).map Prod.fst).mergeSort isBefore

end Files

end MixedScript
