import MixedScript.Text.Digits
import MixedScript.Text.LetterCase

/-!
Versions of packages: a release, possibly with a stage before it, a revision after it, a state of development
and the name of a build. Versions are ordered by what they come before and after.
-/

namespace MixedScript.Package

/-- A stage before a release. -/
inductive Stage where
  | alpha | beta | candidate
  deriving DecidableEq, Repr

namespace Stage

/-- The place of a stage among the stages, from one. -/
def rank : Stage → Nat
  | alpha => 1
  | beta => 2
  | candidate => 3

def text : Stage → Chars
  | alpha => ['a']
  | beta => ['b']
  | candidate => ['r', 'c']

/-- The words for stages, longer ones before their beginnings. -/
def words : List (String × Stage) := [
  ("alpha", alpha), ("a", alpha), ("beta", beta), ("b", beta), ("preview", candidate), ("pre", candidate),
  ("c", candidate), ("rc", candidate)]

end Stage

structure Version where
  /-- The number of the scheme of numbers. -/
  epoch : Nat := 0
  /-- The numbers of the release. -/
  release : List Nat
  /-- The stage before the release, and its number. -/
  stage : Option (Stage × Nat) := none
  /-- The number of the revision after the release. -/
  revision : Option Nat := none
  /-- The number of the state of development. -/
  development : Option Nat := none
  /-- The parts of the name of the build. -/
  build : List Chars := []
  deriving DecidableEq, Repr

namespace Version

/-! ### Reading -/

/-- A text without the separator at its start. -/
def skipSeparator (cs : Chars) : Chars :=
  match cs with
  | c :: rest => if c == '-' || c == '_' || c == '.' then rest else cs
  | [] => []

/-- A number, and what follows. -/
def readNumber (cs : Chars) : Option (Nat × Chars) :=
  let ds := cs.takeWhile Char.isDigit
  if ds.isEmpty then none else some (Text.decimalValue ds, cs.drop ds.length)

/-- Numbers between full stops, and what follows. -/
def readRelease : Nat → Chars → Option (List Nat × Chars)
  | 0, _ => none
  | fuel + 1, cs => do
    let (n, rest) ← readNumber cs
    match rest with
    | '.' :: more =>
      match readRelease fuel more with
      | some (ns, rest) => some (n :: ns, rest)
      | none => some ([n], rest)
    | _ => some ([n], rest)

/-- A word of a list with the number behind it, which is zero if there is none, and what follows. Separators may
stand before the word and behind it. -/
def readMarked {α : Type} (words : List (String × α)) (cs : Chars) : Option ((α × Nat) × Chars) := do
  let start := skipSeparator cs
  let (a, rest) ← words.findSome? (fun (word, a) => (Chars.after? word.toList start).map (fun rest => (a, rest)))
  let rest := skipSeparator rest
  some (match readNumber rest with
    | some (n, rest) => ((a, n), rest)
    | none => ((a, 0), rest))

/-- A revision, and what follows. A hyphen and a number are enough. -/
def readRevision (cs : Chars) : Option (Nat × Chars) :=
  let short : Option (Nat × Chars) := match cs with
    | '-' :: rest => readNumber rest
    | _ => none
  short.orElse (fun _ =>
    (readMarked [("post", ()), ("rev", ()), ("r", ())] cs).map (fun ((_, n), rest) => (n, rest)))

/-- A part of a version that may be missing, and what follows. -/
def optional {α : Type} (read : Chars → Option (α × Chars)) (cs : Chars) : Option α × Chars :=
  match read cs with
  | some (a, rest) => (some a, rest)
  | none => (none, cs)

/-- A version without the name of a build, and what follows. -/
def readPublic (cs : Chars) : Option (Version × Chars) := do
  let cs := match cs with
    | 'v' :: rest => rest
    | _ => cs
  let (epoch, cs) := match readNumber cs with
    | some (n, '!' :: rest) => (n, rest)
    | _ => (0, cs)
  let (release, rest) ← readRelease (cs.length + 1) cs
  let (stage, rest) := optional (readMarked Stage.words) rest
  let (revision, rest) := optional readRevision rest
  let (development, rest) := optional (readMarked [("dev", ())]) rest
  some ({ epoch := epoch, release := release, stage := stage, revision := revision,
          development := development.map Prod.snd }, rest)

/-- The parts of the name of a build. -/
def readBuild? (cs : Chars) : Option (List Chars) :=
  let parts := Chars.splitAt '.' (cs.map (fun c => if c == '-' || c == '_' then '.' else c))
  if parts.all (fun part => !part.isEmpty && part.all Char.isAlphanum) then some parts else none

/-- The version that a text stands for. -/
def parse? (cs : Chars) : Option Version := do
  match ← readPublic (cs.map Char.toLower) with
  | (v, []) => some v
  | (v, '+' :: rest) => (readBuild? rest).map (fun parts => { v with build := parts })
  | _ => none

/-- The version that a text stands for, apart from blanks around it. -/
def ofText? (text : String) : Option Version :=
  parse? (Chars.strip text.toList)

/-! ### Order -/

/-- The order of lists by their first difference; a list comes before those that it begins. -/
def compareLists {α : Type} (order : α → α → Ordering) : List α → List α → Ordering
  | [], [] => .eq
  | [], _ :: _ => .lt
  | _ :: _, [] => .gt
  | a :: as, b :: bs => (order a b).then (compareLists order as bs)

/-- Numbers without the zeros at their end. -/
def significant (ns : List Nat) : List Nat :=
  (ns.reverse.dropWhile (· == 0)).reverse

/-- The place of a version among those of one release: states of development first, then the stages, then the
release itself. -/
def stageRank (v : Version) : Nat × Nat :=
  match v.stage with
  | some (stage, n) => (stage.rank, n)
  | none => if v.revision.isNone && v.development.isSome then (0, 0) else (4, 0)

/-- The order of parts of the names of builds: words come before numbers. -/
def comparePart (a b : Chars) : Ordering :=
  match a.all Char.isDigit, b.all Char.isDigit with
  | true, true => compare (Text.decimalValue a) (Text.decimalValue b)
  | true, false => .gt
  | false, true => .lt
  | false, false => compareLists (fun x y : Char => compare x.toNat y.toNat) a b

/-- The place of a version among those of one stage: revisions come after having none. -/
def revisionRank (v : Version) : Nat :=
  match v.revision with
  | some n => n + 1
  | none => 0

/-- The place of a version among those of one revision: states of development come before having none. -/
def developmentRank (v : Version) : Nat × Nat :=
  match v.development with
  | some n => (0, n)
  | none => (1, 0)

/-- The order of pairs by their first parts, then by their second ones. -/
def comparePairs (a b : Nat × Nat) : Ordering :=
  (compare a.1 b.1).then (compare a.2 b.2)

def order (v w : Version) : Ordering :=
  (compare v.epoch w.epoch).then <|
  (compareLists compare (significant v.release) (significant w.release)).then <|
  (comparePairs v.stageRank w.stageRank).then <|
  (compare v.revisionRank w.revisionRank).then <|
  (comparePairs v.developmentRank w.developmentRank).then <|
  compareLists comparePart v.build w.build

/-! ### Parts -/

/-- The version without the name of its build. -/
def withoutBuild (v : Version) : Version :=
  { v with build := [] }

/-- The release that a version belongs to. -/
def base (v : Version) : Version :=
  { epoch := v.epoch, release := v.release }

/-- Whether a version comes before its release. -/
def isPreliminary (v : Version) : Bool :=
  v.stage.isSome || v.development.isSome

/-- The text of a version in its normal form. -/
def text (v : Version) : Chars :=
  (if v.epoch == 0 then [] else Chars.ofNat v.epoch ++ ['!']) ++
    Chars.join ['.'] (v.release.map Chars.ofNat) ++
    ((v.stage.map (fun (stage, n) => stage.text ++ Chars.ofNat n)).getD []) ++
    ((v.revision.map (fun n => ".post".toList ++ Chars.ofNat n)).getD []) ++
    ((v.development.map (fun n => ".dev".toList ++ Chars.ofNat n)).getD []) ++
    (if v.build.isEmpty then [] else '+' :: Chars.join ['.'] (v.build.map plainPart))
where
  /-- A part of the name of a build without the zeros at the start of a number. -/
  plainPart (part : Chars) : Chars :=
    if part.all Char.isDigit then Chars.ofNat (Text.decimalValue part) else part

end Version

end MixedScript.Package
