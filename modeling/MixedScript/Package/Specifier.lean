import MixedScript.Package.Version

/-!
Specifiers: conditions on the version of a package. A set of them between commas asks for all.
-/

namespace MixedScript.Package

/-- A condition on a version. -/
inductive Specifier where
  /-- A version that is compatible with one: not before it, and with the same release but for the last number. -/
  | compatible (v : Version)
  | equal (v : Version)
  /-- A version whose release begins with that of another. -/
  | within (v : Version)
  /-- Any version but one. -/
  | different (v : Version)
  /-- Any version whose release does not begin with that of another. -/
  | outside (v : Version)
  /-- A version or one before it. -/
  | atMost (v : Version)
  /-- A version or one after it. -/
  | atLeast (v : Version)
  /-- A version before another. -/
  | before (v : Version)
  /-- A version after another. -/
  | after (v : Version)
  /-- A version with a text. -/
  | identical (text : Chars)
  deriving DecidableEq, Repr

namespace Specifier

/-! ### Reading -/

/-- A version without the name of a build. -/
def publicVersion? (cs : Chars) : Option Version :=
  (Version.parse? cs).filter (fun v => v.build.isEmpty)

/-- A condition of equality or difference, with a version or the start of a release in front of a star. -/
def readEquality (exact start : Version → Specifier) (cs : Chars) : Option Specifier :=
  match cs.reverse with
  | '*' :: '.' :: rest =>
    ((publicVersion? rest.reverse).filter (fun v => v == v.base)).map start
  | _ => (Version.parse? cs).map exact

/-- The signs of conditions, longer ones before their beginnings, with what reads the text behind them. -/
def signs : List (String × (Chars → Option Specifier)) := [
  ("===", fun cs => if cs.any (fun c => Text.isBlank c || c == ';' || c == ')') then none else some (.identical cs)),
  ("~=", fun cs => ((publicVersion? cs).filter (fun v => 2 ≤ v.release.length)).map compatible),
  ("==", readEquality equal within),
  ("!=", readEquality different outside),
  ("<=", fun cs => (publicVersion? cs).map atMost),
  (">=", fun cs => (publicVersion? cs).map atLeast),
  ("<", fun cs => (publicVersion? cs).map before),
  (">", fun cs => (publicVersion? cs).map after)]

/-- The condition that a text stands for. -/
def parse? (cs : Chars) : Option Specifier := do
  let (read, rest) ← signs.findSome? (fun (sign, read) =>
    (Chars.after? sign.toList (Chars.strip cs)).map (fun rest => (read, rest)))
  read (Chars.strip rest)

/-- The conditions between commas in a text. -/
def parseAll? (cs : Chars) : Option (List Specifier) :=
  ((Chars.splitAt ',' cs).filter (fun part => !(Chars.strip part).isEmpty)).mapM parse?

/-! ### Meaning -/

/-- Whether the release of a version begins with numbers; missing numbers count as zeros. -/
def beginsWith (epoch : Nat) (start : List Nat) (v : Version) : Bool :=
  v.epoch == epoch && (v.release ++ List.replicate start.length 0).take start.length == start

/-- Whether a version is another, apart from the name of a build that the other lacks. -/
def isSame (v w : Version) : Bool :=
  (if w.build.isEmpty then v.withoutBuild else v).order w == .eq

/-- Whether two versions belong to one release. -/
def sameRelease (v w : Version) : Bool :=
  v.base.order w.base == .eq

/-- Whether a version meets a condition. What comes before a release is not before it for a condition that names
the release itself, and likewise a revision or a build is not after it. -/
def admits (s : Specifier) (v : Version) : Bool :=
  match s with
  | compatible w => v.withoutBuild.order w != .lt && beginsWith w.epoch w.release.dropLast v
  | equal w => isSame v w
  | within w => beginsWith w.epoch w.release v
  | different w => !isSame v w
  | outside w => !beginsWith w.epoch w.release v
  | atMost w => v.withoutBuild.order w != .gt
  | atLeast w => v.withoutBuild.order w != .lt
  | before w => v.order w == .lt && (w.isPreliminary || !v.isPreliminary || !sameRelease v w)
  | after w =>
    v.order w == .gt && (w.revision.isSome || v.revision.isNone || !sameRelease v w) &&
      (v.build.isEmpty || !sameRelease v w)
  | identical text => v.text == text.map Char.toLower

end Specifier

end MixedScript.Package
