import MixedScript.Journal

/-!
The difference of two lists of lines: which lines stay, found by the longest common block first and then on
both sides of it, and its text with the lines around every change. Lines that are very frequent in a long list
start no block.
-/

namespace MixedScript.Difference

/-! ### Blocks -/

/-- A block of lines that two lists have in common. -/
structure Block where
  /-- The number of lines before it on the left. -/
  left : Nat
  /-- The number of lines before it on the right. -/
  right : Nat
  /-- The number of its lines. -/
  size : Nat
  deriving DecidableEq, Repr

section

variable {α : Type} [BEq α]

/-- For every line on the right, the length of the common block that ends in it and in a line on the left, given
the lengths for the line before that. -/
def runLengths (eligible : α → Bool) (x : α) : List α → List Nat → List Nat
  | [], _ => []
  | y :: ys, before => (if x == y && eligible y then before.headD 0 + 1 else 0) :: runLengths eligible x ys before.tail

/-- The longest of the blocks that end in a line on the left, or one that is as long and was found before. -/
def longestOf (left : Nat) : Nat → List Nat → Block → Block
  | _, [], best => best
  | j, k :: ks, best =>
    longestOf left (j + 1) ks (if best.size < k then ⟨left + 1 - k, j + 1 - k, k⟩ else best)

/-- The longest block of eligible lines, given the lengths of blocks that end in the line before. The first is
taken of several. -/
def longestFrom (eligible : α → Bool) (ys : List α) : Nat → List α → List Nat → Block → Block
  | _, [], _, best => best
  | i, x :: xs, before, best =>
    let lengths := runLengths eligible x ys (0 :: before)
    longestFrom eligible ys (i + 1) xs lengths (longestOf i 0 lengths best)

/-- The number of lines that two lists have in common at their starts. -/
def commonStart : List α → List α → Nat
  | x :: xs, y :: ys => if x == y then commonStart xs ys + 1 else 0
  | _, _ => 0

/-- The longest block that two lists have in common, with the lines around it that are equal as well. -/
def longestBlock (eligible : α → Bool) (xs ys : List α) : Block :=
  let b := longestFrom eligible ys 0 xs [] ⟨0, 0, 0⟩
  let earlier := commonStart (xs.take b.left).reverse (ys.take b.right).reverse
  let later := commonStart (xs.drop (b.left + b.size)) (ys.drop (b.right + b.size))
  ⟨b.left - earlier, b.right - earlier, earlier + b.size + later⟩

/-- The common blocks of two lists in order, of lists that begin at given places. -/
def blocksFrom (eligible : α → Bool) : Nat → Nat → Nat → List α → List α → List Block
  | 0, _, _, _, _ => []
  | fuel + 1, i, j, xs, ys =>
    let b := longestBlock eligible xs ys
    if b.size == 0 then []
    else
      blocksFrom eligible fuel i j (xs.take b.left) (ys.take b.right) ++
        ⟨i + b.left, j + b.right, b.size⟩ ::
          blocksFrom eligible fuel (i + b.left + b.size) (j + b.right + b.size)
            (xs.drop (b.left + b.size)) (ys.drop (b.right + b.size))

/-- The lines that start no block: in a list of two hundred lines or more, those that make up more than a
hundredth of them. -/
def frequentLines (ys : List α) : List α :=
  if ys.length < 200 then []
  else (ys.filter (fun y => ys.length / 100 + 1 < (ys.filter (· == y)).length)).eraseDups

/-- The common blocks of two lists, in order. -/
def blocks (xs ys : List α) : List Block :=
  let frequent := frequentLines ys
  blocksFrom (fun y => !frequent.contains y) (xs.length + 1) 0 0 xs ys

end

/-! ### Stretches -/

/-- A stretch of both lists: lines that stay, or lines of which those on the right replace those on the left. -/
structure Stretch where
  /-- Whether the lines stay. -/
  stays : Bool
  /-- The number of lines before it on the left. -/
  left : Nat
  /-- The number of lines up to its end on the left. -/
  leftEnd : Nat
  /-- The number of lines before it on the right. -/
  right : Nat
  /-- The number of lines up to its end on the right. -/
  rightEnd : Nat
  deriving DecidableEq, Repr

/-- A stretch of lines that change, unless there are none. -/
def changeBetween (left leftEnd right rightEnd : Nat) : List Stretch :=
  if left == leftEnd && right == rightEnd then [] else [⟨false, left, leftEnd, right, rightEnd⟩]

/-- The stretches from given places on, with the blocks to come. -/
def stretchesFrom (leftLength rightLength : Nat) : Nat → Nat → List Block → List Stretch
  | i, j, [] => changeBetween i leftLength j rightLength
  | i, j, b :: rest =>
    changeBetween i b.left j b.right ++ ⟨true, b.left, b.left + b.size, b.right, b.right + b.size⟩ ::
      stretchesFrom leftLength rightLength (b.left + b.size) (b.right + b.size) rest

/-- Stretches with neighbours that stay made one. -/
def joinStays : List Stretch → List Stretch
  | [] => []
  | s :: rest =>
    match joinStays rest with
    | t :: later =>
      if s.stays && t.stays then ⟨true, s.left, t.leftEnd, s.right, t.rightEnd⟩ :: later else s :: t :: later
    | [] => [s]

/-! ### Hunks -/

/-- The number of lines that are shown around a change. -/
def context : Nat := 3

/-- The last lines of a stretch, as many as are shown. -/
def Stretch.ending (s : Stretch) : Stretch :=
  { s with left := max s.left (s.leftEnd - context), right := max s.right (s.rightEnd - context) }

/-- The first lines of a stretch, as many as are shown. -/
def Stretch.start (s : Stretch) : Stretch :=
  { s with leftEnd := min s.leftEnd (s.left + context), rightEnd := min s.rightEnd (s.right + context) }

/-- Groups of stretches, cut where more lines stay than are shown behind one change and before the next. The
group before the first stretch is given. -/
def hunksFrom (group : List Stretch) : List Stretch → List (List Stretch)
  | [] => [group]
  | [s] => [if s.stays then group ++ [s.start] else group ++ [s]]
  | s :: rest =>
    if s.stays && 2 * context < s.leftEnd - s.left then (group ++ [s.start]) :: hunksFrom [s.ending] rest
    else hunksFrom (group ++ [s]) rest

/-- The hunks of a difference: its changes with the lines that are shown around them. -/
def hunks (stretches : List Stretch) : List (List Stretch) :=
  let shown := match stretches with
    | s :: rest => if s.stays then hunksFrom [s.ending] rest else hunksFrom [] (s :: rest)
    | [] => []
  shown.filter (fun group => group.any (fun s => !s.stays))

/-! ### Text -/

/-- The place of lines in a list: the number of the first, from one, and how many there are unless it is one. -/
def showRange (start stop : Nat) : String :=
  if stop - start == 1 then showNat (start + 1)
  else showNat (if stop == start then start else start + 1) ++ "," ++ showNat (stop - start)

/-- The lines between two places. -/
def slice (lines : List Chars) (start stop : Nat) : List Chars :=
  (lines.drop start).take (stop - start)

/-- Lines with a mark in front of each. -/
def marked (mark : Char) (lines : List Chars) : Chars :=
  lines.flatMap (fun line => mark :: line)

def Stretch.text (xs ys : List Chars) (s : Stretch) : Chars :=
  if s.stays then marked ' ' (slice xs s.left s.leftEnd)
  else marked '-' (slice xs s.left s.leftEnd) ++ marked '+' (slice ys s.right s.rightEnd)

def hunkText (xs ys : List Chars) (group : List Stretch) : Chars :=
  match group.head?, group.getLast? with
  | some first, some last =>
    ("@@ -" ++ showRange first.left last.leftEnd ++ " +" ++ showRange first.right last.rightEnd ++ " @@\n").toList ++
      group.flatMap (Stretch.text xs ys)
  | _, _ => []

/-- The text of the difference between two lists of lines under names; empty if there is none. -/
def unified (leftName rightName : String) (xs ys : List Chars) : Chars :=
  match hunks (joinStays (stretchesFrom xs.length ys.length 0 0 (blocks xs ys))) with
  | [] => []
  | groups => ("--- " ++ leftName ++ "\n+++ " ++ rightName ++ "\n").toList ++ groups.flatMap (hunkText xs ys)

end MixedScript.Difference
