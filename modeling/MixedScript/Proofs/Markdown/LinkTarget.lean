import MixedScript.Markdown.TokenTree
import MixedScript.Markdown.Writer
import MixedScript.Proofs.Spacing.LaidOut
import Mathlib.Data.List.Forall2

/-! Where links point before and after spacing. The destination of a link is no text of the document
and stays. An autolink points to what its text says, and that text is spaced like any other. -/

namespace MixedScript.Markdown

open Spacing

-----------------------------------------------------------------------------------------
-- Plain text
-----------------------------------------------------------------------------------------

theorem join_nil_cons (cs : Chars) (rest : List Chars)
    : Chars.join [] (cs :: rest) = cs ++ Chars.join [] rest := by
  cases rest <;> simp [Chars.join]

theorem plainTextOf_nil_cons (n : Node) (rest : List Node)
    : Node.plainTextOf [] (n :: rest) = n.plainText [] ++ Node.plainTextOf [] rest := by
  rw [Node.plainTextOf, Node.plainParts]
  cases n.plainText [] with
  | nil => rfl
  | cons c cs => exact join_nil_cons _ _

theorem plainTextOf_text (s : Chars) (m : Mapping)
    : Node.plainTextOf [] [.text s m] = s :=
  (plainTextOf_nil_cons _ _).trans (List.append_nil s)

theorem plainText_of_noText {n : Node} (leaf : n.isContainer = false)
    (noText : isTextRun n = false)
    : n.plainText [] = [] := by
  cases n with
  | group | flow => cases leaf
  | text => cases noText
  | math | code | note | inert => rfl

variable {options : SpacingOptions} {s t : Chars} {m : Mapping}

mutual

/-- What is visible of the text below a tree stays. -/
theorem visible_plainText {before after : Beyond} {n d : Node}
    (h : LaidOut options before after n d)
    : visible (d.plainText []) = visible (n.plainText []) := by
  cases h with
  | group each => exact visible_plainTextOf_each each
  | flow row => exact visible_plainTextOf_row row
  | leaf single still laid =>
      cases laid with
      | visible filled laid => exact laid.visible
      | blank blank blank' =>
          exact (visible_eq_nil.mpr blank').trans (visible_eq_nil.mpr blank).symm
      | other noText same =>
          rw [plainText_of_noText single noText,
            plainText_of_noText still (same.isTextRun.trans noText)]

theorem visible_plainTextOf_each {before after : Beyond} {cs ds : List Node}
    (h : LaidOutEach options before after cs ds)
    : visible (Node.plainTextOf [] ds) = visible (Node.plainTextOf [] cs) := by
  cases h with
  | nil => rfl
  | last head =>
      rw [plainTextOf_nil_cons, plainTextOf_nil_cons, visible_append, visible_append,
        visible_plainText head]
  | cons head tail =>
      rw [plainTextOf_nil_cons, plainTextOf_nil_cons, visible_append, visible_append,
        visible_plainText head, visible_plainTextOf_each tail]

theorem visible_plainTextOf_row {before after : Beyond} {cs : List Node} {nodes : Row}
    (h : LaidOutRow options before after cs nodes)
    : visible (Node.plainTextOf [] (weave nodes)) = visible (Node.plainTextOf [] cs) := by
  cases h with
  | nil => rfl
  | last head =>
      rw [weave_cons, plainTextOf_nil_cons, plainTextOf_nil_cons, visible_append, visible_append,
        visible_plainText head]
      rfl
  | @cons _ _ _ _ _ space _ _ head tail =>
      rw [weave_cons, plainTextOf_nil_cons, plainTextOf_nil_cons, visible_append, visible_append,
        visible_plainText head, ← visible_plainTextOf_row tail]
      cases space with
      | false => rfl
      | true =>
          rw [if_pos rfl, List.singleton_append, plainTextOf_nil_cons, visible_append]
          rfl

end

-----------------------------------------------------------------------------------------
-- Links
-----------------------------------------------------------------------------------------

/-- A link with its text. -/
structure Link where
  url : Chars
  title : Option Chars
  content : List Node
  metadata : Mapping

namespace Link

/-- A link as a node. -/
def node (link : Link) : Node :=
  .flow (.link link.url link.title) link.content link.metadata

/-- Whether a link is written by its text alone. -/
def isAuto (link : Link) : Bool :=
  hasMark link.metadata "autolink"

/-- What a link points to, as it is written. -/
def target (link : Link) : Chars :=
  if link.isAuto then Node.plainTextOf [] link.content else destination link.url

/-- A link with other text. -/
def withContent (link : Link) (content : List Node) : Link :=
  { link with content }

theorem target_of_auto {link : Link} (auto : link.isAuto = true)
    : link.target = Node.plainTextOf [] link.content :=
  if_pos auto

/-- An autolink points to its other text. -/
theorem target_withContent_of_auto {link : Link} (auto : link.isAuto = true) (content : List Node)
    : (link.withContent content).target = Node.plainTextOf [] content :=
  if_pos auto

/-- Any other link points where it did with other text. -/
theorem target_withContent_of_not_auto {link : Link} (plain : link.isAuto = false)
    (content : List Node)
    : (link.withContent content).target = link.target :=
  (if_neg (Bool.eq_false_iff.mp plain)).trans (if_neg (Bool.eq_false_iff.mp plain)).symm

/-- The text of a link with its target: alone in angle brackets, or behind the link's own text. -/
def written (c : Context) (link : Link) : Except WriteFault Piece :=
  if link.isAuto then .ok (.plain ('<' :: link.target ++ ['>']))
  else do
    let pieces ← writePieces c link.content
    return .plain ('[' :: assemble pieces ++ "](".toList ++ link.target
      ++ titleSuffix link.title ++ [')'])

theorem writePiece_node (c : Context) (link : Link)
    : writePiece c link.node = link.written c := by
  rw [node, writePiece, written, target, isAuto]
  split <;> rfl

end Link

/-- A link in a tree, and what stands beyond its edges. -/
structure LinkPlace where
  link : Link
  before : Beyond
  after : Beyond

mutual

/-- The links that spacing comes to below a node, in document order, those in notes left out. -/
def links : Node → List Link
  | .group _ cs _ => linksOf cs
  | .flow (.link url title) cs m => ⟨url, title, cs, m⟩ :: linksOf cs
  | .flow _ cs _ => linksOf cs
  | _ => []

def linksOf : List Node → List Link
  | [] => []
  | n :: rest => links n ++ linksOf rest

end

mutual

/-- The links below a node with what stands beyond their edges, given what stands beyond those of
the node. -/
def linkPlaces (before after : Beyond) : Node → List LinkPlace
  | .group _ cs _ => linkPlacesEach before after cs
  | .flow (.link url title) cs m =>
      ⟨⟨url, title, cs, m⟩, before, after⟩ :: linkPlacesRow before after cs
  | .flow _ cs _ => linkPlacesRow before after cs
  | _ => []

/-- The links below the children of a group, which have nothing beyond the edges between them. -/
def linkPlacesEach (before after : Beyond) : List Node → List LinkPlace
  | [] => []
  | [n] => linkPlaces before after n
  | n :: next :: rest =>
      linkPlaces before .nothing n ++ linkPlacesEach .nothing after (next :: rest)

/-- The links below the children of a flow, each of which stands beyond the edges of its
neighbours. -/
def linkPlacesRow (before after : Beyond) : List Node → List LinkPlace
  | [] => []
  | [n] => linkPlaces before after n
  | n :: next :: rest =>
      linkPlaces before (beyond next.firstLeaf) n
        ++ linkPlacesRow (beyond n.lastLeaf) after (next :: rest)

end

mutual

/-- Every link of a tree has its place. -/
theorem link_linkPlaces (before after : Beyond) (n : Node)
    : (linkPlaces before after n).map LinkPlace.link = links n := by
  cases n with
  | group form cs m => exact link_linkPlacesEach before after cs
  | flow form cs m =>
      cases form with
      | link url title => exact congrArg (List.cons _) (link_linkPlacesRow before after cs)
      | _ => exact link_linkPlacesRow before after cs
  | text | math | code | note | inert => rfl

theorem link_linkPlacesEach (before after : Beyond) (cs : List Node)
    : (linkPlacesEach before after cs).map LinkPlace.link = linksOf cs := by
  match cs with
  | [] => rfl
  | [n] =>
      rw [linkPlacesEach, linksOf, linksOf, List.append_nil]
      exact link_linkPlaces before after n
  | n :: next :: rest =>
      rw [linkPlacesEach, linksOf, List.map_append, link_linkPlaces before .nothing n,
        link_linkPlacesEach .nothing after (next :: rest)]

theorem link_linkPlacesRow (before after : Beyond) (cs : List Node)
    : (linkPlacesRow before after cs).map LinkPlace.link = linksOf cs := by
  match cs with
  | [] => rfl
  | [n] =>
      rw [linkPlacesRow, linksOf, linksOf, List.append_nil]
      exact link_linkPlaces before after n
  | n :: next :: rest =>
      rw [linkPlacesRow, linksOf, List.map_append, link_linkPlaces before _ n,
        link_linkPlacesRow _ after (next :: rest)]

end

/-- Whether the only text of a link, with what stands beyond its edges, is spaced already. -/
def IsSettledAt (options : SpacingOptions) (before after : Beyond) (s : Chars) : Prop :=
  (options.text = true → tidyRun s = s)
    ∧ startBlanks s before = lead s
    ∧ endBlanks s after = trail s

/-- A link beside what it has become. -/
structure StillPoints (options : SpacingOptions) (place : LinkPlace) (link : Link) : Prop where
  url : link.url = place.link.url
  title : link.title = place.link.title
  metadata : link.metadata = place.link.metadata
  /-- The target of a link that is no autolink stays. -/
  destination : place.link.isAuto = false → link.target = place.link.target
  /-- The target of any link keeps all but spaces and tabs. -/
  visible : visible link.target = visible place.link.target
  /-- The target of an autolink around a single text stays exactly where that text is spaced
  already. -/
  single : ∀ s m, place.link.isAuto = true → place.link.content = [.text s m] → isBlankRun s = false
    → (link.target = place.link.target ↔ IsSettledAt options place.before place.after s)

/-- A visible text is its blanks at either edge and what is between them. -/
theorem eq_iff_parts (filled : isBlankRun s = false) (still : isBlankRun t = false)
    : t = s ↔ lead t = lead s ∧ visiblePart t = visiblePart s ∧ trail t = trail s := by
  constructor
  · rintro rfl
    exact ⟨rfl, rfl, rfl⟩
  · obtain ⟨a, c, z, rfl, ha, hc, hz⟩ := exists_core filled
    obtain ⟨a', c', z', rfl, ha', hc', hz'⟩ := exists_core still
    rintro ⟨starts, inside, ends⟩
    rw [lead_parts ha' hc', lead_parts ha hc] at starts
    rw [visiblePart, visiblePart_parts ha' hc' hz', visiblePart, visiblePart_parts ha hc hz]
      at inside
    rw [trail_parts _ hc' hz', trail_parts _ hc hz] at ends
    rw [starts, inside, ends]

/-- A text is tidy if its inside is. -/
theorem tidyRun_eq_self (filled : isBlankRun s = false)
    : tidyRun s = s ↔ tidyRun (visiblePart s) = visiblePart s := by
  obtain ⟨a, c, z, rfl, ha, hc, hz⟩ := exists_core filled
  rw [visiblePart, visiblePart_parts ha hc hz, tidyRun, tidyRun, tidyText_parts ha hc hz,
    List.append_right_inj, List.append_left_inj]

/-- A text is spaced already exactly if it stays as it is. -/
theorem laidOutText_eq_iff {before after : Beyond} (filled : isBlankRun s = false)
    (h : LaidOutText options before after s t)
    : t = s ↔ IsSettledAt options before after s := by
  rw [eq_iff_parts filled ((isBlankRun_congr h.visible).trans filled), h.starts, h.inside, h.ends,
    IsSettledAt, tidyRun_eq_self filled]
  cases options.text <;> simp [and_left_comm]

/-- A link whose children have been laid out still points where it did, up to its text. -/
theorem stillPoints {place : LinkPlace} {nodes : Row}
    (h : LaidOutRow options place.before place.after place.link.content nodes)
    : StillPoints options place (place.link.withContent (weave nodes)) where
  url := rfl
  title := rfl
  metadata := rfl
  destination plain := Link.target_withContent_of_not_auto plain _
  visible := by
    cases auto : place.link.isAuto with
    | true =>
        rw [Link.target_withContent_of_auto auto, Link.target_of_auto auto]
        exact visible_plainTextOf_row h
    | false => rw [Link.target_withContent_of_not_auto auto]
  single := by
    intro s m' auto alone filled
    rw [Link.target_withContent_of_auto auto, Link.target_of_auto auto, alone]
    rw [alone] at h
    cases h with
    | last head =>
        cases head with
        | leaf single still laid =>
            cases laid with
            | visible filled' laid =>
                rw [weave, weave, plainTextOf_text, plainTextOf_text]
                exact laidOutText_eq_iff filled laid
            | blank blank => rw [filled] at blank; cases blank
            | other noText => cases noText

theorem links_space_append (space : Bool) (ns : List Node)
    : linksOf ((if space then [Node.space] else []) ++ ns) = linksOf ns := by
  cases space <;> rfl

mutual

/-- The links of a tree and those of what it has been laid out as correspond one to one. -/
theorem links_laidOut {before after : Beyond} {n d : Node} (h : LaidOut options before after n d)
    : List.Forall₂ (StillPoints options) (linkPlaces before after n) (links d) := by
  cases h with
  | group each => exact links_laidOutEach each
  | @flow _ _ form _ _ _ row =>
      have inner := links_laidOutRow row
      cases form with
      | link url title => exact .cons (@stillPoints _ ⟨⟨url, title, _, _⟩, _, _⟩ _ row) inner
      | _ => exact inner
  | leaf single still =>
      cases n with
      | group | flow => cases single
      | text | math | code | note | inert =>
          cases d with
          | group | flow => cases still
          | text | math | code | note | inert => exact .nil

theorem links_laidOutEach {before after : Beyond} {cs ds : List Node}
    (h : LaidOutEach options before after cs ds)
    : List.Forall₂ (StillPoints options) (linkPlacesEach before after cs) (linksOf ds) := by
  cases h with
  | nil => exact .nil
  | last head =>
      rw [linksOf, linksOf, List.append_nil]
      exact links_laidOut head
  | cons head tail => exact List.rel_append (links_laidOut head) (links_laidOutEach tail)

theorem links_laidOutRow {before after : Beyond} {cs : List Node} {nodes : Row}
    (h : LaidOutRow options before after cs nodes)
    : List.Forall₂ (StillPoints options) (linkPlacesRow before after cs)
        (linksOf (weave nodes)) := by
  cases h with
  | nil => exact .nil
  | last head =>
      rw [weave_cons, linksOf, links_space_append, weave, linksOf, List.append_nil]
      exact links_laidOut head
  | cons head tail =>
      rw [weave_cons, linksOf, links_space_append]
      exact List.rel_append (links_laidOut head) (links_laidOutRow tail)

end

/-- Where spacing by the usual rules succeeds, every link keeps its URL, its title and its marks, and
it is written with its target before and after. One that is written with a destination points where it
did. An autolink points to the same text up to spaces and tabs. It points to exactly the same text,
where this is a single one with something visible in it, if and only if that text is spaced already:
it is tidy, or texts are not tidied, and it has no blanks next to another text and as many as the table
says next to a token. -/
theorem links_keep_targets (options : SpacingOptions) (tree : Node)
    (h : (format .standard options tree).fault = none)
    : List.Forall₂ (StillPoints options) (linkPlaces .nothing .nothing tree)
        (links (format .standard options tree).result)
      ∧ (linkPlaces .nothing .nothing tree).map LinkPlace.link = links tree
      ∧ ∀ link ∈ links tree ++ links (format .standard options tree).result,
          ∀ c, writePiece c link.node = link.written c := by
  refine ⟨links_laidOut (formatNode_laidOut tree h), link_linkPlaces .nothing .nothing tree, ?_⟩
  intro link _ c
  exact link.writePiece_node c

/-- The Latin autolink before code stays, and so does the destination of the link with CJK text. -/
theorem latin_autolink_keeps_target
    : let auto := Link.mk [] none [.text "a:b".toList []] (mark "autolink")
      let named := Link.mk "例".toList none [.text "中a".toList []] []
      let tree := Node.flow .paragraph [named.node, auto.node, .code [] []] []
      let spaced := Node.flow .paragraph [(named.withContent [.text "中 a".toList []]).node,
        auto.node, .code [] []] []
      (format .standard {} tree).fault = none
      ∧ (format .standard {} tree).result = spaced
      ∧ (links spaced).map Link.target = ["例".toList, "a:b".toList]
      ∧ List.Forall₂ (StillPoints {})
          [⟨named, .nothing, .text⟩, ⟨auto, .text, .token⟩] (links spaced) := by
  intro auto named tree spaced
  exact ⟨rfl, rfl, by decide, (links_keep_targets {} tree rfl).1⟩

/-- An autolink with CJK text in its host gets a space there, and is none any more when it is
written. -/
theorem cjk_autolink_points_elsewhere
    : ¬ ∀ (options : SpacingOptions) (tree : Node), (format .standard options tree).fault = none
        → (links (format .standard options tree).result).map Link.target
          = (links tree).map Link.target := by
  intro keeps
  have same := keeps {} (Link.mk [] none [.text "h://例".toList []] (mark "autolink")).node rfl
  revert same
  decide

end MixedScript.Markdown
