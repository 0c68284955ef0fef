import MixedScript.Proofs.Spacing.Calm
import MixedScript.Proofs.Spacing.GapText

/-! The work on a row of children, followed to the gap between two of them. Blank texts that stand in
the gap are passed one by one: each is emptied, and what is handed on says that a space is owed and
which visible run stands before the gap. So a space is written once, however many blank texts there
are, in front of the text that ends the gap. -/

namespace MixedScript.Spacing

variable {p : Char} {options : SpacingOptions} {kind : Kind} {carry : Carry}
  {n child left right t : Node} {front blanks cs back : List Node} {l r s seen u v : Chars}
  {m m' : Mapping}

-----------------------------------------------------------------------------------------
-- Behind the gap
-----------------------------------------------------------------------------------------

/-- The text of a child that ends in a visible text: it ends visibly, and then come the blanks at the
end of that text. -/
theorem behind_text (kept : KeepsVisible n child) (found : child.lastLeaf = .ok (.text s m))
    (visible : isBlankRun s = false)
    : ∃ u, shownText p child = u ++ trail s ∧ EndsVisibly u (shownText p n) := by
  obtain ⟨w, whole⟩ := shownText_of_lastLeaf (p := p) found
  have same := visible_shownText (p := p) kept
  obtain ⟨a, c, z, rfl, ha, hc, hz⟩ := exists_core visible
  obtain ⟨core, last, rfl, shown⟩ := hc.ends
  rw [trail_parts a hc hz]
  refine ⟨w ++ (a ++ (core ++ [last])), by simp [whole], ?_, w ++ (a ++ core), last, by simp, shown⟩
  rw [← same, whole]
  simp only [visible_append, visible_eq_nil.mpr hz, List.append_nil]

theorem behind_token (shown : Text.isInlineBlank p = false) (kept : KeepsVisible n child)
    (found : child.lastLeaf = .ok t) (token : isToken t = true)
    : EndsVisibly (shownText p child) (shownText p n) where
  same := visible_shownText kept
  ends := by
    obtain ⟨w, whole⟩ := shownText_of_lastToken (p := p) found token
    exact ⟨w, p, whole, shown⟩

/-- The work on a row has come to the child `n`, which the boundary before it has left as `child`.
The children before `n` have become `row`. -/
structure Arrived (p : Char) (before : List Node) (row : Row) (n child : Node) : Prop where
  behind : visible (rowText p row) = visible (before.flatMap (shownText p))
  kept : KeepsVisible n child
  ends : Stays trail n.lastLeaf child.lastLeaf

theorem rowText_append (row nodes : Row)
    : rowText p (row ++ nodes) = rowText p row ++ rowText p nodes := by
  induction row with
  | nil => rfl
  | cons first row ih =>
      obtain ⟨d, space⟩ := first
      rw [List.cons_append, rowText_cons, rowText_cons, ih, List.append_assoc, List.append_assoc]

/-- Where the work on a row succeeds it comes to every child, and goes on from there. -/
theorem formatRest_arrives {c : Node} {between after : List Node} (kept : KeepsVisible n child)
    (ends : Stays trail n.lastLeaf child.lastLeaf)
    (h : (formatRest .standard options kind carry child (between ++ c :: after)).fault = none)
    : ∃ row carry' child',
        Arrived p (n :: between) row c child'
        ∧ (formatRest .standard options kind carry' child' after).fault = none
        ∧ (formatRest .standard options kind carry child (between ++ c :: after)).result
          = row ++ (formatRest .standard options kind carry' child' after).result := by
  induction between generalizing n child carry with
  | nil =>
      obtain ⟨b, own, resolved, rest, same⟩ := formatRest_cons h
      obtain ⟨keptLeft, keptRight⟩ := kept.resolve (formatNode_keepsVisible options c) resolved
      have start := (resolve_edits resolved).2
      refine ⟨[(b.left, b.space)], b.carry, b.right, ⟨?_, keptRight, ?_⟩, rest, ?_⟩
      · rw [rowText_cons, List.flatMap_singleton]
        have unseen : visible (gap b.space ++ rowText p []) = [] := by cases b.space <;> rfl
        rw [visible_append, unseen, List.append_nil, visible_shownText keptLeft]
      · exact (formatNode_exact c own).ends.trans start.stays
      · exact congrArg Run.result same
  | cons next between ih =>
      rw [List.cons_append] at h ⊢
      obtain ⟨b, own, resolved, rest, same⟩ := formatRest_cons h
      obtain ⟨keptLeft, keptRight⟩ := kept.resolve (formatNode_keepsVisible options next) resolved
      have start := (resolve_edits resolved).2
      obtain ⟨row, carry', child', arrived, ahead, goes⟩ :=
        ih keptRight ((formatNode_exact next own).ends.trans start.stays) rest
      refine ⟨(b.left, b.space) :: row, carry', child', ⟨?_, arrived.kept, arrived.ends⟩, ahead, ?_⟩
      · have unseen : visible (gap b.space) = [] := by cases b.space <;> rfl
        rw [rowText_cons, List.flatMap_cons, visible_append, visible_append, unseen,
          List.nil_append, visible_append, visible_shownText keptLeft, arrived.behind]
      · rw [same, goes, List.cons_append]

/-- The work on the children of a flow comes to every one of them. -/
theorem formatFlow_arrives {c : Node} {after : List Node}
    (h : (formatFlow .standard options kind (front ++ c :: after)).fault = none)
    : ∃ row carry child,
        Arrived p front row c child
        ∧ (formatRest .standard options kind carry child after).fault = none
        ∧ (formatFlow .standard options kind (front ++ c :: after)).result.flatMap (shownText p)
          = rowText p row
            ++ rowText p (formatRest .standard options kind carry child after).result := by
  cases front with
  | nil =>
      obtain ⟨own, rest, same⟩ := formatFlow_cons h
      exact ⟨[], .empty, _, ⟨rfl, formatNode_keepsVisible options c, (formatNode_exact c own).ends⟩,
        rest, by rw [List.nil_append, same]; rfl⟩
  | cons first between =>
      rw [List.cons_append] at h ⊢
      obtain ⟨own, rest, same⟩ := formatFlow_cons h
      obtain ⟨row, carry, child, arrived, ahead, goes⟩ :=
        formatRest_arrives (formatNode_keepsVisible options first) (formatNode_exact first own).ends
          rest
      refine ⟨row, carry, child, arrived, ahead, ?_⟩
      rw [same, goes]
      exact rowText_append _ _

-----------------------------------------------------------------------------------------
-- Ahead of the gap
-----------------------------------------------------------------------------------------

/-- A row starts as the boundary before its first child has left it. -/
theorem formatRest_starts (h : (formatRest .standard options kind carry child cs).fault = none)
    (parent : Kind)
    : Stays lead child.firstLeaf
        (Node.firstLeafOf parent
          (weave (formatRest .standard options kind carry child cs).result)) := by
  cases cs with
  | nil => exact (firstLeaf_repay carry.owed child).mono EndChange.keeps
  | cons c cs =>
      obtain ⟨b, own, resolved, rest, same⟩ := formatRest_cons h
      rw [same, weave_cons]
      exact (resolve_edits resolved).1.stays

/-- The text of a row that starts with a visible text: first the blanks at the start of that text,
and then it starts visibly. -/
theorem ahead_text (kept : KeepsVisible n child) (found : child.firstLeaf = .ok (.text s m))
    (visible : isBlankRun s = false)
    (h : (formatRest .standard options kind carry child cs).fault = none)
    : ∃ v,
        rowText p (formatRest .standard options kind carry child cs).result = lead s ++ v
        ∧ StartsVisibly v ((n :: cs).flatMap (shownText p)) := by
  have same := visible_rowText (p := p) (formatRest_keepsVisible options kind carry kept cs)
  obtain ⟨s', first, sameRun, starts⟩ := (formatRest_starts h .paragraph).text found
  obtain ⟨w, whole⟩ := shownText_of_firstLeaf (p := p)
    (d := .flow .paragraph (weave (formatRest .standard options kind carry child cs).result) [])
    first
  rw [shownText_flow] at whole
  rw [← starts visible]
  obtain ⟨a, c, z, rfl, ha, hc, hz⟩ := exists_core ((isBlankRun_congr sameRun).trans visible)
  obtain ⟨head, rest, rfl, shown⟩ := hc.starts
  rw [lead_parts ha hc]
  refine ⟨head :: rest ++ (z ++ w), ?_, ?_, head, rest ++ (z ++ w), rfl, shown⟩
  · rw [rowText, whole, List.append_assoc, List.append_assoc]
  · rw [← same, rowText, whole]
    simp only [visible_append, visible_eq_nil.mpr ha, List.nil_append, List.append_assoc]

theorem ahead_token (shown : Text.isInlineBlank p = false) (kept : KeepsVisible n child)
    (found : child.firstLeaf = .ok t) (token : isToken t = true)
    (h : (formatRest .standard options kind carry child cs).fault = none)
    : StartsVisibly (rowText p (formatRest .standard options kind carry child cs).result)
        ((n :: cs).flatMap (shownText p)) where
  same := visible_rowText (formatRest_keepsVisible options kind carry kept cs)
  starts := by
    obtain ⟨t', first, keeps⟩ := (formatRest_starts h .paragraph).ok found
    obtain ⟨w, whole⟩ := shownText_of_firstToken (p := p)
      (d := .flow .paragraph (weave (formatRest .standard options kind carry child cs).result) [])
      first (keeps.same.isToken.trans token)
    rw [shownText_flow] at whole
    exact ⟨p, w, whole, shown⟩

-----------------------------------------------------------------------------------------
-- In the gap
-----------------------------------------------------------------------------------------

/-- A text that is a child of its own and holds nothing but spaces and tabs. -/
inductive BlankText : Node → Prop
  | intro {s : Chars} {m : Mapping} (filled : s ≠ []) (blank : isBlankRun s = true)
      : BlankText (.text s m)

theorem formatNode_blank (blank : isBlankRun s = true) (options : SpacingOptions) (m : Mapping)
    : (formatNode .standard options (.text s m)).result = .text s m := by
  rw [formatNode_text]
  have tidy : tidyRun s = s := tidyText_blank blank
  split <;> simp only [tidy]

/-- `Waits seen s carry child`: the work on a row stands at a blank text in a gap; `s` is left of it,
it holds a space or is owed one, and `seen` is the visible run before the gap. -/
inductive Waits (seen s : Chars) : Carry → Node → Prop
  | intro {owed : Bool} {m : Mapping} (blank : isBlankRun s = true)
      (held : (endsBlank s || owed) = true)
      : Waits seen s ⟨owed, seen⟩ (.text s m)

/-- Blank texts are passed without a trace; what is handed on stays. -/
theorem Waits.over_blanks (waits : Waits seen s carry child) (blanks : List Node)
    (blank : ∀ c ∈ blanks, BlankText c)
    (h : (formatRest .standard options kind carry child (blanks ++ cs)).fault = none)
    : ∃ s' carry' child',
        (s = [] → s' = [])
        ∧ Waits seen s' carry' child'
        ∧ (formatRest .standard options kind carry' child' cs).fault = none
        ∧ rowText p (formatRest .standard options kind carry child (blanks ++ cs)).result
          = rowText p (formatRest .standard options kind carry' child' cs).result := by
  induction blanks generalizing s carry child with
  | nil => exact ⟨s, carry, child, id, waits, h, rfl⟩
  | cons c blanks ih =>
      rw [List.cons_append] at h ⊢
      obtain ⟨b, -, resolved, rest, same⟩ := formatRest_cons h
      cases blank c (by simp) with
      | @intro t m' filled bt =>
          obtain @⟨owed, _, bs, held⟩ := waits
          rw [formatNode_blank bt, resolve_blank rfl rfl bs bt] at resolved
          obtain rfl := Except.ok.inj resolved
          have stillOwed : (endsBlank s || startsBlank t || owed) = true := by
            rw [Bool.or_right_comm, held, Bool.true_or]
          have passed : Waits seen [] ⟨endsBlank s || startsBlank t || owed, seen⟩ (.text [] m') :=
            .intro rfl stillOwed
          obtain ⟨s', carry', child', emptied, waits, ahead, goes⟩ :=
            ih passed (fun c mem => blank c (by simp [mem])) rest
          refine ⟨s', carry', child', fun _ => emptied rfl, waits, ahead, ?_⟩
          rw [same, rowText_cons]
          exact goes

/-- A visible text ends the gap, which is left with one space if the table wants one there. -/
theorem Waits.before_text (waits : Waits seen s carry child)
    (hr : right.firstLeaf = .ok (.text r m)) (vr : isBlankRun r = false)
    (h : (formatRest .standard options kind carry child (right :: back)).fault = none)
    : ∃ v,
        rowText p (formatRest .standard options kind carry child (right :: back)).result
          = gap (spaceBetween classify seen (trimLeft r) true) ++ v
        ∧ StartsVisibly v ((right :: back).flatMap (shownText p)) := by
  obtain ⟨b, own, resolved, rest, same⟩ := formatRest_cons h
  obtain ⟨r', hr', sameRun, -⟩ := (formatNode_exact right own).starts.text hr
  have vr' := (isBlankRun_congr sameRun).trans vr
  have head : (trimLeft r').head? = (trimLeft r).head? := by
    rw [head?_trimLeft, head?_trimLeft, sameRun]
  have kept := ((KeepsVisible.refl child).resolve (formatNode_keepsVisible options right) resolved).2
  obtain @⟨owed, m₀, bs, held⟩ := waits
  rw [resolve_after_blank rfl hr' bs vr'] at resolved
  obtain rfl := Except.ok.inj resolved
  obtain ⟨v, ahead, starts⟩ := ahead_text (p := p) kept (Node.firstLeaf_withText hr' _)
    ((isBlankRun_congr (visible_trimLeft r')).trans vr') rest
  rw [(edges_trimLeft vr').1] at ahead
  refine ⟨v, ?_, starts⟩
  have decided
      : ((endsBlank s || startsBlank r' || owed)
          && keepsBlank ⟨owed, seen⟩ (.text s m₀) (trimLeft r'))
        = spaceBetween classify seen (trimLeft r) true := by
    rw [Bool.or_right_comm, held, Bool.true_or, Bool.true_and]
    exact spaceBetween_congr rfl head
  rw [same, rowText_cons, decided, ahead]
  exact congrArg (· ++ _) (List.append_nil _)

/-- A token ends the gap, which is left with what the last blank text of it still holds. -/
theorem Waits.before_token (waits : Waits seen [] carry child) (shown : Text.isInlineBlank p = false)
    (hr : right.firstLeaf = .ok t) (token : isToken t = true)
    (h : (formatRest .standard options kind carry child (right :: back)).fault = none)
    : StartsVisibly
        (rowText p (formatRest .standard options kind carry child (right :: back)).result)
        ((right :: back).flatMap (shownText p)) := by
  obtain ⟨b, own, resolved, rest, same⟩ := formatRest_cons h
  obtain ⟨t', hr', keeps⟩ := (formatNode_exact right own).starts.ok hr
  have still := keeps.same.isToken.trans token
  have kept := ((KeepsVisible.refl child).resolve (formatNode_keepsVisible options right) resolved).2
  obtain ⟨-, -⟩ := waits
  rw [resolve_text_token rfl hr' still] at resolved
  obtain rfl := Except.ok.inj resolved
  rw [same, rowText_cons]
  exact ahead_token shown kept hr' still rest

-----------------------------------------------------------------------------------------
-- The whole gap
-----------------------------------------------------------------------------------------

/-- A gap holds what is left at the end of the child before it and what the row goes on with. -/
theorem Arrived.gapBetween {row : Row} {d : Node} {g w after : Chars}
    (arrived : Arrived p front row left child) (before : shownText p d = u ++ g)
    (ends : EndsVisibly u (shownText p left)) (starts : StartsVisibly v after)
    : GapBetween ((front ++ [left]).flatMap (shownText p)) after (g ++ w)
        (rowText p row ++ (shownText p d ++ (w ++ v))) := by
  refine ⟨rowText p row ++ u, v, by simp [before], ?_, starts⟩
  rw [List.flatMap_append, List.flatMap_singleton]
  exact ends.append_left arrived.behind

/-- Between a visible text and the end of a gap blank texts are passed, and the text before them is
left without blanks. -/
theorem Arrived.over_blanks {row : Row} {c : Node} (arrived : Arrived p front row left child)
    (hl : left.lastLeaf = .ok (.text l m)) (vl : isBlankRun l = false)
    (blank : ∀ d ∈ c :: blanks, BlankText d)
    (h : (formatRest .standard options kind carry child (c :: blanks ++ cs)).fault = none)
    : ∃ seen d carry' child',
        seen.getLast? = (trimRight l).getLast?
        ∧ Waits seen [] carry' child'
        ∧ (formatRest .standard options kind carry' child' cs).fault = none
        ∧ EndsVisibly (shownText p d) (shownText p left)
        ∧ rowText p (formatRest .standard options kind carry child (c :: blanks ++ cs)).result
          = shownText p d
            ++ rowText p (formatRest .standard options kind carry' child' cs).result := by
  rw [List.cons_append] at h ⊢
  obtain ⟨l', hl', sameRun, -⟩ := arrived.ends.text hl
  have vl' := (isBlankRun_congr sameRun).trans vl
  obtain ⟨b, -, resolved, rest, same⟩ := formatRest_cons h
  have kept := (arrived.kept.resolve (formatNode_keepsVisible options c) resolved).1
  cases blank c (by simp) with
  | @intro t m' filled bt =>
      rw [formatNode_blank bt, resolve_before_blank hl' rfl vl' bt] at resolved
      obtain rfl := Except.ok.inj resolved
      have owed : (endsBlank l' || startsBlank t) = true := by
        rw [startsBlank_of_blank bt, List.isEmpty_eq_false_iff.mpr filled, Bool.not_false,
          Bool.or_true]
      have emptied : Waits (trimRight l') [] ⟨endsBlank l' || startsBlank t, trimRight l'⟩
          (.text [] m') :=
        .intro rfl owed
      obtain ⟨_, carry', child', still, waits, ahead, goes⟩ :=
        emptied.over_blanks (p := p) blanks (fun d mem => blank d (by simp [mem])) rest
      obtain rfl := still rfl
      obtain ⟨u, before, ends⟩ := behind_text (p := p) kept (Node.lastLeaf_withText hl' _)
        ((isBlankRun_congr (visible_trimRight l')).trans vl')
      rw [(edges_trimRight vl').1, List.append_nil] at before
      refine ⟨trimRight l', _, carry', child', ?_, waits, ahead, before ▸ ends, ?_⟩
      · rw [getLast?_trimRight, getLast?_trimRight, sameRun]
      · rw [same, rowText_cons]
        exact congrArg (_ ++ ·) goes

section Gap

variable (h : (formatFlow .standard options kind (front ++ left :: (blanks ++ right :: back))).fault
    = none)
  (blank : ∀ c ∈ blanks, BlankText c)

include h blank

/-- Between two visible texts a gap holds one space or nothing, as the table says of the characters
next to it and of whether there was anything in it. -/
theorem gap_between_texts (hl : left.lastLeaf = .ok (.text l m)) (vl : isBlankRun l = false)
    (hr : right.firstLeaf = .ok (.text r m')) (vr : isBlankRun r = false)
    : GapBetween ((front ++ [left]).flatMap (shownText p)) ((right :: back).flatMap (shownText p))
        (gap (spaceBetween classify (trimRight l) (trimLeft r)
          (endsBlank l || !blanks.isEmpty || startsBlank r)))
        ((formatFlow .standard options kind
          (front ++ left :: (blanks ++ right :: back))).result.flatMap (shownText p)) := by
  obtain ⟨row, carry, child, arrived, ahead, whole⟩ := formatFlow_arrives (p := p) h
  rw [whole]
  cases blanks with
  | nil =>
      obtain ⟨b, own, resolved, rest, same⟩ := formatRest_cons ahead
      obtain ⟨keptLeft, keptRight⟩ :=
        arrived.kept.resolve (formatNode_keepsVisible options right) resolved
      have exactly := resolve_exact arrived.ends (formatNode_exact right own).starts resolved
      obtain ⟨⟨l', hl', sameLeft, ended⟩, ⟨r', hr', sameRight, started⟩, decided⟩ :=
        exactly.texts hl hr vl vr
      obtain ⟨u, before, ends⟩ :=
        behind_text (p := p) keptLeft hl' ((isBlankRun_congr sameLeft).trans vl)
      obtain ⟨v, after, starts⟩ :=
        ahead_text (p := p) keptRight hr' ((isBlankRun_congr sameRight).trans vr) rest
      rw [ended] at before
      rw [started] at after
      rw [List.nil_append, same, rowText_cons, after, decided, List.isEmpty_nil, Bool.not_true,
        Bool.or_false]
      exact arrived.gapBetween before ends starts
  | cons c blanks =>
      obtain ⟨seen, d, carry', child', sameEnd, waits, ahead, ends, goes⟩ :=
        arrived.over_blanks hl vl blank ahead
      obtain ⟨v, after, starts⟩ := waits.before_text (p := p) hr vr ahead
      rw [goes, after, List.isEmpty_cons, Bool.not_false, Bool.or_true, Bool.true_or,
        spaceBetween_congr sameEnd rfl]
      exact arrived.gapBetween (List.append_nil _).symm ends starts

/-- Between a visible text and a token a gap holds one space or nothing: as the table says where the
token follows the text, and nothing where blank texts stand between them. -/
theorem gap_before_token (shown : Text.isInlineBlank p = false)
    (hl : left.lastLeaf = .ok (.text l m)) (vl : isBlankRun l = false)
    (hr : right.firstLeaf = .ok t) (token : isToken t = true)
    : GapBetween ((front ++ [left]).flatMap (shownText p)) ((right :: back).flatMap (shownText p))
        (gap (blanks.isEmpty && spaceBetween classify (trimRight l) sentinel (endsBlank l)))
        ((formatFlow .standard options kind
          (front ++ left :: (blanks ++ right :: back))).result.flatMap (shownText p)) := by
  obtain ⟨row, carry, child, arrived, ahead, whole⟩ := formatFlow_arrives (p := p) h
  rw [whole]
  cases blanks with
  | nil =>
      obtain ⟨b, own, resolved, rest, same⟩ := formatRest_cons ahead
      obtain ⟨keptLeft, keptRight⟩ :=
        arrived.kept.resolve (formatNode_keepsVisible options right) resolved
      have exactly := resolve_exact arrived.ends (formatNode_exact right own).starts resolved
      obtain ⟨l', hl', sameLeft, ended⟩ := exactly.beforeToken hl hr token vl
      obtain ⟨u, before, ends⟩ :=
        behind_text (p := p) keptLeft hl' ((isBlankRun_congr sameLeft).trans vl)
      obtain ⟨_, stands, -⟩ := arrived.ends.text hl
      obtain ⟨t', starts, keeps⟩ := (formatNode_exact right own).starts.ok hr
      have still := keeps.same.isToken.trans token
      rw [resolve_text_token stands starts still] at resolved
      obtain rfl := Except.ok.inj resolved
      rw [ended] at before
      rw [List.nil_append, same, rowText_cons]
      have found := arrived.gapBetween (w := []) before ends
        (ahead_token shown keptRight starts still rest)
      rw [List.append_nil] at found
      exact found
  | cons c blanks =>
      obtain ⟨seen, d, carry', child', -, waits, ahead, ends, goes⟩ :=
        arrived.over_blanks hl vl blank ahead
      have starts := waits.before_token (p := p) shown hr token ahead
      rw [goes]
      exact arrived.gapBetween (w := []) (List.append_nil _).symm ends starts

/-- Between a token and a visible text a gap holds one space or nothing: as the table says where the
text follows the token, and a space where blank texts stand between them. -/
theorem gap_after_token (shown : Text.isInlineBlank p = false)
    (hl : left.lastLeaf = .ok t) (token : isToken t = true)
    (hr : right.firstLeaf = .ok (.text r m)) (vr : isBlankRun r = false)
    : GapBetween ((front ++ [left]).flatMap (shownText p)) ((right :: back).flatMap (shownText p))
        (gap (!blanks.isEmpty || spaceBetween classify sentinel (trimLeft r) (startsBlank r)))
        ((formatFlow .standard options kind
          (front ++ left :: (blanks ++ right :: back))).result.flatMap (shownText p)) := by
  obtain ⟨row, carry, child, arrived, ahead, whole⟩ := formatFlow_arrives (p := p) h
  rw [whole]
  obtain ⟨t', stands, keeps⟩ := arrived.ends.ok hl
  have still := keeps.same.isToken.trans token
  cases blanks with
  | nil =>
      obtain ⟨b, own, resolved, rest, same⟩ := formatRest_cons ahead
      obtain ⟨keptLeft, keptRight⟩ :=
        arrived.kept.resolve (formatNode_keepsVisible options right) resolved
      have exactly := resolve_exact arrived.ends (formatNode_exact right own).starts resolved
      obtain ⟨r', hr', sameRight, started⟩ := exactly.afterToken hl hr token vr
      obtain ⟨v, after, starts⟩ :=
        ahead_text (p := p) keptRight hr' ((isBlankRun_congr sameRight).trans vr) rest
      obtain ⟨_, follows, -⟩ := (formatNode_exact right own).starts.text hr
      rw [resolve_token_text stands follows still] at resolved
      obtain rfl := Except.ok.inj resolved
      rw [started] at after
      rw [List.nil_append, same, rowText_cons, after]
      exact arrived.gapBetween (g := []) (List.append_nil _).symm
        (behind_token shown keptLeft stands still) starts
  | cons c blanks =>
      rw [List.cons_append] at ahead ⊢
      obtain ⟨b, -, resolved, rest, same⟩ := formatRest_cons ahead
      cases blank c (by simp) with
      | @intro s m' filled bs =>
          have kept : afterToken s = [' '] := by
            rw [afterToken_blank bs, startsBlank_of_blank bs, List.isEmpty_eq_false_iff.mpr filled]
            rfl
          rw [formatNode_blank bs, resolve_token_text stands rfl still, kept] at resolved
          obtain rfl := Except.ok.inj resolved
          have spaced : Waits [] [' '] ⟨false, []⟩ (.text [' '] m') := .intro rfl rfl
          obtain ⟨_, carry', child', -, waits, ahead', goes⟩ :=
            spaced.over_blanks (p := p) blanks (fun d mem => blank d (by simp [mem])) rest
          obtain ⟨v, after, starts⟩ := waits.before_text (p := p) hr vr ahead'
          have found := arrived.gapBetween (g := []) (w := [' ']) (List.append_nil _).symm
            (behind_token shown arrived.kept stands still) starts
          have written := goes.trans after
          rw [same, rowText_cons]
          exact written ▸ found

end Gap

end MixedScript.Spacing
