import MixedScript.Proofs.Mapping
import Mathlib.Data.List.Infix

/-! One mapping laid over another, seen along paths. At every path the mapping above has the last word,
and what it does not speak of stays as it is below; keys keep the places that they have below, and new
ones follow in the order above. -/

namespace MixedScript

/-- A value that is no mapping: where a path ends. -/
def Value.IsLeaf (v : Value) : Prop :=
  ∀ m, v ≠ .map m

namespace Mapping

variable {key k : Scalar} {value v w : Value} {m base above inner outer : Mapping}
  {path : List Scalar}

/-- What is reached in a value along keys, each of which leads into the mapping that the one before has
led to. -/
def follow? : List Scalar → Value → Option Value
  | [], value => some value
  | key :: path, .map m => (get? key m).bind (follow? path)
  | _ :: _, _ => none

/-- Along a path, on its way or at its end, stands a value that is no mapping. -/
def MeetsLeaf (path : List Scalar) (w : Value) : Prop :=
  ∃ start, start <+: path ∧ ∃ v, follow? start w = some v ∧ v.IsLeaf

/-- A mapping in which no key stands twice, nor in any mapping that is nested in it. -/
inductive UniqueThroughout : Mapping → Prop
  | intro {m : Mapping} (unique : Unique m)
    (nested : ∀ key inner, (key, .map inner) ∈ m → UniqueThroughout inner)
    : UniqueThroughout m

theorem UniqueThroughout.unique (h : UniqueThroughout m)
    : Unique m := by
  obtain ⟨unique, -⟩ := h
  exact unique

theorem UniqueThroughout.nested (h : UniqueThroughout m) (held : (key, .map inner) ∈ m)
    : UniqueThroughout inner := by
  obtain ⟨-, nested⟩ := h
  exact nested key inner held

-----------------------------------------------------------------------------------------
-- One key
-----------------------------------------------------------------------------------------

theorem get?_congr (same : k.sameKey key = true) (m : Mapping)
    : get? k m = get? key m := by
  induction m with
  | nil => rfl
  | cons entry m ih =>
      rw [get?, get?, ih, Scalar.sameKey_comm entry.1 k, Scalar.sameKey_congr same,
        Scalar.sameKey_comm key]

theorem mem_of_get? (found : get? key m = some value)
    : ∃ k, (k, value) ∈ m := by
  induction m with
  | nil => cases found
  | cons entry m ih =>
      obtain ⟨k, old⟩ := entry
      cases same : k.sameKey key with
      | true =>
          rw [get?_cons_same same] at found
          exact ⟨k, Option.some.inj found ▸ List.mem_cons_self⟩
      | false =>
          rw [get?_cons_other same] at found
          obtain ⟨k', held⟩ := ih found
          exact ⟨k', List.mem_cons_of_mem _ held⟩

/-- What stands under a key can be put there again. -/
theorem insert_same (found : get? key m = some value)
    : insert key value m = m := by
  rcases insert_cases key value m with ⟨absent, -⟩ | ⟨before, k, old, after, rfl, -, -, held, put⟩
  · cases absent.symm.trans found
  · obtain rfl := Option.some.inj (held.symm.trans found)
    exact put

theorem mergeValue_map (below above : Mapping)
    : mergeValue (some (.map below)) (.map above) = .map (merge below above) := by
  rw [mergeValue]

/-- Only a mapping is merged, and only into a mapping; any other value takes the place. -/
theorem mergeValue_above {below : Option Value}
    (apart : ∀ inner outer, below = some (.map inner) → w ≠ .map outer)
    : mergeValue below w = w := by
  rw [mergeValue]
  intro inner outer found above
  exact apart inner outer found above

/-- Under each key of a merged mapping stands what the values of both make together. -/
theorem get?_merge_of_unique (unique : Unique above)
    : get? key (merge base above)
      = match get? key above with
        | some w => some (mergeValue (get? key base) w)
        | none => get? key base := by
  induction above generalizing base with
  | nil =>
      rw [merge]
      rfl
  | cons entry above ih =>
      obtain ⟨k, w⟩ := entry
      rw [merge_cons, ih unique.tail, get?_insert]
      cases same : k.sameKey key with
      | true => rw [unique.get?_tail same, get?_cons_same same, get?_congr same, if_pos rfl]
      | false => rw [get?_cons_other same, if_neg Bool.false_ne_true]

-----------------------------------------------------------------------------------------
-- Paths
-----------------------------------------------------------------------------------------

theorem follow?_cons (key : Scalar) (path : List Scalar) (m : Mapping)
    : follow? (key :: path) (.map m) = (get? key m).bind (follow? path) := rfl

/-- Paths lead on through mappings only. -/
theorem exists_map_of_follow? (found : follow? path w = some v) (more : path ≠ [] ∨ ∃ m, v = .map m)
    : ∃ m, w = .map m := by
  cases path with
  | nil =>
      obtain rfl := Option.some.inj found
      simpa using more
  | cons key path =>
      cases w with
      | map m => exact ⟨m, rfl⟩
      | scalar | list | set => cases found

theorem UniqueThroughout.follow (h : UniqueThroughout m)
    (found : follow? path (.map m) = some (.map inner))
    : UniqueThroughout inner := by
  induction path generalizing m with
  | nil =>
      obtain rfl := Value.map.inj (Option.some.inj found)
      exact h
  | cons key path ih =>
      obtain ⟨w, here, onward⟩ := Option.bind_eq_some_iff.mp found
      obtain ⟨next, rfl⟩ := exists_map_of_follow? onward (.inr ⟨inner, rfl⟩)
      obtain ⟨k, held⟩ := mem_of_get? here
      exact ih (h.nested held) onward

theorem meetsLeaf_leaf (leaf : w.IsLeaf) (path : List Scalar)
    : MeetsLeaf path w :=
  ⟨[], List.nil_prefix, w, rfl, leaf⟩

theorem not_meetsLeaf_nil (m : Mapping)
    : ¬ MeetsLeaf [] (.map m) := by
  rintro ⟨start, inside, v, found, leaf⟩
  obtain rfl := List.prefix_nil.mp inside
  exact leaf m (Option.some.inj found).symm

theorem meetsLeaf_cons
    : MeetsLeaf (key :: path) (.map m) ↔ ∃ w, get? key m = some w ∧ MeetsLeaf path w := by
  constructor
  · rintro ⟨start, inside, v, found, leaf⟩
    cases start with
    | nil => exact absurd (Option.some.inj found).symm (leaf m)
    | cons first start =>
        obtain ⟨rfl, onward⟩ := List.cons_prefix_cons.mp inside
        rw [follow?_cons] at found
        obtain ⟨w, here, found⟩ := Option.bind_eq_some_iff.mp found
        exact ⟨w, here, start, onward, v, found, leaf⟩
  · rintro ⟨w, here, start, inside, v, found, leaf⟩
    refine ⟨key :: start, List.cons_prefix_cons.mpr ⟨rfl, inside⟩, v, ?_, leaf⟩
    rw [follow?_cons, here]
    exact found

/-- Where the mapping above binds a path, its value is laid over what stands there below. -/
theorem follow?_merge_bound (base : Mapping) (unique : UniqueThroughout above)
    (found : follow? path (.map above) = some w)
    : follow? path (.map (merge base above))
      = some (mergeValue (follow? path (.map base)) w) := by
  induction path generalizing base above with
  | nil =>
      obtain rfl := Option.some.inj found
      rw [follow?, follow?, mergeValue_map]
  | cons key path ih =>
      obtain ⟨x, here, found⟩ := Option.bind_eq_some_iff.mp found
      rw [follow?_cons, follow?_cons, get?_merge_of_unique unique.unique, here]
      simp only [Option.bind_some]
      by_cases both : ∃ inner outer, get? key base = some (.map inner) ∧ x = .map outer
      · obtain ⟨inner, outer, below, rfl⟩ := both
        obtain ⟨k, held⟩ := mem_of_get? here
        rw [below, mergeValue_map]
        exact ih inner (unique.nested held) found
      · rw [mergeValue_above fun inner outer below same => both ⟨inner, outer, below, same⟩, found,
          mergeValue_above]
        -- A mapping at the end of both paths would be reached through mappings on both sides.
        intro inner outer reached same
        obtain ⟨y, below, reached⟩ := Option.bind_eq_some_iff.mp reached
        obtain ⟨inner', rfl⟩ := exists_map_of_follow? reached (.inr ⟨inner, rfl⟩)
        obtain ⟨outer', rfl⟩ := exists_map_of_follow? found (.inr ⟨outer, same⟩)
        exact both ⟨inner', outer', below, rfl⟩

/-- Where the mapping above does not bind a path, what stands there below stays, unless the path meets
a value above that is no mapping. -/
theorem follow?_merge_unbound (unique : UniqueThroughout above)
    (absent : follow? path (.map above) = none)
    : follow? path (.map (merge base above)) = some v
      ↔ follow? path (.map base) = some v ∧ ¬ MeetsLeaf path (.map above) := by
  induction path generalizing base above with
  | nil => cases absent
  | cons key path ih =>
      rw [follow?_cons, follow?_cons, get?_merge_of_unique unique.unique, meetsLeaf_cons]
      cases here : get? key above with
      | none => simp
      | some x =>
          rw [follow?_cons, here, Option.bind_some] at absent
          simp only [Option.bind_some, Option.some.injEq, exists_eq_left']
          by_cases both : ∃ inner outer, get? key base = some (.map inner) ∧ x = .map outer
          · obtain ⟨inner, outer, below, rfl⟩ := both
            obtain ⟨k, held⟩ := mem_of_get? here
            rw [below, mergeValue_map]
            exact ih (unique.nested held) absent
          · rw [mergeValue_above fun inner outer below same => both ⟨inner, outer, below, same⟩, absent]
            refine iff_of_false nofun ?_
            rintro ⟨reached, free⟩
            obtain ⟨y, below, reached⟩ := Option.bind_eq_some_iff.mp reached
            have onward : path ≠ [] := by
              rintro rfl
              cases absent
            obtain ⟨inner, rfl⟩ := exists_map_of_follow? reached (.inl onward)
            refine free (meetsLeaf_leaf (fun outer same => ?_) path)
            exact both ⟨inner, outer, below, same⟩

-----------------------------------------------------------------------------------------
-- Keys
-----------------------------------------------------------------------------------------

/-- The keys of a mapping in order. -/
def keys (m : Mapping) : List Scalar :=
  m.map Prod.fst

/-- A merged mapping has the keys of the one below in their places, and behind them those that only the
one above has. -/
theorem keys_merge (unique : Unique above)
    : keys (merge base above)
      = keys base ++ (keys above).filter (fun key => (get? key base).isNone) := by
  induction above generalizing base with
  | nil => simp [merge, keys]
  | cons entry above ih =>
      obtain ⟨key, value⟩ := entry
      have apart : ∀ k ∈ keys above, key.sameKey k = false := by
        intro k held
        obtain ⟨entry, there, rfl⟩ := List.mem_map.mp held
        exact (List.pairwise_cons.mp unique).1 entry there
      have kept : (keys above).filter (fun k =>
            (get? k (insert key (mergeValue (get? key base) value) base)).isNone)
          = (keys above).filter (fun k => (get? k base).isNone) := by
        refine List.filter_congr fun k held => ?_
        rw [get?_insert, apart k held]
        rfl
      rw [merge_cons, ih unique.tail, kept]
      rcases insert_cases key (mergeValue (get? key base) value) base with
        ⟨absent, added⟩ | ⟨before, k, old, after, rfl, -, -, found, put⟩
      · rw [added]
        simp [keys, absent]
      · rw [put]
        simp [keys, found]

/-- The keys of the mapping at the end of a path, none if there is no mapping. -/
def keysAt (path : List Scalar) (m : Mapping) : List Scalar :=
  match follow? path (.map m) with
  | some (.map inner) => keys inner
  | _ => []

theorem isNone_get? (key : Scalar) (m : Mapping)
    : (get? key m).isNone = !(keys m).any (·.sameKey key) := by
  induction m with
  | nil => rfl
  | cons entry m ih =>
      cases same : entry.1.sameKey key with
      | true => simp [get?, keys, same]
      | false => simpa [get?, keys, same] using ih

/-- The keys below keep their places at every path, and new ones follow, unless the path meets a value
above that is no mapping. -/
theorem keysAt_merge (unique : UniqueThroughout above) (free : ¬ MeetsLeaf path (.map above))
    : keysAt path (merge base above)
      = keysAt path base
        ++ (keysAt path above).filter (fun key => !(keysAt path base).any (·.sameKey key)) := by
  cases bound : follow? path (.map above) with
  | none =>
      have kept : follow? path (.map (merge base above)) = follow? path (.map base) := by
        refine Option.ext fun v => ?_
        rw [follow?_merge_unbound unique bound]
        simp [free]
      simp [keysAt, kept, bound]
  | some w =>
      obtain ⟨outer, rfl⟩ : ∃ outer, w = .map outer := by
        by_contra leaf
        exact free ⟨path, List.prefix_rfl, w, bound, fun outer same => leaf ⟨outer, same⟩⟩
      have merged := follow?_merge_bound base unique bound
      by_cases inner : ∃ inner, follow? path (.map base) = some (.map inner)
      · obtain ⟨inner, below⟩ := inner
        rw [below, mergeValue_map] at merged
        simp only [keysAt, merged, bound, below, keys_merge (unique.follow bound).unique, isNone_get?]
      · have none : keysAt path base = [] := by
          unfold keysAt
          split
          · next below => exact absurd ⟨_, below⟩ inner
          · rfl
        rw [mergeValue_above fun m _ below => absurd ⟨m, below⟩ inner] at merged
        simp [keysAt.eq_def path (merge base above), keysAt.eq_def path above, merged, bound, none]

/-- A mapping laid over one that has none of its keys follows it. -/
theorem merge_apart (unique : Unique above)
    (apart : ∀ entry ∈ above, get? entry.1 base = none)
    : merge base above = base ++ above := by
  induction above generalizing base with
  | nil => rw [merge, List.append_nil]
  | cons entry above ih =>
      obtain ⟨key, value⟩ := entry
      have absent := apart (key, value) List.mem_cons_self
      have taken : mergeValue none value = value := mergeValue_above fun _ _ below => by cases below
      rcases insert_cases key value base with ⟨-, added⟩ | ⟨_, _, _, _, -, -, -, found, -⟩
      · rw [merge_cons, absent, taken, added, ih unique.tail, List.append_assoc, List.singleton_append]
        intro entry held
        rw [← added, get?_insert, (List.pairwise_cons.mp unique).1 entry held]
        exact apart entry (List.mem_cons_of_mem _ held)
      · cases absent.symm.trans found

-----------------------------------------------------------------------------------------
-- Laying over once more
-----------------------------------------------------------------------------------------

/-- A mapping changes nothing that its values leave as they are. -/
theorem merge_settled
    (settled : ∀ entry ∈ above, ∃ v, get? entry.1 m = some v ∧ mergeValue (some v) entry.2 = v)
    : merge m above = m := by
  induction above with
  | nil => rw [merge]
  | cons entry above ih =>
      obtain ⟨v, found, same⟩ := settled entry List.mem_cons_self
      rw [merge_cons, found, same, insert_same found]
      exact ih fun entry held => settled entry (List.mem_cons_of_mem _ held)

/-- What has been laid over a mapping changes nothing when it is laid over it once more. -/
theorem merge_merge (unique : UniqueThroughout above) (base : Mapping)
    : merge (merge base above) above = merge base above := by
  -- By induction on the mapping above: a mapping in it meets what it has been merged into before, or itself.
  induction unique generalizing base with
  | @intro above unique nested ih =>
      refine merge_settled fun ⟨key, w⟩ held => ?_
      have here : get? key above = some w := unique.get?_of_mem held
      refine ⟨mergeValue (get? key base) w, by rw [get?_merge_of_unique unique, here], ?_⟩
      by_cases outer : ∃ outer, w = .map outer
      · obtain ⟨outer, rfl⟩ := outer
        by_cases inner : ∃ inner, get? key base = some (.map inner)
        · obtain ⟨inner, below⟩ := inner
          rw [below, mergeValue_map, mergeValue_map, ih key outer held]
        · have alone : merge [] outer = outer := merge_apart (nested key outer held).unique (by simp [get?])
          rw [mergeValue_above fun m _ below => absurd ⟨m, below⟩ inner, mergeValue_map]
          have again := ih key outer held []
          rw [alone] at again
          rw [again]
      · have taken (below : Option Value) : mergeValue below w = w :=
          mergeValue_above fun _ m _ same => outer ⟨m, same⟩
        rw [taken, taken]

-----------------------------------------------------------------------------------------
-- The whole law
-----------------------------------------------------------------------------------------

/-- A mapping laid over another has the last word. A value that is no mapping stands at a path of the
result exactly if it stands there above, or stands there below and the path is neither bound above nor
meets such a value there. Along every path the keys below keep their places and new ones follow in the
order above. Laying over once more changes nothing, and nor does the empty mapping on either side. -/
theorem merge_lays_over (base above : Mapping) (unique : UniqueThroughout above)
    : (∀ path v, v.IsLeaf →
          (follow? path (.map (merge base above)) = some v
            ↔ follow? path (.map above) = some v
              ∨ follow? path (.map base) = some v
                ∧ follow? path (.map above) = none
                ∧ ¬ MeetsLeaf path (.map above)))
      ∧ (∀ path, ¬ MeetsLeaf path (.map above) →
          keysAt path (merge base above)
            = keysAt path base
              ++ (keysAt path above).filter (fun key => !(keysAt path base).any (·.sameKey key)))
      ∧ merge (merge base above) above = merge base above
      ∧ merge base [] = base
      ∧ merge [] above = above := by
  refine ⟨fun path v leaf => ?_, fun path free => keysAt_merge unique free, merge_merge unique base,
    by rw [merge], merge_apart unique.unique (by simp [get?])⟩
  cases bound : follow? path (.map above) with
  | none =>
      rw [follow?_merge_unbound unique bound]
      simp
  | some w =>
      rw [follow?_merge_bound base unique bound]
      simp only [Option.some.injEq, reduceCtorEq, false_and, and_false, or_false]
      -- A value that is no mapping is not what becomes of two mappings.
      by_cases both : ∃ inner outer, follow? path (.map base) = some (.map inner) ∧ w = .map outer
      · obtain ⟨inner, outer, below, rfl⟩ := both
        rw [below, mergeValue_map]
        exact iff_of_false (fun same => leaf _ same.symm) (fun same => leaf _ same.symm)
      · rw [mergeValue_above fun inner outer below same => both ⟨inner, outer, below, same⟩]

/-- A configuration with a table, a text, and a number in the place of a table. -/
def layeredBase : Mapping :=
  [(.str "spacing", .map [(.str "normalize_math", .bool false)]), (.str "bullet_symbols", .str "-"),
    (.str "renderer", .int 3)]

/-- A configuration that speaks of the same keys in another order, with a table for the number. -/
def layeredAbove : Mapping :=
  [(.str "renderer", .map [(.str "code_fence_min", .int 4)]), (.str "normalize_text", .bool true),
    (.str "spacing", .map [(.str "normalize_text", .bool false)]), (.str "bullet_symbols", .str "*")]

theorem layeredAbove_unique
    : UniqueThroughout layeredAbove := by
  have alone (key : Scalar) (value : Scalar) : UniqueThroughout [(key, .scalar value)] :=
    .intro (List.pairwise_singleton _ _) (by simp)
  refine .intro (by unfold Unique; decide +kernel) fun key inner held => ?_
  simp only [layeredAbove, List.mem_cons, Prod.mk.injEq, Value.map.injEq, List.not_mem_nil, or_false,
    reduceCtorEq, and_false, false_or] at held
  rcases held with ⟨-, rfl⟩ | ⟨-, rfl⟩ <;> exact alone _ _

/-- A value that the mapping above leaves alone stays, a new key follows the old ones, and a second time
nothing changes. -/
theorem layered_lays_over
    : UniqueThroughout layeredAbove
      ∧ follow? [.str "spacing", .str "normalize_math"] (.map (merge layeredBase layeredAbove))
        = some (.bool false)
      ∧ keysAt [] (merge layeredBase layeredAbove)
        = [.str "spacing", .str "bullet_symbols", .str "renderer", .str "normalize_text"]
      ∧ merge (merge layeredBase layeredAbove) layeredAbove = merge layeredBase layeredAbove := by
  obtain ⟨leaves, keys, again, -⟩ := merge_lays_over layeredBase layeredAbove layeredAbove_unique
  refine ⟨layeredAbove_unique, ?_, ?_, again⟩
  · refine (leaves _ _ (fun _ => Value.noConfusion)).mpr (.inr ⟨by decide, by decide, ?_⟩)
    rw [meetsLeaf_cons]
    rintro ⟨w, here, met⟩
    obtain rfl := Option.some.inj here
    rw [meetsLeaf_cons] at met
    obtain ⟨v, absent, -⟩ := met
    cases absent
  · rw [keys [] (not_meetsLeaf_nil _)]
    decide

end Mapping

end MixedScript
