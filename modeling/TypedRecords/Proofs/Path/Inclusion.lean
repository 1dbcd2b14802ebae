import TypedRecords.Proofs.Path.Recency

/-!
The same calls of a smaller and of a larger store.  What the smaller one holds, the larger one holds
in the same order, and it finds no less, although what it alone finds may be touched in it alone.
-/

set_option autoImplicit false

namespace TypedRecords.Path.Cache

/-- No path is stored twice, and there are no more paths than there is room for. -/
structure IsOrderly (cache : Cache) : Prop where
  distinct : cache.paths.Nodup
  bounded : cache.paths.length ≤ cache.capacity

/-- How a smaller store trails a larger one: its paths are among those of the larger one, in their
order, and they are all of them until it is full. -/
structure Trails (small large : Cache) : Prop where
  capacity : small.capacity ≤ large.capacity
  paths : small.paths.Sublist large.paths
  whole : small.paths.length < small.capacity → small.paths = large.paths
  hits : small.hits ≤ large.hits
  queries : small.hits + small.misses = large.hits + large.misses

section Latest

variable {few many : List String} {path : String}

private theorem rtake_sublist_rtake {number bound : Nat} (sublist : few.Sublist many)
    (excess : many.length - bound ≤ few.length - number) :
    (few.rtake number).Sublist (many.rtake bound) :=
  (List.drop_sublist_drop_left few excess).trans (sublist.drop _)

private theorem bump_sublist_bump (sublist : few.Sublist many) :
    (bump path few).Sublist (bump path many) :=
  (sublist.filter _).append_right _

private theorem sublist_bump_of_not_mem (sublist : few.Sublist many) (missing : path ∉ few) :
    few.Sublist (bump path many) := by
  have others : few.filter (fun other => other != path) = few :=
    List.filter_eq_self.mpr fun other member => by
      simpa using ne_of_mem_of_not_mem member missing
  have kept : few.Sublist (many.filter fun other => other != path) :=
    others ▸ sublist.filter fun other => other != path
  exact kept.trans (List.sublist_append_left _ _)

variable {number bound : Nat}

private theorem rtake_bump_sublist (le : number ≤ bound) (sublist : few.Sublist many)
    (whole : few.length < number → few = many) (distinct : many.Nodup)
    (fits : few.length ≤ number) (bounded : many.length ≤ bound) :
    ((bump path few).rtake number).Sublist ((bump path many).rtake bound) ∧
      (((bump path few).rtake number).length < number →
        (bump path few).rtake number = (bump path many).rtake bound) := by
  have lengthFew := length_bump (distinct.sublist sublist) path
  have lengthMany := length_bump distinct path
  constructor
  · refine rtake_sublist_rtake (bump_sublist_bump sublist) ?_
    by_cases member : path ∈ few
    · rw [if_pos (sublist.subset member)] at lengthMany
      omega
    rw [if_neg member] at lengthFew
    -- The longer list loses one path at most, and then the shorter one, being full, loses one too.
    rcases Nat.lt_or_ge few.length number with room | full
    · obtain rfl := whole room
      omega
    · have longer : (bump path many).length ≤ many.length + 1 := by
        rw [lengthMany]
        split <;> omega
      omega
  · intro room
    have short : (bump path few).length < number := by
      simp only [List.rtake, List.length_drop] at room
      omega
    have roomBefore : few.length < number := by
      rw [lengthFew] at short
      split at short <;> omega
    obtain rfl := whole roomBefore
    rw [rtake_of_length_le short.le, rtake_of_length_le (short.le.trans le)]

end Latest

section Step

variable {cache small large : Cache} {call : Call} {path : String}

private theorem keeps_of_stores (stored : call.stores? = some path) : call.isClear = false := by
  cases call with
  | clear => cases stored
  | _ => rfl

/-- A call that stores a path leaves it behind all others, whether it was there or not, and those
that there is no more room for are gone. -/
theorem paths_after_of_stores (orderly : cache.IsOrderly) (stored : call.stores? = some path) :
    (cache.after call).paths = (bump path cache.paths).rtake cache.capacity := by
  have effect := effect_after orderly.distinct orderly.bounded (keeps_of_stores stored)
  rw [effect.paths]
  cases found : (cache.visit call).found with
  | true =>
    have asked : (cache.visit call).call.query? = some path := by
      cases call with
      | parse _ => exact stored
      | lookup _ _ => exact stored
      | get _ => cases stored
      | _ => cases found
    rw [Visit.touched?_of_found found, asked, Option.elim_some]
  | false =>
    have kept : (cache.visit call).call.stores? = some path := stored
    rw [Visit.touched?_of_not_found found]
    split
    · rw [kept, Option.elim_some]
    · have none : cache.capacity = 0 := by omega
      have empty : cache.paths = [] :=
        List.length_eq_zero_iff.mp (Nat.le_zero.mp (none ▸ orderly.bounded))
      rw [none, List.rtake_zero]
      exact empty

private theorem paths_after_get (orderly : cache.IsOrderly) (path : String) :
    (cache.after (.get path)).paths = if path ∈ cache.paths then bump path cache.paths
      else cache.paths := by
  split
  · rename_i member
    have effect : Effect cache (cache.after (.get path)) (cache.visit (.get path)) :=
      effect_get orderly.distinct orderly.bounded
    have found : (cache.visit (.get path)).found = true := holds_iff.mpr member
    refine effect.paths.trans ?_
    rw [Visit.touched?_of_found found]
    exact rtake_bump_of_mem orderly.distinct orderly.bounded member
  · rename_i missing
    have same : cache.after (.get path) = { cache with misses := cache.misses + 1 } :=
      congrArg Prod.snd (get_of_not_mem missing)
    rw [same]
    rfl

private theorem Trails.found_le (trails : Trails small large) (call : Call) :
    (small.visit call).found.toNat ≤ (large.visit call).found.toNat := by
  cases asked : call.query? with
  | none => simp [visit, asked]
  | some path =>
    have larger : small.holds path = true → large.holds path = true := fun held =>
      holds_iff.mpr (trails.paths.subset (holds_iff.mp held))
    simpa [visit, asked] using Bool.toNat_le_toNat larger

private theorem trails_empty {number bound : Nat} (le : number ≤ bound) :
    Trails (empty number) (empty bound) :=
  ⟨le, .slnil, fun _ => rfl, le_rfl, rfl⟩

/-- The paths that a call leaves in the smaller store are among those that it leaves in the larger
one, as those before it are. -/
theorem Trails.paths_after (trails : Trails small large) (smallOrderly : small.IsOrderly)
    (largeOrderly : large.IsOrderly) (keeps : call.isClear = false) :
    (small.after call).paths.Sublist (large.after call).paths ∧
      ((small.after call).paths.length < small.capacity →
        (small.after call).paths = (large.after call).paths) := by
  cases stored : call.stores? with
  | some path =>
    rw [paths_after_of_stores smallOrderly stored, paths_after_of_stores largeOrderly stored]
    exact rtake_bump_sublist trails.capacity trails.paths trails.whole largeOrderly.distinct
      smallOrderly.bounded largeOrderly.bounded
  | none =>
    cases call with
    | get path =>
      rw [paths_after_get smallOrderly, paths_after_get largeOrderly]
      by_cases member : path ∈ small.paths
      · rw [if_pos member, if_pos (trails.paths.subset member)]
        refine ⟨bump_sublist_bump trails.paths, fun room => ?_⟩
        rw [length_bump smallOrderly.distinct, if_pos member] at room
        rw [trails.whole room]
      · rw [if_neg member]
        split
        · rename_i other
          refine ⟨sublist_bump_of_not_mem trails.paths member, fun room => ?_⟩
          exact absurd (trails.whole room ▸ other) member
        · exact ⟨trails.paths, trails.whole⟩
    | holds path => exact ⟨trails.paths, trails.whole⟩
    | clear => cases keeps
    | _ => cases stored

theorem Trails.after (trails : Trails small large) (smallOrderly : small.IsOrderly)
    (largeOrderly : large.IsOrderly) (call : Call) :
    Trails (small.after call) (large.after call) := by
  cases keeps : call.isClear with
  | true =>
    cases call with
    | clear => exact trails_empty trails.capacity
    | _ => cases keeps
  | false =>
    have less := effect_after smallOrderly.distinct smallOrderly.bounded keeps
    have more := effect_after largeOrderly.distinct largeOrderly.bounded keeps
    obtain ⟨paths, whole⟩ := trails.paths_after smallOrderly largeOrderly keeps
    have asked : (small.visit call).isQuery = (large.visit call).isQuery := rfl
    refine ⟨?_, paths, ?_, ?_, ?_⟩
    · rw [less.capacity, more.capacity]
      exact trails.capacity
    · rw [less.capacity]
      exact whole
    · rw [less.hits, more.hits]
      exact Nat.add_le_add trails.hits (trails.found_le call)
    · rw [less.queries, more.queries, trails.queries, asked]

end Step

theorem isOrderly_afterAll (capacity : Nat) (calls : List Call) :
    ((empty capacity).afterAll calls).IsOrderly := by
  obtain ⟨size, paths, -, -⟩ := tracks_visits capacity calls
  refine ⟨?_, ?_⟩
  · rw [paths]
    exact nodup_latest _ _
  · rw [paths, size]
    exact length_latest_le _ _

/-- After calls of whatever kind, storing whatever segments, the paths of a smaller store are among
those of a larger one, in their order; it has found no more of the paths that were looked for, and
of these the two have counted as many. -/
theorem afterAll_larger {small large : Nat} (le : small ≤ large) (calls : List Call) :
    let less := (empty small).afterAll calls
    let more := (empty large).afterAll calls
    less.paths.Sublist more.paths ∧ less.hits ≤ more.hits ∧
      less.hits + less.misses = more.hits + more.misses := by
  intro less more
  -- The stores are those that the calls so far have left, so the last call is split off.
  have trails : Trails less more := by
    dsimp only [less, more]
    induction calls using List.reverseRecOn with
    | nil => exact trails_empty le
    | append_singleton calls call ih =>
      rw [afterAll_concat, afterAll_concat]
      exact ih.after (isOrderly_afterAll small calls) (isOrderly_afterAll large calls) call
  exact ⟨trails.paths, trails.hits, trails.queries⟩

/-- The larger store finds a path that the smaller one has let go of; the smaller one stores it anew
where the larger one only moves it. -/
theorem afterAll_larger_diverging :
    let calls : List Call :=
      [.parse "a", .put "b" [], .get "a", .parse "b", .parse "a", .parse "c"]
    let less := (empty 1).afterAll calls
    let more := (empty 2).afterAll calls
    1 ≤ 2 ∧ less.paths.Sublist more.paths ∧ less.hits ≤ more.hits ∧
      less.hits + less.misses = more.hits + more.misses ∧
      (less.paths, less.hits) = (["c"], 1) ∧ (more.paths, more.hits) = (["a", "c"], 3) := by
  intro calls less more
  obtain ⟨paths, hits, queries⟩ := afterAll_larger (by decide : 1 ≤ 2) calls
  exact ⟨by decide, paths, hits, queries, by decide, by decide⟩

end TypedRecords.Path.Cache
