import TypedRecords.Proofs.Path.Inclusion

/-!
A store that has room for every path it is asked for.  It lets go of none, so each path is missed
once, when it first comes, and found ever after.
-/

set_option autoImplicit false

namespace TypedRecords.Path.Cache

/-- The store that paths leave which are parsed one after the other. -/
def parseAll (cache : Cache) (paths : List String) : Cache :=
  cache.afterAll (paths.map Call.parse)

/-- A store that has had room for the paths it was asked for: it holds them all, and has missed each
of them once. -/
structure HasRoom (cache : Cache) (paths : List String) : Prop where
  stored : cache.paths = paths.dedup
  misses : cache.misses = paths.toFinset.card
  queries : cache.hits + cache.misses = paths.length

theorem parseAll_append (cache : Cache) (front back : List String) :
    cache.parseAll (front ++ back) = (cache.parseAll front).parseAll back := by
  simp [parseAll, afterAll]

theorem length_dedup (paths : List String) : paths.dedup.length = paths.toFinset.card :=
  (List.card_toFinset paths).symm

private theorem card_toFinset_concat (paths : List String) (path : String) :
    (paths ++ [path]).toFinset.card =
      if path ∈ paths then paths.toFinset.card else paths.toFinset.card + 1 := by
  rw [← length_dedup, dedup_concat, length_bump paths.nodup_dedup, length_dedup]
  simp only [List.mem_dedup]

private theorem visit_parse_found (cache : Cache) (path : String) :
    (cache.visit (.parse path)).found = decide (path ∈ cache.paths) := by
  rw [Bool.eq_iff_iff, decide_eq_true_iff, ← holds_iff]
  rfl

/-- While there is room for one more path, a path that is parsed is found if it came before, and is
missed once if it did not. -/
theorem HasRoom.after {cache : Cache} {paths : List String} (roomy : cache.HasRoom paths)
    (orderly : cache.IsOrderly) {path : String}
    (few : (paths ++ [path]).toFinset.card ≤ cache.capacity) :
    (cache.after (.parse path)).HasRoom (paths ++ [path]) := by
  have effect := effect_after orderly.distinct orderly.bounded
    (rfl : (Call.parse path).isClear = false)
  have asked : (cache.visit (.parse path)).isQuery = true := rfl
  have found : (cache.visit (.parse path)).found = decide (path ∈ paths) := by
    rw [visit_parse_found, roomy.stored]
    simp only [List.mem_dedup]
  have hits := effect.hits
  have queries := effect.queries
  have misses := roomy.misses
  have counted := roomy.queries
  rw [found] at hits
  rw [asked, Bool.toNat_true] at queries
  refine ⟨?_, ?_, ?_⟩
  · have fits : (paths ++ [path]).dedup.length ≤ cache.capacity := by rwa [length_dedup]
    rw [paths_after_of_stores orderly rfl, roomy.stored, ← dedup_concat, rtake_of_length_le fits]
  · rw [card_toFinset_concat]
    by_cases known : path ∈ paths
    · rw [decide_eq_true known, Bool.toNat_true] at hits
      rw [if_pos known]
      omega
    · rw [decide_eq_false known, Bool.toNat_false] at hits
      rw [if_neg known]
      omega
  · rw [queries, counted, List.length_append, List.length_singleton]

theorem hasRoom_parseAll {capacity : Nat} {paths : List String}
    (few : paths.toFinset.card ≤ capacity) : ((empty capacity).parseAll paths).HasRoom paths := by
  -- The store is the one that the paths before the last have left.
  induction paths using List.reverseRecOn with
  | nil => exact ⟨rfl, rfl, rfl⟩
  | append_singleton paths path ih =>
    have fewer : paths.toFinset.card ≤ capacity := by
      rw [card_toFinset_concat] at few
      split at few <;> omega
    have orderly : ((empty capacity).parseAll paths).IsOrderly := isOrderly_afterAll capacity _
    have size : ((empty capacity).parseAll paths).capacity = capacity :=
      (tracks_visits capacity _).capacity
    rw [parseAll_append]
    exact (ih fewer).after orderly (size.symm ▸ few)

end TypedRecords.Path.Cache
