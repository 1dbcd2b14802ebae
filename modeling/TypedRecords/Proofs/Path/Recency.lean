import Mathlib.Data.Finset.Card
import Mathlib.Data.List.Dedup
import TypedRecords.Proofs.Path.Calls

/-!
What a store holds, told from the calls alone: the paths that were touched last.
-/

set_option autoImplicit false

namespace TypedRecords.Path.Cache

/-- A path was touched, and fewer than a number of others were touched behind its last touch. -/
def IsRecent (number : Nat) (touches : List String) (path : String) : Prop :=
  ∃ before after, touches = before ++ path :: after ∧ path ∉ after ∧
    after.toFinset.card < number

def IsOlder (touches : List String) (older newer : String) : Prop :=
  ∃ before after, touches = before ++ older :: after ∧ older ∉ after ∧ newer ∈ after

section Latest

def bump (path : String) (paths : List String) : List String :=
  paths.filter (fun other => other != path) ++ [path]

/-- The paths that were touched last, a number of them, in the order of their last touches. -/
def latest (number : Nat) (touches : List String) : List String :=
  touches.dedup.rtake number

theorem dedup_concat (touches : List String) (path : String) :
    (touches ++ [path]).dedup = bump path touches.dedup := by
  induction touches with
  | nil => rfl
  | cons first rest ih =>
    rw [List.cons_append]
    by_cases later : first ∈ rest
    · rw [List.dedup_cons_of_mem later, List.dedup_cons_of_mem (by simp [later]), ih]
    · rw [List.dedup_cons_of_notMem later]
      by_cases same : first = path
      · subst same
        rw [List.dedup_cons_of_mem (by simp), ih]
        simp [bump]
      · rw [List.dedup_cons_of_notMem (by simp [later, same]), ih]
        simp [bump, same]

private theorem rtake_append_of_le {number : Nat} {front back : List String}
    (long : number ≤ back.length) : (front ++ back).rtake number = back.rtake number := by
  unfold List.rtake
  have split : (front ++ back).length - number = front.length + (back.length - number) := by
    rw [List.length_append]
    omega
  rw [split, List.drop_append]
  simp

theorem rtake_of_length_le {number : Nat} {paths : List String} (short : paths.length ≤ number) :
    paths.rtake number = paths := by
  simp [List.rtake, Nat.sub_eq_zero_of_le short]

theorem length_bump {paths : List String} (distinct : paths.Nodup) (path : String) :
    (bump path paths).length = if path ∈ paths then paths.length else paths.length + 1 := by
  unfold bump
  rw [← distinct.erase_eq_filter, List.length_append, List.length_erase]
  split
  · rename_i member
    have positive := List.length_pos_of_mem member
    simp
    omega
  · rfl

private theorem rtake_bump_rtake {number : Nat} (path : String) {paths : List String}
    (distinct : paths.Nodup) :
    (bump path (paths.rtake number)).rtake number = (bump path paths).rtake number := by
  by_cases short : paths.length ≤ number
  · rw [rtake_of_length_le short]
  -- The paths cut off before stay in front of all that are kept, so the second cut takes them too.
  let front := paths.take (paths.length - number)
  have split : front ++ paths.rtake number = paths := List.take_append_drop _ _
  have moved : bump path paths =
      front.filter (fun other => other != path) ++ bump path (paths.rtake number) := by
    unfold bump
    rw [← List.append_assoc, ← List.filter_append, split]
  have full : (paths.rtake number).length = number := by
    simp only [List.rtake, List.length_drop]
    omega
  have keptDistinct : (paths.rtake number).Nodup := distinct.sublist (List.drop_sublist _ _)
  have long : number ≤ (bump path (paths.rtake number)).length := by
    rw [length_bump keptDistinct]
    split <;> omega
  rw [moved, rtake_append_of_le long]

private theorem latest_concat (number : Nat) (touches : List String) (path : String) :
    latest number (touches ++ [path]) = (bump path (latest number touches)).rtake number := by
  rw [latest, dedup_concat, latest, rtake_bump_rtake path touches.nodup_dedup]

theorem rtake_bump_of_mem {number : Nat} {path : String} {paths : List String}
    (distinct : paths.Nodup) (short : paths.length ≤ number) (member : path ∈ paths) :
    (bump path paths).rtake number = bump path paths := by
  apply rtake_of_length_le
  rw [length_bump distinct, if_pos member]
  exact short

@[simp] private theorem latest_nil (number : Nat) : latest number [] = [] := by
  simp [latest, List.rtake]

theorem nodup_latest (number : Nat) (touches : List String) : (latest number touches).Nodup :=
  touches.nodup_dedup.sublist (List.drop_sublist _ _)

theorem length_latest_le (number : Nat) (touches : List String) :
    (latest number touches).length ≤ number := by
  simp only [latest, List.rtake, List.length_drop]
  omega

private theorem exists_dedup_append (before after : List String) :
    ∃ front, (before ++ after).dedup = front ++ after.dedup := by
  obtain ⟨front, same⟩ := List.suffix_union_right before after.dedup
  exact ⟨front, (List.dedup_append before after).trans same.symm⟩

private theorem exists_last_of_mem {touches : List String} {path : String}
    (member : path ∈ touches) :
    ∃ before after, touches = before ++ path :: after ∧ path ∉ after := by
  obtain ⟨after, before, backwards, last⟩ :=
    List.eq_append_cons_of_mem (List.mem_reverse.mpr member)
  have forwards := congrArg List.reverse backwards
  exact ⟨before.reverse, after.reverse, by simpa using forwards, by simpa using last⟩

private theorem mem_rtake_append_cons {number : Nat} {front back : List String} {path : String}
    (distinct : (front ++ path :: back).Nodup) :
    path ∈ (front ++ path :: back).rtake number ↔ back.length < number := by
  have fresh : path ∉ back := (List.nodup_cons.mp distinct.of_append_right).1
  constructor
  · intro member
    by_contra few
    rw [List.append_cons, rtake_append_of_le (Nat.not_lt.mp few)] at member
    exact fresh (List.mem_of_mem_drop member)
  · intro enough
    have kept : (front ++ path :: back).length - number ≤ front.length := by
      simp
      omega
    unfold List.rtake
    rw [List.drop_append_of_le_length kept]
    simp

private theorem mem_latest_iff {number : Nat} {touches : List String} {path : String} :
    path ∈ latest number touches ↔ IsRecent number touches path := by
  have recent {before after : List String} (last : path ∉ after) :
      path ∈ latest number (before ++ path :: after) ↔ after.toFinset.card < number := by
    obtain ⟨front, same⟩ := exists_dedup_append before (path :: after)
    have distinct := (before ++ path :: after).nodup_dedup
    rw [List.dedup_cons_of_notMem last] at same
    rw [same] at distinct
    rw [latest, same, mem_rtake_append_cons distinct, List.card_toFinset]
  constructor
  · intro member
    have touched : path ∈ touches := List.mem_dedup.mp (List.mem_of_mem_drop member)
    obtain ⟨before, after, rfl, last⟩ := exists_last_of_mem touched
    exact ⟨before, after, rfl, last, (recent last).mp member⟩
  · rintro ⟨before, after, rfl, last, few⟩
    exact (recent last).mpr few

private theorem pairwise_dedup (touches : List String) :
    touches.dedup.Pairwise (IsOlder touches) := by
  induction touches with
  | nil => exact List.Pairwise.nil
  | cons first rest ih =>
    have lifted : rest.dedup.Pairwise (IsOlder (first :: rest)) := by
      refine ih.imp ?_
      rintro older newer ⟨before, after, rfl, last, behind⟩
      exact ⟨first :: before, after, rfl, last, behind⟩
    by_cases later : first ∈ rest
    · rwa [List.dedup_cons_of_mem later]
    · rw [List.dedup_cons_of_notMem later]
      refine List.pairwise_cons.mpr ⟨fun newer member => ?_, lifted⟩
      exact ⟨[], rest, rfl, later, List.mem_dedup.mp member⟩

end Latest

section Step

/-- The stored paths, from the one touched longest ago to the latest. -/
def paths (cache : Cache) : List String :=
  cache.entries.map Entry.path

variable {cache : Cache} {path : String}

theorem holds_iff : cache.holds path = true ↔ path ∈ cache.paths := by
  simp only [holds, paths, List.any_eq_true, List.mem_map, beq_iff_eq]

private theorem map_path_others (path : String) (entries : List Entry) :
    (others path entries).map Entry.path =
      (entries.map Entry.path).filter fun other => other != path := by
  unfold others
  rw [List.filter_map]
  rfl

private theorem map_path_trim (capacity : Nat) (entries : List Entry) :
    (trim capacity entries).map Entry.path = (entries.map Entry.path).rtake capacity := by
  simp [trim, List.rtake, List.map_drop]

@[simp] private theorem paths_put (bounded : cache.paths.length ≤ cache.capacity)
    (segments : List String) :
    (cache.put path segments).paths =
      if 0 < cache.capacity then (bump path cache.paths).rtake cache.capacity
      else cache.paths := by
  have stored : (others path cache.entries ++ [⟨path, segments⟩] : List Entry).map Entry.path =
      bump path cache.paths := by
    rw [List.map_append, map_path_others]
    rfl
  have trimmed :
      (cache.put path segments).paths = (bump path cache.paths).rtake cache.capacity := by
    rw [← stored]
    exact map_path_trim _ _
  rw [trimmed]
  split
  · rfl
  · have none : cache.capacity = 0 := by omega
    have empty : cache.paths = [] := List.length_eq_zero_iff.mp (by omega)
    rw [none, empty, List.rtake_zero]

theorem get_of_not_mem (missing : path ∉ cache.paths) :
    cache.get path = (none, { cache with misses := cache.misses + 1 }) := by
  have none : cache.entries.find? (fun entry => entry.path == path) = none := by
    simpa [paths] using missing
  simp [get, none]

private theorem get_of_mem (member : path ∈ cache.paths) :
    ∃ entry, entry.path = path ∧
      cache.get path = (some entry.segments,
        { cache with
          entries := others path cache.entries ++ [entry], hits := cache.hits + 1 }) := by
  cases found : cache.entries.find? fun entry => entry.path == path with
  | none =>
    obtain ⟨entry, stored, same⟩ := List.mem_map.mp member
    have other := List.find?_eq_none.mp found entry stored
    simp [same] at other
  | some entry =>
    have same : entry.path = path := by simpa using List.find?_some found
    exact ⟨entry, same, by simp [get, found]⟩

/-- What a call other than clearing does: a path that is touched is put behind all others, and the
counts go on. -/
structure Effect (cache next : Cache) (visit : Visit) : Prop where
  capacity : next.capacity = cache.capacity
  paths : next.paths = (visit.touched? cache.capacity).elim cache.paths fun path =>
    (bump path cache.paths).rtake cache.capacity
  hits : next.hits = cache.hits + visit.found.toNat
  queries : next.hits + next.misses = cache.hits + cache.misses + visit.isQuery.toNat

private theorem effect_found (distinct : cache.paths.Nodup)
    (bounded : cache.paths.length ≤ cache.capacity) (member : path ∈ cache.paths) {call : Call}
    (asked : call.query? = some path) : Effect cache (cache.get path).2 (cache.visit call) := by
  obtain ⟨entry, rfl, result⟩ := get_of_mem member
  have found : (cache.visit call).found = true := by
    simpa [visit, asked] using holds_iff.mpr member
  have query : (cache.visit call).isQuery = true := by simp [Visit.isQuery, visit, asked]
  have touched : (cache.visit call).touched? cache.capacity = some entry.path :=
    (Visit.touched?_of_found found _).trans asked
  rw [result]
  refine ⟨rfl, ?_, by simp [found], ?_⟩
  · rw [touched, Option.elim_some, rtake_bump_of_mem distinct bounded member]
    simp [paths, bump, map_path_others]
  · simp [query]
    omega

private theorem visit_of_not_mem (missing : path ∉ cache.paths) {call : Call}
    (asked : call.query? = some path) :
    (cache.visit call).found = false ∧ (cache.visit call).isQuery = true := by
  have absent : cache.holds path = false := by
    rw [Bool.eq_false_iff]
    exact fun held => missing (holds_iff.mp held)
  exact ⟨by simp [visit, asked, absent], by simp [Visit.isQuery, visit, asked]⟩

theorem effect_get (distinct : cache.paths.Nodup) (bounded : cache.paths.length ≤ cache.capacity) :
    Effect cache (cache.get path).2 (cache.visit (.get path)) := by
  by_cases member : path ∈ cache.paths
  · exact effect_found distinct bounded member rfl
  · have asked : (Call.get path).query? = some path := rfl
    obtain ⟨found, query⟩ := visit_of_not_mem member asked
    rw [get_of_not_mem member]
    refine ⟨rfl, ?_, by simp [found], ?_⟩
    · rw [Visit.touched?_of_not_found found]
      split <;> rfl
    · simp [query]
      omega

private theorem effect_put (bounded : cache.paths.length ≤ cache.capacity)
    (segments : List String) :
    Effect cache (cache.put path segments) (cache.visit (.put path segments)) := by
  refine ⟨rfl, ?_, rfl, rfl⟩
  rw [paths_put bounded, Visit.touched?_of_not_found rfl]
  split <;> rfl

private theorem effect_parse (distinct : cache.paths.Nodup)
    (bounded : cache.paths.length ≤ cache.capacity) {call : Call}
    (asked : call.query? = some path) (stored : call.stores? = some path) :
    Effect cache (cache.parse path).2 (cache.visit call) := by
  by_cases member : path ∈ cache.paths
  · have same : (cache.parse path).2 = (cache.get path).2 := by
      obtain ⟨entry, -, result⟩ := get_of_mem member
      simp [parse, result]
    rw [same]
    exact effect_found distinct bounded member asked
  · obtain ⟨found, query⟩ := visit_of_not_mem member asked
    have result : (cache.parse path).2 =
        { cache with misses := cache.misses + 1 }.put path (segments path) := by
      simp [parse, get_of_not_mem member]
    rw [result]
    refine ⟨rfl, ?_, by simp [found, put], ?_⟩
    · have kept : (cache.visit call).touched? cache.capacity =
          if 0 < cache.capacity then some path else none :=
        stored ▸ Visit.touched?_of_not_found found _
      refine (paths_put bounded (segments path)).trans ?_
      rw [kept]
      split <;> rfl
    · simp [query, put]
      omega

theorem effect_after (distinct : cache.paths.Nodup)
    (bounded : cache.paths.length ≤ cache.capacity) {call : Call} (keeps : call.isClear = false) :
    Effect cache (cache.after call) (cache.visit call) := by
  cases call with
  | parse path => exact effect_parse distinct bounded rfl rfl
  | lookup value path => exact effect_parse distinct bounded rfl rfl
  | get path => exact effect_get distinct bounded
  | put path segments => exact effect_put bounded segments
  | holds path =>
    refine ⟨rfl, ?_, rfl, rfl⟩
    rw [Visit.touched?_of_not_found rfl]
    split <;> rfl
  | clear => cases keeps

end Step

section Run

structure Tracks (size : Nat) (cache : Cache) (log : List Visit) : Prop where
  capacity : cache.capacity = size
  paths : cache.paths = latest size (Visit.touches size log)
  hits : cache.hits = (Visit.sinceClear log).countP Visit.found
  queries : cache.hits + cache.misses = (Visit.sinceClear log).countP Visit.isQuery

private theorem tracks_empty (size : Nat) {log : List Visit} (restart : Visit.sinceClear log = []) :
    Tracks size (empty size) log where
  capacity := rfl
  paths := by
    rw [Visit.touches, restart, List.filterMap_nil, latest_nil]
    rfl
  hits := by
    rw [restart]
    rfl
  queries := by
    rw [restart]
    rfl

theorem Tracks.after {size : Nat} {cache : Cache} {log : List Visit}
    (tracks : Tracks size cache log) (call : Call) :
    Tracks size (cache.after call) (log ++ [cache.visit call]) := by
  obtain ⟨rfl, paths, hits, queries⟩ := tracks
  have logged := Visit.sinceClear_concat log (cache.visit call)
  cases clears : (cache.visit call).call.isClear with
  | true =>
    have forgotten : cache.after call = empty cache.capacity := by
      cases call with
      | clear => rfl
      | _ => cases clears
    rw [clears, if_pos rfl] at logged
    rw [forgotten]
    exact tracks_empty _ logged
  | false =>
    rw [clears, if_neg Bool.false_ne_true] at logged
    have distinct : cache.paths.Nodup := paths ▸ nodup_latest _ _
    have bounded : cache.paths.length ≤ cache.capacity := by
      rw [paths]
      exact length_latest_le _ _
    have effect : Effect cache (cache.after call) (cache.visit call) :=
      effect_after distinct bounded clears
    refine ⟨effect.capacity, ?_, ?_, ?_⟩
    · have touches : Visit.touches cache.capacity (log ++ [cache.visit call]) =
          Visit.touches cache.capacity log ++
            ((cache.visit call).touched? cache.capacity).toList := by
        rw [Visit.touches, logged, List.filterMap_append, Visit.touches]
        cases touched : (cache.visit call).touched? cache.capacity <;> simp [touched]
      rw [effect.paths, touches]
      cases (cache.visit call).touched? cache.capacity with
      | none => simpa using paths
      | some path => exact paths ▸ (latest_concat cache.capacity _ path).symm
    · rw [effect.hits, logged, List.countP_append, hits]
      cases found : (cache.visit call).found <;> simp [found]
    · rw [effect.queries, logged, List.countP_append, queries]
      cases query : (cache.visit call).isQuery <;> simp [query]

theorem tracks_visits (capacity : Nat) (calls : List Call) :
    Tracks capacity ((empty capacity).afterAll calls) ((empty capacity).visits calls) := by
  -- The log grows at its end, so the last call is split off and not the first.
  induction calls using List.reverseRecOn with
  | nil => exact tracks_empty capacity rfl
  | append_singleton calls call ih =>
    rw [afterAll_concat, visits_concat]
    exact ih.after call

end Run

/-- After calls of whatever kind the store holds the paths that were touched last, as many as it has
room for, in the order of their last touches; and its counts are those of the calls that looked for
a path and of those that found it.  All this is since the store was last cleared, and asking whether
a path is there changes nothing of it. -/
theorem afterAll_recency (capacity : Nat) (calls : List Call) :
    let cache := (empty capacity).afterAll calls
    let log := (empty capacity).visits calls
    let touches := Visit.touches capacity log
    (∀ path, cache.holds path = true ↔ IsRecent capacity touches path) ∧
      cache.paths.Pairwise (IsOlder touches) ∧ cache.paths.Nodup ∧
      cache.paths.length ≤ capacity ∧
      cache.hits = (Visit.sinceClear log).countP Visit.found ∧
      cache.hits + cache.misses = (Visit.sinceClear log).countP Visit.isQuery ∧
      ∀ path, cache.after (.holds path) = cache := by
  intro cache log touches
  obtain ⟨-, paths, hits, queries⟩ := tracks_visits capacity calls
  refine ⟨fun path => ?_, ?_, ?_, ?_, hits, queries, fun path => rfl⟩
  · rw [holds_iff, paths, mem_latest_iff]
  · rw [paths]
    exact (pairwise_dedup touches).sublist (List.drop_sublist _ _)
  · rw [paths]
    exact nodup_latest _ _
  · rw [paths]
    exact length_latest_le _ _

/-- A path that is found again outlives one that was stored after it. -/
example :
    ((empty 2).afterAll [.parse "a", .parse "b", .get "a", .parse "c"]).paths = ["a", "c"] := by
  decide

end TypedRecords.Path.Cache
