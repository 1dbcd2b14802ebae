import TypedRecords.Path.Cache

/-!
Stores that speak the truth: under every path they hold its own segments.  A store that is only
filled by parsing is one of them, whatever it has let go of, and through such a store a path leads
where it leads without one.
-/

set_option autoImplicit false

namespace TypedRecords.Path.Cache

def Faithful (cache : Cache) : Prop :=
  ∀ entry ∈ cache.entries, entry.segments = segments entry.path

/-- A store into which paths have come by being parsed, and in no other way. -/
inductive IsFilledByParsing : Cache → Prop
  | empty (capacity : Nat) : IsFilledByParsing (empty capacity)
  | get {cache : Cache} (path : String) :
      IsFilledByParsing cache → IsFilledByParsing (cache.get path).2
  | parse {cache : Cache} (path : String) :
      IsFilledByParsing cache → IsFilledByParsing (cache.parse path).2
  | clear {cache : Cache} : IsFilledByParsing cache → IsFilledByParsing cache.clear

@[simp] theorem faithful_empty (capacity : Nat) : (empty capacity).Faithful := by
  intro entry member
  simp [empty] at member

theorem Faithful.get_fst {cache : Cache} (faithful : cache.Faithful) (path : String) :
    (cache.get path).1 = none ∨ (cache.get path).1 = some (segments path) := by
  unfold get
  cases found : cache.entries.find? fun entry => entry.path == path with
  | none => exact Or.inl rfl
  | some entry =>
    have same : entry.path = path := by simpa using List.find?_some found
    have own : entry.segments = segments entry.path :=
      faithful entry (List.mem_of_find?_eq_some found)
    exact Or.inr (by simp only [own, same])

theorem Faithful.get_snd {cache : Cache} (faithful : cache.Faithful) (path : String) :
    (cache.get path).2.Faithful := by
  unfold get
  cases found : cache.entries.find? fun entry => entry.path == path with
  | none => exact faithful
  | some hit =>
    intro entry member
    rcases List.mem_append.mp member with old | fresh
    · exact faithful entry (List.mem_filter.mp old).1
    · obtain rfl := List.mem_singleton.mp fresh
      exact faithful entry (List.mem_of_find?_eq_some found)

theorem Faithful.put {cache : Cache} (faithful : cache.Faithful) (path : String) :
    (cache.put path (segments path)).Faithful := by
  intro entry member
  rcases List.mem_append.mp (List.mem_of_mem_drop member) with old | fresh
  · exact faithful entry (List.mem_filter.mp old).1
  · obtain rfl := List.mem_singleton.mp fresh
    rfl

theorem Faithful.parse {cache : Cache} (faithful : cache.Faithful) (path : String) :
    (cache.parse path).1 = segments path ∧ (cache.parse path).2.Faithful := by
  have answer := faithful.get_fst path
  have kept := faithful.get_snd path
  unfold Cache.parse
  rcases result : cache.get path with ⟨found, after⟩
  rw [result] at answer kept
  cases found with
  | none => exact ⟨rfl, kept.put path⟩
  | some parts =>
    have own : parts = segments path := by simpa using answer
    exact ⟨own, kept⟩

/-- Filling a store by parsing makes it faithful, and nothing that is done to it in between
changes that. -/
theorem IsFilledByParsing.faithful {cache : Cache} (filled : cache.IsFilledByParsing) :
    cache.Faithful := by
  induction filled with
  | empty capacity => exact faithful_empty capacity
  | get path _ ih => exact ih.get_snd path
  | parse path _ ih => exact (ih.parse path).2
  | clear _ _ => exact faithful_empty _

theorem Faithful.lookup {cache : Cache} (faithful : cache.Faithful) (value : Value)
    (path : String) :
    (cache.lookup value path).1 = Path.lookup value path ∧
      (cache.lookup value path).2.Faithful := by
  obtain ⟨own, kept⟩ := faithful.parse path
  refine ⟨?_, kept⟩
  change follow value (cache.parse path).1 = follow value (segments path)
  rw [own]

end TypedRecords.Path.Cache
