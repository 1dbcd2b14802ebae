import Mathlib.Data.List.Forall2

/-!
Going through a list with a step that may fail.  The traversal gives the results of all items in
their order, or the failure of the first item that has none.
-/

set_option autoImplicit false

namespace TypedRecords.Traversal

variable {α β ε : Type}

/-- The failure is that of an item, and all items before it have results. -/
def FirstFails (f : α → Except ε β) (items : List α) (failure : ε) : Prop :=
  ∃ before item after, items = before ++ item :: after ∧
    (∀ earlier ∈ before, ∃ result, f earlier = .ok result) ∧ f item = .error failure

def AllSucceed (f : α → Except ε β) (items : List α) : Prop :=
  ∀ item ∈ items, ∃ result, f item = .ok result

@[simp] private theorem allSucceed_cons {f : α → Except ε β} {item : α} {rest : List α} :
    AllSucceed f (item :: rest) ↔ (∃ result, f item = .ok result) ∧ AllSucceed f rest :=
  List.forall_mem_cons

@[simp] theorem firstFails_nil {f : α → Except ε β} {failure : ε} : ¬ FirstFails f [] failure := by
  rintro ⟨before, item, after, split, -, -⟩
  simp at split

@[simp] theorem firstFails_cons {f : α → Except ε β} {item : α} {rest : List α} {failure : ε} :
    FirstFails f (item :: rest) failure ↔
      f item = .error failure ∨ (∃ result, f item = .ok result) ∧ FirstFails f rest failure := by
  constructor
  · rintro ⟨before, culprit, after, split, clean, fails⟩
    cases before with
    | nil =>
      obtain ⟨rfl, rfl⟩ := List.cons.inj split
      exact Or.inl fails
    | cons first before =>
      obtain ⟨rfl, rfl⟩ := List.cons.inj split
      obtain ⟨head, tail⟩ := List.forall_mem_cons.mp clean
      exact Or.inr ⟨head, before, culprit, after, rfl, tail, fails⟩
  · rintro (fails | ⟨head, before, culprit, after, rfl, clean, fails⟩)
    · exact ⟨[], item, rest, rfl, by simp, fails⟩
    · exact ⟨item :: before, culprit, after, rfl, List.forall_mem_cons.mpr ⟨head, clean⟩, fails⟩

theorem firstFails_append {f : α → Except ε β} {first second : List α} {failure : ε} :
    FirstFails f (first ++ second) failure ↔
      FirstFails f first failure ∨ AllSucceed f first ∧ FirstFails f second failure := by
  induction first with
  | nil => simp [AllSucceed]
  | cons item rest ih =>
    rw [List.cons_append, firstFails_cons, firstFails_cons, allSucceed_cons, ih]
    tauto

theorem allSucceed_append {f : α → Except ε β} {first second : List α} :
    AllSucceed f (first ++ second) ↔ AllSucceed f first ∧ AllSucceed f second :=
  List.forall_mem_append

@[simp] theorem allSucceed_singleton {f : α → Except ε β} {item : α} :
    AllSucceed f [item] ↔ ∃ result, f item = .ok result :=
  List.forall_mem_singleton

@[simp] theorem firstFails_singleton {f : α → Except ε β} {item : α} {failure : ε} :
    FirstFails f [item] failure ↔ f item = .error failure := by
  simp

section Parts

variable {γ δ : Type} {f : α → Except ε β} {whole : γ → Except ε δ} {parts : γ → List α}

theorem allSucceed_flatMap
    (succeeds : ∀ item, (∃ result, whole item = .ok result) ↔ AllSucceed f (parts item))
    (items : List γ) : AllSucceed f (items.flatMap parts) ↔ AllSucceed whole items := by
  induction items with
  | nil => simp [AllSucceed]
  | cons item rest ih =>
    rw [List.flatMap_cons, allSucceed_append, allSucceed_cons, ih, succeeds]

/-- Where an item fails as the first of its parts that fails, a list does as the first of all the
parts. -/
theorem firstFails_flatMap
    (succeeds : ∀ item, (∃ result, whole item = .ok result) ↔ AllSucceed f (parts item))
    (fails : ∀ item failure, whole item = .error failure ↔ FirstFails f (parts item) failure)
    (items : List γ) (failure : ε) :
    FirstFails f (items.flatMap parts) failure ↔ FirstFails whole items failure := by
  induction items with
  | nil => simp
  | cons item rest ih =>
    rw [List.flatMap_cons, firstFails_append, firstFails_cons, ih, succeeds, fails]

end Parts

theorem mapM_cons_eq (f : α → Except ε β) (item : α) (rest : List α) :
    (item :: rest).mapM f =
      match f item with
      | .error failure => .error failure
      | .ok result =>
        match rest.mapM f with
        | .error failure => .error failure
        | .ok more => .ok (result :: more) := by
  rw [List.mapM_cons]
  cases f item with
  | error failure => rfl
  | ok result => cases rest.mapM f <;> rfl

private theorem mapM_cons_ok_iff {f : α → Except ε β} {item : α} {rest : List α}
    {results : List β} :
    (item :: rest).mapM f = .ok results ↔
      ∃ result more, f item = .ok result ∧ rest.mapM f = .ok more ∧ results = result :: more := by
  rw [mapM_cons_eq]
  cases f item with
  | error failure => simp
  | ok result => cases rest.mapM f <;> simp [eq_comm]

theorem mapM_ok_iff {f : α → Except ε β} {items : List α} {results : List β} :
    items.mapM f = .ok results ↔
      List.Forall₂ (fun item result => f item = .ok result) items results := by
  induction items generalizing results with
  | nil => simp [pure, Except.pure, eq_comm]
  | cons item rest ih => simp only [mapM_cons_ok_iff, List.forall₂_cons_left_iff, ih]

theorem exists_mapM_ok_iff {f : α → Except ε β} {items : List α} :
    (∃ results, items.mapM f = .ok results) ↔ AllSucceed f items := by
  induction items with
  | nil => simp [AllSucceed, pure, Except.pure]
  | cons item rest ih =>
    rw [mapM_cons_eq, allSucceed_cons, ← ih]
    cases f item with
    | error failure => simp
    | ok result => cases rest.mapM f <;> simp

theorem mapM_error_iff {f : α → Except ε β} {items : List α} {failure : ε} :
    items.mapM f = .error failure ↔ FirstFails f items failure := by
  induction items with
  | nil => simp [pure, Except.pure]
  | cons item rest ih =>
    rw [mapM_cons_eq, firstFails_cons, ← ih]
    cases f item with
    | error other => simp
    | ok result => cases rest.mapM f <;> simp

theorem allSucceed_iff_not_firstFails {f : α → Except ε β} {items : List α} :
    AllSucceed f items ↔ ∀ failure, ¬ FirstFails f items failure := by
  simp only [← exists_mapM_ok_iff, ← mapM_error_iff]
  cases items.mapM f <;> simp

theorem mapM_congr {f g : α → Except ε β} {items : List α}
    (agree : ∀ item ∈ items, f item = g item) :
    items.mapM f = items.mapM g := by
  induction items with
  | nil => rfl
  | cons item rest ih =>
    obtain ⟨head, tail⟩ := List.forall_mem_cons.mp agree
    rw [mapM_cons_eq, mapM_cons_eq, head, ih tail]

/-- The items that a traversal comes to: those before the first failure, and the one that fails. -/
def reached (f : α → Except ε β) : List α → List α
  | [] => []
  | item :: rest =>
    match f item with
    | .error _ => [item]
    | .ok _ => item :: reached f rest

theorem flatMap_reached_cons {γ : Type} (f : α → Except ε β) (parts : α → List γ) (item : α)
    (rest : List α) :
    (reached f (item :: rest)).flatMap parts =
      parts item ++
        match f item with
        | .error _ => []
        | .ok _ => (reached f rest).flatMap parts := by
  rw [reached]
  cases f item with
  | error failure => simp
  | ok result => rfl

theorem mapM_map_results {γ : Type} (f : α → Except ε β) (g : β → γ) (items : List α) :
    (items.mapM fun item => (f item).map g) = (items.mapM f).map (List.map g) := by
  induction items with
  | nil => rfl
  | cons item rest ih =>
    rw [mapM_cons_eq, mapM_cons_eq, ih]
    cases f item with
    | error failure => rfl
    | ok result => cases rest.mapM f <;> rfl

theorem allSucceed_zipIdx {f : α × Nat → Except ε β} {good : α → Prop}
    (agrees : ∀ item index, (∃ result, f (item, index) = .ok result) ↔ good item) (items : List α)
    (start : Nat) : AllSucceed f (items.zipIdx start) ↔ ∀ item ∈ items, good item := by
  induction items generalizing start with
  | nil => simp [AllSucceed]
  | cons item rest ih => rw [List.zipIdx_cons, allSucceed_cons, agrees, ih, List.forall_mem_cons]

theorem firstFails_zipIdx {f : α × Nat → Except ε β} {items : List α} {start : Nat}
    {failure : ε} :
    FirstFails f (items.zipIdx start) failure ↔
      ∃ before item after, items = before ++ item :: after ∧
        AllSucceed f (before.zipIdx start) ∧ f (item, start + before.length) = .error failure := by
  constructor
  · rintro ⟨earlier, culprit, later, split, clean, fails⟩
    obtain ⟨before, tail, rfl, rfl, remains⟩ := List.zipIdx_eq_append_iff.mp split
    obtain ⟨item, after, rfl, rfl, -⟩ := List.zipIdx_eq_cons_iff.mp remains.symm
    exact ⟨before, item, after, rfl, clean, fails⟩
  · rintro ⟨before, item, after, rfl, clean, fails⟩
    refine ⟨before.zipIdx start, (item, start + before.length),
      after.zipIdx (start + before.length + 1), ?_, clean, fails⟩
    rw [List.zipIdx_append, List.zipIdx_cons]

theorem exists_mem_of_forall₂ {related : α → β → Prop} {items : List α} {others : List β}
    (pairs : List.Forall₂ related items others) {item : α} (member : item ∈ items) :
    ∃ other ∈ others, related item other := by
  induction pairs with
  | nil => cases member
  | cons head _ ih =>
    rcases List.mem_cons.mp member with rfl | later
    · exact ⟨_, List.mem_cons_self, head⟩
    · obtain ⟨other, found, holds⟩ := ih later
      exact ⟨other, List.mem_cons_of_mem _ found, holds⟩

theorem exists_forall₂ {related : α → β → Prop} {items : List α}
    (each : ∀ item ∈ items, ∃ other, related item other) :
    ∃ others, List.Forall₂ related items others := by
  induction items with
  | nil => exact ⟨[], .nil⟩
  | cons item rest ih =>
    obtain ⟨⟨other, head⟩, tail⟩ := List.forall_mem_cons.mp each
    obtain ⟨others, pairs⟩ := ih tail
    exact ⟨other :: others, .cons head pairs⟩

theorem first_unique {holds : α → Prop} {before first after later : List α}
    {item other : α} (same : before ++ item :: after = first ++ other :: later)
    (clean : ∀ earlier ∈ before, holds earlier) (fails : ¬ holds item)
    (clean' : ∀ earlier ∈ first, holds earlier) (fails' : ¬ holds other) :
    before = first ∧ item = other := by
  induction before generalizing first with
  | nil =>
    cases first with
    | nil => exact ⟨rfl, (List.cons.inj same).1⟩
    | cons head rest =>
      obtain ⟨rfl, -⟩ := List.cons.inj same
      exact absurd (clean' item List.mem_cons_self) fails
  | cons head rest ih =>
    cases first with
    | nil =>
      obtain ⟨rfl, -⟩ := List.cons.inj same
      exact absurd (clean head List.mem_cons_self) fails'
    | cons front others =>
      obtain ⟨rfl, tails⟩ := List.cons.inj same
      obtain ⟨rfl, found⟩ := ih tails (List.forall_mem_cons.mp clean).2
        (List.forall_mem_cons.mp clean').2
      exact ⟨rfl, found⟩

section Outcome

variable {φ : Type}

@[simp] theorem map_ok_iff {f : α → β} {outcome : Except ε α} {result : β} :
    outcome.map f = .ok result ↔ ∃ value, outcome = .ok value ∧ result = f value := by
  cases outcome <;> simp [Except.map, eq_comm]

@[simp] theorem map_error_iff {f : α → β} {outcome : Except ε α} {failure : ε} :
    outcome.map f = .error failure ↔ outcome = .error failure := by
  cases outcome <;> simp [Except.map]

theorem bind_ok_iff {f : α → Except ε β} {outcome : Except ε α} {result : β} :
    outcome.bind f = .ok result ↔ ∃ value, outcome = .ok value ∧ f value = .ok result := by
  cases outcome <;> simp [Except.bind]

theorem bind_error_iff {f : α → Except ε β} {outcome : Except ε α} {failure : ε} :
    outcome.bind f = .error failure ↔
      outcome = .error failure ∨ ∃ value, outcome = .ok value ∧ f value = .error failure := by
  cases outcome <;> simp [Except.bind]

def Yields (outcome : Except ε α) (holds : α → Prop) : Prop :=
  ∀ result, outcome = .ok result → holds result

theorem yields_ok {holds : α → Prop} {result : α} (own : holds result) :
    Yields (.ok result : Except ε α) holds := by
  intro other same
  cases same
  exact own

theorem yields_error {holds : α → Prop} (failure : ε) :
    Yields (.error failure : Except ε α) holds := by
  intro result same
  cases same

theorem Yields.bind {outcome : Except ε α} {f : α → Except ε β} {first : α → Prop}
    {holds : β → Prop} (yields : Yields outcome first)
    (next : ∀ value, first value → Yields (f value) holds) : Yields (outcome.bind f) holds := by
  intro result made
  obtain ⟨value, passed, rest⟩ := bind_ok_iff.mp made
  exact next value (yields value passed) result rest

theorem yields_bind {outcome : Except ε α} {f : α → Except ε β} {holds : β → Prop}
    (next : ∀ value, Yields (f value) holds) : Yields (outcome.bind f) holds := by
  have anything : Yields outcome fun _ => True := fun _ _ => trivial
  exact anything.bind fun value _ => next value

theorem yields_map {outcome : Except ε α} {f : α → β} {holds : β → Prop}
    (each : ∀ value, holds (f value)) : Yields (outcome.map f) holds := by
  intro result made
  obtain ⟨value, -, rfl⟩ := map_ok_iff.mp made
  exact each value

@[simp] theorem mapError_ok_iff {f : ε → φ} {outcome : Except ε α} {result : α} :
    outcome.mapError f = .ok result ↔ outcome = .ok result := by
  cases outcome <;> simp [Except.mapError]

@[simp] theorem mapError_error_iff {f : ε → φ} {outcome : Except ε α} {failure : φ} :
    outcome.mapError f = .error failure ↔ ∃ cause, outcome = .error cause ∧ failure = f cause := by
  cases outcome <;> simp [Except.mapError, eq_comm]

end Outcome

end TypedRecords.Traversal
