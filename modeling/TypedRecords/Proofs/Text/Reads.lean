import TypedRecords.Proofs.Traversal

/-!
Readers that take characters and hand on those that are left.  What is left stands at the end of the
characters, and a failure is accounted for by something among them; both are kept where one reader
goes on behind another.
-/

set_option autoImplicit false

namespace TypedRecords.Text

open TypedRecords.Traversal

/-- What accounts for a failure at the end of some characters accounts for it in all of them. -/
class Upward {ε : Type} (accounts : List Char → ε → Prop) : Prop where
  up : ∀ {part cs : List Char} {failure : ε}, part <:+ cs → accounts part failure →
    accounts cs failure

/-- What comes of reading some characters: what is left stands at their end, and they account for a
failure. -/
structure Reads {ε α : Type} (accounts : List Char → ε → Prop) (cs : List Char)
    (outcome : Except ε (α × List Char)) : Prop where
  left : ∀ result rest, outcome = .ok (result, rest) → rest <:+ cs
  accounted : ∀ failure, outcome = .error failure → accounts cs failure

structure Skips {ε : Type} (accounts : List Char → ε → Prop) (cs : List Char)
    (outcome : Except ε (List Char)) : Prop where
  left : ∀ rest, outcome = .ok rest → rest <:+ cs
  accounted : ∀ failure, outcome = .error failure → accounts cs failure

namespace Reads

variable {ε α β : Type} {accounts : List Char → ε → Prop} {cs part rest : List Char}
  {outcome : Except ε (α × List Char)}

theorem done {result : α} (suffix : rest <:+ cs) : Reads accounts cs (.ok (result, rest)) where
  left _ _ same := by
    obtain ⟨rfl, rfl⟩ := Prod.mk.inj (Except.ok.inj same)
    exact suffix
  accounted _ same := by cases same

theorem failed {failure : ε} (account : accounts cs failure) :
    Reads accounts cs (.error failure : Except ε (α × List Char)) where
  left _ _ same := by cases same
  accounted _ same := Except.error.inj same ▸ account

theorem mono [Upward accounts] (suffix : part <:+ cs) (reads : Reads accounts part outcome) :
    Reads accounts cs outcome where
  left result rest same := (reads.left result rest same).trans suffix
  accounted failure same := Upward.up suffix (reads.accounted failure same)

theorem mapRest (reads : Reads accounts cs outcome) {f : α × List Char → β × List Char}
    (behind : ∀ pair, (f pair).2 <:+ pair.2) : Reads accounts cs (outcome.map f) where
  left result rest same := by
    obtain ⟨⟨own, left⟩, found, pair⟩ := map_ok_iff.mp same
    obtain rfl : rest = (f (own, left)).2 := congrArg Prod.snd pair
    exact (behind _).trans (reads.left own left found)
  accounted failure same := reads.accounted failure (map_error_iff.mp same)

theorem map (reads : Reads accounts cs outcome) (f : α → β) :
    Reads accounts cs (outcome.map fun (result, rest) => (f result, rest)) :=
  reads.mapRest fun _ => List.suffix_refl _

theorem bind [Upward accounts] {next : α × List Char → Except ε (β × List Char)}
    (first : Reads accounts cs outcome) (second : ∀ result rest, outcome = .ok (result, rest) →
      Reads accounts rest (next (result, rest))) :
    Reads accounts cs (outcome.bind next) where
  left result rest same := by
    obtain ⟨⟨own, left⟩, found, more⟩ := bind_ok_iff.mp same
    exact ((second own left found).left result rest more).trans (first.left own left found)
  accounted failure same := by
    rcases bind_error_iff.mp same with failed | ⟨⟨own, left⟩, found, failed⟩
    · exact first.accounted failure failed
    · exact Upward.up (first.left own left found) ((second own left found).accounted failure failed)

end Reads

namespace Skips

variable {ε : Type} {accounts : List Char → ε → Prop} {cs part rest : List Char}
  {outcome : Except ε (List Char)}

theorem done (suffix : rest <:+ cs) : Skips accounts cs (.ok rest) where
  left _ same := Except.ok.inj same ▸ suffix
  accounted _ same := by cases same

theorem failed {failure : ε} (account : accounts cs failure) :
    Skips accounts cs (.error failure : Except ε (List Char)) where
  left _ same := by cases same
  accounted _ same := Except.error.inj same ▸ account

theorem mono [Upward accounts] (suffix : part <:+ cs) (skips : Skips accounts part outcome) :
    Skips accounts cs outcome where
  left rest same := (skips.left rest same).trans suffix
  accounted failure same := Upward.up suffix (skips.accounted failure same)

theorem bind [Upward accounts] {α : Type} {next : List Char → Except ε (α × List Char)}
    (first : Skips accounts cs outcome) (second : ∀ rest, Reads accounts rest (next rest)) :
    Reads accounts cs (outcome.bind next) where
  left result rest same := by
    obtain ⟨left, found, more⟩ := bind_ok_iff.mp same
    exact ((second left).left result rest more).trans (first.left left found)
  accounted failure same := by
    rcases bind_error_iff.mp same with failed | ⟨left, found, failed⟩
    · exact first.accounted failure failed
    · exact Upward.up (first.left left found) ((second left).accounted failure failed)

end Skips

end TypedRecords.Text
