import TypedRecords.Text.CodePoint

/-!
The spelling of code points in characters: every code point, be it a surrogate or a character, is
read back from its spelling, and a text before the mark spells its own characters.
-/

set_option autoImplicit false

namespace TypedRecords.Text

private theorem toNat_ofNat {code : Nat} (small : code < 0x110000)
    (character : ¬ isSurrogate code) :
    (Char.ofNat code).toNat = code := by
  have valid : code.isValidChar := by
    simp only [isSurrogate, Bool.and_eq_true, decide_eq_true_eq] at character
    unfold Nat.isValidChar
    omega
  rw [Char.ofNat, dif_pos valid]
  rfl

private theorem points_cons {c : Char} (unmarked : c.toNat ≠ markCode) (cs : List Char) :
    points (c :: cs) = pointOf c :: points cs := by
  cases cs with
  | nil => rfl
  | cons d rest => rw [points, if_neg unmarked]

private theorem points_standIn {code : Nat} (surrogate : isSurrogate code) (cs : List Char) :
    points (Char.ofNat (code + standInDistance) :: cs) = code :: points cs := by
  simp only [isSurrogate, Bool.and_eq_true, decide_eq_true_eq] at surrogate
  have behind : markCode < code + standInDistance := by
    unfold markCode standInDistance
    omega
  have own : (Char.ofNat (code + standInDistance)).toNat = code + standInDistance := by
    unfold standInDistance
    refine toNat_ofNat (by omega) ?_
    simp only [isSurrogate, Bool.and_eq_true, decide_eq_true_eq]
    omega
  have unmarked : (Char.ofNat (code + standInDistance)).toNat ≠ markCode := by
    rw [own]
    exact Nat.ne_of_gt behind
  rw [points_cons unmarked, pointOf, own, if_pos behind, Nat.add_sub_cancel]

private theorem points_spell {code : Nat} (small : code < 0x110000) (cs : List Char) :
    points (spell code ++ cs) = code :: points cs := by
  unfold spell
  split
  · rename_i surrogate
    exact points_standIn surrogate cs
  · rename_i character
    have own : (Char.ofNat code).toNat = code := toNat_ofNat small character
    split
    · have marked : (Char.ofNat markCode).toNat = markCode := toNat_ofNat (by decide) (by decide)
      rw [List.cons_append, List.singleton_append, points, if_pos marked, own]
    · rename_i before
      have low : code < markCode := Nat.not_le.mp before
      have unmarked : (Char.ofNat code).toNat ≠ markCode := by
        rw [own]
        exact Nat.ne_of_lt low
      rw [List.singleton_append, points_cons unmarked, pointOf, own, if_neg (Nat.lt_asymm low)]

private theorem points_flatMap_spell {codes : List Nat} (small : ∀ code ∈ codes, code < 0x110000) :
    points (codes.flatMap spell) = codes := by
  induction codes with
  | nil => rfl
  | cons code codes ih =>
    obtain ⟨first, others⟩ := List.forall_mem_cons.mp small
    rw [List.flatMap_cons, points_spell first, ih others]

theorem points_of_forall {cs : List Char} (low : ∀ c ∈ cs, c.toNat < markCode) :
    points cs = cs.map Char.toNat := by
  induction cs with
  | nil => rfl
  | cons c cs ih =>
    obtain ⟨first, others⟩ := List.forall_mem_cons.mp low
    rw [points_cons (Nat.ne_of_lt first), ih others, pointOf, if_neg (Nat.lt_asymm first),
      List.map_cons]

end TypedRecords.Text
