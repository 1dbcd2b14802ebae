import TypedRecords.Proofs.Signature.Data
import TypedRecords.Proofs.Signature.Valid

/-!
What comes of data that are to be a signature.  In a fixed order, they are no object, or the type of
an argument is misspelled, or fields are wrong, or a name occurs again; otherwise they make a
signature, which is valid.
-/

set_option autoImplicit false

namespace TypedRecords.Signature

open TypedRecords.Schema

section Misspellings

variable {value : Value} {fields : Fields} {misspelling : SemanticType.Misspelling}

/-- The first argument whose type is misspelled, behind arguments that are not so. -/
def FirstMisspelled (fields : Fields) (misspelling : SemanticType.Misspelling) : Prop :=
  ∃ before value after, Fields.get? fields "args" = some (.list (before ++ value :: after)) ∧
    (∀ earlier ∈ before, ∀ other, ¬ Misspells earlier other) ∧ Misspells value misspelling

private theorem misspelling?_eq_some_iff :
    misspelling? value = some misspelling ↔ Misspells value misspelling := by
  constructor
  · intro found
    unfold misspelling? at found
    split at found
    · split at found
      · rename_i given
        split at found
        · cases found
        · rename_i read
          obtain rfl := Option.some.inj found
          exact .type given read
      · cases found
    · cases found
  · rintro ⟨given, read⟩
    simp only [misspelling?, given, read]

private theorem misspelling?_eq_none_iff :
    misspelling? value = none ↔ ∀ misspelling, ¬ Misspells value misspelling := by
  rw [Option.eq_none_iff_forall_ne_some]
  exact forall_congr' fun _ => misspelling?_eq_some_iff.not

private theorem firstMisspelling?_of_list {values : List Value}
    (given : Fields.get? fields "args" = some (.list values)) :
    firstMisspelling? fields = values.findSome? misspelling? := by
  simp only [firstMisspelling?, given]

private theorem firstMisspelling?_eq_some_iff :
    firstMisspelling? fields = some misspelling ↔ FirstMisspelled fields misspelling := by
  constructor
  · intro found
    unfold firstMisspelling? at found
    split at found
    · rename_i values given
      obtain ⟨before, value, after, rfl, own, clean⟩ := List.findSome?_eq_some_iff.mp found
      exact ⟨before, value, after, given,
        fun earlier member => misspelling?_eq_none_iff.mp (clean earlier member),
        misspelling?_eq_some_iff.mp own⟩
    · cases found
  · rintro ⟨before, value, after, given, clean, own⟩
    rw [firstMisspelling?_of_list given]
    exact List.findSome?_eq_some_iff.mpr ⟨before, value, after, rfl,
      misspelling?_eq_some_iff.mpr own,
      fun earlier member => misspelling?_eq_none_iff.mpr (clean earlier member)⟩

private theorem firstMisspelling?_eq_none_iff :
    firstMisspelling? fields = none ↔ WellSpelled fields := by
  constructor
  · intro none values given value member
    rw [firstMisspelling?_of_list given, List.findSome?_eq_none_iff] at none
    exact misspelling?_eq_none_iff.mp (none value member)
  · intro spelled
    unfold firstMisspelling?
    split
    · rename_i values given
      refine List.findSome?_eq_none_iff.mpr fun value member => ?_
      exact misspelling?_eq_none_iff.mpr (spelled values given value member)
    · rfl

end Misspellings

section Repetitions

/-- The first argument whose name has occurred before, behind arguments of different names. -/
def FirstRepeated (args : List Argument) (name : String) : Prop :=
  ∃ before arg after, args = before ++ arg :: after ∧ arg.name = name ∧
    (before.map Argument.name).Nodup ∧ name ∈ before.map Argument.name

private theorem repeatedName?_eq_none_iff {seen : List String} {args : List Argument} :
    repeatedName? seen args = none ↔
      (args.map Argument.name).Nodup ∧ ∀ arg ∈ args, arg.name ∉ seen := by
  induction args generalizing seen with
  | nil => simp [repeatedName?]
  | cons arg rest ih =>
    rw [repeatedName?]
    by_cases known : arg.name ∈ seen
    · simp [known]
    · have apart : arg.name ∉ rest.map Argument.name ↔ ∀ other ∈ rest, other.name ≠ arg.name := by
        simp
      simp only [List.contains_iff_mem, known, if_false, ih, List.map_cons, List.nodup_cons, apart,
        List.mem_cons, forall_eq_or_imp, not_or, forall_and, not_false_iff, true_and]
      tauto

private theorem repeatedName?_eq_some {seen : List String} {args : List Argument} {name : String}
    (found : repeatedName? seen args = some name) :
    ∃ before arg after, args = before ++ arg :: after ∧ arg.name = name ∧
      repeatedName? seen before = none ∧ (name ∈ seen ∨ name ∈ before.map Argument.name) := by
  -- An argument that is passed over joins the names seen, so these vary in the induction.
  induction args generalizing seen with
  | nil => cases found
  | cons arg rest ih =>
    rw [repeatedName?] at found
    split at found
    · rename_i known
      obtain rfl := Option.some.inj found
      exact ⟨[], arg, rest, rfl, rfl, rfl, Or.inl (List.contains_iff_mem.mp known)⟩
    · rename_i fresh
      obtain ⟨before, again, after, rfl, named, clean, occurred⟩ := ih found
      refine ⟨arg :: before, again, after, rfl, named, ?_, ?_⟩
      · rw [repeatedName?, if_neg fresh, clean]
      · rcases occurred with known | later
        · rcases List.mem_cons.mp known with rfl | known
          · exact Or.inr List.mem_cons_self
          · exact Or.inl known
        · exact Or.inr (List.mem_cons_of_mem _ later)

private theorem firstRepeated_of_repeatedName? {args : List Argument} {name : String}
    (found : repeatedName? [] args = some name) : FirstRepeated args name := by
  obtain ⟨before, arg, after, split, named, clean, occurred⟩ := repeatedName?_eq_some found
  have distinct : (before.map Argument.name).Nodup := (repeatedName?_eq_none_iff.mp clean).1
  exact ⟨before, arg, after, split, named, distinct, by simpa using occurred⟩

private theorem repeatedName?_nil_eq_none_iff {args : List Argument} :
    repeatedName? [] args = none ↔ (args.map Argument.name).Nodup := by
  simp [repeatedName?_eq_none_iff]

end Repetitions

section Precedence

variable {data : Value} {fields : Fields} {signature : Signature}

private theorem ofValue_of_not_object (other : ∀ fields, data ≠ .object fields) :
    ofValue data = .error (.notObject data.kindName) := by
  cases data with
  | object fields => exact absurd rfl (other fields)
  | _ => rfl

private theorem ofValue_of_firstMisspelled {misspelling : SemanticType.Misspelling}
    (first : FirstMisspelled fields misspelling) :
    ofValue (.object fields) = .error (.misspelledType misspelling) := by
  simp only [ofValue, firstMisspelling?_eq_some_iff.mpr first]

private theorem exists_firstMisspelled (misspelled : ¬ WellSpelled fields) :
    ∃ misspelling, FirstMisspelled fields misspelling := by
  rw [← firstMisspelling?_eq_none_iff] at misspelled
  obtain ⟨misspelling, found⟩ := Option.ne_none_iff_exists'.mp misspelled
  exact ⟨misspelling, firstMisspelling?_eq_some_iff.mp found⟩

private theorem ofValue_of_dataFault (spelled : WellSpelled fields) {fault : Fault}
    (wrong : DataFault fields fault) :
    ∃ faults, ofValue (.object fields) = .error (.invalid faults) ∧
      ∀ fault, fault ∈ faults ↔ DataFault fields fault := by
  obtain ⟨faults, failed, all⟩ := (checkFields_finds spelled).exists_error wrong
  refine ⟨faults, ?_, all⟩
  simp only [ofValue, firstMisspelling?_eq_none_iff.mpr spelled, failed]

private theorem exists_describedBy (spelled : WellSpelled fields)
    (clean : ∀ fault, ¬ DataFault fields fault) :
    ∃ signature : Signature, signature.DescribedBy fields := by
  obtain ⟨signature, checked⟩ := (checkFields_finds spelled).exists_ok clean
  exact ⟨signature, checkFields_ok_iff.mp checked⟩

private theorem ofValue_of_distinct (described : signature.DescribedBy fields)
    (distinct : (signature.args.map Argument.name).Nodup) :
    ofValue (.object fields) = .ok signature := by
  have fresh : repeatedName? [] signature.args = none :=
    repeatedName?_nil_eq_none_iff.mpr distinct
  simp only [ofValue, firstMisspelling?_eq_none_iff.mpr described.wellSpelled,
    checkFields_ok_iff.mpr described, fresh]

private theorem ofValue_of_repeated (described : signature.DescribedBy fields)
    (repeated : ¬ (signature.args.map Argument.name).Nodup) :
    ∃ name, FirstRepeated signature.args name ∧
      ofValue (.object fields) = .error (.duplicate name signature.name) := by
  rw [← repeatedName?_nil_eq_none_iff] at repeated
  obtain ⟨name, found⟩ := Option.ne_none_iff_exists'.mp repeated
  refine ⟨name, firstRepeated_of_repeatedName? found, ?_⟩
  simp only [ofValue, firstMisspelling?_eq_none_iff.mpr described.wellSpelled,
    checkFields_ok_iff.mpr described, found]

private theorem ofValue_ok_iff :
    ofValue data = .ok signature ↔
      ∃ fields, data = .object fields ∧ signature.DescribedBy fields ∧
        (signature.args.map Argument.name).Nodup := by
  constructor
  · intro made
    unfold ofValue at made
    split at made
    · rename_i fields
      split at made
      · cases made
      · split at made
        · cases made
        · rename_i checked
          split at made
          · cases made
          · rename_i fresh
            obtain rfl := Except.ok.inj made
            exact ⟨fields, rfl, checkFields_ok_iff.mp checked,
              repeatedName?_nil_eq_none_iff.mp fresh⟩
    · cases made
  · rintro ⟨fields, rfl, described, distinct⟩
    exact ofValue_of_distinct described distinct

theorem isValid_of_ofValue (made : ofValue data = .ok signature) : signature.IsValid := by
  obtain ⟨fields, -, described, distinct⟩ := ofValue_ok_iff.mp made
  exact ⟨distinct, described.isComplete⟩

/-- Data come to a signature or to one of four failures, of which the earlier ones go before the
later ones: they are no object; the first misspelled type of an argument is told, whatever else is
wrong; all faults of the fields are told; the first name that has occurred before is told.  In the
signature, arguments are found by name, and those that come out of a query keep their order. -/
theorem ofValue_by_precedence :
    (∀ data : Value, (∀ fields, data ≠ .object fields) →
      ofValue data = .error (.notObject data.kindName)) ∧
    (∀ fields : Fields,
      (¬ WellSpelled fields → ∃ misspelling, FirstMisspelled fields misspelling ∧
        ofValue (.object fields) = .error (.misspelledType misspelling)) ∧
      (WellSpelled fields → (∃ fault, DataFault fields fault) →
        ∃ faults, ofValue (.object fields) = .error (.invalid faults) ∧
          ∀ fault, fault ∈ faults ↔ DataFault fields fault) ∧
      (WellSpelled fields → (∀ fault, ¬ DataFault fields fault) →
        ∃ signature : Signature, signature.DescribedBy fields ∧
          (¬ (signature.args.map Argument.name).Nodup →
            ∃ name, FirstRepeated signature.args name ∧
              ofValue (.object fields) = .error (.duplicate name signature.name)) ∧
          ((signature.args.map Argument.name).Nodup →
            ofValue (.object fields) = .ok signature))) ∧
    ∀ data signature, ofValue data = .ok signature →
      signature.IsValid ∧
      (∀ name arg, signature.argument? name = some arg ↔
        arg ∈ signature.args ∧ arg.name = name) ∧
      (∀ name, signature.argument? name = none ↔ ∀ arg ∈ signature.args, arg.name ≠ name) ∧
      signature.outputs.Sublist signature.args ∧
      ∀ arg, arg ∈ signature.outputs ↔ arg ∈ signature.args ∧ arg.direction ≠ .input := by
  refine ⟨fun data other => ofValue_of_not_object other, fun fields => ⟨?_, ?_, ?_⟩, ?_⟩
  · intro misspelled
    obtain ⟨misspelling, first⟩ := exists_firstMisspelled misspelled
    exact ⟨misspelling, first, ofValue_of_firstMisspelled first⟩
  · rintro spelled ⟨fault, wrong⟩
    exact ofValue_of_dataFault spelled wrong
  · intro spelled clean
    obtain ⟨signature, described⟩ := exists_describedBy spelled clean
    exact ⟨signature, described, ofValue_of_repeated described,
      ofValue_of_distinct described⟩
  · intro data signature made
    have valid : signature.IsValid := isValid_of_ofValue made
    exact ⟨valid, fun _ _ => valid.argument?_eq_some_iff, fun _ => argument?_eq_none_iff,
      List.filter_sublist, fun _ => mem_outputs_iff⟩

/-- A misspelled type is told before the wrong name of the signature; without it, that name and the
missing one of the argument are told together.  An argument that goes in may not share its name with
one that comes out. -/
theorem ofValue_by_precedence_shared_name :
    let argument (name direction : String) : Value :=
      .object [("name", .text name), ("direction", .text direction), ("type", .text "Number")]
    let misspelled : Fields :=
      [("name", .int 1), ("args", .list [.object [("type", .text "Array(")]])]
    let wrong : Fields :=
      [("name", .int 1), ("args", .list [.object [("type", .text "Number")]])]
    let shared : Fields := [("args", .list [argument "a" "in", argument "a" "out"])]
    let apart : Fields := [("args", .list [argument "a" "in", argument "b" "out"])]
    ofValue (.list []) = .error (.notObject "list") ∧
    (∃ misspelling, FirstMisspelled misspelled misspelling ∧
      ofValue (.object misspelled) = .error (.misspelledType misspelling)) ∧
    (∃ faults, ofValue (.object wrong) = .error (.invalid faults) ∧
      ⟨[.field "name"], .notText⟩ ∈ faults ∧
      ⟨[.field "args", .position 0, .field "name"], .missing⟩ ∈ faults) ∧
    (∃ signature : Signature, signature.DescribedBy shared ∧
      ∃ name, FirstRepeated signature.args name ∧
        ofValue (.object shared) = .error (.duplicate name signature.name)) ∧
    ∃ signature : Signature, signature.DescribedBy apart ∧
      ofValue (.object apart) = .ok signature ∧ signature.IsValid := by
  intro argument misspelled wrong shared apart
  obtain ⟨notObject, outcome, made⟩ := ofValue_by_precedence
  refine ⟨notObject _ nofun, (outcome misspelled).1 ?_, ?_, ?_, ?_⟩
  · exact firstMisspelling?_eq_none_iff.not.mp (by decide +kernel)
  · have spelled : WellSpelled wrong := firstMisspelling?_eq_none_iff.mp (by decide +kernel)
    have named : DataFault wrong ⟨[.field "name"], .notText⟩ := .name rfl nofun
    have missing : DataFault wrong ⟨[.field "args", .position 0, .field "name"], .missing⟩ :=
      .argument rfl rfl (.nameMissing rfl)
    obtain ⟨faults, failed, all⟩ := (outcome wrong).2.1 spelled ⟨_, named⟩
    exact ⟨faults, failed, (all _).mpr named, (all _).mpr missing⟩
  · let signature : Signature := ⟨"",
      [⟨"a", .input, .plain .number, none⟩, ⟨"a", .output, .plain .number, none⟩], none, none⟩
    have known : signature.DescribedBy shared := checkFields_ok_iff.mp (by decide +kernel)
    obtain ⟨own, described, repeated, -⟩ :=
      (outcome shared).2.2 known.wellSpelled known.not_dataFault
    obtain rfl := described.unique known
    exact ⟨signature, known, repeated (by decide)⟩
  · let signature : Signature := ⟨"",
      [⟨"a", .input, .plain .number, none⟩, ⟨"b", .output, .plain .number, none⟩], none, none⟩
    have known : signature.DescribedBy apart := checkFields_ok_iff.mp (by decide +kernel)
    obtain ⟨own, described, -, distinct⟩ :=
      (outcome apart).2.2 known.wellSpelled known.not_dataFault
    obtain rfl := described.unique known
    have passed : ofValue (.object apart) = .ok signature := distinct (by decide)
    exact ⟨signature, known, passed, (made _ _ passed).1⟩

end Precedence

end TypedRecords.Signature
