import TypedRecords.Command.Run
import TypedRecords.Proofs.Json.Characters
import TypedRecords.Proofs.Json.Strict
import TypedRecords.Proofs.Text.CodePoints

/-!
What is written to the output.  A line is written just where the encoding has bytes for each of its
code points.  JSON text is shown as it is, since it has no colours, and text of the basic character
set is lost by no usual encoding.
-/

set_option autoImplicit false

namespace TypedRecords.Command

open TypedRecords.Text (Consists isAscii isUnescaped points)

section Shown

private theorem colourLength_cons {c : Char} (plain : isUnescaped c = true) (rest : List Char) :
    colourLength (c :: rest) = 0 := by
  unfold colourLength
  split
  · rename_i same
    obtain ⟨rfl, -⟩ := List.cons.inj same
    cases plain
  · rfl

private theorem withoutColours_of_plain {cs : List Char}
    (plain : ∀ c ∈ cs, isUnescaped c = true) : withoutColours 0 cs = cs := by
  induction cs with
  | nil => rfl
  | cons c rest ih =>
    obtain ⟨first, others⟩ := List.forall_mem_cons.mp plain
    rw [withoutColours, colourLength_cons first rest]
    exact congrArg (c :: ·) (ih others)

private theorem shown_of_plain {text : String} (plain : Consists isUnescaped text)
    (output : Output) :
    output.shown text = text := by
  unfold Output.shown
  split
  · rfl
  · rw [withoutColours_of_plain plain, String.ofList_toList]

@[simp] private theorem shown_write (output : Output) (value : Value) :
    output.shown (Json.write value) = Json.write value :=
  shown_of_plain (Json.write_unescaped value) output

end Shown

/-- A text cannot be written as a line: the output has no bytes for one of its code points. -/
def Output.Loses (output : Output) (text : String) : Prop :=
  ∃ code ∈ points (output.shown text ++ "\n").toList, output.encodes code = false

/-- A value cannot be written as JSON: it has a moment whose offset cannot be written, or the text
that it has in JSON is lost. -/
inductive Output.Refuses (output : Output) (value : Value) : Prop
  | offset : Json.HasUnwritable value → Refuses output value
  | lost {result : Value} : Json.strict? value = some result → output.Loses (Json.write result) →
      Refuses output value

def Output.HasAscii (output : Output) : Prop :=
  ∀ code < 0x80, output.encodes code = true

theorem Output.utf8_hasAscii : Output.utf8.HasAscii := by
  intro code ascii
  have before : Text.isSurrogate code = false := by
    simp only [Text.isSurrogate]
    have low : ¬ 0xd800 ≤ code := by omega
    simp [low]
  simp [Output.utf8, before]

section Writing

variable {output : Output} {text : String} {value result : Value}

theorem line?_eq_none_iff : output.line? text = none ↔ output.Loses text := by
  simp [Output.line?, Output.admits, Output.Loses]

theorem line?_of_not_loses (kept : ¬ output.Loses text) :
    output.line? text = some (output.shown text ++ "\n") := by
  have admitted : output.admits (output.shown text ++ "\n") = true := by
    simpa [Output.Loses, Output.admits] using kept
  simp [Output.line?, admitted]

theorem not_loses_write (ascii : output.HasAscii) (plain : Consists isAscii (Json.write value)) :
    ¬ output.Loses (Json.write value) := by
  have line : Consists isAscii (Json.write value ++ "\n") :=
    Text.consists_append.mpr ⟨plain, by decide⟩
  have small (c : Char) (member : c ∈ (Json.write value ++ "\n").toList) : c.toNat < 0x80 :=
    of_decide_eq_true (line c member)
  have low : ∀ c ∈ (Json.write value ++ "\n").toList, c.toNat < Text.markCode :=
    fun c member => Nat.lt_trans (small c member) (by decide)
  rintro ⟨code, member, lost⟩
  rw [shown_write, Text.points_of_forall low] at member
  obtain ⟨c, own, rfl⟩ := List.mem_map.mp member
  rw [ascii _ (small c own)] at lost
  cases lost

theorem writeValue_of_unformed (unformed : Json.strict? value = none) :
    writeValue output value = .aborted .unwritableOffset := by
  simp [writeValue, unformed]

private theorem writeValue_of_lost (found : Json.strict? value = some result)
    (lost : output.Loses (Json.write result)) :
    writeValue output value = .aborted .unencodable := by
  simp [writeValue, found, writeLine, line?_eq_none_iff.mpr lost]

theorem writeValue_of_kept (found : Json.strict? value = some result)
    (kept : ¬ output.Loses (Json.write result)) :
    writeValue output value = .done (Json.write result ++ "\n") := by
  simp [writeValue, found, writeLine, line?_of_not_loses kept]

theorem writeValue_aborted_iff :
    (∃ cause, writeValue output value = .aborted cause) ↔ output.Refuses value := by
  constructor
  · rintro ⟨cause, aborted⟩
    cases found : Json.strict? value with
    | none => exact .offset (Json.strict?_eq_none_iff.mp found)
    | some result =>
      refine .lost found (Classical.not_not.mp fun kept => ?_)
      cases (writeValue_of_kept found kept).symm.trans aborted
  · rintro (unwritable | ⟨found, lost⟩)
    · exact ⟨_, writeValue_of_unformed (Json.strict?_eq_none_iff.mpr unwritable)⟩
    · exact ⟨_, writeValue_of_lost found lost⟩

theorem writeValue_done {written : String} (done : writeValue output value = .done written) :
    ∃ result, Json.strict? value = some result ∧ written = Json.write result ++ "\n" := by
  cases found : Json.strict? value with
  | none => cases (writeValue_of_unformed found).symm.trans done
  | some result =>
    by_cases lost : output.Loses (Json.write result)
    · cases (writeValue_of_lost found lost).symm.trans done
    · exact ⟨result, rfl, (Outcome.done.inj ((writeValue_of_kept found lost).symm.trans done)).symm⟩

end Writing

end TypedRecords.Command
