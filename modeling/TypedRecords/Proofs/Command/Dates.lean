import TypedRecords.Proofs.Coercion.Conformance
import TypedRecords.Proofs.Command.Endings
import TypedRecords.Proofs.DateText.Offset

/-!
Dates on their way from a value to the output of a command.  A moment that is coerced has an offset,
which is written in the text that it came from, or told by the clock for a name of its zone, or else
is zero.  It is less than a day or not, and so the moment is written or aborts the command.
-/

set_option autoImplicit false

namespace TypedRecords.Command

open TypedRecords.Calendar (Clock Date Moment TimeOfDay)
open TypedRecords.Coercion
open TypedRecords.DateText
open TypedRecords.Numeric (Double)
open TypedRecords.Traversal
open TypedRecords.Value (Within)

variable {clock : Clock}

/-- Where the offset of a moment comes from when a value is coerced to it: a moment has its own, and
in a text it is written, or a zone is named that the clock knows; else it is that of universal time.
-/
inductive OffsetFrom (clock : Clock) (result : Moment) : Value → Int → Prop
  | moment (m : Moment) : OffsetFrom clock result (.moment m) (m.offset.getD 0)
  | date (d : Date) : OffsetFrom clock result (.date d) 0
  | int (n : Int) : OffsetFrom clock result (.int n) 0
  | float (x : Double) : OffsetFrom clock result (.float x) 0
  | unwritten (s : String) : OffsetFrom clock result (.text s) 0
  | written {s : String} {offset : Int} : IsWritten (tokensOf s) offset →
      OffsetFrom clock result (.text s) offset
  | named {s : String} {offset : Int} : IsLocal clock (tokensOf s) result offset →
      OffsetFrom clock result (.text s) offset

section Coercion

variable {settings : Settings} {value : Value} {m : Moment}

private theorem offsetFrom_text {s : String} (read : DateText.read clock s = .ok m) :
    OffsetFrom clock m.orUtc (.text s) (m.offset.getD 0) := by
  cases known : m.offset with
  | none => exact .unwritten s
  | some offset =>
    rcases read_offset read known with zero | written | own
    · rw [zero]
      exact .unwritten s
    · exact .written written
    · exact .named own

private theorem toDate_offset (made : toDate clock settings value = .ok (.moment m)) :
    ∃ offset, m.offset = some offset ∧ OffsetFrom clock m value offset := by
  -- what does not fit stays as it is, and is no moment
  have stays {other : Value} (passed : mismatch settings other LeafKind.date.name = .ok (.moment m))
      (plain : ∀ m, other ≠ .moment m) : False :=
    plain m (mismatch_ok passed).2.symm
  cases value with
  | moment own =>
    cases made
    exact ⟨_, rfl, .moment own⟩
  | date d =>
    cases made
    exact ⟨0, rfl, .date d⟩
  | int n =>
    rcases orMismatch_ok made with counted | ⟨-, same⟩
    · obtain ⟨moment, found, same⟩ := Option.map_eq_some_iff.mp counted
      cases same
      obtain ⟨x, -, seconds⟩ := Option.bind_eq_some_iff.mp found
      exact ⟨0, ofSeconds?_offset seconds, .int n⟩
    · cases same
  | float x =>
    rcases orMismatch_ok made with counted | ⟨-, same⟩
    · obtain ⟨moment, found, same⟩ := Option.map_eq_some_iff.mp counted
      cases same
      exact ⟨0, ofSeconds?_offset found, .float x⟩
    · cases same
  | text s =>
    simp only [toDate, textToDate] at made
    split at made
    · rename_i moment read
      cases made
      exact ⟨_, rfl, offsetFrom_text read⟩
    · exact (stays made (by simp)).elim
    · cases made
  | _ => exact (stays made (by simp)).elim

private theorem coerce_date_of_read {s : String} (labels : TypeLabels)
    (read : DateText.read clock s = .ok m) :
    coerce clock settings (.leaf .date labels) (.text s) = .ok (.moment m.orUtc) := by
  rw [coerce_leaf settings labels Value.noConfusion]
  change textToDate clock settings s = _
  rw [textToDate, read]

end Coercion

section Writing

variable {m : Moment} {offset : Int}

private theorem hasWritableOffset_iff (known : m.offset = some offset) :
    m.hasWritableOffset = true ↔ offset.natAbs < 86400 := by
  simp [Moment.hasWritableOffset, known]

private theorem strict?_moment (writable : m.hasWritableOffset = true) :
    Json.strict? (.moment m) = some (.text (m.isoText "T")) := by
  simp [Json.strict?, writable]

/-- The text of a moment is in the basic character set, so that any usual output takes it. -/
theorem writeValue_moment {output : Output} (ascii : output.HasAscii)
    (writable : m.hasWritableOffset = true) :
    writeValue output (.moment m) = .done (Json.write (.text (m.isoText "T")) ++ "\n") :=
  writeValue_of_kept (strict?_moment writable)
    (not_loses_write ascii (Json.textLiteral_ascii m.isoText_ascii))

private theorem writeValue_of_unwritable (output : Output)
    (unwritable : m.hasWritableOffset = false)
    {records : Value} (within : Within (.moment m) records) :
    writeValue output records = .aborted .unwritableOffset :=
  writeValue_of_unformed (Json.strict?_eq_none_iff.mpr ⟨m, within, unwritable⟩)

end Writing

/-- A moment that a value is coerced to has an offset, which is zero, or the one of the value, or
the one of a zone that the clock knows.  If it is less than a day, the moment is written, and if
not, no records that hold it are.  Such offsets come of texts: ten o'clock with any hours and
minutes behind it has just these for its offset. -/
theorem coerce_date_offset (clock : Clock) (settings : Settings) (labels : TypeLabels) :
    (∀ value m, coerce clock settings (.leaf .date labels) value = .ok (.moment m) →
      ∃ offset, m.offset = some offset ∧ OffsetFrom clock m value offset ∧
        (offset.natAbs < 86400 → ∀ output : Output, output.HasAscii →
          writeValue output (.moment m) = .done (Json.write (.text (m.isoText "T")) ++ "\n")) ∧
        (86400 ≤ offset.natAbs → ∀ output records, Within (.moment m) records →
          writeValue output records = .aborted .unwritableOffset)) ∧
    ∀ negative hours minutes h m, natural hours = .ok h → natural minutes = .ok m →
      hours.length ≠ 4 → secondsEast negative h m ≠ 0 →
      countable? (secondsEast negative h m) = some (secondsEast negative h m) →
        coerce clock settings (.leaf .date labels) (.text (tenOffset negative hours minutes)) =
          .ok (.moment ⟨clock.today, ⟨10, 0, 0, 0⟩, some (secondsEast negative h m)⟩) := by
  constructor
  · intro value m made
    rcases coerce_leaf_ok made with ⟨-, absent⟩ | ⟨-, passed⟩
    · cases absent
    obtain ⟨offset, known, origin⟩ := toDate_offset passed
    refine ⟨offset, known, origin, fun short output ascii => ?_,
      fun long output records within => ?_⟩
    · exact writeValue_moment ascii ((hasWritableOffset_iff known).mpr short)
    · refine writeValue_of_unwritable output (Bool.eq_false_iff.mpr fun writable => ?_) within
      exact Nat.not_le.mpr ((hasWritableOffset_iff known).mp writable) long
  · intro negative hours minutes h m readHours readMinutes apart east counted
    exact coerce_date_of_read labels (read_tenOffset readHours readMinutes apart east counted)

/-- An offset of half an hour among its minutes, which is written, and one of more than four days.
-/
theorem coerce_date_offset_ten :
    let half : Moment := ⟨⟨1970, 1, 1⟩, ⟨10, 0, 0, 0⟩, some (-19800)⟩
    let far : Moment := ⟨⟨1970, 1, 1⟩, ⟨10, 0, 0, 0⟩, some 362340⟩
    coerce .epoch Settings.default (.plain .date) (.text (tenOffset true ['0', '5'] ['3', '0'])) =
        .ok (.moment half) ∧
      writeValue .utf8 (.moment half) = .done "\"1970-01-01T10:00:00-05:30\"\n" ∧
      coerce .epoch Settings.default (.plain .date)
          (.text (tenOffset false ['9', '9'] ['9', '9'])) =
        .ok (.moment far) ∧
      writeValue .utf8 (.list [.object [("t", .moment far)], .null]) =
        .aborted .unwritableOffset := by
  intro half far
  obtain ⟨writes, reads⟩ := coerce_date_offset .epoch Settings.default TypeLabels.none
  have near := reads true ['0', '5'] ['3', '0'] 5 30 rfl rfl (by decide) (by decide) (by decide)
  have long := reads false ['9', '9'] ['9', '9'] 99 99 rfl rfl (by decide) (by decide) (by decide)
  obtain ⟨offset, known, -, short, -⟩ := writes _ half near
  obtain ⟨other, knownFar, -, -, aborts⟩ := writes _ far long
  cases known
  cases knownFar
  have line : Json.write (.text (half.isoText "T")) ++ "\n" =
      "\"1970-01-01T10:00:00-05:30\"\n" := by
    decide +kernel
  rw [line] at short
  refine ⟨near, short (by decide) .utf8 Output.utf8_hasAscii, long, aborts (by decide) _ _ ?_⟩
  exact .item (.head _) (.field (.head _) .here)

/-- An offset of twenty-four hours is accepted, and the record that holds it is not written. -/
theorem coerce_date_unwritable :
    let far : Moment := ⟨⟨1970, 1, 1⟩, ⟨10, 0, 0, 0⟩, some 86400⟩
    coerce .epoch Settings.default (.plain .date) (.text "10:00 +24:00") = .ok (.moment far) ∧
      far.hasWritableOffset = false ∧
      writeValue .utf8 (.list [.object [("t", .moment far)]]) = .aborted .unwritableOffset := by
  intro far
  have text : tenOffset false ['2', '4'] ['0', '0'] = "10:00 +24:00" := rfl
  have read : DateText.read .epoch "10:00 +24:00" = .ok far := by
    rw [← text]
    exact read_tenOffset (h := 24) (m := 0) rfl rfl (by decide) (by decide) (by decide)
  exact ⟨coerce_date_of_read TypeLabels.none read, rfl,
    writeValue_of_unwritable .utf8 rfl (.item (.head _) (.field (.head _) .here))⟩

end TypedRecords.Command
