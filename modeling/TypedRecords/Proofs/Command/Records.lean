import TypedRecords.Proofs.Command.Output
import TypedRecords.Proofs.Extraction.Results
import TypedRecords.Proofs.Json.Printing

/-!
Records on their way to the output of a command.  The records of a response that is read from JSON
have a form in strict JSON, which has their shape, is always printed, and is its own form.
-/

set_option autoImplicit false

namespace TypedRecords.Command

open TypedRecords.Json (IsJson IsRead Prints print?)
open TypedRecords.Value (Within)

variable {clock : Calendar.Clock}

section Records

variable {cache : Path.Cache} {raw : Value} {signature : Signature} {records : List Fields}

/-- The records of a response, if their moments can be written, have a form that consists of what
JSON has, with finite numbers only.  It has the shape of the records, it is printed without fail,
the text is written where the output can encode it, and it is its own form. -/
theorem records_print (settings : Settings) (filled : cache.IsFilledByParsing) (read : IsRead raw)
    (drawn : (Extraction.run clock settings cache raw signature).1 = .ok records)
    (writable : ∀ m, Within (.moment m) (.list (records.map Value.object)) →
      m.hasWritableOffset = true) :
    ∃ result, Json.strict? (.list (records.map Value.object)) = some result ∧
      Prints (.list (records.map Value.object)) result ∧ result.Throughout IsJson ∧
      print? 0 result = some (Json.write result) ∧
      (∀ output : Output, ¬ output.Loses (Json.write result) →
        writeValue output (.list (records.map Value.object)) =
          .done (Json.write result ++ "\n")) ∧
      Json.strict? result = some result := by
  rw [(Extraction.run_agrees clock settings filled.faithful raw signature).same] at drawn
  have recorded := Extraction.direct_recorded (read.throughout Json.ofReading_decoded) drawn
  have short := Extraction.direct_short (read.throughout Json.ofReading_short) drawn
  obtain ⟨result, found⟩ :
      ∃ result, Json.strict? (.list (records.map Value.object)) = some result := by
    refine Option.ne_none_iff_exists'.mp fun none => ?_
    obtain ⟨m, within, unwritable⟩ := Json.strict?_eq_none_iff.mp none
    rw [writable m within] at unwritable
    cases unwritable
  have isJson := Json.strict?_isJson recorded found
  have printable := Json.strict?_isPrintable recorded short found
  refine ⟨result, found, Json.prints_of_strict? recorded found, isJson, ?_, ?_, ?_⟩
  · exact Json.print?_eq_some_iff.mpr ⟨printable, rfl⟩
  · exact fun output kept => writeValue_of_kept found kept
  · exact Json.strict?_of_isJson isJson

end Records

/-- Numbers that are not finite, in a list that is no number and in an amount, and the beginning of
the epoch. -/
theorem records_print_null :
    let epoch : Calendar.Moment := ⟨⟨1970, 1, 1⟩, ⟨0, 0, 0, 0⟩, some 0⟩
    let raw : Value := .list [.list [.float .nan, .list [.float (.infinite true)], .int 0]]
    let signature : Signature := ⟨"f", [⟨"n", .output, .plain .number, some "1"⟩,
      ⟨"p", .output, .plain .currency, some "0"⟩, ⟨"t", .output, .plain .date, some "2"⟩],
      none, none⟩
    let records : List Fields := [[("n", .list [.float (.infinite true)]),
      ("p", .currency ⟨.nan, "usd"⟩), ("t", .moment epoch)]]
    let result : Value := .list [.object [("n", .list [.null]),
      ("p", .object [("value", .null), ("code", .text "usd")]),
      ("t", .text "1970-01-01T00:00:00+00:00")]]
    IsRead raw ∧
      (Extraction.run .epoch Settings.default (Path.Cache.empty 4) raw signature).1 = .ok records ∧
      Json.strict? (.list (records.map Value.object)) = some result ∧
      print? 0 result = some (Json.write result) ∧ Json.strict? result = some result := by
  intro epoch raw signature records result
  have chars : "[[NaN, [-Infinity], 0]]".toList = ['[', '[', 'N', 'a', 'N', ',', ' ', '[', '-', 'I',
      'n', 'f', 'i', 'n', 'i', 't', 'y', ']', ',', ' ', '0', ']', ']'] := by decide
  have read : Json.read "[[NaN, [-Infinity], 0]]" = .ok raw := by
    rw [Json.read, if_neg (by rw [chars]; decide), Json.readUnmarked, chars]
    rfl
  have filled : (Path.Cache.empty 4).IsFilledByParsing := .empty 4
  have code : Text.Case.lower Settings.default.currency = "usd" := by decide +kernel
  have amount : coerce .epoch Settings.default (.plain .currency) (.float .nan) =
      .ok (.currency ⟨.nan, "usd"⟩) := by
    change Except.ok (Value.currency ⟨_, Text.Case.lower Settings.default.currency⟩) = _
    rw [code]
  have counted : Coercion.ofMilliseconds? 0 = some epoch := by decide +kernel
  have date : coerce .epoch Settings.default (.plain .date) (.int 0) = .ok (.moment epoch) := by
    rw [SemanticType.plain, coerce_leaf _ _ Value.noConfusion, Coercion.toLeaf,
      Coercion.toDate, counted]
    rfl
  have drawn : (Extraction.run .epoch Settings.default (Path.Cache.empty 4) raw signature).1 =
      .ok records := by
    have first : Path.segments "0" = ["0"] := by decide +kernel
    have second : Path.segments "1" = ["1"] := by decide +kernel
    have third : Path.segments "2" = ["2"] := by decide +kernel
    rw [(Extraction.run_agrees _ _ filled.faithful raw signature).same]
    refine Traversal.mapM_ok_iff.mpr (.cons (Extraction.directFields_ok_iff.mpr ?_) .nil)
    refine .cons ⟨_, ⟨.list [.float (.infinite true)], ?_, rfl⟩, rfl⟩ (.cons
      ⟨_, ⟨.float .nan, ?_, amount⟩, rfl⟩ (.cons ⟨_, ⟨.int 0, ?_, date⟩, rfl⟩ .nil))
    · change Path.follow _ (Path.segments "1") = _
      rw [second]
      rfl
    · change Path.follow _ (Path.segments "0") = _
      rw [first]
      rfl
    · change Path.follow _ (Path.segments "2") = _
      rw [third]
      rfl
  have text : epoch.isoText "T" = "1970-01-01T00:00:00+00:00" := by decide +kernel
  have formed : Json.strict? (.list (records.map Value.object)) = some result := by
    change some (Value.list [.object [("n", .list [.null]),
      ("p", .object [("value", .null), ("code", .text "usd")]),
      ("t", .text (epoch.isoText "T"))]]) = some result
    rw [text]
  have writable : ∀ m, Value.Within (.moment m) (.list (records.map Value.object)) →
      m.hasWritableOffset = true := by
    intro m within
    refine Bool.not_eq_false _ ▸ fun unwritable => ?_
    have none := Json.strict?_eq_none_iff.mpr ⟨m, within, unwritable⟩
    cases none.symm.trans formed
  obtain ⟨form, same, -, -, printed, -, own⟩ :=
    records_print Settings.default filled (Or.inl ⟨_, read⟩) drawn writable
  obtain rfl := Option.some.inj (formed.symm.trans same)
  exact ⟨Or.inl ⟨_, read⟩, drawn, formed, printed, own⟩

end TypedRecords.Command
