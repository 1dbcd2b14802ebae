import TypedRecords.Proofs.Template.Filling
import TypedRecords.Proofs.Value.Fields
import TypedRecords.Source.Basic

/-!
The two scopes of a template, the parameters of a call and those of the device, taken as one: those
of the call that have a value, set over those of the device.  A template asks for the names of its
placeholders and for nothing else of its scopes.
-/

set_option autoImplicit false

namespace TypedRecords.Template

/-- The parameters of a device, with those of a call set over them; null and the empty text of a
call set nothing. -/
def merged (device : Fields) (call : Option Fields) : Fields :=
  Named.putAll device ((call.getD []).filter fun field => isGiven field.2)

/-- A name stands in a template as a placeholder, with braces or without. -/
def Occurs (template name : String) : Prop :=
  ∃ tokens braced, Divides template.toList tokens ∧ Token.placeholder name braced ∈ tokens

section Merged

variable (device : Fields) {call : Option Fields}

private theorem get?_merged (distinct : ((call.getD []).map Prod.fst).Nodup) (name : String) :
    Fields.get? (merged device call) name =
      ((call.bind fun fields => Fields.get? fields name).filter isGiven).or
        (Fields.get? device name) := by
  have kept : (((call.getD []).filter fun field => isGiven field.2).map Prod.fst).Nodup :=
    distinct.sublist (List.filter_sublist.map Prod.fst)
  rw [merged, Fields.get?_putAll, Fields.get?_reverse kept, Fields.get?_filter distinct]
  cases call <;> rfl

private theorem resolve_merged (distinct : ((call.getD []).map Prod.fst).Nodup) (name : String) :
    resolve (merged device call) none name = resolve device call name := by
  have found := get?_merged device distinct name
  unfold resolve
  rw [found]
  cases (call.bind fun fields => Fields.get? fields name).filter isGiven <;> rfl

end Merged

section Occurring

variable {device other : Fields} {call otherCall : Option Fields}

private theorem occurs_iff {template name : String} :
    Occurs template name ↔ ∃ braced, Token.placeholder name braced ∈ tokens template := by
  constructor
  · rintro ⟨tokens, braced, divides, member⟩
    obtain rfl := divides_iff.mp divides
    exact ⟨braced, member⟩
  · rintro ⟨braced, member⟩
    exact ⟨tokens template, braced, divides_iff.mpr rfl, member⟩

private theorem resolve_eq_of_alike {name : String}
    (alike : ∀ value, Resolves device call name value ↔ Resolves other otherCall name value) :
    resolve device call name = resolve other otherCall name := by
  simp only [resolves_iff] at alike
  by_cases missing : resolve device call name = .null
  · -- A value of the second pair would be one of the first, which has none.
    refine missing.trans (Classical.byContradiction fun present => ?_)
    obtain ⟨same, -⟩ := (alike _).mpr ⟨rfl, fun null => present null.symm⟩
    exact present (missing.symm.trans same)
  · exact ((alike _).mp ⟨rfl, missing⟩).1.symm

theorem format_congr {policy : MissingPolicy} {template : String}
    (same : ∀ name, Occurs template name →
      resolve device call name = resolve other otherCall name) :
    format policy template device call = format policy template other otherCall := by
  unfold format
  refine congrArg String.join (List.map_congr_left fun token member => ?_)
  cases token with
  | dollar => rfl
  | char c => rfl
  | placeholder name braced =>
    rw [formatToken, formatToken, same name (occurs_iff.mpr ⟨braced, member⟩)]

end Occurring

/-- A template is filled from two scopes as from the one that they are merged to, and scopes that
give the same values to the names that occur in it give the same text.  So do the URLs of two calls
of a source, whatever else the parameters hold. -/
theorem format_by_merged (policy : MissingPolicy) (template : String) (device : Fields)
    (call : Option Fields) :
    (((call.getD []).map Prod.fst).Nodup →
      format policy template device call = format policy template (merged device call) none) ∧
    (∀ other otherCall, (∀ name, Occurs template name → ∀ value,
        Resolves device call name value ↔ Resolves other otherCall name value) →
      format policy template device call = format policy template other otherCall) ∧
    ∀ (source : Source) other otherCall, (∀ name, Occurs source.template name → ∀ value,
        Resolves source.device call name value ↔ Resolves other otherCall name value) →
      source.url call = { source with device := other }.url otherCall := by
  refine ⟨?_, ?_, ?_⟩
  · intro distinct
    exact format_congr fun name _ => (resolve_merged device distinct name).symm
  · intro other otherCall alike
    exact format_congr fun name occurs => resolve_eq_of_alike (alike name occurs)
  · intro source other otherCall alike
    exact format_congr fun name occurs => resolve_eq_of_alike (alike name occurs)

/-- An empty text and null of the call fall back to the device, but zero does not, and neither does
false; what is left of the scopes is of no account. -/
theorem format_by_merged_falsy :
    let template := "$\x7ba\x7d/$b$$c/$c/$d"
    let device : Fields := [("a", .text "x"), ("b", .bool true), ("c", .null), ("d", .bool true)]
    let call : Option Fields :=
      some [("a", .text ""), ("b", .float (.finite false 0 0)), ("d", .bool false),
        ("e", .text "y")]
    let other : Fields := [("d", .bool false), ("a", .text "x")]
    let otherCall : Option Fields := some [("b", .float (.finite false 0 0)), ("a", .null)]
    let source : Source :=
      ⟨template, ⟨"f", [], none, none⟩, device, Settings.default, none, false, []⟩
    ((call.getD []).map Prod.fst).Nodup ∧
      (∀ name, Occurs template name → ∀ value,
        Resolves device call name value ↔ Resolves other otherCall name value) ∧
      format .keep template device call = format .keep template (merged device call) none ∧
      format .keep template device call = format .keep template other otherCall ∧
      source.url call = { source with device := other }.url otherCall ∧
      source.url call = "x/0$c/$c/false" := by
  intro template device call other otherCall source
  have distinct : ((call.getD []).map Prod.fst).Nodup := by decide
  have alike : ∀ name, Occurs template name → ∀ value,
      Resolves device call name value ↔ Resolves other otherCall name value := by
    intro name occurs value
    obtain ⟨braced, member⟩ := occurs_iff.mp occurs
    have parts : tokens template =
        [.placeholder "a" true, .char '/', .placeholder "b" false, .dollar, .char 'c', .char '/',
          .placeholder "c" false, .char '/', .placeholder "d" false] := by
      decide
    have same : resolve device call name = resolve other otherCall name := by
      simp only [parts, List.mem_cons, Token.placeholder.injEq, reduceCtorEq, List.not_mem_nil,
        false_or, or_false] at member
      rcases member with ⟨rfl, -⟩ | ⟨rfl, -⟩ | ⟨rfl, -⟩ | ⟨rfl, -⟩ <;> rfl
    rw [resolves_iff, resolves_iff, same]
  obtain ⟨joined, only, urls⟩ := format_by_merged .keep template device call
  exact ⟨distinct, alike, joined distinct, only other otherCall alike,
    urls source other otherCall alike, by decide⟩

end TypedRecords.Template
