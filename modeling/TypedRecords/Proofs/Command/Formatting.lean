import TypedRecords.Proofs.Command.Endings
import TypedRecords.Proofs.Settings.Refusals
import TypedRecords.Proofs.Template.Scopes
import TypedRecords.Proofs.Text.Marks
import TypedRecords.Proofs.Value.Repetition

/-!
How the filling of a template from the command line ends.  The template is filled and written, or it
is told what is wrong: with the option for placeholders without a value, or with the configuration
that is asked where the option is not given.  But what loading the configuration refuses without
telling is taken for a wrong option, and so is a text that the output cannot encode; and what stops
the loading otherwise aborts the command.
-/

set_option autoImplicit false

namespace TypedRecords.Command

open TypedRecords.Fields (IsLast)
open TypedRecords.Settings (BeginsWith LoadEscapes LoadRefuses)
open TypedRecords.Text (before_append behind_append eq_before_behind not_mem_before opensWith_cons)
open TypedRecords.Traversal

/-- A parameter that is given: a name, which is not empty and has no equals sign in it, and behind
an equals sign its value. -/
structure Parameter where
  name : String
  value : String
  named : name ≠ ""
  plain : '=' ∉ name.toList

namespace Parameter

def text (parameter : Parameter) : String :=
  parameter.name ++ "=" ++ parameter.value

def pair (parameter : Parameter) : String × Value :=
  (parameter.name, .text parameter.value)

/-- The fields have just the names of the parameters, each with the value that is given last. -/
def HoldLast (parameters : List Parameter) (fields : Fields) : Prop :=
  ∀ name value, Fields.get? fields name = some value ↔ IsLast (parameters.map pair) name value

end Parameter

/-- The option for placeholders without a value is given, and names none of the two policies. -/
def IsWrongOption (missing : Option String) : Prop :=
  ∃ name, missing = some name ∧ name ≠ "keep" ∧ name ≠ "empty"

/-- The policy for placeholders without a value: the one that the option names, and without it that
of the settings. -/
inductive Chooses (around : Surroundings) : Option String → MissingPolicy → Prop
  | given (policy : MissingPolicy) : Chooses around (some policy.name) policy
  | usual {settings : Settings} :
      Settings.load around.files none around.environment = .ok settings →
      Chooses around none settings.missing

/-- The command tells that the option for placeholders without a value is wrong. -/
def BlamesOption (outcome : Outcome) : Prop :=
  ∃ given, outcome = .failed ("--missing must be 'keep' or 'empty', got " ++ given)

/-- The template is filled to a text with the last value that is given for each name, where the
values of the call go before those of the device. -/
def FillsTo (around : Surroundings) (template : String) (call device : List Parameter)
    (missing : Option String) (text : String) : Prop :=
  ∃ policy deviceFields callFields, Chooses around missing policy ∧
    Parameter.HoldLast device deviceFields ∧ Parameter.HoldLast call callFields ∧
    text = Template.format policy template deviceFields (some callFields)

/-- The command writes the text of the filled template as a line. -/
def PrintsFilled (around : Surroundings) (template : String) (call device : List Parameter)
    (missing : Option String) (outcome : Outcome) : Prop :=
  ∃ text, FillsTo around template call device missing text ∧
    outcome = .done (around.output.shown text ++ "\n") ∧ outcome.status = 0

def LosesFilled (around : Surroundings) (template : String) (call device : List Parameter)
    (missing : Option String) : Prop :=
  ∃ text, FillsTo around template call device missing text ∧ around.output.Loses text

def TellsConfiguration (around : Surroundings) (outcome : Outcome) : Prop :=
  ∃ failure, Settings.load around.files none around.environment = .error failure ∧
    failure.isWrongSetting = true ∧ outcome = .failed failure.message ∧ outcome.status = 1

/-- The option is blamed only when it is wrong.  Else the template is filled and written, or, where
the option is not given, it is told what is wrong with the configuration; and nothing aborts. -/
structure BlamesFairly (around : Surroundings) (template : String) (call device : List Parameter)
    (missing : Option String) (outcome : Outcome) : Prop where
  blames_iff : BlamesOption outcome ↔ IsWrongOption missing
  otherwise : ¬ IsWrongOption missing →
    PrintsFilled around template call device missing outcome ∨
      missing = none ∧ TellsConfiguration around outcome
  caught : ∀ cause, outcome ≠ .aborted cause

section Parameters

@[simp] private theorem Parameter.toList_text (parameter : Parameter) :
    parameter.text.toList = parameter.name.toList ++ '=' :: parameter.value.toList := by
  simp [Parameter.text]

private theorem pair?_eq_some_iff {text name value : String} :
    pair? text = some (name, value) ↔
      ∃ parameter : Parameter, text = parameter.text ∧ name = parameter.name ∧
        value = parameter.value := by
  unfold pair?
  dsimp only
  constructor
  · intro read
    split at read
    · rename_i parts
      obtain ⟨contains, present⟩ := parts
      obtain ⟨rfl, rfl⟩ := Prod.mk.inj (Option.some.inj read)
      have member : '=' ∈ text.toList := by simpa using contains
      have named : String.ofList (Text.before '=' text.toList) ≠ "" := by
        rw [ne_eq, String.ofList_eq_empty_iff]
        simpa using present
      have plain : '=' ∉ (String.ofList (Text.before '=' text.toList)).toList := by
        rw [String.toList_ofList]
        exact not_mem_before '=' text.toList
      refine ⟨⟨_, String.ofList (Text.behind '=' text.toList), named, plain⟩, ?_, rfl, rfl⟩
      rw [← String.toList_inj, Parameter.toList_text, String.toList_ofList,
        String.toList_ofList, ← eq_before_behind member]
    · cases read
  · rintro ⟨parameter, rfl, rfl, rfl⟩
    have opens := opensWith_cons '=' parameter.value.toList
    have front := before_append parameter.plain opens
    have back := behind_append parameter.plain opens
    have present : parameter.name.toList.isEmpty = false := by simpa using parameter.named
    simp [front, back, present]

private theorem readPair_ok_iff {option text : String} {pair : String × Value} :
    readPair option text = .ok pair ↔
      ∃ parameter : Parameter, text = parameter.text ∧ pair = parameter.pair := by
  unfold readPair
  cases read : pair? text with
  | none =>
    simp only [reduceCtorEq, false_iff]
    rintro ⟨parameter, written, -⟩
    have found := pair?_eq_some_iff.mpr ⟨parameter, written, rfl, rfl⟩
    cases read.symm.trans found
  | some parts =>
    obtain ⟨name, value⟩ := parts
    constructor
    · intro same
      obtain ⟨parameter, written, rfl, rfl⟩ := pair?_eq_some_iff.mp read
      exact ⟨parameter, written, (Except.ok.inj same).symm⟩
    · rintro ⟨parameter, written, rfl⟩
      have found := pair?_eq_some_iff.mpr ⟨parameter, written, rfl, rfl⟩
      cases read.symm.trans found
      rfl

private theorem readPairs_eq (option : String) (parameters : List Parameter) :
    readPairs option (parameters.map Parameter.text) =
      .ok (Fields.ofPairs (parameters.map Parameter.pair)) := by
  have read : (parameters.map Parameter.text).mapM (readPair option) =
      .ok (parameters.map Parameter.pair) := by
    rw [mapM_ok_iff, List.forall₂_map_left_iff, List.forall₂_map_right_iff, List.forall₂_same]
    exact fun parameter _ => readPair_ok_iff.mpr ⟨parameter, rfl, rfl⟩
  rw [readPairs, read]
  rfl

private theorem holdLast_ofPairs (parameters : List Parameter) :
    Parameter.HoldLast parameters (Fields.ofPairs (parameters.map Parameter.pair)) :=
  fun _ _ => Fields.get?_ofPairs_eq_some_iff

end Parameters

section Policy

inductive Stops (around : Surroundings) : Option String → Outcome → Prop
  | option {name : String} : IsWrongOption (some name) →
      Stops around (some name) (wrongPolicy (some name))
  | told {failure : Settings.Failure} :
      Settings.load around.files none around.environment = .error failure →
      failure.isWrongSetting = true → Stops around none (.failed failure.message)
  | refused : LoadRefuses around.files none around.environment →
      Stops around none (wrongPolicy none)
  | escaped {failure : Settings.Failure} :
      Settings.load around.files none around.environment = .error failure →
      LoadEscapes around.files none around.environment →
      Stops around none (.aborted (.settings failure))

variable {around : Surroundings} {missing : Option String}

private theorem isWrongOption_some_iff {name : String} :
    IsWrongOption (some name) ↔ ∀ policy : MissingPolicy, name ≠ policy.name := by
  constructor
  · rintro ⟨_, same, notKeep, notEmpty⟩ policy
    obtain rfl := Option.some.inj same
    cases policy with
    | keep => exact notKeep
    | empty => exact notEmpty
  · intro unknown
    exact ⟨name, rfl, unknown .keep, unknown .empty⟩

@[simp] private theorem not_isWrongOption_none : ¬ IsWrongOption none := by
  rintro ⟨name, same, -⟩
  cases same

private theorem choosePolicy_named (policy : MissingPolicy) :
    choosePolicy around (some policy.name) = .ok policy := by
  simp only [choosePolicy, Settings.ofName?_eq_some_iff.mpr rfl]

private theorem choosePolicy_unknown {name : String}
    (unknown : ∀ policy : MissingPolicy, name ≠ policy.name) :
    choosePolicy around (some name) = .error (wrongPolicy (some name)) := by
  have none : MissingPolicy.ofName? name = none := by
    refine Option.eq_none_iff_forall_ne_some.mpr fun policy found => ?_
    exact unknown policy (Settings.ofName?_eq_some_iff.mp found)
  simp only [choosePolicy, none]

private theorem choosePolicy_loaded {settings : Settings}
    (loaded : Settings.load around.files none around.environment = .ok settings) :
    choosePolicy around none = .ok settings.missing := by
  simp only [choosePolicy, loaded]

private theorem choosePolicy_failed {failure : Settings.Failure}
    (failed : Settings.load around.files none around.environment = .error failure) :
    choosePolicy around none =
      if failure.isWrongSetting then .error (.failed failure.message)
      else if failure.isRefusal then .error (wrongPolicy none)
      else .error (.aborted (.settings failure)) := by
  simp only [choosePolicy, failed]

private theorem choosePolicy_cases (around : Surroundings) (missing : Option String) :
    (∃ policy, choosePolicy around missing = .ok policy ∧ Chooses around missing policy) ∨
      ∃ outcome, choosePolicy around missing = .error outcome ∧ Stops around missing outcome := by
  cases missing with
  | some name =>
    by_cases wrong : IsWrongOption (some name)
    · exact Or.inr ⟨_, choosePolicy_unknown (isWrongOption_some_iff.mp wrong), .option wrong⟩
    · rw [isWrongOption_some_iff, not_forall_not] at wrong
      obtain ⟨policy, rfl⟩ := wrong
      exact Or.inl ⟨policy, choosePolicy_named policy, .given policy⟩
  | none =>
    cases outcome : Settings.load around.files none around.environment with
    | ok settings => exact Or.inl ⟨_, choosePolicy_loaded outcome, .usual outcome⟩
    | error failure =>
      -- What is not told as wrong falls apart by `isRefusal`: taken for a wrong option, or not
      -- caught at all.
      rw [choosePolicy_failed outcome]
      refine Or.inr ?_
      cases told : failure.isWrongSetting with
      | true => exact ⟨_, if_pos rfl, .told outcome told⟩
      | false =>
        cases refusal : failure.isRefusal with
        | true =>
          have refuses := Settings.load_refuses_iff.mp ⟨failure, outcome, refusal⟩
          exact ⟨_, rfl, .refused refuses⟩
        | false =>
          have escapes := Settings.load_escapes_iff.mp ⟨failure, outcome, told, refusal⟩
          exact ⟨_, rfl, .escaped outcome escapes⟩

private theorem Chooses.not_isWrongOption {policy : MissingPolicy}
    (chooses : Chooses around missing policy) : ¬ IsWrongOption missing := by
  cases chooses with
  | given policy => exact fun wrong => isWrongOption_some_iff.mp wrong policy rfl
  | usual loaded => exact not_isWrongOption_none

private theorem Chooses.not_breaks {policy : MissingPolicy}
    (chooses : Chooses around missing policy) :
    ¬ (missing = none ∧ (LoadRefuses around.files none around.environment ∨
      LoadEscapes around.files none around.environment)) := by
  rintro ⟨absent, broken⟩
  cases chooses with
  | given policy => cases absent
  | usual loaded =>
    rw [← Settings.load_refuses_iff, ← Settings.load_escapes_iff, loaded] at broken
    rcases broken with ⟨failure, failed, -⟩ | ⟨failure, failed, -⟩ <;> cases failed

private theorem Stops.not_chooses {outcome : Outcome} (stops : Stops around missing outcome)
    (policy : MissingPolicy) : ¬ Chooses around missing policy := by
  intro chooses
  cases stops with
  | option wrong => exact chooses.not_isWrongOption wrong
  | told failed told =>
    cases chooses with
    | usual loaded => cases loaded.symm.trans failed
  | refused refuses => exact chooses.not_breaks ⟨rfl, Or.inl refuses⟩
  | escaped failed escapes => exact chooses.not_breaks ⟨rfl, Or.inr escapes⟩

theorem Chooses.unique {policy other : MissingPolicy} (chooses : Chooses around missing policy)
    (again : Chooses around missing other) : policy = other := by
  cases chooses with
  | given policy =>
    generalize named : some policy.name = given at again
    cases again with
    | given other =>
      have same : MissingPolicy.ofName? other.name = some policy :=
        Settings.ofName?_eq_some_iff.mpr (Option.some.inj named).symm
      exact Option.some.inj (same.symm.trans (Settings.ofName?_eq_some_iff.mpr rfl))
    | usual loaded => cases named
  | usual loaded =>
    cases again with
    | usual other => rw [Except.ok.inj (loaded.symm.trans other)]

end Policy

section Filling

variable {around : Surroundings} {template text other : String} {call device : List Parameter}
  {missing : Option String}

private theorem Parameter.HoldLast.get?_eq {parameters : List Parameter} {fields others : Fields}
    (hold : Parameter.HoldLast parameters fields) (again : Parameter.HoldLast parameters others)
    (name : String) : Fields.get? fields name = Fields.get? others name :=
  Option.ext fun value => (hold name value).trans (again name value).symm

theorem FillsTo.unique (fills : FillsTo around template call device missing text)
    (again : FillsTo around template call device missing other) : text = other := by
  obtain ⟨policy, deviceFields, callFields, chooses, ofDevice, ofCall, rfl⟩ := fills
  obtain ⟨_, _, _, choosesAgain, deviceAgain, callAgain, rfl⟩ := again
  obtain rfl := chooses.unique choosesAgain
  refine Template.format_congr fun name _ => ?_
  simp only [Template.resolve, Option.bind_some, ofDevice.get?_eq deviceAgain,
    ofCall.get?_eq callAgain]

private theorem FillsTo.losesFilled_iff (fills : FillsTo around template call device missing text) :
    LosesFilled around template call device missing ↔ around.output.Loses text := by
  constructor
  · rintro ⟨other, again, lost⟩
    rwa [fills.unique again]
  · exact fun lost => ⟨text, fills, lost⟩

private theorem Stops.not_losesFilled {outcome : Outcome} (stops : Stops around missing outcome) :
    ¬ LosesFilled around template call device missing := by
  rintro ⟨text, ⟨policy, deviceFields, callFields, chooses, -⟩, -⟩
  exact stops.not_chooses policy chooses

end Filling

section Endings

variable {around : Surroundings} {template : String} {call device : List Parameter}
  {missing : Option String} {outcome : Outcome}

private theorem not_blamesOption_of_told {failure : Settings.Failure}
    (failed : Settings.load around.files none around.environment = .error failure)
    (told : failure.isWrongSetting = true) : ¬ BlamesOption (.failed failure.message) := by
  rintro ⟨given, same⟩
  -- The first character tells the two messages apart: only that of the option begins with a dash.
  obtain ⟨c, begins, other⟩ := Settings.load_message_begins failed told
  rw [Outcome.failed.inj same] at begins
  have dash : BeginsWith ("--missing must be 'keep' or 'empty', got " ++ given) '-' :=
    .append (by decide) given
  exact other (Option.some.inj (begins.symm.trans dash))

private theorem Stops.blamesOption_iff (stops : Stops around missing outcome) :
    BlamesOption outcome ↔
      IsWrongOption missing ∨ missing = none ∧
        LoadRefuses around.files none around.environment := by
  cases stops with
  | option wrong => exact iff_of_true ⟨_, rfl⟩ (Or.inl wrong)
  | told failed told =>
    refine iff_of_false (not_blamesOption_of_told failed told) ?_
    rintro (wrong | ⟨-, refuses⟩)
    · exact not_isWrongOption_none wrong
    · exact (Settings.not_breaks_of_told failed told).1 refuses
  | refused refuses => exact iff_of_true ⟨_, rfl⟩ (Or.inr ⟨rfl, refuses⟩)
  | escaped failed escapes =>
    refine iff_of_false ?_ ?_
    · rintro ⟨given, same⟩
      cases same
    · rintro (wrong | ⟨-, refuses⟩)
      · exact not_isWrongOption_none wrong
      · exact Settings.not_escapes_of_refuses refuses escapes

theorem Stops.aborted_iff (stops : Stops around missing outcome) :
    (∃ cause, outcome = .aborted cause) ↔
      missing = none ∧ LoadEscapes around.files none around.environment := by
  cases stops with
  | option wrong => simp [wrongPolicy]
  | told failed told => simp [(Settings.not_breaks_of_told failed told).2]
  | refused refuses => simp [wrongPolicy, Settings.not_escapes_of_refuses refuses]
  | escaped failed escapes => exact iff_of_true ⟨_, rfl⟩ ⟨rfl, escapes⟩

private theorem Stops.blamesFairly_iff (stops : Stops around missing outcome) :
    BlamesFairly around template call device missing outcome ↔
      ¬ (missing = none ∧ (LoadRefuses around.files none around.environment ∨
        LoadEscapes around.files none around.environment)) := by
  cases stops with
  | option wrong =>
    refine iff_of_true ⟨iff_of_true ⟨_, rfl⟩ wrong, fun right => absurd wrong right, ?_⟩ ?_
    · exact fun cause same => by cases same
    · rintro ⟨absent, -⟩
      cases absent
  | told failed told =>
    obtain ⟨unrefused, escapesNot⟩ := Settings.not_breaks_of_told failed told
    refine iff_of_true ⟨?_, fun _ => Or.inr ⟨rfl, _, failed, told, rfl, rfl⟩, ?_⟩ ?_
    · exact iff_of_false (not_blamesOption_of_told failed told) not_isWrongOption_none
    · exact fun cause same => by cases same
    · rintro ⟨-, refuses | escapes⟩
      · exact unrefused refuses
      · exact escapesNot escapes
  | refused refuses =>
    refine iff_of_false (fun fair => ?_) fun whole => whole ⟨rfl, Or.inl refuses⟩
    exact not_isWrongOption_none (fair.blames_iff.mp ⟨_, rfl⟩)
  | escaped failed escapes =>
    exact iff_of_false (fun fair => fair.caught _ rfl) fun whole => whole ⟨rfl, Or.inr escapes⟩

private theorem run_format_eq (around : Surroundings) (template : String)
    (call device : List Parameter) (missing : Option String) :
    run around (.format template (call.map Parameter.text) (device.map Parameter.text) missing) =
      match choosePolicy around missing with
      | .ok policy =>
        match around.output.line? (Template.format policy template
            (Fields.ofPairs (device.map Parameter.pair))
            (some (Fields.ofPairs (call.map Parameter.pair)))) with
        | some line => .done line
        | none => wrongPolicy missing
      | .error outcome => outcome := by
  change runFormat around template _ _ missing = _
  rw [runFormat, readPairs_eq, readPairs_eq]
  cases choosePolicy around missing <;> rfl

private theorem run_format_failed (template : String) (call device : List Parameter)
    {failure : Settings.Failure} (fails : Settings.ManifestFails around.files none failure) :
    run around (.format template (call.map Parameter.text) (device.map Parameter.text) none) =
      if failure.isWrongSetting then .failed failure.message
      else if failure.isRefusal then wrongPolicy none
      else .aborted (.settings failure) := by
  rw [run_format_eq, choosePolicy_failed (Settings.load_fails_iff.mpr (Or.inl fails))]
  cases failure.isWrongSetting <;> cases failure.isRefusal <;> rfl

/-- The command fills the template, and writes it or blames the option where the output cannot
encode it; or it stops where no policy is chosen. -/
theorem run_format_cases (around : Surroundings) (template : String) (call device : List Parameter)
    (missing : Option String) :
    let outcome := run around
      (.format template (call.map Parameter.text) (device.map Parameter.text) missing)
    (∃ policy, Chooses around missing policy) ∧
        (¬ LosesFilled around template call device missing ∧
            PrintsFilled around template call device missing outcome ∨
          LosesFilled around template call device missing ∧ outcome = wrongPolicy missing) ∨
      Stops around missing outcome := by
  intro outcome
  have ended : outcome = _ := run_format_eq around template call device missing
  rcases choosePolicy_cases around missing with ⟨policy, chosen, chooses⟩ | ⟨_, stopped, stops⟩
  · simp only [chosen] at ended
    have fills : FillsTo around template call device missing _ :=
      ⟨policy, _, _, chooses, holdLast_ofPairs device, holdLast_ofPairs call, rfl⟩
    refine Or.inl ⟨⟨policy, chooses⟩, ?_⟩
    by_cases lost : around.output.Loses (Template.format policy template
        (Fields.ofPairs (device.map Parameter.pair))
        (some (Fields.ofPairs (call.map Parameter.pair))))
    · rw [line?_eq_none_iff.mpr lost] at ended
      exact Or.inr ⟨fills.losesFilled_iff.mpr lost, ended⟩
    · rw [line?_of_not_loses lost] at ended
      refine Or.inl ⟨fun loses => lost (fills.losesFilled_iff.mp loses), _, fills, ended, ?_⟩
      rw [ended]
      rfl
  · rw [ended, stopped]
    exact Or.inr stops

private theorem PrintsFilled.blamesFairly
    (prints : PrintsFilled around template call device missing outcome)
    (right : ¬ IsWrongOption missing) :
    BlamesFairly around template call device missing outcome := by
  obtain ⟨text, -, rfl, -⟩ := id prints
  have blameless : ¬ BlamesOption (.done (around.output.shown text ++ "\n")) := by
    rintro ⟨given, same⟩
    cases same
  exact ⟨iff_of_false blameless right, fun _ => Or.inl prints, fun cause same => by cases same⟩

/-- The last value of a name counts, behind the first equals sign, and one of the call before those
of the device. -/
example : (run (withFiles []) (.format "$\x7buser\x7d/$\x7bfeed\x7d" ["user=eve", "user=a=b"]
    ["user=amy", "feed=hot"] (some "keep"))).output = "a=b/hot\n" := by
  decide +kernel

/-- Filling a template from the command line blames the option for placeholders without a value only
when it is wrong, and else writes the template or tells what is wrong with the configuration, unless
the output cannot encode the filled template, or the configuration is asked and loading it comes to
something that is refused without being told as wrong, or to a manifest that is not read or an
infinite size of the store.  In the last two of these cases the command is aborted, and in the
others the option is blamed although it is right or not given. -/
theorem format_blames (around : Surroundings) (template : String) (call device : List Parameter)
    (missing : Option String) :
    let outcome := run around
      (.format template (call.map Parameter.text) (device.map Parameter.text) missing)
    (BlamesFairly around template call device missing outcome ↔
      ¬ (missing = none ∧ (LoadRefuses around.files none around.environment ∨
        LoadEscapes around.files none around.environment)) ∧
      ¬ LosesFilled around template call device missing) ∧
    (BlamesOption outcome ↔
      IsWrongOption missing ∨
        (missing = none ∧ LoadRefuses around.files none around.environment) ∨
        LosesFilled around template call device missing) ∧
    ((∃ cause, outcome = .aborted cause) ↔
      missing = none ∧ LoadEscapes around.files none around.environment) := by
  intro outcome
  rcases run_format_cases around template call device missing with
    ⟨⟨policy, chooses⟩, ⟨kept, prints⟩ | ⟨lost, blames⟩⟩ | stops
  · have right := chooses.not_isWrongOption
    have whole := chooses.not_breaks
    have fair := prints.blamesFairly right
    refine ⟨iff_of_true fair ⟨whole, kept⟩, ?_, ?_⟩
    · refine fair.blames_iff.trans (iff_of_false right ?_)
      rintro (wrong | ⟨absent, refuses⟩ | lost)
      · exact right wrong
      · exact whole ⟨absent, Or.inl refuses⟩
      · exact kept lost
    · exact iff_of_false (fun ⟨cause, same⟩ => fair.caught cause same)
        fun ⟨absent, escapes⟩ => whole ⟨absent, Or.inr escapes⟩
  · have blamed : BlamesOption outcome := ⟨_, blames⟩
    refine ⟨iff_of_false (fun fair => ?_) fun ⟨_, kept⟩ => kept lost,
      iff_of_true blamed (Or.inr (Or.inr lost)), iff_of_false ?_ ?_⟩
    · exact chooses.not_isWrongOption (fair.blames_iff.mp blamed)
    · rintro ⟨cause, aborted⟩
      cases blames.symm.trans aborted
    · exact fun ⟨absent, escapes⟩ => chooses.not_breaks ⟨absent, Or.inr escapes⟩
  · have kept : ¬ LosesFilled around template call device missing := stops.not_losesFilled
    refine ⟨?_, ?_, stops.aborted_iff⟩
    · exact stops.blamesFairly_iff.trans (and_iff_left kept).symm
    · simpa only [kept, or_false] using stops.blamesOption_iff

/-- With a manifest of a byte that is no text the option is blamed although it is not given, and
with a folder in place of the manifest the command is aborted.  With an output of 256 characters a
sign beyond them has a right option blamed. -/
theorem format_blames_absent_option :
    let around := withFiles [(Settings.manifestName, .file [0xff])]
    let other := withFiles [(Settings.manifestName, .folder)]
    let narrow : Surroundings :=
      { withFiles [] with output := ⟨fun code => decide (code < 256), false⟩ }
    ofArgs ["format", "x"] = .ok (.format "x" [] [] none) ∧
      run around (.format "x" [] [] none) =
        .failed "--missing must be 'keep' or 'empty', got None" ∧
      ¬ BlamesFairly around "x" [] [] none (run around (.format "x" [] [] none)) ∧
      (∃ cause, run other (.format "x" [] [] none) = .aborted cause) ∧
      ¬ BlamesFairly other "x" [] [] none (run other (.format "x" [] [] none)) ∧
      run narrow (.format "€" [] [] (some "keep")) =
        .failed "--missing must be 'keep' or 'empty', got 'keep'" ∧
      ¬ BlamesFairly narrow "€" [] [] (some "keep")
        (run narrow (.format "€" [] [] (some "keep"))) := by
  intro around other narrow
  have found : around.files.find (Settings.manifestPath none) = .ok (.file [0xff]) := by
    decide +kernel
  have decoded : Text.Utf8.decode [0xff] = .error ⟨"utf-8", .invalidStart, 0, 1, 0xff⟩ := by
    decide +kernel
  have folder : other.files.find (Settings.manifestPath none) = .ok .folder := by decide +kernel
  have blames : run around (.format "x" [] [] none) = wrongPolicy none :=
    run_format_failed "x" [] [] (.encoding found decoded)
  have wording : wrongPolicy none = .failed "--missing must be 'keep' or 'empty', got None" :=
    congrArg Outcome.failed (by decide)
  obtain ⟨cause, aborts⟩ : ∃ cause, run other (.format "x" [] [] none) = .aborted cause :=
    ⟨_, run_format_failed "x" [] [] (.folder folder)⟩
  have filled : Template.format .keep "€" [] (some []) = "€" := by decide +kernel
  have lost : narrow.output.line? "€" = none := by decide +kernel
  have narrowly : run narrow (.format "€" [] [] (some "keep")) = wrongPolicy (some "keep") := by
    refine (run_format_eq narrow "€" [] [] (some MissingPolicy.keep.name)).trans ?_
    rw [choosePolicy_named]
    change (match narrow.output.line? (Template.format .keep "€" [] (some [])) with
      | some line => Outcome.done line
      | none => wrongPolicy (some "keep")) = _
    rw [filled, lost]
  have narrowWording :
      wrongPolicy (some "keep") = .failed "--missing must be 'keep' or 'empty', got 'keep'" :=
    congrArg Outcome.failed (by decide +kernel)
  refine ⟨by decide, blames.trans wording, fun fair => ?_, ⟨cause, aborts⟩, fun fair => ?_,
    narrowly.trans narrowWording, fun fair => ?_⟩
  · exact not_isWrongOption_none (fair.blames_iff.mp ⟨_, blames⟩)
  · exact fair.caught cause aborts
  · exact isWrongOption_some_iff.mp (fair.blames_iff.mp ⟨_, narrowly⟩) .keep rfl

end Endings

end TypedRecords.Command
