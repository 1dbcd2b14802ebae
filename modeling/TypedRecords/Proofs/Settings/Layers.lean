import Mathlib.Data.List.Permutation
import TypedRecords.Files.Tree
import TypedRecords.Proofs.Settings.Field
import TypedRecords.Proofs.Value.Fields

/-!
Settings from two layers, a manifest and over it the environment.  Each field is settled by the
upper layer if it is there, else by the lower one, else it is as usual; and the first value that is
refused, in the order in which both layers are read, decides how loading fails.
-/

set_option autoImplicit false

namespace TypedRecords.Settings

open TypedRecords.Traversal

inductive Layer where
  | manifest
  | environment
  deriving DecidableEq

def Layer.names : Layer → Names
  | .manifest => manifestNames
  | .environment => environmentNames

/-- The places at which a value may stand, in the order in which they are read. -/
def places : List (Layer × Field) :=
  [.manifest, .environment].flatMap fun layer => Field.all.map fun field => (layer, field)

structure Layers where
  manifest : Fields
  environment : Fields

namespace Layers

def fields (layers : Layers) : Layer → Fields
  | .manifest => layers.manifest
  | .environment => layers.environment

def value? (layers : Layers) (place : Layer × Field) : Option Value :=
  Fields.get? (layers.fields place.1) (place.2.name place.1.names)

/-- What a field comes to: the meaning of its value in the environment, else of that in the
manifest, else what it is by default. -/
inductive Settles (layers : Layers) (field : Field) : field.Setting → Prop
  | environment {value : Value} {result : field.Setting} :
      layers.value? (.environment, field) = some value → Means field value result →
      Settles layers field result
  | manifest {value : Value} {result : field.Setting} :
      layers.value? (.environment, field) = none →
      layers.value? (.manifest, field) = some value → Means field value result →
      Settles layers field result
  | default : layers.value? (.environment, field) = none →
      layers.value? (.manifest, field) = none →
      Settles layers field (Settings.default.get field)

def Admits (layers : Layers) (place : Layer × Field) : Prop :=
  ∀ value, layers.value? place = some value → ∃ result, Means place.2 value result

def RefusesAt (layers : Layers) (place : Layer × Field) (failure : FieldFailure) : Prop :=
  ∃ value, layers.value? place = some value ∧ Refuses place.1.names place.2 value failure

def FirstRefuses (layers : Layers) (failure : FieldFailure) : Prop :=
  ∃ before place after, places = before ++ place :: after ∧
    (∀ earlier ∈ before, layers.Admits earlier) ∧ layers.RefusesAt place failure

def check (layers : Layers) (place : Layer × Field) : Except FieldFailure Unit :=
  match layers.value? place with
  | none => .ok ()
  | some value => (place.2.read place.1.names value).map fun _ => ()

end Layers

/-- The settings that stand in the manifest: none where no manifest is named and the usual one is
not there, or where the manifest has no table for them. -/
inductive Given (files : Files) (path : Option String) : Fields → Prop
  | absent {obstacle : Files.Obstacle} : path = none →
      files.find manifestName = .error obstacle → obstacle ≠ .longName → Given files path []
  | without {text : String} {document : Fields} : files.text (manifestPath path) = .ok text →
      Toml.read text = .ok document → Fields.get? document tableName = none →
      Given files path []
  | table {text : String} {document fields : Fields} :
      files.text (manifestPath path) = .ok text → Toml.read text = .ok document →
      Fields.get? document tableName = some (.object fields) → Given files path fields

section Check

variable {layers : Layers} {place : Layer × Field}

theorem check_ok_iff : (∃ done, layers.check place = .ok done) ↔ layers.Admits place := by
  unfold Layers.check Layers.Admits
  cases layers.value? place with
  | none => simp
  | some value => simp [readField_ok_iff]

private theorem check_error_iff {failure : FieldFailure} :
    layers.check place = .error failure ↔ layers.RefusesAt place failure := by
  unfold Layers.check Layers.RefusesAt
  cases layers.value? place with
  | none => simp
  | some value => simp [readField_error_iff]

private theorem firstFails_check_iff {failure : FieldFailure} :
    FirstFails layers.check places failure ↔ layers.FirstRefuses failure := by
  simp only [FirstFails, Layers.FirstRefuses, check_ok_iff, check_error_iff]

private theorem allSucceed_check_iff :
    AllSucceed layers.check places ↔ ∀ place ∈ places, layers.Admits place := by
  simp only [AllSucceed, check_ok_iff]

end Check

section Overlay

variable {names : Names} {fields : Fields} {settings result : Settings}

private theorem overlay_eq_ok_iff {α : Type} {name : String} {current outcome : α}
    {read : Value → Except FieldFailure α} :
    overlay fields name current read = .ok outcome ↔
      Fields.get? fields name = none ∧ outcome = current ∨
        ∃ value, Fields.get? fields name = some value ∧ read value = .ok outcome := by
  unfold overlay
  cases Fields.get? fields name <;> simp [eq_comm]

private theorem overlay_error_iff {α : Type} {name : String} {current : α}
    {read : Value → Except FieldFailure α} {failure : FieldFailure} :
    overlay fields name current read = .error failure ↔
      ∃ value, Fields.get? fields name = some value ∧ read value = .error failure := by
  unfold overlay
  cases Fields.get? fields name <;> simp

theorem apply_ok_iff :
    apply names fields settings = .ok result ↔
      ∀ field : Field, overlay fields (field.name names) (settings.get field) (field.read names) =
        .ok (result.get field) := by
  constructor
  · intro made
    obtain ⟨currency, first, made⟩ := bind_ok_iff.mp made
    obtain ⟨strict, second, made⟩ := bind_ok_iff.mp made
    obtain ⟨cacheSize, third, made⟩ := bind_ok_iff.mp made
    obtain ⟨missing, fourth, made⟩ := bind_ok_iff.mp made
    obtain rfl := Except.ok.inj made
    intro field
    cases field with
    | currency => exact first
    | strict => exact second
    | cacheSize => exact third
    | missing => exact fourth
  · intro laid
    refine bind_ok_iff.mpr ⟨_, laid .currency, bind_ok_iff.mpr ⟨_, laid .strict, ?_⟩⟩
    exact bind_ok_iff.mpr ⟨_, laid .cacheSize, bind_ok_iff.mpr ⟨_, laid .missing, rfl⟩⟩

end Overlay

section Manifest

variable {files : Files} {path : Option String} {fields : Fields}

private theorem find_of_text {name text : String} (held : files.text name = .ok text) :
    ∃ entry, files.find name = .ok entry := by
  cases found : files.find name with
  | ok entry => exact ⟨entry, rfl⟩
  | error obstacle =>
    rw [Files.text_of_error found] at held
    cases held

theorem manifestFields_of_text {text : String} (held : files.text (manifestPath path) = .ok text) :
    manifestFields files path = parseManifest (Files.normal (manifestPath path)) text := by
  obtain ⟨entry, found⟩ := find_of_text held
  rw [manifestFields_of_found found, readManifest, held]

theorem manifestFields_of_long (blocked : files.find (manifestPath path) = .error .longName) :
    manifestFields files path =
      .error (.unreadable (.unreachable .longName (Files.normal (manifestPath path)))) := by
  unfold manifestPath at blocked
  simp only [manifestFields, blocked, manifestPath]

theorem manifestFields_of_missing {obstacle : Files.Obstacle} (short : obstacle ≠ .longName)
    (blocked : files.find (manifestPath path) = .error obstacle) :
    manifestFields files path =
      if path.isSome then .error (.noManifest (Files.normal (manifestPath path))) else .ok [] := by
  unfold manifestPath at blocked
  simp only [manifestFields, blocked, manifestPath]

private theorem table_ok_iff {name : String} {document : Fields} :
    table name document = .ok fields ↔
      Fields.get? document tableName = none ∧ fields = [] ∨
        Fields.get? document tableName = some (.object fields) := by
  unfold table
  split
  · rename_i missing
    simp [missing, eq_comm]
  · rename_i found
    simp [found, eq_comm]
  · rename_i other found
    simp only [found, reduceCtorEq, false_and, false_or, Option.some.injEq, false_iff]
    exact other fields

private theorem parseManifest_ok_iff {name text : String} :
    parseManifest name text = .ok fields ↔
      ∃ document, Toml.read text = .ok document ∧ table name document = .ok fields := by
  unfold parseManifest
  split <;> simp_all

theorem manifestFields_ok_iff :
    manifestFields files path = .ok fields ↔ Given files path fields := by
  constructor
  · intro made
    cases found : files.find (manifestPath path) with
    | ok entry =>
      rw [manifestFields_of_found found, readManifest] at made
      split at made
      · cases made
      · rename_i text held
        obtain ⟨document, read, tabled⟩ := parseManifest_ok_iff.mp made
        rcases table_ok_iff.mp tabled with ⟨missing, rfl⟩ | there
        · exact .without held read missing
        · exact .table held read there
    | error obstacle =>
      by_cases short : obstacle = .longName
      · subst short
        rw [manifestFields_of_long found] at made
        cases made
      · rw [manifestFields_of_missing short found] at made
        cases path with
        | none => exact Except.ok.inj made ▸ .absent rfl found short
        | some name => cases made
  · rintro (⟨unnamed, blocked, short⟩ | ⟨held, read, missing⟩ | ⟨held, read, there⟩)
    · subst unnamed
      exact manifestFields_of_missing short blocked
    · rw [manifestFields_of_text held]
      exact parseManifest_ok_iff.mpr ⟨_, read, table_ok_iff.mpr (Or.inl ⟨missing, rfl⟩)⟩
    · rw [manifestFields_of_text held]
      exact parseManifest_ok_iff.mpr ⟨_, read, table_ok_iff.mpr (Or.inr there)⟩

end Manifest

section Order

variable {layers : Layers} {layer : Layer} {failure : FieldFailure}

private theorem overlay_succeeds_iff (settings : Settings) (field : Field) :
    (∃ result, overlay (layers.fields layer) (field.name layer.names) (settings.get field)
      (field.read layer.names) = .ok result) ↔ ∃ done, layers.check (layer, field) = .ok done := by
  rw [overlay_ok_iff, check_ok_iff]
  simp only [Passes, Layers.Admits, Layers.value?, readField_ok_iff]

private theorem overlay_fails_iff (settings : Settings) (field : Field) :
    overlay (layers.fields layer) (field.name layer.names) (settings.get field)
      (field.read layer.names) = .error failure ↔ layers.check (layer, field) = .error failure := by
  rw [overlay_error_iff, check_error_iff]
  simp only [Layers.RefusesAt, Layers.value?, readField_error_iff]

private theorem bind_fails_iff {α β : Type} {first : Except FieldFailure α}
    {next : α → Except FieldFailure β} {holds : Prop}
    (second : ∀ result, first = .ok result → (next result = .error failure ↔ holds)) :
    first.bind next = .error failure ↔
      first = .error failure ∨ (∃ result, first = .ok result) ∧ holds := by
  cases first with
  | error cause => simp [Except.bind]
  | ok result => simp [Except.bind, second result rfl]

private theorem apply_error_iff (settings : Settings) :
    apply layer.names (layers.fields layer) settings = .error failure ↔
      FirstFails layers.check (Field.all.map fun field => (layer, field)) failure := by
  have inOrder : apply layer.names (layers.fields layer) settings = .error failure ↔ _ :=
    bind_fails_iff fun _ _ => bind_fails_iff fun _ _ => bind_fails_iff fun _ _ =>
      bind_fails_iff fun _ _ => iff_of_false (b := False) nofun not_false
  rw [inOrder]
  simp only [Field.all, List.map_cons, List.map_nil, firstFails_cons, firstFails_nil]
  refine or_congr (overlay_fails_iff _ .currency) (and_congr (overlay_succeeds_iff _ .currency) ?_)
  refine or_congr (overlay_fails_iff _ .strict) (and_congr (overlay_succeeds_iff _ .strict) ?_)
  refine or_congr (overlay_fails_iff _ .cacheSize)
    (and_congr (overlay_succeeds_iff _ .cacheSize) ?_)
  exact or_congr (overlay_fails_iff _ .missing)
    (and_congr (overlay_succeeds_iff _ .missing) Iff.rfl)

private theorem exists_apply_ok_iff (settings : Settings) :
    (∃ result, apply layer.names (layers.fields layer) settings = .ok result) ↔
      AllSucceed layers.check (Field.all.map fun field => (layer, field)) := by
  simp only [allSucceed_iff_not_firstFails, ← apply_error_iff settings]
  cases apply layer.names (layers.fields layer) settings <;> simp

theorem load_of_given {files : Files} {path : Option String} {manifest : Fields}
    (given : Given files path manifest) (environment : Fields) :
    load files path environment =
      ((apply manifestNames manifest Settings.default).mapError Failure.field).bind fun settings =>
        (apply environmentNames environment settings).mapError Failure.field := by
  rw [load, manifestFields_ok_iff.mpr given]
  rfl

private theorem places_eq :
    places = (Field.all.map fun field => (Layer.manifest, field)) ++
      Field.all.map fun field => (Layer.environment, field) :=
  rfl

/-- The first value that is refused stands in the manifest, or in the environment behind a manifest
that is admitted.  What the layers are laid over does not matter. -/
theorem firstRefuses_iff (first second : Settings) :
    layers.FirstRefuses failure ↔
      apply manifestNames layers.manifest first = .error failure ∨
        (∃ result, apply manifestNames layers.manifest first = .ok result) ∧
          apply environmentNames layers.environment second = .error failure := by
  rw [← firstFails_check_iff, places_eq, firstFails_append, ← apply_error_iff first,
    ← exists_apply_ok_iff first, ← apply_error_iff second]
  rfl

theorem mem_places (place : Layer × Field) : place ∈ places := by
  obtain ⟨layer, field⟩ := place
  cases layer <;> cases field <;> decide

private theorem admits_iff (first second : Settings) :
    (∀ place ∈ places, layers.Admits place) ↔
      (∃ result, apply manifestNames layers.manifest first = .ok result) ∧
        ∃ result, apply environmentNames layers.environment second = .ok result := by
  rw [← allSucceed_check_iff, places_eq, allSucceed_append, ← exists_apply_ok_iff first,
    ← exists_apply_ok_iff second]
  rfl

variable {files : Files} {path : Option String} {manifest environment : Fields}

theorem load_error_iff (given : Given files path manifest) {failure : Failure} :
    load files path environment = .error failure ↔
      ∃ cause, failure = .field cause ∧ Layers.FirstRefuses ⟨manifest, environment⟩ cause := by
  rw [load_of_given given, bind_error_iff]
  simp only [mapError_error_iff, mapError_ok_iff]
  constructor
  · rintro (⟨cause, refused, rfl⟩ | ⟨settings, laid, cause, refused, rfl⟩)
    · exact ⟨cause, rfl, (firstRefuses_iff Settings.default Settings.default).mpr (Or.inl refused)⟩
    · exact ⟨cause, rfl,
        (firstRefuses_iff Settings.default settings).mpr (Or.inr ⟨⟨settings, laid⟩, refused⟩)⟩
  · rintro ⟨cause, rfl, refused⟩
    rcases (firstRefuses_iff Settings.default Settings.default).mp refused with
      refused | ⟨⟨settings, laid⟩, -⟩
    · exact Or.inl ⟨cause, refused, rfl⟩
    · refine Or.inr ⟨settings, laid, cause, ?_, rfl⟩
      rcases (firstRefuses_iff Settings.default settings).mp refused with failed | ⟨-, refused⟩
      · cases laid.symm.trans failed
      · exact refused

private theorem settles_iff {field : Field} {first result : field.Setting}
    (lower : overlay manifest (field.name manifestNames) (Settings.default.get field)
      (field.read manifestNames) = .ok first) :
    overlay environment (field.name environmentNames) first (field.read environmentNames) =
        .ok result ↔ Layers.Settles ⟨manifest, environment⟩ field result := by
  rw [overlay_eq_ok_iff] at lower ⊢
  constructor
  · rintro (⟨missing, rfl⟩ | ⟨value, found, read⟩)
    · rcases lower with ⟨absent, rfl⟩ | ⟨value, found, read⟩
      · exact .default missing absent
      · exact .manifest missing found (readField_ok_iff.mp read)
    · exact .environment found (readField_ok_iff.mp read)
  · rintro (⟨found, means⟩ | ⟨missing, found, means⟩ | ⟨missing, absent⟩)
    · exact Or.inr ⟨_, found, readField_ok_iff.mpr means⟩
    · refine Or.inl ⟨missing, ?_⟩
      rcases lower with ⟨absent, -⟩ | ⟨value, there, read⟩
      · cases absent.symm.trans found
      · obtain rfl := Option.some.inj (found.symm.trans there)
        exact means_unique means (readField_ok_iff.mp read)
    · refine Or.inl ⟨missing, ?_⟩
      rcases lower with ⟨-, rfl⟩ | ⟨value, there, -⟩
      · rfl
      · cases absent.symm.trans there

/-- Loading succeeds just where all values that are there mean something, and comes to what they
mean, layer over layer. -/
theorem load_ok_iff {settings : Settings} :
    load files path environment = .ok settings ↔
      ∃ manifest, Given files path manifest ∧
        (∀ place ∈ places, Layers.Admits ⟨manifest, environment⟩ place) ∧
        ∀ field, Layers.Settles ⟨manifest, environment⟩ field (settings.get field) := by
  constructor
  · intro made
    obtain ⟨manifest, given, -⟩ := bind_ok_iff.mp made
    rw [manifestFields_ok_iff] at given
    rw [load_of_given given] at made
    obtain ⟨first, lower, upper⟩ := bind_ok_iff.mp made
    have lower := mapError_ok_iff.mp lower
    have upper := mapError_ok_iff.mp upper
    refine ⟨manifest, given, ?_, fun field => ?_⟩
    · exact (admits_iff Settings.default first).mpr ⟨⟨first, lower⟩, settings, upper⟩
    · exact (settles_iff (apply_ok_iff.mp lower field)).mp (apply_ok_iff.mp upper field)
  · rintro ⟨manifest, given, admitted, settles⟩
    obtain ⟨⟨first, lower⟩, -⟩ := (admits_iff Settings.default Settings.default).mp admitted
    rw [load_of_given given]
    refine bind_ok_iff.mpr ⟨first, mapError_ok_iff.mpr lower, mapError_ok_iff.mpr ?_⟩
    exact apply_ok_iff.mpr fun field =>
      (settles_iff (apply_ok_iff.mp lower field)).mpr (settles field)

end Order

section Frame

variable {layers others : Layers} {field : Field}

private theorem settles_unique {result other : field.Setting}
    (settles : layers.Settles field result)
    (same : layers.Settles field other) : result = other := by
  cases settles with
  | environment found means =>
    cases same with
    | environment there means' =>
      obtain rfl := Option.some.inj (found.symm.trans there)
      exact means_unique means means'
    | manifest missing => cases missing.symm.trans found
    | default missing => cases missing.symm.trans found
  | manifest missing found means =>
    cases same with
    | environment there => cases missing.symm.trans there
    | manifest _ there means' =>
      obtain rfl := Option.some.inj (found.symm.trans there)
      exact means_unique means means'
    | default _ absent => cases absent.symm.trans found
  | default missing absent =>
    cases same with
    | environment there => cases missing.symm.trans there
    | manifest _ there => cases absent.symm.trans there
    | default => rfl

private theorem settles_of_agree {result : field.Setting} (settles : layers.Settles field result)
    (agree : ∀ layer, layers.value? (layer, field) = others.value? (layer, field)) :
    others.Settles field result := by
  cases settles with
  | environment found means => exact .environment (agree .environment ▸ found) means
  | manifest missing found means =>
    exact .manifest (agree .environment ▸ missing) (agree .manifest ▸ found) means
  | default missing absent =>
    exact .default (agree .environment ▸ missing) (agree .manifest ▸ absent)

def AgreeBut (name : String) (fields others : Fields) : Prop :=
  ∀ other, other ≠ name → Fields.get? fields other = Fields.get? others other

private theorem settles_of_agreeBut {name : String} {result other : field.Setting}
    (manifests : AgreeBut name layers.manifest others.manifest)
    (environments : AgreeBut name layers.environment others.environment)
    (settles : layers.Settles field result) (same : others.Settles field other)
    (apart : ∀ layer : Layer, field.name layer.names ≠ name) : result = other := by
  refine settles_unique (settles_of_agree settles fun layer => ?_) same
  cases layer with
  | manifest => exact manifests _ (apart .manifest)
  | environment => exact environments _ (apart .environment)

private theorem given_unique {files : Files} {path : Option String} {manifest other : Fields}
    (given : Given files path manifest) (same : Given files path other) : manifest = other :=
  Except.ok.inj ((manifestFields_ok_iff.mpr given).symm.trans (manifestFields_ok_iff.mpr same))

end Frame

section Load

/-- Settings are loaded layer by layer.  They are loaded just where every value that is there means
something, and each field is settled by the environment, else by the manifest, else as usual.  Where
manifest and environment change under one name, no field of other names changes.  Given a manifest,
loading fails as the first value in the order of the places that is refused; so a value of the
manifest that is refused makes it fail whatever the environment says. -/
theorem load_by_layers :
    (∀ files path environment settings, load files path environment = .ok settings ↔
      ∃ manifest, Given files path manifest ∧
        (∀ place ∈ places, Layers.Admits ⟨manifest, environment⟩ place) ∧
        ∀ field, Layers.Settles ⟨manifest, environment⟩ field (settings.get field)) ∧
    (∀ name files path manifest environment settings files' path' manifest' environment' settings',
      Given files path manifest → load files path environment = .ok settings →
      Given files' path' manifest' → load files' path' environment' = .ok settings' →
      AgreeBut name manifest manifest' → AgreeBut name environment environment' →
      ∀ field : Field, settings.get field ≠ settings'.get field →
        ∃ layer : Layer, field.name layer.names = name) ∧
    ∀ files path manifest environment, Given files path manifest →
      (∀ failure, load files path environment = .error failure ↔
        ∃ cause, failure = .field cause ∧ Layers.FirstRefuses ⟨manifest, environment⟩ cause) ∧
      ∀ field refusal, Layers.RefusesAt ⟨manifest, environment⟩ (.manifest, field) refusal →
        ∃ cause, load files path environment = .error (.field cause) := by
  refine ⟨fun _ _ _ _ => load_ok_iff, ?_, ?_⟩
  · intro name files path manifest environment settings files' path' manifest' environment'
      settings'
      given made given' made' manifests environments field differs
    obtain ⟨own, found, -, settles⟩ := load_ok_iff.mp made
    obtain ⟨own', found', -, settles'⟩ := load_ok_iff.mp made'
    obtain rfl := given_unique given found
    obtain rfl := given_unique given' found'
    by_contra apart
    exact differs (settles_of_agreeBut manifests environments (settles field) (settles' field)
      (not_exists.mp apart))
  · intro files path manifest environment given
    refine ⟨fun _ => load_error_iff given, fun field refusal ⟨value, there, refused⟩ => ?_⟩
    cases outcome : load files path environment with
    | error failure =>
      obtain ⟨cause, rfl, -⟩ := (load_error_iff given).mp outcome
      exact ⟨cause, rfl⟩
    | ok settings =>
      obtain ⟨own, found, admitted, -⟩ := load_ok_iff.mp outcome
      obtain rfl := given_unique given found
      obtain ⟨result, means⟩ := admitted _ (mem_places _) value there
      exact absurd refused (not_refuses_of_means means)

def withManifest (text : String) : Files :=
  Files.ofEntries [(manifestName, .file text.toUTF8.data.toList)]

/-- A switch in the environment is laid over that of the manifest; but a manifest whose switch is no
truth value is refused although the environment has one. -/
theorem load_by_layers_shadowed :
    let files : Files := withManifest "[respcast]\nstrict=false"
    let wrong : Files := withManifest "[respcast]\nstrict=inf"
    let on : Fields := [("RESPCAST_STRICT", .text "on")]
    let strict : Settings := ⟨"usd", true, 256, .keep⟩
    let lax : Settings := ⟨"usd", false, 256, .keep⟩
    load files none on = .ok strict ∧ load files none [] = .ok lax ∧
    (∀ field : Field, strict.get field ≠ lax.get field →
      ∃ layer : Layer, field.name layer.names = "RESPCAST_STRICT") ∧
    Given wrong none [("strict", .float (.infinite false))] ∧
    ∃ cause, load wrong none on = .error (.field cause) := by
  intro files wrong on strict lax
  let off : Fields := [("strict", .bool false)]
  obtain ⟨loads, frame, refusals⟩ := load_by_layers
  have given : Given files none off := by
    have held : files.text (manifestPath none) = .ok "[respcast]\nstrict=false" := by decide +kernel
    have read : Toml.read "[respcast]\nstrict=false" = .ok [("respcast", .object off)] := by cbv
    exact .table held read rfl
  have given' : Given wrong none [("strict", .float (.infinite false))] := by
    have held : wrong.text (manifestPath none) = .ok "[respcast]\nstrict=inf" := by decide +kernel
    have read : Toml.read "[respcast]\nstrict=inf" =
        .ok [("respcast", .object [("strict", .float (.infinite false))])] := by cbv
    exact .table held read rfl
  have means_off : Means .strict (.bool false) false := means_strict_bool false
  have means_on : Means .strict (.text "on") true := .on (by decide +kernel)
  have overridden : load files none on = .ok strict := by
    refine (loads _ _ _ _).mpr ⟨off, given, ?_, ?_⟩
    · rintro ⟨layer, field⟩ - value found
      cases layer <;> cases field <;> cases found
      · exact ⟨_, means_off⟩
      · exact ⟨_, means_on⟩
    · intro field
      cases field with
      | strict => exact .environment rfl means_on
      | _ => exact .default rfl rfl
  have usual : load files none [] = .ok lax := by
    refine (loads _ _ _ _).mpr ⟨off, given, ?_, ?_⟩
    · rintro ⟨layer, field⟩ - value found
      cases layer <;> cases field <;> cases found
      exact ⟨_, means_off⟩
    · intro field
      cases field with
      | strict => exact .manifest rfl rfl means_off
      | _ => exact .default rfl rfl
  refine ⟨overridden, usual, ?_, given', ?_⟩
  · refine frame _ _ _ _ _ _ _ _ _ _ _ given overridden given usual (fun _ _ => rfl) ?_
    intro other apart
    rw [Fields.get?_cons, if_neg (Ne.symm apart)]
  · obtain ⟨-, refused⟩ := refusals _ _ _ on given'
    refine refused .strict _ ⟨_, rfl, .strict ?_⟩
    rintro switch (_ | named | named)
    · exact absurd named (by decide +kernel)
    · exact absurd named (by decide +kernel)

end Load

end TypedRecords.Settings
