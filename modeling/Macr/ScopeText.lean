import Macr.AuthorityHistory
import Macr.Lib.Text

/-!
# The texts of an authority scope

The constructor of `AuthorityScope` trims the texts it is given, refuses repeated ones and folds
digests to lower case, in that order; `to_dict` writes the fields of the scope's version and
`from_dict` takes a document of exactly these fields through the constructor again. A text that
was trimmed, a tuple without repetitions and a digest of lower-case hexadecimal digits are types
here. The tables keep a scope with its digests as numbers, which is the scope that these texts
denote.
-/

namespace Macr

open Lib

/-- What the constructor and `from_dict` tell apart of a value. -/
inductive ScopeValue where
  /-- A sequence, with those of its items that are texts. -/
  | array (items : List (Option String))
  /-- A number equal to an integer. -/
  | number (value : Int)
  /-- Any other value. -/
  | other
deriving DecidableEq

/-- A trimmed text that is not empty. -/
abbrev NonEmptyText := {text : String // text ≠ "" ∧ strip text = text}

/-- A tuple of texts without repetitions, with an item where one is required. -/
abbrev TextTuple (required : Bool) :=
  {texts : List NonEmptyText // (required = true → texts ≠ []) ∧ texts.Nodup}

/-- `_SHA256.fullmatch`. -/
def isSha256 (text : String) : Bool := text.toList.length = 64 && text.toList.all isHexDigit

/-- A text of 64 lower-case hexadecimal digits. -/
abbrev Sha256Text := {text : String // isSha256 text = true}

/-- The lane a text names. -/
def AdmissionLane.ofValue? (text : String) : Option AdmissionLane :=
  [AdmissionLane.interactive, .routine, .bulk].find? (fun lane => lane.value = text)

/-- The number of a contract version. -/
def ScopeContractVersion.number : ScopeContractVersion → Int
  | .v1 => 1
  | .v2 => 2
  | .v3 => 3

/-- The contract version of a number. -/
def ScopeContractVersion.ofNumber? : ScopeValue → Option ScopeContractVersion
  | .number 1 => some .v1
  | .number 2 => some .v2
  | .number 3 => some .v3
  | _ => none

/-- The arguments of the constructor. -/
structure ScopeArguments where
  /-- Providers. -/
  providers : ScopeValue
  /-- Planes. -/
  planes : ScopeValue
  /-- Task types. -/
  taskTypes : ScopeValue := .array []
  /-- Batches. -/
  batchIds : ScopeValue := .array []
  /-- Members. -/
  memberDigests : ScopeValue := .array []
  /-- Provider tier bindings. -/
  providerTierBindingDigests : ScopeValue := .array []
  /-- Project bindings. -/
  projectBindingDigests : ScopeValue := .array []
  /-- Admission lanes. -/
  admissionLanes : ScopeValue := .array []
  /-- Provider admission policies. -/
  providerAdmissionPolicyDigests : ScopeValue := .array []
  /-- Target and policy-transition bindings. -/
  providerAdmissionTargetDigests : ScopeValue := .array []
  /-- Circuit bindings. -/
  providerAdmissionCircuitDigests : ScopeValue := .array []
  /-- The contract version. -/
  scopeContractVersion : ScopeValue := .number 2

/-- An `AuthorityScope`, with its fields as the texts they are. -/
@[ext]
structure ScopeText where
  /-- Providers. -/
  providers : TextTuple true
  /-- Planes. -/
  planes : TextTuple true
  /-- Task types. -/
  taskTypes : TextTuple false
  /-- Batches. -/
  batchIds : TextTuple false
  /-- Members. -/
  memberDigests : List Sha256Text
  /-- Provider tier bindings. -/
  providerTierBindingDigests : List Sha256Text
  /-- Project bindings. -/
  projectBindingDigests : List Sha256Text
  /-- Admission lanes. -/
  admissionLanes : TextTuple false
  /-- Provider admission policies. -/
  providerAdmissionPolicyDigests : List Sha256Text
  /-- Target and policy-transition bindings. -/
  providerAdmissionTargetDigests : List Sha256Text
  /-- Circuit bindings. -/
  providerAdmissionCircuitDigests : List Sha256Text
  /-- The contract version. -/
  scopeContractVersion : ScopeContractVersion
  /-- Each lane is one of the three. -/
  lanes_named : ∀ text ∈ admissionLanes.val, (AdmissionLane.ofValue? text.val).isSome = true
  /-- The first version binds no provider tier. -/
  legacy_tiers : scopeContractVersion = .v1 → providerTierBindingDigests = []
  /-- Only the third version binds provider admission. -/
  legacy_admission : scopeContractVersion ≠ .v3 →
    projectBindingDigests = [] ∧ admissionLanes.val = [] ∧
      providerAdmissionPolicyDigests = [] ∧ providerAdmissionTargetDigests = [] ∧
      providerAdmissionCircuitDigests = []
deriving DecidableEq

namespace ScopeText

/-- `_non_empty`. -/
def nonEmpty (name : String) : Option String → Except MacrError NonEmptyText
  | some text =>
    if inhabited : strip text ≠ "" then .ok ⟨strip text, inhabited, strip_strip text⟩
    else .error (.valueError s!"{name} must be a non-empty string")
  | none => .error (.valueError s!"{name} must be a non-empty string")

/-- `_string_tuple`. -/
def stringTuple (name : String) (value : ScopeValue) (required : Bool) :
    Except MacrError (TextTuple required) :=
  match value with
  | .array items => do
    let normalized ← items.mapM (nonEmpty name)
    if inhabited : required = true → normalized ≠ [] then
      if distinct : normalized.Nodup then .ok ⟨normalized, inhabited, distinct⟩
      else .error (.valueError s!"{name} must not contain duplicates")
    else .error (.valueError s!"{name} must not be empty")
  | .number _ | .other => .error (.valueError s!"{name} must be an array")

/-- The lower-case form of one digest. -/
def sha256Text (name : String) (item : NonEmptyText) : Except MacrError Sha256Text :=
  if hex : isSha256 (lower item.val) = true then .ok ⟨lower item.val, hex⟩
  else .error (.valueError s!"{name} must be SHA-256 hex")

/-- A field of digests: repetitions are refused first, then each digest is checked and folded to
lower case. -/
def digestTuple (name : String) (value : ScopeValue) : Except MacrError (List Sha256Text) := do
  let digests ← stringTuple name value false
  digests.val.mapM (sha256Text name)

/-- `AuthorityScope.__post_init__`. -/
def init (arguments : ScopeArguments) : Except MacrError ScopeText := do
  let providers ← stringTuple "authority providers" arguments.providers true
  let planes ← stringTuple "authority planes" arguments.planes true
  let taskTypes ← stringTuple "authority task_types" arguments.taskTypes false
  let batchIds ← stringTuple "authority batch_ids" arguments.batchIds false
  let digests ← digestTuple "authority member_digests" arguments.memberDigests
  let tierDigests ← digestTuple "authority provider_tier_binding_digests"
    arguments.providerTierBindingDigests
  let projectDigests ← digestTuple "authority project_binding_digests"
    arguments.projectBindingDigests
  let lanes ← stringTuple "authority admission_lanes" arguments.admissionLanes false
  if named : ∀ text ∈ lanes.val, (AdmissionLane.ofValue? text.val).isSome = true then
    let admissionDigests ← digestTuple "authority provider_admission_policy_digests"
      arguments.providerAdmissionPolicyDigests
    let targetDigests ← digestTuple "authority provider_admission_target_digests"
      arguments.providerAdmissionTargetDigests
    let circuitDigests ← digestTuple "authority provider_admission_circuit_digests"
      arguments.providerAdmissionCircuitDigests
    let version ← require (ScopeContractVersion.ofNumber? arguments.scopeContractVersion)
      (.valueError "authority scope contract version is unsupported")
    if tiers : version = .v1 → tierDigests = [] then
      if admission : version ≠ .v3 → projectDigests = [] ∧ lanes.val = [] ∧
          admissionDigests = [] ∧ targetDigests = [] ∧ circuitDigests = [] then
        .ok ⟨providers, planes, taskTypes, batchIds, digests, tierDigests, projectDigests,
          lanes, admissionDigests, targetDigests, circuitDigests, version, named, tiers,
          admission⟩
      else .error (.valueError "legacy authority scope cannot bind provider admission")
    else .error (.valueError "legacy authority scope cannot bind provider tiers")
  else .error (.valueError "authority admission_lanes contains an invalid lane")

/-- The array a tuple of texts is written as. -/
def texts (tuple : List NonEmptyText) : ScopeValue := .array (tuple.map (fun text => some text.val))

/-- The array a tuple of digests is written as. -/
def hexes (digests : List Sha256Text) : ScopeValue :=
  .array (digests.map (fun text => some text.val))

/-- `AuthorityScope.to_dict`. -/
def toDict (scope : ScopeText) : List (String × ScopeValue) :=
  let document := [("providers", texts scope.providers.val), ("planes", texts scope.planes.val),
    ("task_types", texts scope.taskTypes.val), ("batch_ids", texts scope.batchIds.val),
    ("member_digests", hexes scope.memberDigests)]
  let versioned := ("scope_contract_version", .number scope.scopeContractVersion.number) ::
    (document ++ [("provider_tier_binding_digests", hexes scope.providerTierBindingDigests)])
  match scope.scopeContractVersion with
  | .v1 => document
  | .v2 => versioned
  | .v3 => versioned ++
    [("project_binding_digests", hexes scope.projectBindingDigests),
      ("admission_lanes", texts scope.admissionLanes.val),
      ("provider_admission_policy_digests", hexes scope.providerAdmissionPolicyDigests),
      ("provider_admission_target_digests", hexes scope.providerAdmissionTargetDigests),
      ("provider_admission_circuit_digests", hexes scope.providerAdmissionCircuitDigests)]

/-- The fields a document of the first version has. -/
def legacyFields : List String :=
  ["providers", "planes", "task_types", "batch_ids", "member_digests"]

/-- The fields a document of a version has. -/
def expectedFields : ScopeContractVersion → List String
  | .v1 => legacyFields
  | .v2 => "scope_contract_version" :: legacyFields ++ ["provider_tier_binding_digests"]
  | .v3 => "scope_contract_version" :: legacyFields ++ ["provider_tier_binding_digests",
      "project_binding_digests", "admission_lanes", "provider_admission_policy_digests",
      "provider_admission_target_digests", "provider_admission_circuit_digests"]

/-- `AuthorityScope.from_dict`, of a mapping as its items. -/
def fromDict (data : List (String × ScopeValue)) : Except MacrError ScopeText := do
  let get := fun (name : String) (default : ScopeValue) => (data.lookup name).getD default
  let version := get "scope_contract_version" (.number 1)
  let known ← require (ScopeContractVersion.ofNumber? version)
    (.valueError "authority scope contract version is unsupported")
  raiseIf (¬((∀ item ∈ data, item.1 ∈ expectedFields known) ∧
      ∀ name ∈ expectedFields known, name ∈ data.map (·.1)))
    (.valueError "authority scope fields must be exact")
  init {
    providers := get "providers" (.array [])
    planes := get "planes" (.array [])
    taskTypes := get "task_types" (.array [])
    batchIds := get "batch_ids" (.array [])
    memberDigests := get "member_digests" (.array [])
    providerTierBindingDigests := get "provider_tier_binding_digests" (.array [])
    projectBindingDigests := get "project_binding_digests" (.array [])
    admissionLanes := get "admission_lanes" (.array [])
    providerAdmissionPolicyDigests := get "provider_admission_policy_digests" (.array [])
    providerAdmissionTargetDigests := get "provider_admission_target_digests" (.array [])
    providerAdmissionCircuitDigests := get "provider_admission_circuit_digests" (.array [])
    scopeContractVersion := version }

end ScopeText
end Macr
