import Macr.Authority
import Macr.Capability.Contracts

/-!
# The store of provider tiers

Policies are saved once and never changed. The active row of a provider and a model names one of
them, and four readers resolve it. An activation verifies its authority in another database, in two
reads, and writes the active row in a transaction of its own; anything may happen in between. A
call is cut where another process can act.
-/

namespace Macr

open Lib

/-- A row of `provider_capability_policies`. -/
structure CapabilityPolicyRow where
  /-- The provider. -/
  providerId : String
  /-- The model. -/
  modelId : String
  /-- The tier. -/
  tierId : String
  /-- The revision. -/
  revision : Nat
  /-- The policy `body_json` writes. -/
  body : ProviderCapabilityPolicy
  /-- The digest of `body_json`. -/
  bodySha256 : Digest
  /-- The digest of the binding. -/
  bindingDigest : Digest
deriving DecidableEq

/-- The primary key. -/
abbrev CapabilityPolicyRow.key (row : CapabilityPolicyRow) : PolicyKey :=
  (row.providerId, row.modelId, row.tierId, row.revision)

/-- A row of `provider_capability_active`. -/
structure CapabilityActiveRow where
  /-- The provider. -/
  providerId : String
  /-- The model. -/
  modelId : String
  /-- The active tier. -/
  tierId : String
  /-- Its revision. -/
  revision : Nat
  /-- The digest of its binding. -/
  bindingDigest : Digest
  /-- The digest of the authority; a row of the first schema has none. -/
  authorityDigest : Option Digest
deriving DecidableEq

/-- The primary key. -/
abbrev CapabilityActiveRow.key (row : CapabilityActiveRow) : String × String :=
  (row.providerId, row.modelId)

/-- The policy database. -/
structure CapabilityDb where
  /-- `provider_capability_schema_meta`. -/
  schemaVersion : Nat
  /-- `provider_capability_policies`. -/
  policies : Table CapabilityPolicyRow.key
  /-- `provider_capability_active`. -/
  active : Table CapabilityActiveRow.key

/-- `SCHEMA_VERSION`. -/
def capabilitySchemaVersion : Nat := 2

/-- `DirectStoreConflict`. -/
def directStoreConflict (message : String) : MacrError := .named "DirectStoreConflict" message

namespace CapabilityDb

/-- A new database. -/
def initial : CapabilityDb := ⟨capabilitySchemaVersion, .empty, .empty⟩

/-- `_initialize` of a database that is there. -/
def initializeSchema (db : CapabilityDb) : Except MacrError CapabilityDb :=
  if db.schemaVersion = 1 then .ok { db with schemaVersion := capabilitySchemaVersion }
  else if db.schemaVersion = capabilitySchemaVersion then .ok db
  else .error (directStoreConflict "provider capability policy database schema is unsupported")

variable (sha : Sha256) (resolver : ProviderCapabilityResolver) (db : CapabilityDb)

/-- `_policy_from_row`. -/
def policyFromRow (row : CapabilityPolicyRow) : Except MacrError ProviderCapabilityPolicy := do
  raiseIf (sha.sha256 row.body.toDict ≠ row.bodySha256)
    (directStoreConflict "provider capability policy digest is invalid")
  raiseIf ((row.body.binding sha).bindingDigest sha ≠ row.bindingDigest)
    (directStoreConflict "provider capability policy digest is invalid")
  return row.body

/-- `_binding_from_row`. -/
def bindingFromRow (row : CapabilityPolicyRow) : Except MacrError ProviderTierBinding := do
  return (← policyFromRow sha row).binding sha

/-- `_require_supported_policy`. -/
def requireSupportedPolicy (policy : ProviderCapabilityPolicy) :
    Except MacrError ProviderCapabilityPolicy :=
  match resolver.resolve policy.providerId policy.modelId policy.tierId policy.revision with
  | .ok supported => do
    raiseIf (supported ≠ policy)
      (directStoreConflict "provider capability policy is not adapter-supported")
    return policy
  | .error (.named "ProviderPolicyError" _) =>
    .error (directStoreConflict "provider capability policy is not adapter-supported")
  | .error raised => .error raised

/-! ## The readers -/

/-- What the readers check of an active row. -/
def activePolicy (active : CapabilityActiveRow) : Except MacrError ProviderCapabilityPolicy := do
  raiseIf (active.authorityDigest = none)
    (directStoreConflict "legacy_pre_tier provider capability activation is incompatible")
  let row ← require
    ((db.policies.find?
      (active.providerId, active.modelId, active.tierId, active.revision)).filter
      (fun row => row.bindingDigest = active.bindingDigest))
    (directStoreConflict "provider capability activation is invalid")
  requireSupportedPolicy resolver (← policyFromRow sha row)

/-- `_read_effective_from_connection`. -/
def readEffectiveFromConnection (providerId modelId : String) :
    Except MacrError ProviderTierBinding :=
  match db.active.find? (providerId, modelId) with
  | none => resolver.defaultBinding sha providerId modelId
  | some active => do
    return (← activePolicy sha resolver db active).binding sha

/-- `_read_effective_policy_from_connection`. -/
def readEffectivePolicyFromConnection (providerId modelId : String) :
    Except MacrError ProviderCapabilityPolicy :=
  match db.active.find? (providerId, modelId) with
  | none => resolver.resolve providerId modelId "standard" 1
  | some active => activePolicy sha resolver db active

/-- `effective_binding`. -/
def effectiveBinding (providerId modelId : String) : Except MacrError ProviderTierBinding :=
  readEffectiveFromConnection sha resolver db providerId modelId

/-- `effective_policy`. -/
def effectivePolicy (providerId modelId : String) : Except MacrError ProviderCapabilityPolicy :=
  readEffectivePolicyFromConnection sha resolver db providerId modelId

/-- `read_effective_binding` of a file that may be missing. -/
def readEffectiveBinding (file : Option CapabilityDb) (providerId modelId : String) :
    Except MacrError ProviderTierBinding :=
  match file with
  | none => resolver.defaultBinding sha providerId modelId
  | some db => do
    raiseIf (db.schemaVersion ≠ capabilitySchemaVersion)
      (directStoreConflict "provider capability policy database schema is unsupported")
    readEffectiveFromConnection sha resolver db providerId modelId

/-- `read_effective_policy` of a file that may be missing. -/
def readEffectivePolicy (file : Option CapabilityDb) (providerId modelId : String) :
    Except MacrError ProviderCapabilityPolicy :=
  match file with
  | none => resolver.resolve providerId modelId "standard" 1
  | some db => do
    raiseIf (db.schemaVersion ≠ capabilitySchemaVersion)
      (directStoreConflict "provider capability policy database schema is unsupported")
    readEffectivePolicyFromConnection sha resolver db providerId modelId

/-! ## Writing -/

/-- The row of a policy. -/
def policyRow (policy : ProviderCapabilityPolicy) : CapabilityPolicyRow where
  providerId := policy.providerId
  modelId := policy.modelId
  tierId := policy.tierId
  revision := policy.revision
  body := policy
  bodySha256 := sha.sha256 policy.toDict
  bindingDigest := (policy.binding sha).bindingDigest sha

/-- `save_policy`. -/
def savePolicy (policy : ProviderCapabilityPolicy) :
    Except MacrError (Committed CapabilityDb Bool) := do
  let policy ← requireSupportedPolicy resolver policy
  match db.policies.find? policy.key with
  | some row =>
    raiseIf (row.body.toDict ≠ policy.toDict ∨ row.bodySha256 ≠ sha.sha256 policy.toDict ∨
        row.bindingDigest ≠ (policy.binding sha).bindingDigest sha)
      (directStoreConflict "provider capability policy revision conflicts with existing record")
    commit db false
  | none =>
    raiseIf (∃ row ∈ db.policies.rows,
      row.bindingDigest = (policy.binding sha).bindingDigest sha) .integrity
    let policies ← require (db.policies.insert? (policyRow sha policy)) .integrity
    commit { db with policies := policies } true

/-- `_binding_for_digest`. -/
def bindingForDigest (bindingDigest : Digest) : Except MacrError ProviderTierBinding := do
  let row ← require (db.policies.rows.find? (fun row => row.bindingDigest = bindingDigest))
    (directStoreConflict "provider capability policy does not exist")
  bindingFromRow sha row

/-- The row an activation writes. -/
def activeRow (binding : ProviderTierBinding) (authorityDigest : Digest) : CapabilityActiveRow where
  providerId := binding.providerId
  modelId := binding.modelId
  tierId := binding.tierId
  revision := binding.revision
  bindingDigest := binding.bindingDigest sha
  authorityDigest := some authorityDigest

/-- `INSERT ... ON CONFLICT(provider_id, model_id) DO UPDATE`. -/
def upsertActive (row : CapabilityActiveRow) : Table CapabilityActiveRow.key :=
  if fresh : row.key ∉ db.active.rows.map CapabilityActiveRow.key then db.active.insert row fresh
  else
    db.active.update (fun other => other.key = row.key)
      (fun other => { other with
        tierId := row.tierId
        revision := row.revision
        bindingDigest := row.bindingDigest
        authorityDigest := row.authorityDigest })

/-- The transaction of `_activate_authorized`. -/
def activateAuthorized (binding : ProviderTierBinding) (authorityDigest : Digest) :
    Except MacrError (Committed CapabilityDb Unit) := do
  let current ← require (db.policies.find? binding.key)
    (directStoreConflict "provider capability policy changed")
  let stored ← bindingFromRow sha current
  raiseIf (stored ≠ binding) (directStoreConflict "provider capability policy changed")
  commit { db with active := db.upsertActive (activeRow sha binding authorityDigest) } ()

end CapabilityDb

/-! ## The two databases -/

/-- What `activate` asks an authority for. -/
def activationUse (sha : Sha256) (binding : ProviderTierBinding) : AuthorityUse where
  providerId := binding.providerId
  plane := "policy_activation"
  taskType := "provider_tier_activation"
  providerTierBindingDigest := some (binding.bindingDigest sha)

/-- How far an activation is. -/
inductive ActivationCall where
  /-- The binding was read. -/
  | bound (binding : ProviderTierBinding) (reference : AuthorizationReference)
  /-- So was the row of the epoch. -/
  | epochRead (binding : ProviderTierBinding) (reference : AuthorizationReference)
      (epochRow : AuthorityEpoch)
  /-- The authority was read and verified, and the permit issued. -/
  | verified (binding : ProviderTierBinding) (reference : AuthorizationReference)
      (epochRow : AuthorityEpoch) (row : AuthorityRow)
  /-- The binding was read again. -/
  | permitted (binding : ProviderTierBinding) (reference : AuthorizationReference)
      (epochRow : AuthorityEpoch) (row : AuthorityRow)
  /-- It returned. -/
  | returned (binding : ProviderTierBinding)
  /-- It raised. -/
  | raised (error : MacrError)

/-- The authority database, the policy database and the activations under way. -/
structure TierState where
  /-- The authority database. -/
  authorities : AuthorityTables
  /-- The policy database, once there is one. -/
  file : Option CapabilityDb
  /-- The activations. -/
  calls : Nat → Option ActivationCall

/-- What a process can do. -/
inductive TierAction where
  /-- `issue`. -/
  | issue (sourceKind sourceId : String) (scope : AuthorityScope) (expiresAt now : Timestamp)
      (authorityId : Uuid)
  /-- `revoke`. -/
  | revoke (reference : AuthorizationReference) (now : Timestamp)
  /-- `advance_epoch`. -/
  | advanceEpoch (reasonDigest : Digest) (state : AuthorityState) (observedAt : Timestamp)
  /-- A store is opened. -/
  | openStore
  /-- `save_policy`. -/
  | savePolicy (policy : ProviderCapabilityPolicy)
  /-- `activate` begins and reads the binding. -/
  | start (call : Nat) (bindingDigest : Digest) (reference : AuthorizationReference)
  /-- `verify` reads the epoch. -/
  | readEpoch (call : Nat)
  /-- `verify` reads the authority and checks it. -/
  | readAuthority (call : Nat) (now : Timestamp)
  /-- `_activate_authorized` reads the binding again. -/
  | reread (call : Nat)
  /-- Its transaction runs. -/
  | commit (call : Nat) (now : Timestamp)

namespace TierState

variable (sha : Sha256) (resolver : ProviderCapabilityResolver) (state : TierState)

/-- Nothing is stored and nothing runs. -/
def initial : TierState := ⟨.initial, none, fun _ => none⟩

/-- A call goes on. -/
def setCall (call : Nat) (next : ActivationCall) : TierState :=
  { state with calls := Function.update state.calls call (some next) }

/-- A call goes on, or raises. -/
def proceed (call : Nat) (result : Except MacrError ActivationCall) : TierState :=
  state.setCall call (match result with
    | .ok next => next
    | .error raised => .raised raised)

/-- The policy database an opened store works on. -/
def db : CapabilityDb := state.file.getD .initial

/-- What `verify` returns, with the row it read. -/
def verifyRead (epochRow : AuthorityEpoch) (now : Timestamp) (reference : AuthorizationReference)
    (binding : ProviderTierBinding) : Except MacrError ActivationCall := do
  let found := state.authorities.authorities.find? reference.key
  let _ ← AuthorityTables.verifyRows sha epochRow found now reference (activationUse sha binding)
  let row ← require found
    (.dispatchAuthorization "dispatch authorization record is missing")
  return .verified binding reference epochRow row

/-- One action. -/
def step : TierAction → TierState
  | .issue sourceKind sourceId scope expiresAt now authorityId =>
    { state with authorities := (settle state.authorities
      (state.authorities.issue sha sourceKind sourceId scope expiresAt now authorityId)).1 }
  | .revoke reference now =>
    { state with authorities :=
      (settle state.authorities (state.authorities.revoke reference now)).1 }
  | .advanceEpoch reasonDigest epochState observedAt =>
    { state with authorities := state.authorities.advanceEpoch reasonDigest epochState observedAt }
  | .openStore =>
    match state.db.initializeSchema with
    | .ok db => { state with file := some db }
    | .error _ => state
  | .savePolicy policy =>
    if state.file = none then state
    else
      let (db, _) := settle state.db (state.db.savePolicy sha resolver policy)
      { state with file := some db }
  | .start call bindingDigest reference =>
    if state.file = none ∨ state.calls call ≠ none then state
    else state.proceed call
      ((state.db.bindingForDigest sha bindingDigest).map (.bound · reference))
  | .readEpoch call =>
    match state.calls call with
    | some (.bound binding reference) =>
      state.setCall call (.epochRead binding reference state.authorities.epoch)
    | _ => state
  | .readAuthority call now =>
    match state.calls call with
    | some (.epochRead binding reference epochRow) =>
      state.proceed call (state.verifyRead sha epochRow now reference binding)
    | _ => state
  | .reread call =>
    match state.calls call with
    | some (.verified binding reference epochRow row) =>
      state.proceed call ((state.db.bindingForDigest sha (binding.bindingDigest sha)).map
        (.permitted · reference epochRow row))
    | _ => state
  | .commit call _ =>
    match state.calls call with
    | some (.permitted binding reference _ _) =>
      let (db, result) := settle state.db
        (state.db.activateAuthorized sha binding reference.digest)
      ({ state with file := some db } : TierState).proceed call
        (result.map (fun _ => .returned binding))
    | _ => state

/-- The system of the two databases. -/
def machine : Machine TierState TierAction := ⟨step sha resolver⟩

end TierState
end Macr
