import Macr.Lib.Table
import Macr.Canonical
import Macr.Errors

/-!
# Dispatch authorities

An issued authority is a row keyed by its source and revision. It is used through a reference
that repeats the row's digest, epoch and scope, and it is current only while the stored epoch is
open and unchanged, the row is unrevoked and its expiry lies ahead. `verify` runs in a read of
its own and `verifyInTransaction` under the caller's write lock; both make the same checks in
the same order.
-/

namespace Macr

open Lib

/-- `_AUTHORITY_STATES`. -/
inductive AuthorityState where
  | open
  | hold
  | suspended
  | revoked
deriving DecidableEq, Repr

/-- `AdmissionLane`. -/
inductive AdmissionLane where
  | interactive
  | routine
  | bulk
deriving DecidableEq, Repr

/-- The stored text of a lane. -/
def AdmissionLane.value : AdmissionLane → String
  | .interactive => "interactive"
  | .routine => "routine"
  | .bulk => "bulk"

/-- `scope_contract_version`. -/
inductive ScopeContractVersion where
  | v1
  | v2
  | v3
deriving DecidableEq, Repr

/-- What an authority allows. A legacy version cannot bind what came after it. -/
structure AuthorityScope where
  /-- Providers the authority names. -/
  providers : List String
  /-- Planes the authority names. -/
  planes : List String
  /-- Task types; empty allows every one. -/
  taskTypes : List String
  /-- Batches; empty allows every one. -/
  batchIds : List String
  /-- Members; empty allows every one. -/
  memberDigests : List Digest
  /-- Provider tier bindings. -/
  providerTierBindingDigests : List Digest
  /-- Project bindings. -/
  projectBindingDigests : List Digest
  /-- Admission lanes. -/
  admissionLanes : List AdmissionLane
  /-- Provider admission policies. -/
  providerAdmissionPolicyDigests : List Digest
  /-- Target and policy-transition bindings. -/
  providerAdmissionTargetDigests : List Digest
  /-- Circuit bindings. -/
  providerAdmissionCircuitDigests : List Digest
  /-- The contract version. -/
  scopeContractVersion : ScopeContractVersion
  /-- At least one provider. -/
  providers_required : providers ≠ []
  /-- At least one plane. -/
  planes_required : planes ≠ []
  /-- The first version binds no provider tier. -/
  legacy_tiers : scopeContractVersion = .v1 → providerTierBindingDigests = []
  /-- Only the third version binds provider admission. -/
  legacy_admission : scopeContractVersion ≠ .v3 →
    projectBindingDigests = [] ∧ admissionLanes = [] ∧ providerAdmissionPolicyDigests = [] ∧
      providerAdmissionTargetDigests = [] ∧ providerAdmissionCircuitDigests = []
deriving DecidableEq

/-- No field of a written scope repeats an item: `AuthorityScope.from_dict` takes the fields of a
written scope through the constructor again, which refuses a repeated item and nothing else of
them. -/
def AuthorityScope.Rereads (scope : AuthorityScope) : Prop :=
  scope.providers.Nodup ∧ scope.planes.Nodup ∧ scope.taskTypes.Nodup ∧ scope.batchIds.Nodup ∧
    scope.memberDigests.Nodup ∧ scope.providerTierBindingDigests.Nodup ∧
    scope.projectBindingDigests.Nodup ∧ scope.admissionLanes.Nodup ∧
    scope.providerAdmissionPolicyDigests.Nodup ∧ scope.providerAdmissionTargetDigests.Nodup ∧
    scope.providerAdmissionCircuitDigests.Nodup

instance (scope : AuthorityScope) : Decidable scope.Rereads := by
  unfold AuthorityScope.Rereads
  infer_instance

/-- The keyword arguments of `permits`, `verify` and `verify_in_transaction`. -/
structure AuthorityUse where
  /-- The provider to be used. -/
  providerId : String
  /-- The plane of the use. -/
  plane : String
  /-- The task type of the use. -/
  taskType : String
  /-- The batch, where the use belongs to one. -/
  batchId : Option String := none
  /-- The plan member, where the use belongs to one. -/
  memberDigest : Option Digest := none
  /-- The provider tier binding, where one applies. -/
  providerTierBindingDigest : Option Digest := none
  /-- The project binding, where admission applies. -/
  projectBindingDigest : Option Digest := none
  /-- The admission lane, where admission applies. -/
  admissionLane : Option AdmissionLane := none
  /-- The admission policy, where admission applies. -/
  providerAdmissionPolicyDigest : Option Digest := none
  /-- The target binding to be activated. -/
  providerAdmissionTargetDigest : Option Digest := none
  /-- The circuit binding to be activated. -/
  providerAdmissionCircuitDigest : Option Digest := none
deriving DecidableEq

/-- A requested value is given and listed. -/
def listed {α : Type} [DecidableEq α] (requested : Option α) (allowed : List α) : Bool :=
  requested.any (· ∈ allowed)

/-- `AuthorityScope.permits`. -/
def AuthorityScope.permits (scope : AuthorityScope) (use : AuthorityUse) : Bool :=
  let tierPermitted :=
    (use.providerTierBindingDigest.isNone && scope.providerTierBindingDigests.isEmpty) ||
      (scope.scopeContractVersion ≠ .v1 &&
        listed use.providerTierBindingDigest scope.providerTierBindingDigests)
  let admissionRequested :=
    use.projectBindingDigest.isSome || use.admissionLane.isSome ||
      use.providerAdmissionPolicyDigest.isSome || !scope.projectBindingDigests.isEmpty ||
      !scope.admissionLanes.isEmpty || !scope.providerAdmissionPolicyDigests.isEmpty
  let admissionPermitted :=
    !admissionRequested ||
      (scope.scopeContractVersion = .v3 &&
        listed use.projectBindingDigest scope.projectBindingDigests &&
        listed use.admissionLane scope.admissionLanes &&
        listed use.providerAdmissionPolicyDigest scope.providerAdmissionPolicyDigests)
  let targetRequested :=
    use.providerAdmissionTargetDigest.isSome || !scope.providerAdmissionTargetDigests.isEmpty
  let targetPermitted :=
    !targetRequested ||
      (scope.scopeContractVersion = .v3 &&
        listed use.providerAdmissionTargetDigest scope.providerAdmissionTargetDigests)
  let circuitRequested :=
    use.providerAdmissionCircuitDigest.isSome || !scope.providerAdmissionCircuitDigests.isEmpty
  let circuitPermitted :=
    !circuitRequested ||
      (scope.scopeContractVersion = .v3 &&
        listed use.providerAdmissionCircuitDigest scope.providerAdmissionCircuitDigests)
  scope.providers.contains use.providerId && scope.planes.contains use.plane &&
    (scope.taskTypes.isEmpty || scope.taskTypes.contains use.taskType) &&
    (scope.batchIds.isEmpty || listed use.batchId scope.batchIds) &&
    (scope.memberDigests.isEmpty || listed use.memberDigest scope.memberDigests) &&
    tierPermitted && admissionPermitted && targetPermitted && circuitPermitted

/-- `AuthorityScope.to_dict`, whose keys depend on the contract version. -/
def AuthorityScope.toDict (scope : AuthorityScope) : Json :=
  let legacy : List (String × Json) :=
    [("providers", .arr (scope.providers.map .str)),
      ("planes", .arr (scope.planes.map .str)),
      ("task_types", .arr (scope.taskTypes.map .str)),
      ("batch_ids", .arr (scope.batchIds.map .str)),
      ("member_digests", .arr (scope.memberDigests.map .hex))]
  let tiers : List (String × Json) :=
    [("provider_tier_binding_digests", .arr (scope.providerTierBindingDigests.map .hex))]
  match scope.scopeContractVersion with
  | .v1 => .obj legacy
  | .v2 => .obj (("scope_contract_version", .int 2) :: (legacy ++ tiers))
  | .v3 => .obj (("scope_contract_version", .int 3) :: (legacy ++ tiers ++
      [("project_binding_digests", .arr (scope.projectBindingDigests.map .hex)),
        ("admission_lanes", .arr (scope.admissionLanes.map (.str ·.value))),
        ("provider_admission_policy_digests",
          .arr (scope.providerAdmissionPolicyDigests.map .hex)),
        ("provider_admission_target_digests",
          .arr (scope.providerAdmissionTargetDigests.map .hex)),
        ("provider_admission_circuit_digests",
          .arr (scope.providerAdmissionCircuitDigests.map .hex))]))

/-- `AuthorizationReference`. The scope text is kept as the scope it writes. -/
structure AuthorizationReference where
  /-- The kind of the authority's source. -/
  sourceKind : String
  /-- The authority's source. -/
  sourceId : String
  /-- The digest of the issued body. -/
  digest : Digest
  /-- The source's revision of the authority. -/
  revision : Nat
  /-- The epoch it was issued in. -/
  epoch : Nat
  /-- The issued scope. -/
  scope : AuthorityScope
  /-- Revisions start at one. -/
  revision_positive : 1 ≤ revision
deriving DecidableEq

/-- The hashed body of an issued authority. -/
structure AuthorityBody where
  /-- The row's identifier. -/
  authorityId : Uuid
  /-- The kind of the authority's source. -/
  sourceKind : String
  /-- The authority's source. -/
  sourceId : String
  /-- The source's revision of the authority. -/
  revision : Nat
  /-- The epoch it was issued in. -/
  epoch : Nat
  /-- The issued scope. -/
  scope : AuthorityScope
  /-- When it was issued. -/
  issuedAt : Timestamp
  /-- When it expires. -/
  expiresAt : Timestamp
deriving DecidableEq

/-- The document written to `body_json`. -/
def AuthorityBody.toDict (body : AuthorityBody) : Json :=
  .obj [("authority_id", .hex body.authorityId),
    ("source_kind", .str body.sourceKind),
    ("source_id", .str body.sourceId),
    ("revision", .int body.revision),
    ("epoch", .int body.epoch),
    ("scope", body.scope.toDict),
    ("issued_at", .time body.issuedAt),
    ("expires_at", .time body.expiresAt)]

/-- A row of `dispatch_authorities`. -/
structure AuthorityRow where
  /-- Primary key. -/
  authorityId : Uuid
  /-- The kind of the authority's source. -/
  sourceKind : String
  /-- The authority's source. -/
  sourceId : String
  /-- `body_json`. -/
  body : AuthorityBody
  /-- `body_sha256`. -/
  bodySha256 : Digest
  /-- The source's revision of the authority. -/
  revision : Nat
  /-- The epoch it was issued in. -/
  epoch : Nat
  /-- `scope_json`. -/
  scope : AuthorityScope
  /-- When it was issued. -/
  issuedAt : Timestamp
  /-- When it expires. -/
  expiresAt : Timestamp
  /-- When it was revoked or consumed. -/
  revokedAt : Option Timestamp
deriving DecidableEq

/-- The unique columns a reference looks a row up by. -/
abbrev AuthorityRow.key (row : AuthorityRow) : String × String × Nat :=
  (row.sourceKind, row.sourceId, row.revision)

/-- The columns a reference looks its row up by. -/
def AuthorizationReference.key (reference : AuthorizationReference) : String × String × Nat :=
  (reference.sourceKind, reference.sourceId, reference.revision)

/-- The row of `authority_epoch`. -/
structure AuthorityEpoch where
  /-- The current epoch. -/
  epoch : Nat
  /-- Whether dispatch is open. -/
  state : AuthorityState
  /-- Why the epoch was advanced. -/
  reasonDigest : Option Digest
  /-- When it was advanced. -/
  updatedAt : Timestamp
deriving DecidableEq

/-- The two tables of `DispatchAuthorityStore`. -/
structure AuthorityTables where
  /-- `authority_epoch`. -/
  epoch : AuthorityEpoch
  /-- `dispatch_authorities`. -/
  authorities : Table AuthorityRow.key

namespace AuthorityTables

/-- The tables of a new database. -/
def initial : AuthorityTables := ⟨⟨0, .open, none, 0⟩, Table.empty⟩

/-- `COALESCE(MAX(revision), 0) + 1` of a source. -/
def nextRevision (tables : AuthorityTables) (sourceKind sourceId : String) : Nat :=
  ((tables.authorities.rows.filter
    (fun row => row.sourceKind = sourceKind ∧ row.sourceId = sourceId)).map (·.revision)).foldr
      max 0 + 1

/-- `DispatchAuthorityStore.issue`; the identifier is the drawn UUID. -/
def issue (sha : Sha256) (tables : AuthorityTables) (sourceKind sourceId : String)
    (scope : AuthorityScope) (expiresAt now : Timestamp) (authorityId : Uuid) :
    Except MacrError (Committed AuthorityTables AuthorizationReference) := do
  raiseIf (expiresAt ≤ now) (.valueError "authority expires_at must be in the future")
  raiseIf (tables.epoch.state ≠ .open)
    (.dispatchAuthorization "dispatch authority state is not open")
  let revision := tables.nextRevision sourceKind sourceId
  let body : AuthorityBody :=
    ⟨authorityId, sourceKind, sourceId, revision, tables.epoch.epoch, scope, now, expiresAt⟩
  let digest := sha.sha256 body.toDict
  raiseIf (∃ row ∈ tables.authorities.rows, row.authorityId = authorityId) .integrity
  let authorities ← require (tables.authorities.insert?
    ⟨authorityId, sourceKind, sourceId, body, digest, revision, tables.epoch.epoch, scope, now,
      expiresAt, none⟩) .integrity
  commit { tables with authorities := authorities }
    ⟨sourceKind, sourceId, digest, revision, tables.epoch.epoch, scope, Nat.le_add_left 1 _⟩

/-- `DispatchAuthorityStore.advance_epoch`. -/
def advanceEpoch (tables : AuthorityTables) (reasonDigest : Digest) (state : AuthorityState)
    (observedAt : Timestamp) : AuthorityTables :=
  { tables with epoch := ⟨tables.epoch.epoch + 1, state, some reasonDigest, observedAt⟩ }

/-- Set `revoked_at` on the rows that meet a condition. -/
def revokeWhere (tables : AuthorityTables) (condition : AuthorityRow → Bool) (now : Timestamp) :
    AuthorityTables :=
  { tables with
    authorities := tables.authorities.update condition
      (fun row => { row with revokedAt := some now }) }

/-- `DispatchAuthorityStore.revoke`. -/
def revoke (tables : AuthorityTables) (reference : AuthorizationReference) (now : Timestamp) :
    Except MacrError (Committed AuthorityTables Bool) := do
  let row ← require ((tables.authorities.find? reference.key).filter
      (fun row => row.epoch = reference.epoch ∧ row.bodySha256 = reference.digest))
    (.dispatchAuthorization "dispatch authorization digest is invalid")
  if row.revokedAt = none then
    let condition := fun (other : AuthorityRow) =>
      decide (other.authorityId = row.authorityId ∧ other.revokedAt = none)
    commit (tables.revokeWhere condition now)
      (decide (tables.authorities.rows.countP condition = 1))
  else
    commit tables false

/-- What `DispatchAuthorityStore.verify` checks of the epoch row and the authority row it has read,
each in a read of its own. -/
def verifyRows (sha : Sha256) (epochRow : AuthorityEpoch) (found : Option AuthorityRow)
    (now : Timestamp) (reference : AuthorizationReference) (use : AuthorityUse) :
    Except MacrError AuthorizationReference := do
  raiseIf (reference.epoch ≠ epochRow.epoch)
    (.dispatchAuthorization "dispatch authorization has a stale epoch")
  raiseIf (epochRow.state ≠ .open)
    (.dispatchAuthorization "dispatch authorization state is not open")
  let row ← require found (.dispatchAuthorization "dispatch authorization record is missing")
  raiseIf (¬row.scope.Rereads)
    (.dispatchAuthorization "dispatch authorization digest is invalid")
  let expectedDigest := sha.sha256 row.body.toDict
  raiseIf (expectedDigest ≠ row.bodySha256 ∨ expectedDigest ≠ reference.digest ∨
      row.epoch ≠ reference.epoch ∨ row.scope ≠ reference.scope ∨ row.body.scope ≠ row.scope)
    (.dispatchAuthorization "dispatch authorization digest is invalid")
  raiseIf (row.revokedAt ≠ none) (.dispatchAuthorization "dispatch authorization is revoked")
  raiseIf (row.expiresAt ≤ now) (.dispatchAuthorization "dispatch authorization is expired")
  raiseIf (row.scope.permits use = false)
    (.dispatchAuthorization "dispatch authorization scope does not permit request")
  pure reference

/-- `DispatchAuthorityStore.verify`, where nothing is written between its two reads. -/
def verify (sha : Sha256) (tables : AuthorityTables) (now : Timestamp)
    (reference : AuthorizationReference) (use : AuthorityUse) :
    Except MacrError AuthorizationReference :=
  verifyRows sha tables.epoch (tables.authorities.find? reference.key) now reference use

/-- `DispatchAuthorityStore.verify_in_transaction`, under the caller's write lock. -/
def verifyInTransaction (sha : Sha256) (tables : AuthorityTables) (now : Timestamp)
    (reference : AuthorizationReference) (use : AuthorityUse) :
    Except MacrError AuthorizationReference := do
  let epochRow := tables.epoch
  let found := tables.authorities.find? reference.key
  raiseIf (reference.epoch ≠ epochRow.epoch)
    (.dispatchAuthorization "dispatch authorization has a stale epoch")
  raiseIf (epochRow.state ≠ .open)
    (.dispatchAuthorization "dispatch authorization state is not open")
  let row ← require found (.dispatchAuthorization "dispatch authorization record is missing")
  raiseIf (¬row.scope.Rereads)
    (.dispatchAuthorization "dispatch authorization digest is invalid")
  let expectedDigest := sha.sha256 row.body.toDict
  raiseIf (expectedDigest ≠ row.bodySha256 ∨ expectedDigest ≠ reference.digest ∨
      row.epoch ≠ reference.epoch ∨ row.scope ≠ reference.scope ∨ row.body.scope ≠ row.scope)
    (.dispatchAuthorization "dispatch authorization digest is invalid")
  raiseIf (row.revokedAt ≠ none) (.dispatchAuthorization "dispatch authorization is revoked")
  raiseIf (row.expiresAt ≤ now) (.dispatchAuthorization "dispatch authorization is expired")
  raiseIf (row.scope.permits use = false)
    (.dispatchAuthorization "dispatch authorization scope does not permit request")
  pure reference

/-- The two verifiers are one function of the database, the time and the arguments. -/
theorem verifyInTransaction_eq_verify : verifyInTransaction = verify := rfl

/-- A reference is of the current epoch, open, unrevoked, unexpired and of sufficient scope. -/
structure Current (sha : Sha256) (tables : AuthorityTables) (now : Timestamp)
    (reference : AuthorizationReference) (use : AuthorityUse) : Prop where
  /-- The reference was issued in the stored epoch. -/
  epoch : reference.epoch = tables.epoch.epoch
  /-- Dispatch is open. -/
  isOpen : tables.epoch.state = .open
  /-- An unrevoked, unexpired row backs the reference, with its digest and scope. -/
  backed : ∃ row ∈ tables.authorities.rows, row.key = reference.key ∧
    sha.sha256 row.body.toDict = row.bodySha256 ∧ row.bodySha256 = reference.digest ∧
    row.epoch = reference.epoch ∧ row.scope = reference.scope ∧ row.body.scope = row.scope ∧
    row.revokedAt = none ∧ now < row.expiresAt
  /-- The scope permits the use. -/
  permitted : reference.scope.permits use = true
  /-- The stored scope can be read back. -/
  rereads : reference.scope.Rereads

/-- A reference is accepted exactly when it is current. -/
theorem verify_eq_ok (sha : Sha256) (tables : AuthorityTables) (now : Timestamp)
    (reference result : AuthorizationReference) (use : AuthorityUse) :
    verify sha tables now reference use = .ok result ↔
      result = reference ∧ Current sha tables now reference use := by
  simp only [verify, verifyRows, bind_eq_ok, raiseIf_eq_ok, require_eq_ok, pure_eq_ok,
    Table.find?_eq_some, exists_const, not_not, not_or, Bool.not_eq_false, Nat.not_le]
  constructor
  · rintro ⟨epoch, isOpen, row, ⟨stored, same⟩, rereads, ⟨body, digest, rowEpoch, scope,
      bodyScope⟩, unrevoked, unexpired, permitted, rfl⟩
    exact ⟨rfl, epoch, isOpen, ⟨row, stored, same, body, body ▸ digest, rowEpoch, scope,
      bodyScope, unrevoked, unexpired⟩, scope ▸ permitted, scope ▸ rereads⟩
  · rintro ⟨rfl, epoch, isOpen, ⟨row, stored, same, body, digest, rowEpoch, scope, bodyScope,
      unrevoked, unexpired⟩, permitted, rereads⟩
    exact ⟨epoch, isOpen, row, ⟨stored, same⟩, scope ▸ rereads, ⟨body, body.trans digest,
      rowEpoch, scope, bodyScope⟩, unrevoked, unexpired, scope ▸ permitted, rfl⟩

/-- The only error a verification raises is a refused authorization. -/
theorem verify_error {sha : Sha256} {tables : AuthorityTables} {now : Timestamp}
    {reference : AuthorizationReference} {use : AuthorityUse} {error : MacrError}
    (raised : verify sha tables now reference use = .error error) :
    ∃ message, error = .dispatchAuthorization message := by
  simp only [verify, verifyRows, bind_eq_error, raiseIf_eq_error, require_eq_error, pure,
    Except.pure, reduceCtorEq, and_false, exists_false, or_false] at raised
  rcases raised with ⟨_, rfl⟩ | ⟨_, _, ⟨_, rfl⟩ | ⟨_, _, ⟨_, rfl⟩ | ⟨_, _, ⟨_, rfl⟩ |
    ⟨_, _, ⟨_, rfl⟩ | ⟨_, _, ⟨_, rfl⟩ | ⟨_, _, ⟨_, rfl⟩ | ⟨_, _, _, rfl⟩⟩⟩⟩⟩⟩⟩ <;>
    exact ⟨_, rfl⟩

/-! ## Revocations last -/

/-- The authority of a key is revoked or consumed. -/
def Revoked (tables : AuthorityTables) (key : String × String × Nat) : Prop :=
  ∃ row ∈ tables.authorities.rows, row.key = key ∧ row.revokedAt ≠ none

instance (tables : AuthorityTables) (key : String × String × Nat) :
    Decidable (tables.Revoked key) :=
  inferInstanceAs (Decidable (∃ row ∈ tables.authorities.rows, row.key = key ∧ row.revokedAt ≠ none))

/-- A revoked authority backs no current reference. -/
theorem not_current_of_revoked {sha : Sha256} {tables : AuthorityTables} {now : Timestamp}
    {reference : AuthorizationReference} {use : AuthorityUse}
    (revoked : tables.Revoked reference.key) : ¬tables.Current sha now reference use := by
  intro current
  obtain ⟨row, stored, named, isRevoked⟩ := revoked
  obtain ⟨other, otherStored, otherNamed, _, _, _, _, _, unrevoked, _⟩ := current.backed
  have same := tables.authorities.eq_of_key stored otherStored (named.trans otherNamed.symm)
  exact isRevoked (same ▸ unrevoked)

/-- Setting `revoked_at` keeps every revocation. -/
theorem revoked_of_revokeWhere {tables : AuthorityTables} {key : String × String × Nat}
    (revoked : tables.Revoked key) (condition : AuthorityRow → Bool) (now : Timestamp) :
    (tables.revokeWhere condition now).Revoked key := by
  obtain ⟨row, stored, named, isRevoked⟩ := revoked
  refine ⟨_, Table.mem_update_of_mem tables.authorities condition _ (by intro _; rfl) stored, ?_, ?_⟩
  · split <;> exact named
  · split
    · simp
    · exact isRevoked

/-- Setting `revoked_at` on a row revokes its authority. -/
theorem revokeWhere_revokes {tables : AuthorityTables} {row : AuthorityRow}
    {key : String × String × Nat} (stored : row ∈ tables.authorities.rows)
    (named : row.key = key) {condition : AuthorityRow → Bool} (met : condition row = true)
    (now : Timestamp) : (tables.revokeWhere condition now).Revoked key := by
  refine ⟨_, Table.mem_update_of_mem tables.authorities condition _ (by intro _; rfl) stored, ?_, ?_⟩
  · rw [if_pos met]
    exact named
  · rw [if_pos met]
    simp

/-- Issuing an authority keeps every revocation. -/
theorem revoked_of_issue {sha : Sha256} {tables : AuthorityTables} {sourceKind sourceId : String}
    {scope : AuthorityScope} {expiresAt now : Timestamp} {authorityId : Uuid}
    {key : String × String × Nat} (revoked : tables.Revoked key) :
    (settle tables
      (tables.issue sha sourceKind sourceId scope expiresAt now authorityId)).1.Revoked key := by
  cases done : tables.issue sha sourceKind sourceId scope expiresAt now authorityId with
  | error error => exact revoked
  | ok result =>
    simp only [issue, bind_eq_ok, raiseIf_eq_ok, exists_const, require_eq_ok,
      Table.insert?_eq_some, commit_eq_ok] at done
    obtain ⟨_, _, _, authorities, ⟨fresh, rfl⟩, rfl⟩ := done
    obtain ⟨row, stored, named, isRevoked⟩ := revoked
    exact ⟨row, List.mem_append_left _ stored, named, isRevoked⟩

/-- Revoking an authority keeps every revocation. -/
theorem revoked_of_revoke {tables : AuthorityTables} {reference : AuthorizationReference}
    {now : Timestamp} {key : String × String × Nat} (revoked : tables.Revoked key) :
    (settle tables (tables.revoke reference now)).1.Revoked key := by
  cases done : tables.revoke reference now with
  | error error => exact revoked
  | ok result =>
    simp only [revoke, bind_eq_ok] at done
    obtain ⟨row, _, rest⟩ := done
    split at rest
    · rw [commit_eq_ok] at rest
      rw [settle, rest]
      exact revoked_of_revokeWhere revoked _ now
    · rw [commit_eq_ok] at rest
      rw [settle, rest]
      exact revoked

end AuthorityTables
end Macr
