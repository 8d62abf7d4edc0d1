import Macr.Canonical
import Macr.Errors

/-!
# Agent run contracts

The values an agent run is created from and the projection its events rebuild. A header, a
permit and a projection are constructed values: texts are stripped and bounded, identifiers and
digests well formed, and what a constructor checks between fields is a field here. Records are
stored as canonical JSON and read back through the same constructors, so a stored record is the
record itself.
-/

namespace Macr

/-- `AgentRunState`. -/
inductive AgentRunState where
  | created
  | admitted
  | active
  | waiting
  | suspended
  | waking
  | blocked
  | reconciliationRequired
  | completed
  | failed
  | cancelled
deriving DecidableEq, Repr

/-- The stored text of a state. -/
def AgentRunState.value : AgentRunState → String
  | .created => "created"
  | .admitted => "admitted"
  | .active => "active"
  | .waiting => "waiting"
  | .suspended => "suspended"
  | .waking => "waking"
  | .blocked => "blocked"
  | .reconciliationRequired => "reconciliation_required"
  | .completed => "completed"
  | .failed => "failed"
  | .cancelled => "cancelled"

/-- `is_terminal_agent_run_state`. -/
def AgentRunState.isTerminal : AgentRunState → Bool
  | .completed | .failed | .cancelled => true
  | _ => false

/-- The states in which a run can have an owner. -/
def AgentRunState.ownable : AgentRunState → Bool
  | .admitted | .active | .blocked => true
  | _ => false

/-- `PHASE_B_TRANSITIONS`. -/
def AgentRunState.successors : AgentRunState → List AgentRunState
  | .created => [.admitted, .cancelled]
  | .admitted => [.active, .failed, .cancelled]
  | .active => [.blocked, .completed, .failed, .cancelled]
  | .blocked => [.active, .failed, .cancelled]
  | _ => []

/-- `require_phase_b_transition`. -/
def requirePhaseBTransition (source target : AgentRunState) : Except MacrError Unit :=
  raiseIf (target ∉ source.successors) (.agentState "ILLEGAL_AGENT_RUN_TRANSITION"
    s!"AgentRun transition {source.value} -> {target.value} is not allowed")

@[simp] theorem requirePhaseBTransition_eq_ok {source target : AgentRunState} {value : Unit} :
    requirePhaseBTransition source target = .ok value ↔ target ∈ source.successors := by
  simp [requirePhaseBTransition]

/-- A terminal state has no successor. -/
theorem AgentRunState.successors_of_isTerminal {state : AgentRunState}
    (terminal : state.isTerminal = true) : state.successors = [] := by
  cases state <;> simp_all [isTerminal, successors]

/-- A terminal state has no owner. -/
theorem AgentRunState.not_ownable_of_isTerminal {state : AgentRunState}
    (terminal : state.isTerminal = true) : state.ownable = false := by
  cases state <;> simp_all [isTerminal, ownable]

/-- Where an owner can be, a transition leads to such a state or to a terminal one. -/
theorem AgentRunState.ownable_or_isTerminal {source target : AgentRunState}
    (ownable : source.ownable = true) (allowed : target ∈ source.successors) :
    target.ownable = true ∨ target.isTerminal = true := by
  cases source <;> simp [AgentRunState.ownable, successors] at ownable allowed <;>
    rcases allowed with rfl | rfl | rfl | rfl <;> simp [AgentRunState.ownable, isTerminal]

/-! ## Bindings -/

/-- The reference of a binding: that of a semantic graph, or another text. -/
inductive BindingRef where
  | text (value : String)
  | semanticGraph (graphId : Uuid)
deriving DecidableEq

/-- The document of a reference; the two parts of a graph's reference are kept apart. -/
def BindingRef.toJson : BindingRef → Json
  | .text value => .str value
  | .semanticGraph graphId => .arr [.str "semantic-graph:", .hex graphId]

/-- `_VersionedBinding`: goals, budgets, plans, worlds and semantic states are bound alike. -/
structure VersionedBinding where
  /-- What is bound. -/
  ref : BindingRef
  /-- Its digest. -/
  digest : Digest
  /-- Its revision. -/
  revision : Nat
  /-- Revisions start at one. -/
  positive : 0 < revision
deriving DecidableEq

namespace VersionedBinding

/-- The hashed fields of a binding. -/
def identityFields (binding : VersionedBinding) : List (String × Json) :=
  [("ref", binding.ref.toJson), ("digest", .hex binding.digest),
    ("revision", .int binding.revision)]

/-- `binding_digest`, under the namespace of the kind of binding. -/
def bindingDigest (sha : Sha256) (bindingNamespace : String) (binding : VersionedBinding) :
    Digest :=
  sha.sha256Id bindingNamespace (.obj binding.identityFields)

/-- `to_public_dict`. -/
def toPublicDict (sha : Sha256) (bindingNamespace : String) (binding : VersionedBinding) : Json :=
  .obj (binding.identityFields ++
    [("binding_digest", .hex (binding.bindingDigest sha bindingNamespace))])

end VersionedBinding

/-- `SemanticStateBinding`. -/
abbrev SemanticStateBinding := VersionedBinding

/-- `_NAMESPACE` of a semantic state binding. -/
def semanticStateNamespace : String := "macr.agent.semantic-state-binding.v1"

/-- The `AuthorizationReference` an agent run is bound to. Its scope is only compared and hashed,
so it is a text here. -/
structure AuthorityBinding where
  /-- The kind of the authority's source. -/
  sourceKind : String
  /-- The authority's source. -/
  sourceId : String
  /-- The digest of the issued body. -/
  digest : Digest
  /-- The source's revision of the authority. -/
  revision : Nat
  /-- The epoch it was issued in. -/
  epoch : Nat
  /-- The scope text. -/
  scope : String
deriving DecidableEq

/-- `_reference_dict`. -/
def AuthorityBinding.referenceFields (reference : AuthorityBinding) : List (String × Json) :=
  [("source_kind", .str reference.sourceKind), ("source_id", .str reference.sourceId),
    ("digest", .hex reference.digest), ("revision", .int reference.revision),
    ("epoch", .int reference.epoch), ("scope", .str reference.scope)]

/-- `AuthorityBinding.to_public_dict`. -/
def AuthorityBinding.toPublicDict (sha : Sha256) (reference : AuthorityBinding) : Json :=
  .obj (reference.referenceFields ++ [("binding_digest",
    .hex (sha.sha256Id "macr.agent.authority-binding.v1" (.obj reference.referenceFields)))])

/-- `MemoryBindingRef`. -/
structure MemoryBindingRef where
  /-- The memory system. -/
  memorySystemId : String
  /-- Its profile. -/
  profileId : String
  /-- The remembered subject. -/
  subjectRef : String
  /-- The head and its digest, present together. -/
  head : Option (String × Digest)
  /-- The access policy. -/
  accessPolicyRef : String
  /-- The projection policy. -/
  projectionPolicyRef : String
deriving DecidableEq

/-- The hashed fields of a memory binding. -/
def MemoryBindingRef.identityFields (binding : MemoryBindingRef) : List (String × Json) :=
  [("memory_system_id", .str binding.memorySystemId), ("profile_id", .str binding.profileId),
    ("subject_ref", .str binding.subjectRef),
    ("head_ref", .optStr (binding.head.map (·.1))),
    ("head_digest", .optHex (binding.head.map (·.2))),
    ("access_policy_ref", .str binding.accessPolicyRef),
    ("projection_policy_ref", .str binding.projectionPolicyRef)]

/-- `MemoryBindingRef.to_public_dict`. -/
def MemoryBindingRef.toPublicDict (sha : Sha256) (binding : MemoryBindingRef) : Json :=
  .obj (binding.identityFields ++ [("binding_digest",
    .hex (sha.sha256Id "macr.agent.memory-binding.v1" (.obj binding.identityFields)))])

/-! ## Headers -/

/-- `AgentRunHeader`. -/
structure AgentRunHeader where
  /-- `identity.agent_run_id`. -/
  agentRunId : Uuid
  /-- `identity.subject_digest`. -/
  subjectDigest : Digest
  /-- The agent. -/
  agentRef : String
  /-- The host, the kind of identifier and the native identifier of the origin. -/
  origin : String × String × String
  /-- The state. -/
  state : AgentRunState
  /-- The state's revision. -/
  stateRevision : Nat
  /-- The ownership epoch. -/
  epoch : Nat
  /-- The goal. -/
  goal : VersionedBinding
  /-- The authority. -/
  authority : AuthorityBinding
  /-- The budget. -/
  budget : VersionedBinding
  /-- The semantic state, if bound. -/
  semanticState : Option SemanticStateBinding
  /-- The plan, if bound. -/
  activePlan : Option VersionedBinding
  /-- The worlds. -/
  worldBindings : List VersionedBinding
  /-- The memories. -/
  memoryBindings : List MemoryBindingRef
  /-- The parent run and the delegation, present together. -/
  delegation : Option (Uuid × String)
  /-- When the header was made. -/
  createdAt : Timestamp
deriving DecidableEq

/-- `AgentRunHeader.to_public_dict`. -/
def AgentRunHeader.toPublicDict (sha : Sha256) (header : AgentRunHeader) : Json :=
  .obj
    [("schema_version", .str "macr-agent-run/v1"),
      ("identity", .obj [("agent_run_id", .hex header.agentRunId),
        ("subject_digest", .hex header.subjectDigest)]),
      ("agent_ref", .str header.agentRef),
      ("origin", .obj [("host", .str header.origin.1), ("identifier_kind", .str header.origin.2.1),
        ("native_id", .str header.origin.2.2)]),
      ("state", .str header.state.value),
      ("state_revision", .int header.stateRevision),
      ("epoch", .int header.epoch),
      ("goal", header.goal.toPublicDict sha "macr.agent.goal-binding.v1"),
      ("authority", header.authority.toPublicDict sha),
      ("budget", header.budget.toPublicDict sha "macr.agent.budget-binding.v1"),
      ("semantic_state", (header.semanticState.map
        (·.toPublicDict sha semanticStateNamespace)).getD .null),
      ("active_plan", (header.activePlan.map
        (·.toPublicDict sha "macr.agent.plan-binding.v1")).getD .null),
      ("world_bindings", .arr (header.worldBindings.map
        (·.toPublicDict sha "macr.agent.world-binding.v1"))),
      ("memory_bindings", .arr (header.memoryBindings.map (·.toPublicDict sha))),
      ("parent_agent_run_id", .optHex (header.delegation.map (·.1))),
      ("delegation_ref", .optStr (header.delegation.map (·.2))),
      ("created_at", .time header.createdAt)]

/-- The header describes a run that has just been created. -/
def AgentRunHeader.IsCreation (header : AgentRunHeader) : Prop :=
  header.state = .created ∧ header.stateRevision = 1 ∧ header.epoch = 0

instance (header : AgentRunHeader) : Decidable header.IsCreation :=
  inferInstanceAs (Decidable (_ ∧ _ ∧ _))

/-! ## Projections -/

/-- `AgentRunProjection`. -/
structure AgentRunProjection where
  /-- The header the run was created from. -/
  initialHeader : AgentRunHeader
  /-- The state. -/
  state : AgentRunState
  /-- The number of events so far. -/
  stateRevision : Nat
  /-- The number of acquisitions so far. -/
  epoch : Nat
  /-- The time of the last event. -/
  updatedAt : Timestamp
  /-- The header is that of a creation. -/
  creation : initialHeader.IsCreation
  /-- Revisions start at one. -/
  positive : 0 < stateRevision
deriving DecidableEq

namespace AgentRunProjection

/-- `agent_run_id`. -/
def agentRunId (projection : AgentRunProjection) : Uuid := projection.initialHeader.agentRunId

/-- `subject_digest`. -/
def subjectDigest (projection : AgentRunProjection) : Digest :=
  projection.initialHeader.subjectDigest

/-- `state_digest`; the time of the last event is not hashed. -/
def stateDigest (sha : Sha256) (projection : AgentRunProjection) : Digest :=
  sha.sha256Id "macr.agent.projection.v1" (.obj
    [("schema_version", .str "macr-agent-projection/v1"),
      ("agent_run_id", .hex projection.agentRunId),
      ("subject_digest", .hex projection.subjectDigest),
      ("initial_header", projection.initialHeader.toPublicDict sha),
      ("state", .str projection.state.value),
      ("state_revision", .int projection.stateRevision),
      ("epoch", .int projection.epoch)])

/-- `from_creation_header`. -/
def fromCreationHeader (header : AgentRunHeader) (updatedAt : Timestamp) :
    Except MacrError AgentRunProjection :=
  if creation : header.IsCreation then
    .ok ⟨header, .created, 1, 0, updatedAt, creation, Nat.one_pos⟩
  else
    .error (.valueError "AgentRun creation requires exactly CREATED/revision 1/epoch 0")

/-- The projection after one event of a target state and epoch. -/
def next (current : AgentRunProjection) (state : AgentRunState) (epoch : Nat)
    (updatedAt : Timestamp) : AgentRunProjection :=
  { current with
    state := state
    stateRevision := current.stateRevision + 1
    epoch := epoch
    updatedAt := updatedAt
    positive := Nat.succ_pos _ }

/-- A creation that succeeds starts the run from its header. -/
theorem fromCreationHeader_eq_ok {header : AgentRunHeader} {updatedAt : Timestamp}
    {projection : AgentRunProjection}
    (made : fromCreationHeader header updatedAt = .ok projection) :
    projection.initialHeader = header ∧ projection.state = .created ∧
      projection.stateRevision = 1 ∧ projection.epoch = 0 ∧ projection.updatedAt = updatedAt := by
  unfold fromCreationHeader at made
  split at made
  · rw [← Except.ok.inj made]
    exact ⟨rfl, rfl, rfl, rfl, rfl⟩
  · exact absurd made (by simp)

end AgentRunProjection

/-! ## Permits -/

/-- `AgentOwnershipPermit`. -/
structure AgentOwnershipPermit where
  /-- The owned run. -/
  agentRunId : Uuid
  /-- The owner. -/
  ownerId : String
  /-- The lease. -/
  leaseId : Uuid
  /-- The token of the acquisition. -/
  fencingToken : Nat
  /-- The run's epoch. -/
  epoch : Nat
  /-- The run's revision when the permit was made. -/
  revision : Nat
  /-- When the run was acquired. -/
  acquiredAt : Timestamp
  /-- When the lease expires. -/
  expiresAt : Timestamp
  /-- Tokens, epochs and revisions start at one. -/
  positive : 0 < fencingToken ∧ 0 < epoch ∧ 0 < revision
  /-- The lease outlasts its acquisition. -/
  lasting : acquiredAt < expiresAt
deriving DecidableEq

/-- `AgentOwnershipPermit.__post_init__`. -/
def AgentOwnershipPermit.create (agentRunId : Uuid) (ownerId : String) (leaseId : Uuid)
    (fencingToken epoch revision : Nat) (acquiredAt expiresAt : Timestamp) :
    Except MacrError AgentOwnershipPermit :=
  if positive : 0 < fencingToken ∧ 0 < epoch ∧ 0 < revision then
    if lasting : acquiredAt < expiresAt then
      .ok ⟨agentRunId, ownerId, leaseId, fencingToken, epoch, revision, acquiredAt, expiresAt,
        positive, lasting⟩
    else
      .error (.valueError "ownership expiry must be after acquisition")
  else
    .error (.valueError "fencing_token, epoch and revision must be positive integers")

/-- `ownership_permit_digest`. -/
def AgentOwnershipPermit.digest (sha : Sha256) (permit : AgentOwnershipPermit) : Digest :=
  sha.sha256Id "macr.agent.ownership-permit.v1" (.obj
    [("agent_run_id", .hex permit.agentRunId), ("owner_id", .str permit.ownerId),
      ("lease_id", .hex permit.leaseId), ("fencing_token", .int permit.fencingToken),
      ("epoch", .int permit.epoch), ("revision", .int permit.revision),
      ("acquired_at", .time permit.acquiredAt), ("expires_at", .time permit.expiresAt)])

/-- A permit that is made has the fields it was made from. -/
theorem AgentOwnershipPermit.create_eq_ok {agentRunId leaseId : Uuid} {ownerId : String}
    {fencingToken epoch revision : Nat} {acquiredAt expiresAt : Timestamp}
    {permit : AgentOwnershipPermit}
    (made : create agentRunId ownerId leaseId fencingToken epoch revision acquiredAt expiresAt =
      .ok permit) :
    permit.agentRunId = agentRunId ∧ permit.ownerId = ownerId ∧ permit.leaseId = leaseId ∧
      permit.fencingToken = fencingToken ∧ permit.epoch = epoch ∧ permit.revision = revision ∧
      permit.acquiredAt = acquiredAt ∧ permit.expiresAt = expiresAt := by
  unfold create at made
  split at made
  · split at made
    · rw [← Except.ok.inj made]
      exact ⟨rfl, rfl, rfl, rfl, rfl, rfl, rfl, rfl⟩
    · exact absurd made (by simp)
  · exact absurd made (by simp)

end Macr
