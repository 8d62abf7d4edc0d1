import Macr.Agent.Contracts

/-!
# Semantic contracts

Nodes, relations and patches of semantic graphs, and the registry that says which relations may
join which types of nodes. As in the agent contracts, a value is one its constructor has accepted.
A record is identified by the digest of its document.
-/

namespace Macr

/-- `SemanticNodeType`. -/
inductive SemanticNodeType where
  | goal
  | trigger
  | observation
  | claim
  | hypothesis
  | plan
  | task
  | actionProposal
  | constraint
  | decision
  | receipt
  | verification
  | checkpoint
  | failure
  | wakeCondition
  | ambiguity
  | obligation
deriving DecidableEq, Repr

/-- The text of a node type. -/
def SemanticNodeType.value : SemanticNodeType → String
  | .goal => "goal"
  | .trigger => "trigger"
  | .observation => "observation"
  | .claim => "claim"
  | .hypothesis => "hypothesis"
  | .plan => "plan"
  | .task => "task"
  | .actionProposal => "action_proposal"
  | .constraint => "constraint"
  | .decision => "decision"
  | .receipt => "receipt"
  | .verification => "verification"
  | .checkpoint => "checkpoint"
  | .failure => "failure"
  | .wakeCondition => "wake_condition"
  | .ambiguity => "ambiguity"
  | .obligation => "obligation"

/-- `SemanticLifecycleStatus`, `ClaimStatus` and `ResolutionStatus`: the three families of
statuses, each with its texts. -/
inductive SemanticStatus where
  | lifecycle (value : String)
  | claim (value : String)
  | resolution (value : String)
deriving DecidableEq, Repr

namespace SemanticStatus

/-- The text of a status. -/
def value : SemanticStatus → String
  | lifecycle value | claim value | resolution value => value

/-- The texts of `SemanticLifecycleStatus`. -/
def lifecycleTexts : List String :=
  ["proposed", "active", "stale", "superseded", "completed", "failed"]

/-- The texts of `ClaimStatus`. -/
def claimTexts : List String :=
  ["proposed", "active", "supported", "contested", "verified", "refuted", "stale", "superseded",
    "unresolved"]

/-- The texts of `ResolutionStatus`. -/
def resolutionTexts : List String := ["unresolved", "resolved"]

/-- The status of a node type with a text, if its family has the text. -/
def ofText (nodeType : SemanticNodeType) (text : String) : Option SemanticStatus :=
  match nodeType with
  | .claim | .hypothesis => if text ∈ claimTexts then some (.claim text) else none
  | .ambiguity | .obligation => if text ∈ resolutionTexts then some (.resolution text) else none
  | _ => if text ∈ lifecycleTexts then some (.lifecycle text) else none

end SemanticStatus

/-- `SemanticRelationType`. -/
inductive SemanticRelationType where
  | supports
  | contradicts
  | dependsOn
  | derivedFrom
  | observes
  | describes
  | constrains
  | motivates
  | targets
  | affects
  | expects
  | produced
  | verifies
  | refutes
  | supersedes
  | revises
  | blocks
  | resolves
  | causes
  | precedes
  | follows
  | waitsFor
deriving DecidableEq, Repr

/-- The text of a relation type. -/
def SemanticRelationType.value : SemanticRelationType → String
  | .supports => "supports"
  | .contradicts => "contradicts"
  | .dependsOn => "depends_on"
  | .derivedFrom => "derived_from"
  | .observes => "observes"
  | .describes => "describes"
  | .constrains => "constrains"
  | .motivates => "motivates"
  | .targets => "targets"
  | .affects => "affects"
  | .expects => "expects"
  | .produced => "produced"
  | .verifies => "verifies"
  | .refutes => "refutes"
  | .supersedes => "supersedes"
  | .revises => "revises"
  | .blocks => "blocks"
  | .resolves => "resolves"
  | .causes => "causes"
  | .precedes => "precedes"
  | .follows => "follows"
  | .waitsFor => "waits_for"

/-! ## Records -/

/-- `SemanticProvenance`. -/
structure SemanticProvenance where
  /-- The kind of the origin. -/
  originKind : String
  /-- The origin. -/
  originRef : String
  /-- The sources. -/
  sourceRefs : List String
  /-- The run that made the record. -/
  agentRunId : Option Uuid
  /-- Who made it. -/
  createdByRef : String
  /-- When. -/
  createdAt : Timestamp
deriving DecidableEq

namespace SemanticProvenance

/-- The hashed fields. -/
def identityFields (provenance : SemanticProvenance) : List (String × Json) :=
  [("origin_kind", .str provenance.originKind), ("origin_ref", .str provenance.originRef),
    ("source_refs", .arr (provenance.sourceRefs.map .str)),
    ("agent_run_id", .optHex provenance.agentRunId),
    ("created_by_ref", .str provenance.createdByRef), ("created_at", .time provenance.createdAt)]

/-- `provenance_digest`. -/
def digest (sha : Sha256) (provenance : SemanticProvenance) : Digest :=
  sha.sha256Id "macr.semantic.provenance.v1" (.obj provenance.identityFields)

/-- `to_public_dict`. -/
def toPublicDict (sha : Sha256) (provenance : SemanticProvenance) : Json :=
  .obj (provenance.identityFields ++ [("provenance_digest", .hex (provenance.digest sha))])

end SemanticProvenance

/-- `ExternalSemanticBinding`. Its `semantic_ref` is the identifier of the node that carries it. -/
structure ExternalSemanticBinding where
  /-- The public document of the profile. -/
  profile : Json
  /-- The digest of the profile. -/
  profileBindingDigest : Digest
  /-- The bound object. -/
  externalObjectRef : String
  /-- The digest of the bound object. -/
  externalObjectDigest : Digest
  /-- `binding_kind`. -/
  bindingKind : String
  /-- `artifact_role`. -/
  artifactRole : String
deriving DecidableEq

namespace ExternalSemanticBinding

/-- The fields after the profile. -/
def objectFields (binding : ExternalSemanticBinding) : List (String × Json) :=
  [("external_object_ref", .str binding.externalObjectRef),
    ("external_object_digest", .hex binding.externalObjectDigest),
    ("binding_kind", .str binding.bindingKind), ("artifact_role", .str binding.artifactRole)]

/-- `binding_digest`. -/
def digest (sha : Sha256) (nodeId : String) (binding : ExternalSemanticBinding) : Digest :=
  sha.sha256Id "macr.semantic.external-binding.v1" (.obj
    ([("semantic_ref", .str nodeId),
      ("profile_binding_digest", .hex binding.profileBindingDigest)] ++ binding.objectFields))

/-- `to_public_dict`. -/
def toPublicDict (sha : Sha256) (nodeId : String) (binding : ExternalSemanticBinding) : Json :=
  .obj ([("semantic_ref", .str nodeId), ("profile", binding.profile)] ++ binding.objectFields ++
    [("binding_digest", .hex (binding.digest sha nodeId))])

end ExternalSemanticBinding

/-- `SemanticNode`. -/
structure SemanticNode where
  /-- The identifier under which relations refer to it. -/
  nodeId : String
  /-- Its type. -/
  nodeType : SemanticNodeType
  /-- Its content. -/
  payload : Json
  /-- Its scope. -/
  scopeRef : String
  /-- Its status. -/
  status : SemanticStatus
  /-- Its effects. -/
  effects : List String
  /-- Its constraints. -/
  constraints : List String
  /-- Its policy. -/
  policy : Json
  /-- Its provenance. -/
  provenance : SemanticProvenance
  /-- Its temporal data. -/
  temporal : Json
  /-- Its bindings to external objects. -/
  externalBindings : List ExternalSemanticBinding
  /-- The status is one of its type's family. -/
  statusFits : SemanticStatus.ofText nodeType status.value = some status
deriving DecidableEq

namespace SemanticNode

/-- `content_digest`. -/
def contentDigest (sha : Sha256) (node : SemanticNode) : Digest :=
  sha.sha256Id "macr.semantic.node-content.v1" (.obj
    [("node_type", .str node.nodeType.value), ("payload", node.payload),
      ("scope_ref", .str node.scopeRef)])

/-- `record_digest`. -/
def recordDigest (sha : Sha256) (node : SemanticNode) : Digest :=
  sha.sha256Id "macr.semantic.node-record.v1" (.obj
    [("node_id", .str node.nodeId), ("content_digest", .hex (node.contentDigest sha)),
      ("status", .str node.status.value), ("effects", .arr (node.effects.map .str)),
      ("constraints", .arr (node.constraints.map .str)), ("policy", node.policy),
      ("provenance_digest", .hex (node.provenance.digest sha)), ("temporal", node.temporal),
      ("external_binding_digests",
        .arr (node.externalBindings.map (fun binding => .hex (binding.digest sha node.nodeId))))])

/-- `to_public_dict`. -/
def toPublicDict (sha : Sha256) (node : SemanticNode) : Json :=
  .obj
    [("node_id", .str node.nodeId), ("node_type", .str node.nodeType.value),
      ("payload", node.payload), ("scope_ref", .str node.scopeRef),
      ("status", .str node.status.value), ("effects", .arr (node.effects.map .str)),
      ("constraints", .arr (node.constraints.map .str)), ("policy", node.policy),
      ("provenance", node.provenance.toPublicDict sha), ("temporal", node.temporal),
      ("external_bindings", .arr (node.externalBindings.map (·.toPublicDict sha node.nodeId))),
      ("content_digest", .hex (node.contentDigest sha)),
      ("record_digest", .hex (node.recordDigest sha))]

/-- The same node with another status, which its constructor checks. -/
def withStatus (node : SemanticNode) (status : SemanticStatus) : Except MacrError SemanticNode :=
  if fits : SemanticStatus.ofText node.nodeType status.value = some status then
    .ok { node with status := status, statusFits := fits }
  else
    .error (.valueError "semantic status does not fit the node type")

/-- A node with another status is the same node otherwise. -/
theorem withStatus_eq_ok {node next : SemanticNode} {status : SemanticStatus}
    (made : node.withStatus status = .ok next) :
    next.nodeId = node.nodeId ∧ next.nodeType = node.nodeType ∧ next.scopeRef = node.scopeRef := by
  unfold withStatus at made
  split at made
  · rw [← Except.ok.inj made]
    exact ⟨rfl, rfl, rfl⟩
  · exact absurd made (by simp)

end SemanticNode

/-- `SemanticRelation`. -/
structure SemanticRelation where
  /-- Its identifier. -/
  relationId : String
  /-- The identifier of the source node. -/
  sourceRef : String
  /-- Its type. -/
  relationType : SemanticRelationType
  /-- The identifier of the target node. -/
  targetRef : String
  /-- Its qualifiers. -/
  qualifiers : Json
  /-- Its provenance. -/
  provenance : SemanticProvenance
deriving DecidableEq

namespace SemanticRelation

/-- The fields before the provenance. -/
def edgeFields (relation : SemanticRelation) : List (String × Json) :=
  [("relation_id", .str relation.relationId), ("source_ref", .str relation.sourceRef),
    ("relation_type", .str relation.relationType.value), ("target_ref", .str relation.targetRef),
    ("qualifiers", relation.qualifiers)]

/-- `relation_digest`. -/
def relationDigest (sha : Sha256) (relation : SemanticRelation) : Digest :=
  sha.sha256Id "macr.semantic.relation.v1" (.obj (relation.edgeFields ++
    [("provenance_digest", .hex (relation.provenance.digest sha))]))

/-- `to_public_dict`. -/
def toPublicDict (sha : Sha256) (relation : SemanticRelation) : Json :=
  .obj (relation.edgeFields ++ [("provenance", relation.provenance.toPublicDict sha),
    ("relation_digest", .hex (relation.relationDigest sha))])

end SemanticRelation

/-- `SemanticPatch`. A status update is the object it was given as; a supersession reference is
`.hex` where it is a well-formed digest. -/
structure SemanticPatch where
  /-- Its identifier. -/
  patchId : String
  /-- The digest of the graph it is for. -/
  baseGraphDigest : Digest
  /-- The nodes it adds, in the order of their digests. -/
  addNodes : List SemanticNode
  /-- The relations it adds, in the order of their digests. -/
  addRelations : List SemanticRelation
  /-- The status updates. -/
  statusUpdates : List (List (String × Json))
  /-- The records it supersedes. -/
  supersessionRefs : List Json
  /-- Who made it. -/
  producerRef : String
deriving DecidableEq

namespace SemanticPatch

/-- The fields after the added records. -/
def updateFields (patch : SemanticPatch) : List (String × Json) :=
  [("status_updates", .arr (patch.statusUpdates.map .obj)),
    ("supersession_refs", .arr patch.supersessionRefs), ("producer_ref", .str patch.producerRef)]

/-- `patch_digest`. -/
def patchDigest (sha : Sha256) (patch : SemanticPatch) : Digest :=
  sha.sha256Id "macr.semantic.patch.v1" (.obj
    ([("patch_id", .str patch.patchId), ("base_graph_digest", .hex patch.baseGraphDigest),
      ("add_node_digests", .arr (patch.addNodes.map (fun node => .hex (node.recordDigest sha)))),
      ("add_relation_digests",
        .arr (patch.addRelations.map (fun relation => .hex (relation.relationDigest sha))))] ++
      patch.updateFields))

/-- `to_public_dict`. -/
def toPublicDict (sha : Sha256) (patch : SemanticPatch) : Json :=
  .obj ([("patch_id", .str patch.patchId), ("base_graph_digest", .hex patch.baseGraphDigest),
      ("add_nodes", .arr (patch.addNodes.map (·.toPublicDict sha))),
      ("add_relations", .arr (patch.addRelations.map (·.toPublicDict sha)))] ++
    patch.updateFields ++ [("patch_digest", .hex (patch.patchDigest sha))])

end SemanticPatch

/-! ## The registry -/

/-- An entry of a direction rule: every node type, or one. -/
inductive RuleEntry where
  | wildcard
  | nodeType (nodeType : SemanticNodeType)
deriving DecidableEq, Repr

/-- The direction rule of a relation type. -/
structure RelationRule where
  /-- `source_types`. -/
  sourceTypes : List RuleEntry
  /-- `target_types`. -/
  targetTypes : List RuleEntry

/-- `SemanticRegistry`. Its constructor requires every node type, relation type and status to be
registered, so the checks of these names pass. -/
structure SemanticRegistry where
  /-- Its version. -/
  registryVersion : String
  /-- Its digest. -/
  registryDigest : Digest
  /-- The rule of each relation type. -/
  relationRules : SemanticRelationType → RelationRule
  /-- The known effects. -/
  effectTypes : List String

/-- The entries of a rule admit a node type. -/
def ruleAdmits (entries : List RuleEntry) (nodeType : SemanticNodeType) : Bool :=
  .wildcard ∈ entries || .nodeType nodeType ∈ entries

namespace SemanticRegistry

/-- The registry allows a relation type between two node types. -/
def allows (registry : SemanticRegistry) (source : SemanticNodeType)
    (relation : SemanticRelationType) (target : SemanticNodeType) : Bool :=
  ruleAdmits (registry.relationRules relation).sourceTypes source &&
    ruleAdmits (registry.relationRules relation).targetTypes target

/-- `require_relation`. -/
def requireRelation (registry : SemanticRegistry) (source : SemanticNodeType)
    (relation : SemanticRelationType) (target : SemanticNodeType) : Except MacrError Unit :=
  raiseIf (¬registry.allows source relation target)
    (.semanticState "SEMANTIC_REGISTRY_MISMATCH" "semantic relation direction is not allowed")

@[simp] theorem requireRelation_eq_ok {registry : SemanticRegistry}
    {source target : SemanticNodeType} {relation : SemanticRelationType} {value : Unit} :
    registry.requireRelation source relation target = .ok value ↔
      registry.allows source relation target = true := by
  simp [requireRelation]

end SemanticRegistry

/-- The rules of `registry-v1.json`. -/
def builtinRules : SemanticRelationType → RelationRule
  | .affects | .causes | .dependsOn | .derivedFrom | .describes | .follows | .precedes | .revises
  | .supersedes => ⟨[.wildcard], [.wildcard]⟩
  | .blocks =>
    ⟨[.nodeType .ambiguity, .nodeType .constraint, .nodeType .failure, .nodeType .obligation],
      [.nodeType .actionProposal, .nodeType .decision, .nodeType .goal, .nodeType .plan,
        .nodeType .task]⟩
  | .constrains =>
    ⟨[.nodeType .constraint],
      [.nodeType .actionProposal, .nodeType .decision, .nodeType .goal, .nodeType .plan,
        .nodeType .task]⟩
  | .contradicts | .supports =>
    ⟨[.nodeType .claim, .nodeType .hypothesis, .nodeType .observation, .nodeType .verification],
      [.nodeType .claim, .nodeType .decision, .nodeType .goal, .nodeType .hypothesis,
        .nodeType .plan]⟩
  | .expects =>
    ⟨[.nodeType .actionProposal, .nodeType .plan, .nodeType .task],
      [.nodeType .observation, .nodeType .receipt, .nodeType .verification]⟩
  | .motivates =>
    ⟨[.nodeType .ambiguity, .nodeType .claim, .nodeType .goal, .nodeType .hypothesis,
        .nodeType .obligation, .nodeType .observation],
      [.nodeType .actionProposal, .nodeType .decision, .nodeType .plan, .nodeType .task]⟩
  | .observes => ⟨[.nodeType .observation], [.wildcard]⟩
  | .produced =>
    ⟨[.nodeType .actionProposal, .nodeType .plan, .nodeType .task],
      [.nodeType .failure, .nodeType .observation, .nodeType .receipt]⟩
  | .refutes =>
    ⟨[.nodeType .observation, .nodeType .verification], [.nodeType .claim, .nodeType .hypothesis]⟩
  | .resolves =>
    ⟨[.nodeType .decision, .nodeType .observation, .nodeType .verification],
      [.nodeType .ambiguity, .nodeType .failure, .nodeType .obligation]⟩
  | .targets =>
    ⟨[.nodeType .actionProposal, .nodeType .decision, .nodeType .plan, .nodeType .task],
      [.nodeType .constraint, .nodeType .goal, .nodeType .observation, .nodeType .task]⟩
  | .verifies =>
    ⟨[.nodeType .verification],
      [.nodeType .actionProposal, .nodeType .claim, .nodeType .decision, .nodeType .receipt]⟩
  | .waitsFor =>
    ⟨[.nodeType .actionProposal, .nodeType .plan, .nodeType .task, .nodeType .wakeCondition],
      [.nodeType .observation, .nodeType .receipt, .nodeType .task, .nodeType .verification,
        .nodeType .wakeCondition]⟩

end Macr
