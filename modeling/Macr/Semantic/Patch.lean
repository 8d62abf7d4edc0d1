import Macr.Agent.Events
import Macr.Lib.Text
import Macr.Semantic.Contracts

/-!
# Heads, proposals and the patch compiler

A head lists the active records of a graph by digest. The compiler reads a head and its active
records and computes, without writing, the records after a patch: nodes are added or replaced
under a consumed supersession, statuses are updated, and relations are added between the nodes
there are then.
-/

namespace Macr

open Lib

/-- What a semantic store adds to an agent kernel: the registry, and the recognition of local
paths in scopes. -/
structure SemanticKernel extends AgentKernel where
  /-- The registry. -/
  registry : SemanticRegistry
  /-- `_contains_local_path`. -/
  containsLocalPath : String → Bool

/-- `SemanticPatchInvalidError`. -/
def patchInvalid (message : String) : MacrError := .semanticState "SEMANTIC_PATCH_INVALID" message

/-- `SemanticGraphHeadStaleError`. -/
def headStale (message : String) : MacrError := .semanticState "SEMANTIC_GRAPH_HEAD_STALE" message

/-- `SemanticGraphDigestMismatchError`. -/
def graphDigestMismatch (message : String) : MacrError :=
  .semanticState "SEMANTIC_GRAPH_DIGEST_MISMATCH" message

/-- `SemanticSupersessionInvalidError`. -/
def supersessionInvalid (message : String) : MacrError :=
  .semanticState "SEMANTIC_SUPERSESSION_INVALID" message

/-- `SemanticRelationDanglingError`. -/
def relationDangling (message : String) : MacrError :=
  .semanticState "SEMANTIC_RELATION_DANGLING" message

/-! ## Heads and revisions -/

/-- `_digest_tuple`. -/
def digestTuple (name : String) (values : List Digest) : Except MacrError (List Digest) := do
  raiseIf (128 < values.length) (.valueError s!"{name} exceeds its item limit")
  raiseIf (¬values.Nodup) (.valueError s!"{name} must not contain duplicates")
  pure (values.mergeSort (fun left right => decide (left ≤ right)))

/-- The tuple of no digests. -/
theorem digestTuple_nil (name : String) : digestTuple name [] = .ok [] := by
  simp [digestTuple, raiseIf, bind, Except.bind, pure, Except.pure]

/-- A digest tuple is one already. -/
theorem digestTuple_digestTuple {name : String} {values sorted : List Digest}
    (made : digestTuple name values = .ok sorted) : digestTuple name sorted = .ok sorted := by
  simp only [digestTuple, bind_eq_ok, raiseIf_eq_ok, exists_const, pure_eq_ok, not_not] at made ⊢
  obtain ⟨short, distinct, rfl⟩ := made
  have perm : (values.mergeSort (fun left right => decide (left ≤ right))).Perm values :=
    List.mergeSort_perm _ _
  refine ⟨by rw [perm.length_eq]; exact short, perm.nodup_iff.mpr distinct, ?_⟩
  apply List.mergeSort_of_pairwise
  exact List.pairwise_mergeSort
    (fun _ _ _ before after => by simpa using le_trans (by simpa using before) (by simpa using after))
    (fun left right => by simpa using le_total left right) values

/-- `calculate_graph_digest` of two digest tuples. -/
def graphContentDigest (sha : Sha256) (registryVersion : String) (registryDigest : Digest)
    (nodeDigests relationDigests : List Digest) : Digest :=
  sha.sha256Id "macr.semantic.graph-content.v1" (.obj
    [("registry_version", .str registryVersion), ("registry_digest", .hex registryDigest),
      ("active_node_record_digests", .arr (nodeDigests.map .hex)),
      ("active_relation_digests", .arr (relationDigests.map .hex))])

/-- `calculate_graph_digest`. -/
def calculateGraphDigest (sha : Sha256) (registryVersion : String) (registryDigest : Digest)
    (nodeDigests relationDigests : List Digest) : Except MacrError Digest := do
  let nodes ← digestTuple "active_node_record_digests" nodeDigests
  let relations ← digestTuple "active_relation_digests" relationDigests
  pure (graphContentDigest sha registryVersion registryDigest nodes relations)

/-- `SemanticGraphHead`. -/
@[ext]
structure SemanticGraphHead where
  /-- The graph. -/
  graphId : Uuid
  /-- Its scope. -/
  scopeRef : String
  /-- The current revision. -/
  graphRevision : Nat
  /-- The version of the registry. -/
  registryVersion : String
  /-- The digest of the registry. -/
  registryDigest : Digest
  /-- The active nodes, in the order of their digests. -/
  activeNodeRecordDigests : List Digest
  /-- The active relations, in the order of their digests. -/
  activeRelationDigests : List Digest
  /-- The run that created the graph. -/
  createdByAgentRunId : Uuid
  /-- When the graph was created. -/
  createdAt : Timestamp
  /-- When the revision was committed. -/
  updatedAt : Timestamp
  /-- Revisions start at one. -/
  positive : 0 < graphRevision

instance : DecidableEq SemanticGraphHead :=
  fun _ _ => decidable_of_iff' _ SemanticGraphHead.ext_iff

namespace SemanticGraphHead

/-- `graph_digest`. -/
def graphDigest (sha : Sha256) (head : SemanticGraphHead) : Digest :=
  graphContentDigest sha head.registryVersion head.registryDigest head.activeNodeRecordDigests
    head.activeRelationDigests

/-- `SemanticGraphHead.__post_init__`. -/
def create (graphId : Uuid) (scopeRef : String) (graphRevision : Nat) (registryVersion : String)
    (registryDigest : Digest) (nodeDigests relationDigests : List Digest)
    (createdByAgentRunId : Uuid) (createdAt updatedAt : Timestamp) :
    Except MacrError SemanticGraphHead :=
  if positive : 0 < graphRevision then do
    let nodes ← digestTuple "active_node_record_digests" nodeDigests
    let relations ← digestTuple "active_relation_digests" relationDigests
    raiseIf (updatedAt < createdAt) (.valueError "updated_at must not precede created_at")
    pure ⟨graphId, scopeRef, graphRevision, registryVersion, registryDigest, nodes, relations,
      createdByAgentRunId, createdAt, updatedAt, positive⟩
  else
    .error (.valueError "graph_revision must be a positive integer")

/-- `create_empty`. -/
def createEmpty (registry : SemanticRegistry) (graphId : Uuid) (scopeRef : String)
    (createdByAgentRunId : Uuid) (createdAt : Timestamp) : Except MacrError SemanticGraphHead :=
  create graphId scopeRef 1 registry.registryVersion registry.registryDigest [] []
    createdByAgentRunId createdAt createdAt

/-- `to_semantic_state_binding`. -/
def toSemanticStateBinding (sha : Sha256) (head : SemanticGraphHead) : SemanticStateBinding :=
  ⟨.semanticGraph head.graphId, head.graphDigest sha, head.graphRevision, head.positive⟩

/-- A head that is made has the fields it was made from. -/
theorem create_eq_ok {graphId createdByAgentRunId : Uuid} {scopeRef registryVersion : String}
    {graphRevision : Nat} {registryDigest : Digest} {nodeDigests relationDigests : List Digest}
    {createdAt updatedAt : Timestamp} {head : SemanticGraphHead}
    (made : create graphId scopeRef graphRevision registryVersion registryDigest nodeDigests
      relationDigests createdByAgentRunId createdAt updatedAt = .ok head) :
    head.graphId = graphId ∧ head.scopeRef = scopeRef ∧ head.graphRevision = graphRevision ∧
      head.registryVersion = registryVersion ∧ head.registryDigest = registryDigest ∧
      digestTuple "active_node_record_digests" nodeDigests = .ok head.activeNodeRecordDigests ∧
      digestTuple "active_relation_digests" relationDigests = .ok head.activeRelationDigests := by
  unfold create at made
  split at made
  · simp only [bind_eq_ok, raiseIf_eq_ok, exists_const, pure_eq_ok] at made
    obtain ⟨nodes, nodesTuple, relations, relationsTuple, _, rfl⟩ := made
    exact ⟨rfl, rfl, rfl, rfl, rfl, nodesTuple, relationsTuple⟩
  · exact absurd made (by simp)

/-- A head that is made has the creation it was made from, and is not older than it. -/
theorem times_of_create {graphId createdByAgentRunId : Uuid} {scopeRef registryVersion : String}
    {graphRevision : Nat} {registryDigest : Digest} {nodeDigests relationDigests : List Digest}
    {createdAt updatedAt : Timestamp} {head : SemanticGraphHead}
    (made : create graphId scopeRef graphRevision registryVersion registryDigest nodeDigests
      relationDigests createdByAgentRunId createdAt updatedAt = .ok head) :
    head.createdByAgentRunId = createdByAgentRunId ∧ head.createdAt = createdAt ∧
      head.updatedAt = updatedAt ∧ ¬updatedAt < createdAt := by
  unfold create at made
  split at made
  · simp only [bind_eq_ok, raiseIf_eq_ok, exists_const, pure_eq_ok] at made
    obtain ⟨_, _, _, _, ordered, rfl⟩ := made
    exact ⟨rfl, rfl, rfl, ordered⟩
  · exact absurd made (by simp)

/-- A head is what its own fields make. -/
theorem create_self (head : SemanticGraphHead)
    (nodes : digestTuple "active_node_record_digests" head.activeNodeRecordDigests =
      .ok head.activeNodeRecordDigests)
    (relations : digestTuple "active_relation_digests" head.activeRelationDigests =
      .ok head.activeRelationDigests)
    (ordered : ¬head.updatedAt < head.createdAt) :
    create head.graphId head.scopeRef head.graphRevision head.registryVersion head.registryDigest
      head.activeNodeRecordDigests head.activeRelationDigests head.createdByAgentRunId
      head.createdAt head.updatedAt = .ok head := by
  unfold create
  rw [dif_pos head.positive, nodes, relations]
  show (raiseIf _ _ >>= _) = _
  rw [raiseIf_bind_of_not ordered]
  rfl

end SemanticGraphHead

/-- `SemanticGraphRevision`. -/
structure SemanticGraphRevision where
  /-- The graph. -/
  graphId : Uuid
  /-- The revision. -/
  graphRevision : Nat
  /-- The digest of its content. -/
  graphDigest : Digest
  /-- The revision before it and that one's digest, present together. -/
  parent : Option (Nat × Digest)
  /-- The patch that led to it. -/
  patchDigest : Option Digest
  /-- The version of the registry. -/
  registryVersion : String
  /-- The digest of the registry. -/
  registryDigest : Digest
  /-- The active nodes. -/
  activeNodeRecordDigests : List Digest
  /-- The active relations. -/
  activeRelationDigests : List Digest
  /-- When it was committed. -/
  committedAt : Timestamp
deriving DecidableEq

namespace SemanticGraphRevision

/-- `SemanticGraphRevision.__post_init__`. -/
def create (sha : Sha256) (graphId : Uuid) (graphRevision : Nat) (graphDigest : Digest)
    (parent : Option (Nat × Digest)) (patchDigest : Option Digest) (registryVersion : String)
    (registryDigest : Digest) (nodeDigests relationDigests : List Digest)
    (committedAt : Timestamp) : Except MacrError SemanticGraphRevision := do
  raiseIf (graphRevision < 1) (.valueError "graph_revision must be a positive integer")
  raiseIf (graphRevision = 1 ∧ (parent ≠ none ∨ patchDigest ≠ none))
    (.valueError "initial graph revision cannot have parent or patch")
  raiseIf (1 < graphRevision ∧
      (parent.map (·.1) ≠ some (graphRevision - 1) ∨ patchDigest = none))
    (.valueError "later graph revision requires previous parent and patch")
  let nodes ← digestTuple "active_node_record_digests" nodeDigests
  let relations ← digestTuple "active_relation_digests" relationDigests
  let expected ← calculateGraphDigest sha registryVersion registryDigest nodes relations
  raiseIf (expected ≠ graphDigest)
    (graphDigestMismatch "semantic graph revision digest mismatch")
  pure ⟨graphId, graphRevision, graphDigest, parent, patchDigest, registryVersion, registryDigest,
    nodes, relations, committedAt⟩

/-- `from_initial_head`. -/
def fromInitialHead (sha : Sha256) (head : SemanticGraphHead) :
    Except MacrError SemanticGraphRevision := do
  raiseIf (head.graphRevision ≠ 1)
    (.valueError "initial head must be SemanticGraphHead revision 1")
  create sha head.graphId 1 (head.graphDigest sha) none none head.registryVersion
    head.registryDigest head.activeNodeRecordDigests head.activeRelationDigests head.createdAt

variable {sha : Sha256} {graphId : Uuid} {graphRevision : Nat}
  {graphDigest registryDigest : Digest} {parent : Option (Nat × Digest)}
  {patchDigest : Option Digest} {registryVersion : String}
  {nodeDigests relationDigests : List Digest} {committedAt : Timestamp}
  {revision : SemanticGraphRevision}

/-- A revision that is made has the identity it was made from. -/
theorem create_eq_ok
    (made : create sha graphId graphRevision graphDigest parent patchDigest registryVersion
      registryDigest nodeDigests relationDigests committedAt = .ok revision) :
    revision.graphId = graphId ∧ revision.graphRevision = graphRevision ∧
      revision.graphDigest = graphDigest ∧ revision.parent = parent ∧
      revision.patchDigest = patchDigest := by
  simp only [create, bind_eq_ok, raiseIf_eq_ok, exists_const, pure_eq_ok] at made
  obtain ⟨_, _, _, _, _, _, _, _, _, _, rfl⟩ := made
  exact ⟨rfl, rfl, rfl, rfl, rfl⟩

/-- A revision that is made has the content it was made from. -/
theorem content_of_create
    (made : create sha graphId graphRevision graphDigest parent patchDigest registryVersion
      registryDigest nodeDigests relationDigests committedAt = .ok revision) :
    digestTuple "active_node_record_digests" nodeDigests =
        .ok revision.activeNodeRecordDigests ∧
      digestTuple "active_relation_digests" relationDigests =
        .ok revision.activeRelationDigests ∧
      revision.committedAt = committedAt := by
  simp only [create, bind_eq_ok, raiseIf_eq_ok, exists_const, pure_eq_ok] at made
  obtain ⟨_, _, _, _, nodes, _, relations, _, _, _, rfl⟩ := made
  exact ⟨nodes, relations, rfl⟩

end SemanticGraphRevision

/-! ## Proposals -/

/-- `SemanticPatchProposalRequest`. -/
structure SemanticPatchProposalRequest where
  /-- Its identifier. -/
  proposalId : Uuid
  /-- The graph. -/
  graphId : Uuid
  /-- The proposing run. -/
  agentRunId : Uuid
  /-- The revision it starts from. -/
  baseGraphRevision : Nat
  /-- The digest of that revision. -/
  baseGraphDigest : Digest
  /-- The version of the registry. -/
  registryVersion : String
  /-- The digest of the registry. -/
  registryDigest : Digest
  /-- The patch. -/
  patch : SemanticPatch
  /-- The patch is for the base. -/
  based : patch.baseGraphDigest = baseGraphDigest
deriving DecidableEq

namespace SemanticPatchProposalRequest

/-- The fields that a commit request repeats. -/
def baseFields (proposal : SemanticPatchProposalRequest) : List (String × Json) :=
  [("graph_id", .hex proposal.graphId), ("agent_run_id", .hex proposal.agentRunId),
    ("base_graph_revision", .int proposal.baseGraphRevision),
    ("base_graph_digest", .hex proposal.baseGraphDigest),
    ("registry_version", .str proposal.registryVersion),
    ("registry_digest", .hex proposal.registryDigest)]

/-- `proposal_digest`. -/
def proposalDigest (sha : Sha256) (proposal : SemanticPatchProposalRequest) : Digest :=
  sha.sha256Id "macr.semantic.patch-proposal.v1" (.obj
    ([("schema_version", .str "macr-semantic-patch-proposal/v1"),
      ("proposal_id", .hex proposal.proposalId)] ++ proposal.baseFields ++
      [("patch", proposal.patch.toPublicDict sha)]))

end SemanticPatchProposalRequest

/-- `SemanticCommitRequest`. Its constructor requires the proposal digest to be that of the
proposal its fields describe. -/
structure SemanticCommitRequest where
  /-- The idempotency key. -/
  commitId : Uuid
  /-- The proposal the request repeats. -/
  proposal : SemanticPatchProposalRequest
  /-- The run's expected revision. -/
  expectedAgentRevision : Nat
  /-- The run's expected epoch. -/
  expectedAgentEpoch : Nat
  /-- The digest of the permit. -/
  ownershipPermitDigest : Digest
  /-- The authority. -/
  authorizationReference : AuthorityBinding
deriving DecidableEq

/-- `request_digest`. -/
def SemanticCommitRequest.requestDigest (sha : Sha256) (request : SemanticCommitRequest) : Digest :=
  sha.sha256Id "macr.semantic.commit-request.v1" (.obj
    ([("schema_version", .str "macr-semantic-commit-request/v1"),
      ("commit_id", .hex request.commitId), ("proposal_id", .hex request.proposal.proposalId),
      ("proposal_digest", .hex (request.proposal.proposalDigest sha))] ++
      request.proposal.baseFields ++
      [("expected_agent_revision", .int request.expectedAgentRevision),
        ("expected_agent_epoch", .int request.expectedAgentEpoch),
        ("ownership_permit_digest", .hex request.ownershipPermitDigest),
        ("authorization_reference", .obj request.authorizationReference.referenceFields),
        ("patch", request.proposal.patch.toPublicDict sha)]))

/-! ## Status updates -/

mutual

/-- A frozen document can be a dictionary key unless it holds an object. -/
def Json.isHashable : Json → Bool
  | .obj _ => false
  | .arr items => Json.areHashable items
  | _ => true

/-- Every item of a frozen array can be a dictionary key. -/
def Json.areHashable : List Json → Bool
  | [] => true
  | item :: rest => item.isHashable && Json.areHashable rest

end

/-- The value of a field. -/
def fieldOf (fields : List (String × Json)) (name : String) : Option Json :=
  (fields.find? (fun field => field.1 = name)).map (·.2)

/-- `require_closed_mapping` without optional fields. -/
def requireClosedMapping (name : String) (fields : List (String × Json))
    (required : List String) : Except MacrError Unit := do
  let missing := required.filter (fun key => fieldOf fields key = none)
  let unknown := (fields.map (·.1)).filter (fun key => key ∉ required)
  let sorted (keys : List String) : String :=
    ", ".intercalate (keys.mergeSort (fun left right => decide (left ≤ right)))
  raiseIf (missing ≠ []) (.valueError s!"{name} missing fields: {sorted missing}")
  raiseIf (unknown ≠ []) (.valueError s!"{name} unknown fields: {sorted unknown}")

/-- `require_sha256`. -/
def requireSha256 (name : String) : Option Json → Except MacrError Digest
  | some (.hex digest) => .ok digest
  | _ => .error (.valueError s!"{name} must be lowercase SHA-256 hex")

/-- `require_non_empty`. -/
def requireNonEmpty (name : String) : Json → Except MacrError String
  | .str text => do
    raiseIf (strip text = "") (.valueError s!"{name} must be non-empty text")
    raiseIf (512 < (strip text).utf8ByteSize) (.valueError s!"{name} is too long")
    pure (strip text)
  | _ => .error (.valueError s!"{name} must be non-empty text")

/-- `require_string_tuple` with its default limits. -/
def requireStringTuple (name : String) : Option Json → Except MacrError (List String)
  | some (.arr items) => do
    let texts ← items.mapM (requireNonEmpty s!"{name} item")
    raiseIf (128 < texts.length) (.valueError s!"{name} exceeds its item limit")
    raiseIf (¬texts.Nodup) (.valueError s!"{name} must not contain duplicates")
    pure (texts.mergeSort (fun left right => decide (left ≤ right)))
  | _ => .error (.valueError s!"{name} must be an array of strings")

/-- `parse_semantic_status`. -/
def parseSemanticStatus (nodeType : SemanticNodeType) :
    Option Json → Except MacrError SemanticStatus
  | some (.str text) => require (SemanticStatus.ofText nodeType text)
      (.semanticState "SEMANTIC_STATUS_TRANSITION_INVALID"
        "semantic status does not match node type")
  | _ => .error (.semanticState "SEMANTIC_STATUS_TRANSITION_INVALID"
      "semantic status must be text")

/-- `parse_status_update`, with the parsed status. -/
def parseStatusUpdate (sha : Sha256) (update : List (String × Json)) (current : SemanticNode) :
    Except MacrError SemanticStatus := do
  requireClosedMapping "semantic status update" update
    ["node_id", "from_record_digest", "to_status", "reason_digest", "evidence_refs"]
  raiseIf (fieldOf update "node_id" ≠ some (.str current.nodeId))
    (patchInvalid "semantic status update node does not match")
  let oldDigest ← requireSha256 "from_record_digest" (fieldOf update "from_record_digest")
  raiseIf (oldDigest ≠ current.recordDigest sha)
    (patchInvalid "semantic status update base record is stale")
  let status ← parseSemanticStatus current.nodeType (fieldOf update "to_status")
  raiseIf (status = current.status)
    (.semanticState "SEMANTIC_STATUS_TRANSITION_INVALID"
      "semantic status update must change status")
  let evidence ← requireStringTuple "evidence_refs" (fieldOf update "evidence_refs")
  raiseIf (status = .resolution "resolved" ∧ evidence = [])
    (patchInvalid "semantic resolution requires evidence refs")
  let _ ← requireSha256 "reason_digest" (fieldOf update "reason_digest")
  pure status

/-! ## The compiler -/

/-- `CompiledSemanticPatch`. The superseded records themselves are not kept: only their digests
are hashed. -/
structure CompiledSemanticPatch where
  /-- The digest of the proposal. -/
  proposalDigest : Digest
  /-- The head it was compiled against. -/
  base : SemanticGraphHead
  /-- The digest of the next revision. -/
  nextGraphDigest : Digest
  /-- The active nodes of the next revision, in the order of their digests. -/
  activeNodes : List SemanticNode
  /-- Its active relations, in the order of their digests. -/
  activeRelations : List SemanticRelation
  /-- The new records of nodes. -/
  addedNodes : List SemanticNode
  /-- The new relations. -/
  addedRelations : List SemanticRelation
  /-- The nodes whose status changes. -/
  statusUpdates : List SemanticNode
  /-- The superseded records. -/
  supersededRecordDigests : List Digest

/-- `next_graph_revision`. -/
def CompiledSemanticPatch.nextGraphRevision (compiled : CompiledSemanticPatch) : Nat :=
  compiled.base.graphRevision + 1

/-- `compiled_digest`. -/
def CompiledSemanticPatch.compiledDigest (sha : Sha256) (compiled : CompiledSemanticPatch) :
    Digest :=
  sha.sha256Id "macr.semantic.compiled-patch.v1" (.obj
    [("proposal_digest", .hex compiled.proposalDigest),
      ("graph_id", .hex compiled.base.graphId),
      ("base_graph_revision", .int compiled.base.graphRevision),
      ("base_graph_digest", .hex (compiled.base.graphDigest sha)),
      ("next_graph_revision", .int compiled.nextGraphRevision),
      ("next_graph_digest", .hex compiled.nextGraphDigest),
      ("registry_version", .str compiled.base.registryVersion),
      ("registry_digest", .hex compiled.base.registryDigest),
      ("active_node_digests",
        .arr (compiled.activeNodes.map (fun node => .hex (node.recordDigest sha)))),
      ("active_relation_digests",
        .arr (compiled.activeRelations.map (fun relation => .hex (relation.relationDigest sha)))),
      ("added_node_digests",
        .arr (compiled.addedNodes.map (fun node => .hex (node.recordDigest sha)))),
      ("added_relation_digests",
        .arr (compiled.addedRelations.map (fun relation => .hex (relation.relationDigest sha)))),
      ("status_update_digests",
        .arr (compiled.statusUpdates.map (fun node => .hex (node.recordDigest sha)))),
      ("superseded_record_digests", .arr (compiled.supersededRecordDigests.map .hex))])

/-- The dictionary lookup of a node. -/
def nodeAt (nodes : List SemanticNode) (nodeId : String) : Option SemanticNode :=
  nodes.find? (fun node => node.nodeId = nodeId)

/-- The dictionary assignment of a node: in place under a known identifier, last otherwise. -/
def assignNode (nodes : List SemanticNode) (node : SemanticNode) : List SemanticNode :=
  if nodes.any (fun other => other.nodeId = node.nodeId) then
    nodes.map (fun other => if other.nodeId = node.nodeId then node else other)
  else
    nodes ++ [node]

/-- The variables of `compile` while it replaces nodes. -/
structure NodeReplacement where
  /-- `node_map`. -/
  nodes : List SemanticNode
  /-- `consumed`. -/
  consumed : List Digest
  /-- `added_nodes`. -/
  added : List SemanticNode
  /-- `status_nodes`. -/
  statusNodes : List SemanticNode

/-- `sorted(..., key=record_digest)`. -/
def sortNodes (sha : Sha256) (nodes : List SemanticNode) : List SemanticNode :=
  nodes.mergeSort (fun left right => decide (left.recordDigest sha ≤ right.recordDigest sha))

/-- `sorted(..., key=relation_digest)`. -/
def sortRelations (sha : Sha256) (relations : List SemanticRelation) : List SemanticRelation :=
  relations.mergeSort
    (fun left right => decide (left.relationDigest sha ≤ right.relationDigest sha))

namespace SemanticKernel

variable (kernel : SemanticKernel)

/-- `_validate_node`. -/
def validateNode (node : SemanticNode) (head : SemanticGraphHead) : Except MacrError Unit := do
  raiseIf (∃ effect ∈ node.effects, effect ∉ kernel.registry.effectTypes)
    (patchInvalid "semantic node contains unknown effect")
  raiseIf (node.scopeRef ≠ head.scopeRef)
    (.semanticState "SEMANTIC_SCOPE_ESCALATION" "semantic node scope exceeds graph scope")

/-- One turn of the loop over `add_nodes`. -/
def addNode (head : SemanticGraphHead) (supersession : List Digest) (state : NodeReplacement)
    (node : SemanticNode) : Except MacrError NodeReplacement := do
  kernel.validateNode node head
  match nodeAt state.nodes node.nodeId with
  | some old => do
    raiseIf (old.recordDigest kernel.sha ∉ supersession)
      (.semanticState "SEMANTIC_NODE_CONFLICT" "semantic node overwrite requires supersession")
    pure { state with
      nodes := assignNode state.nodes node
      consumed := state.consumed.insert (old.recordDigest kernel.sha)
      added := state.added ++ [node] }
  | none =>
    pure { state with nodes := assignNode state.nodes node, added := state.added ++ [node] }

/-- `node_map.get(raw_update.get("node_id"))`. -/
def updatedNode (nodes : List SemanticNode) (update : List (String × Json)) :
    Except MacrError SemanticNode := do
  let key := (fieldOf update "node_id").getD .null
  raiseIf (¬key.isHashable) (.typeError "unhashable type")
  require (match key with
    | .str nodeId => nodeAt nodes nodeId
    | _ => none) (patchInvalid "semantic status update node is missing")

/-- One turn of the loop over `status_updates`. -/
def updateStatus (supersession : List Digest) (state : NodeReplacement)
    (update : List (String × Json)) : Except MacrError NodeReplacement := do
  let old ← updatedNode state.nodes update
  let status ← parseStatusUpdate kernel.sha update old
  raiseIf (old.recordDigest kernel.sha ∉ supersession)
    (supersessionInvalid "semantic status update requires supersession")
  let replacement ← old.withStatus status
  pure
    { nodes := assignNode state.nodes replacement
      consumed := state.consumed.insert (old.recordDigest kernel.sha)
      added := state.added ++ [replacement]
      statusNodes := state.statusNodes ++ [replacement] }

/-- One turn of the loop over `add_relations`. -/
def addRelation (nodes : List SemanticNode) (relations : List SemanticRelation)
    (relation : SemanticRelation) : Except MacrError (List SemanticRelation) := do
  raiseIf (∃ other ∈ relations, other.relationId = relation.relationId)
    (patchInvalid "semantic relation overwrite is not allowed")
  let source ← require (nodeAt nodes relation.sourceRef)
    (relationDangling "semantic relation endpoint is missing")
  let target ← require (nodeAt nodes relation.targetRef)
    (relationDangling "semantic relation endpoint is missing")
  match kernel.registry.requireRelation source.nodeType relation.relationType target.nodeType with
  | .ok _ => pure (relations ++ [relation])
  | .error _ => .error (.semanticState "SEMANTIC_RELATION_DIRECTION_INVALID"
      "semantic relation direction is invalid")

/-- The checks of `compile` before it reads the patch. -/
def requireBase (head : SemanticGraphHead) (proposal : SemanticPatchProposalRequest)
    (nodes : List SemanticNode) (relations : List SemanticRelation) : Except MacrError Unit := do
  raiseIf (proposal.graphId ≠ head.graphId ∨ proposal.baseGraphRevision ≠ head.graphRevision ∨
      proposal.baseGraphDigest ≠ head.graphDigest kernel.sha)
    (headStale "semantic graph head is stale")
  raiseIf (proposal.registryVersion ≠ head.registryVersion ∨
      proposal.registryDigest ≠ head.registryDigest ∨
      proposal.registryVersion ≠ kernel.registry.registryVersion ∨
      proposal.registryDigest ≠ kernel.registry.registryDigest)
    (.semanticState "SEMANTIC_REGISTRY_MISMATCH" "semantic registry binding mismatch")
  raiseIf (¬((∀ node ∈ nodes, node.recordDigest kernel.sha ∈ head.activeNodeRecordDigests) ∧
      (∀ digest ∈ head.activeNodeRecordDigests,
        ∃ node ∈ nodes, node.recordDigest kernel.sha = digest) ∧
      (∀ relation ∈ relations,
        relation.relationDigest kernel.sha ∈ head.activeRelationDigests) ∧
      ∀ digest ∈ head.activeRelationDigests,
        ∃ relation ∈ relations, relation.relationDigest kernel.sha = digest))
    (graphDigestMismatch "active records do not match semantic graph head")
  raiseIf (¬(nodes.map (·.nodeId)).Nodup)
    (.semanticState "SEMANTIC_NODE_CONFLICT" "active graph has duplicate node ID")
  raiseIf (¬(relations.map (·.relationId)).Nodup)
    (patchInvalid "active graph has duplicate relation ID")

/-- The supersession references of a patch. -/
def supersessionOf (patch : SemanticPatch) : Except MacrError (List Digest) :=
  patch.supersessionRefs.mapM fun reference =>
    match requireSha256 "supersession_ref" (some reference) with
    | .ok digest => .ok digest
    | .error _ => .error (supersessionInvalid "semantic supersession reference is invalid")

/-- `SemanticPatchCompiler.compile`. -/
def compile (head : SemanticGraphHead) (proposal : SemanticPatchProposalRequest)
    (nodes : List SemanticNode) (relations : List SemanticRelation) :
    Except MacrError CompiledSemanticPatch := do
  kernel.requireBase head proposal nodes relations
  let supersession ← supersessionOf proposal.patch
  let added ← proposal.patch.addNodes.foldlM (kernel.addNode head supersession) ⟨nodes, [], [], []⟩
  let replaced ← proposal.patch.statusUpdates.foldlM (kernel.updateStatus supersession) added
  raiseIf (¬((∀ digest ∈ replaced.consumed, digest ∈ supersession) ∧
      ∀ digest ∈ supersession, digest ∈ replaced.consumed))
    (supersessionInvalid "semantic supersession references were not consumed exactly")
  let related ← proposal.patch.addRelations.foldlM (kernel.addRelation replaced.nodes) relations
  raiseIf (∃ relation ∈ related, nodeAt replaced.nodes relation.sourceRef = none ∨
      nodeAt replaced.nodes relation.targetRef = none)
    (relationDangling "active semantic relation became dangling")
  let activeNodes := sortNodes kernel.sha replaced.nodes
  let activeRelations := sortRelations kernel.sha related
  let nextDigest ← calculateGraphDigest kernel.sha head.registryVersion head.registryDigest
    (activeNodes.map (·.recordDigest kernel.sha))
    (activeRelations.map (·.relationDigest kernel.sha))
  pure
    { proposalDigest := proposal.proposalDigest kernel.sha
      base := head
      nextGraphDigest := nextDigest
      activeNodes := activeNodes
      activeRelations := activeRelations
      addedNodes := sortNodes kernel.sha replaced.added
      addedRelations := proposal.patch.addRelations
      statusUpdates := sortNodes kernel.sha replaced.statusNodes
      supersededRecordDigests :=
        replaced.consumed.mergeSort (fun left right => decide (left ≤ right)) }

end SemanticKernel

end Macr
