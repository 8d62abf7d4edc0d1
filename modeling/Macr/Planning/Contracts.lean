import Macr.TargetLeases

/-!
# Operator policies, context capsules and verifier graphs

A plan is built from content-addressed records. A record's identifier is the digest of its
canonical document, so it is computed here from the record instead of being stored beside it: a
record whose stored identifier differs from its document cannot be constructed.
-/

namespace Macr

/-- A list in strictly ascending order: the form in which a set of digests or texts is kept. -/
abbrev Ascending {α : Type} [LT α] (items : List α) : Prop := items.Pairwise (· < ·)

/-- `PrivacyLevel`. -/
inductive PrivacyLevel where
  | publicLevel
  | internalApproved
  | localOrApprovedCloud
  | localOnly
deriving DecidableEq, Repr

/-- The text of a privacy level. -/
def PrivacyLevel.value : PrivacyLevel → String
  | .publicLevel => "public"
  | .internalApproved => "internal_approved"
  | .localOrApprovedCloud => "local_or_approved_cloud"
  | .localOnly => "local_only"

/-- `BudgetMode`. -/
inductive BudgetMode where
  | observe
  | warn
  | enforce
deriving DecidableEq, Repr

/-- The text of a budget mode. -/
def BudgetMode.value : BudgetMode → String
  | .observe => "observe"
  | .warn => "warn"
  | .enforce => "enforce"

/-- `ApprovalMode`. -/
inductive ApprovalMode where
  | exactMember
  | exactBatch
  | policySession
deriving DecidableEq, Repr

/-- The text of an approval mode. -/
def ApprovalMode.value : ApprovalMode → String
  | .exactMember => "exact_member"
  | .exactBatch => "exact_batch"
  | .policySession => "policy_session"

/-- `FallbackMode`. -/
inductive FallbackMode where
  | disabled
  | explicitPlanRevision
deriving DecidableEq, Repr

/-- The text of a fallback mode. -/
def FallbackMode.value : FallbackMode → String
  | .disabled => "disabled"
  | .explicitPlanRevision => "explicit_plan_revision"

/-- `OperatorPolicyProfile`. Promotion is always explicit and import always manual. -/
structure OperatorPolicyProfile where
  /-- Its name. -/
  profileId : String
  /-- What a plan over budget leads to. -/
  budgetMode : BudgetMode
  /-- How execution is approved. -/
  approvalMode : ApprovalMode
  /-- Whether new models are watched. -/
  modelWatchEnabled : Bool
  /-- Whether watching stops at discovery. -/
  discoveryOnly : Bool
  /-- What automatic probes may cost in a day. -/
  autoProbeMaxCostUsdPerDay : ℚ
  /-- How a failed binding is replaced. -/
  fallbackMode : FallbackMode
  /-- How many members may run at a time. -/
  maxParallelism : Nat
  /-- Whether every call is accounted for. -/
  accountingRequired : Bool
  /-- The name is a bounded identifier. -/
  profile_valid : isIdentifier profileId
  /-- A cost is not negative. -/
  cost_nonneg : 0 ≤ autoProbeMaxCostUsdPerDay
  /-- At least one member runs. -/
  parallelism_positive : 1 ≤ maxParallelism
  /-- At most 64 members run. -/
  parallelism_bounded : maxParallelism ≤ 64

/-- `OperatorPolicyProfile.to_dict`. -/
def OperatorPolicyProfile.toDict (profile : OperatorPolicyProfile) : Json :=
  .obj [("profile_id", .str profile.profileId),
    ("budget_mode", .str profile.budgetMode.value),
    ("approval_mode", .str profile.approvalMode.value),
    ("model_watch_enabled", .bool profile.modelWatchEnabled),
    ("discovery_only", .bool profile.discoveryOnly),
    ("auto_probe_max_cost_usd_per_day", .num profile.autoProbeMaxCostUsdPerDay),
    ("production_promotion", .str "explicit"),
    ("fallback_mode", .str profile.fallbackMode.value),
    ("max_parallelism", .int profile.maxParallelism),
    ("direct_context_import", .str "manual"),
    ("accounting_required", .bool profile.accountingRequired)]

/-- `OperatorPolicyProfile.snapshot_id`. -/
def OperatorPolicyProfile.snapshotId (sha : Sha256) (profile : OperatorPolicyProfile) : Digest :=
  sha.sha256Id "operator_policy_profile_v1" profile.toDict

/-- `ContextSourceItem`. -/
structure ContextSourceItem where
  /-- Where the bytes come from. -/
  sourceId : String
  /-- Their digest. -/
  byteSha256 : Digest
  /-- The selected byte intervals. -/
  selectedRanges : List (Nat × Nat)
  /-- Who selected them, which a direct session requires. -/
  selectionAuthorityDigest : Option Digest
  /-- An interval is not empty. -/
  ranges_positive : ∀ range ∈ selectedRanges, range.1 < range.2
  /-- The intervals are sorted and do not overlap. -/
  ranges_disjoint : selectedRanges.Pairwise (fun prior current => prior.2 ≤ current.1)
  /-- A direct session names its authority. -/
  direct_selected : sourceId.startsWith "direct_session:" →
    selectionAuthorityDigest.isSome = true

/-- `ContextSourceItem.to_dict`. -/
def ContextSourceItem.toDict (item : ContextSourceItem) : Json :=
  .obj [("source_id", .str item.sourceId), ("byte_sha256", .hex item.byteSha256),
    ("selected_ranges",
      .arr (item.selectedRanges.map (fun range => .arr [.int range.1, .int range.2]))),
    ("selection_authority_digest", .optHex item.selectionAuthorityDigest)]

/-- `ContextCapsule`. -/
structure ContextCapsule where
  /-- The sources, in the caller's order. -/
  sourceItems : List ContextSourceItem
  /-- The digest of the compiled bytes. -/
  compiledBytesSha256 : Digest
  /-- What compiled them. -/
  compilerVersion : String
  /-- How many tokens they take. -/
  tokenEstimate : Nat
  /-- How private they are. -/
  dataClassification : PrivacyLevel
  /-- How they were redacted. -/
  redactionProfile : String
  /-- The roles that may read the capsule. -/
  allowedRoleIds : List Digest
  /-- The routes it may be sent to. -/
  allowedRouteIds : List Digest
  /-- When it may be used no longer. -/
  expiresAt : Option Timestamp
  /-- The capsules it was derived from. -/
  parentCapsuleIds : List Digest
  /-- There is a source. -/
  sources_required : sourceItems ≠ []
  /-- No source occurs twice. -/
  sources_distinct : (sourceItems.map (·.sourceId)).Nodup
  /-- The texts are bounded identifiers. -/
  identifiers : isIdentifier compilerVersion ∧ isIdentifier redactionProfile
  /-- The estimate is in range. -/
  tokens_bounded : tokenEstimate ≤ 100000000
  /-- There is a role. -/
  roles_required : allowedRoleIds ≠ []
  /-- There is a route. -/
  routes_required : allowedRouteIds ≠ []
  /-- The sets are kept in order. -/
  sets_ascending : Ascending allowedRoleIds ∧ Ascending allowedRouteIds ∧
    Ascending parentCapsuleIds

namespace ContextCapsule

/-- `ContextCapsule.canonical_identity`. -/
def canonicalIdentity (capsule : ContextCapsule) : Json :=
  .obj [("schema_version", .int 1),
    ("source_items", .arr (capsule.sourceItems.map (·.toDict))),
    ("compiled_bytes_sha256", .hex capsule.compiledBytesSha256),
    ("compiler_version", .str capsule.compilerVersion),
    ("token_estimate", .int capsule.tokenEstimate),
    ("data_classification", .str capsule.dataClassification.value),
    ("redaction_profile", .str capsule.redactionProfile),
    ("allowed_role_ids", .hexes capsule.allowedRoleIds),
    ("allowed_route_ids", .hexes capsule.allowedRouteIds),
    ("expires_at", .optTime capsule.expiresAt),
    ("parent_capsule_ids", .hexes capsule.parentCapsuleIds)]

/-- `ContextCapsule.capsule_id`, which the constructor compares with the document. -/
def capsuleId (sha : Sha256) (capsule : ContextCapsule) : Digest :=
  sha.sha256Id "context_capsule_v1" capsule.canonicalIdentity

/-- `ContextCapsule.assert_allowed`. -/
def assertAllowed (capsule : ContextCapsule) (roleId routeId : Digest) :
    Except MacrError Unit := do
  raiseIf (roleId ∉ capsule.allowedRoleIds)
    (.valueError "role is not allowed by this Context Capsule")
  raiseIf (routeId ∉ capsule.allowedRouteIds)
    (.valueError "route is not allowed by this Context Capsule")

end ContextCapsule

/-- `VerifierNode`. -/
structure VerifierNode where
  /-- Its name in the graph. -/
  nodeId : String
  /-- The verifying tool. -/
  tool : String
  /-- The tool's version. -/
  version : String
  /-- What it reads. -/
  inputDigests : List Digest
  /-- The nodes that run before it. -/
  dependsOn : List String
  /-- How it is configured. -/
  configDigest : Option Digest
  /-- Whether the graph fails without it. -/
  required : Bool
  /-- The texts are bounded identifiers. -/
  identifiers : isIdentifier nodeId ∧ isIdentifier tool ∧ isIdentifier version
  /-- There is an input. -/
  inputs_required : inputDigests ≠ []
  /-- The sets are kept in order. -/
  sets_ascending : Ascending inputDigests ∧ Ascending dependsOn
  /-- Dependencies are bounded identifiers. -/
  dependencies_valid : ∀ dependency ∈ dependsOn, isIdentifier dependency
  /-- A node does not depend on itself. -/
  not_self : nodeId ∉ dependsOn

/-- `VerifierNode.to_dict`. -/
def VerifierNode.toDict (node : VerifierNode) : Json :=
  .obj [("node_id", .str node.nodeId), ("tool", .str node.tool), ("version", .str node.version),
    ("input_digests", .hexes node.inputDigests), ("depends_on", .strs node.dependsOn),
    ("config_digest", .optHex node.configDigest), ("required", .bool node.required)]

/-- `VerifierGraph`, as its nodes. The planner reads its digest alone, which holds for any order
of the nodes. -/
structure VerifierGraph where
  /-- The nodes. -/
  nodes : List VerifierNode
  /-- There is a node. -/
  nodes_required : nodes ≠ []
  /-- No name occurs twice. -/
  nodes_distinct : (nodes.map (·.nodeId)).Nodup

/-- `VerifierGraph.graph_digest`, which the constructor compares with the nodes. -/
def VerifierGraph.graphDigest (sha : Sha256) (graph : VerifierGraph) : Digest :=
  sha.sha256Id "verifier_graph_v1" (.obj [("nodes", .arr (graph.nodes.map (·.toDict)))])

/-- `VerifierGraph.to_dict`. -/
def VerifierGraph.toDict (sha : Sha256) (graph : VerifierGraph) : Json :=
  .obj [("graph_digest", .hex (graph.graphDigest sha)),
    ("nodes", .arr (graph.nodes.map (·.toDict)))]

end Macr
