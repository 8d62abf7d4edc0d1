import Macr.Lib.Text
import Macr.TargetLeases

/-!
# Provider capability policies

A policy says what one tier of one model of a provider may be used for. Its binding names it by
its digest, and the digest of the binding is what an authority is scoped to. A resolver holds the
policies the adapters publish, one for each provider, model, tier and revision.
-/

namespace Macr

open Lib

/-- `_model_id`. -/
def isModelId (text : String) : Bool :=
  strip text ≠ "" && strip text = text && text.utf8ByteSize ≤ 512 &&
    text.toList.all (fun c => 32 ≤ c.toNat)

/-- `_string_tuple`: identifiers, sorted and without repetition. -/
def IdentifierTuple (items : List String) : Prop :=
  items ≠ [] ∧ (∀ item ∈ items, isIdentifier item) ∧ items.Nodup ∧ items.Pairwise (· ≤ ·)

instance (items : List String) : Decidable (IdentifierTuple items) :=
  inferInstanceAs (Decidable (_ ∧ _))

/-- `ProviderCapabilityPolicy`. -/
structure ProviderCapabilityPolicy where
  /-- The provider. -/
  providerId : String
  /-- The model. -/
  modelId : String
  /-- The tier. -/
  tierId : String
  /-- The revision of the tier. -/
  revision : Nat
  /-- Task types it may be used for. -/
  allowedTaskTypes : List String
  /-- The class of delegation. -/
  delegationClass : String
  /-- Privacy classes it may be given. -/
  approvedPrivacy : List String
  /-- Capabilities it must have. -/
  requiredCapabilities : List String
  /-- How long an answer may take, in seconds. -/
  maxLatencyS : Nat
  /-- It may return patches. -/
  patchAllowed : Bool
  /-- It may be given a write scope. -/
  writeScopeAllowed : Bool
  /-- It may use tools. -/
  toolsAllowed : Bool
  /-- Its answers must be verified. -/
  verificationRequired : Bool
  /-- Where the policy comes from. -/
  policySource : String
  /-- Identifiers are bounded. -/
  identifiers : isIdentifier providerId ∧ isIdentifier tierId ∧ isIdentifier delegationClass ∧
    isIdentifier policySource
  /-- The model is named by bounded text. -/
  model_valid : isModelId modelId
  /-- The revision is bounded. -/
  revision_range : 1 ≤ revision ∧ revision ≤ 1000000
  /-- The latency is at most a day. -/
  latency_range : 1 ≤ maxLatencyS ∧ maxLatencyS ≤ 86400
  /-- The lists are sorted sets of identifiers. -/
  lists_valid : IdentifierTuple allowedTaskTypes ∧ IdentifierTuple approvedPrivacy ∧
    IdentifierTuple requiredCapabilities
deriving DecidableEq

/-- `ProviderTierBinding`. -/
structure ProviderTierBinding where
  /-- The provider. -/
  providerId : String
  /-- The model. -/
  modelId : String
  /-- The tier. -/
  tierId : String
  /-- The revision of the tier. -/
  revision : Nat
  /-- The digest of the policy. -/
  completePolicyDigest : Digest
  /-- How long an answer may take, in seconds. -/
  maxLatencyS : Nat
deriving DecidableEq

/-- The columns a policy is stored under. -/
abbrev PolicyKey := String × String × String × Nat

namespace ProviderTierBinding

variable (binding : ProviderTierBinding)

/-- The columns its policy is stored under. -/
def key : PolicyKey := (binding.providerId, binding.modelId, binding.tierId, binding.revision)

/-- `to_dict`. -/
def toDict : Json :=
  .obj [("provider_id", .str binding.providerId), ("model_id", .str binding.modelId),
    ("tier_id", .str binding.tierId), ("revision", .int binding.revision),
    ("complete_policy_digest", .hex binding.completePolicyDigest),
    ("effective_limits", .obj [("max_latency_s", .int binding.maxLatencyS)])]

/-- `binding_digest`. -/
def bindingDigest (sha : Sha256) : Digest := sha.sha256Id "provider_tier_binding_v1" binding.toDict

end ProviderTierBinding

namespace ProviderCapabilityPolicy

variable (policy : ProviderCapabilityPolicy)

/-- The columns it is stored under. -/
def key : PolicyKey := (policy.providerId, policy.modelId, policy.tierId, policy.revision)

/-- `to_dict`. -/
def toDict : Json :=
  .obj [("provider_id", .str policy.providerId), ("model_id", .str policy.modelId),
    ("tier_id", .str policy.tierId), ("revision", .int policy.revision),
    ("allowed_task_types", .strs policy.allowedTaskTypes),
    ("delegation_class", .str policy.delegationClass),
    ("approved_privacy", .strs policy.approvedPrivacy),
    ("required_capabilities", .strs policy.requiredCapabilities),
    ("max_latency_s", .int policy.maxLatencyS), ("patch_allowed", .bool policy.patchAllowed),
    ("write_scope_allowed", .bool policy.writeScopeAllowed),
    ("tools_allowed", .bool policy.toolsAllowed),
    ("verification_required", .bool policy.verificationRequired),
    ("policy_source", .str policy.policySource)]

/-- `binding`. -/
def binding (sha : Sha256) : ProviderTierBinding where
  providerId := policy.providerId
  modelId := policy.modelId
  tierId := policy.tierId
  revision := policy.revision
  completePolicyDigest := sha.sha256Id "provider_capability_policy_v1" policy.toDict
  maxLatencyS := policy.maxLatencyS

@[simp] theorem binding_key (sha : Sha256) : (policy.binding sha).key = policy.key := rfl

end ProviderCapabilityPolicy

/-- `glm_standard_policy`. -/
def glmStandardPolicy : ProviderCapabilityPolicy where
  providerId := "glm_flash_worker"
  modelId := "glm-5.3-flash"
  tierId := "standard"
  revision := 1
  allowedTaskTypes := ["delegated_routine", "provider_conformance"]
  delegationClass := "non_sensitive_routine"
  approvedPrivacy := ["internal_approved", "public"]
  requiredCapabilities := ["text_generation"]
  maxLatencyS := 300
  patchAllowed := false
  writeScopeAllowed := false
  toolsAllowed := false
  verificationRequired := true
  policySource := "built_in"
  identifiers := by decide
  model_valid := by decide
  revision_range := by decide
  latency_range := by decide
  lists_valid := by decide

/-- `glm_extended_text_policy`. -/
def glmExtendedTextPolicy : ProviderCapabilityPolicy where
  providerId := "glm_flash_worker"
  modelId := "glm-5.3-flash"
  tierId := "extended_text_candidate"
  revision := 1
  allowedTaskTypes := ["delegated_analysis", "delegated_code", "delegated_review",
    "delegated_routine", "provider_conformance"]
  delegationClass := "non_sensitive_routine"
  approvedPrivacy := ["internal_approved", "public"]
  requiredCapabilities := ["text_generation"]
  maxLatencyS := 900
  patchAllowed := false
  writeScopeAllowed := false
  toolsAllowed := false
  verificationRequired := true
  policySource := "built_in"
  identifiers := by decide
  model_valid := by decide
  revision_range := by decide
  latency_range := by decide
  lists_valid := by decide

/-! ## Resolution -/

/-- `ProviderCapabilityResolver`. -/
structure ProviderCapabilityResolver where
  /-- The published policies. -/
  policies : List ProviderCapabilityPolicy
  /-- There is at least one. -/
  inhabited : policies ≠ []
  /-- No two have the same columns. -/
  distinct : (policies.map ProviderCapabilityPolicy.key).Nodup

namespace ProviderCapabilityResolver

/-- `builtins_only`. -/
def builtinsOnly : ProviderCapabilityResolver where
  policies := [glmExtendedTextPolicy, glmStandardPolicy]
  inhabited := by decide
  distinct := by decide

variable (resolver : ProviderCapabilityResolver)

/-- The published policy of some columns. -/
def byKey (key : PolicyKey) : Option ProviderCapabilityPolicy :=
  resolver.policies.find? (fun policy => policy.key = key)

/-- `resolve`. -/
def resolve (providerId modelId tierId : String) (revision : Nat) :
    Except MacrError ProviderCapabilityPolicy := do
  raiseIf (¬isIdentifier providerId) (.valueError "provider_id must be a bounded identifier")
  raiseIf (¬isModelId modelId) (.valueError "model_id must be bounded non-empty text")
  raiseIf (¬isIdentifier tierId) (.valueError "tier_id must be a bounded identifier")
  raiseIf (¬(1 ≤ revision ∧ revision ≤ 1000000))
    (.valueError "revision must be between 1 and 1000000")
  require (resolver.byKey (providerId, modelId, tierId, revision))
    (.named "ProviderPolicyError" "no exact provider capability policy is configured")

/-- `default_binding`. -/
def defaultBinding (sha : Sha256) (providerId modelId : String) :
    Except MacrError ProviderTierBinding :=
  match resolver.resolve providerId modelId "standard" 1 with
  | .ok policy => .ok (policy.binding sha)
  | .error (.named "ProviderPolicyError" _) =>
    .error (.valueError "no default provider capability policy is configured")
  | .error raised => .error raised

/-- What is resolved is the published policy of the columns. -/
theorem resolve_eq_ok {providerId modelId tierId : String} {revision : Nat}
    {policy : ProviderCapabilityPolicy} :
    resolver.resolve providerId modelId tierId revision = .ok policy ↔
      policy ∈ resolver.policies ∧ policy.key = (providerId, modelId, tierId, revision) := by
  simp only [resolve, bind_eq_ok, raiseIf_eq_ok, exists_const, require_eq_ok, not_not, byKey]
  constructor
  · rintro ⟨_, _, _, _, found⟩
    exact ⟨List.mem_of_find?_eq_some found, by simpa using List.find?_some found⟩
  · rintro ⟨published, named⟩
    have columns := named
    unfold ProviderCapabilityPolicy.key at columns
    simp only [Prod.mk.injEq] at columns
    obtain ⟨rfl, rfl, rfl, rfl⟩ := columns
    refine ⟨policy.identifiers.1, policy.model_valid, policy.identifiers.2.1,
      policy.revision_range, ?_⟩
    cases found : resolver.policies.find? (fun other => other.key = policy.key) with
    | none =>
      have absent := List.find?_eq_none.mp found policy published
      simp at absent
    | some other =>
      have same : other.key = policy.key := by simpa using List.find?_some found
      rw [List.inj_on_of_nodup_map resolver.distinct (List.mem_of_find?_eq_some found) published
        same] at found
      exact found

end ProviderCapabilityResolver
end Macr
