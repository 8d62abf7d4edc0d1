import Macr.Observatory.Store
import Mathlib.Algebra.Order.ZeroLEOne
import Mathlib.Data.List.Infix

/-!
# Qualification

`evaluate` decides from the evidence and the invalidations of a key up to an instant whether a
model is qualified for a role, and stores the decision. The confidence bound is a parameter: the
source computes the Wilson bound in floating point. A loop over the evidence counts the trials and
takes note of what speaks against them; a malformed item leaves what was noted of it before.
-/

namespace Macr

open Lib Observatory

/-- `ProbeDefinition`. -/
structure ProbeDefinition where
  /-- Its name. -/
  probeId : String
  /-- What it probes. -/
  probeClass : String
  /-- Its version. -/
  version : String
  /-- The role it probes for. -/
  roleDigest : Digest
  /-- The class of contexts it probes. -/
  contextClass : String
  /-- What verifies its trials. -/
  verifierSuiteDigest : Digest
  /-- Its tasks. -/
  taskPackDigest : Digest
  /-- How many variants are held out. -/
  heldOutVariantCount : Nat
  /-- What it may cost. -/
  costCeilingUsd : ℚ
  /-- Its controls. -/
  mutationControls : List String
  /-- What is known of its contamination. -/
  contaminationNotesDigest : Option Digest
  /-- The names are bounded identifiers. -/
  identifiers : isIdentifier probeId ∧ isIdentifier version ∧ isIdentifier contextClass
  /-- The class is one of the ten. -/
  class_known : probeClass ∈ ["P0_exact_output", "P1_structured_json", "P2_pure_function",
    "P3_bounded_module", "P4_whole_file_rewrite", "P5_cross_file_pair", "P6_tool_call_contract",
    "P7_coordinator_decomposition", "P8_reviewer_discrimination", "P9_long_horizon_iteration"]
  /-- The count is in range. -/
  count_range : 1 ≤ heldOutVariantCount ∧ heldOutVariantCount ≤ 100000
  /-- A cost is not negative. -/
  cost_nonneg : 0 ≤ costCeilingUsd
  /-- Controls are bounded identifiers, in order. -/
  controls_valid : (∀ control ∈ mutationControls, isIdentifier control) ∧
    Ascending mutationControls

/-- `ProbeDefinition.canonical_identity`. -/
def ProbeDefinition.canonicalIdentity (probe : ProbeDefinition) : Json :=
  .obj [("probe_id", .str probe.probeId), ("probe_class", .str probe.probeClass),
    ("version", .str probe.version), ("role_digest", .hex probe.roleDigest),
    ("context_class", .str probe.contextClass),
    ("verifier_suite_digest", .hex probe.verifierSuiteDigest),
    ("task_pack_digest", .hex probe.taskPackDigest),
    ("held_out_variant_count", .int probe.heldOutVariantCount),
    ("cost_ceiling_usd", .num probe.costCeilingUsd),
    ("mutation_controls", .strs probe.mutationControls),
    ("contamination_notes_digest", .optHex probe.contaminationNotesDigest)]

/-- `ProbeDefinition.probe_digest`, which the constructor compares with the identity. -/
def ProbeDefinition.probeDigest (sha : Sha256) (probe : ProbeDefinition) : Digest :=
  sha.sha256Id "probe_definition_v1" probe.canonicalIdentity

/-- `ProbeRegistry`. -/
structure ProbeRegistry (sha : Sha256) where
  /-- The definitions. -/
  definitions : List ProbeDefinition
  /-- No definition occurs twice. -/
  digests_distinct : (definitions.map (·.probeDigest sha)).Nodup
  /-- No name occurs twice. -/
  ids_distinct : (definitions.map (·.probeId)).Nodup

/-- `ProbeRegistry.get`. -/
def ProbeRegistry.get {sha : Sha256} (registry : ProbeRegistry sha) (probeDigest : Digest) :
    Option ProbeDefinition :=
  registry.definitions.find? (fun probe => probe.probeDigest sha = probeDigest)

/-- The arithmetic of the confidence bound. -/
structure Confidence (B : Type) where
  /-- `wilson_lower_bound` of successes and trials. -/
  lowerBound : Nat → Nat → B
  /-- The number a bound is written as. -/
  written : B → ℚ

/-- `wilson_lower_bound`, with its check of the counts. -/
def Confidence.wilson {B : Type} (confidence : Confidence B) (successes trials : Nat) :
    Except MacrError B := do
  raiseIf (trials < successes)
    (.valueError "successes and trials must satisfy 0 <= successes <= trials")
  return confidence.lowerBound successes trials

/-- `QualificationPolicy`. -/
structure QualificationPolicy (B : Type) [LinearOrder B] [Zero B] [One B] where
  /-- How many trials there must be. -/
  minTrials : Nat
  /-- What the bound must reach. -/
  minimumLowerBound : B
  /-- How old the newest trial may be. -/
  maxEvidenceAgeDays : Nat
  /-- Whether the negative control must pass. -/
  requireNegativeControls : Bool
  /-- The trials are in range. -/
  trials_range : 1 ≤ minTrials ∧ minTrials ≤ 100000
  /-- The bound is in range. -/
  bound_range : 0 ≤ minimumLowerBound ∧ minimumLowerBound ≤ 1
  /-- The age is in range. -/
  age_range : 1 ≤ maxEvidenceAgeDays ∧ maxEvidenceAgeDays ≤ 36500

/-! ## Reading a trial -/

namespace Observatory

/-- `payload.get(name)`. -/
def field? (payload : Json) (name : String) : Option Json :=
  match payload with
  | .obj fields => (fields.find? (fun field => field.1 = name)).map (·.2)
  | .null | .bool _ | .int _ | .num _ | .str _ | .hex _ | .time _ | .arr _ => none

/-- The text of a digest. -/
def digestText (digest : Digest) : String := hexText 64 digest

/-- `_SHA256.fullmatch`. -/
def isDigestText (text : String) : Bool :=
  text.toList.length = 64 && text.toList.all isHexDigit

/-- A text that is not empty. -/
def nonEmptyText? : Json → Option String
  | .str text => if text = "" then none else some text
  | .null | .bool _ | .int _ | .num _ | .hex _ | .time _ | .arr _ | .obj _ => none

/-- `_blind_spots`. -/
def blindSpots? (payload : Json) : Option (List String) :=
  match field? payload "blind_spots" with
  | some (.arr items) => items.mapM nonEmptyText?
  | _ => none

/-- `_digest("trial_id", ...)`. -/
def trialId? (payload : Json) : Option String :=
  match field? payload "trial_id" with
  | some (.str text) => if isDigestText text then some text else none
  | _ => none

/-- `_required_boolean`. -/
def requiredBoolean? (payload : Json) (name : String) : Option Bool :=
  match field? payload name with
  | some (.bool value) => some value
  | _ => none

/-- What a trial states of itself. -/
structure TrialOutcome where
  /-- The provider ended with success. -/
  providerSuccess : Bool
  /-- The verifier passed. -/
  verifierPassed : Bool
  /-- The negative control passed. -/
  negativeControlPassed : Bool
  /-- The versions it is bound to are current. -/
  boundVersionsCurrent : Bool
  /-- Its lineage is complete. -/
  lineageComplete : Bool
  /-- Its verifiers contradict each other. -/
  conflicting : Bool
deriving DecidableEq

/-- The six booleans of a trial. -/
def outcome? (payload : Json) : Option TrialOutcome := do
  let providerSuccess ← requiredBoolean? payload "provider_terminal_success"
  let verifierPassed ← requiredBoolean? payload "verifier_passed"
  let negativeControlPassed ← requiredBoolean? payload "negative_control_passed"
  let boundVersionsCurrent ← requiredBoolean? payload "bound_versions_current"
  let lineageComplete ← requiredBoolean? payload "lineage_complete"
  let conflicting ← requiredBoolean? payload "conflicting"
  return ⟨providerSuccess, verifierPassed, negativeControlPassed, boundVersionsCurrent,
    lineageComplete, conflicting⟩

/-- A trial counts as a success. -/
def TrialOutcome.succeeded (outcome : TrialOutcome) : Bool :=
  outcome.providerSuccess && outcome.verifierPassed && outcome.negativeControlPassed

/-- The components a trial states, with the values of the key. -/
def bindings (key : QualificationKey) : List (String × Json) :=
  [("model_subject_id", .str (digestText key.modelSubjectId)),
    ("route_id", .str (digestText key.routeId)), ("role_digest", .str (digestText key.roleDigest)),
    ("context_class", .str key.contextClass),
    ("verifier_suite_digest", .str (digestText key.verifierSuiteDigest)),
    ("probe_digest", .str (digestText key.probeDigest))]

/-- Every component a trial states is that of the key. -/
def isBound (key : QualificationKey) (payload : Json) : Bool :=
  (bindings key).all (fun binding => field? payload binding.1 = some binding.2)

end Observatory

/-! ## The scan -/

namespace QualificationEngine

/-- What the loop over the evidence has gathered. -/
structure Scan where
  /-- What is not known, as a set. -/
  blindSpots : List String
  /-- How many trials succeeded. -/
  successes : Nat
  /-- How many trials there are. -/
  trials : Nat
  /-- Something rejects the evidence. -/
  sawRejection : Bool
  /-- Something is stale. -/
  sawStale : Bool
  /-- Some lineage is incomplete. -/
  sawIncompleteLineage : Bool
  /-- The trials seen. -/
  trialIds : List String

namespace Scan

/-- `blind_spots.add`. -/
def note (scan : Scan) (text : String) : Scan :=
  { scan with blindSpots := scan.blindSpots.insert text }

/-- `blind_spots.update`. -/
def noteAll (scan : Scan) (texts : List String) : Scan := texts.foldl note scan

/-- Evidence is rejected. -/
def reject (scan : Scan) (text : String) : Scan := { scan.note text with sawRejection := true }

/-- Evidence is stale. -/
def age (scan : Scan) (text : String) : Scan := { scan.note text with sawStale := true }

/-- The lineage of evidence is incomplete. -/
def orphan (scan : Scan) (text : String) : Scan :=
  { scan.note text with sawIncompleteLineage := true }

/-- A trial is seen, for the first time or again. -/
def takeTrial (scan : Scan) (trialId : String) : Scan :=
  if trialId ∈ scan.trialIds then scan.reject "duplicate_or_conflicting_trial_id"
  else { scan with trialIds := trialId :: scan.trialIds }

/-- The subject of an item is compared with the key. -/
def checkSubject (scan : Scan) (key : QualificationKey) (item : EvidenceRecord) : Scan :=
  if item.subjectDigest ≠ key.modelSubjectId then scan.orphan "evidence_subject_mismatch"
  else scan

/-- The components an item states are compared with the key. -/
def checkBindings (scan : Scan) (key : QualificationKey) (item : EvidenceRecord) : Scan :=
  if isBound key item.canonicalJson then scan else scan.age "bound_version_or_identity_mismatch"

/-- What a trial states of itself is taken into account. -/
def judge (scan : Scan) (requireNegativeControls : Bool) (outcome : TrialOutcome) : Scan :=
  let versions := if outcome.boundVersionsCurrent then scan else scan.age "bound_versions_stale"
  let lineage := if outcome.lineageComplete then versions else versions.orphan "lineage_incomplete"
  let agreed := if outcome.conflicting then lineage.reject "conflicting_verifier_evidence"
    else lineage
  let controlled := if requireNegativeControls && !outcome.negativeControlPassed then
    agreed.reject "negative_control_failed" else agreed
  if outcome.succeeded then { controlled with successes := controlled.successes + 1 }
  else if outcome.verifierPassed then controlled
  else controlled.note "verifier_failures_observed"

/-- `except ValueError`. -/
def malformed (scan : Scan) : Scan := scan.reject "malformed_probe_evidence"

/-- One turn of the loop. -/
def turn (key : QualificationKey) (requireNegativeControls : Bool) (scan : Scan)
    (item : EvidenceRecord) : Scan :=
  let counted := { scan with trials := scan.trials + 1 }
  match blindSpots? item.canonicalJson with
  | none => counted.malformed
  | some texts =>
    let noted := counted.noteAll texts
    match trialId? item.canonicalJson with
    | none => noted.malformed
    | some trialId =>
      let bound := ((noted.takeTrial trialId).checkSubject key item).checkBindings key item
      match outcome? item.canonicalJson with
      | none => bound.malformed
      | some outcome => bound.judge requireNegativeControls outcome

end Scan

/-! ## What the key is bound to -/

/-- What the registry and the store know of the components of a key. -/
structure Standing where
  /-- `forced_state`. -/
  forcedState : Option QualificationState
  /-- What is not known. -/
  blindSpots : List String
  /-- `identity_status`. -/
  identityStatus : Option Json

namespace Standing

/-- A state is forced. -/
def force (standing : Standing) (state : QualificationState) (text : String) : Standing :=
  { standing with forcedState := some state, blindSpots := standing.blindSpots.insert text }

end Standing

/-- `_probe_matches_key`. -/
def probeMatchesKey (sha : Sha256) (probe : ProbeDefinition) (key : QualificationKey) : Bool :=
  probe.probeDigest sha = key.probeDigest && probe.roleDigest = key.roleDigest &&
    probe.contextClass = key.contextClass && probe.verifierSuiteDigest = key.verifierSuiteDigest

/-- The probe of the key. -/
def checkProbe {sha : Sha256} (registry : ProbeRegistry sha) (key : QualificationKey)
    (standing : Standing) : Standing :=
  match registry.get key.probeDigest with
  | none => standing.force .untested "probe_definition_missing"
  | some probe =>
    if probeMatchesKey sha probe key then standing
    else standing.force .stale "probe_binding_changed"

/-- The subject of the key. -/
def checkSubject (db : ObservatoryDb) (key : QualificationKey) (standing : Standing) : Standing :=
  match db.readModelSubject key.modelSubjectId with
  | none => standing.force .untested "model_subject_missing"
  | some subject =>
    let known := { standing with identityStatus := field? subject.canonicalJson "identity_status" }
    if known.identityStatus = some (.str "resolved") ∨
        known.identityStatus = some (.str "claimed") then known
    else if known.identityStatus = some (.str "unresolved") then
      known.force .shadowOnly "identity_unresolved"
    else known.force .untested "identity_status_invalid"

/-- The route of the key. -/
def checkRoute (db : ObservatoryDb) (key : QualificationKey) (standing : Standing) : Standing :=
  match db.readExecutionRoute key.routeId with
  | none => standing.force .untested "execution_route_missing"
  | some route =>
    if route.modelSubjectId = key.modelSubjectId then standing
    else standing.force .stale "route_subject_binding_changed"

/-- The three components of the key. -/
def standing {sha : Sha256} (registry : ProbeRegistry sha) (db : ObservatoryDb)
    (key : QualificationKey) : Standing :=
  checkRoute db key (checkSubject db key (checkProbe registry key ⟨none, [], none⟩))

/-! ## What is evaluated -/

/-- The trials of the key up to an instant. -/
def evidenceUpTo (sha : Sha256) (db : ObservatoryDb) (key : QualificationKey)
    (decidedAt : Timestamp) : List EvidenceRecord :=
  (db.readEvidence (key.digest sha)).filter
    (fun item => item.kind = "probe_result" ∧ item.observedAt ≤ decidedAt)

/-- The invalidations of the key up to an instant. -/
def invalidationsUpTo (sha : Sha256) (db : ObservatoryDb) (key : QualificationKey)
    (decidedAt : Timestamp) : List QualificationInvalidationRecord :=
  sortOn (fun item => toLex (item.invalidatedAt, item.invalidationId))
    ((db.readQualificationInvalidations (key.digest sha)).filter
      (fun item => item.invalidatedAt ≤ decidedAt))

/-- The reason of an invalidation contains a word. -/
def reasonHas (word : String) (item : QualificationInvalidationRecord) : Bool :=
  word.toList <:+: (lower item.reasonCode).toList

section Evaluate

variable {B : Type} [LinearOrder B] [Zero B] [One B]

/-- A state with what is not known. -/
abbrev Verdict := QualificationState × List String

/-- The state that the evidence alone gives. -/
def evidenceVerdict (policy : QualificationPolicy B) (identityStatus : Option Json) (scan : Scan)
    (lowerBound : B) (evidence : List EvidenceRecord) : Verdict :=
  if evidence = [] then (.untested, scan.blindSpots.insert "no_probe_evidence")
  else if scan.sawRejection then (.rejected, scan.blindSpots)
  else if scan.sawStale then (.stale, scan.blindSpots)
  else if scan.sawIncompleteLineage ∨ identityStatus = some (.str "unresolved") then
    (.shadowOnly, scan.blindSpots)
  else if scan.trials < policy.minTrials then
    (.shadowOnly, scan.blindSpots.insert "minimum_trials_not_met")
  else if lowerBound < policy.minimumLowerBound then
    (.shadowOnly, scan.blindSpots.insert "confidence_lower_bound_below_policy")
  else (.qualified, scan.blindSpots)

/-- A day in microseconds. -/
def dayMicroseconds : Nat := 86400 * 1000000

/-- The newest trial is too old. -/
def isTooOld (policy : QualificationPolicy B) (decidedAt : Timestamp)
    (evidence : List EvidenceRecord) : Bool :=
  match evidence.getLast? with
  | none => false
  | some latest =>
    policy.maxEvidenceAgeDays * dayMicroseconds < decidedAt - latest.observedAt

/-- Old evidence makes the state stale. -/
def ageVerdict (tooOld : Bool) (verdict : Verdict) : Verdict :=
  if tooOld then
    (if verdict.1 = .rejected then .rejected else .stale, verdict.2.insert "evidence_stale")
  else verdict

/-- Invalidations overrule the evidence. -/
def invalidationVerdict (invalidations : List QualificationInvalidationRecord)
    (verdict : Verdict) : Verdict :=
  if invalidations = [] then verdict
  else
    (if invalidations.any (reasonHas "revok") then .revoked
      else if invalidations.any (reasonHas "suspend") then .suspended
      else if verdict.1 = .rejected then .rejected else .stale,
      verdict.2.insert "qualification_invalidated")

/-- A forced state overrules all but a rejection, a revocation and a suspension. -/
def forcedVerdict (forcedState : Option QualificationState) (state : QualificationState) :
    QualificationState :=
  match forcedState with
  | none => state
  | some forced =>
    if state = .rejected ∨ state = .revoked ∨ state = .suspended then state else forced

/-- `QualificationPolicy.to_dict`. -/
def policyDocument (confidence : Confidence B) (policy : QualificationPolicy B) : Json :=
  .obj [("min_trials", .int policy.minTrials),
    ("minimum_lower_bound", .num (confidence.written policy.minimumLowerBound)),
    ("max_evidence_age_days", .int policy.maxEvidenceAgeDays),
    ("require_negative_controls", .bool policy.requireNegativeControls)]

/-- `QualificationPolicy.policy_digest`. -/
def policyDigest (sha : Sha256) (confidence : Confidence B) (policy : QualificationPolicy B) :
    Digest :=
  sha.sha256Id "qualification_policy_v1" (policyDocument confidence policy)

end Evaluate

/-- `QualificationDecision`. -/
structure QualificationDecision (B : Type) where
  /-- Its identifier. -/
  decisionId : Digest
  /-- What was decided on. -/
  qualificationKey : Digest
  /-- What was decided. -/
  state : QualificationState
  /-- The evidence. -/
  evidenceSetDigest : Digest
  /-- The policy. -/
  policyDigest : Digest
  /-- When. -/
  decidedAt : Timestamp
  /-- The trials. -/
  evidenceIds : List Digest
  /-- The invalidations. -/
  invalidationIds : List Digest
  /-- How many trials succeeded. -/
  successes : Nat
  /-- How many trials there are. -/
  trials : Nat
  /-- The confidence bound. -/
  lowerBound : B
  /-- What is not known. -/
  blindSpots : List String

section Evaluate

variable {B : Type} [LinearOrder B] [Zero B] [One B]

/-- What is decided, before it is stored. -/
structure Assessment (B : Type) where
  /-- The state. -/
  state : QualificationState
  /-- What is not known, in order. -/
  blindSpots : List String
  /-- The trials. -/
  evidenceIds : List Digest
  /-- The invalidations. -/
  invalidationIds : List Digest
  /-- How many trials succeeded. -/
  successes : Nat
  /-- How many trials there are. -/
  trials : Nat
  /-- The confidence bound. -/
  lowerBound : B

/-- The loop over the evidence. -/
def scanEvidence (key : QualificationKey) (policy : QualificationPolicy B)
    (blindSpots : List String) (evidence : List EvidenceRecord) : Scan :=
  evidence.foldl (Scan.turn key policy.requireNegativeControls)
    ⟨blindSpots, 0, 0, false, false, false, []⟩

/-- The part of `evaluate` that decides. -/
def assess {sha : Sha256} (confidence : Confidence B) (registry : ProbeRegistry sha)
    (db : ObservatoryDb) (key : QualificationKey) (policy : QualificationPolicy B)
    (decidedAt : Timestamp) : Except MacrError (Assessment B) := do
  let standing := standing registry db key
  let evidence := evidenceUpTo sha db key decidedAt
  let invalidations := invalidationsUpTo sha db key decidedAt
  let scan := scanEvidence key policy standing.blindSpots evidence
  let lowerBound ← confidence.wilson scan.successes scan.trials
  let verdict := invalidationVerdict invalidations
    (ageVerdict (isTooOld policy decidedAt evidence)
      (evidenceVerdict policy standing.identityStatus scan lowerBound evidence))
  return {
    state := forcedVerdict standing.forcedState verdict.1
    blindSpots := sortOn id verdict.2
    evidenceIds := evidence.map (·.evidenceId)
    invalidationIds := invalidations.map (·.invalidationId)
    successes := scan.successes
    trials := scan.trials
    lowerBound := lowerBound }

/-- The digest of the evidence. -/
def evidenceSetDigest (sha : Sha256) (assessment : Assessment B) : Digest :=
  sha.sha256Id "qualification_evidence_set_v1"
    (.obj [("evidence_ids", .hexes assessment.evidenceIds),
      ("invalidation_ids", .hexes assessment.invalidationIds)])

/-- The payload of a decision. -/
def decisionPayload (sha : Sha256) (confidence : Confidence B) (key : QualificationKey)
    (policy : QualificationPolicy B) (assessment : Assessment B) : Json :=
  .obj [("policy_digest", .hex (policyDigest sha confidence policy)),
    ("model_subject_id", .hex key.modelSubjectId), ("route_id", .hex key.routeId),
    ("role_digest", .hex key.roleDigest), ("context_class", .str key.contextClass),
    ("verifier_suite_digest", .hex key.verifierSuiteDigest),
    ("probe_digest", .hex key.probeDigest),
    ("evidence_ids", .hexes assessment.evidenceIds),
    ("invalidation_ids", .hexes assessment.invalidationIds),
    ("successes", .int assessment.successes), ("trials", .int assessment.trials),
    ("lower_bound", .num (confidence.written assessment.lowerBound)),
    ("blind_spots", .strs assessment.blindSpots)]

/-- `QualificationEngine.evaluate`. -/
def evaluate (kernel : ObservatoryKernel) (confidence : Confidence B)
    (registry : ProbeRegistry kernel.sha) (db : ObservatoryDb) (key : QualificationKey)
    (policy : QualificationPolicy B) (asOf : Timestamp) :
    Except MacrError (ObservatoryDb × QualificationDecision B) := do
  let assessment ← assess confidence registry db key policy asOf
  let (next, persisted) ← db.appendQualificationDecision kernel
    { qualificationKey := key.digest kernel.sha
      state := assessment.state.value
      evidenceSetDigest := evidenceSetDigest kernel.sha assessment
      decidedAt := asOf
      payload := decisionPayload kernel.sha confidence key policy assessment
      expectedId := none }
  return (next, {
    decisionId := persisted.decisionId
    qualificationKey := key.digest kernel.sha
    state := assessment.state
    evidenceSetDigest := evidenceSetDigest kernel.sha assessment
    policyDigest := policyDigest kernel.sha confidence policy
    decidedAt := asOf
    evidenceIds := assessment.evidenceIds
    invalidationIds := assessment.invalidationIds
    successes := assessment.successes
    trials := assessment.trials
    lowerBound := assessment.lowerBound
    blindSpots := assessment.blindSpots })

end Evaluate

end QualificationEngine

end Macr
