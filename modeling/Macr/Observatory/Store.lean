import Macr.Lib.AppendOnly
import Macr.Observatory.Contracts

/-!
# The observatory store

One append-only SQLite file. A record is stored under the digest of its other columns; the same
record is found again, and a record with the identifier of another is refused. A call is one
transaction that rolls back when it raises. The private bytes of a snapshot are named by their
digest and left out. A digest of a record is taken from the record with its payload inside, and
the one a caller supplies is compared with it.
-/

namespace Macr

open Lib Observatory

/-- The tables of the observatory database. -/
structure ObservatoryDb where
  /-- `source_snapshots`. -/
  snapshots : Table (fun row : SnapshotRecord => row.snapshotId)
  /-- `model_subjects`. -/
  subjects : Table (fun row : ModelSubjectRecord => row.subjectId)
  /-- `execution_routes`. -/
  routes : Table (fun row : ExecutionRouteRecord => row.routeId)
  /-- `model_observations`. -/
  observations : Table (fun row : ObservationRecord => row.observationId)
  /-- `evidence_items`. -/
  evidence : Table (fun row : EvidenceRecord => row.evidenceId)
  /-- `qualification_decisions`. -/
  decisions : Table (fun row : QualificationDecisionRecord => row.decisionId)
  /-- `qualification_invalidations`. -/
  invalidations : Table (fun row : QualificationInvalidationRecord => row.invalidationId)
  /-- `coordination_plans`. -/
  plans : Table (fun row : CoordinationPlanRecord => row.planDigest)
  /-- `shadow_comparisons`. -/
  comparisons : Table (fun row : ShadowComparisonRecord => row.comparisonId)

/-- What the store computes with: SHA-256, and `repr` of a float. -/
structure ObservatoryKernel where
  /-- SHA-256. -/
  sha : Sha256
  /-- `float.__repr__`. -/
  floatRepr : ℚ → String

namespace ObservatoryDb

variable (kernel : ObservatoryKernel)

/-- A new database. -/
def initial : ObservatoryDb :=
  ⟨.empty, .empty, .empty, .empty, .empty, .empty, .empty, .empty, .empty⟩

/-! ## Records -/

/-- `_expected_or_conflict`. -/
def expectedOrConflict (key : String) (supplied : Option Digest) (expected : Digest) :
    Except MacrError Digest := do
  raiseIf (∃ digest ∈ supplied, digest ≠ expected)
    (.observatoryConflict s!"{key} conflicts with canonical record")
  return expected

/-- `_identifier`. -/
def identifier (name value : String) : Except MacrError String := do
  raiseIf (¬isIdentifier value) (.valueError s!"{name} must be a bounded ASCII identifier")
  return value

/-- The metadata of `append_snapshot`, with the digest of the raw bytes. -/
structure SnapshotMetadata extends SnapshotIdentity where
  /-- The bytes after normalisation. -/
  normalizedBytesSha256 : Option Digest
  /-- The identifier its writer expects. -/
  expectedId : Option Digest

/-- The record `append_snapshot` makes. -/
def snapshotRecord (data : SnapshotMetadata) : Except MacrError SnapshotRecord := do
  let _ ← identifier "source_id" data.sourceId
  let _ ← identifier "parser_version" data.parserVersion
  let snapshotId ← expectedOrConflict "snapshot_id" data.expectedId
    (kernel.sha.sha256Id "source_snapshot_v1" data.toSnapshotIdentity.toDict)
  return ⟨data.toSnapshotIdentity, snapshotId, data.normalizedBytesSha256⟩

/-- `_subject_record`. -/
def subjectRecord (subject : ModelSubject) : ModelSubjectRecord where
  subjectId := subject.subjectId kernel.sha
  canonicalJson :=
    .obj (subject.identityFields ++ [("identity_status", .str subject.identityStatus.value)])
  firstSeenSnapshotId := subject.firstSeenSnapshotId

/-- `_route_record`. -/
def routeRecord (route : ExecutionRouteIdentity) : ExecutionRouteRecord where
  routeId := route.routeId kernel.sha
  modelSubjectId := route.modelSubjectId
  canonicalJson := route.canonicalIdentity

/-- The metadata of `append_observation`. -/
structure ObservationMetadata where
  /-- The model. -/
  subjectId : Digest
  /-- The route. -/
  routeId : Option Digest
  /-- The snapshot. -/
  snapshotId : Digest
  /-- What was observed. -/
  kind : String
  /-- When. -/
  observedAt : Timestamp
  /-- The payload. -/
  payload : Json
  /-- The identifier its writer expects. -/
  expectedId : Option Digest

/-- `_observation_record`. -/
def observationRecord (data : ObservationMetadata) : Except MacrError ObservationRecord := do
  let kind ← identifier "kind" data.kind
  let canonicalJson ← Observatory.canonicalPayload kernel.floatRepr data.payload
  let identity : ObservationIdentity :=
    ⟨data.subjectId, data.routeId, data.snapshotId, kind, canonicalJson, data.observedAt⟩
  let observationId ← expectedOrConflict "observation_id" data.expectedId
    (kernel.sha.sha256Id "model_observation_v1" identity.toDict)
  return ⟨identity, observationId⟩

/-- The metadata of `append_evidence`. -/
structure EvidenceMetadata where
  /-- What it is evidence for. -/
  qualificationKey : Digest
  /-- What kind of evidence it is. -/
  kind : String
  /-- The model. -/
  subjectDigest : Digest
  /-- When it was observed. -/
  observedAt : Timestamp
  /-- The payload. -/
  payload : Json
  /-- The identifier its writer expects. -/
  expectedId : Option Digest

/-- `_evidence_record`. -/
def evidenceRecord (data : EvidenceMetadata) : Except MacrError EvidenceRecord := do
  let kind ← identifier "kind" data.kind
  let canonicalJson ← Observatory.canonicalPayload kernel.floatRepr data.payload
  let identity : EvidenceIdentity :=
    ⟨data.qualificationKey, kind, data.subjectDigest, canonicalJson, data.observedAt⟩
  let evidenceId ← expectedOrConflict "evidence_id" data.expectedId
    (kernel.sha.sha256Id "evidence_item_v1" identity.toDict)
  return ⟨identity, evidenceId⟩

/-- The metadata of `append_qualification_decision`. -/
structure DecisionMetadata where
  /-- What was decided on. -/
  qualificationKey : Digest
  /-- What was decided. -/
  state : String
  /-- The evidence. -/
  evidenceSetDigest : Digest
  /-- When. -/
  decidedAt : Timestamp
  /-- The payload. -/
  payload : Json
  /-- The identifier its writer expects. -/
  expectedId : Option Digest

/-- The record `append_qualification_decision` makes. -/
def decisionRecord (data : DecisionMetadata) : Except MacrError QualificationDecisionRecord := do
  let state ← identifier "state" data.state
  let canonicalJson ← Observatory.canonicalPayload kernel.floatRepr data.payload
  let identity : DecisionIdentity :=
    ⟨data.qualificationKey, state, data.evidenceSetDigest, canonicalJson, data.decidedAt⟩
  let decisionId ← expectedOrConflict "decision_id" data.expectedId
    (kernel.sha.sha256Id "qualification_decision_v1" identity.toDict)
  return ⟨identity, decisionId⟩

/-- The metadata of `append_qualification_invalidation`. -/
structure InvalidationMetadata extends InvalidationIdentity where
  /-- The identifier its writer expects. -/
  expectedId : Option Digest

/-- The record `append_qualification_invalidation` makes. -/
def invalidationRecord (data : InvalidationMetadata) :
    Except MacrError QualificationInvalidationRecord := do
  let _ ← identifier "reason_code" data.reasonCode
  let _ ← identifier "source_id" data.sourceId
  let invalidationId ← expectedOrConflict "invalidation_id" data.expectedId
    (kernel.sha.sha256Id "qualification_invalidation_v1" data.toInvalidationIdentity.toDict)
  return ⟨data.toInvalidationIdentity, invalidationId⟩

/-- `_coordination_plan_record`. -/
def coordinationPlanRecord (plan : CoordinationPlan) (persistedAt : Timestamp) :
    CoordinationPlanRecord where
  planDigest := plan.planDigest kernel.sha
  planId := plan.planId
  planRevision := plan.planRevision
  plannedAt := plan.plannedAt
  canonicalJson := plan.canonicalPlan kernel.sha
  persistedAt := persistedAt

/-- `_shadow_comparison_record`. -/
def shadowComparisonRecord (planDigest baselineRouteId proposedRouteId : Digest)
    (observedAt : Timestamp) (metadata : Json) : Except MacrError ShadowComparisonRecord := do
  let canonicalJson ← Observatory.canonicalPayload kernel.floatRepr metadata
  let identity : ComparisonIdentity :=
    ⟨planDigest, baselineRouteId, proposedRouteId, canonicalJson, observedAt⟩
  return ⟨identity, kernel.sha.sha256Id "shadow_comparison_v1" identity.toDict⟩

/-! ## Appending -/

/-- `_append_row_connection`: a new row must meet its references. -/
def appendRowConnection {α : Type} {key : α → Digest} [DecidableEq α] (table : Table key)
    (idColumn : String) (row : α) (references : Prop) [Decidable references] :
    Except MacrError (Table key × Bool) := do
  let (next, added) ← require (table.append? row)
    (.observatoryConflict s!"{idColumn} conflicts with append-only observatory state")
  raiseIf (added ∧ ¬references) .integrity
  return (next, added)

/-- `_append_row`, the table it leaves. -/
def appendRow {α : Type} {key : α → Digest} [DecidableEq α] (table : Table key)
    (idColumn : String) (row : α) (references : Prop) [Decidable references] :
    Except MacrError (Table key) :=
  onIntegrity (.observatoryConflict s!"{idColumn} conflicts with observatory references") do
    let (next, _) ← appendRowConnection table idColumn row references
    return next

/-- `append_snapshot`. -/
def appendSnapshot (db : ObservatoryDb) (data : SnapshotMetadata) :
    Except MacrError (ObservatoryDb × SnapshotRecord) := do
  let record ← snapshotRecord kernel data
  let snapshots ← appendRow db.snapshots "snapshot_id" record True
  return ({ db with snapshots := snapshots }, record)

/-- The foreign key of a subject. -/
def SubjectReferences (db : ObservatoryDb) (record : ModelSubjectRecord) : Prop :=
  db.snapshots.find? record.firstSeenSnapshotId ≠ none

instance (db : ObservatoryDb) (record : ModelSubjectRecord) :
    Decidable (db.SubjectReferences record) :=
  inferInstanceAs (Decidable (db.snapshots.find? record.firstSeenSnapshotId ≠ none))

/-- `_append_subject_connection`. -/
def appendSubjectConnection (db : ObservatoryDb) (record : ModelSubjectRecord) :
    Except MacrError (ObservatoryDb × ModelSubjectRecord) := do
  match db.subjects.find? record.subjectId with
  | none =>
    raiseIf (¬db.SubjectReferences record) .integrity
    let subjects ← require (db.subjects.insert? record) .integrity
    return ({ db with subjects := subjects }, record)
  | some existing =>
    raiseIf (existing.canonicalJson ≠ record.canonicalJson)
      (.observatoryConflict "subject_id conflicts with append-only observatory state")
    return (db, existing)

/-- `append_model_subject`. -/
def appendModelSubject (db : ObservatoryDb) (subject : ModelSubject) :
    Except MacrError (ObservatoryDb × ModelSubjectRecord) :=
  onIntegrity (.observatoryConflict "subject_id conflicts with observatory references")
    (db.appendSubjectConnection (subjectRecord kernel subject))

/-- The foreign key of a route. -/
abbrev RouteReferences (db : ObservatoryDb) (record : ExecutionRouteRecord) : Prop :=
  db.subjects.find? record.modelSubjectId ≠ none

/-- `append_execution_route`. -/
def appendExecutionRoute (db : ObservatoryDb) (route : ExecutionRouteIdentity) :
    Except MacrError (ObservatoryDb × ExecutionRouteRecord) := do
  let record := routeRecord kernel route
  let routes ← appendRow db.routes "route_id" record (db.RouteReferences record)
  return ({ db with routes := routes }, record)

/-- The observation is on no route, or on a route of its model. -/
def RouteBinds (db : ObservatoryDb) (record : ObservationRecord) : Prop :=
  ∀ routeId ∈ record.routeId,
    (db.routes.find? routeId).any (fun row => row.modelSubjectId = record.subjectId) = true

instance (db : ObservatoryDb) (record : ObservationRecord) : Decidable (db.RouteBinds record) :=
  inferInstanceAs (Decidable (∀ routeId ∈ record.routeId,
    (db.routes.find? routeId).any (fun row => row.modelSubjectId = record.subjectId) = true))

/-- The foreign keys of an observation, of which `RouteBinds` is stronger than the one to its
route. -/
def ObservationReferences (db : ObservatoryDb) (record : ObservationRecord) : Prop :=
  db.subjects.find? record.subjectId ≠ none ∧ db.snapshots.find? record.snapshotId ≠ none

instance (db : ObservatoryDb) (record : ObservationRecord) :
    Decidable (db.ObservationReferences record) :=
  inferInstanceAs (Decidable (_ ∧ _))

/-- An observation inside `append_discovery_batch`. -/
def appendObservationConnection (db : ObservatoryDb) (record : ObservationRecord) :
    Except MacrError ObservatoryDb := do
  raiseIf (¬db.RouteBinds record)
    (.observatoryConflict "observation route does not bind the supplied model subject")
  let (observations, _) ← appendRowConnection db.observations "observation_id" record
    (db.ObservationReferences record)
  return { db with observations := observations }

/-- `append_observation`. -/
def appendObservation (db : ObservatoryDb) (data : ObservationMetadata) :
    Except MacrError (ObservatoryDb × ObservationRecord) := do
  let record ← observationRecord kernel data
  let next ← onIntegrity
    (.observatoryConflict "observation_id conflicts with observatory references")
    (db.appendObservationConnection record)
  return (next, record)

/-- `append_discovery_batch`, the database it leaves. -/
def appendDiscoveryBatch (db : ObservatoryDb) (subjects : List ModelSubject)
    (routes : List ExecutionRouteIdentity) (observations : List ObservationMetadata) :
    Except MacrError ObservatoryDb := do
  let records ← observations.mapM (observationRecord kernel)
  onIntegrity (.observatoryConflict "discovery batch conflicts with observatory references") do
    let known ← subjects.foldlM
      (fun next subject => do
        let (later, _) ← next.appendSubjectConnection (subjectRecord kernel subject)
        return later) db
    let routed ← routes.foldlM
      (fun next route => do
        let record := routeRecord kernel route
        let (table, _) ← appendRowConnection next.routes "route_id" record
          (next.RouteReferences record)
        return { next with routes := table }) known
    records.foldlM appendObservationConnection routed

/-- `append_evidence`. -/
def appendEvidence (db : ObservatoryDb) (data : EvidenceMetadata) :
    Except MacrError (ObservatoryDb × EvidenceRecord) := do
  let record ← evidenceRecord kernel data
  let evidence ← appendRow db.evidence "evidence_id" record True
  return ({ db with evidence := evidence }, record)

/-- The rows of a batch, one after another, and whether each was new. -/
def appendEvidenceRows (table : Table (fun row : EvidenceRecord => row.evidenceId)) :
    List EvidenceRecord →
      Except MacrError (Table (fun row : EvidenceRecord => row.evidenceId) × List Bool)
  | [] => .ok (table, [])
  | record :: rest => do
    let (next, added) ← appendRowConnection table "evidence_id" record True
    let (last, inserted) ← appendEvidenceRows next rest
    return (last, added :: inserted)

/-- `append_evidence_batch_with_status`. -/
def appendEvidenceBatchWithStatus (db : ObservatoryDb) (entries : List EvidenceMetadata) :
    Except MacrError (ObservatoryDb × List EvidenceRecord × List Bool) := do
  let records ← entries.mapM (evidenceRecord kernel)
  let (evidence, inserted) ← appendEvidenceRows db.evidence records
  return ({ db with evidence := evidence }, records, inserted)

/-- `append_qualification_decision`. -/
def appendQualificationDecision (db : ObservatoryDb) (data : DecisionMetadata) :
    Except MacrError (ObservatoryDb × QualificationDecisionRecord) := do
  let record ← decisionRecord kernel data
  let decisions ← appendRow db.decisions "decision_id" record True
  return ({ db with decisions := decisions }, record)

/-- `append_qualification_invalidation`. -/
def appendQualificationInvalidation (db : ObservatoryDb) (data : InvalidationMetadata) :
    Except MacrError (ObservatoryDb × QualificationInvalidationRecord) := do
  let record ← invalidationRecord kernel data
  let invalidations ← appendRow db.invalidations "invalidation_id" record True
  return ({ db with invalidations := invalidations }, record)

/-- `_append_plan_connection`. -/
def appendPlanConnection (db : ObservatoryDb) (record : CoordinationPlanRecord) :
    Except MacrError (ObservatoryDb × CoordinationPlanRecord) := do
  match db.plans.find? record.planDigest with
  | none =>
    let plans ← require (db.plans.insert? record) .integrity
    return ({ db with plans := plans }, record)
  | some existing =>
    raiseIf (existing.canonicalJson ≠ record.canonicalJson)
      (.observatoryConflict "plan_digest conflicts with canonical plan")
    return (db, existing)

/-- `append_coordination_plan`. -/
def appendCoordinationPlan (db : ObservatoryDb) (plan : CoordinationPlan)
    (persistedAt : Timestamp) : Except MacrError (ObservatoryDb × CoordinationPlanRecord) :=
  onIntegrity (.observatoryConflict "coordination plan conflicts with append-only state")
    (db.appendPlanConnection (coordinationPlanRecord kernel plan persistedAt))

/-- The foreign key of a comparison. -/
abbrev ComparisonReferences (db : ObservatoryDb) (record : ShadowComparisonRecord) : Prop :=
  db.plans.find? record.planDigest ≠ none

/-- `append_shadow_comparison`. -/
def appendShadowComparison (db : ObservatoryDb)
    (planDigest baselineRouteId proposedRouteId : Digest) (observedAt : Timestamp)
    (metadata : Json) : Except MacrError (ObservatoryDb × ShadowComparisonRecord) := do
  let record ← shadowComparisonRecord kernel planDigest baselineRouteId proposedRouteId observedAt
    metadata
  let comparisons ← appendRow db.comparisons "comparison_id" record
    (db.ComparisonReferences record)
  return ({ db with comparisons := comparisons }, record)

/-- `append_shadow_plan`. -/
def appendShadowPlan (db : ObservatoryDb) (plan : CoordinationPlan) (baselineRouteId : Digest)
    (persistedAt : Timestamp) (metadata : Json) :
    Except MacrError (ObservatoryDb × CoordinationPlanRecord × ShadowComparisonRecord) := do
  match plan.bindings with
  | [binding] =>
    let comparison ← shadowComparisonRecord kernel (plan.planDigest kernel.sha) baselineRouteId
      binding.routeId persistedAt metadata
    onIntegrity
      (.observatoryConflict "shadow plan comparison conflicts with append-only state") do
      let (next, persisted) ←
        db.appendPlanConnection (coordinationPlanRecord kernel plan persistedAt)
      let (comparisons, _) ← appendRowConnection next.comparisons "comparison_id" comparison
        (next.ComparisonReferences comparison)
      return ({ next with comparisons := comparisons }, persisted, comparison)
  | [] | _ :: _ :: _ => .error (.valueError "shadow plan comparison requires one binding")

/-! ## Reading -/

/-- `read_model_subject`. -/
def readModelSubject (db : ObservatoryDb) (subjectId : Digest) : Option ModelSubjectRecord :=
  db.subjects.find? subjectId

/-- `read_execution_route`. -/
def readExecutionRoute (db : ObservatoryDb) (routeId : Digest) : Option ExecutionRouteRecord :=
  db.routes.find? routeId

/-- `read_evidence`. -/
def readEvidence (db : ObservatoryDb) (qualificationKey : Digest) : List EvidenceRecord :=
  sortOn (fun row => toLex (row.observedAt, row.evidenceId))
    (db.evidence.rows.filter (fun row => row.qualificationKey = qualificationKey))

/-- `read_qualification_invalidations`. -/
def readQualificationInvalidations (db : ObservatoryDb) (qualificationKey : Digest) :
    List QualificationInvalidationRecord :=
  sortOn (fun row => toLex (row.invalidatedAt, row.invalidationId))
    (db.invalidations.rows.filter (fun row => row.qualificationKey = qualificationKey))

/-! ## Runs -/

/-- One call that appends. -/
inductive Append where
  | snapshot (data : SnapshotMetadata)
  | modelSubject (subject : ModelSubject)
  | executionRoute (route : ExecutionRouteIdentity)
  | observation (data : ObservationMetadata)
  | discoveryBatch (subjects : List ModelSubject) (routes : List ExecutionRouteIdentity)
    (observations : List ObservationMetadata)
  | evidence (data : EvidenceMetadata)
  | evidenceBatch (entries : List EvidenceMetadata)
  | qualificationDecision (data : DecisionMetadata)
  | qualificationInvalidation (data : InvalidationMetadata)
  | coordinationPlan (plan : CoordinationPlan) (persistedAt : Timestamp)
  | shadowComparison (planDigest baselineRouteId proposedRouteId : Digest)
    (observedAt : Timestamp) (metadata : Json)
  | shadowPlan (plan : CoordinationPlan) (baselineRouteId : Digest) (persistedAt : Timestamp)
    (metadata : Json)

/-- The database a call commits, or the error it raises. -/
def append (db : ObservatoryDb) : Append → Except MacrError ObservatoryDb
  | .snapshot data => (·.1) <$> db.appendSnapshot kernel data
  | .modelSubject subject => (·.1) <$> db.appendModelSubject kernel subject
  | .executionRoute route => (·.1) <$> db.appendExecutionRoute kernel route
  | .observation data => (·.1) <$> db.appendObservation kernel data
  | .discoveryBatch subjects routes observations =>
    db.appendDiscoveryBatch kernel subjects routes observations
  | .evidence data => (·.1) <$> db.appendEvidence kernel data
  | .evidenceBatch entries => (·.1) <$> db.appendEvidenceBatchWithStatus kernel entries
  | .qualificationDecision data => (·.1) <$> db.appendQualificationDecision kernel data
  | .qualificationInvalidation data => (·.1) <$> db.appendQualificationInvalidation kernel data
  | .coordinationPlan plan persistedAt =>
    (·.1) <$> db.appendCoordinationPlan kernel plan persistedAt
  | .shadowComparison planDigest baselineRouteId proposedRouteId observedAt metadata =>
    (·.1) <$> db.appendShadowComparison kernel planDigest baselineRouteId proposedRouteId
      observedAt metadata
  | .shadowPlan plan baselineRouteId persistedAt metadata =>
    (·.1) <$> db.appendShadowPlan kernel plan baselineRouteId persistedAt metadata

/-- The database after a call. -/
def step (db : ObservatoryDb) (call : Append) : ObservatoryDb :=
  match db.append kernel call with
  | .ok next => next
  | .error _ => db

/-- The store. -/
def machine : Machine ObservatoryDb Append := ⟨step kernel⟩

/-- The databases that calls lead to. -/
def Reachable (db : ObservatoryDb) : Prop :=
  ∃ calls, db = (machine kernel).run initial calls

end ObservatoryDb

end Macr
