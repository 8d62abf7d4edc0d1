import Macr.Lib.Sequencing
import Macr.Observatory.Store
import Mathlib.Logic.Relation

/-!
# What a call adds

Every call that commits has added rows, one after another, and changed none. Each added row is
stored under the digest of its identity and finds the rows it refers to; so it is in every
database that calls lead to.
-/

namespace Macr.ObservatoryDb

open Lib Observatory

variable {kernel : ObservatoryKernel} {db next : ObservatoryDb}

/-- A stored payload is one that was accepted. -/
def Accepted (kernel : ObservatoryKernel) (canonicalJson : Json) : Prop :=
  ∃ payload, Observatory.canonicalPayload kernel.floatRepr payload = .ok canonicalJson

/-- One row is added. -/
inductive Addition (kernel : ObservatoryKernel) (db : ObservatoryDb) : ObservatoryDb → Prop
  | snapshot (record : SnapshotRecord) (table)
      (addressed : record.snapshotId =
        kernel.sha.sha256Id "source_snapshot_v1" record.toSnapshotIdentity.toDict)
      (inserted : db.snapshots.insert? record = some table) :
      Addition kernel db { db with snapshots := table }
  | subject (subject : ModelSubject) (table)
      (references : db.SubjectReferences (subjectRecord kernel subject))
      (inserted : db.subjects.insert? (subjectRecord kernel subject) = some table) :
      Addition kernel db { db with subjects := table }
  | route (route : ExecutionRouteIdentity) (table)
      (references : db.RouteReferences (routeRecord kernel route))
      (inserted : db.routes.insert? (routeRecord kernel route) = some table) :
      Addition kernel db { db with routes := table }
  | observation (record : ObservationRecord) (table)
      (addressed : record.observationId =
        kernel.sha.sha256Id "model_observation_v1" record.toObservationIdentity.toDict)
      (accepted : Accepted kernel record.canonicalJson) (binds : db.RouteBinds record)
      (references : db.ObservationReferences record)
      (inserted : db.observations.insert? record = some table) :
      Addition kernel db { db with observations := table }
  | evidence (record : EvidenceRecord) (table)
      (addressed : record.evidenceId =
        kernel.sha.sha256Id "evidence_item_v1" record.toEvidenceIdentity.toDict)
      (accepted : Accepted kernel record.canonicalJson)
      (inserted : db.evidence.insert? record = some table) :
      Addition kernel db { db with evidence := table }
  | decision (record : QualificationDecisionRecord) (table)
      (addressed : record.decisionId =
        kernel.sha.sha256Id "qualification_decision_v1" record.toDecisionIdentity.toDict)
      (accepted : Accepted kernel record.canonicalJson)
      (inserted : db.decisions.insert? record = some table) :
      Addition kernel db { db with decisions := table }
  | invalidation (record : QualificationInvalidationRecord) (table)
      (addressed : record.invalidationId =
        kernel.sha.sha256Id "qualification_invalidation_v1" record.toInvalidationIdentity.toDict)
      (reason : isIdentifier record.reasonCode)
      (inserted : db.invalidations.insert? record = some table) :
      Addition kernel db { db with invalidations := table }
  | plan (plan : CoordinationPlan) (persistedAt : Timestamp) (table)
      (inserted : db.plans.insert? (coordinationPlanRecord kernel plan persistedAt) = some table) :
      Addition kernel db { db with plans := table }
  | comparison (record : ShadowComparisonRecord) (table)
      (addressed : record.comparisonId =
        kernel.sha.sha256Id "shadow_comparison_v1" record.toComparisonIdentity.toDict)
      (accepted : Accepted kernel record.canonicalJson)
      (references : db.ComparisonReferences record)
      (inserted : db.comparisons.insert? record = some table) :
      Addition kernel db { db with comparisons := table }

/-- Rows are added, one after another. -/
abbrev Additions (kernel : ObservatoryKernel) : ObservatoryDb → ObservatoryDb → Prop :=
  Relation.ReflTransGen (Addition kernel)

/-! ## Records -/

@[simp] theorem identifier_eq_ok {name value result : String} :
    identifier name value = .ok result ↔ isIdentifier value ∧ result = value := by
  simp only [identifier, bind_eq_ok, raiseIf_eq_ok, pure_eq_ok, not_not]
  constructor
  · rintro ⟨_, valid, rfl⟩
    exact ⟨valid, rfl⟩
  · rintro ⟨valid, rfl⟩
    exact ⟨(), valid, rfl⟩

@[simp] theorem expectedOrConflict_eq_ok {key : String} {supplied : Option Digest}
    {expected result : Digest} :
    expectedOrConflict key supplied expected = .ok result ↔
      (∀ digest ∈ supplied, digest = expected) ∧ result = expected := by
  simp only [expectedOrConflict, bind_eq_ok, raiseIf_eq_ok, pure_eq_ok, not_exists, not_and,
    not_not]
  constructor
  · rintro ⟨_, same, rfl⟩
    exact ⟨same, rfl⟩
  · rintro ⟨same, rfl⟩
    exact ⟨(), same, rfl⟩

/-- A snapshot is stored under the digest of its identity. -/
theorem snapshotRecord_addressed {data : SnapshotMetadata} {record : SnapshotRecord}
    (made : snapshotRecord kernel data = .ok record) : record.snapshotId =
      kernel.sha.sha256Id "source_snapshot_v1" record.toSnapshotIdentity.toDict := by
  simp only [snapshotRecord, bind_eq_ok, pure_eq_ok, expectedOrConflict_eq_ok] at made
  obtain ⟨_, _, _, _, _, ⟨_, rfl⟩, rfl⟩ := made
  rfl

/-- The record of an observation. -/
theorem observationRecord_eq_ok {data : ObservationMetadata} {record : ObservationRecord}
    (made : observationRecord kernel data = .ok record) :
    record.observationId =
        kernel.sha.sha256Id "model_observation_v1" record.toObservationIdentity.toDict ∧
      Observatory.canonicalPayload kernel.floatRepr data.payload = .ok record.canonicalJson ∧
      record.subjectId = data.subjectId ∧ record.routeId = data.routeId ∧
      record.snapshotId = data.snapshotId ∧ record.kind = data.kind ∧
      record.observedAt = data.observedAt := by
  simp only [observationRecord, bind_eq_ok, pure_eq_ok, identifier_eq_ok,
    expectedOrConflict_eq_ok] at made
  obtain ⟨_, ⟨_, rfl⟩, payload, accepted, _, ⟨_, rfl⟩, rfl⟩ := made
  exact ⟨rfl, accepted, rfl, rfl, rfl, rfl, rfl⟩

/-- The record of an evidence item. -/
theorem evidenceRecord_eq_ok {data : EvidenceMetadata} {record : EvidenceRecord}
    (made : evidenceRecord kernel data = .ok record) :
    record.evidenceId =
        kernel.sha.sha256Id "evidence_item_v1" record.toEvidenceIdentity.toDict ∧
      Observatory.canonicalPayload kernel.floatRepr data.payload = .ok record.canonicalJson ∧
      record.qualificationKey = data.qualificationKey ∧ record.kind = data.kind ∧
      record.subjectDigest = data.subjectDigest ∧ record.observedAt = data.observedAt := by
  simp only [evidenceRecord, bind_eq_ok, pure_eq_ok, identifier_eq_ok,
    expectedOrConflict_eq_ok] at made
  obtain ⟨_, ⟨_, rfl⟩, payload, accepted, _, ⟨_, rfl⟩, rfl⟩ := made
  exact ⟨rfl, accepted, rfl, rfl, rfl, rfl⟩

/-- The record of a decision. -/
theorem decisionRecord_eq_ok {data : DecisionMetadata} {record : QualificationDecisionRecord}
    (made : decisionRecord kernel data = .ok record) :
    record.decisionId =
        kernel.sha.sha256Id "qualification_decision_v1" record.toDecisionIdentity.toDict ∧
      Observatory.canonicalPayload kernel.floatRepr data.payload = .ok record.canonicalJson ∧
      record.qualificationKey = data.qualificationKey ∧ record.state = data.state ∧
      record.evidenceSetDigest = data.evidenceSetDigest ∧ record.decidedAt = data.decidedAt := by
  simp only [decisionRecord, bind_eq_ok, pure_eq_ok, identifier_eq_ok,
    expectedOrConflict_eq_ok] at made
  obtain ⟨_, ⟨_, rfl⟩, payload, accepted, _, ⟨_, rfl⟩, rfl⟩ := made
  exact ⟨rfl, accepted, rfl, rfl, rfl, rfl⟩

/-- The record of an invalidation. -/
theorem invalidationRecord_eq_ok {data : InvalidationMetadata}
    {record : QualificationInvalidationRecord} (made : invalidationRecord kernel data = .ok record) :
    record.invalidationId = kernel.sha.sha256Id "qualification_invalidation_v1"
        record.toInvalidationIdentity.toDict ∧
      isIdentifier record.reasonCode ∧
      record.toInvalidationIdentity = data.toInvalidationIdentity := by
  simp only [invalidationRecord, bind_eq_ok, pure_eq_ok, identifier_eq_ok,
    expectedOrConflict_eq_ok] at made
  obtain ⟨_, ⟨reason, _⟩, _, _, _, ⟨_, rfl⟩, rfl⟩ := made
  exact ⟨rfl, reason, rfl⟩

/-- The record of a comparison. -/
theorem shadowComparisonRecord_eq_ok {planDigest baselineRouteId proposedRouteId : Digest}
    {observedAt : Timestamp} {metadata : Json} {record : ShadowComparisonRecord}
    (made : shadowComparisonRecord kernel planDigest baselineRouteId proposedRouteId observedAt
      metadata = .ok record) :
    record.comparisonId =
        kernel.sha.sha256Id "shadow_comparison_v1" record.toComparisonIdentity.toDict ∧
      Observatory.canonicalPayload kernel.floatRepr metadata = .ok record.canonicalJson ∧
      record.planDigest = planDigest := by
  simp only [shadowComparisonRecord, bind_eq_ok, pure_eq_ok] at made
  obtain ⟨payload, accepted, rfl⟩ := made
  exact ⟨rfl, accepted, rfl⟩

/-! ## Tables -/

section Rows

variable {α : Type} {key : α → Digest} [DecidableEq α] {table later : Table key} {row : α}
  {references : Prop} [Decidable references] {idColumn : String}

/-- A row is appended when its key is not another's and its references are met. -/
theorem appendRowConnection_eq_ok {added : Bool} :
    appendRowConnection table idColumn row references = .ok (later, added) ↔
      table.append? row = some (later, added) ∧ (added = true → references) := by
  simp only [appendRowConnection, bind_eq_ok, require_eq_ok, raiseIf_eq_ok, pure_eq_ok]
  constructor
  · rintro ⟨⟨other, new⟩, appended, _, met, same⟩
    cases same
    exact ⟨appended, fun isNew => by_contra fun missing => met ⟨isNew, missing⟩⟩
  · rintro ⟨appended, met⟩
    exact ⟨(later, added), appended, (), fun odd => odd.2 (met odd.1), rfl⟩

/-- The same of a call that appends one row. -/
theorem appendRow_eq_ok : appendRow table idColumn row references = .ok later ↔
    ∃ added, table.append? row = some (later, added) ∧ (added = true → references) := by
  simp only [appendRow, onIntegrity_eq_ok, bind_eq_ok, pure_eq_ok]
  constructor
  · rintro ⟨⟨other, added⟩, appended, rfl⟩
    exact ⟨added, appendRowConnection_eq_ok.mp appended⟩
  · rintro ⟨added, appended⟩
    exact ⟨(later, added), appendRowConnection_eq_ok.mpr appended, rfl⟩

omit [Decidable references] in
/-- An appended row was inserted, or changed nothing. -/
theorem inserted_or_found {added : Bool} (appended : table.append? row = some (later, added))
    (met : added = true → references) :
    (table.insert? row = some later ∧ references) ∨ later = table := by
  rcases Table.append?_eq_some.mp appended with ⟨inserted, new⟩ | ⟨_, same, _⟩
  · exact .inl ⟨inserted, met new⟩
  · exact .inr same

end Rows

/-! ## Calls -/

theorem appendSnapshot_additions {data : SnapshotMetadata} {record : SnapshotRecord}
    (done : db.appendSnapshot kernel data = .ok (next, record)) : Additions kernel db next := by
  simp only [appendSnapshot, bind_eq_ok, pure_eq_ok] at done
  obtain ⟨made, recorded, table, appended, same⟩ := done
  cases same
  obtain ⟨added, found, met⟩ := appendRow_eq_ok.mp appended
  rcases inserted_or_found found met with ⟨inserted, _⟩ | rfl
  · exact .single (.snapshot record table (snapshotRecord_addressed recorded) inserted)
  · exact .refl

theorem appendSubjectConnection_additions {subject : ModelSubject} {record : ModelSubjectRecord}
    (done : db.appendSubjectConnection (subjectRecord kernel subject) = .ok (next, record)) :
    Additions kernel db next := by
  unfold appendSubjectConnection at done
  cases found : db.subjects.find? (subjectRecord kernel subject).subjectId with
  | none =>
    simp only [found, bind_eq_ok, raiseIf_eq_ok, require_eq_ok, pure_eq_ok, not_not] at done
    obtain ⟨_, references, table, inserted, same⟩ := done
    cases same
    exact .single (.subject subject table references inserted)
  | some existing =>
    simp only [found, bind_eq_ok, raiseIf_eq_ok, pure_eq_ok] at done
    obtain ⟨_, _, same⟩ := done
    cases same
    exact .refl

/-- A route is added, or found. -/
theorem appendRoute_additions {route : ExecutionRouteIdentity} {table} {added : Bool}
    (appended : db.routes.append? (routeRecord kernel route) = some (table, added))
    (met : added = true → db.RouteReferences (routeRecord kernel route)) :
    Additions kernel db { db with routes := table } := by
  rcases inserted_or_found appended met with ⟨inserted, references⟩ | rfl
  · exact .single (.route route table references inserted)
  · exact .refl

theorem appendExecutionRoute_additions {route : ExecutionRouteIdentity}
    {record : ExecutionRouteRecord}
    (done : db.appendExecutionRoute kernel route = .ok (next, record)) :
    Additions kernel db next := by
  simp only [appendExecutionRoute, bind_eq_ok, pure_eq_ok] at done
  obtain ⟨table, appended, same⟩ := done
  cases same
  obtain ⟨added, found, met⟩ := appendRow_eq_ok.mp appended
  exact appendRoute_additions found met

theorem appendObservationConnection_additions {data : ObservationMetadata}
    {record : ObservationRecord} (made : observationRecord kernel data = .ok record)
    (done : db.appendObservationConnection record = .ok next) : Additions kernel db next := by
  obtain ⟨addressed, accepted, _⟩ := observationRecord_eq_ok made
  simp only [appendObservationConnection, bind_eq_ok, raiseIf_eq_ok, pure_eq_ok, not_not] at done
  obtain ⟨_, binds, ⟨table, added⟩, appended, rfl⟩ := done
  obtain ⟨found, met⟩ := appendRowConnection_eq_ok.mp appended
  rcases inserted_or_found found met with ⟨inserted, references⟩ | rfl
  · exact .single (.observation record table addressed ⟨_, accepted⟩ binds references inserted)
  · exact .refl

theorem appendObservation_additions {data : ObservationMetadata} {record : ObservationRecord}
    (done : db.appendObservation kernel data = .ok (next, record)) :
    Additions kernel db next := by
  simp only [appendObservation, bind_eq_ok, pure_eq_ok, onIntegrity_eq_ok] at done
  obtain ⟨made, recorded, last, appended, same⟩ := done
  cases same
  exact appendObservationConnection_additions recorded appended

/-- The loop rule for rows added in turns. -/
theorem additions_of_foldlM {α : Type} {body : ObservatoryDb → α → Except MacrError ObservatoryDb}
    {items : List α}
    (turn : ∀ before item after, item ∈ items → body before item = .ok after →
      Additions kernel before after)
    (done : items.foldlM body db = .ok next) : Additions kernel db next := by
  have kept := foldlM_invariant (fun reached rest => (∀ item ∈ rest, item ∈ items) ∧
    Additions kernel db reached) (fun reached item rest after held turned =>
      ⟨fun other member => held.1 other (List.mem_cons_of_mem item member),
        held.2.trans (turn reached item after (held.1 item List.mem_cons_self) turned)⟩)
    ⟨fun item member => member, .refl⟩ done
  exact kept.2

theorem appendDiscoveryBatch_additions {subjects : List ModelSubject}
    {routes : List ExecutionRouteIdentity} {observations : List ObservationMetadata}
    (done : db.appendDiscoveryBatch kernel subjects routes observations = .ok next) :
    Additions kernel db next := by
  simp only [appendDiscoveryBatch, bind_eq_ok, onIntegrity_eq_ok] at done
  obtain ⟨records, made, known, subjectsDone, routed, routesDone, observationsDone⟩ := done
  have first : Additions kernel db known := by
    refine additions_of_foldlM ?_ subjectsDone
    intro before subject after _ turned
    simp only [bind_eq_ok, pure_eq_ok] at turned
    obtain ⟨⟨reached, record⟩, appended, rfl⟩ := turned
    exact appendSubjectConnection_additions appended
  have second : Additions kernel known routed := by
    refine additions_of_foldlM ?_ routesDone
    intro before route after _ turned
    simp only [bind_eq_ok, pure_eq_ok] at turned
    obtain ⟨⟨table, added⟩, appended, rfl⟩ := turned
    obtain ⟨found, met⟩ := appendRowConnection_eq_ok.mp appended
    exact appendRoute_additions found met
  have third : Additions kernel routed next := by
    refine additions_of_foldlM ?_ observationsDone
    intro before record after member turned
    obtain ⟨data, _, recorded⟩ := item_of_mapM made member
    exact appendObservationConnection_additions recorded turned
  exact first.trans (second.trans third)

/-- An evidence item is added, or found. -/
theorem appendEvidenceRow_additions {data : EvidenceMetadata} {record : EvidenceRecord} {table}
    {added : Bool} (made : evidenceRecord kernel data = .ok record)
    (appended : db.evidence.append? record = some (table, added)) :
    Additions kernel db { db with evidence := table } := by
  obtain ⟨addressed, accepted, _⟩ := evidenceRecord_eq_ok made
  have met : added = true → True := fun _ => trivial
  rcases inserted_or_found appended met with ⟨inserted, _⟩ | rfl
  · exact .single (.evidence record table addressed ⟨_, accepted⟩ inserted)
  · exact .refl

theorem appendEvidence_additions {data : EvidenceMetadata} {record : EvidenceRecord}
    (done : db.appendEvidence kernel data = .ok (next, record)) : Additions kernel db next := by
  simp only [appendEvidence, bind_eq_ok, pure_eq_ok] at done
  obtain ⟨made, recorded, table, appended, same⟩ := done
  cases same
  obtain ⟨added, found, _⟩ := appendRow_eq_ok.mp appended
  exact appendEvidenceRow_additions recorded found

/-- The rows of a batch are added in turns. -/
theorem appendEvidenceRows_additions {records : List EvidenceRecord} {table} {inserted : List Bool}
    (made : ∀ record ∈ records, ∃ data, evidenceRecord kernel data = .ok record)
    (done : appendEvidenceRows db.evidence records = .ok (table, inserted)) :
    Additions kernel db { db with evidence := table } := by
  induction records generalizing db inserted with
  | nil =>
    simp only [appendEvidenceRows, Except.ok.injEq, Prod.mk.injEq] at done
    obtain ⟨rfl, _⟩ := done
    exact .refl
  | cons record rest ih =>
    simp only [appendEvidenceRows, bind_eq_ok, pure_eq_ok] at done
    obtain ⟨⟨reached, added⟩, appended, ⟨last, later⟩, continued, same⟩ := done
    cases same
    obtain ⟨data, recorded⟩ := made record List.mem_cons_self
    have first := appendEvidenceRow_additions recorded (appendRowConnection_eq_ok.mp appended).1
    have others : ∀ other ∈ rest, ∃ data, evidenceRecord kernel data = .ok other :=
      fun other member => made other (List.mem_cons_of_mem record member)
    exact first.trans (@ih { db with evidence := reached } _ others continued)

theorem appendEvidenceBatchWithStatus_additions {entries : List EvidenceMetadata}
    {records : List EvidenceRecord} {inserted : List Bool}
    (done : db.appendEvidenceBatchWithStatus kernel entries = .ok (next, records, inserted)) :
    Additions kernel db next := by
  simp only [appendEvidenceBatchWithStatus, bind_eq_ok, pure_eq_ok] at done
  obtain ⟨made, recorded, ⟨table, flags⟩, appended, same⟩ := done
  cases same
  refine appendEvidenceRows_additions (fun record member => ?_) appended
  obtain ⟨data, _, made⟩ := item_of_mapM recorded member
  exact ⟨data, made⟩

theorem appendQualificationDecision_additions {data : DecisionMetadata}
    {record : QualificationDecisionRecord}
    (done : db.appendQualificationDecision kernel data = .ok (next, record)) :
    Additions kernel db next := by
  simp only [appendQualificationDecision, bind_eq_ok, pure_eq_ok] at done
  obtain ⟨made, recorded, table, appended, same⟩ := done
  cases same
  obtain ⟨addressed, accepted, _⟩ := decisionRecord_eq_ok recorded
  obtain ⟨added, found, met⟩ := appendRow_eq_ok.mp appended
  rcases inserted_or_found found met with ⟨inserted, _⟩ | rfl
  · exact .single (.decision record table addressed ⟨_, accepted⟩ inserted)
  · exact .refl

theorem appendQualificationInvalidation_additions {data : InvalidationMetadata}
    {record : QualificationInvalidationRecord}
    (done : db.appendQualificationInvalidation kernel data = .ok (next, record)) :
    Additions kernel db next := by
  simp only [appendQualificationInvalidation, bind_eq_ok, pure_eq_ok] at done
  obtain ⟨made, recorded, table, appended, same⟩ := done
  cases same
  obtain ⟨addressed, reason, _⟩ := invalidationRecord_eq_ok recorded
  obtain ⟨added, found, met⟩ := appendRow_eq_ok.mp appended
  rcases inserted_or_found found met with ⟨inserted, _⟩ | rfl
  · exact .single (.invalidation record table addressed reason inserted)
  · exact .refl

theorem appendPlanConnection_additions {plan : CoordinationPlan} {persistedAt : Timestamp}
    {record : CoordinationPlanRecord}
    (done : db.appendPlanConnection (coordinationPlanRecord kernel plan persistedAt) =
      .ok (next, record)) : Additions kernel db next := by
  unfold appendPlanConnection at done
  cases found : db.plans.find? (coordinationPlanRecord kernel plan persistedAt).planDigest with
  | none =>
    simp only [found, bind_eq_ok, require_eq_ok, pure_eq_ok] at done
    obtain ⟨table, inserted, same⟩ := done
    cases same
    exact .single (.plan plan persistedAt table inserted)
  | some existing =>
    simp only [found, bind_eq_ok, raiseIf_eq_ok, pure_eq_ok] at done
    obtain ⟨_, _, same⟩ := done
    cases same
    exact .refl

theorem appendCoordinationPlan_additions {plan : CoordinationPlan} {persistedAt : Timestamp}
    {record : CoordinationPlanRecord}
    (done : db.appendCoordinationPlan kernel plan persistedAt = .ok (next, record)) :
    Additions kernel db next :=
  appendPlanConnection_additions (onIntegrity_eq_ok.mp done)

/-- A comparison is added, or found. -/
theorem appendComparison_additions {planDigest baselineRouteId proposedRouteId : Digest}
    {observedAt : Timestamp} {metadata : Json} {record : ShadowComparisonRecord} {table}
    {added : Bool}
    (made : shadowComparisonRecord kernel planDigest baselineRouteId proposedRouteId observedAt
      metadata = .ok record)
    (appended : db.comparisons.append? record = some (table, added))
    (met : added = true → db.ComparisonReferences record) :
    Additions kernel db { db with comparisons := table } := by
  obtain ⟨addressed, accepted, _⟩ := shadowComparisonRecord_eq_ok made
  rcases inserted_or_found appended met with ⟨inserted, references⟩ | rfl
  · exact .single (.comparison record table addressed ⟨_, accepted⟩ references inserted)
  · exact .refl

theorem appendShadowComparison_additions {planDigest baselineRouteId proposedRouteId : Digest}
    {observedAt : Timestamp} {metadata : Json} {record : ShadowComparisonRecord}
    (done : db.appendShadowComparison kernel planDigest baselineRouteId proposedRouteId observedAt
      metadata = .ok (next, record)) : Additions kernel db next := by
  simp only [appendShadowComparison, bind_eq_ok, pure_eq_ok] at done
  obtain ⟨made, recorded, table, appended, same⟩ := done
  cases same
  obtain ⟨added, found, met⟩ := appendRow_eq_ok.mp appended
  exact appendComparison_additions recorded found met

theorem appendShadowPlan_additions {plan : CoordinationPlan} {baselineRouteId : Digest}
    {persistedAt : Timestamp} {metadata : Json} {record : CoordinationPlanRecord}
    {comparison : ShadowComparisonRecord}
    (done : db.appendShadowPlan kernel plan baselineRouteId persistedAt metadata =
      .ok (next, record, comparison)) : Additions kernel db next := by
  unfold appendShadowPlan at done
  split at done
  · rename_i binding _
    simp only [bind_eq_ok, onIntegrity_eq_ok, pure_eq_ok] at done
    obtain ⟨made, recorded, ⟨reached, stored⟩, planned, ⟨table, added⟩, appended, same⟩ := done
    cases same
    obtain ⟨found, met⟩ := appendRowConnection_eq_ok.mp appended
    exact (appendPlanConnection_additions planned).trans
      (appendComparison_additions recorded found met)
  · cases done
  · cases done

/-- Every call that commits has added rows. -/
theorem append_additions {call : Append} (done : db.append kernel call = .ok next) :
    Additions kernel db next := by
  have value : ∀ {α : Type} {result : Except MacrError (ObservatoryDb × α)},
      (·.1) <$> result = .ok next → ∃ made, result = .ok (next, made) := by
    intro α result mapped
    cases result with
    | error raised => cases mapped
    | ok pair =>
      cases mapped
      exact ⟨pair.2, rfl⟩
  cases call with
  | snapshot data => exact appendSnapshot_additions (value done).choose_spec
  | modelSubject subject =>
    exact appendSubjectConnection_additions (onIntegrity_eq_ok.mp (value done).choose_spec)
  | executionRoute route => exact appendExecutionRoute_additions (value done).choose_spec
  | observation data => exact appendObservation_additions (value done).choose_spec
  | discoveryBatch subjects routes observations => exact appendDiscoveryBatch_additions done
  | evidence data => exact appendEvidence_additions (value done).choose_spec
  | evidenceBatch entries =>
    obtain ⟨⟨records, inserted⟩, done⟩ := value done
    exact appendEvidenceBatchWithStatus_additions done
  | qualificationDecision data =>
    exact appendQualificationDecision_additions (value done).choose_spec
  | qualificationInvalidation data =>
    exact appendQualificationInvalidation_additions (value done).choose_spec
  | coordinationPlan plan persistedAt =>
    exact appendCoordinationPlan_additions (value done).choose_spec
  | shadowComparison planDigest baselineRouteId proposedRouteId observedAt metadata =>
    exact appendShadowComparison_additions (value done).choose_spec
  | shadowPlan plan baselineRouteId persistedAt metadata =>
    obtain ⟨⟨record, comparison⟩, done⟩ := value done
    exact appendShadowPlan_additions done

/-! ## What every reachable database has -/

/-- Rows are kept. -/
structure Grows (before after : ObservatoryDb) : Prop where
  /-- Snapshots are kept. -/
  snapshots : ∀ row ∈ before.snapshots.rows, row ∈ after.snapshots.rows
  /-- Subjects are kept. -/
  subjects : ∀ row ∈ before.subjects.rows, row ∈ after.subjects.rows
  /-- Routes are kept. -/
  routes : ∀ row ∈ before.routes.rows, row ∈ after.routes.rows
  /-- Observations are kept. -/
  observations : ∀ row ∈ before.observations.rows, row ∈ after.observations.rows
  /-- Evidence is kept. -/
  evidence : ∀ row ∈ before.evidence.rows, row ∈ after.evidence.rows
  /-- Decisions are kept. -/
  decisions : ∀ row ∈ before.decisions.rows, row ∈ after.decisions.rows
  /-- Invalidations are kept. -/
  invalidations : ∀ row ∈ before.invalidations.rows, row ∈ after.invalidations.rows
  /-- Plans are kept. -/
  plans : ∀ row ∈ before.plans.rows, row ∈ after.plans.rows
  /-- Comparisons are kept. -/
  comparisons : ∀ row ∈ before.comparisons.rows, row ∈ after.comparisons.rows

theorem Grows.refl (db : ObservatoryDb) : Grows db db :=
  ⟨fun _ => id, fun _ => id, fun _ => id, fun _ => id, fun _ => id, fun _ => id, fun _ => id,
    fun _ => id, fun _ => id⟩

theorem Grows.trans {first second third : ObservatoryDb} (earlier : Grows first second)
    (later : Grows second third) : Grows first third where
  snapshots row stored := later.snapshots row (earlier.snapshots row stored)
  subjects row stored := later.subjects row (earlier.subjects row stored)
  routes row stored := later.routes row (earlier.routes row stored)
  observations row stored := later.observations row (earlier.observations row stored)
  evidence row stored := later.evidence row (earlier.evidence row stored)
  decisions row stored := later.decisions row (earlier.decisions row stored)
  invalidations row stored := later.invalidations row (earlier.invalidations row stored)
  plans row stored := later.plans row (earlier.plans row stored)
  comparisons row stored := later.comparisons row (earlier.comparisons row stored)

/-- A row is kept by an insertion. -/
theorem kept_of_insert? {α : Type} {key : α → Digest} {table later : Table key} {new row : α}
    (inserted : table.insert? new = some later) (stored : row ∈ table.rows) : row ∈ later.rows := by
  rw [Table.rows_of_insert? inserted]
  exact List.mem_append_left _ stored

theorem Addition.grows (added : Addition kernel db next) : Grows db next := by
  cases added with
  | snapshot _ _ _ inserted =>
    exact { Grows.refl db with snapshots := fun _ => kept_of_insert? inserted }
  | subject _ _ _ inserted =>
    exact { Grows.refl db with subjects := fun _ => kept_of_insert? inserted }
  | route _ _ _ inserted =>
    exact { Grows.refl db with routes := fun _ => kept_of_insert? inserted }
  | observation _ _ _ _ _ _ inserted =>
    exact { Grows.refl db with observations := fun _ => kept_of_insert? inserted }
  | evidence _ _ _ _ inserted =>
    exact { Grows.refl db with evidence := fun _ => kept_of_insert? inserted }
  | decision _ _ _ _ inserted =>
    exact { Grows.refl db with decisions := fun _ => kept_of_insert? inserted }
  | invalidation _ _ _ _ inserted =>
    exact { Grows.refl db with invalidations := fun _ => kept_of_insert? inserted }
  | plan _ _ _ inserted =>
    exact { Grows.refl db with plans := fun _ => kept_of_insert? inserted }
  | comparison _ _ _ _ _ inserted =>
    exact { Grows.refl db with comparisons := fun _ => kept_of_insert? inserted }

/-- No call removes a row. -/
theorem Additions.grows (added : Additions kernel db next) : Grows db next := by
  induction added with
  | refl => exact Grows.refl db
  | tail _ last ih => exact ih.trans last.grows

/-- Every row is stored under the digest of its identity, and finds what it refers to. -/
structure Valid (kernel : ObservatoryKernel) (db : ObservatoryDb) : Prop where
  /-- A subject is a checked one. -/
  subjects : ∀ row ∈ db.subjects.rows, ∃ subject, row = subjectRecord kernel subject
  /-- Its first snapshot is there. -/
  subjects_seen : ∀ row ∈ db.subjects.rows, db.snapshots.find? row.firstSeenSnapshotId ≠ none
  /-- A route is a checked one. -/
  routes : ∀ row ∈ db.routes.rows, ∃ route, row = routeRecord kernel route
  /-- The route of an observation is one of its model. -/
  observations_bound : ∀ row ∈ db.observations.rows, db.RouteBinds row
  /-- Observations are addressed. -/
  observations : ∀ row ∈ db.observations.rows, row.observationId =
    kernel.sha.sha256Id "model_observation_v1" row.toObservationIdentity.toDict
  /-- Evidence is addressed. -/
  evidence : ∀ row ∈ db.evidence.rows, row.evidenceId =
    kernel.sha.sha256Id "evidence_item_v1" row.toEvidenceIdentity.toDict
  /-- Decisions are addressed. -/
  decisions : ∀ row ∈ db.decisions.rows, row.decisionId =
    kernel.sha.sha256Id "qualification_decision_v1" row.toDecisionIdentity.toDict
  /-- Invalidations are addressed. -/
  invalidations : ∀ row ∈ db.invalidations.rows, row.invalidationId =
    kernel.sha.sha256Id "qualification_invalidation_v1" row.toInvalidationIdentity.toDict
  /-- A plan is the record of a plan. -/
  plans : ∀ row ∈ db.plans.rows, ∃ plan persistedAt,
    row = coordinationPlanRecord kernel plan persistedAt

theorem initial_valid : Valid kernel initial := by
  constructor <;> intro row stored <;> cases stored

/-- A property of all rows that the inserted row has is one of all rows after the insertion. -/
theorem forall_of_insert? {α : Type} {key : α → Digest} {table later : Table key} {new : α}
    {p : α → Prop} (inserted : table.insert? new = some later) (held : ∀ row ∈ table.rows, p row)
    (holds : p new) : ∀ row ∈ later.rows, p row := by
  rw [Table.rows_of_insert? inserted]
  intro row stored
  rcases List.mem_append.mp stored with before | here
  · exact held row before
  · rw [List.mem_singleton.mp here]
    exact holds

/-- What is found is found after an insertion. -/
theorem found_of_insert? {α : Type} {key : α → Digest} {table later : Table key} {new row : α}
    {k : Digest} (inserted : table.insert? new = some later) (found : table.find? k = some row) :
    later.find? k = some row := by
  obtain ⟨stored, same⟩ := (table.find?_eq_some k row).mp found
  exact (later.find?_eq_some k row).mpr ⟨kept_of_insert? inserted stored, same⟩

/-- A route that binds does so with more routes. -/
theorem RouteBinds.mono {record : ObservationRecord} (binds : db.RouteBinds record)
    (kept : ∀ k row, db.routes.find? k = some row → next.routes.find? k = some row) :
    next.RouteBinds record := by
  intro routeId given
  have bound := binds routeId given
  rw [Option.any_eq_true] at bound ⊢
  obtain ⟨row, found, same⟩ := bound
  exact ⟨row, kept routeId row found, same⟩

theorem Addition.valid (added : Addition kernel db next) (valid : Valid kernel db) :
    Valid kernel next := by
  cases added with
  | snapshot record table _ inserted =>
    refine { valid with subjects_seen := fun row stored => ?_ }
    obtain ⟨snapshot, found⟩ := Option.ne_none_iff_exists'.mp (valid.subjects_seen row stored)
    rw [found_of_insert? inserted found]
    exact Option.some_ne_none snapshot
  | subject subject table references inserted =>
    exact { valid with
      subjects := forall_of_insert? inserted valid.subjects ⟨subject, rfl⟩
      subjects_seen := forall_of_insert? inserted valid.subjects_seen references }
  | route route table _ inserted =>
    exact { valid with
      routes := forall_of_insert? inserted valid.routes ⟨route, rfl⟩
      observations_bound := fun row stored => (valid.observations_bound row stored).mono
        (fun k row found => found_of_insert? inserted found) }
  | observation record table addressed _ binds _ inserted =>
    exact { valid with
      observations := forall_of_insert? inserted valid.observations addressed
      observations_bound := forall_of_insert? inserted valid.observations_bound binds }
  | evidence record table addressed _ inserted =>
    exact { valid with evidence := forall_of_insert? inserted valid.evidence addressed }
  | decision record table addressed _ inserted =>
    exact { valid with decisions := forall_of_insert? inserted valid.decisions addressed }
  | invalidation record table addressed _ inserted =>
    exact { valid with
      invalidations := forall_of_insert? inserted valid.invalidations addressed }
  | plan plan persistedAt table inserted =>
    exact { valid with
      plans := forall_of_insert? inserted valid.plans ⟨plan, persistedAt, rfl⟩ }
  | comparison => exact { valid with }

/-- Rows are added to a valid database. -/
theorem Additions.valid (added : Additions kernel db next) (valid : Valid kernel db) :
    Valid kernel next := by
  induction added with
  | refl => exact valid
  | tail _ last ih => exact last.valid ih

/-- A call keeps a database valid. -/
theorem step_valid (db : ObservatoryDb) (call : Append) (valid : Valid kernel db) :
    Valid kernel (step kernel db call) := by
  unfold step
  cases done : db.append kernel call with
  | error raised => exact valid
  | ok next => exact (append_additions done).valid valid

/-- Every database that calls lead to is valid. -/
theorem Reachable.valid (reached : Reachable kernel db) : Valid kernel db := by
  obtain ⟨calls, rfl⟩ := reached
  exact (machine kernel).run_invariant_all (fun s a held => step_valid s a held) initial_valid calls

/-- In every run every stored row has the digest of its identity and finds what it refers to, and no
later call removes or changes one. -/
theorem rows_permanent (kernel : ObservatoryKernel) (calls later : List Append) :
    Valid kernel ((machine kernel).run initial calls) ∧
      Grows ((machine kernel).run initial calls)
        ((machine kernel).run initial (calls ++ later)) := by
  refine ⟨Reachable.valid ⟨calls, rfl⟩, ?_⟩
  rw [(machine kernel).run_append]
  refine (machine kernel).run_invariant_all (fun db call grown => grown.trans ?_) (.refl _) later
  show Grows db (step kernel db call)
  unfold step
  cases done : db.append kernel call with
  | error raised => exact .refl db
  | ok next => exact (append_additions done).grows

end Macr.ObservatoryDb
