import Macr.ProviderAdmission.ControlChain

/-!
# Ends of a grant

While a kernel is current, every grant can be cancelled and every dispatch can be finished: on
linked chains a receipt is always appended, and the unit a request holds can always be given back.
The digests of two receipts differ because their places do.
-/

namespace Macr

open Lib

namespace ProviderAdmissionKernel

variable {sha : Sha256} {kernel : ProviderAdmissionKernel} {tables : AdmissionTables}

/-- The control row of a kernel's provider is one that the kernel's policy and deployment could
have written. -/
def Current (sha : Sha256) (kernel : ProviderAdmissionKernel) (tables : AdmissionTables) : Prop :=
  ∃ state ∈ tables.states.rows, state.providerId = kernel.policy.providerId ∧
    state.wellFormed sha kernel.policy kernel.deploymentMode
      (kernel.deploymentDigest sha kernel.policy) = true

/-- What an end of a grant needs of the tables. -/
structure Endable (sha : Sha256) (tables : AdmissionTables) : Prop where
  /-- Units are counted. -/
  capacity : CapacityInvariant tables
  /-- Receipts are linked. -/
  chain : ∀ provider, ProviderChain sha tables provider

/-- A request is stored and no longer granted. -/
def Ungranted (tables : AdmissionTables) (requestId : Uuid) : Prop :=
  ∃ row ∈ tables.requests.rows, row.requestId = requestId ∧ row.state ≠ .granted

/-- A request that an update moves out of its grant is no longer granted. -/
theorem ungranted_of_update {row : RequestRow} (stored : row ∈ tables.requests.rows)
    {condition : RequestRow → Bool} (met : condition row = true)
    {assign : RequestProgress → RequestProgress} (moved : ∀ progress,
      (assign progress).state ≠ .granted) :
    Ungranted (tables.updateRequests condition assign) row.requestId := by
  have member := Table.mem_update_of_mem tables.requests condition
    (fun row => { row with toRequestProgress := assign row.toRequestProgress }) (fun _ => rfl) stored
  rw [if_pos met] at member
  exact ⟨_, member, rfl, moved row.toRequestProgress⟩

/-! ## Receipts -/

/-- The receipt that follows a control row has a place of its own. -/
theorem place_fresh (chain : ∀ provider, ProviderChain sha tables provider) {state : ControlRow}
    (stored : state ∈ tables.states.rows) (own : state.providerId = kernel.policy.providerId)
    {row : TransitionRow} (held : row ∈ tables.transitions.rows)
    (named : row.providerId = kernel.policy.providerId) :
    row.controlRevision ≠ state.controlRevision + 1 := by
  obtain ⟨last, atEnd, projects⟩ := (chain kernel.policy.providerId).projected state stored own
  have linked := (chain kernel.policy.providerId).linked
  have listed : row ∈ tables.receipts kernel.policy.providerId :=
    AdmissionTables.mem_receipts.mpr ⟨held, named⟩
  have lastRow := (chain kernel.policy.providerId).hashed last (List.mem_of_getLast? atEnd)
  have number : state.controlRevision = (tables.receipts kernel.policy.providerId).length :=
    projects.controlRevision.trans
      ((congrArg (·.controlRevision) lastRow).symm.trans (linked.revision_getLast atEnd))
  have revisions := linked.revisions
  have numbered : row.controlRevision ∈
      (tables.receipts kernel.policy.providerId).map receiptSpec.revision :=
    List.mem_map.mpr ⟨row, listed, rfl⟩
  rw [revisions, List.mem_range'_1] at numbered
  omega

/-- A receipt inserted and projected is appended. -/
theorem appended_of_writeProjection {mid moved : AdmissionTables} {state : ControlRow}
    {body : ControlBody} (stored : state ∈ tables.states.rows)
    (own : state.providerId = body.providerId)
    (inserted : insertReceipt sha tables body = .ok mid)
    (written : kernel.writeProjection sha mid (some state) body = .ok moved) :
    Appended sha tables body moved := by
  simp only [insertReceipt, writeProjection, bind_eq_ok, raiseIf_eq_ok, require_eq_ok, pure_eq_ok,
    Table.insert?_eq_some, exists_const] at inserted written
  obtain ⟨_, transitions, ⟨_, rfl⟩, rfl⟩ := inserted
  obtain ⟨_, rfl⟩ := written
  refine ⟨rfl, ?_, rfl, rfl, rfl⟩
  apply Table.ext_rows
  apply List.map_congr_left
  intro row held
  by_cases same : row.providerId = body.providerId
  · have equal := tables.states.eq_of_key held stored (same.trans own.symm)
    subst equal
    simp [same]
  · simp [same]

/-- A formed control change of a current kernel is appended. -/
theorem append_succeeds (injective : Function.Injective sha.sha256)
    (chain : ∀ provider, ProviderChain sha tables provider) {state : ControlRow}
    (stored : state ∈ tables.states.rows) (own : state.providerId = kernel.policy.providerId)
    (known : PolicyKnown sha tables kernel.policy) {change : ControlChange}
    (formed : change.Formed kernel.policy) (now : Timestamp) :
    ∃ result, kernel.appendControlTransition sha tables (some state) change now kernel.policy =
      .ok result := by
  let body := kernel.nextBody sha (some state) change now kernel.policy
  -- Two receipts with one digest would stand in one place.
  have single : ¬∃ row ∈ tables.transitions.rows, row.bodySha256 = sha.sha256 body.toDict := by
    rintro ⟨row, held, same⟩
    have asRow := (chain row.providerId).hashed row
      (AdmissionTables.mem_receipts.mpr ⟨held, rfl⟩)
    have digest : row.bodySha256 = sha.sha256 row.body.toDict := congrArg (·.bodySha256) asRow
    obtain ⟨provider, revision⟩ := ControlBody.place_of_toDict (injective (digest.symm.trans same))
    have named : row.providerId = kernel.policy.providerId :=
      (congrArg (·.providerId) asRow).trans provider
    have number : row.controlRevision = state.controlRevision + 1 :=
      (congrArg (·.controlRevision) asRow).trans revision
    exact place_fresh chain stored own held named number
  have fresh : (receiptRow sha body).key ∉ tables.transitions.rows.map TransitionRow.key := by
    intro listed
    obtain ⟨row, held, same⟩ := List.mem_map.mp listed
    obtain ⟨named, number⟩ := Prod.mk.inj same
    exact place_fresh chain stored own held named number
  let mid : AdmissionTables :=
    { tables with transitions := tables.transitions.insert (receiptRow sha body) fresh }
  have inserted : insertReceipt sha tables body = .ok mid := by
    simp only [insertReceipt]
    rw [raiseIf_bind_of_not single]
    simp only [Table.insert?, fresh, not_false_eq_true, dite_true]
    rfl
  -- The stored row is the one the receipt follows.
  have one : mid.states.rows.countP (fun row => decide (row.providerId = body.providerId ∧
      row.controlRevision = state.controlRevision ∧ row.controlDigest = state.controlDigest)) = 1 :=
    Table.countP_eq_one _ stored (by simp [body, nextBody, own])
      (fun other met => (of_decide_eq_true met).1.trans own.symm)
  obtain ⟨moved, written⟩ : ∃ moved, kernel.writeProjection sha mid (some state) body =
      .ok moved := by
    simp only [writeProjection]
    rw [raiseIf_bind_of_not (by simpa using one)]
    exact ⟨_, rfl⟩
  have appended : Appended sha tables body moved := appended_of_writeProjection stored own inserted
    written
  have projected : moveProjection sha body state ∈ moved.states.rows := by
    rw [appended.states, Table.mem_update]
    exact ⟨state, stored, by simp [body, nextBody, own]⟩
  have valid : kernel.validatedState sha moved = .ok (moveProjection sha body state) :=
    validatedState_of_wellFormed
    (chain_of_appended (chain kernel.policy.providerId) stored own known formed appended) projected
    own (by
      have probe := formed.probe
      simp [ControlRow.wellFormed, moveProjection, body, nextBody, formed.positive, formed.bounded,
        probe])
  refine ⟨(moved, moveProjection sha body state), ?_⟩
  simp only [appendControlTransition]
  rw [raiseIf_bind_of_not (by simp [formed.positive, formed.bounded]),
    raiseIf_bind_of_not (by simp [formed.probe])]
  show (insertReceipt sha tables body >>= _) = _
  rw [inserted, ok_bind, written, ok_bind]
  unfold validatedState at valid
  rw [valid]
  rfl

/-! ## Ends -/

/-- The chains do not read the requests, the projects or the counters. -/
theorem chain_of_control {next : AdmissionTables}
    (chain : ∀ provider, ProviderChain sha tables provider)
    (policies : next.policies = tables.policies) (states : next.states = tables.states)
    (transitions : next.transitions = tables.transitions) (provider : String) :
    ProviderChain sha next provider :=
  chain_of_same (chain provider) transitions states
    fun _ ⟨row, held, columns⟩ => ⟨row, policies ▸ held, columns⟩

variable {db : RuntimeDb} {permit : ProviderAdmissionPermit} {row : RequestRow}

/-- A current kernel finishes every transport that its permit names. -/
theorem finish_succeeds (injective : Function.Injective sha.sha256)
    (endable : Endable sha db.admission) (known : PolicyKnown sha db.admission kernel.policy)
    (current : Current sha kernel db.admission) (stored : row ∈ db.admission.requests.rows)
    (named : row.requestId = permit.requestId) (matching : permitMatchesRow permit row = true)
    (dispatched : row.state = .dispatched) (report : TransportReport) (now : Timestamp) :
    ∃ after, kernel.finish sha db permit report now = .ok (after, .ok ()) ∧
      ∃ ended ∈ after.admission.requests.rows, ended.requestId = permit.requestId ∧ ended.state =
        if report.ambiguous then .reconciliationRequired else .completed := by
  obtain ⟨state, held, own, formed⟩ := current
  have valid := validatedState_of_wellFormed (endable.chain kernel.policy.providerId) held own formed
  have found := requirePermitRow_eq_ok.mpr ⟨stored, named, matching⟩
  obtain ⟨units, released, policies, states, transitions, requests⟩ : ∃ units,
      releaseIfKnown db.admission row report now = .ok units ∧
        units.policies = db.admission.policies ∧ units.states = db.admission.states ∧
          units.transitions = db.admission.transitions ∧
            units.requests = db.admission.requests := by
    unfold releaseIfKnown
    by_cases ambiguous : report.ambiguous = true
    · exact ⟨db.admission, by rw [if_pos ambiguous], rfl, rfl, rfl, rfl⟩
    · obtain ⟨units, done⟩ := decrement_of_holding endable.capacity stored
        (by simp [dispatched, RequestState.holdsCapacity]) now
      have same := (AdmissionTables.decrementProject_eq_ok done).1
      exact ⟨units, by rw [if_neg ambiguous, done], same.1, same.2.1, same.2.2.1, same.2.2.2⟩
  let tables := units.updateRequests (fun other => other.requestId = permit.requestId)
    (·.finished (if report.ambiguous then .reconciliationRequired else .completed) now
      report.terminalEvidenceDigest)
  have target := formed
  simp only [ControlRow.wellFormed, decide_eq_true_eq] at target
  have changeFormed : (report.change kernel.policy state permit.requestId).Formed kernel.policy := by
    refine ⟨target.2.2.2.1, target.2.2.2.2.1, ?_⟩
    have notHalf := (nextCircuit_spec report kernel.policy state.circuitState).1
    simp [TransportReport.change, notHalf]
  have knownHere : PolicyKnown sha tables kernel.policy := by
    obtain ⟨policy, kept, columns⟩ := known
    exact ⟨policy, policies.symm ▸ kept, columns⟩
  have chains : ∀ provider, ProviderChain sha tables provider :=
    chain_of_control endable.chain policies states transitions
  obtain ⟨⟨final, next⟩, appended⟩ := append_succeeds injective chains (states.symm ▸ held) own
    knownHere changeFormed now
  have member := Table.mem_update_of_mem units.requests
    (fun other => other.requestId = permit.requestId)
    (fun other => { other with toRequestProgress := (other.toRequestProgress.finished
      (if report.ambiguous then .reconciliationRequired else .completed) now
      report.terminalEvidenceDigest) }) (fun _ => rfl) (requests.symm ▸ stored)
  rw [if_pos (decide_eq_true named)] at member
  have ended : ∃ ended ∈ final.requests.rows, ended.requestId = permit.requestId ∧ ended.state =
      if report.ambiguous then .reconciliationRequired else .completed := by
    rw [(appendControlTransition_eq_ok appended).2.1.requests]
    exact ⟨_, member, named, rfl⟩
  refine ⟨{ db with admission := final }, ?_, ended⟩
  simp only [finish]
  rw [valid, ok_bind, found, ok_bind, raiseIf_bind_of_not (by simp [dispatched]), released, ok_bind]
  show (kernel.appendControlTransition sha tables (some state)
    (report.change kernel.policy state permit.requestId) now kernel.policy >>= _) = _
  rw [appended, ok_bind]
  rfl

/-- A current kernel cancels every unused grant that its permit names. -/
theorem cancelBeforeTransport_succeeds (injective : Function.Injective sha.sha256)
    (endable : Endable sha db.admission) (known : PolicyKnown sha db.admission kernel.policy)
    (current : Current sha kernel db.admission) (stored : row ∈ db.admission.requests.rows)
    (named : row.requestId = permit.requestId) (matching : permitMatchesRow permit row = true)
    (granted : row.state = .granted) (now : Timestamp) :
    ∃ after, kernel.cancelBeforeTransport sha db permit now = .ok (after, .ok ()) ∧
      Ungranted after.admission permit.requestId := by
  obtain ⟨state, held, own, formed⟩ := current
  have valid := validatedState_of_wellFormed (endable.chain kernel.policy.providerId) held own formed
  have found := requirePermitRow_eq_ok.mpr ⟨stored, named, matching⟩
  obtain ⟨units, done⟩ := decrement_of_holding endable.capacity stored
    (by simp [granted, RequestState.holdsCapacity]) now
  obtain ⟨policies, states, transitions, requests⟩ := (AdmissionTables.decrementProject_eq_ok done).1
  have one : units.requests.rows.countP (rowIn row.requestId .granted) = 1 := by
    rw [requests]
    exact Table.countP_eq_one _ stored (by simp [rowIn, granted])
      (fun other met => (of_decide_eq_true met).1)
  let tables := units.updateRequests (rowIn row.requestId .granted) (·.cancelled now)
  have target := formed
  simp only [ControlRow.wellFormed, decide_eq_true_eq] at target
  have moved : Ungranted tables permit.requestId := named ▸
    ungranted_of_update (requests.symm ▸ stored) (by simp [rowIn, granted])
      (fun _ => by simp [RequestProgress.cancelled])
  obtain ⟨final, cancelled, ended⟩ : ∃ final, kernel.cancelGrantedRow sha db.admission row state now
      .halfOpenCancelled = .ok final ∧ Ungranted final permit.requestId := by
    simp only [cancelGrantedRow]
    rw [raiseIf_bind_of_not (by simp [granted]), done, ok_bind, raiseIf_bind_of_not (by simp [one])]
    by_cases halfOpen : state.circuitState = .halfOpen
    · have knownHere : PolicyKnown sha tables kernel.policy := by
        obtain ⟨policy, kept, columns⟩ := known
        exact ⟨policy, policies.symm ▸ kept, columns⟩
      have chains : ∀ provider, ProviderChain sha tables provider :=
        chain_of_control endable.chain policies states transitions
      have changeFormed :
          (cancelChange state .halfOpenCancelled row.requestId).Formed kernel.policy :=
        ⟨target.2.2.2.1, target.2.2.2.2.1, by simp [cancelChange]⟩
      obtain ⟨result, appended⟩ := append_succeeds injective chains (states.symm ▸ held) own
        knownHere changeFormed now
      rw [if_pos halfOpen, appended, ok_bind]
      refine ⟨_, rfl, ?_⟩
      unfold Ungranted at moved ⊢
      rw [(appendControlTransition_eq_ok appended).2.1.requests]
      exact moved
    · rw [if_neg halfOpen]
      exact ⟨_, rfl, moved⟩
  refine ⟨{ db with admission := final }, ?_, ended⟩
  simp only [cancelBeforeTransport]
  rw [valid, ok_bind, found, ok_bind, raiseIf_bind_of_not (by simp [granted]), cancelled, ok_bind]
  rfl

end ProviderAdmissionKernel
end Macr
