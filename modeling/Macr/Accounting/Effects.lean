import Macr.Accounting.Store

/-!
# What an accounting call does to an invocation

Five of the nine calls that write leave every invocation and the invocation outbox alone. Each of
the other four has one effect, and an invariant of the invocations is proved of the effects.
-/

namespace Macr

open Lib

namespace AccountingDb

/-- What one call does to the invocations and their outbox. -/
inductive InvocationEffect (kernel : AccountingKernel) (db : AccountingDb) (now : Timestamp)
    (call : AccountingCall) (after : AccountingDb) : Prop
  /-- Nothing. -/
  | kept (invocations : after.invocations = db.invocations) (outbox : after.outbox = db.outbox)
  /-- A dispatch is recorded. -/
  | dispatched (row : InvocationRow) (fresh : row.runId ∉ db.invocations.rows.map (·.runId))
      (inserted : after.invocations = db.invocations.insert row fresh)
      (outbox : after.outbox = db.outbox) (opened : row.terminalAt = none)
      (unobserved : row.toObservedColumns = .dispatched)
  /-- The first observation of an open invocation is written. -/
  | observed (row : InvocationRow) (observation : RawProviderObservation)
      (stored : db.invocation? row.runId = some row) (opened : row.terminalAt = none)
      (written : after = db.updateInvocation row.runId
        (fun row => { row with toObservedColumns := observation.observedValues }) (fun _ => rfl))
  /-- An open invocation becomes terminal, and its copy is written. -/
  | terminated (row : InvocationRow) (values : TerminalValues) (outboxId : Uuid)
      (stored : db.invocation? row.runId = some row) (opened : row.terminalAt = none)
      (observed : values.billingState ≠ .unknownAfterDispatch → row.currencyCostUsd ≠ none)
      (alone : ∀ other ∈ db.outbox.rows, other.runId ≠ row.runId)
      (fresh : outboxId ∉ db.outbox.rows.map (·.outboxId))
      (invocations : after.invocations =
        (db.updateInvocation row.runId (values.apply now) (values.runId_apply now)).invocations)
      (outbox : after.outbox =
        db.outbox.insert (outboxEntry kernel.sha outboxId now (values.apply now row)) fresh)
      (called : ∃ candidateStatus billingState failureCode failureStage,
        call = .recordTerminal row.runId candidateStatus billingState failureCode failureStage
          outboxId ∧
        terminalValues candidateStatus billingState failureCode failureStage = .ok values)
  /-- An invocation is marked. -/
  | warned (row : InvocationRow) (stored : db.invocation? row.runId = some row)
      (unmarked : row.softWarning = false) (called : call = .markSoftWarning row.runId)
      (written : after = db.updateInvocation row.runId
        (fun row => { row with softWarning := true }) (fun _ => rfl))

variable {kernel : AccountingKernel} {db after : AccountingDb} {now : Timestamp}

/-- The stored row of an invocation has its key. -/
theorem runId_of_invocation {runId : Uuid} {row : InvocationRow}
    (stored : db.invocation? runId = some row) : row.runId = runId :=
  ((db.invocations.find?_eq_some runId row).mp stored).2

/-- The stored row of an invocation is in the table. -/
theorem mem_of_invocation {runId : Uuid} {row : InvocationRow}
    (stored : db.invocation? runId = some row) : row ∈ db.invocations.rows :=
  ((db.invocations.find?_eq_some runId row).mp stored).1

/-- A row of the table is the stored row of its key. -/
theorem invocation_of_mem {row : InvocationRow} (member : row ∈ db.invocations.rows) :
    db.invocation? row.runId = some row :=
  db.invocations.find?_self member

/-- An updated invocation is found assigned, and every other one as it was. -/
theorem invocation_updateInvocation (runId : Uuid) (assign : InvocationRow → InvocationRow)
    (keeps : ∀ row, (assign row).runId = row.runId) (other : Uuid) :
    (db.updateInvocation runId assign keeps).invocation? other =
      if other = runId then (db.invocation? other).map assign else db.invocation? other := by
  have found := db.invocations.find?_update (fun row => row.runId = runId) assign keeps other
  show (db.invocations.update _ assign keeps).find? other = _
  rw [found]
  cases stored : db.invocations.find? other with
  | none => simp [invocation?, stored]
  | some row =>
    have same : row.runId = other := runId_of_invocation stored
    by_cases chosen : other = runId
    · subst chosen
      simp [invocation?, stored, same]
    · simp [invocation?, stored, same, chosen]

/-- A row after an update is the assigned row of the key or an untouched row. -/
theorem mem_updateInvocation {runId : Uuid} {assign : InvocationRow → InvocationRow}
    {keeps : ∀ row, (assign row).runId = row.runId} {row next : InvocationRow}
    (stored : db.invocation? runId = some row)
    (member : next ∈ (db.updateInvocation runId assign keeps).invocations.rows) :
    next = assign row ∨ next ∈ db.invocations.rows ∧ next.runId ≠ runId := by
  obtain ⟨old, held, rfl⟩ := (db.invocations.mem_update _ assign keeps next).mp member
  by_cases chosen : old.runId = runId
  · left
    have same : db.invocation? old.runId = some old := invocation_of_mem held
    rw [chosen, stored] at same
    have equal : row = old := Option.some.inj same
    simp [chosen, equal]
  · right
    simp [chosen, held]

/-- A recorded dispatch is of the context's run; it is there already or a new open row. -/
theorem recordDispatch_eq_ok {runId : Uuid} {context : DispatchContext} {providerId : String}
    {model : Option String} {estimateUsd : Option ℚ} {softWarning : Bool}
    {result : Committed AccountingDb Bool}
    (done : db.recordDispatch now runId context providerId model estimateUsd softWarning =
      .ok result) :
    context.runId = runId ∧
      ((result.1 = db ∧ (db.invocation? runId).isSome) ∨
        ∃ requested estimate, ∃ fresh : runId ∉ db.invocations.rows.map (·.runId),
          result.1 = { db with
            invocations := db.invocations.insert (newInvocation now runId context providerId
              requested estimate softWarning) fresh }) := by
  simp only [recordDispatch, nonEmpty, bind_eq_ok, raiseIf_eq_ok, exists_const, pure_eq_ok, ne_eq,
    not_not] at done
  obtain ⟨named, _, ⟨_, rfl⟩, requested, _, estimate, _, done⟩ := done
  refine ⟨named, ?_⟩
  cases stored : db.invocation? runId with
  | some existing =>
    rw [stored] at done
    simp only [bind_eq_ok, raiseIf_eq_ok, exists_const, commit_eq_ok] at done
    exact .inl ⟨by rw [done.2], rfl⟩
  | none =>
    rw [stored] at done
    simp only [bind_eq_ok, require_eq_ok, commit_eq_ok] at done
    obtain ⟨invocations, inserted, rfl⟩ := done
    obtain ⟨fresh, rfl⟩ := (db.invocations.insert?_eq_some _ _).mp inserted
    exact .inr ⟨requested, estimate, fresh, rfl⟩

/-- A recorded observation is of an open invocation of its provider, and is there already or is
the first. -/
theorem recordObservation_eq_ok {runId : Uuid} {observation : RawProviderObservation}
    {result : Committed AccountingDb Unit}
    (done : db.recordObservation runId observation = .ok result) :
    ∃ row, db.invocation? runId = some row ∧ row.terminalAt = none ∧
      row.providerId = observation.providerId ∧
      ((row.billingState ≠ .dispatched ∧ row.toObservedColumns = observation.observedValues ∧
          result.1 = db) ∨
        (row.billingState = .dispatched ∧ result.1 = db.updateInvocation runId
          (fun row => { row with toObservedColumns := observation.observedValues })
          (fun _ => rfl))) := by
  simp only [recordObservation, bind_eq_ok, require_eq_ok, raiseIf_eq_ok, exists_const, ne_eq,
    not_not] at done
  obtain ⟨row, stored, opened, provider, done⟩ := done
  refine ⟨row, stored, opened, provider, ?_⟩
  by_cases observed : row.billingState = .dispatched
  · rw [if_neg (not_not.mpr observed), commit_eq_ok] at done
    exact .inr ⟨observed, by rw [done]⟩
  · rw [if_pos observed] at done
    simp only [bind_eq_ok, raiseIf_eq_ok, exists_const, commit_eq_ok, not_not] at done
    exact .inl ⟨observed, done.1, by rw [done.2]⟩

/-- A recorded terminal is of a stored invocation; it is there already or closes the invocation and
enters its copy. -/
theorem recordTerminal_eq_ok {runId : Uuid} {candidateStatus billingState : String}
    {failureCode failureStage : Option String} {outboxId : Uuid}
    {result : Committed AccountingDb Unit}
    (done : db.recordTerminal kernel now runId candidateStatus billingState failureCode failureStage
      outboxId = .ok result) :
    ∃ row values, terminalValues candidateStatus billingState failureCode failureStage =
        .ok values ∧ db.invocation? runId = some row ∧
      ((row.terminalAt ≠ none ∧ values.Repeats row ∧ result.1 = db) ∨
        (row.terminalAt = none ∧
          (values.billingState ≠ .unknownAfterDispatch → row.currencyCostUsd ≠ none) ∧
          (∀ other ∈ db.outbox.rows, other.runId ≠ runId) ∧
          ∃ fresh : outboxId ∉ db.outbox.rows.map (·.outboxId),
            result.1 = { db.updateInvocation runId (values.apply now) (values.runId_apply now) with
              outbox := db.outbox.insert
                (outboxEntry kernel.sha outboxId now (values.apply now row)) fresh })) := by
  simp only [recordTerminal, bind_eq_ok, require_eq_ok] at done
  obtain ⟨values, checked, row, stored, done⟩ := done
  refine ⟨row, values, checked, stored, ?_⟩
  have same := runId_of_invocation stored
  by_cases opened : row.terminalAt = none
  · rw [if_neg (not_not.mpr opened)] at done
    simp only [bind_eq_ok, raiseIf_eq_ok, exists_const, require_eq_ok, onIntegrity_eq_ok,
      commit_eq_ok] at done
    obtain ⟨observed, updated, found, written, recorded, rfl⟩ := done
    rw [invocation_updateInvocation, if_pos rfl, stored, Option.map_some,
      Option.some.injEq] at found
    subst found
    simp only [insertOutbox, bind_eq_ok, raiseIf_eq_ok, exists_const, require_eq_ok,
      pure_eq_ok] at recorded
    obtain ⟨alone, outbox, inserted, rfl⟩ := recorded
    obtain ⟨fresh, rfl⟩ := (db.outbox.insert?_eq_some _ _).mp inserted
    refine .inr ⟨opened, fun state missing => observed ⟨state, missing⟩, ?_, fresh, rfl⟩
    exact fun other member named => alone ⟨other, member, named.trans same.symm⟩
  · rw [if_pos opened] at done
    simp only [bind_eq_ok, raiseIf_eq_ok, exists_const, commit_eq_ok, not_not] at done
    exact .inl ⟨opened, done.1, by rw [done.2]⟩

/-- A dispatch records a fresh invocation or nothing. -/
theorem effect_of_recordDispatch {runId : Uuid} {context : DispatchContext} {providerId : String}
    {model : Option String} {estimateUsd : Option ℚ} {softWarning : Bool} {call : AccountingCall}
    (done : (db.recordDispatch now runId context providerId model estimateUsd softWarning).map
      (·.1) = .ok after) : InvocationEffect kernel db now call after := by
  rw [except_map_eq_ok] at done
  obtain ⟨result, done, rfl⟩ := done
  obtain ⟨_, ⟨same, _⟩ | ⟨requested, estimate, fresh, written⟩⟩ := recordDispatch_eq_ok done
  · exact .kept (by rw [same]) (by rw [same])
  · exact .dispatched _ fresh (by rw [written]) (by rw [written]) rfl rfl

/-- An observation is written once, to an open invocation. -/
theorem effect_of_recordObservation {runId : Uuid} {observation : RawProviderObservation}
    {call : AccountingCall}
    (done : (db.recordObservation runId observation).map (·.1) = .ok after) :
    InvocationEffect kernel db now call after := by
  rw [except_map_eq_ok] at done
  obtain ⟨result, done, rfl⟩ := done
  obtain ⟨row, stored, opened, _, ⟨_, _, same⟩ | ⟨_, written⟩⟩ := recordObservation_eq_ok done
  · exact .kept (by rw [same]) (by rw [same])
  · have named := runId_of_invocation stored
    subst named
    exact .observed row observation stored opened written

/-- A terminal record is written once, with its copy. -/
theorem effect_of_recordTerminal {runId : Uuid} {candidateStatus billingState : String}
    {failureCode failureStage : Option String} {outboxId : Uuid}
    (done : (db.recordTerminal kernel now runId candidateStatus billingState failureCode
      failureStage outboxId).map (·.1) = .ok after) :
    InvocationEffect kernel db now
      (.recordTerminal runId candidateStatus billingState failureCode failureStage outboxId)
      after := by
  rw [except_map_eq_ok] at done
  obtain ⟨result, done, rfl⟩ := done
  obtain ⟨row, values, checked, stored, ⟨_, _, same⟩ | ⟨opened, known, single, fresh, written⟩⟩ :=
    recordTerminal_eq_ok done
  · exact .kept (by rw [same]) (by rw [same])
  · have named := runId_of_invocation stored
    subst named
    exact .terminated row values outboxId stored opened known single fresh (by rw [written])
      (by rw [written]) ⟨_, _, _, _, rfl, checked⟩

/-- A warning is marked once. -/
theorem effect_of_markSoftWarning {runId : Uuid}
    (done : (db.markSoftWarning runId).map (·.1) = .ok after) :
    InvocationEffect kernel db now (.markSoftWarning runId) after := by
  rw [except_map_eq_ok] at done
  obtain ⟨result, done, rfl⟩ := done
  simp only [markSoftWarning, bind_eq_ok, require_eq_ok] at done
  obtain ⟨row, stored, done⟩ := done
  have same := runId_of_invocation stored
  subst same
  by_cases unmarked : row.softWarning = false
  · rw [if_pos unmarked, commit_eq_ok] at done
    exact .warned row stored unmarked rfl (by rw [done])
  · rw [if_neg unmarked, commit_eq_ok] at done
    exact .kept (by rw [done]) (by rw [done])

/-- A plan cost leaves the invocations alone. -/
theorem kept_of_recordPlanCost {request : PlanCostRequest} {outboxId : Uuid}
    (done : (db.recordPlanCost kernel now request outboxId).map (·.1) = .ok after) :
    after.invocations = db.invocations ∧ after.outbox = db.outbox := by
  rw [except_map_eq_ok] at done
  obtain ⟨result, done, rfl⟩ := done
  simp only [recordPlanCost, bind_eq_ok] at done
  obtain ⟨record, _, done⟩ := done
  split at done
  · simp only [bind_eq_ok, raiseIf_eq_ok, exists_const, commit_eq_ok] at done
    rw [done.2]
    exact ⟨rfl, rfl⟩
  · simp only [bind_eq_ok, onIntegrity_eq_ok, commit_eq_ok, insertPlanCost, raiseIf_eq_ok,
      exists_const, require_eq_ok, pure_eq_ok] at done
    obtain ⟨written, ⟨_, _, _, _, _, rfl⟩, rfl⟩ := done
    exact ⟨rfl, rfl⟩

/-- A bill observation leaves the invocations alone. -/
theorem kept_of_recordBillObservation {bill : BillObservation} {outboxId : Uuid}
    (done : (db.recordBillObservation kernel bill outboxId).map (·.1) = .ok after) :
    after.invocations = db.invocations ∧ after.outbox = db.outbox := by
  rw [except_map_eq_ok] at done
  obtain ⟨result, done, rfl⟩ := done
  unfold recordBillObservation at done
  split at done
  · simp only [bind_eq_ok, raiseIf_eq_ok, exists_const, commit_eq_ok] at done
    rw [done.2]
    exact ⟨rfl, rfl⟩
  · simp only [bind_eq_ok, onIntegrity_eq_ok, commit_eq_ok, insertBill, raiseIf_eq_ok,
      exists_const, require_eq_ok, pure_eq_ok] at done
    obtain ⟨written, ⟨_, _, _, _, _, rfl⟩, rfl⟩ := done
    exact ⟨rfl, rfl⟩

/-- An account leaves the invocations alone. -/
theorem kept_of_upsertProviderAccount {providerId fundingKind currency displayName : String}
    (done : (db.upsertProviderAccount kernel now providerId fundingKind currency displayName).map
      (·.1) = .ok after) : after.invocations = db.invocations ∧ after.outbox = db.outbox := by
  rw [except_map_eq_ok] at done
  obtain ⟨result, done, rfl⟩ := done
  simp only [upsertProviderAccount, bind_eq_ok] at done
  obtain ⟨provider, _, funding, _, currency, _, display, _, done⟩ := done
  split at done
  · simp only [bind_eq_ok, raiseIf_eq_ok, exists_const, commit_eq_ok] at done
    rw [done.2]
    exact ⟨rfl, rfl⟩
  · simp only [bind_eq_ok, raiseIf_eq_ok, exists_const, require_eq_ok, commit_eq_ok] at done
    obtain ⟨_, accounts, _, rfl⟩ := done
    exact ⟨rfl, rfl⟩

/-- An accounting entry leaves the invocations alone. -/
theorem kept_of_appendAccountingEntry {accountId : Uuid} {runId : Option Uuid} {entryKind : String}
    {amount : ℚ} {sourceKind : String} {sourceDigest : Digest}
    (done : (db.appendAccountingEntry kernel now accountId runId entryKind amount sourceKind
      sourceDigest).map (·.1) = .ok after) :
    after.invocations = db.invocations ∧ after.outbox = db.outbox := by
  rw [except_map_eq_ok] at done
  obtain ⟨result, done, rfl⟩ := done
  simp only [appendAccountingEntry, bind_eq_ok, raiseIf_eq_ok, exists_const] at done
  obtain ⟨kind, _, value, _, source, _, _, _, done⟩ := done
  split at done
  · simp only [bind_eq_ok, raiseIf_eq_ok, exists_const, commit_eq_ok] at done
    rw [done.2]
    exact ⟨rfl, rfl⟩
  · simp only [bind_eq_ok, onIntegrity_eq_ok, commit_eq_ok, insertEntry, raiseIf_eq_ok,
      exists_const, require_eq_ok, pure_eq_ok] at done
    obtain ⟨written, ⟨_, _, _, _, rfl⟩, rfl⟩ := done
    exact ⟨rfl, rfl⟩

/-- A reconciliation leaves the invocations alone. -/
theorem kept_of_appendReconciliation {given : BillingReconciliationRow}
    (done : (db.appendReconciliation given).map (·.1) = .ok after) :
    after.invocations = db.invocations ∧ after.outbox = db.outbox := by
  rw [except_map_eq_ok] at done
  obtain ⟨result, done, rfl⟩ := done
  simp only [appendReconciliation, bind_eq_ok] at done
  obtain ⟨row, _, done⟩ := done
  split at done
  · simp only [bind_eq_ok, raiseIf_eq_ok, exists_const, commit_eq_ok] at done
    rw [done.2]
    exact ⟨rfl, rfl⟩
  · simp only [bind_eq_ok, onIntegrity_eq_ok, commit_eq_ok, insertReconciliation, raiseIf_eq_ok,
      exists_const, require_eq_ok, pure_eq_ok] at done
    obtain ⟨written, ⟨_, _, _, rfl⟩, rfl⟩ := done
    exact ⟨rfl, rfl⟩

/-- Every call that commits has an effect. -/
theorem effect_of_perform {call : AccountingCall} (done : db.perform kernel now call = .ok after) :
    InvocationEffect kernel db now call after := by
  cases call with
  | recordDispatch => exact effect_of_recordDispatch done
  | recordObservation => exact effect_of_recordObservation done
  | recordTerminal => exact effect_of_recordTerminal done
  | markSoftWarning => exact effect_of_markSoftWarning done
  | recordPlanCost =>
    have same := kept_of_recordPlanCost done
    exact .kept same.1 same.2
  | recordBillObservation =>
    have same := kept_of_recordBillObservation done
    exact .kept same.1 same.2
  | upsertProviderAccount =>
    have same := kept_of_upsertProviderAccount done
    exact .kept same.1 same.2
  | appendAccountingEntry =>
    have same := kept_of_appendAccountingEntry done
    exact .kept same.1 same.2
  | appendReconciliation =>
    have same := kept_of_appendReconciliation done
    exact .kept same.1 same.2

/-- Every action has an effect; one that fails has none. -/
theorem effect_of_step (kernel : AccountingKernel) (db : AccountingDb) (action : AccountingAction) :
    InvocationEffect kernel db action.now action.call ((machine kernel).step db action) := by
  show InvocationEffect kernel db action.now action.call (step kernel db action)
  unfold step
  by_cases interrupted : action.interrupted = true
  · rw [if_pos interrupted]
    exact .kept rfl rfl
  · rw [if_neg interrupted]
    cases done : db.perform kernel action.now action.call with
    | ok after => exact effect_of_perform done
    | error raised => exact .kept rfl rfl

end AccountingDb
end Macr
