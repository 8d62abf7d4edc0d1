import Macr.DispatchDiscipline

/-!
# The safety of dispatch leases

A lease that goes is released by its run and token, found expired by an acquirer of its resource or
a reaper of its run, or undone by the refused call of `admit` that created it. Tokens increase over
the leases created, and what a call of `admit` has created is gone once the call has raised.
-/

namespace Macr

open Lib

namespace DispatchSystem

variable {sha : Sha256} {system : DispatchSystem} {action : DispatchAction}

/-! ## What becomes of a lease -/

/-- The step creates a lease. -/
def CreatesLease (x : Machine.Step DispatchSystem DispatchAction) (permit : DispatchPermit) :
    Prop :=
  permit ∈ x.after.db.leases.rows ∧
    ∀ row ∈ x.before.db.leases.rows, row.fencingToken ≠ permit.fencingToken

/-- The step removes a lease. -/
def RemovesLease (x : Machine.Step DispatchSystem DispatchAction) (row : DispatchPermit) : Prop :=
  row ∈ x.before.db.leases.rows ∧
    ∀ other ∈ x.after.db.leases.rows, other.fencingToken ≠ row.fencingToken

/-- The step is an acquisition of a resource, by `acquire` or in `admit`, at a clock reading. -/
def Acquires (x : Machine.Step DispatchSystem DispatchAction) (resourceKey : String)
    (now : Timestamp) : Prop :=
  (∃ runId ttlSeconds fault, x.action = .acquire resourceKey runId ttlSeconds now fault) ∨
    ∃ index fault call, x.action = .admitAcquire index now fault ∧
      x.before.calls[index]? = some call ∧ call.resourceKey = resourceKey

/-- The four ways a lease may go. -/
inductive RightlyRemoved (x : Machine.Step DispatchSystem DispatchAction) (row : DispatchPermit) :
    Prop where
  /-- It is released by its run and token. -/
  | released (action : x.action = .release row.resourceKey row.runId row.fencingToken none)
  /-- It has expired at the clock reading of an acquisition of its resource. -/
  | expired (now : Timestamp) (acquires : Acquires x row.resourceKey now)
      (late : row.expiresAt ≤ now)
  /-- It has expired at the clock reading of a reaper of its run. -/
  | reaped (now : Timestamp) (action : x.action = .reapExpiredForRun row.runId now none)
      (late : row.expiresAt ≤ now)
  /-- It is undone by the refused call of `admit` that created it, and no one else relies on it. -/
  | undone (index : Nat) (call : AdmitCall) (permit : DispatchPermit) (error : MacrError)
      (action : x.action = .admitRelease index none)
      (found : x.before.calls[index]? = some call)
      (stage : call.stage = .refused permit true error)
      (same : permit.fencingToken = row.fencingToken)
      (alone : ¬x.before.HandedElsewhere index permit)

/-- An acquisition that removes a lease finds it expired, on its own resource. -/
theorem late_of_acquire {db : DispatchLeaseDb} {resourceKey : String} {runId : Uuid}
    {ttlSeconds : Int} {now : Timestamp} {fault : Option MacrError} {row : DispatchPermit}
    (stored : row ∈ db.leases.rows)
    (removed : ∀ other ∈ (settle db
      (attempt fault (db.acquire resourceKey runId ttlSeconds now))).1.leases.rows,
        other.fencingToken ≠ row.fencingToken) :
    row.resourceKey = resourceKey ∧ row.expiresAt ≤ now := by
  cases done : attempt fault (db.acquire resourceKey runId ttlSeconds now) with
  | error error =>
    rw [done] at removed
    exact absurd rfl (removed row stored)
  | ok result =>
    rw [done, settle] at removed
    obtain ⟨permit, _, ⟨_, _, kept⟩ | ⟨_, creates⟩⟩ :=
      DispatchLeaseDb.acquire_eq_ok (attempt_eq_ok.mp done).2
    · rw [kept] at removed
      exact absurd rfl (removed row stored)
    · have same : row.resourceKey = resourceKey := by
        by_contra other
        exact removed row ((creates.rows row).mpr (.inl ⟨stored, other⟩)) rfl
      exact ⟨same, creates.expired row stored same⟩

/-- A release that removes a lease is of its resource, run and token, and did not fail. -/
theorem named_of_release {db : DispatchLeaseDb} {resourceKey : String} {runId : Uuid}
    {fencingToken : Nat} {fault : Option MacrError} {row : DispatchPermit}
    (stored : row ∈ db.leases.rows)
    (removed : ∀ other ∈ (settle db
      (attempt fault (db.release resourceKey runId fencingToken))).1.leases.rows,
        other.fencingToken ≠ row.fencingToken) :
    db.held? resourceKey runId fencingToken = some row ∧ fault = none := by
  cases done : attempt fault (db.release resourceKey runId fencingToken) with
  | error error =>
    rw [done] at removed
    exact absurd rfl (removed row stored)
  | ok result =>
    obtain ⟨noFault, committed⟩ := attempt_eq_ok.mp done
    obtain ⟨held, found, _, same⟩ := DispatchLeaseDb.release_eq_ok committed
    rw [done, settle, same] at removed
    have named : row.resourceKey = resourceKey := by
      by_contra other
      have left : row ∈ (db.leases.delete (fun row => row.resourceKey = resourceKey)).rows := by
        rw [Table.mem_delete, decide_eq_false_iff_not]
        exact ⟨stored, other⟩
      exact removed row left rfl
    obtain ⟨here, resource, _, _⟩ := DispatchLeaseDb.held?_eq_some.mp found
    have equal : held = row := db.leases.eq_of_key here stored (resource.trans named.symm)
    exact ⟨equal ▸ found, noFault⟩

/-- A lease goes in one of the four ways. -/
theorem rightlyRemoved_step (permitted : system.allowed sha action) {row : DispatchPermit}
    (removes : RemovesLease ⟨system, action, step sha system action⟩ row) :
    RightlyRemoved ⟨system, action, step sha system action⟩ row := by
  obtain ⟨stored, removed⟩ := removes
  simp only at stored removed
  cases action with
  | acquire resourceKey runId ttlSeconds now fault =>
    have left : ∀ other ∈ (settle system.db (attempt fault
        (system.db.acquire resourceKey runId ttlSeconds now))).1.leases.rows,
        other.fencingToken ≠ row.fencingToken := by
      simp only [step] at removed
      split at removed <;> exact removed
    obtain ⟨rfl, late⟩ := late_of_acquire stored left
    exact .expired now (.inl ⟨runId, ttlSeconds, fault, rfl⟩) late
  | renew resourceKey runId fencingToken ttlSeconds now fault =>
    cases done : attempt fault
        (system.db.renew resourceKey runId fencingToken ttlSeconds now) with
    | error error =>
      simp only [step, done, settle] at removed
      exact absurd rfl (removed row stored)
    | ok result =>
      obtain ⟨_, expiresAt, _, _, _, same⟩ :=
        DispatchLeaseDb.renew_eq_ok (attempt_eq_ok.mp done).2
      simp only [step, done, settle, same] at removed
      refine absurd ?_ (removed _ (Table.mem_update_of_mem system.db.leases _ _
        (by intro _; rfl) stored))
      split <;> rfl
  | release resourceKey runId fencingToken fault =>
    obtain ⟨held, rfl⟩ := named_of_release stored removed
    obtain ⟨_, rfl, rfl, rfl⟩ := DispatchLeaseDb.held?_eq_some.mp held
    exact .released rfl
  | reapExpiredForRun runId now fault =>
    cases done : attempt fault (system.db.reapExpiredForRun runId now) with
    | error error =>
      simp only [step, done, settle] at removed
      exact absurd rfl (removed row stored)
    | ok result =>
      obtain ⟨rfl, committed⟩ := attempt_eq_ok.mp done
      obtain ⟨expired, _, same⟩ := DispatchLeaseDb.reapExpiredForRun_eq_ok committed
      simp only [step, done, settle, same] at removed
      have named : row.runId = runId := by
        by_contra other
        have left : row ∈ (system.db.leases.delete (fun row => row.runId = runId)).rows := by
          rw [Table.mem_delete, decide_eq_false_iff_not]
          exact ⟨stored, other⟩
        exact removed row left rfl
      subst named
      exact .reaped now rfl (expired row stored rfl)
  | drawToken => exact absurd rfl (removed row stored)
  | beginAdmit =>
    simp only [step] at removed
    split at removed <;> exact absurd rfl (removed row stored)
  | admitAcquire index now fault =>
    simp only [step] at removed
    split at removed
    case h_2 => exact absurd rfl (removed row stored)
    case h_1 call found =>
      split at removed
      case isFalse => exact absurd rfl (removed row stored)
      case isTrue =>
        rw [db_admitAcquire] at removed
        obtain ⟨same, late⟩ := late_of_acquire stored removed
        exact .expired now (.inr ⟨index, fault, call, rfl, found, same.symm⟩) late
  | admitVerify index reads =>
    simp only [step] at removed
    split at removed
    case h_2 => exact absurd rfl (removed row stored)
    case h_1 call found =>
      split at removed
      · rw [db_admitVerify] at removed
        exact absurd rfl (removed row stored)
      · exact absurd rfl (removed row stored)
  | admitRelease index fault =>
    simp only [step] at removed
    split at removed
    case h_2 => exact absurd rfl (removed row stored)
    case h_1 call found =>
      split at removed
      case h_2 => exact absurd rfl (removed row stored)
      case h_1 permit created error stage =>
        rw [db_admitRelease] at removed
        obtain ⟨held, rfl⟩ := named_of_release stored removed
        have here := permitted call found permit (by rw [stage]; rfl)
          (by rw [Stored, held]; rfl)
        rw [stage] at here
        cases created with
        | false => exact absurd rfl here
        | true =>
          have token := (DispatchLeaseDb.held?_eq_some.mp held).2.2.2
          exact .undone index call permit error rfl found stage token.symm here.2

/-! ## The lease a call created -/

/-- The stage is one of a call that has created the lease of a permit. -/
def HasCreated (permit : DispatchPermit) : AdmitStage → Prop
  | .acquired held created | .refused held created _ => held = permit ∧ created = true
  | .returned held => held = permit
  | .raised created _ => created = some permit
  | .verified => False

/-- The call at an index has created the lease of a permit. -/
def CreatedBy (system : DispatchSystem) (index : Nat) (permit : DispatchPermit) : Prop :=
  ∃ call, system.calls[index]? = some call ∧ HasCreated permit call.stage

/-- Moving a call to a stage that keeps what it has created keeps what every call has created. -/
theorem createdBy_of_moved {index other : Nat} {permit : DispatchPermit} {call : AdmitCall}
    {stage : AdmitStage} {db : DispatchLeaseDb} (found : system.calls[other]? = some call)
    (keeps : HasCreated permit call.stage → HasCreated permit stage)
    (created : system.CreatedBy index permit) :
    (system.moved db other call stage).CreatedBy index permit := by
  obtain ⟨owner, here, has⟩ := created
  have bound : other < system.calls.length := (List.getElem?_eq_some_iff.mp found).1
  by_cases same : other = index
  · subst same
    rw [found, Option.some.injEq] at here
    subst here
    refine ⟨{ call with stage := stage }, ?_, keeps has⟩
    show (system.calls.set other _)[other]? = _
    rw [List.getElem?_set_self bound]
  · refine ⟨owner, ?_, has⟩
    show (system.calls.set other _)[index]? = _
    rw [List.getElem?_set_ne same]
    exact here

/-- A new call keeps what every call has created. -/
theorem createdBy_of_begun {index : Nat} {permit : DispatchPermit} (call : AdmitCall)
    (created : system.CreatedBy index permit) :
    ({ system with calls := system.calls ++ [call] } : DispatchSystem).CreatedBy index permit := by
  obtain ⟨owner, here, has⟩ := created
  have bound : index < system.calls.length := (List.getElem?_eq_some_iff.mp here).1
  exact ⟨owner, (List.getElem?_append_left bound).trans here, has⟩

/-- Every step keeps what every call has created. -/
theorem createdBy_step {index : Nat} {permit : DispatchPermit}
    (created : system.CreatedBy index permit) (action : DispatchAction) :
    (step sha system action).CreatedBy index permit := by
  cases action with
  | acquire =>
    simp only [step]
    split <;> exact created
  | renew | release | reapExpiredForRun | drawToken => exact created
  | beginAdmit =>
    simp only [step]
    split <;> exact createdBy_of_begun _ created
  | admitAcquire other now fault =>
    simp only [step]
    split
    case h_2 => exact created
    case h_1 call found =>
      split
      case isFalse => exact created
      case isTrue stage =>
        -- A call that has just been verified has created nothing yet.
        have nothing : ¬HasCreated permit call.stage := by
          rw [stage]
          exact id
        simp only [admitAcquire]
        split <;> exact createdBy_of_moved found (fun has => absurd has nothing) created
  | admitVerify other reads =>
    simp only [step]
    split
    case h_2 => exact created
    case h_1 call found =>
      split
      case h_2 => exact created
      case h_1 held fresh stage =>
        rw [admitVerify]
        split
        all_goals
          apply createdBy_of_moved found _ created
          rw [stage]
          rintro ⟨rfl, rfl⟩
        · exact rfl
        · exact ⟨rfl, rfl⟩
        · exact rfl
  | admitRelease other fault =>
    simp only [step]
    split
    case h_2 => exact created
    case h_1 call found =>
      split
      case h_2 => exact created
      case h_1 held fresh error stage =>
        simp only [admitRelease]
        split
        all_goals
          apply createdBy_of_moved found _ created
          rw [stage]
          rintro ⟨rfl, rfl⟩
          exact rfl

/-- A call of `admit` that creates a lease is noted to have. -/
theorem createdBy_of_createsLease {index : Nat} {now : Timestamp} {fault : Option MacrError}
    {permit : DispatchPermit}
    (creates : CreatesLease ⟨system, .admitAcquire index now fault,
      step sha system (.admitAcquire index now fault)⟩ permit) :
    (step sha system (.admitAcquire index now fault)).CreatedBy index permit := by
  obtain ⟨stored, fresh⟩ := creates
  simp only [step] at stored fresh ⊢
  split at stored
  case h_2 => exact absurd rfl (fresh permit stored)
  case h_1 call found =>
    split at stored
    case isFalse => exact absurd rfl (fresh permit stored)
    case isTrue stage =>
      simp only [if_pos stage]
      rw [db_admitAcquire] at stored
      cases done : attempt fault
          (system.db.acquire call.resourceKey call.runId call.ttlSeconds now) with
      | error error =>
        rw [done] at stored
        exact absurd rfl (fresh permit stored)
      | ok result =>
        rw [done, settle] at stored
        obtain ⟨answer, same, ⟨_, _, kept⟩ | ⟨none, made⟩⟩ :=
          DispatchLeaseDb.acquire_eq_ok (attempt_eq_ok.mp done).2
        · rw [kept] at stored
          exact absurd rfl (fresh permit stored)
        · have equal : permit = answer := by
            rcases (made.rows permit).mp stored with ⟨old, _⟩ | rfl
            · exact absurd rfl (fresh permit old)
            · rfl
          subst equal
          have bound : index < system.calls.length := (List.getElem?_eq_some_iff.mp found).1
          simp only [admitAcquire, done, settle, same, none]
          exact ⟨_, List.getElem?_set_self bound, rfl, rfl⟩

/-- A created lease has the token that its step has drawn. -/
theorem token_of_createsLease {permit : DispatchPermit}
    (creates : CreatesLease ⟨system, action, step sha system action⟩ permit) :
    permit.fencingToken = system.db.fencingCounter + 1 ∧
      (step sha system action).db.fencingCounter = system.db.fencingCounter + 1 := by
  obtain ⟨stored, fresh⟩ := creates
  rcases (change_step system action).origin stored with ⟨old, held, _, _, token⟩ | ⟨_, _, _, made⟩
  · exact absurd token (fresh old held)
  · exact ⟨made.token, made.counter⟩

/-- In every run in which, while the lease of its permit is stored, a call of `admit` that created
it has its second verification judged, and a refused call that releases it created it, shares it
with no caller and does not fail to release: a resource has one lease at most; tokens increase
over the leases created; `renew` and `release` succeed on the stored run and token alone; a lease
goes in one of the four ways; and a call of `admit` that has raised has left no lease it
created. -/
theorem dispatch_lease_discipline (sha : Sha256) (actions : List DispatchAction)
    (obeys : (machine sha).Obeys (allowed sha) .initial actions) :
    (∀ first rest, actions = first ++ rest →
      let reached := (machine sha).run .initial first
      ∀ row ∈ reached.db.leases.rows, ∀ other ∈ reached.db.leases.rows,
        row.resourceKey = other.resourceKey → row = other) ∧
    ((machine sha).steps .initial actions).Pairwise (fun x y =>
      ∀ earlier later, CreatesLease x earlier → CreatesLease y later →
        earlier.fencingToken < later.fencingToken) ∧
    (∀ x ∈ (machine sha).steps .initial actions,
      (∀ resourceKey runId fencingToken ttlSeconds now result,
        x.before.db.renew resourceKey runId fencingToken ttlSeconds now = .ok result →
          ∃ row ∈ x.before.db.leases.rows, row.resourceKey = resourceKey ∧ row.runId = runId ∧
            row.fencingToken = fencingToken) ∧
      (∀ resourceKey runId fencingToken result,
        x.before.db.release resourceKey runId fencingToken = .ok result →
          ∃ row ∈ x.before.db.leases.rows, row.resourceKey = resourceKey ∧ row.runId = runId ∧
            row.fencingToken = fencingToken) ∧
      ∀ row, RemovesLease x row → RightlyRemoved x row) ∧
    ((machine sha).steps .initial actions).Pairwise (fun x y =>
      ∀ index now fault permit, x.action = .admitAcquire index now fault →
        CreatesLease x permit → ∀ call created error, y.after.calls[index]? = some call →
          call.stage = .raised created error →
            ∀ row ∈ y.after.db.leases.rows, row.fencingToken ≠ permit.fencingToken) := by
  have keep : ∀ (s : DispatchSystem) (a : DispatchAction), Disciplined s → allowed sha s a →
      Disciplined ((machine sha).step s a) := fun _ _ held permitted =>
    disciplined_step held permitted
  refine ⟨?_, ?_, ?_, ?_⟩
  · intro first rest _ reached row stored other held same
    exact reached.db.leases.eq_of_key stored held same
  · have record : ∀ (s : DispatchSystem) (a : DispatchAction), Disciplined s → allowed sha s a →
        ∀ permit, CreatesLease ⟨s, a, (machine sha).step s a⟩ permit →
          permit.fencingToken ≤ ((machine sha).step s a).db.fencingCounter := by
      intro s a _ _ permit creates
      obtain ⟨token, counter⟩ := token_of_createsLease creates
      exact Nat.le_of_eq (token.trans counter.symm)
    apply (machine sha).steps_pairwise keep disciplined_initial obeys
      (fun x s => ∀ permit, CreatesLease x permit → permit.fencingToken ≤ s.db.fencingCounter)
      record
    · intro x s a _ _ earlier permit creates
      exact (earlier permit creates).trans (change_step s a).counter
    · intro x s a _ _ earlier first second creates createsLater
      have bound := earlier first creates
      have token := (token_of_createsLease createsLater).1
      omega
  · intro x member
    obtain ⟨_, permitted, after⟩ :=
      (machine sha).steps_invariant keep disciplined_initial obeys x member
    refine ⟨?_, ?_, ?_⟩
    · intro resourceKey runId fencingToken ttlSeconds now result done
      obtain ⟨row, _, held, _⟩ := DispatchLeaseDb.renew_eq_ok done
      exact ⟨row, DispatchLeaseDb.held?_eq_some.mp held⟩
    · intro resourceKey runId fencingToken result done
      obtain ⟨row, held, _⟩ := DispatchLeaseDb.release_eq_ok done
      exact ⟨row, DispatchLeaseDb.held?_eq_some.mp held⟩
    · intro row removes
      obtain ⟨before, action, next⟩ := x
      simp only at after
      subst after
      exact rightlyRemoved_step permitted removes
  · apply (machine sha).steps_pairwise keep disciplined_initial obeys
      (fun x s => ∀ index now fault permit, x.action = .admitAcquire index now fault →
        CreatesLease x permit → s.CreatedBy index permit)
    · intro s a _ _ index now fault permit same creates
      simp only at same
      subst same
      have noted : (step sha s (.admitAcquire index now fault)).CreatedBy index permit :=
        createdBy_of_createsLease creates
      exact noted
    · intro x s a _ _ earlier index now fault permit same creates
      exact createdBy_step (earlier index now fault permit same creates) a
    · intro x s a held permitted earlier index now fault permit same creates call created error
        found raised row stored
      obtain ⟨owner, here, has⟩ :=
        @createdBy_step sha s index permit (earlier index now fault permit same creates) a
      have equal : owner = call := Option.some.inj (here.symm.trans found)
      rw [equal, raised] at has
      have left := (keep s a held permitted).gone call (List.mem_of_getElem? found) permit error
        (by rw [raised, has])
      exact left.2 row stored

/-! ## Runs of one resource -/

/-- An authority for one provider. -/
def grantScope : AuthorityScope where
  providers := ["grok"]
  planes := ["production"]
  taskTypes := []
  batchIds := []
  memberDigests := []
  providerTierBindingDigests := []
  projectBindingDigests := []
  admissionLanes := []
  providerAdmissionPolicyDigests := []
  providerAdmissionTargetDigests := []
  providerAdmissionCircuitDigests := []
  scopeContractVersion := .v2
  providers_required := by decide
  planes_required := by decide
  legacy_tiers := by decide
  legacy_admission := by decide

/-- Its row, revoked or not. -/
def grantRow (revokedAt : Option Timestamp) : AuthorityRow :=
  let body : AuthorityBody := ⟨7, "operator", "grant", 1, 0, grantScope, 1, 1000⟩
  ⟨7, "operator", "grant", body, foldDigest.sha256 body.toDict, 1, 0, grantScope, 1, 1000, revokedAt⟩

/-- The reference to it. -/
def grantReference : AuthorizationReference where
  sourceKind := "operator"
  sourceId := "grant"
  digest := (grantRow none).bodySha256
  revision := 1
  epoch := 0
  scope := grantScope
  revision_positive := Nat.le_refl 1

/-- What a verification reads of it in its open epoch. -/
def grantReads (revokedAt : Option Timestamp) : VerificationReads :=
  .ok (⟨0, .open, none, 0⟩, some (grantRow revokedAt), 20)

/-- A call of `admit` of one run up to its second verification. -/
def admitting (index : Nat) (now : Timestamp) (reads : VerificationReads) : List DispatchAction :=
  [.beginAdmit "grok" 1 300 grantReference ⟨"grok", "production", "review", none, none, none, none,
      none, none, none, none⟩ (grantReads none),
    .admitAcquire index now none, .admitVerify index reads]

/-- A call is refused by a revocation between its verifications and undoes what it created. -/
theorem dispatch_lease_discipline_sample :
    let actions := admitting 0 10 (grantReads (some 15)) ++ [.admitRelease 0 none]
    ((machine foldDigest).run .initial actions).db.leases.rows = [] ∧
      ∀ x ∈ (machine foldDigest).steps .initial actions, ∀ row, RemovesLease x row →
        RightlyRemoved x row := by
  refine ⟨by decide +kernel, ?_⟩
  intro x member row removes
  exact ((dispatch_lease_discipline foldDigest _ (by decide +kernel)).2.2.1 x member).2.2 row removes

/-- A refused call removes an unexpired lease that an earlier call of its run has returned; and a
call whose second verification fails to read has raised and left the lease it created. -/
theorem dispatch_lease_undone_or_left :
    (let system := (machine foldDigest).run .initial
        (admitting 0 10 (grantReads none) ++ admitting 1 20 (grantReads (some 15)))
      ∃ row, RemovesLease ⟨system, .admitRelease 1 none,
          (machine foldDigest).step system (.admitRelease 1 none)⟩ row ∧
        20 < row.expiresAt ∧
        ¬RightlyRemoved ⟨system, .admitRelease 1 none,
          (machine foldDigest).step system (.admitRelease 1 none)⟩ row) ∧
    (let system := (machine foldDigest).run .initial
        (admitting 0 10 (.error (.other "OperationalError")))
      ∃ call ∈ system.calls, ∃ permit error, call.stage = .raised (some permit) error ∧
        permit ∈ system.db.leases.rows) := by
  constructor
  · refine ⟨⟨"grok", 1, 1, 10, 300000010⟩, ⟨by decide +kernel, ?_⟩, by decide, ?_⟩
    · have empty : ((machine foldDigest).step ((machine foldDigest).run .initial
          (admitting 0 10 (grantReads none) ++ admitting 1 20 (grantReads (some 15))))
          (.admitRelease 1 none)).db.leases.rows = [] := by
        decide +kernel
      intro other stored
      rw [empty] at stored
      cases stored
    · intro rightly
      cases rightly with
      | released action => cases action
      | expired now acquires late =>
        rcases acquires with ⟨_, _, _, action⟩ | ⟨_, _, _, action, _⟩ <;> cases action
      | reaped now action late => cases action
      | undone index call permit error action found stage same alone =>
        cases action
        have reentered : (((machine foldDigest).run .initial
            (admitting 0 10 (grantReads none) ++ admitting 1 20 (grantReads (some 15)))).calls[1]?).map
              (·.stage) = some (.refused ⟨"grok", 1, 1, 10, 300000010⟩ false
                (.dispatchAuthorization "dispatch authorization is revoked")) := by
          decide +kernel
        rw [found, Option.map_some, stage, Option.some.injEq] at reentered
        cases reentered
  · exact ⟨⟨"grok", 1, 300, grantReference, ⟨"grok", "production", "review", none, none, none, none,
      none, none, none, none⟩, .raised (some ⟨"grok", 1, 1, 10, 300000010⟩)
        (.other "OperationalError")⟩, by decide +kernel, _, _, rfl, by decide +kernel⟩

end DispatchSystem
end Macr
