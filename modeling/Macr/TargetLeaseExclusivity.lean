import Macr.TargetLeases

/-!
# Exclusivity of target leases

An operation moves stored leases along four edges or inserts one lease. An insertion finds its
target free, or held by its own plan under its own named group alone, with nothing expired. From
that the leases that hold a target are exclusive in every reachable state, and a lease that has
expired keeps its target until it is reconciled.
-/

namespace Macr

open Lib

/-- The changes of a stored lease at a clock reading, where one lease may be reconciled. -/
inductive LeaseEdge (now : Timestamp) (reconciled : Option Digest) (row : TargetLeaseRow) :
    TargetLeaseRow → Prop where
  /-- An active lease is found expired. -/
  | expire (active : row.state = .active) :
    LeaseEdge now reconciled row { row with state := .reconciliationRequired }
  /-- An active lease is prolonged before its expiry. -/
  | renew (active : row.state = .active) (unexpired : now < row.expiresAt)
    (expiresAt : Timestamp) : LeaseEdge now reconciled row { row with expiresAt := expiresAt }
  /-- An active lease is released before its expiry. -/
  | release (active : row.state = .active) (unexpired : now < row.expiresAt) :
    LeaseEdge now reconciled row { row with state := .released, releasedAt := some now }
  /-- The lease is released on evidence. -/
  | reconcile (unresolved : row.state = .reconciliationRequired)
    (named : reconciled = some row.leaseId) (evidence : Digest) :
    LeaseEdge now reconciled row { row with
      state := .released
      releasedAt := some now
      reconciliationEvidenceDigest := some evidence }

/-- The lease is found expired, or has expired at a clock reading. -/
def TargetLeaseRow.Overdue (row : TargetLeaseRow) (now : Timestamp) : Prop :=
  row.state = .reconciliationRequired ∨ (row.state = .active ∧ row.expiresAt ≤ now)

namespace LeaseEdge

variable {now : Timestamp} {reconciled : Option Digest} {row next : TargetLeaseRow}

/-- A change keeps what the insertion fixed. -/
theorem identity (edge : LeaseEdge now reconciled row next) :
    next.toTargetLeaseIdentity = row.toTargetLeaseIdentity := by
  cases edge <;> rfl

/-- A changed lease held its target before. -/
theorem held (edge : LeaseEdge now reconciled row next) : row.state.held = true := by
  cases edge with
  | expire active | renew active | release active => rw [active]; rfl
  | reconcile unresolved => rw [unresolved]; rfl

/-- All that can happen to an overdue lease, unless it is reconciled, is to be found expired. -/
theorem expires (edge : LeaseEdge now reconciled row next) (overdue : row.Overdue now)
    (other : reconciled ≠ some row.leaseId) : next.state = .reconciliationRequired := by
  cases edge with
  | expire => rfl
  | renew active unexpired | release active unexpired =>
    rcases overdue with unresolved | ⟨_, late⟩
    · exact absurd (active.symm.trans unresolved) (by decide)
    · exact absurd unexpired (Nat.not_lt.mpr late)
  | reconcile unresolved named => exact absurd named other

end LeaseEdge

namespace TargetLeaseDb

/-- The stored leases have changed along edges, and no other column or table has. -/
def Updated (now : Timestamp) (reconciled : Option Digest) (before after : TargetLeaseDb) : Prop :=
  ∃ condition assign keeps, after = before.updateLeases condition assign keeps ∧
    ∀ row ∈ before.leases.rows, condition row = true → LeaseEdge now reconciled row (assign row)

/-- A lease may be inserted at a clock reading: it is active under the next token, and every lease
that holds its target is active and unexpired, of its plan, in its named group, and not automatic
where it is. -/
structure Acquirable (db : TargetLeaseDb) (lease : TargetLeaseRow) (now : Timestamp) : Prop where
  /-- It is active. -/
  active : lease.state = .active
  /-- It has the next token. -/
  token : lease.fencingToken = db.fencingCounter + 1
  /-- The holders of its target have not expired. -/
  unexpired : ∀ row ∈ db.leases.rows, row.target = lease.target → row.state.held = true →
    row.state = .active ∧ now < row.expiresAt
  /-- They are of its plan. -/
  plan : ∀ row ∈ db.leases.rows, row.target = lease.target → row.state.held = true →
    row.planDigest = lease.planDigest
  /-- They share its named group. -/
  group : ∀ row ∈ db.leases.rows, row.target = lease.target → row.state.held = true →
    row.alternativeGroup = lease.alternativeGroup ∧ lease.alternativeGroup ≠ none
  /-- They are not automatic where it is. -/
  automatic : ∀ row ∈ db.leases.rows, row.target = lease.target → row.state.held = true →
    ¬(row.materializeAutomatically = true ∧ lease.materializeAutomatically = true)

/-- A lease has been inserted. -/
def Acquired (before after : TargetLeaseDb) (lease : TargetLeaseRow) (now : Timestamp) : Prop :=
  Acquirable before lease now ∧ ∃ fresh, after =
    { fencingCounter := before.fencingCounter + 1, leases := before.leases.insert lease fresh }

/-! ## Operations -/

variable {db : TargetLeaseDb} {result : Committed TargetLeaseDb TargetLeaseRow}

/-- Marking active leases as expired is along the edges. -/
theorem updated_expireLeases (now : Timestamp) (reconciled : Option Digest)
    (condition : TargetLeaseRow → Bool)
    (active : ∀ row ∈ db.leases.rows, condition row = true → row.state = .active) :
    Updated now reconciled db (db.expireLeases condition) :=
  ⟨condition, _, _, rfl, fun row stored met => LeaseEdge.expire (active row stored met)⟩

/-- The rows with a stored lease's identifier are that lease. -/
theorem eq_of_leaseId {lease : TargetLeaseRow} {leaseId : Digest}
    (found : db.leases.find? leaseId = some lease) :
    ∀ row ∈ db.leases.rows, decide (row.leaseId = leaseId) = true → row = lease := by
  intro row stored named
  obtain ⟨held, same⟩ := (db.leases.find?_eq_some _ _).mp found
  exact db.leases.eq_of_key stored held ((of_decide_eq_true named).trans same.symm)

/-- The holders of a target are its stored leases that hold it. -/
theorem mem_holders {target : Digest × Digest} {row : TargetLeaseRow} :
    row ∈ db.holders target ↔
      row ∈ db.leases.rows ∧ row.target = target ∧ row.state.held = true := by
  simp [holders]

/-- A held target passes where its holders are active, of the plan and in its named group, and at
most one alternative is automatic. -/
theorem requireAlternative_eq_ok {active : List TargetLeaseRow} {plan : Digest}
    {alternativeGroup : Option String} {materializeAutomatically : Bool} {value : Unit} :
    requireAlternative active plan alternativeGroup materializeAutomatically = .ok value ↔
      (∀ row ∈ active, row.state ≠ .reconciliationRequired) ∧
      (∀ row ∈ active, row.planDigest = plan) ∧
      (alternativeGroup ≠ none ∧ ∀ row ∈ active, row.alternativeGroup = alternativeGroup) ∧
      active.countP (·.materializeAutomatically) + (if materializeAutomatically then 1 else 0) ≤
        1 := by
  simp [requireAlternative, bind_eq_ok, not_or]

/-- An insertion that succeeds leaves the lease acquired. -/
theorem acquired_of_insertLease {lease : TargetLeaseRow} {now : Timestamp}
    (acquirable : Acquirable db lease now) (done : db.insertLease lease = .ok result) :
    Acquired db result.1 lease now := by
  simp only [insertLease, commitRead, bind_eq_ok, raiseIf_eq_ok, exists_const, require_eq_ok,
    Table.insert?_eq_some, Except.ok.injEq] at done
  obtain ⟨_, leases, ⟨fresh, rfl⟩, rfl⟩ := done
  exact ⟨acquirable, fresh, rfl⟩

/-- What an acquisition can do: nothing, mark expired leases, or insert a lease. -/
theorem acquire_eq_ok {sha : Sha256} {repository : RepositoryIdentity} {plan member : Digest}
    {targetPath : String} {alternativeGroup : Option String} {materializeAutomatically : Bool}
    {ttlSeconds : Nat} {now : Timestamp}
    (done : db.acquire sha repository plan member targetPath alternativeGroup
      materializeAutomatically ttlSeconds now = .ok result) :
    result.1 = db ∨ Updated now none db result.1 ∨ ∃ lease, Acquired db result.1 lease now := by
  simp only [acquire, bind_eq_ok, raiseIf_eq_ok, exists_const] at done
  obtain ⟨targetKey, _, _, _, done⟩ := done
  cases found : db.leases.find? (leaseIdOf sha repository.repositoryId targetKey plan member) with
  | some lease =>
    have only := eq_of_leaseId found
    simp only [found] at done
    cases state : lease.state with
    | active =>
      simp only [state] at done
      split at done
      · rw [commitRaise_eq_ok] at done
        rw [done]
        refine Or.inr (Or.inl (updated_expireLeases _ _ _ fun row stored named => ?_))
        rw [only row stored named]
        exact state
      · split at done
        · rw [commit_eq_ok] at done
          exact Or.inl (by rw [done])
        · exact absurd done (by simp)
    | released | reconciliationRequired =>
      simp only [state] at done
      exact absurd done (by simp)
  | none =>
    simp only [found] at done
    split at done
    · rw [commitRaise_eq_ok] at done
      rw [done]
      refine Or.inr (Or.inl (updated_expireLeases _ _ _ fun row stored named => ?_))
      simp only [decide_eq_true_eq, List.mem_map, List.mem_filter, mem_holders] at named
      obtain ⟨other, ⟨⟨otherHeld, _⟩, active, _⟩, same⟩ := named
      have equal := db.leases.eq_of_key stored otherHeld same.symm
      rw [equal]
      exact active
    · rename_i noneExpired
      have fresh : ∀ row ∈ db.holders (repository.repositoryId, targetKey),
          row.state = .active → now < row.expiresAt := by
        intro row holds active
        by_contra late
        refine noneExpired fun empty => ?_
        have member : row ∈ (db.holders (repository.repositoryId, targetKey)).filter
            (fun row => decide (row.state = .active ∧ row.expiresAt ≤ now)) :=
          List.mem_filter.mpr ⟨holds, decide_eq_true ⟨active, Nat.not_lt.mp late⟩⟩
        rw [List.isEmpty_iff.mp empty] at member
        exact absurd member (by simp)
      right; right
      split at done
      · -- The target is held: the checks of its holders pass.
        obtain ⟨_, required, inserted⟩ := bind_eq_ok.mp done
        obtain ⟨resolved, plans, ⟨named, groups⟩, automatic⟩ := requireAlternative_eq_ok.mp required
        refine ⟨_, acquired_of_insertLease ⟨rfl, rfl, ?_, ?_, ?_, ?_⟩ inserted⟩
        · intro row stored target held
          have holds := mem_holders.mpr ⟨stored, target, held⟩
          have active : row.state = .active := by
            have notUnresolved := resolved row holds
            cases state : row.state <;> simp_all [TargetLeaseState.held]
          exact ⟨active, fresh row holds active⟩
        · exact fun row stored target held => plans row (mem_holders.mpr ⟨stored, target, held⟩)
        · exact fun row stored target held =>
            ⟨groups row (mem_holders.mpr ⟨stored, target, held⟩), named⟩
        · rintro row stored target held ⟨rowAutomatic, automatically⟩
          have counted : 0 < (db.holders (repository.repositoryId, targetKey)).countP
              (·.materializeAutomatically) :=
            List.countP_pos_iff.mpr ⟨row, mem_holders.mpr ⟨stored, target, held⟩, rowAutomatic⟩
          have isAutomatic : materializeAutomatically = true := automatically
          rw [if_pos isAutomatic] at automatic
          omega
      · -- The target is free.
        rename_i free
        have absent := List.isEmpty_iff.mp (not_not.mp free)
        have nobody : ∀ row ∈ db.leases.rows,
            row.target = (repository.repositoryId, targetKey) → ¬row.state.held = true := by
          intro row stored target held
          have holds := mem_holders.mpr ⟨stored, target, held⟩
          rw [absent] at holds
          exact absurd holds (by simp)
        refine ⟨_, acquired_of_insertLease ⟨rfl, rfl, ?_, ?_, ?_, ?_⟩ done⟩ <;>
          exact fun row stored target held => absurd held (nobody row stored target)

/-- A holder that passes is the stored lease, active. -/
theorem assertHolder_eq_ok {leaseId member : Digest} {fencingToken : Nat} {row : TargetLeaseRow}
    (done : assertHolder (db.leases.find? leaseId) member fencingToken = .ok row) :
    db.leases.find? leaseId = some row ∧ row.state = .active := by
  simp only [assertHolder, bind_eq_ok, raiseIf_eq_ok, exists_const, require_eq_ok, pure_eq_ok,
    ne_eq, not_not] at done
  obtain ⟨_, found, stored, active, _, rfl⟩ := done
  exact ⟨stored, active⟩

/-- An operation of a holder marks the lease where it has expired, and changes it along an edge
otherwise. -/
theorem updated_of_holder {leaseId member : Digest} {fencingToken : Nat} {now : Timestamp}
    {row : TargetLeaseRow} {assign : TargetLeaseRow → TargetLeaseRow}
    {keeps : ∀ row, (assign row).leaseId = row.leaseId} {message : String}
    (checked : assertHolder (db.leases.find? leaseId) member fencingToken = .ok row)
    (edge : row.state = .active → now < row.expiresAt → LeaseEdge now none row (assign row))
    (done : (if row.expiresAt ≤ now then
        commitRaise (db.expireLeases (fun other => other.leaseId = leaseId))
          (.dispatchLease message)
      else commitRead (db.updateLeases (fun other => other.leaseId = leaseId) assign keeps)
        leaseId) = .ok result) : Updated now none db result.1 := by
  obtain ⟨found, active⟩ := assertHolder_eq_ok checked
  have only := eq_of_leaseId found
  split at done
  · rw [commitRaise_eq_ok] at done
    rw [done]
    refine updated_expireLeases _ _ _ fun other stored named => ?_
    rw [only other stored named]
    exact active
  · rename_i unexpired
    rw [(Except.ok.inj done).symm]
    refine ⟨_, _, _, rfl, fun other held same => ?_⟩
    rw [only other held same]
    exact edge active (Nat.not_le.mp unexpired)

/-- A renewal changes its lease along an edge. -/
theorem renew_eq_ok {leaseId member : Digest} {fencingToken ttlSeconds : Nat} {now : Timestamp}
    (done : db.renew leaseId member fencingToken ttlSeconds now = .ok result) :
    Updated now none db result.1 := by
  simp only [renew, bind_eq_ok, raiseIf_eq_ok, exists_const] at done
  obtain ⟨_, row, checked, rest⟩ := done
  exact updated_of_holder checked (fun active unexpired => LeaseEdge.renew active unexpired _) rest

/-- A release changes its lease along an edge. -/
theorem release_eq_ok {leaseId member : Digest} {fencingToken : Nat} {now : Timestamp}
    (done : db.release leaseId member fencingToken now = .ok result) :
    Updated now none db result.1 := by
  simp only [release, bind_eq_ok] at done
  obtain ⟨row, checked, rest⟩ := done
  exact updated_of_holder checked (fun active unexpired => LeaseEdge.release active unexpired) rest

/-- A reconciliation changes its lease along an edge. -/
theorem reconcileRelease_eq_ok {leaseId evidence : Digest} {now : Timestamp}
    (done : db.reconcileRelease leaseId evidence now = .ok result) :
    Updated now (some leaseId) db result.1 := by
  simp only [reconcileRelease, bind_eq_ok, require_eq_ok, Option.filter_eq_some_iff,
    decide_eq_true_eq] at done
  obtain ⟨row, ⟨found, unresolved⟩, rest⟩ := done
  have only := eq_of_leaseId found
  have named := ((db.leases.find?_eq_some _ _).mp found).2
  rw [(Except.ok.inj rest).symm]
  refine ⟨_, _, _, rfl, fun other held same => ?_⟩
  rw [only other held same]
  exact LeaseEdge.reconcile unresolved (congrArg some named.symm) evidence

/-! ## The invariant -/

/-- The leases that hold a target are of one plan, and two of them share one named group and are
not both automatic. -/
structure Exclusive (db : TargetLeaseDb) : Prop where
  /-- One plan holds a target. -/
  plan : ∀ left ∈ db.leases.rows, ∀ right ∈ db.leases.rows, left.target = right.target →
    left.state.held = true → right.state.held = true → left.planDigest = right.planDigest
  /-- Two leases that hold a target share a named group. -/
  group : ∀ left ∈ db.leases.rows, ∀ right ∈ db.leases.rows, left ≠ right →
    left.target = right.target → left.state.held = true → right.state.held = true →
      left.alternativeGroup = right.alternativeGroup ∧ left.alternativeGroup ≠ none
  /-- Two leases that hold a target are not both automatic. -/
  automatic : ∀ left ∈ db.leases.rows, ∀ right ∈ db.leases.rows, left ≠ right →
    left.target = right.target → left.state.held = true → right.state.held = true →
      ¬(left.materializeAutomatically = true ∧ right.materializeAutomatically = true)

/-- A new database holds no target. -/
theorem exclusive_initial : Exclusive .initial := by
  constructor <;> simp [initial]

/-- A stored lease before a change, or the inserted one. -/
theorem origin_of_updated {before after : TargetLeaseDb} {now : Timestamp}
    {reconciled : Option Digest} (updated : Updated now reconciled before after) :
    ∀ next ∈ after.leases.rows, ∃ row ∈ before.leases.rows,
      next = row ∨ LeaseEdge now reconciled row next := by
  obtain ⟨condition, assign, keeps, rfl, edges⟩ := updated
  intro next member
  obtain ⟨row, held, rfl⟩ := (Table.mem_update before.leases condition assign keeps _).mp member
  refine ⟨row, held, ?_⟩
  by_cases met : condition row = true
  · rw [if_pos met]
    exact Or.inr (edges row held met)
  · rw [if_neg met]
    exact Or.inl rfl

/-- A lease that holds its target after a change is a stored lease that held it before. -/
theorem held_of_updated {before after : TargetLeaseDb} {now : Timestamp}
    {reconciled : Option Digest} (updated : Updated now reconciled before after) :
    ∀ next ∈ after.leases.rows, next.state.held = true → ∃ row ∈ before.leases.rows,
      row.state.held = true ∧ next.toTargetLeaseIdentity = row.toTargetLeaseIdentity := by
  intro next member holds
  obtain ⟨row, held, rfl | edge⟩ := origin_of_updated updated next member
  · exact ⟨next, held, holds, rfl⟩
  · exact ⟨row, held, edge.held, edge.identity⟩

/-- Changes along edges keep exclusivity. -/
theorem exclusive_of_updated {before after : TargetLeaseDb} {now : Timestamp}
    {reconciled : Option Digest} (inv : Exclusive before)
    (updated : Updated now reconciled before after) : Exclusive after := by
  have origin := held_of_updated updated
  have apart : ∀ {left right leftRow rightRow : TargetLeaseRow}, left ∈ after.leases.rows →
      right ∈ after.leases.rows → left ≠ right →
      left.toTargetLeaseIdentity = leftRow.toTargetLeaseIdentity →
      right.toTargetLeaseIdentity = rightRow.toTargetLeaseIdentity → leftRow ≠ rightRow := by
    intro left right leftRow rightRow leftHeld rightHeld different leftSame rightSame same
    have identity : left.toTargetLeaseIdentity = right.toTargetLeaseIdentity := by
      rw [leftSame, rightSame, same]
    exact different (after.leases.eq_of_key leftHeld rightHeld (congrArg (·.leaseId) identity))
  constructor
  · intro left leftHeld right rightHeld target leftHolds rightHolds
    obtain ⟨leftRow, leftStored, leftState, leftSame⟩ := origin left leftHeld leftHolds
    obtain ⟨rightRow, rightStored, rightState, rightSame⟩ := origin right rightHeld rightHolds
    rw [leftSame, rightSame] at target ⊢
    exact inv.plan leftRow leftStored rightRow rightStored target leftState rightState
  · intro left leftHeld right rightHeld different target leftHolds rightHolds
    obtain ⟨leftRow, leftStored, leftState, leftSame⟩ := origin left leftHeld leftHolds
    obtain ⟨rightRow, rightStored, rightState, rightSame⟩ := origin right rightHeld rightHolds
    have rowsApart := apart leftHeld rightHeld different leftSame rightSame
    rw [leftSame, rightSame] at target ⊢
    exact inv.group leftRow leftStored rightRow rightStored rowsApart target leftState rightState
  · intro left leftHeld right rightHeld different target leftHolds rightHolds
    obtain ⟨leftRow, leftStored, leftState, leftSame⟩ := origin left leftHeld leftHolds
    obtain ⟨rightRow, rightStored, rightState, rightSame⟩ := origin right rightHeld rightHolds
    have rowsApart := apart leftHeld rightHeld different leftSame rightSame
    rw [leftSame, rightSame] at target ⊢
    exact inv.automatic leftRow leftStored rightRow rightStored rowsApart target leftState
      rightState

/-- An acquisition keeps exclusivity. -/
theorem exclusive_of_acquired {before after : TargetLeaseDb} {lease : TargetLeaseRow}
    {now : Timestamp} (inv : Exclusive before) (acquired : Acquired before after lease now) :
    Exclusive after := by
  obtain ⟨acquirable, fresh, rfl⟩ := acquired
  have cases_of : ∀ row ∈ (before.leases.insert lease fresh).rows,
      row ∈ before.leases.rows ∨ row = lease := by
    intro row member
    rwa [Table.insert_rows, List.mem_append, List.mem_singleton] at member
  constructor
  · intro left leftHeld right rightHeld target leftHolds rightHolds
    rcases cases_of left leftHeld with leftOld | rfl <;>
      rcases cases_of right rightHeld with rightOld | rfl
    · exact inv.plan left leftOld right rightOld target leftHolds rightHolds
    · exact acquirable.plan left leftOld target leftHolds
    · exact (acquirable.plan right rightOld target.symm rightHolds).symm
    · rfl
  · intro left leftHeld right rightHeld different target leftHolds rightHolds
    rcases cases_of left leftHeld with leftOld | rfl <;>
      rcases cases_of right rightHeld with rightOld | rfl
    · exact inv.group left leftOld right rightOld different target leftHolds rightHolds
    · obtain ⟨same, named⟩ := acquirable.group left leftOld target leftHolds
      exact ⟨same, same ▸ named⟩
    · obtain ⟨same, named⟩ := acquirable.group right rightOld target.symm rightHolds
      exact ⟨same.symm, named⟩
    · exact absurd rfl different
  · intro left leftHeld right rightHeld different target leftHolds rightHolds
    rcases cases_of left leftHeld with leftOld | rfl <;>
      rcases cases_of right rightHeld with rightOld | rfl
    · exact inv.automatic left leftOld right rightOld different target leftHolds rightHolds
    · exact acquirable.automatic left leftOld target leftHolds
    · exact fun both => acquirable.automatic right rightOld target.symm rightHolds both.symm
    · exact absurd rfl different

end TargetLeaseDb

/-! ## Runs -/

/-- The operations of the store, and the other stores' draws from the counter. -/
inductive TargetLeaseAction where
  /-- A plan's member asks for a target. -/
  | acquire (repository : RepositoryIdentity) (plan member : Digest) (targetPath : String)
      (alternativeGroup : Option String) (materializeAutomatically : Bool) (ttlSeconds : Nat)
      (now : Timestamp)
  /-- A holder prolongs its lease. -/
  | renew (leaseId member : Digest) (fencingToken ttlSeconds : Nat) (now : Timestamp)
  /-- A holder gives its lease up. -/
  | release (leaseId member : Digest) (fencingToken : Nat) (now : Timestamp)
  /-- An expired lease is released on evidence. -/
  | reconcileRelease (leaseId evidence : Digest) (now : Timestamp)
  /-- Another store draws a token. -/
  | drawToken

/-- The clock reading of an operation. -/
def TargetLeaseAction.now : TargetLeaseAction → Option Timestamp
  | .acquire _ _ _ _ _ _ _ now | .renew _ _ _ _ now | .release _ _ _ now
  | .reconcileRelease _ _ now => some now
  | .drawToken => none

/-- The lease an operation reconciles. -/
def TargetLeaseAction.reconciled : TargetLeaseAction → Option Digest
  | .reconcileRelease leaseId _ _ => some leaseId
  | _ => none

namespace TargetLeaseDb

/-- One operation. -/
def step (sha : Sha256) (db : TargetLeaseDb) : TargetLeaseAction → TargetLeaseDb
  | .acquire repository plan member targetPath alternativeGroup materializeAutomatically ttlSeconds
      now =>
    (settle db (db.acquire sha repository plan member targetPath alternativeGroup
      materializeAutomatically ttlSeconds now)).1
  | .renew leaseId member fencingToken ttlSeconds now =>
    (settle db (db.renew leaseId member fencingToken ttlSeconds now)).1
  | .release leaseId member fencingToken now =>
    (settle db (db.release leaseId member fencingToken now)).1
  | .reconcileRelease leaseId evidence now =>
    (settle db (db.reconcileRelease leaseId evidence now)).1
  | .drawToken => { db with fencingCounter := db.fencingCounter + 1 }

/-- The lease store as a machine. -/
def machine (sha : Sha256) : Machine TargetLeaseDb TargetLeaseAction := ⟨step sha⟩

/-- The step stores a new lease. -/
def Acquires (x : Machine.Step TargetLeaseDb TargetLeaseAction) (lease : TargetLeaseRow) : Prop :=
  lease ∈ x.after.leases.rows ∧
    ∀ row ∈ x.before.leases.rows, row.leaseId ≠ lease.leaseId

/-- A refused operation changes nothing; another has the result it returns. -/
theorem settle_cases (db : TargetLeaseDb)
    (outcome : Except MacrError (Committed TargetLeaseDb TargetLeaseRow)) :
    (settle db outcome).1 = db ∨
      ∃ result, outcome = .ok result ∧ (settle db outcome).1 = result.1 := by
  cases outcome with
  | error raised => exact Or.inl rfl
  | ok result => exact Or.inr ⟨result, rfl, rfl⟩

/-- What one operation can do. -/
theorem step_cases (sha : Sha256) (db : TargetLeaseDb) (action : TargetLeaseAction) :
    step sha db action = db ∨
    step sha db action = { db with fencingCounter := db.fencingCounter + 1 } ∨
    (∃ now, action.now = some now ∧ Updated now action.reconciled db (step sha db action)) ∨
    ∃ now lease, action.now = some now ∧ action.reconciled = none ∧
      Acquired db (step sha db action) lease now := by
  cases action with
  | acquire repository plan member targetPath alternativeGroup materializeAutomatically ttlSeconds
      now =>
    rcases settle_cases db (db.acquire sha repository plan member targetPath
      alternativeGroup materializeAutomatically ttlSeconds now) with same | ⟨result, done, same⟩
    · exact Or.inl same
    · have after : step sha db (.acquire repository plan member targetPath alternativeGroup
          materializeAutomatically ttlSeconds now) = result.1 := same
      rw [after]
      rcases acquire_eq_ok done with unchanged | updated | ⟨lease, acquired⟩
      · exact Or.inl unchanged
      · exact Or.inr (Or.inr (Or.inl ⟨now, rfl, updated⟩))
      · exact Or.inr (Or.inr (Or.inr ⟨now, lease, rfl, rfl, acquired⟩))
  | renew leaseId member fencingToken ttlSeconds now =>
    rcases settle_cases db (db.renew leaseId member fencingToken ttlSeconds now)
      with same | ⟨result, done, same⟩
    · exact Or.inl same
    · have after : step sha db (.renew leaseId member fencingToken ttlSeconds now) = result.1 :=
        same
      rw [after]
      exact Or.inr (Or.inr (Or.inl ⟨now, rfl, renew_eq_ok done⟩))
  | release leaseId member fencingToken now =>
    rcases settle_cases db (db.release leaseId member fencingToken now)
      with same | ⟨result, done, same⟩
    · exact Or.inl same
    · have after : step sha db (.release leaseId member fencingToken now) = result.1 := same
      rw [after]
      exact Or.inr (Or.inr (Or.inl ⟨now, rfl, release_eq_ok done⟩))
  | reconcileRelease leaseId evidence now =>
    rcases settle_cases db (db.reconcileRelease leaseId evidence now)
      with same | ⟨result, done, same⟩
    · exact Or.inl same
    · have after : step sha db (.reconcileRelease leaseId evidence now) = result.1 := same
      rw [after]
      exact Or.inr (Or.inr (Or.inl ⟨now, rfl, reconcileRelease_eq_ok done⟩))
  | drawToken => exact Or.inr (Or.inl rfl)

/-- Every operation keeps exclusivity. -/
theorem exclusive_step (sha : Sha256) {db : TargetLeaseDb} (inv : Exclusive db)
    (action : TargetLeaseAction) : Exclusive (step sha db action) := by
  rcases step_cases sha db action with same | drawn | ⟨_, _, updated⟩ | ⟨_, _, _, _, acquired⟩
  · rw [same]
    exact inv
  · rw [drawn]
    exact ⟨inv.plan, inv.group, inv.automatic⟩
  · exact exclusive_of_updated inv updated
  · exact exclusive_of_acquired inv acquired

/-- No operation lowers the counter. -/
theorem counter_step (sha : Sha256) (db : TargetLeaseDb) (action : TargetLeaseAction) :
    db.fencingCounter ≤ (step sha db action).fencingCounter := by
  rcases step_cases sha db action with
    same | drawn | ⟨_, _, _, _, _, same, _⟩ | ⟨_, _, _, _, _, _, same⟩
  · rw [same]
  · rw [drawn]
    exact Nat.le_succ _
  · rw [same]
    exact Nat.le_refl _
  · rw [same]
    exact Nat.le_succ _

/-- A step that stores a new lease has found it acquirable and draws its token. -/
theorem acquirable_of_acquires {sha : Sha256} {db : TargetLeaseDb} {action : TargetLeaseAction}
    {lease : TargetLeaseRow} (acquires : Acquires ⟨db, action, step sha db action⟩ lease) :
    ∃ now, action.now = some now ∧ Acquirable db lease now ∧
      (step sha db action).fencingCounter = lease.fencingToken := by
  obtain ⟨member, new⟩ := acquires
  rcases step_cases sha db action with
    same | drawn | ⟨now, _, updated⟩ | ⟨now, other, clock, _, acquirable, fresh, same⟩
  · have stored : lease ∈ db.leases.rows := same ▸ member
    exact absurd rfl (new lease stored)
  · have stored : lease ∈ db.leases.rows := by
      have member' : lease ∈ (step sha db action).leases.rows := member
      rw [drawn] at member'
      exact member'
    exact absurd rfl (new lease stored)
  · obtain ⟨row, stored, rfl | edge⟩ := origin_of_updated updated lease member
    · exact absurd rfl (new lease stored)
    · have named : row.leaseId = lease.leaseId :=
        (congrArg TargetLeaseIdentity.leaseId edge.identity).symm
      exact absurd named (new row stored)
  · have inserted : lease ∈ (db.leases.insert other fresh).rows := by
      have member' : lease ∈ (step sha db action).leases.rows := member
      rw [same] at member'
      exact member'
    rw [Table.insert_rows, List.mem_append, List.mem_singleton] at inserted
    rcases inserted with stored | rfl
    · exact absurd rfl (new lease stored)
    · refine ⟨now, clock, acquirable, ?_⟩
      rw [same, acquirable.token]

/-- The target is held by the lease, overdue at each clock reading to come. -/
def HeldOverdue (lease : TargetLeaseRow) (db : TargetLeaseDb) : Prop :=
  ∃ row ∈ db.leases.rows, row.toTargetLeaseIdentity = lease.toTargetLeaseIdentity ∧
    (row.state = .reconciliationRequired ∨ (lease.state = .active ∧ row = lease))

/-- An overdue lease keeps its target through every operation that does not reconcile it. -/
theorem heldOverdue_step (sha : Sha256) {lease : TargetLeaseRow} {db : TargetLeaseDb}
    {action : TargetLeaseAction} (holds : HeldOverdue lease db)
    (overdue : ∀ now, action.now = some now → lease.Overdue now)
    (other : action.reconciled ≠ some lease.leaseId) :
    HeldOverdue lease (step sha db action) := by
  obtain ⟨row, stored, same, state⟩ := holds
  have named : row.leaseId = lease.leaseId := congrArg TargetLeaseIdentity.leaseId same
  rcases step_cases sha db action with
    unchanged | drawn | ⟨now, clock, condition, assign, keeps, after, edges⟩ |
    ⟨_, inserted, _, _, _, fresh, after⟩
  · rw [unchanged]
    exact ⟨row, stored, same, state⟩
  · rw [drawn]
    exact ⟨row, stored, same, state⟩
  · have member : (if condition row = true then assign row else row) ∈
        (step sha db action).leases.rows := by
      rw [after]
      exact (Table.mem_update db.leases condition assign keeps _).mpr ⟨row, stored, rfl⟩
    by_cases met : condition row = true
    · rw [if_pos met] at member
      have edge := edges row stored met
      have late : row.Overdue now := by
        rcases state with unresolved | ⟨_, rfl⟩
        · exact Or.inl unresolved
        · exact overdue now clock
      have expired := edge.expires late (by rw [named]; exact other)
      exact ⟨assign row, member, edge.identity.trans same, Or.inl expired⟩
    · rw [if_neg met] at member
      exact ⟨row, member, same, state⟩
  · rw [after]
    refine ⟨row, ?_, same, state⟩
    rw [Table.insert_rows]
    exact List.mem_append_left _ stored

/-- No operation acquires a target that an overdue lease holds. -/
theorem not_acquires_of_heldOverdue {sha : Sha256} {lease : TargetLeaseRow} {db : TargetLeaseDb}
    {action : TargetLeaseAction} (holds : HeldOverdue lease db)
    (overdue : ∀ now, action.now = some now → lease.Overdue now) {next : TargetLeaseRow}
    (acquires : Acquires ⟨db, action, step sha db action⟩ next) : next.target ≠ lease.target := by
  intro sameTarget
  obtain ⟨now, clock, acquirable, _⟩ := acquirable_of_acquires acquires
  obtain ⟨row, stored, same, state⟩ := holds
  have target : row.target = next.target := by
    rw [sameTarget, same]
  rcases state with unresolved | ⟨active, rfl⟩
  · have free := acquirable.unexpired row stored target (by rw [unresolved]; rfl)
    exact absurd (free.1.symm.trans unresolved) (by decide)
  · have free := acquirable.unexpired row stored target (by rw [active]; rfl)
    rcases overdue now clock with unresolved | ⟨_, late⟩
    · exact absurd (active.symm.trans unresolved) (by decide)
    · exact absurd free.2 (Nat.not_lt.mpr late)

/-- In every run of any plans and clocks the leases that hold a target are exclusive; a lease is
acquired only where every lease that holds its target is active and unexpired; later acquisitions
have greater tokens; and a target with an expired lease is acquired by nobody, as long as no clock
reading is before the expiry of a lease not yet marked, until that lease is reconciled. -/
theorem target_lease_exclusivity (sha : Sha256) (actions : List TargetLeaseAction) :
    Exclusive ((machine sha).run .initial actions) ∧
    (∀ x ∈ (machine sha).steps .initial actions, ∀ lease, Acquires x lease →
      ∃ now, x.action.now = some now ∧ Acquirable x.before lease now) ∧
    ((machine sha).steps .initial actions).Pairwise (fun x y => ∀ earlier later,
      Acquires x earlier → Acquires y later → earlier.fencingToken < later.fencingToken) ∧
    ∀ first later, actions = first ++ later →
      ∀ lease ∈ ((machine sha).run .initial first).leases.rows,
        lease.state.held = true →
        (∀ action ∈ later, (∀ now, action.now = some now → lease.Overdue now) ∧
          action.reconciled ≠ some lease.leaseId) →
        ∀ x ∈ (machine sha).steps ((machine sha).run .initial first) later, ∀ next,
          Acquires x next → next.target ≠ lease.target := by
  have isStep : ∀ x ∈ (machine sha).steps .initial actions,
      x.after = step sha x.before x.action := (machine sha).after_of_steps .initial actions
  refine ⟨?_, ?_, ?_, ?_⟩
  · have keep : ∀ db action, Exclusive db → Exclusive ((machine sha).step db action) :=
      fun _ action inv => exclusive_step sha inv action
    exact (machine sha).run_invariant_all keep exclusive_initial actions
  · rintro ⟨before, action, after⟩ member lease acquires
    obtain rfl : after = step sha before action := isStep _ member
    obtain ⟨now, clock, acquirable, _⟩ := acquirable_of_acquires acquires
    exact ⟨now, clock, acquirable⟩
  · -- The counter after an acquisition is its token, and a later token is above the counter.
    refine (machine sha).steps_pairwise_all
      (fun x db => ∀ lease, Acquires x lease → lease.fencingToken ≤ db.fencingCounter) ?_ ?_ ?_
      .initial actions
    · intro db action lease acquires
      obtain ⟨_, _, _, token⟩ := acquirable_of_acquires acquires
      exact Nat.le_of_eq token.symm
    · intro x db action recorded lease acquires
      exact (recorded lease acquires).trans (counter_step sha db action)
    · intro x db action recorded earlier later first second
      have below := recorded earlier first
      obtain ⟨_, _, acquirable, _⟩ := acquirable_of_acquires second
      have token := acquirable.token
      show earlier.fencingToken < later.fencingToken
      omega
  · intro first later split lease stored held allowed x member next acquires
    have start : HeldOverdue lease ((machine sha).run .initial first) := by
      refine ⟨lease, stored, rfl, ?_⟩
      cases state : lease.state with
      | active => exact Or.inr ⟨rfl, rfl⟩
      | reconciliationRequired => exact Or.inl rfl
      | released => exact absurd held (by rw [state]; decide)
    have obeys := (machine sha).obeys_of_mem allowed ((machine sha).run .initial first)
    have keep : ∀ db action, HeldOverdue lease db →
        ((∀ now, action.now = some now → lease.Overdue now) ∧
          action.reconciled ≠ some lease.leaseId) →
        HeldOverdue lease ((machine sha).step db action) :=
      fun _ _ holds condition => heldOverdue_step sha holds condition.1 condition.2
    obtain ⟨holds, condition, same⟩ := (machine sha).steps_invariant keep start obeys x member
    obtain ⟨before, action, after⟩ := x
    obtain rfl : after = step sha before action := same
    exact not_acquires_of_heldOverdue holds condition.1 acquires

/-- Two alternatives of one plan hold a target; a second automatic one and another plan do not. -/
example :
    let repository : RepositoryIdentity := ⟨1, fun path => .ok path.length⟩
    let acquire (plan member : Digest) (automatic : Bool) (now : Timestamp) : TargetLeaseAction :=
      .acquire repository plan member "a.py" (some "pair") automatic 60 now
    ((machine foldDigest).run .initial
      [acquire 5 1 true 0, acquire 5 2 false 1, acquire 5 3 true 2, acquire 6 4 false 3]).leases.rows.map
        (·.memberDigest) = [1, 2] := by
  decide +kernel

end TargetLeaseDb

end Macr
