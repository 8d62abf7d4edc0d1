import Macr.Lib.Sum
import Macr.Queue.Store

/-!
# What a queue transaction does to the members

Every transaction leaves the members alone, adds waiting ones, marks the expired claims, hands out
one claim, or rewrites one member: the holder of its claim works on it, or its reconciliation is
resolved. What the queue guarantees of its members is proved of these effects.
-/

namespace Macr

open Lib

/-- The member is claimed under the key. -/
structure QueueMemberRow.HeldUnder (row : QueueMemberRow) (key : ClaimKey) : Prop where
  /-- It is the key's member. -/
  member : row.memberId = key.memberId
  /-- It is claimed. -/
  claimed : row.state = .claimed
  /-- By the key's dispatcher. -/
  holder : row.leaseHolder = some key.dispatcherId
  /-- Under the key's token. -/
  token : row.fencingToken = some key.fencingToken

/-- The lease of the member has not run out. -/
def QueueMemberRow.Live (row : QueueMemberRow) (now : Timestamp) : Prop :=
  ∃ expiresAt, row.leaseExpiresAt = some expiresAt ∧ now < expiresAt

/-- The call that ends a member in a terminal state. -/
def QueueCall.ending (call : QueueCall) : Option (QueueMemberState × ClaimKey) :=
  match call with
  | .complete key _ _ => some (.completed, key)
  | .fail key _ _ => some (.failed, key)
  | _ => none

/-- The key a call presents. -/
def QueueCall.presented (call : QueueCall) : Option ClaimKey :=
  match call with
  | .renew key _ => some key
  | .releaseBeforeDispatch key => some key
  | .complete key _ _ => some key
  | .fail key _ _ => some key
  | .requireReconciliation key _ _ => some key
  | _ => none

namespace QueueDb

/-- What a call under a key does to the columns of its member. -/
inductive Work (now : Timestamp) (call : QueueCall) (key : ClaimKey) (row : QueueMemberRow) :
    QueueMemberProgress → Prop
  /-- The lease is renewed. -/
  | renewed (expiresAt : Timestamp) (live : row.Live now) :
      Work now call key row { row.toQueueMemberProgress with leaseExpiresAt := some expiresAt }
  /-- The member is released. -/
  | released (live : row.Live now) (called : call = .releaseBeforeDispatch key) :
      Work now call key row { row.toQueueMemberProgress with
        state := .queued
        leaseHolder := none
        fencingToken := none
        leaseExpiresAt := none
        attempts := 0 }
  /-- The lease is found expired. -/
  | expired (overdue : ¬row.Live now) :
      Work now call key row { row.toQueueMemberProgress with
        state := .reconciliationRequired, terminalAt := some now }
  /-- The attempt has ended. -/
  | ended (state : QueueMemberState) (evidence : Digest) (amount : ℚ) (live : row.Live now)
      (called : call.ending = some (state, key)) (terminal : state.terminal = true)
      (within : amount ≤ row.scope.costCeilingUsd + costTolerance) :
      Work now call key row (endedColumns row state evidence (some amount) now)
  /-- The attempt needs a reconciliation. -/
  | reconciled (evidence : Digest) (cost : Option ℚ) :
      Work now call key row (endedColumns row .reconciliationRequired evidence cost now)

/-- The claim of a queued member. -/
structure ClaimMade (db after : QueueDb) (now : Timestamp) (row : QueueMemberRow)
    (batch : PlanQueueBatchRow) (claim : QueueClaim) : Prop where
  /-- The member is stored. -/
  stored : db.member? row.memberId = some row
  /-- It is queued. -/
  queued : row.state = .queued
  /-- The batch is its plan's. -/
  batched : db.batches.find? row.planDigest = some batch
  /-- The batch pays for it. -/
  fits : db.reservedOf row.planDigest + row.scope.costCeilingUsd ≤
    batch.aggregateCostCeilingUsd + costTolerance
  /-- The claim is of the member, under the next token. -/
  handed : claim.toQueueMemberIdentity = row.toQueueMemberIdentity ∧
    claim.fencingToken = db.fencingCounter + 1
  /-- The claimer is named. -/
  named : isIdentifier claim.dispatcherId = true
  /-- The claim is written. -/
  written : after = { db.updateMember row.memberId
    (claimedColumns · claim.dispatcherId claim.fencingToken claim.leaseExpiresAt) with
      fencingCounter := db.fencingCounter + 1 }

/-- What one transaction does. -/
inductive MemberEffect (db : QueueDb) (now : Timestamp) (call : QueueCall) (after : QueueDb) :
    Option QueueClaim → Prop
  /-- Nothing to the members. -/
  | kept (members : after.members = db.members) (batches : after.batches = db.batches)
      (counter : db.fencingCounter ≤ after.fencingCounter) : MemberEffect db now call after none
  /-- Waiting members are added. -/
  | enqueued (rows : List QueueMemberRow)
      (waiting : ∀ row ∈ rows, row.toQueueMemberProgress = .waiting)
      (members : after.members.rows = db.members.rows ++ rows)
      (counter : after.fencingCounter = db.fencingCounter) : MemberEffect db now call after none
  /-- The expired claims are marked. -/
  | marked (written : after = db.markExpiredClaims now) : MemberEffect db now call after none
  /-- A claim is handed out. -/
  | claimed (row : QueueMemberRow) (batch : PlanQueueBatchRow) (claim : QueueClaim)
      (made : ClaimMade db after now row batch claim) : MemberEffect db now call after (some claim)
  /-- The holder of a claim works on its member. -/
  | worked (key : ClaimKey) (row : QueueMemberRow) (progress : QueueMemberProgress)
      (stored : db.member? key.memberId = some row) (held : row.HeldUnder key)
      (presented : call.presented = some key) (work : Work now call key row progress)
      (written : after = db.updateMember key.memberId (fun _ => progress)) :
      MemberEffect db now call after none
  /-- A reconciliation is resolved. -/
  | resolved (memberId : Digest) (row : QueueMemberRow) (state : QueueMemberState)
      (evidence : Digest) (observedCost : CostArgument) (amount : ℚ)
      (called : call = .resolveMember memberId state evidence observedCost)
      (stored : db.member? memberId = some row) (terminal : state.terminal = true)
      (required : row.state = .reconciliationRequired)
      (written : after =
        db.updateMember memberId (fun _ => endedColumns row state evidence (some amount) now)) :
      MemberEffect db now call after none

variable {sha : Sha256} {db after : QueueDb} {now : Timestamp} {call : QueueCall}
  {answer : Except MacrError (Option QueueClaim)}

/-! ## Rows after an update -/

/-- The stored row of a member has its key. -/
theorem memberId_of_member {memberId : Digest} {row : QueueMemberRow}
    (stored : db.member? memberId = some row) : row.memberId = memberId :=
  ((db.members.find?_eq_some memberId row).mp stored).2

/-- The stored row of a member is in the table. -/
theorem mem_of_member {memberId : Digest} {row : QueueMemberRow}
    (stored : db.member? memberId = some row) : row ∈ db.members.rows :=
  ((db.members.find?_eq_some memberId row).mp stored).1

/-- A row of the table is the stored row of its key. -/
theorem member_of_mem {row : QueueMemberRow} (stored : row ∈ db.members.rows) :
    db.member? row.memberId = some row :=
  db.members.find?_self stored

/-- A member after an update is assigned when it met the condition. -/
theorem member_updateMembers (db : QueueDb) (condition : QueueMemberRow → Bool)
    (assign : QueueMemberRow → QueueMemberProgress) (memberId : Digest) :
    (db.updateMembers condition assign).member? memberId = (db.member? memberId).map (fun row =>
      if condition row then row.write (assign row) else row) :=
  db.members.find?_update condition (fun row => row.write (assign row)) (fun _ => rfl) memberId

/-- An updated member is found assigned, and every other one as it was. -/
theorem member_updateMember (db : QueueDb) (memberId other : Digest)
    (assign : QueueMemberRow → QueueMemberProgress) :
    (db.updateMember memberId assign).member? other =
      if other = memberId then
        (db.member? other).map (fun row => row.write (assign row))
      else db.member? other := by
  unfold updateMember
  rw [member_updateMembers]
  cases stored : db.member? other with
  | none => simp
  | some row =>
    have same : row.memberId = other := memberId_of_member stored
    by_cases chosen : other = memberId
    · simp [same, chosen]
    · simp [same, chosen]

/-- On one member an assignment may be given as what it assigns. -/
theorem updateMember_const {memberId : Digest} {row : QueueMemberRow}
    (stored : db.member? memberId = some row) (assign : QueueMemberRow → QueueMemberProgress) :
    db.updateMember memberId assign = db.updateMember memberId (fun _ => assign row) := by
  have members : (db.updateMember memberId assign).members =
      (db.updateMember memberId (fun _ => assign row)).members := by
    apply Table.ext_rows
    apply List.map_congr_left
    intro other member
    by_cases chosen : other.memberId = memberId
    · have same : db.member? other.memberId = some other := member_of_mem member
      rw [chosen, stored] at same
      have equal : row = other := Option.some.inj same
      simp [equal]
    · simp [chosen]
  exact congrArg (fun members => { db with members := members }) members

/-- A condition on one member's row that its stored row meets is met by a stored row. -/
theorem member_of_countP {memberId : Digest} {condition : QueueMemberRow → Prop}
    [DecidablePred condition]
    (one : db.members.rows.countP (fun row => row.memberId = memberId ∧ condition row) = 1) :
    ∃ row, db.member? memberId = some row ∧ condition row := by
  have some_row : 0 < db.members.rows.countP (fun row => row.memberId = memberId ∧ condition row) := by
    omega
  obtain ⟨row, member, met⟩ := List.countP_pos_iff.mp some_row
  have both : row.memberId = memberId ∧ condition row := by simpa using met
  refine ⟨row, ?_, both.2⟩
  rw [← both.1]
  exact member_of_mem member

/-! ## Effects of the transactions -/

/-- The claim in an answer. -/
def handedOut : Except MacrError (Option QueueClaim) → Option QueueClaim
  | .ok claim => claim
  | .error _ => none

/-- The claim a step hands out. -/
def claimOf (sha : Sha256) (db : QueueDb) (action : QueueAction) : Option QueueClaim :=
  handedOut (db.execute sha action).2

/-- A quiet transaction commits what it commits and hands out no claim. -/
theorem quiet_eq_ok {α : Type} {result : Except MacrError (Committed QueueDb α)}
    {committed : Committed QueueDb (Option QueueClaim)} (done : quiet result = .ok committed) :
    (∃ value, result = .ok (committed.1, value)) ∧ handedOut committed.2 = none := by
  unfold quiet at done
  rw [except_map_eq_ok] at done
  obtain ⟨⟨state, value⟩, done, rfl⟩ := done
  refine ⟨⟨value, done⟩, ?_⟩
  cases value <;> rfl

/-- A transaction on the authorities leaves the members. -/
theorem kept_of_onAuthorities {α : Type} {value : Except MacrError α}
    {result : Except MacrError (Committed BatchAuthorities α)}
    (done : db.onAuthorities result = .ok (after, value)) : MemberEffect db now call after none := by
  unfold onAuthorities at done
  rw [except_map_eq_ok] at done
  obtain ⟨committed, _, same⟩ := done
  have same := (Prod.mk.inj same).1
  subst same
  exact .kept rfl rfl (le_refl _)

/-- The insertions of a plan append its rows. -/
theorem rows_of_insertMembers {rows : List QueueMemberRow}
    (done : rows.foldlM insertMember db = .ok after) :
    after.members.rows = db.members.rows ++ rows ∧
      after.fencingCounter = db.fencingCounter := by
  induction rows generalizing db with
  | nil =>
    rw [List.foldlM_nil, pure_eq_ok] at done
    simp [done]
  | cons row rest ih =>
    rw [List.foldlM_cons, bind_eq_ok] at done
    obtain ⟨next, inserted, later⟩ := done
    simp only [insertMember, bind_eq_ok, raiseIf_eq_ok, require_eq_ok, exists_const,
      pure_eq_ok] at inserted
    obtain ⟨_, members, added, rfl⟩ := inserted
    obtain ⟨fresh, rfl⟩ := (db.members.insert?_eq_some _ _).mp added
    obtain ⟨appended, counter⟩ := ih later
    constructor
    · rw [appended]
      simp
    · exact counter

/-- Queueing a plan adds waiting members or none. -/
theorem effect_of_enqueue {plan : T1QueuePlan} {scope : BatchScope}
    {value : Except MacrError (List Digest)}
    (done : db.enqueue sha plan scope now = .ok (after, value)) :
    MemberEffect db now call after none := by
  unfold enqueue at done
  split at done
  · simp only [bind_eq_ok, raiseIf_eq_ok, exists_const, commit_eq_ok] at done
    have same := (Prod.mk.inj done.2).1
    subst same
    exact .kept rfl rfl (le_refl _)
  · simp only [bind_eq_ok, raiseIf_eq_ok, require_eq_ok, exists_const, commit_eq_ok] at done
    obtain ⟨_, batches, _, next, inserted, same⟩ := done
    have same := (Prod.mk.inj same).1
    subst same
    obtain ⟨appended, counter⟩ := rows_of_insertMembers inserted
    refine .enqueued _ ?_ appended counter
    intro row member
    obtain ⟨index, bound, rfl⟩ := List.mem_mapIdx.mp member
    rfl

/-- A selected row is one of the rows, with its batch. -/
theorem mem_of_selectRow {dispatcherId : String} {clock : Nat → Timestamp} {last : MacrError}
    {reading : Nat} {rows : List (QueueMemberRow × PlanQueueBatchRow)}
    {found : QueueMemberRow × PlanQueueBatchRow}
    (done : selectRow sha db dispatcherId clock last reading rows = .ok found) : found ∈ rows := by
  induction rows generalizing last reading with
  | nil => exact absurd done (by simp [selectRow])
  | cons head rest ih =>
    unfold selectRow at done
    split at done
    · exact List.mem_cons_of_mem head (ih done)
    · exact absurd done (by simp)
    · simp only [bind_eq_ok, raiseIf_eq_ok, exists_const, pure_eq_ok] at done
      rw [← done.2.2]
      exact List.mem_cons_self

/-- A queued row of a plan is stored, queued, and beside its batch. -/
theorem queued_of_queuedRows {planDigest : Option Digest} {row : QueueMemberRow}
    {batch : PlanQueueBatchRow} (member : (row, batch) ∈ db.queuedRows planDigest) :
    row ∈ db.members.rows ∧ row.state = .queued ∧ db.batches.find? row.planDigest = some batch := by
  unfold queuedRows at member
  obtain ⟨other, sorted, paired⟩ := List.mem_filterMap.mp member
  rw [Option.map_eq_some_iff] at paired
  obtain ⟨found, batched, same⟩ := paired
  obtain ⟨rfl, rfl⟩ := Prod.mk.inj same
  rw [List.mem_insertionSort, List.mem_filter] at sorted
  simp only [decide_eq_true_eq] at sorted
  exact ⟨sorted.1, sorted.2.1, batched⟩

/-- A claim hands out the selected member, or nothing. -/
theorem effect_of_claim {dispatcherId : String} {leaseSeconds : Int}
    {planDigest expectedMemberId : Option Digest} {clock : Nat → Timestamp}
    (done : db.claim sha dispatcherId leaseSeconds planDigest expectedMemberId now clock =
      .ok (after, answer)) :
    ∃ claim, answer = .ok claim ∧ MemberEffect db now call after claim := by
  simp only [claim, bind_eq_ok] at done
  obtain ⟨dispatcher, checked, ttl, _, done⟩ := done
  simp only [checkDispatcher, bind_eq_ok, raiseIf_eq_ok, exists_const, pure_eq_ok, not_not]
    at checked
  obtain ⟨named, rfl⟩ := checked
  split at done
  · rw [commit_eq_ok] at done
    obtain ⟨rfl, rfl⟩ := Prod.mk.inj done
    exact ⟨none, rfl, .kept rfl rfl (le_refl _)⟩
  · rw [bind_eq_ok] at done
    obtain ⟨⟨row, batch⟩, selected, done⟩ := done
    obtain ⟨member, queued, batched⟩ := queued_of_queuedRows (mem_of_selectRow selected)
    simp only at done
    split at done
    · rw [commit_eq_ok] at done
      obtain ⟨rfl, rfl⟩ := Prod.mk.inj done
      exact ⟨none, rfl, .kept rfl rfl (le_refl _)⟩
    · simp only [claimRow, bind_eq_ok, raiseIf_eq_ok, exists_const, commit_eq_ok] at done
      obtain ⟨fits, _, done⟩ := done
      obtain ⟨rfl, rfl⟩ := Prod.mk.inj done
      refine ⟨_, rfl, .claimed row batch _ ?_⟩
      exact ⟨member_of_mem member, queued, batched, Rat.not_lt.mp fits, ⟨rfl, rfl⟩, named, rfl⟩

/-- The row of a call under a key is the stored row the key holds. -/
theorem held_of_claimedRow {key : ClaimKey} {notClaimed : String} {row : QueueMemberRow}
    (done : db.claimedRow key notClaimed = .ok row) :
    db.member? key.memberId = some row ∧ row.HeldUnder key := by
  simp only [claimedRow, readMember, bind_eq_ok, raiseIf_eq_ok, require_eq_ok, exists_const,
    pure_eq_ok] at done
  obtain ⟨_, found, stored, claimed, held, rfl⟩ := done
  rw [not_not] at claimed
  rw [not_or, not_not, not_not] at held
  exact ⟨stored, memberId_of_member stored, claimed, held.1, held.2⟩

/-- A lease is live exactly before its expiry. -/
theorem live_iff {row : QueueMemberRow} {expiresAt : Timestamp}
    (read : leaseExpiry row = .ok expiresAt) : row.Live now ↔ ¬expiresAt ≤ now := by
  unfold leaseExpiry at read
  rw [require_eq_ok] at read
  unfold QueueMemberRow.Live
  rw [read]
  simp

/-- A call under a key works on its member. -/
theorem worked_of_update {key : ClaimKey} {notClaimed : String} {row : QueueMemberRow}
    {assign : QueueMemberRow → QueueMemberProgress}
    (found : db.claimedRow key notClaimed = .ok row) (presented : call.presented = some key)
    (work : Work now call key row (assign row)) :
    MemberEffect db now call (db.updateMember key.memberId assign) none := by
  obtain ⟨stored, held⟩ := held_of_claimedRow found
  exact .worked key row (assign row) stored held presented work (updateMember_const stored assign)

/-- Renewing works on the member. -/
theorem effect_of_renew {key : ClaimKey} {leaseSeconds : Int}
    {value : Except MacrError QueueClaim}
    (done : db.renew key leaseSeconds now = .ok (after, value)) :
    MemberEffect db now (.renew key leaseSeconds) after none := by
  simp only [renew, bind_eq_ok] at done
  obtain ⟨dispatcher, _, ttl, _, row, found, expiresAt, read, done⟩ := done
  by_cases overdue : expiresAt ≤ now
  · rw [if_pos overdue, commitRaise_eq_ok] at done
    obtain ⟨rfl, _⟩ := Prod.mk.inj done
    exact worked_of_update found rfl (.expired (fun live => (live_iff read).mp live overdue))
  · rw [if_neg overdue, commit_eq_ok] at done
    obtain ⟨rfl, _⟩ := Prod.mk.inj done
    exact worked_of_update found rfl (.renewed _ ((live_iff read).mpr overdue))

/-- Releasing works on the member. -/
theorem effect_of_release {key : ClaimKey} {value : Except MacrError Unit}
    (done : db.releaseBeforeDispatch key now = .ok (after, value)) :
    MemberEffect db now (.releaseBeforeDispatch key) after none := by
  simp only [releaseBeforeDispatch, bind_eq_ok] at done
  obtain ⟨dispatcher, _, row, found, expiresAt, read, done⟩ := done
  by_cases overdue : expiresAt ≤ now
  · rw [if_pos overdue, commitRaise_eq_ok] at done
    obtain ⟨rfl, _⟩ := Prod.mk.inj done
    exact worked_of_update found rfl (.expired (fun live => (live_iff read).mp live overdue))
  · rw [if_neg overdue, commit_eq_ok] at done
    obtain ⟨rfl, _⟩ := Prod.mk.inj done
    exact worked_of_update found rfl (.released ((live_iff read).mpr overdue) rfl)

/-- Ending an attempt works on the member. -/
theorem effect_of_terminal {state : QueueMemberState} {key : ClaimKey} {evidence : Digest}
    {observedCost : Option CostArgument} {value : Except MacrError Unit}
    (ending : call.ending = some (state, key)) (presented : call.presented = some key)
    (done : db.terminal state key evidence observedCost now = .ok (after, value)) :
    MemberEffect db now call after none := by
  simp only [terminal, bind_eq_ok, raiseIf_eq_ok, exists_const, not_not] at done
  obtain ⟨terminal, dispatcher, _, cost, _, row, found, expiresAt, read, done⟩ := done
  by_cases overdue : expiresAt ≤ now
  · rw [if_pos overdue, commitRaise_eq_ok] at done
    obtain ⟨rfl, _⟩ := Prod.mk.inj done
    exact worked_of_update found presented (.reconciled evidence cost)
  · rw [if_neg overdue, bind_eq_ok] at done
    obtain ⟨amount, known, done⟩ := done
    rw [require_eq_ok] at known
    subst known
    by_cases exceeds : amount > row.scope.costCeilingUsd + costTolerance
    · rw [if_pos exceeds, commitRaise_eq_ok] at done
      obtain ⟨rfl, _⟩ := Prod.mk.inj done
      exact worked_of_update found presented (.reconciled evidence (some amount))
    · rw [if_neg exceeds, commit_eq_ok] at done
      obtain ⟨rfl, _⟩ := Prod.mk.inj done
      exact worked_of_update found presented (.ended state evidence amount
        ((live_iff read).mpr overdue) ending terminal (Rat.not_lt.mp exceeds))

/-- Requiring a reconciliation works on the member. -/
theorem effect_of_requireReconciliation {key : ClaimKey} {evidence : Digest}
    {observedCost : Option CostArgument} {value : Except MacrError Unit}
    (done : db.requireReconciliation key evidence observedCost now = .ok (after, value)) :
    MemberEffect db now (.requireReconciliation key evidence observedCost) after none := by
  simp only [requireReconciliation, bind_eq_ok] at done
  obtain ⟨dispatcher, _, cost, _, row, found, expiresAt, read, done⟩ := done
  have same : after =
      db.updateMember key.memberId (endedColumns · .reconciliationRequired evidence cost now) := by
    split at done
    · rw [commitRaise_eq_ok] at done
      exact (Prod.mk.inj done).1
    · rw [commit_eq_ok] at done
      exact (Prod.mk.inj done).1
  subst same
  exact worked_of_update found rfl (.reconciled evidence cost)

/-- Resolving ends a member that needs a reconciliation. -/
theorem effect_of_resolveMember {memberId : Digest} {state : QueueMemberState}
    {evidence : Digest} {observedCost : CostArgument} {value : Except MacrError Unit}
    (done : db.resolveMember memberId state evidence observedCost now = .ok (after, value)) :
    MemberEffect db now (.resolveMember memberId state evidence observedCost) after none := by
  simp only [resolveMember, bind_eq_ok, raiseIf_eq_ok, exists_const, not_not, commit_eq_ok] at done
  obtain ⟨terminal, cost, _, one, done⟩ := done
  obtain ⟨rfl, _⟩ := Prod.mk.inj done
  obtain ⟨row, stored, required⟩ := member_of_countP one
  exact .resolved memberId row state evidence observedCost cost rfl stored terminal required
    (updateMember_const stored _)

/-- A transaction that commits has one of the effects. -/
theorem effect_of_perform (done : db.perform sha now call = .ok (after, answer)) :
    MemberEffect db now call after (handedOut answer) := by
  have silent : ∀ {α : Type} {result : Except MacrError (Committed QueueDb α)},
      quiet result = .ok (after, answer) →
      (∀ value, result = .ok (after, value) → MemberEffect db now call after none) →
      MemberEffect db now call after (handedOut answer) := by
    intro α result committed effect
    obtain ⟨⟨value, done⟩, nothing⟩ := quiet_eq_ok committed
    have nothing : handedOut answer = none := nothing
    rw [nothing]
    exact effect value done
  cases call with
  | issueAuthority scope authorityId => exact silent done fun _ => kept_of_onAuthorities
  | revokeAuthority reference => exact silent done fun _ => kept_of_onAuthorities
  | enqueue plan scope => exact silent done fun _ => effect_of_enqueue
  | markExpiredClaims =>
    obtain ⟨rfl, rfl⟩ := Prod.mk.inj (commit_eq_ok.mp done)
    exact .marked rfl
  | claim dispatcherId leaseSeconds planDigest expectedMemberId clock =>
    obtain ⟨claim, rfl, effect⟩ := effect_of_claim done
    exact effect
  | renew key leaseSeconds => exact silent done fun _ => effect_of_renew
  | releaseBeforeDispatch key => exact silent done fun _ => effect_of_release
  | complete key evidence observedCost =>
    exact silent done fun _ => effect_of_terminal rfl rfl
  | fail key evidence observedCost => exact silent done fun _ => effect_of_terminal rfl rfl
  | requireReconciliation key evidence observedCost =>
    exact silent done fun _ => effect_of_requireReconciliation
  | resolveMember memberId terminalState evidence observedCost =>
    exact silent done fun _ => effect_of_resolveMember
  | drawToken =>
    obtain ⟨rfl, rfl⟩ := Prod.mk.inj (commit_eq_ok.mp done)
    exact .kept rfl rfl (Nat.le_succ _)

/-- Every step has one of the effects, with the claim it hands out. -/
theorem effect_of_step (sha : Sha256) (db : QueueDb) (action : QueueAction) :
    MemberEffect db action.now action.call ((machine sha).step db action)
      (claimOf sha db action) := by
  show MemberEffect db action.now action.call (db.execute sha action).1
    (handedOut (db.execute sha action).2)
  unfold execute
  by_cases stopped : action.interrupted = true
  · rw [if_pos stopped]
    exact .kept rfl rfl (le_refl _)
  · rw [if_neg stopped]
    cases done : db.perform sha action.now action.call with
    | error raised => exact .kept rfl rfl (le_refl _)
    | ok committed => exact effect_of_perform done

/-! ## What becomes of one member -/

/-- What one transaction does to a stored member. -/
inductive MemberChange (now : Timestamp) (call : QueueCall) (row : QueueMemberRow) :
    Option QueueClaim → QueueMemberRow → Prop
  /-- Nothing. -/
  | same (claim : Option QueueClaim) : MemberChange now call row claim row
  /-- Its claim is marked as expired. -/
  | marked (overdue : expired now row = true) : MemberChange now call row none
      (row.write { row.toQueueMemberProgress with
        state := .reconciliationRequired, terminalAt := some now })
  /-- It is claimed. -/
  | claimed (claim : QueueClaim) (member : claim.memberId = row.memberId)
      (queued : row.state = .queued) : MemberChange now call row (some claim)
        (row.write (claimedColumns row claim.dispatcherId claim.fencingToken claim.leaseExpiresAt))
  /-- Its holder works on it. -/
  | worked (key : ClaimKey) (progress : QueueMemberProgress) (held : row.HeldUnder key)
      (presented : call.presented = some key) (work : Work now call key row progress) :
      MemberChange now call row none (row.write progress)
  /-- Its reconciliation is resolved. -/
  | resolved (state : QueueMemberState) (evidence : Digest) (observedCost : CostArgument)
      (amount : ℚ) (called : call = .resolveMember row.memberId state evidence observedCost)
      (terminal : state.terminal = true) (required : row.state = .reconciliationRequired) :
      MemberChange now call row none (row.write (endedColumns row state evidence (some amount) now))

/-- A stored member is still stored after a transaction, changed in one of these ways. -/
theorem change_of_effect {claim : Option QueueClaim} (effect : MemberEffect db now call after claim)
    {memberId : Digest} {row : QueueMemberRow} (stored : db.member? memberId = some row) :
    ∃ next, after.member? memberId = some next ∧ MemberChange now call row claim next := by
  have key : row.memberId = memberId := memberId_of_member stored
  cases effect with
  | kept members batches counter =>
    refine ⟨row, ?_, .same none⟩
    unfold member?
    rw [members]
    exact stored
  | enqueued rows waiting members counter =>
    refine ⟨row, ?_, .same none⟩
    have inside : row ∈ after.members.rows := by
      rw [members]
      exact List.mem_append_left _ (mem_of_member stored)
    rw [← key]
    exact member_of_mem inside
  | marked written =>
    have found := member_updateMembers db (expired now) (fun row =>
      { row.toQueueMemberProgress with state := .reconciliationRequired, terminalAt := some now })
      memberId
    rw [stored, Option.map_some] at found
    refine ⟨_, by rw [written]; exact found, ?_⟩
    by_cases overdue : expired now row = true
    · rw [if_pos overdue]
      exact .marked overdue
    · rw [if_neg overdue]
      exact .same none
  | claimed other batch claim made =>
    have found := member_updateMember db other.memberId memberId
      (claimedColumns · claim.dispatcherId claim.fencingToken claim.leaseExpiresAt)
    rw [stored, Option.map_some] at found
    refine ⟨_, by rw [made.written]; exact found.trans (apply_ite some _ _ _).symm, ?_⟩
    by_cases chosen : memberId = other.memberId
    · rw [if_pos chosen]
      have same := made.stored
      rw [← chosen, stored] at same
      have equal : row = other := Option.some.inj same
      apply MemberChange.claimed
      · rw [made.handed.1, equal]
      · rw [equal]
        exact made.queued
    · rw [if_neg chosen]
      exact .same _
  | worked claimKey other progress found held presented work written =>
    have moved := member_updateMember db claimKey.memberId memberId (fun _ => progress)
    rw [stored, Option.map_some] at moved
    refine ⟨_, by rw [written]; exact moved.trans (apply_ite some _ _ _).symm, ?_⟩
    by_cases chosen : memberId = claimKey.memberId
    · rw [if_pos chosen]
      rw [← chosen, stored] at found
      have equal : row = other := Option.some.inj found
      rw [← equal] at held work
      exact .worked claimKey progress held presented work
    · rw [if_neg chosen]
      exact .same _
  | resolved resolvedId other state evidence observedCost amount called found terminal required
      written =>
    have moved := member_updateMember db resolvedId memberId
      (fun _ => endedColumns other state evidence (some amount) now)
    rw [stored, Option.map_some] at moved
    refine ⟨_, by rw [written]; exact moved.trans (apply_ite some _ _ _).symm, ?_⟩
    by_cases chosen : memberId = resolvedId
    · rw [if_pos chosen]
      rw [← chosen, stored] at found
      have equal : row = other := Option.some.inj found
      rw [← chosen, ← key] at called
      rw [← equal] at required ⊢
      exact .resolved state evidence observedCost amount called terminal required
    · rw [if_neg chosen]
      exact .same _

/-- A member that a transaction adds waits for its first claim. -/
theorem waiting_of_effect {claim : Option QueueClaim}
    (effect : MemberEffect db now call after claim) {memberId : Digest} {next : QueueMemberRow}
    (absent : db.member? memberId = none) (stored : after.member? memberId = some next) :
    next.toQueueMemberProgress = .waiting := by
  have updated : ∀ {condition : QueueMemberRow → Bool}
      {assign : QueueMemberRow → QueueMemberProgress},
      (db.updateMembers condition assign).member? memberId ≠ some next := by
    intro condition assign
    rw [member_updateMembers, absent]
    exact nofun
  cases effect with
  | kept members batches counter =>
    unfold member? at absent stored
    rw [members, absent] at stored
    exact absurd stored nofun
  | enqueued rows waiting members counter =>
    have inside : next ∈ db.members.rows ++ rows := members ▸ mem_of_member stored
    rcases List.mem_append.mp inside with old | new
    · have found := member_of_mem old
      rw [memberId_of_member stored, absent] at found
      exact absurd found nofun
    · exact waiting next new
  | marked written => exact absurd (written ▸ stored) updated
  | claimed row batch claim made => exact absurd (made.written ▸ stored) updated
  | worked key row progress found held presented work written =>
    exact absurd (written ▸ stored) updated
  | resolved resolvedId row state evidence observedCost amount called found terminal required
      written => exact absurd (written ▸ stored) updated

end QueueDb

end Macr
