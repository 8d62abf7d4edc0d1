import Macr.Queue.Budget

/-!
# Fenced ownership of queue members

A member is worked on under the key of its stored claim and before that claim's expiry. Tokens
only grow, so the key of an older claim never fits again; a claim that was found expired leaves
its member to a reconciliation.
-/

namespace Macr

open Lib

/-- The amount a `complete` or `fail` reports. -/
def QueueCall.observedCost : QueueCall → Option CostArgument
  | .complete _ _ observedCost => observedCost
  | .fail _ _ observedCost => observedCost
  | _ => none

namespace QueueDb

variable {sha : Sha256} {db after : QueueDb} {now : Timestamp} {call : QueueCall}

/-! ## Tokens and leases -/

/-- Stored tokens have been issued, and a claimed member has a lease. -/
structure Leased (db : QueueDb) : Prop where
  /-- A stored token has been issued. -/
  issued : ∀ memberId row, db.member? memberId = some row → ∀ token ∈ row.fencingToken,
    1 ≤ token ∧ token ≤ db.fencingCounter
  /-- A claimed member has an expiry, and its holder is named. -/
  claimed : ∀ memberId row, db.member? memberId = some row → row.state = .claimed →
    (∃ expiresAt, row.leaseExpiresAt = some expiresAt) ∧
      ∀ holder ∈ row.leaseHolder, isIdentifier holder = true

/-- A claim that is handed out was made. -/
theorem made_of_effect {claim : QueueClaim} (effect : MemberEffect db now call after (some claim)) :
    ∃ row batch, ClaimMade db after now row batch claim := by
  cases effect with
  | claimed row batch claim made => exact ⟨row, batch, made⟩

/-- No transaction lowers the counter. -/
theorem counter_of_effect {claim : Option QueueClaim}
    (effect : MemberEffect db now call after claim) : db.fencingCounter ≤ after.fencingCounter := by
  cases effect with
  | kept members batches counter => exact counter
  | enqueued rows waiting members counter => exact counter.ge
  | marked written => rw [written]; exact le_refl _
  | claimed row batch claim made => rw [made.written]; exact Nat.le_succ _
  | worked key row progress stored held presented work written => rw [written]; exact le_refl _
  | resolved memberId row state evidence observedCost amount called stored terminal required
      written => rw [written]; exact le_refl _

/-- A token after a change was there before, or is that of the new claim. -/
theorem token_of_change {row next : QueueMemberRow} {claim : Option QueueClaim}
    (change : MemberChange now call row claim next) {token : Nat}
    (stored : next.fencingToken = some token) :
    row.fencingToken = some token ∨
      ∃ made, claim = some made ∧ made.memberId = row.memberId ∧ token = made.fencingToken := by
  cases change with
  | same claim => exact .inl stored
  | marked overdue => exact .inl stored
  | claimed made member queued => exact .inr ⟨made, rfl, member, (Option.some.inj stored).symm⟩
  | worked key progress held presented work =>
    left
    cases work with
    | released live called => exact absurd stored nofun
    | renewed expiresAt live => exact stored
    | expired overdue => exact stored
    | ended state evidence amount live called terminal within => exact stored
    | reconciled evidence cost => exact stored
  | resolved state evidence observedCost amount called terminal required => exact .inl stored

/-- A claimed member after a change is newly claimed or was claimed before. -/
theorem lease_of_change {row next : QueueMemberRow} {claim : Option QueueClaim}
    (change : MemberChange now call row claim next) (claimed : next.state = .claimed) :
    (∃ made, claim = some made ∧ next.leaseHolder = some made.dispatcherId ∧
        next.leaseExpiresAt = some made.leaseExpiresAt) ∨
      row.state = .claimed ∧ next.leaseHolder = row.leaseHolder ∧
        (next.leaseExpiresAt = row.leaseExpiresAt ∨
          ∃ expiresAt, next.leaseExpiresAt = some expiresAt) := by
  cases change with
  | same claim => exact .inr ⟨claimed, rfl, .inl rfl⟩
  | marked overdue => exact absurd claimed nofun
  | claimed made member queued => exact .inl ⟨made, rfl, rfl, rfl⟩
  | worked key progress held presented work =>
    cases work with
    | renewed expiresAt live => exact .inr ⟨held.claimed, rfl, .inr ⟨expiresAt, rfl⟩⟩
    | released live called => exact absurd claimed nofun
    | expired overdue => exact absurd claimed nofun
    | ended state evidence amount live called terminal within =>
      have ends : state = .claimed := claimed
      rw [ends] at terminal
      exact absurd terminal (by decide)
    | reconciled evidence cost => exact absurd claimed nofun
  | resolved state evidence observedCost amount called terminal required =>
    have ends : state = .claimed := claimed
    rw [ends] at terminal
    exact absurd terminal (by decide)

/-- A new database has no member. -/
theorem leased_initial : initial.Leased :=
  ⟨fun _ _ stored => absurd stored nofun, fun _ _ stored => absurd stored nofun⟩

/-- Every transaction keeps the tokens and leases. -/
theorem Leased.of_effect (leased : db.Leased) {claim : Option QueueClaim}
    (effect : MemberEffect db now call after claim) : after.Leased := by
  have counter := counter_of_effect effect
  constructor
  · intro memberId next stored token held
    cases found : db.member? memberId with
    | none =>
      have waiting := waiting_of_effect effect found stored
      have nothing : next.fencingToken = none := by rw [waiting]; rfl
      rw [nothing] at held
      exact absurd held nofun
    | some row =>
      obtain ⟨other, same, change⟩ := change_of_effect effect found
      have equal : other = next := Option.some.inj (same.symm.trans stored)
      rw [equal] at change
      rcases token_of_change change held with old | ⟨made, given, _, new⟩
      · obtain ⟨positive, bound⟩ := leased.issued memberId row found token old
        exact ⟨positive, le_trans bound counter⟩
      · rw [given] at effect
        obtain ⟨_, _, claimMade⟩ := made_of_effect effect
        have value := claimMade.handed.2
        have reached : after.fencingCounter = db.fencingCounter + 1 := by
          rw [claimMade.written]
        omega
  · intro memberId next stored claimed
    cases found : db.member? memberId with
    | none =>
      have waiting := waiting_of_effect effect found stored
      have queued : next.state = .queued := by rw [waiting]; rfl
      rw [queued] at claimed
      exact absurd claimed nofun
    | some row =>
      obtain ⟨other, same, change⟩ := change_of_effect effect found
      have equal : other = next := Option.some.inj (same.symm.trans stored)
      rw [equal] at change
      rcases lease_of_change change claimed with ⟨made, given, holder, expiry⟩ |
        ⟨before, holder, expiry⟩
      · rw [given] at effect
        obtain ⟨_, _, claimMade⟩ := made_of_effect effect
        refine ⟨⟨_, expiry⟩, ?_⟩
        intro dispatcher member
        rw [holder] at member
        rw [← Option.some.inj member]
        exact claimMade.named
      · obtain ⟨⟨expiresAt, leased⟩, named⟩ := leased.claimed memberId row found before
        rw [holder]
        refine ⟨?_, named⟩
        rcases expiry with kept | renewed
        · exact ⟨expiresAt, kept.trans leased⟩
        · exact renewed

/-! ## What a step does to ownership -/

/-- A member that ends in the step is ended by the holder of its stored claim before the claim's
expiry, or by the resolution of its reconciliation. -/
def EndsOwned (x : Machine.Step QueueDb QueueAction) : Prop :=
  ∀ memberId row next, x.before.member? memberId = some row → x.after.member? memberId = some next →
    next.state.terminal = true →
      next = row ∨
      (∃ key, x.action.call.ending = some (next.state, key) ∧ row.HeldUnder key ∧
        row.Live x.action.now) ∨
      (row.state = .reconciliationRequired ∧
        ∃ evidence observedCost, x.action.call =
          .resolveMember memberId next.state evidence observedCost)

/-- A member that awaits reconciliation, or whose claim is overdue, is untouched, left to a
reconciliation, or resolved. -/
def LeftToReconciliation (x : Machine.Step QueueDb QueueAction) : Prop :=
  ∀ memberId row next, x.before.member? memberId = some row → x.after.member? memberId = some next →
    (row.state = .reconciliationRequired →
      next = row ∨ ∃ evidence observedCost, x.action.call =
        .resolveMember memberId next.state evidence observedCost) ∧
    (row.state = .claimed → ¬row.Live x.action.now →
      next = row ∨ next.state = .reconciliationRequired)

/-- A call whose key does not fit the stored claim changes nothing. -/
def Fenced (x : Machine.Step QueueDb QueueAction) : Prop :=
  ∀ key, x.action.call.presented = some key →
    (∀ row, x.before.member? key.memberId = some row → ¬row.HeldUnder key) → x.after = x.before

/-- Claims are handed out under strictly increasing tokens. -/
def TokensIncrease (sha : Sha256) (x y : Machine.Step QueueDb QueueAction) : Prop :=
  ∀ earlier later, claimOf sha x.before x.action = some earlier →
    claimOf sha y.before y.action = some later → earlier.fencingToken < later.fencingToken

/-- After a claim, a call under an older token of its member changes nothing. -/
def StaleIgnored (sha : Sha256) (x y : Machine.Step QueueDb QueueAction) : Prop :=
  ∀ claim key, claimOf sha x.before x.action = some claim →
    y.action.call.presented = some key → key.memberId = claim.memberId →
      key.fencingToken < claim.fencingToken → y.after = y.before

/-- A step ends members owned. -/
theorem endsOwned_of_effect {x : Machine.Step QueueDb QueueAction} {claim : Option QueueClaim}
    (effect : MemberEffect x.before x.action.now x.action.call x.after claim) : EndsOwned x := by
  intro memberId row next stored reached terminal
  obtain ⟨other, same, change⟩ := change_of_effect effect stored
  have equal : other = next := Option.some.inj (same.symm.trans reached)
  rw [equal] at change
  cases change with
  | same claim => exact .inl rfl
  | marked overdue => exact absurd terminal nofun
  | claimed made member queued => exact absurd terminal nofun
  | worked key progress held presented work =>
    cases work with
    | renewed expiresAt live =>
      have claimed : row.state.terminal = true := terminal
      rw [held.claimed] at claimed
      exact absurd claimed nofun
    | released live called => exact absurd terminal nofun
    | expired overdue => exact absurd terminal nofun
    | ended state evidence amount live called ends within => exact .inr (.inl ⟨key, called, held, live⟩)
    | reconciled evidence cost => exact absurd terminal nofun
  | resolved state evidence observedCost amount called ends required =>
    rw [memberId_of_member stored] at called
    exact .inr (.inr ⟨required, evidence, observedCost, called⟩)

/-- A step leaves what is overdue to reconciliation. -/
theorem leftToReconciliation_of_effect {x : Machine.Step QueueDb QueueAction}
    {claim : Option QueueClaim}
    (effect : MemberEffect x.before x.action.now x.action.call x.after claim) :
    LeftToReconciliation x := by
  intro memberId row next stored reached
  obtain ⟨other, same, change⟩ := change_of_effect effect stored
  have equal : other = next := Option.some.inj (same.symm.trans reached)
  rw [equal] at change
  cases change with
  | same claim => exact ⟨fun _ => .inl rfl, fun _ _ => .inl rfl⟩
  | marked overdue =>
    refine ⟨fun required => ?_, fun _ _ => .inr rfl⟩
    unfold expired at overdue
    rw [required] at overdue
    exact absurd overdue (by simp)
  | claimed made member queued =>
    refine ⟨fun required => ?_, fun claimed => ?_⟩
    · exact absurd (queued.symm.trans required) nofun
    · exact absurd (queued.symm.trans claimed) nofun
  | worked key progress held presented work =>
    refine ⟨fun required => absurd (held.claimed.symm.trans required) nofun, fun _ overdue => ?_⟩
    cases work with
    | renewed expiresAt live => exact absurd live overdue
    | released live called => exact absurd live overdue
    | expired late => exact .inr rfl
    | ended state evidence amount live called ends within => exact absurd live overdue
    | reconciled evidence cost => exact .inr rfl
  | resolved state evidence observedCost amount called ends required =>
    rw [memberId_of_member stored] at called
    refine ⟨fun _ => .inr ⟨evidence, observedCost, called⟩, fun claimed => ?_⟩
    exact absurd (required.symm.trans claimed) nofun

/-- A transaction that commits under a key had the stored claim of the key. -/
theorem held_of_perform {key : ClaimKey} {answer : Except MacrError (Option QueueClaim)}
    (presented : call.presented = some key)
    (done : db.perform sha now call = .ok (after, answer)) :
    ∃ row, db.member? key.memberId = some row ∧ row.HeldUnder key := by
  have found : ∃ notClaimed row, db.claimedRow key notClaimed = .ok row := by
    cases call with
    | renew other leaseSeconds =>
      cases presented
      obtain ⟨⟨value, done⟩, _⟩ := quiet_eq_ok done
      simp only [renew, bind_eq_ok] at done
      obtain ⟨_, _, _, _, row, found, _⟩ := done
      exact ⟨_, row, found⟩
    | releaseBeforeDispatch other =>
      cases presented
      obtain ⟨⟨value, done⟩, _⟩ := quiet_eq_ok done
      simp only [releaseBeforeDispatch, bind_eq_ok] at done
      obtain ⟨_, _, row, found, _⟩ := done
      exact ⟨_, row, found⟩
    | complete other evidence observedCost =>
      cases presented
      obtain ⟨⟨value, done⟩, _⟩ := quiet_eq_ok done
      simp only [complete, terminal, bind_eq_ok] at done
      obtain ⟨_, _, _, _, _, _, row, found, _⟩ := done
      exact ⟨_, row, found⟩
    | fail other evidence observedCost =>
      cases presented
      obtain ⟨⟨value, done⟩, _⟩ := quiet_eq_ok done
      simp only [fail, terminal, bind_eq_ok] at done
      obtain ⟨_, _, _, _, _, _, row, found, _⟩ := done
      exact ⟨_, row, found⟩
    | requireReconciliation other evidence observedCost =>
      cases presented
      obtain ⟨⟨value, done⟩, _⟩ := quiet_eq_ok done
      simp only [requireReconciliation, bind_eq_ok] at done
      obtain ⟨_, _, _, _, row, found, _⟩ := done
      exact ⟨_, row, found⟩
    | _ => cases presented
  obtain ⟨_, row, found⟩ := found
  exact ⟨row, held_of_claimedRow found⟩

/-- A step under a key that does not fit changes nothing. -/
theorem step_of_unheld {action : QueueAction} {key : ClaimKey}
    (presented : action.call.presented = some key)
    (unheld : ∀ row, db.member? key.memberId = some row → ¬row.HeldUnder key) :
    (machine sha).step db action = db := by
  show (db.execute sha action).1 = db
  unfold execute
  by_cases stopped : action.interrupted = true
  · rw [if_pos stopped]
  · rw [if_neg stopped]
    cases done : db.perform sha action.now action.call with
    | error raised => rfl
    | ok committed =>
      obtain ⟨row, stored, held⟩ := held_of_perform presented done
      exact absurd held (unheld row stored)

/-! ## Tokens along a run -/

/-- A state that follows a claim: its token has been issued, and the member's stored token is not
older. -/
def FollowsClaim (sha : Sha256) (x : Machine.Step QueueDb QueueAction) (db : QueueDb) : Prop :=
  ∀ claim, claimOf sha x.before x.action = some claim →
    claim.fencingToken ≤ db.fencingCounter ∧
      ∀ row, db.member? claim.memberId = some row → ∀ token ∈ row.fencingToken,
        claim.fencingToken ≤ token

/-- The state a claim leaves follows it. -/
theorem followsClaim_leaves (db : QueueDb) (action : QueueAction) :
    FollowsClaim sha ⟨db, action, (machine sha).step db action⟩ ((machine sha).step db action) := by
  intro claim handed
  have effect := effect_of_step sha db action
  have handed : claimOf sha db action = some claim := handed
  rw [handed] at effect
  obtain ⟨row, batch, made⟩ := made_of_effect effect
  have key : claim.memberId = row.memberId := by rw [made.handed.1]
  rw [made.written]
  constructor
  · exact made.handed.2.le
  · intro next stored token held
    have found := member_updateMember db row.memberId claim.memberId
      (claimedColumns · claim.dispatcherId claim.fencingToken claim.leaseExpiresAt)
    rw [if_pos key, key, made.stored, Option.map_some] at found
    rw [key] at stored
    have equal := Option.some.inj (found.symm.trans stored)
    rw [← equal] at held
    exact (Option.some.inj held).le

/-- Every step keeps following an earlier claim. -/
theorem followsClaim_lasts (x : Machine.Step QueueDb QueueAction) (db : QueueDb)
    (action : QueueAction) (follows : FollowsClaim sha x db) :
    FollowsClaim sha x ((machine sha).step db action) := by
  intro claim handed
  obtain ⟨issued, newest⟩ := follows claim handed
  have effect := effect_of_step sha db action
  have counter := counter_of_effect effect
  refine ⟨le_trans issued counter, ?_⟩
  intro next stored token held
  cases found : db.member? claim.memberId with
  | none =>
    have waiting := waiting_of_effect effect found stored
    have nothing : next.fencingToken = none := by rw [waiting]; rfl
    rw [nothing] at held
    exact absurd held nofun
  | some row =>
    obtain ⟨other, same, change⟩ := change_of_effect effect found
    have equal : other = next := Option.some.inj (same.symm.trans stored)
    rw [equal] at change
    rcases token_of_change change held with old | ⟨made, given, _, new⟩
    · exact newest row found token old
    · rw [given] at effect
      obtain ⟨_, _, claimMade⟩ := made_of_effect effect
      have value := claimMade.handed.2
      omega

/-- A step after a claim hands out a newer token and ignores older ones. -/
theorem fenced_after_claim (x : Machine.Step QueueDb QueueAction) (db : QueueDb)
    (action : QueueAction) (follows : FollowsClaim sha x db) :
    TokensIncrease sha x ⟨db, action, (machine sha).step db action⟩ ∧
      StaleIgnored sha x ⟨db, action, (machine sha).step db action⟩ := by
  constructor
  · intro earlier later handed next
    have effect := effect_of_step sha db action
    have next : claimOf sha db action = some later := next
    rw [next] at effect
    obtain ⟨_, _, made⟩ := made_of_effect effect
    have issued := (follows earlier handed).1
    have value := made.handed.2
    omega
  · intro claim key handed presented member stale
    apply step_of_unheld presented
    intro row stored held
    rw [member] at stored
    have newest := (follows claim handed).2 row stored key.fencingToken held.token
    omega

/-! ## What a holder's call leads to -/

/-- How a `complete` or `fail` of the holder with a given amount ends. -/
inductive Settlement (x : Machine.Step QueueDb QueueAction)
    (answer : Except MacrError (Option QueueClaim)) (state : QueueMemberState)
    (row : QueueMemberRow) (argument : CostArgument) : Prop
  /-- The terminal state is committed. -/
  | ended (evidence : Digest) (amount : ℚ) (given : argument = .finite amount)
      (nonneg : 0 ≤ amount) (live : row.Live x.action.now)
      (within : amount ≤ row.scope.costCeilingUsd + costTolerance) (returned : answer = .ok none)
      (written : x.after.member? row.memberId =
        some (row.write (endedColumns row state evidence (some amount) x.action.now)))
  /-- Above the ceiling, a reconciliation is committed and an error raised. -/
  | overCeiling (evidence : Digest) (amount : ℚ) (given : argument = .finite amount)
      (live : row.Live x.action.now) (exceeds : row.scope.costCeilingUsd + costTolerance < amount)
      (raised : answer =
        .error (.dispatchAuthorization "observed cost exceeds member hard ceiling"))
      (written : x.after.member? row.memberId = some (row.write
        (endedColumns row .reconciliationRequired evidence (some amount) x.action.now)))
  /-- After the expiry, a reconciliation is committed and an error raised. -/
  | overdue (evidence : Digest) (amount : ℚ) (given : argument = .finite amount)
      (nonneg : 0 ≤ amount) (late : ¬row.Live x.action.now)
      (raised : answer = .error (.dispatchLease "expired queue lease requires reconciliation"))
      (written : x.after.member? row.memberId = some (row.write
        (endedColumns row .reconciliationRequired evidence (some amount) x.action.now)))
  /-- An amount that is not one is refused. -/
  | invalid (given : ∀ amount, argument = .finite amount → amount < 0)
      (raised : answer = .error (.valueError "observed_cost_usd must be finite non-negative"))
      (unchanged : x.after = x.before)

/-- A `complete` or `fail` of the holder with a known amount settles. -/
def EndingSettles (sha : Sha256) (x : Machine.Step QueueDb QueueAction) : Prop :=
  ∀ state key row argument, x.action.call.ending = some (state, key) →
    x.action.call.observedCost = some argument → x.action.interrupted = false →
      x.before.member? key.memberId = some row → row.HeldUnder key →
        Settlement x (x.before.execute sha x.action).2 state row argument

/-- The holder's terminal transaction passes the checks of its key. -/
theorem terminal_of_held {state : QueueMemberState} {key : ClaimKey} {row : QueueMemberRow}
    {evidence : Digest} {observedCost : Option CostArgument} {expiresAt : Timestamp}
    (leased : db.Leased) (terminal : state.terminal = true)
    (stored : db.member? key.memberId = some row) (held : row.HeldUnder key)
    (expiry : row.leaseExpiresAt = some expiresAt) :
    db.terminal state key evidence observedCost now =
      (checkOptionalCost observedCost >>= fun cost =>
        if expiresAt ≤ now then
          commitRaise
            (db.updateMember key.memberId (endedColumns · .reconciliationRequired evidence cost now))
            (.dispatchLease "expired queue lease requires reconciliation")
        else do
          let amount ← require cost
            (.typeError "'>' not supported between instances of 'NoneType' and 'float'")
          if amount > row.scope.costCeilingUsd + costTolerance then
            commitRaise
              (db.updateMember key.memberId
                (endedColumns · .reconciliationRequired evidence cost now))
              (.dispatchAuthorization "observed cost exceeds member hard ceiling")
          else
            commit (db.updateMember key.memberId (endedColumns · state evidence cost now)) ()) := by
  have positive : ¬key.fencingToken < 1 := by
    have issued := (leased.issued key.memberId row stored key.fencingToken held.token).1
    omega
  have named : isIdentifier key.dispatcherId = true :=
    (leased.claimed key.memberId row stored held.claimed).2 key.dispatcherId held.holder
  have fits : ¬(row.leaseHolder ≠ some key.dispatcherId ∨
      row.fencingToken ≠ some key.fencingToken) := by
    rw [held.holder, held.token]
    simp
  have found : db.claimedRow key "queue member is terminal or not claimed" = .ok row := by
    unfold claimedRow readMember
    rw [raiseIf_bind_of_not positive, stored, require_some_bind,
      raiseIf_bind_of_not (not_not.mpr held.claimed), raiseIf_bind_of_not fits]
    rfl
  have dispatcher : checkDispatcher key.dispatcherId = .ok key.dispatcherId := by
    unfold checkDispatcher
    rw [raiseIf_bind_of_not (not_not.mpr named)]
    rfl
  have read : leaseExpiry row = .ok expiresAt := by
    unfold leaseExpiry
    rw [expiry]
    rfl
  unfold QueueDb.terminal
  rw [raiseIf_bind_of_not (not_not.mpr terminal), dispatcher, ok_bind, found]
  simp only [ok_bind, read]

/-- The holder's terminal transaction settles. -/
theorem settlement_of_terminal {action : QueueAction} {state : QueueMemberState} {key : ClaimKey}
    {row : QueueMemberRow} {evidence : Digest} {argument : CostArgument} (leased : db.Leased)
    (terminal : state.terminal = true) (running : action.interrupted = false)
    (performs : db.perform sha action.now action.call =
      quiet (db.terminal state key evidence (some argument) action.now))
    (stored : db.member? key.memberId = some row) (held : row.HeldUnder key) :
    Settlement ⟨db, action, (machine sha).step db action⟩ (db.execute sha action).2 state row
      argument := by
  obtain ⟨expiresAt, expiry⟩ := (leased.claimed key.memberId row stored held.claimed).1
  have executed : db.execute sha action =
      settle db (quiet (db.terminal state key evidence (some argument) action.now)) := by
    unfold execute
    rw [running, if_neg Bool.false_ne_true, performs]
  have stepped : (machine sha).step db action = (db.execute sha action).1 := rfl
  have live : row.Live action.now ↔ ¬expiresAt ≤ action.now := by
    unfold QueueMemberRow.Live
    rw [expiry]
    simp
  have written : ∀ assign, (db.updateMember key.memberId assign).member? row.memberId =
      some (row.write (assign row)) := by
    intro assign
    rw [member_updateMember, if_pos held.member, held.member, stored]
    rfl
  rw [terminal_of_held leased terminal stored held expiry] at executed
  have refused : (∀ amount, argument = .finite amount → amount < 0) →
      checkOptionalCost (some argument) =
        .error (.valueError "observed_cost_usd must be finite non-negative") →
      Settlement ⟨db, action, (machine sha).step db action⟩ (db.execute sha action).2 state row
        argument := by
    intro invalid error
    rw [error] at executed
    apply Settlement.invalid invalid
    · rw [executed]
      rfl
    · show (machine sha).step db action = db
      rw [stepped, executed]
      rfl
  cases argument with
  | nonFinite => exact refused (fun _ given => absurd given nofun) rfl
  | finite amount =>
    by_cases negative : amount < 0
    · apply refused
      · intro other given
        cases given
        exact negative
      · show (checkCost "observed_cost_usd" (.finite amount)).map some = _
        simp only [checkCost]
        unfold raiseIf
        rw [if_pos negative]
        rfl
    · have checked : checkOptionalCost (some (.finite amount)) = .ok (some amount) := by
        show (checkCost "observed_cost_usd" (.finite amount)).map some = _
        simp only [checkCost]
        rw [raiseIf_bind_of_not negative]
        rfl
      rw [checked, ok_bind] at executed
      by_cases overdue : expiresAt ≤ action.now
      · rw [if_pos overdue] at executed
        apply Settlement.overdue evidence amount rfl (Rat.not_lt.mp negative)
        · exact fun alive => live.mp alive overdue
        · rw [executed]
          rfl
        · show ((machine sha).step db action).member? row.memberId = _
          rw [stepped, executed]
          exact written _
      · rw [if_neg overdue, require_some_bind] at executed
        by_cases exceeds : amount > row.scope.costCeilingUsd + costTolerance
        · rw [if_pos exceeds] at executed
          apply Settlement.overCeiling evidence amount rfl (live.mpr overdue) exceeds
          · rw [executed]
            rfl
          · show ((machine sha).step db action).member? row.memberId = _
            rw [stepped, executed]
            exact written _
        · rw [if_neg exceeds] at executed
          apply Settlement.ended evidence amount rfl (Rat.not_lt.mp negative) (live.mpr overdue)
            (Rat.not_lt.mp exceeds)
          · rw [executed]
            rfl
          · show ((machine sha).step db action).member? row.memberId = _
            rw [stepped, executed]
            exact written _

/-- A step settles the holder's `complete` or `fail`. -/
theorem endingSettles_of_leased (leased : db.Leased) (action : QueueAction) :
    EndingSettles sha ⟨db, action, (machine sha).step db action⟩ := by
  intro state key row argument ending amount running stored held
  obtain ⟨now, interrupted, call⟩ := action
  cases call with
  | complete other evidence observedCost =>
    cases ending
    cases amount
    exact settlement_of_terminal leased rfl running rfl stored held
  | fail other evidence observedCost =>
    cases ending
    cases amount
    exact settlement_of_terminal leased rfl running rfl stored held
  | _ => exact absurd ending nofun

/-- The holder ends the first member in time. -/
def endFirst (observedCost : Option CostArgument) : QueueAction :=
  ⟨4, false, .complete firstClaim.key 9 observedCost⟩

/-- The first member is claimed. -/
def claimedFirst : QueueDb :=
  (machine foldDigest).run initial (sampleQueued sampleBatchScope ++ [sampleClaim 3])

end QueueDb

end Macr
