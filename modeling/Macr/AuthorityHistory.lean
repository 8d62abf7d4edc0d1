import Macr.Authority
import Macr.Lib.Machine

/-!
# Epochs and revocations last

A run interleaves issues, revocations, epoch changes and both verifiers over one authority store.
`verify` reads the epoch row and the authority row in two reads, so a call of it is two steps with
anything in between; `verify_in_transaction` is one. Once an epoch has been advanced or a
reference revoked, no call that starts afterwards accepts what was issued before, or revoked.
-/

namespace Macr

open Lib

/-- A call of `verify` after its first read. -/
structure VerifyCall where
  /-- The epoch row it has read. -/
  epochRow : AuthorityEpoch
  /-- The reference presented. -/
  reference : AuthorizationReference
  /-- The use asked for. -/
  use : AuthorityUse

/-- The store and the calls of `verify` begun so far, in their order. -/
structure AuthoritySystem where
  /-- The store's tables. -/
  tables : AuthorityTables
  /-- The calls begun. -/
  calls : List VerifyCall

/-- The steps of the store's callers. -/
inductive AuthorityAction where
  /-- An authority is issued. -/
  | issue (sourceKind sourceId : String) (scope : AuthorityScope) (expiresAt now : Timestamp)
      (authorityId : Uuid)
  /-- A reference is revoked. -/
  | revoke (reference : AuthorizationReference) (now : Timestamp)
  /-- The epoch is advanced. -/
  | advanceEpoch (reasonDigest : Digest) (state : AuthorityState) (now : Timestamp)
  /-- A call of `verify` reads the epoch row. -/
  | beginVerify (reference : AuthorizationReference) (use : AuthorityUse)
  /-- A call of `verify` reads the authority row and answers. -/
  | endVerify (index : Nat) (now : Timestamp)
  /-- `verify_in_transaction` is called. -/
  | verifyInTransaction (reference : AuthorizationReference) (use : AuthorityUse)
      (now : Timestamp)

namespace AuthoritySystem

/-- A new store. -/
def initial : AuthoritySystem := ⟨.initial, []⟩

variable (sha : Sha256)

/-- One step. -/
def step (system : AuthoritySystem) : AuthorityAction → AuthoritySystem
  | .issue sourceKind sourceId scope expiresAt now authorityId =>
    { system with
      tables := (settle system.tables
        (system.tables.issue sha sourceKind sourceId scope expiresAt now authorityId)).1 }
  | .revoke reference now =>
    { system with tables := (settle system.tables (system.tables.revoke reference now)).1 }
  | .advanceEpoch reasonDigest state now =>
    { system with tables := system.tables.advanceEpoch reasonDigest state now }
  | .beginVerify reference use =>
    { system with calls := system.calls ++ [⟨system.tables.epoch, reference, use⟩] }
  | .endVerify _ _ | .verifyInTransaction _ _ _ => system

/-- The authority store as a machine. -/
def machine : Machine AuthoritySystem AuthorityAction := ⟨step sha⟩

/-- The step issues a reference. -/
def Issues (x : Machine.Step AuthoritySystem AuthorityAction)
    (reference : AuthorizationReference) : Prop :=
  ∃ sourceKind sourceId scope expiresAt now authorityId result,
    x.action = .issue sourceKind sourceId scope expiresAt now authorityId ∧
    x.before.tables.issue sha sourceKind sourceId scope expiresAt now authorityId = .ok result ∧
    result.2 = .ok reference

/-- The step advances the epoch. -/
def Advances (x : Machine.Step AuthoritySystem AuthorityAction) : Prop :=
  ∃ reasonDigest state now, x.action = .advanceEpoch reasonDigest state now

/-- The step revokes a reference. -/
def Revokes (x : Machine.Step AuthoritySystem AuthorityAction)
    (reference : AuthorizationReference) : Prop :=
  ∃ now result, x.action = .revoke reference now ∧ x.before.tables.revoke reference now = .ok result

/-- The step ends a call, of either verifier, that accepts a reference. -/
def Accepts (x : Machine.Step AuthoritySystem AuthorityAction)
    (reference : AuthorizationReference) : Prop :=
  (∃ index now call, x.action = .endVerify index now ∧ x.before.calls[index]? = some call ∧
    AuthorityTables.verifyRows sha call.epochRow
      (x.before.tables.authorities.find? call.reference.key) now call.reference call.use =
        .ok reference) ∨
  ∃ presented use now, x.action = .verifyInTransaction presented use now ∧
    x.before.tables.verifyInTransaction sha now presented use = .ok reference

/-- The call that ends in the step has started after a state. -/
def StartedAfter (system : AuthoritySystem) (x : Machine.Step AuthoritySystem AuthorityAction) :
    Prop :=
  ∀ index now, x.action = .endVerify index now → system.calls.length ≤ index

variable {sha : Sha256}

/-! ## The epoch row -/

/-- Issuing an authority leaves the epoch row. -/
theorem epoch_of_issue (tables : AuthorityTables) (sourceKind sourceId : String)
    (scope : AuthorityScope) (expiresAt now : Timestamp) (authorityId : Uuid) :
    (settle tables (tables.issue sha sourceKind sourceId scope expiresAt now authorityId)).1.epoch =
      tables.epoch := by
  cases done : tables.issue sha sourceKind sourceId scope expiresAt now authorityId with
  | error error => rfl
  | ok result =>
    simp only [AuthorityTables.issue, bind_eq_ok, raiseIf_eq_ok, exists_const, require_eq_ok,
      commit_eq_ok] at done
    obtain ⟨_, _, _, authorities, _, rfl⟩ := done
    rfl

/-- Revoking a reference leaves the epoch row. -/
theorem epoch_of_revoke (tables : AuthorityTables) (reference : AuthorizationReference)
    (now : Timestamp) :
    (settle tables (tables.revoke reference now)).1.epoch = tables.epoch := by
  cases done : tables.revoke reference now with
  | error error => rfl
  | ok result =>
    simp only [AuthorityTables.revoke, bind_eq_ok] at done
    obtain ⟨row, _, rest⟩ := done
    split at rest
    · rw [commit_eq_ok] at rest
      rw [settle, rest]
      rfl
    · rw [commit_eq_ok] at rest
      rw [settle, rest]

/-- No step lowers the epoch. -/
theorem epoch_step (system : AuthoritySystem) (action : AuthorityAction) :
    system.tables.epoch.epoch ≤ (step sha system action).tables.epoch.epoch := by
  cases action with
  | issue sourceKind sourceId scope expiresAt now authorityId =>
    simp only [step]
    rw [epoch_of_issue]
  | revoke reference now =>
    simp only [step]
    rw [epoch_of_revoke]
  | advanceEpoch reasonDigest state now => exact Nat.le_succ _
  | beginVerify | endVerify | verifyInTransaction => exact Nat.le_refl _

/-- An issued reference carries the epoch of its issue. -/
theorem epoch_of_issues {x : Machine.Step AuthoritySystem AuthorityAction}
    {reference : AuthorizationReference} (issues : Issues sha x reference) :
    reference.epoch = x.before.tables.epoch.epoch := by
  obtain ⟨_, _, _, _, _, _, result, _, done, same⟩ := issues
  simp only [AuthorityTables.issue, bind_eq_ok, raiseIf_eq_ok, exists_const, require_eq_ok,
    commit_eq_ok] at done
  obtain ⟨_, _, _, authorities, _, rfl⟩ := done
  simp only [Except.ok.injEq] at same
  rw [← same]

/-! ## After a change -/

/-- Every call begun after a state has read an epoch no lower than that state's. -/
structure ReadsSince (start system : AuthoritySystem) : Prop where
  /-- The epoch has not gone down. -/
  epoch : start.tables.epoch.epoch ≤ system.tables.epoch.epoch
  /-- No call is lost. -/
  calls : start.calls.length ≤ system.calls.length
  /-- Later calls have read a later epoch row. -/
  read : ∀ index call, start.calls.length ≤ index → system.calls[index]? = some call →
    start.tables.epoch.epoch ≤ call.epochRow.epoch

/-- A state has read nothing since itself. -/
theorem readsSince_refl (start : AuthoritySystem) : ReadsSince start start where
  epoch := Nat.le_refl _
  calls := Nat.le_refl _
  read := by
    intro index call later found
    have bound := (List.getElem?_eq_some_iff.mp found).1
    omega

/-- Every step keeps what later calls have read. -/
theorem readsSince_step {start system : AuthoritySystem} (since : ReadsSince start system)
    (action : AuthorityAction) : ReadsSince start (step sha system action) := by
  have grows : system.tables.epoch.epoch ≤ (step sha system action).tables.epoch.epoch :=
    epoch_step system action
  have epoch := since.epoch.trans grows
  cases action with
  | issue | revoke | advanceEpoch => exact ⟨epoch, since.calls, since.read⟩
  | endVerify | verifyInTransaction => exact since
  | beginVerify reference use =>
    refine ⟨epoch, ?_, ?_⟩
    · simp only [step, List.length_append]
      exact since.calls.trans (Nat.le_add_right _ _)
    · intro index call later found
      by_cases earlier : index < system.calls.length
      · rw [step, List.getElem?_append_left earlier] at found
        exact since.read index call later found
      · rw [step, List.getElem?_append_right (by omega)] at found
        have member := List.mem_of_getElem? found
        rw [List.mem_singleton] at member
        rw [member]
        exact since.epoch

/-- A call that starts after a state and is accepted presents a reference of no lower epoch. -/
theorem epoch_of_accepts {start : AuthoritySystem}
    {x : Machine.Step AuthoritySystem AuthorityAction} {reference : AuthorizationReference}
    (since : ReadsSince start x.before) (after : StartedAfter start x)
    (accepts : Accepts sha x reference) : start.tables.epoch.epoch ≤ reference.epoch := by
  rcases accepts with ⟨index, now, call, same, found, accepted⟩ | ⟨presented, use, now, _, accepted⟩
  · have later := since.read index call (after index now same) found
    simp only [AuthorityTables.verifyRows, bind_eq_ok, raiseIf_eq_ok, exists_const, pure_eq_ok,
      not_not, ne_eq] at accepted
    obtain ⟨epoch, _, _, _, _, _, _, _, _, rfl⟩ := accepted
    rw [epoch]
    exact later
  · rw [AuthorityTables.verifyInTransaction_eq_verify, AuthorityTables.verify_eq_ok] at accepted
    obtain ⟨rfl, current⟩ := accepted
    rw [current.epoch]
    exact since.epoch

/-- No accepted reference is revoked where the call ends. -/
theorem unrevoked_of_accepts {x : Machine.Step AuthoritySystem AuthorityAction}
    {reference : AuthorizationReference} (accepts : Accepts sha x reference) :
    ¬x.before.tables.Revoked reference.key := by
  intro revoked
  rcases accepts with ⟨index, now, call, _, _, accepted⟩ | ⟨presented, use, now, _, accepted⟩
  · simp only [AuthorityTables.verifyRows, bind_eq_ok, raiseIf_eq_ok, exists_const, pure_eq_ok,
      require_eq_ok, Table.find?_eq_some, not_not, ne_eq] at accepted
    obtain ⟨_, _, row, ⟨stored, named⟩, _, _, unrevoked, _, _, rfl⟩ := accepted
    obtain ⟨other, held, otherNamed, isRevoked⟩ := revoked
    have same := x.before.tables.authorities.eq_of_key held stored (otherNamed.trans named.symm)
    exact isRevoked (same ▸ unrevoked)
  · rw [AuthorityTables.verifyInTransaction_eq_verify, AuthorityTables.verify_eq_ok] at accepted
    obtain ⟨rfl, current⟩ := accepted
    exact AuthorityTables.not_current_of_revoked revoked current

/-- Every step keeps every revocation. -/
theorem revoked_step {system : AuthoritySystem} {key : String × String × Nat}
    (revoked : system.tables.Revoked key) (action : AuthorityAction) :
    (step sha system action).tables.Revoked key := by
  cases action with
  | issue => exact AuthorityTables.revoked_of_issue revoked
  | revoke => exact AuthorityTables.revoked_of_revoke revoked
  | advanceEpoch | beginVerify | endVerify | verifyInTransaction => exact revoked

/-- A committed revocation leaves its reference revoked. -/
theorem revoked_of_revokes {x : Machine.Step AuthoritySystem AuthorityAction}
    {reference : AuthorizationReference} (revokes : Revokes x reference) :
    (step sha x.before x.action).tables.Revoked reference.key := by
  obtain ⟨now, result, same, done⟩ := revokes
  rw [same]
  simp only [step, done, settle]
  simp only [AuthorityTables.revoke, bind_eq_ok, require_eq_ok, Option.filter_eq_some_iff,
    Table.find?_eq_some] at done
  obtain ⟨row, ⟨⟨stored, named⟩, _⟩, rest⟩ := done
  by_cases fresh : row.revokedAt = none
  · rw [if_pos fresh, commit_eq_ok] at rest
    rw [rest]
    exact AuthorityTables.revokeWhere_revokes stored named (by simp [fresh]) now
  · rw [if_neg fresh, commit_eq_ok] at rest
    rw [rest]
    exact ⟨row, stored, named, fresh⟩

/-- Once an epoch change or a revocation has committed, no call that starts afterwards accepts a
reference issued before the change, or the revoked reference; and on one state the two verifiers
accept the same references. -/
theorem revocations_permanent (sha : Sha256) :
    (∀ (first : List AuthorityAction) (change : AuthorityAction) (later : List AuthorityAction),
      let before := (machine sha).run .initial first
      let after := (machine sha).step before change
      ∀ y ∈ (machine sha).steps after later, StartedAfter after y →
        ∀ reference, Accepts sha y reference →
          (Advances ⟨before, change, after⟩ →
            ∀ w ∈ (machine sha).steps .initial first, ¬Issues sha w reference) ∧
          ¬Revokes ⟨before, change, after⟩ reference) ∧
    ∀ (tables : AuthorityTables) (now : Timestamp) (reference result : AuthorizationReference)
      (use : AuthorityUse), tables.verify sha now reference use = .ok result ↔
        tables.verifyInTransaction sha now reference use = .ok result := by
  refine ⟨?_, fun _ _ _ _ _ => Iff.rfl⟩
  intro first change later before after y member started reference accepts
  have free : ∀ {start}, (machine sha).Obeys (fun _ _ => True) start later :=
    (machine sha).obeys_of_forall (fun _ _ => trivial) _ _
  constructor
  · rintro ⟨reasonDigest, state, now, same⟩ w earlier issues
    have keep : ∀ system action, ReadsSince after system → True →
        ReadsSince after ((machine sha).step system action) :=
      fun _ action held _ => readsSince_step held action
    have since := ((machine sha).steps_invariant keep (readsSince_refl after) free y member).1
    have accepted : after.tables.epoch.epoch ≤ reference.epoch :=
      epoch_of_accepts since started accepts
    have issued : reference.epoch = w.before.tables.epoch.epoch := epoch_of_issues issues
    have grown : w.before.tables.epoch.epoch ≤ before.tables.epoch.epoch :=
      (((machine sha).steps_measure (fun system => system.tables.epoch.epoch) epoch_step .initial
        first).2 w earlier).2
    have advanced : after.tables.epoch.epoch = before.tables.epoch.epoch + 1 := by
      have action : change = .advanceEpoch reasonDigest state now := same
      simp only [after, action]
      rfl
    omega
  · intro revokes
    have start : after.tables.Revoked reference.key := revoked_of_revokes revokes
    have keep : ∀ system action, system.tables.Revoked reference.key → True →
        ((machine sha).step system action).tables.Revoked reference.key :=
      fun _ action held _ => revoked_step held action
    have revoked := ((machine sha).steps_invariant keep start free y member).1
    exact unrevoked_of_accepts accepts revoked

end AuthoritySystem
end Macr
