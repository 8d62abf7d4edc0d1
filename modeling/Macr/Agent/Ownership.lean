import Macr.Agent.Effects

/-!
# Ownership of agent runs

An owner's row is that of a run in an ownable state, at the run's epoch, under a token that the
counter has issued. A permit is spent once its token has been issued and no owner has it; no
effect brings it back.
-/

namespace Macr

open Lib

namespace AgentTables

variable {sha : Sha256} {before after : AgentTables}

/-- The owners and their tokens. -/
structure Owned (db : AgentTables) : Prop where
  /-- An owner's run is ownable and at the owner's epoch. -/
  current : ∀ owner ∈ db.ownership.rows, ∃ row ∈ db.runs.rows,
    row.agentRunId = owner.agentRunId ∧ row.epoch = owner.epoch ∧ row.state.ownable = true
  /-- An owner's token has been issued. -/
  issued : ∀ owner ∈ db.ownership.rows, owner.fencingToken ≤ db.fencingCounter
  /-- So has the token of an acquisition. -/
  acquired : ∀ event ∈ db.events.rows, ∀ token, event.body.acquiredToken = some token →
    token ≤ db.fencingCounter
  /-- The tokens of the acquisitions increase strictly. -/
  increasing : (db.events.rows.filterMap (·.body.acquiredToken)).Pairwise (· < ·)

/-- A new database has no owner. -/
theorem owned_initial : initial.Owned := by
  refine ⟨?_, ?_, ?_, by simp [initial]⟩ <;> intro held member <;>
    exact absurd member (by simp [initial])

/-- A move that acquires nothing keeps the epoch. -/
theorem epoch_of_tokenless {row next : AgentRunRow} {event : AgentStateEvent}
    (advance : Advanced sha before after row next event)
    (tokenless : event.body.acquiredToken = none) : next.epoch = row.epoch := by
  obtain ⟨current, projection, holds, written, continues⟩ := advance.continues
  rw [written.epoch, holds.epoch, continues.counted, tokenless]
  rfl

/-- A move of an ownable run leads to an ownable state or to a terminal one. -/
theorem ownable_of_advanced {row next : AgentRunRow} {event : AgentStateEvent}
    (advance : Advanced sha before after row next event) (ownable : row.state.ownable = true) :
    next.state.ownable = true ∨ next.state.isTerminal = true := by
  obtain ⟨current, projection, holds, written, continues⟩ := advance.continues
  cases lifecycle : event.body.targetState with
  | none =>
    rw [written.state, continues.kept lifecycle, ← holds.state]
    exact .inl ownable
  | some target =>
    obtain ⟨same, allowed⟩ := continues.moved target lifecycle
    rw [written.state, same]
    rw [holds.state] at ownable
    exact AgentRunState.ownable_or_isTerminal ownable allowed

/-- An acquisition is that of an ownable run, which stays ownable. -/
theorem ownable_of_acquired {row next : AgentRunRow} {event : AgentStateEvent} {token : Nat}
    (advance : Advanced sha before after row next event)
    (acquires : event.body.acquiredToken = some token) : next.state.ownable = true := by
  obtain ⟨current, projection, holds, written, continues⟩ := advance.continues
  have kept : event.body.targetState = none := by
    cases lifecycle : event.body.targetState with
    | none => rfl
    | some target =>
      rw [AgentEventBody.acquiredToken_of_targetState lifecycle] at acquires
      exact absurd acquires (by simp)
  rw [written.state, continues.kept kept]
  exact continues.ownable (by rw [acquires]; rfl)

/-- The tokens after an event that acquires nothing. -/
theorem tokens_of_tokenless {event : AgentStateEvent}
    (events : after.events.rows = before.events.rows ++ [event])
    (tokenless : event.body.acquiredToken = none) :
    after.events.rows.filterMap (·.body.acquiredToken) =
      before.events.rows.filterMap (·.body.acquiredToken) := by
  simp [events, tokenless]

/-- An event that acquires nothing keeps the tokens of the acquisitions within the counter. -/
theorem Owned.acquired_of_tokenless (held : before.Owned) {event : AgentStateEvent}
    (events : after.events.rows = before.events.rows ++ [event])
    (tokenless : event.body.acquiredToken = none)
    (counter : after.fencingCounter = before.fencingCounter) :
    ∀ other ∈ after.events.rows, ∀ token, other.body.acquiredToken = some token →
      token ≤ after.fencingCounter := by
  intro other member token acquires
  rw [counter]
  rw [events] at member
  rcases List.mem_append.mp member with earlier | new
  · exact held.acquired other earlier token acquires
  · rw [List.mem_singleton.mp new, tokenless] at acquires
    exact absurd acquires (by simp)

/-- A new run has no owner. -/
theorem Owned.created (held : before.Owned) {row : AgentRunRow} {event : AgentStateEvent}
    (creation : Created sha before after row event) (ownership : after.ownership = before.ownership)
    (counter : after.fencingCounter = before.fencingCounter) : after.Owned := by
  obtain ⟨header, body⟩ := creation.created
  have tokenless : event.body.acquiredToken = none := by rw [body]; rfl
  refine ⟨?_, ?_, held.acquired_of_tokenless creation.events tokenless counter, ?_⟩
  · intro owner member
    rw [ownership] at member
    obtain ⟨stored, present, facts⟩ := held.current owner member
    exact ⟨stored, by rw [creation.runs]; exact List.mem_append_left _ present, facts⟩
  · rw [ownership, counter]
    exact held.issued
  · rw [tokens_of_tokenless creation.events tokenless]
    exact held.increasing

/-- A move without an acquisition keeps the owners of the runs that have not ended. -/
theorem Owned.advanced (held : before.Owned) {row next : AgentRunRow} {event : AgentStateEvent}
    (advance : Advanced sha before after row next event)
    (tokenless : event.body.acquiredToken = none)
    (ownership : after.ownership.rows =
      if next.state.isTerminal then
        before.ownership.rows.filter (fun other => other.agentRunId ≠ row.agentRunId)
      else before.ownership.rows)
    (counter : after.fencingCounter = before.fencingCounter) : after.Owned := by
  have stayed : ∀ owner ∈ after.ownership.rows, owner ∈ before.ownership.rows ∧
      (owner.agentRunId = row.agentRunId → next.state.isTerminal = false) := by
    intro owner member
    rw [ownership] at member
    by_cases terminal : next.state.isTerminal = true
    · rw [if_pos terminal] at member
      obtain ⟨present, apart⟩ := List.mem_filter.mp member
      exact ⟨present, fun same => absurd same (of_decide_eq_true apart)⟩
    · rw [if_neg terminal] at member
      exact ⟨member, fun _ => Bool.eq_false_iff.mpr terminal⟩
  refine ⟨?_, ?_, held.acquired_of_tokenless advance.events tokenless counter, ?_⟩
  · intro owner member
    obtain ⟨present, running⟩ := stayed owner member
    obtain ⟨stored, run_member, named, epoch, ownable⟩ := held.current owner present
    by_cases same : stored.agentRunId = row.agentRunId
    · have equal := before.runs.eq_of_key run_member advance.stored same
      subst equal
      have unfinished := running named.symm
      have still : next.state.ownable = true := by
        rcases ownable_of_advanced advance ownable with kept | ended
        · exact kept
        · exact absurd ended (by rw [unfinished]; decide)
      exact ⟨next, advance.next_mem, advance.agentRunId.trans named,
        (epoch_of_tokenless advance tokenless).trans epoch, still⟩
    · exact ⟨stored, advance.other_mem run_member same, named, epoch, ownable⟩
  · intro owner member
    rw [counter]
    exact held.issued owner (stayed owner member).1
  · rw [tokens_of_tokenless advance.events tokenless]
    exact held.increasing

/-- An acquisition makes the only owner of its run, under a token above all issued before. -/
theorem Owned.taken (held : before.Owned) {row next : AgentRunRow} {event : AgentStateEvent}
    {owner : AgentOwnershipRow} (advance : Advanced sha before after row next event)
    (token : event.body.acquiredToken = some owner.fencingToken)
    (drawn : owner.fencingToken = before.fencingCounter + 1)
    (run : owner.agentRunId = row.agentRunId) (epoch : owner.epoch = next.epoch)
    (ownership : after.ownership.rows =
      before.ownership.rows.filter (fun other => other.agentRunId ≠ row.agentRunId) ++ [owner])
    (counter : after.fencingCounter = before.fencingCounter + 1) : after.Owned := by
  refine ⟨?_, ?_, ?_, ?_⟩
  · intro other member
    rw [ownership] at member
    rcases List.mem_append.mp member with earlier | new
    · obtain ⟨present, apart⟩ := List.mem_filter.mp earlier
      obtain ⟨stored, run_member, named, same_epoch, ownable⟩ := held.current other present
      have different : stored.agentRunId ≠ row.agentRunId := by
        rw [named]
        exact of_decide_eq_true apart
      exact ⟨stored, advance.other_mem run_member different, named, same_epoch, ownable⟩
    · rw [List.mem_singleton.mp new]
      exact ⟨next, advance.next_mem, advance.agentRunId.trans run.symm, epoch.symm,
        ownable_of_acquired advance token⟩
  · intro other member
    rw [ownership] at member
    rcases List.mem_append.mp member with earlier | new
    · have below := held.issued other (List.mem_filter.mp earlier).1
      omega
    · rw [List.mem_singleton.mp new]
      omega
  · intro other member given acquires
    rw [advance.events] at member
    rcases List.mem_append.mp member with earlier | new
    · have below := held.acquired other earlier given acquires
      omega
    · rw [List.mem_singleton.mp new, token] at acquires
      have same := Option.some.inj acquires
      omega
  · have tokens : after.events.rows.filterMap (·.body.acquiredToken) =
        before.events.rows.filterMap (·.body.acquiredToken) ++ [owner.fencingToken] := by
      simp [advance.events, token]
    rw [tokens]
    refine List.pairwise_append.mpr ⟨held.increasing, List.pairwise_singleton _ _, ?_⟩
    intro earlier member last new
    obtain ⟨event, present, acquires⟩ := List.mem_filterMap.mp member
    have below := held.acquired event present earlier acquires
    rw [List.mem_singleton.mp new]
    omega

/-- Every effect keeps the owners. -/
theorem Owned.step (held : before.Owned) (effect : AgentEffect sha before after) :
    after.Owned := by
  cases effect with
  | idle same => rw [same]; exact held
  | created creation ownership counter => exact held.created creation ownership counter
  | advanced advance tokenless ownership counter =>
    exact held.advanced advance tokenless ownership counter
  | acquired advance token drawn run epoch ownership counter =>
    exact held.taken advance token drawn run epoch ownership counter
  | renewed expiresAt present ownership runs events counter =>
    refine ⟨?_, ?_, by rw [events, counter]; exact held.acquired, by rw [events]; exact
      held.increasing⟩
    · intro other member
      rw [ownership] at member
      obtain ⟨old, stored, rfl⟩ := List.mem_map.mp member
      rw [runs]
      split <;> exact held.current old stored
    · intro other member
      rw [ownership] at member
      obtain ⟨old, stored, rfl⟩ := List.mem_map.mp member
      rw [counter]
      split <;> exact held.issued old stored
  | released present ownership runs events counter =>
    have stayed : ∀ other ∈ after.ownership.rows, other ∈ before.ownership.rows := by
      intro other member
      rw [ownership] at member
      exact (List.mem_filter.mp member).1
    refine ⟨?_, ?_, by rw [events, counter]; exact held.acquired, by rw [events]; exact
      held.increasing⟩
    · intro other member
      rw [runs]
      exact held.current other (stayed other member)
    · intro other member
      rw [counter]
      exact held.issued other (stayed other member)

/-- No effect lowers the counter. -/
theorem counter_of_effect (effect : AgentEffect sha before after) :
    before.fencingCounter ≤ after.fencingCounter := by
  cases effect with
  | idle same => rw [same]
  | created _ _ counter => exact counter.ge
  | advanced _ _ _ counter => exact counter.ge
  | acquired _ _ _ _ _ _ counter => omega
  | renewed _ _ _ _ _ counter => exact counter.ge
  | released _ _ _ _ counter => exact counter.ge

/-- A free run is taken under the next token. -/
theorem token_of_takeOwnership {kernel : AgentKernel} {fault : String → Bool}
    {current : AgentRunProjection} {candidate permit : AgentOwnershipPermit}
    {expectedRevision expectedEpoch : Nat} {eventId : Uuid}
    (done : before.takeOwnership kernel fault current candidate expectedRevision expectedEpoch
      eventId = .ok (after, .ok permit)) :
    permit.fencingToken = before.fencingCounter + 1 ∧
      after.fencingCounter = permit.fencingToken := by
  simp only [takeOwnership, bind_eq_ok, faultAt_eq_ok, exists_const, commit_eq_ok,
    Prod.mk.injEq] at done
  obtain ⟨given, granted, event, _, _, mid, inserted, _, last, swapped, final, owned, _, _, rfl,
    same⟩ := done
  obtain rfl := Except.ok.inj same
  have token := (AgentOwnershipPermit.create_eq_ok granted).2.2.2.1
  obtain ⟨_, _, _, finalCounter, _⟩ := insertOwnership_eq_ok owned
  obtain ⟨_, _, _, _, midCounter, _⟩ := insertEvent_eq_ok inserted
  simp only [swapRun, bind_eq_ok, raiseIf_eq_ok, exists_const, pure_eq_ok] at swapped
  obtain ⟨_, rfl⟩ := swapped
  have drawn : after.fencingCounter = before.fencingCounter + 1 := finalCounter.trans midCounter
  omega

/-- An acquisition that writes an event returns a permit under the next token. -/
theorem token_of_acquireOwnership {kernel : AgentKernel} {fault : String → Bool}
    {agentRunId : Uuid} {ownerId : String} {expectedRevision expectedEpoch : Nat}
    {observedAt expiresAt : Timestamp} {leaseId eventId : Uuid} {permit : AgentOwnershipPermit}
    (done : before.acquireOwnership kernel fault agentRunId ownerId expectedRevision expectedEpoch
      observedAt expiresAt leaseId eventId = .ok (after, .ok permit))
    (written : after.events.rows ≠ before.events.rows) :
    permit.fencingToken = before.fencingCounter + 1 ∧
      after.fencingCounter = permit.fencingToken := by
  simp only [acquireOwnership, bind_eq_ok, raiseIf_eq_ok, exists_const] at done
  obtain ⟨_, candidate, _, current, _, _, done⟩ := done
  split at done
  · split at done
    · have counted := token_of_takeOwnership done
      exact counted
    · split at done
      · simp only [Except.ok.injEq, Prod.mk.injEq] at done
        exact absurd (congrArg (·.events.rows) done.1.symm) written
      · exact absurd done (by simp)
  · exact token_of_takeOwnership done

/-! ## Spent permits -/

/-- A token of a run has been issued, and no owner of the run has it. -/
def Spent (db : AgentTables) (agentRunId : Uuid) (fencingToken : Nat) : Prop :=
  fencingToken ≤ db.fencingCounter ∧
    ∀ owner ∈ db.ownership.rows, owner.agentRunId = agentRunId →
      owner.fencingToken ≠ fencingToken

/-- A spent token stays spent. -/
theorem spent_of_effect {run : Uuid} {token : Nat} (spent : before.Spent run token)
    (effect : AgentEffect sha before after) : after.Spent run token := by
  obtain ⟨issued, absent⟩ := spent
  cases effect with
  | idle same => rw [same]; exact ⟨issued, absent⟩
  | created creation ownership counter =>
    rw [Spent, ownership, counter]
    exact ⟨issued, absent⟩
  | advanced advance tokenless ownership counter =>
    refine ⟨by rw [counter]; exact issued, ?_⟩
    intro owner member
    rw [ownership] at member
    split at member
    · exact absent owner (List.mem_filter.mp member).1
    · exact absent owner member
  | acquired advance given drawn of_run epoch ownership counter =>
    refine ⟨by omega, ?_⟩
    intro owner member named
    rw [ownership] at member
    rcases List.mem_append.mp member with earlier | new
    · exact absent owner (List.mem_filter.mp earlier).1 named
    · rw [List.mem_singleton.mp new]
      omega
  | renewed expiresAt present ownership runs events counter =>
    refine ⟨by rw [counter]; exact issued, ?_⟩
    intro owner member
    rw [ownership] at member
    obtain ⟨old, stored, rfl⟩ := List.mem_map.mp member
    split <;> exact absent old stored
  | released present ownership runs events counter =>
    refine ⟨by rw [counter]; exact issued, ?_⟩
    intro owner member
    rw [ownership] at member
    exact absent owner (List.mem_filter.mp member).1

end AgentTables

end Macr
