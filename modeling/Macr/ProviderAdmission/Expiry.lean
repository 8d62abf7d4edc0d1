import Macr.ProviderAdmission.Endings
import Macr.ProviderAdmission.Turns

/-!
# Expiry under a closed circuit

While the circuit is closed, expiry rewrites each request of the provider by itself, and where it
appends a receipt the circuit stays closed. So it can be computed row by row, it gives back units
and takes none, and doing it twice at one clock is doing it once.
-/

namespace Macr

open Lib

namespace ProviderAdmissionKernel

variable {sha : Sha256} {kernel : ProviderAdmissionKernel} {db : RuntimeDb} {now : Timestamp}
  {state : ControlRow}

/-! ## One row -/

/-- A request of a provider as an expiry leaves it. -/
def outlived (provider : String) (now : Timestamp) (row : RequestRow) : RequestRow :=
  if row.providerId = provider ∧ row.expiresAt ≤ now then
    match row.state with
    | .waiting | .granted =>
      { row with toRequestProgress := row.toRequestProgress.cancelled now }
    | .dispatched => { row with toRequestProgress := row.toRequestProgress.expired now }
    | _ => row
  else row

/-- An expiry rewrites no identity. -/
theorem identity_outlived (provider : String) (now : Timestamp) (row : RequestRow) :
    (outlived provider now row).toRequestIdentity = row.toRequestIdentity := by
  unfold outlived
  split
  · split <;> rfl
  · rfl

/-- A request that has not expired stays. -/
theorem outlived_of_unexpired {provider : String} {row : RequestRow}
    (unexpired : now < row.expiresAt) : outlived provider now row = row := by
  unfold outlived
  rw [if_neg]
  rintro ⟨_, expired⟩
  exact absurd unexpired (Nat.not_lt.mpr expired)

/-- A request that waits after an expiry has not expired, or is another provider's. -/
theorem waiting_of_outlived {provider : String} {row : RequestRow}
    (waiting : (outlived provider now row).state = .waiting) :
    outlived provider now row = row ∧ (row.providerId = provider → now < row.expiresAt) := by
  unfold outlived at waiting ⊢
  split at waiting
  · split at waiting
    · cases waiting
    · cases waiting
    · cases waiting
    · rename_i notWaiting _ _
      exact absurd waiting notWaiting
  · rename_i unexpired
    rw [if_neg unexpired]
    refine ⟨rfl, fun own => ?_⟩
    by_contra expired
    exact unexpired ⟨own, Nat.le_of_not_lt expired⟩

/-- Expiry takes no unit. -/
theorem holds_of_outlived {provider : String} {row : RequestRow}
    (holds : (outlived provider now row).state.holdsCapacity = true) :
    row.state.holdsCapacity = true := by
  unfold outlived at holds
  split at holds
  · split at holds
    · cases holds
    · cases holds
    · rename_i dispatched
      rw [dispatched]
      rfl
    · exact holds
  · exact holds

/-- An expired row has nothing left to expire. -/
theorem outlived_outlived (provider : String) (now : Timestamp) (row : RequestRow) :
    outlived provider now (outlived provider now row) = outlived provider now row := by
  by_cases expired : row.providerId = provider ∧ row.expiresAt ≤ now
  · cases at_state : row.state <;>
      simp [outlived, expired, at_state, RequestProgress.cancelled, RequestProgress.expired]
  · have same : outlived provider now row = row := if_neg expired
    rw [same, same]

/-! ## The loop -/

/-- What the expiry loop has done under a closed circuit: the requests behind it are as an expiry
leaves them, and nothing else that a selection reads has changed. -/
structure Sifted (kernel : ProviderAdmissionKernel) (now : Timestamp) (tables : AdmissionTables)
    (found : AdmissionTables × Option Uuid) (rows : List RequestRow) : Prop where
  /-- The requests ahead are untouched. -/
  requests : found.1.requests.rows = tables.requests.rows.map (fun row =>
    if row ∈ rows then row else outlived kernel.policy.providerId now row)
  /-- Policies stay. -/
  policies : found.1.policies = tables.policies
  /-- Control rows stay. -/
  states : found.1.states = tables.states
  /-- Receipts stay. -/
  transitions : found.1.transitions = tables.transitions
  /-- Projects keep their last turns. -/
  turns : ∀ provider project, lastGrant found.1 provider project = lastGrant tables provider project
  /-- What is found is a dispatch that has expired. -/
  expired : ∀ requestId ∈ found.2, ∃ row ∈ tables.requests.rows, row.requestId = requestId ∧
    row.providerId = kernel.policy.providerId ∧ row.state = .dispatched ∧ row.expiresAt ≤ now

/-- The loop starts sifted. -/
theorem sifted_start (tables : AdmissionTables) : Sifted kernel now tables (tables, none)
    (expiring tables kernel.policy.providerId) where
  requests := by
    conv_lhs => rw [← List.map_id tables.requests.rows]
    refine List.map_congr_left fun row stored => ?_
    split
    · rfl
    · rename_i notAhead
      -- A request that can not expire is one that an expiry leaves.
      unfold outlived
      split
      · rename_i expired
        split
        · rename_i waiting
          exact absurd (List.mem_filter.mpr ⟨stored, by simp [expired.1, waiting]⟩) notAhead
        · rename_i granted
          exact absurd (List.mem_filter.mpr ⟨stored, by simp [expired.1, granted]⟩) notAhead
        · rename_i dispatched
          exact absurd (List.mem_filter.mpr ⟨stored, by simp [expired.1, dispatched]⟩) notAhead
        · rfl
      · rfl
  policies := rfl
  states := rfl
  transitions := rfl
  turns := fun _ _ => rfl
  expired := by simp

/-- A turn that rewrites its request as an expiry leaves it keeps the requests sifted. -/
theorem sifted_requests {tables mid : AdmissionTables} {item : RequestRow} {rest : List RequestRow}
    (distinct : ((item :: rest).map (fun row => row.requestId)).Nodup)
    (ahead : ∀ row ∈ item :: rest, row ∈ tables.requests.rows)
    (sifted : mid.requests.rows = tables.requests.rows.map (fun row =>
      if row ∈ item :: rest then row else outlived kernel.policy.providerId now row))
    {progress : RequestProgress} (rewritten : { item with toRequestProgress := progress } =
      outlived kernel.policy.providerId now item) :
    (mid.rewriteRequest item progress).requests.rows = tables.requests.rows.map (fun row =>
      if row ∈ rest then row else outlived kernel.policy.providerId now row) := by
  have alone : item ∉ rest := by
    intro later
    rw [List.map_cons, List.nodup_cons] at distinct
    exact distinct.1 (List.mem_map.mpr ⟨item, later, rfl⟩)
  show List.map _ mid.requests.rows = _
  rw [sifted, List.map_map]
  refine List.map_congr_left fun row stored => ?_
  by_cases same : row.requestId = item.requestId
  · have equal := tables.requests.eq_of_key stored (ahead item List.mem_cons_self) same
    subst equal
    simp [alone, ← rewritten]
  · have apart : row ≠ item := fun equal => same (congrArg (·.requestId) equal)
    have identity : (outlived kernel.policy.providerId now row).requestId = row.requestId :=
      congrArg (·.requestId) (identity_outlived kernel.policy.providerId now row)
    by_cases later : row ∈ rest <;> simp [later, apart, same, identity]

/-- What one turn of the loop keeps. -/
theorem Sifted.next {tables mid : AdmissionTables} {found : AdmissionTables × Option Uuid}
    {item : RequestRow} {rest : List RequestRow} {first : Option Uuid}
    (sifted : Sifted kernel now tables found (item :: rest))
    (requests : mid.requests.rows = tables.requests.rows.map (fun row =>
      if row ∈ rest then row else outlived kernel.policy.providerId now row))
    (policies : mid.policies = found.1.policies) (states : mid.states = found.1.states)
    (transitions : mid.transitions = found.1.transitions)
    (turns : ∀ provider project, lastGrant mid provider project =
      lastGrant found.1 provider project)
    (expired : ∀ requestId ∈ first, ∃ row ∈ tables.requests.rows, row.requestId = requestId ∧
      row.providerId = kernel.policy.providerId ∧ row.state = .dispatched ∧ row.expiresAt ≤ now) :
    Sifted kernel now tables (mid, first) rest where
  requests := requests
  policies := policies.trans sifted.policies
  states := states.trans sifted.states
  transitions := transitions.trans sifted.transitions
  turns := fun provider project => (turns provider project).trans (sifted.turns provider project)
  expired := expired

/-- Under a closed circuit every turn of the loop succeeds and sifts its request. -/
theorem expireRow_sifts {found : AdmissionTables × Option Uuid} {item : RequestRow}
    {rest : List RequestRow} (capacity : CapacityInvariant db.admission)
    (known : PolicyKnown sha db.admission kernel.policy) (closed : state.circuitState = .closed)
    (subset : ∀ row ∈ item :: rest, row ∈ db.admission.requests.rows)
    (held : Expiring sha kernel db now state found (item :: rest))
    (sifted : Sifted kernel now db.admission found (item :: rest)) :
    ∃ next, kernel.expireRow sha state now found item = .ok next ∧
      Sifted kernel now db.admission next rest := by
  obtain ⟨stored, own, live⟩ := held.ahead item List.mem_cons_self
  by_cases unexpired : now < item.expiresAt
  · -- The request has not expired.
    refine ⟨found, by rw [expireRow, if_pos unexpired]; rfl, ?_⟩
    refine Sifted.next sifted ?_ rfl rfl rfl (fun _ _ => rfl) sifted.expired
    have same : outlived kernel.policy.providerId now item = item :=
      outlived_of_unexpired unexpired
    rw [sifted.requests]
    refine List.map_congr_left fun row _ => ?_
    by_cases itself : row = item
    · subst itself
      simp [same]
    · simp [itself]
  · have expired : item.expiresAt ≤ now := Nat.not_lt.mp unexpired
    unfold expireRow
    rw [if_neg unexpired]
    rcases live with waiting | granted | dispatched
    · -- A waiting request is cancelled.
      have left : { item with toRequestProgress := item.toRequestProgress.cancelled now } =
          outlived kernel.policy.providerId now item := by simp [outlived, own, expired, waiting]
      rw [waiting]
      refine ⟨_, rfl, ?_⟩
      rw [updateRequests_rowIn stored waiting]
      exact Sifted.next sifted (sifted_requests held.distinct subset sifted.requests left) rfl rfl rfl
        (fun _ _ => rfl) sifted.expired
    · -- A granted request is cancelled and gives its unit back.
      have left : { item with toRequestProgress := item.toRequestProgress.cancelled now } =
          outlived kernel.policy.providerId now item := by simp [outlived, own, expired, granted]
      obtain ⟨units, done⟩ := decrement_of_holding (capacity_expiring capacity known held) stored
        (by simp [granted, RequestState.holdsCapacity]) now
      obtain ⟨policies, states, transitions, requests⟩ :=
        (AdmissionTables.decrementProject_eq_ok done).1
      have turns : ∀ provider project, lastGrant units provider project =
          lastGrant found.1 provider project := lastGrant_decrementProject done
      have one : units.requests.rows.countP (rowIn item.requestId .granted) = 1 := by
        rw [requests]
        exact Table.countP_eq_one _ stored (by simp [rowIn, granted])
          (fun other met => (of_decide_eq_true met).1)
      have cancelled : kernel.cancelGrantedRow sha found.1 item state now .halfOpenProbeExpired =
          .ok (units.updateRequests (rowIn item.requestId .granted) (·.cancelled now)) := by
        simp only [cancelGrantedRow]
        rw [raiseIf_bind_of_not (by simp [granted]), done, ok_bind,
          raiseIf_bind_of_not (by simp [one]), if_neg (by simp [closed])]
        rfl
      rw [granted]
      refine ⟨_, by rw [cancelled]; rfl, ?_⟩
      rw [updateRequests_rowIn (requests ▸ stored) granted]
      exact Sifted.next sifted (sifted_requests held.distinct subset (requests ▸ sifted.requests) left)
        policies states transitions turns sifted.expired
    · -- A dispatched request becomes uncertain.
      have left : { item with toRequestProgress := item.toRequestProgress.expired now } =
          outlived kernel.policy.providerId now item := by simp [outlived, own, expired, dispatched]
      rw [dispatched]
      refine ⟨_, rfl, ?_⟩
      rw [updateRequests_rowIn stored dispatched]
      refine Sifted.next sifted (sifted_requests held.distinct subset sifted.requests left) rfl rfl
        rfl (fun _ _ => rfl) ?_
      intro requestId given
      cases earlier : found.2 with
      | none =>
        simp only [earlier, Option.getD_none, Option.mem_def, Option.some.injEq] at given
        exact ⟨item, subset item List.mem_cons_self, given, own, dispatched, expired⟩
      | some first =>
        simp only [earlier, Option.getD_some, Option.mem_def, Option.some.injEq] at given
        exact sifted.expired requestId (earlier.trans (by rw [given]))

/-! ## The whole expiry -/

/-- What an expiry under a closed circuit leaves. -/
structure Refreshed (sha : Sha256) (kernel : ProviderAdmissionKernel) (now : Timestamp)
    (state : ControlRow) (before after : AdmissionTables) : Prop where
  /-- Each request is as an expiry leaves it. -/
  requests : after.requests.rows =
    before.requests.rows.map (outlived kernel.policy.providerId now)
  /-- Projects keep their last turns. -/
  turns : ∀ provider project, lastGrant after provider project = lastGrant before provider project
  /-- The control row validates and stays closed, with its target and its last lane. -/
  control : ∃ next, kernel.validatedState sha after = .ok next ∧ next.circuitState = .closed ∧
    next.effectiveTarget = state.effectiveTarget ∧ next.lastGrantedLane = state.lastGrantedLane

/-- Expiry succeeds under a closed circuit, unless it is to open it. -/
theorem expire_refreshes (injective : Function.Injective sha.sha256)
    (endable : Endable sha db.admission) (known : PolicyKnown sha db.admission kernel.policy)
    (stored : state ∈ db.admission.states.rows) (own : state.providerId = kernel.policy.providerId)
    (formed : state.wellFormed sha kernel.policy kernel.deploymentMode
      (kernel.deploymentDigest sha kernel.policy) = true)
    (closed : state.circuitState = .closed)
    (isolated : kernel.policy.uncertainDispatchScope = .global →
      ∀ row ∈ db.admission.requests.rows, row.providerId = kernel.policy.providerId →
        row.state = .dispatched → now < row.expiresAt) :
    ∃ after, kernel.expire sha db.admission now = .ok after ∧
      Refreshed sha kernel now state db.admission after := by
  have valid := validatedState_of_wellFormed (endable.chain kernel.policy.providerId) stored own formed
  have governs : Governs sha kernel db.admission state :=
    governs_of_validated (validatedControlState_eq_ok.mp valid)
  have start : Expiring sha kernel db now state (db.admission, none)
      (expiring db.admission kernel.policy.providerId) := expiring_start governs
  have subset : ∀ row ∈ expiring db.admission kernel.policy.providerId,
      row ∈ db.admission.requests.rows := fun row member => (List.mem_filter.mp member).1
  obtain ⟨⟨looped, first⟩, loop, ⟨held, sifted⟩, _⟩ := foldlM_succeeds
    (fun found rows => (Expiring sha kernel db now state found rows ∧
      Sifted kernel now db.admission found rows) ∧ ∀ row ∈ rows, row ∈ db.admission.requests.rows)
    (by
      intro found item rest ⟨⟨held, sifted⟩, listed⟩
      obtain ⟨next, turned, kept⟩ := expireRow_sifts endable.capacity known closed listed held sifted
      exact ⟨next, turned, ⟨expireRow_keeps held turned, kept⟩,
        fun row later => listed row (List.mem_cons_of_mem _ later)⟩)
    ⟨⟨start, sifted_start db.admission⟩, subset⟩
  have requests : looped.requests.rows =
      db.admission.requests.rows.map (outlived kernel.policy.providerId now) := by
    rw [sifted.requests]
    simp
  have chain := chain_of_control endable.chain sifted.policies sifted.states sifted.transitions
  cases first with
  | none =>
    have expires : kernel.expire sha db.admission now = .ok looped := by
      unfold expire
      rw [valid, ok_bind, loop, ok_bind]
      rfl
    refine ⟨looped, expires, requests, sifted.turns, state, ?_, closed, rfl, rfl⟩
    exact validatedState_of_wellFormed (chain _) (sifted.states ▸ stored) own formed
  | some requestId =>
    -- The expired dispatch is isolated, so the circuit stays closed.
    obtain ⟨row, rowStored, _, rowOwn, dispatched, expired⟩ := sifted.expired requestId rfl
    have scope : kernel.policy.uncertainDispatchScope = .capacityReservation := by
      cases scope : kernel.policy.uncertainDispatchScope with
      | global =>
        have unexpired := isolated scope row rowStored rowOwn dispatched
        exact absurd unexpired (Nat.not_lt.mpr expired)
      | capacityReservation => rfl
    have keeps : expiryIsolated kernel.policy state = true := by simp [expiryIsolated, scope, closed]
    have target := formed
    simp only [ControlRow.wellFormed, decide_eq_true_eq] at target
    have changeFormed : (expiryChange kernel.policy state requestId).Formed kernel.policy :=
      ⟨target.2.2.2.1, target.2.2.2.2.1, by simp [expiryChange, keeps]⟩
    have knownHere : PolicyKnown sha looped kernel.policy := by
      obtain ⟨policy, kept, columns⟩ := known
      exact ⟨policy, sifted.policies.symm ▸ kept, columns⟩
    obtain ⟨⟨final, next⟩, appended⟩ := append_succeeds injective chain (sifted.states.symm ▸ stored)
      own knownHere changeFormed now
    obtain ⟨_, moved, _, validated⟩ := appendControlTransition_eq_ok appended
    have projected := validated.stored
    have expires : kernel.expire sha db.admission now = .ok final := by
      unfold expire
      rw [valid, ok_bind, loop, ok_bind]
      show (kernel.appendControlTransition sha looped (some state)
        (expiryChange kernel.policy state requestId) now kernel.policy >>= _) = _
      rw [appended]
      rfl
    refine ⟨final, expires, ?_, ?_, next, ?_⟩
    · rw [moved.requests, requests]
    · intro provider project
      rw [← sifted.turns provider project, lastGrant, lastGrant, AdmissionTables.project?,
        AdmissionTables.project?, moved.projects]
    · refine ⟨validatedControlState_eq_ok.mpr validated, ?_⟩
      rw [moved.states, Table.mem_update] at projected
      obtain ⟨old, oldStored, same⟩ := projected
      have equal : old = state := by
        have ownNext := validated.provider
        rw [sifted.states] at oldStored
        refine db.admission.states.eq_of_key oldStored stored (Eq.trans ?_ own.symm)
        rw [← same] at ownNext
        split at ownNext
        · exact ownNext
        · exact ownNext
      subst equal
      rw [if_pos (by simp [nextBody, own])] at same
      have shape : moveProjection sha _ old = next := same
      rw [← shape]
      simp [moveProjection, nextBody, expiryChange, keeps]

/-- A second expiry at the same clock changes nothing. -/
theorem expire_refreshed {before after : AdmissionTables}
    (refreshed : Refreshed sha kernel now state before after) :
    kernel.expire sha after now = .ok after := by
  obtain ⟨next, valid, _⟩ := refreshed.control
  have stays : ∀ row ∈ expiring after kernel.policy.providerId, now < row.expiresAt := by
    intro row member
    obtain ⟨stored, met⟩ := List.mem_filter.mp member
    simp only [decide_eq_true_eq] at met
    rw [refreshed.requests, List.mem_map] at stored
    obtain ⟨old, _, rfl⟩ := stored
    by_contra expired
    have still := outlived_outlived kernel.policy.providerId now old
    generalize outlived kernel.policy.providerId now old = row at met expired still
    have due : row.providerId = kernel.policy.providerId ∧ row.expiresAt ≤ now :=
      ⟨met.1, Nat.not_lt.mp expired⟩
    have moved := congrArg (·.state) still
    rcases met.2 with waiting | granted | dispatched
    · simp [outlived, due, waiting, RequestProgress.cancelled] at moved
    · simp [outlived, due, granted, RequestProgress.cancelled] at moved
    · simp [outlived, due, dispatched, RequestProgress.expired] at moved
  have loop : ∀ rows : List RequestRow, (∀ row ∈ rows, now < row.expiresAt) →
      rows.foldlM (kernel.expireRow sha next now) (after, none) = .ok (after, none) := by
    intro rows unexpired
    induction rows with
    | nil => rfl
    | cons row rest ih =>
      rw [List.foldlM_cons, expireRow, if_pos (unexpired row List.mem_cons_self)]
      exact ih fun other later => unexpired other (List.mem_cons_of_mem _ later)
  unfold expire
  rw [valid, ok_bind, loop _ stays]
  rfl

end ProviderAdmissionKernel
end Macr
