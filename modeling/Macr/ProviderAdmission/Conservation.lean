import Macr.CanonicalCode
import Macr.ProviderAdmission.Expiry
import Macr.ProviderAdmission.Lifecycle

/-!
# Work conservation

While capacity is left under a closed circuit and some request may have it, exactly one waiting
request is granted by its own next poll. The others are told that they are busy, and no number of
such answers moves the turn: at one clock a first poll only expires what has expired, and a later
one changes nothing.
-/

namespace Macr

open Lib

namespace ProviderAdmissionKernel

variable {sha : Sha256} {kernel : ProviderAdmissionKernel} {provider : String} {kind : EffectKind}
  {before after db : RuntimeDb} {now : Timestamp}

/-! ## The policy of waiting requests -/

/-- A waiting request is under the policy that its provider's control row has. -/
def WaitingNamed (tables : AdmissionTables) : Prop :=
  ∀ row ∈ tables.requests.rows, row.state = .waiting →
    ∃ control ∈ tables.states.rows, control.providerId = row.providerId ∧
      control.policyDigest = row.policyDigest

/-- A new database has no waiting request. -/
theorem waitingNamed_initial : WaitingNamed .initial := by
  intro row member
  simp [AdmissionTables.initial] at member

/-- A change after which every waiting request waited before, and every control row has a
successor under its policy, keeps the waiting requests named. -/
theorem waitingNamed_of_kept {before after : AdmissionTables} (named : WaitingNamed before)
    (waits : ∀ row ∈ after.requests.rows, row.state = .waiting →
      ∃ old ∈ before.requests.rows, old.toRequestIdentity = row.toRequestIdentity ∧
        old.state = .waiting)
    (controls : ∀ row ∈ after.requests.rows, row.state = .waiting →
      ∀ control ∈ before.states.rows, control.providerId = row.providerId →
        ∃ next ∈ after.states.rows, next.providerId = control.providerId ∧
          next.policyDigest = control.policyDigest) : WaitingNamed after := by
  intro row member waiting
  obtain ⟨old, stored, same, waited⟩ := waits row member waiting
  obtain ⟨control, held, own, digest⟩ := named old stored waited
  have provider : old.providerId = row.providerId := congrArg (·.providerId) same
  have policy : old.policyDigest = row.policyDigest := congrArg (·.policyDigest) same
  obtain ⟨next, kept, nextOwn, nextDigest⟩ := controls row member waiting control held
    (own.trans provider)
  exact ⟨next, kept, nextOwn.trans (own.trans provider), nextDigest.trans (digest.trans policy)⟩

/-- Rewriting a request to a state other than waiting keeps them named. -/
theorem waitingNamed_of_rewrite {tables mid : AdmissionTables} {row : RequestRow}
    (named : WaitingNamed tables) (requests : mid.requests = tables.requests)
    (states : mid.states = tables.states) (stored : row ∈ tables.requests.rows)
    {progress : RequestProgress} (moved : progress.state ≠ .waiting) :
    WaitingNamed (mid.rewriteRequest row progress) := by
  refine waitingNamed_of_kept named ?_ ?_
  · intro other member waiting
    rcases (mid.mem_rewriteRequest (requests.symm ▸ stored) progress other).mp member with
      ⟨held, _⟩ | rfl
    · exact ⟨other, requests ▸ held, rfl, waiting⟩
    · exact absurd waiting moved
  · intro _ _ _ control held _
    have kept : control ∈ (mid.rewriteRequest row progress).states.rows := states.symm ▸ held
    exact ⟨control, kept, rfl, rfl⟩

/-- A receipt under the policy of the row it follows keeps them named. -/
theorem waitingNamed_of_appended {tables next : AdmissionTables} {state : ControlRow}
    {change : ControlChange} {now : Timestamp} {policy : ProviderAdmissionPolicy}
    (named : WaitingNamed tables) (stored : state ∈ tables.states.rows)
    (own : state.providerId = policy.providerId)
    (appended : Appended sha tables (kernel.nextBody sha (some state) change now policy) next)
    (same : state.policyDigest = policy.policyDigest sha ∨ ∀ row ∈ tables.requests.rows,
      row.providerId = policy.providerId → row.state ≠ .waiting) : WaitingNamed next := by
  refine waitingNamed_of_kept named ?_ ?_
  · intro row member waiting
    exact ⟨row, appended.requests ▸ member, rfl, waiting⟩
  · intro row member waiting control held owned
    by_cases moved : control.providerId = policy.providerId
    · have equal : control = state := tables.states.eq_of_key held stored (moved.trans own.symm)
      subst equal
      rcases same with digest | idle
      · refine ⟨_, appended.projected held (by simp [nextBody, own]), rfl, ?_⟩
        simp [moveProjection, nextBody, digest]
      · exact absurd waiting (idle row (appended.requests ▸ member) (owned.symm.trans moved))
    · refine ⟨control, ?_, rfl, rfl⟩
      rw [appended.states, Table.mem_update]
      exact ⟨control, held, by simp [nextBody, moved]⟩

/-- Every effect keeps the waiting requests named. -/
theorem waitingNamed_of_effect (effect : Effect sha kernel provider kind before after)
    (named : WaitingNamed before.admission) : WaitingNamed after.admission := by
  cases effect with
  | move stored own edge token =>
    exact waitingNamed_of_rewrite named rfl rfl stored (target_of_moves edge).2
  | release stored own edge token decremented =>
    obtain ⟨_, states, _, requests⟩ := (AdmissionTables.decrementProject_eq_ok decremented).1
    exact waitingNamed_of_rewrite named requests states stored (target_of_releases edge).2
  | @enqueue _ state request ttlSeconds now tables own ownPolicy governs circuit probe inserted =>
    obtain ⟨rows, _⟩ := insertRequest_rows inserted
    simp only [insertRequest, bind_eq_ok, raiseIf_eq_ok, exists_const, require_eq_ok,
      pure_eq_ok] at inserted
    obtain ⟨_, requests, _, rfl⟩ := inserted
    intro row member waiting
    rw [rows, List.mem_append, List.mem_singleton] at member
    rcases member with held | rfl
    · exact named row held waiting
    · exact ⟨state, governs.stored, governs.provider.trans (own.trans ownPolicy).symm,
        governs.policyDigest⟩
  | @grant _ state row request now own ownPolicy governs circuit probe stored chosen waiting =>
    have there : row ∈ (reserve before.admission state request now).requests.rows := stored
    rw [grant_admission stored chosen waiting]
    refine waitingNamed_of_kept named ?_ ?_
    · intro other member waits
      rcases (AdmissionTables.mem_rewriteRequest _ there _ other).mp member with ⟨held, _⟩ | rfl
      · exact ⟨other, held, rfl, waits⟩
      · cases waits
    · intro _ _ _ control held _
      have kept := Table.mem_update_of_mem before.admission.states
        (fun row => row.providerId = request.providerId)
        (fun row => { row with
          grantSequence := state.grantSequence + 1
          lastGrantedLane := some request.lane
          updatedAt := now }) (fun _ => rfl) held
      refine ⟨_, kept, ?_⟩
      split <;> exact ⟨rfl, rfl⟩
  | receipt kinds governs stored own about target notHalfOpen stop appended =>
    exact waitingNamed_of_appended named governs.stored governs.provider appended
      (.inl governs.policyDigest)
  | target governs wasClosed closed formed about idle appended =>
    exact waitingNamed_of_appended named governs.stored governs.provider appended
      (.inl governs.policyDigest)
  | halfOpen governs wasOpen halfOpen target about idle appended =>
    exact waitingNamed_of_appended named governs.stored governs.provider appended
      (.inl governs.policyDigest)
  | supersede governs notHalfOpen sameProvider closed formed about settled capacity projectCap
      policy appended =>
    have kept : WaitingNamed _ := waitingNamed_of_kept named
      (fun row member waiting => ⟨row, policy.requests ▸ member, rfl, waiting⟩)
      (fun _ _ _ control held _ => ⟨control, policy.states.symm ▸ held, rfl, rfl⟩)
    refine waitingNamed_of_appended kept (policy.states.symm ▸ governs.stored)
      (governs.provider.trans sameProvider.symm) appended (.inr fun row member owned => ?_)
    exact (settled row (policy.requests ▸ member) (owned.trans sameProvider)).1
  | genesis absent closed formed about policy transitions states others =>
    refine waitingNamed_of_kept named (fun row member waiting =>
      ⟨row, others.2.2.trans policy.requests ▸ member, rfl, waiting⟩) ?_
    intro _ _ _ control held _
    refine ⟨control, ?_, rfl, rfl⟩
    rw [states]
    exact List.mem_append_left _ (policy.states.symm ▸ held)
  | policy policy =>
    exact waitingNamed_of_kept named
      (fun row member waiting => ⟨row, policy.requests ▸ member, rfl, waiting⟩)
      (fun _ _ _ control held _ => ⟨control, policy.states.symm ▸ held, rfl, rfl⟩)
  | authority => exact named
  | token => exact named

/-! ## Polls of waiting requests -/

/-- A request that waits for the kernel's provider and has not expired. -/
def Contends (kernel : ProviderAdmissionKernel) (tables : AdmissionTables) (now : Timestamp)
    (row : RequestRow) : Prop :=
  row ∈ tables.requests.rows ∧ row.providerId = kernel.policy.providerId ∧
    row.state = .waiting ∧ now < row.expiresAt

/-- A request is the one that a row was inserted for. -/
def Polls (sha : Sha256) (kernel : ProviderAdmissionKernel) (row : RequestRow)
    (request : ProviderAdmissionRequest) : Prop :=
  request.requestId = row.requestId ∧
    rowMatchesRequest row request (kernel.policy.policyDigest sha) = true

/-- A poll commits the grant of its request, under the next token. -/
def Granted (sha : Sha256) (kernel : ProviderAdmissionKernel) (db : RuntimeDb)
    (request : ProviderAdmissionRequest) (ttlSeconds : Nat) (now : Timestamp) : Prop :=
  ∃ after result, kernel.tryAdmit sha db request ttlSeconds now = .ok (after, result) ∧
    (∃ row ∈ after.admission.requests.rows, row.requestId = request.requestId ∧
      row.state = .granted ∧ row.fencingToken = some (db.fencingCounter + 1) ∧
      result = permitFromRow row) ∧
    (db.fencingCounter + 1 < 2 ^ 63 → ∃ permit, result = .ok permit)

/-- A poll is told that the provider is busy, and commits what it expired. -/
def Busy (sha : Sha256) (kernel : ProviderAdmissionKernel) (db : RuntimeDb)
    (request : ProviderAdmissionRequest) (ttlSeconds : Nat) (now : Timestamp)
    (next : RuntimeDb) : Prop :=
  ∃ message, kernel.tryAdmit sha db request ttlSeconds now =
    .ok (next, .error (.providerAdmissionBusy message))

/-- A poll of a waiting request that is told so. -/
def Passes (sha : Sha256) (kernel : ProviderAdmissionKernel) (tables : AdmissionTables)
    (now : Timestamp) (before after : RuntimeDb) : Prop :=
  ∃ row request ttlSeconds, Contends kernel tables now row ∧ Polls sha kernel row request ∧
    Busy sha kernel before request ttlSeconds now after

/-- Capacity is left under a closed circuit, and some request may have it. -/
structure Servable (sha : Sha256) (kernel : ProviderAdmissionKernel) (db : RuntimeDb)
    (now : Timestamp) : Prop where
  /-- The circuit is closed, with capacity left. -/
  closed : ∃ state, kernel.validatedState sha db.admission = .ok state ∧
    state.circuitState = .closed ∧
    db.admission.activeUnits kernel.policy.providerId < state.effectiveTarget
  /-- Under a global scope nothing is unresolved. -/
  resolved : kernel.policy.uncertainDispatchScope = .global →
    db.admission.countRequests kernel.policy.providerId (· = .reconciliationRequired) = 0
  /-- A request that has not expired waits below its project's cap. -/
  waiting : ∃ row, Contends kernel db.admission now row ∧
    db.admission.projectActive kernel.policy.providerId row.projectBindingDigest + 1 ≤
      kernel.policy.perProjectCap

/-- Under a global scope no dispatch has outlived its permit. -/
def DispatchesLive (kernel : ProviderAdmissionKernel) (db : RuntimeDb) (now : Timestamp) : Prop :=
  kernel.policy.uncertainDispatchScope = .global → ∀ row ∈ db.admission.requests.rows,
    row.providerId = kernel.policy.providerId → row.state = .dispatched → now < row.expiresAt

/-- Exactly one waiting request is granted by its own next poll. The polls of the others are told
that they are busy, those of expired ones that they have ended, and none of it moves the turn. -/
structure Conserves (sha : Sha256) (kernel : ProviderAdmissionKernel) (db : RuntimeDb)
    (now : Timestamp) (chosen : RequestRow) : Prop where
  /-- The chosen request waits. -/
  contends : Contends kernel db.admission now chosen
  /-- It waits for the policy of the kernel, so that its own poll repeats it. -/
  policy : chosen.policyDigest = kernel.policy.policyDigest sha
  /-- Its own poll is granted, after any number of busy answers. -/
  granted : ∀ later, Relation.ReflTransGen (Passes sha kernel db.admission now) db later →
    ∀ request ttlSeconds, Polls sha kernel chosen request →
      Granted sha kernel later request ttlSeconds now
  /-- The polls of the others are busy, after any number of busy answers. -/
  busy : ∀ later, Relation.ReflTransGen (Passes sha kernel db.admission now) db later →
    ∀ row request ttlSeconds, Contends kernel db.admission now row → row ≠ chosen →
      Polls sha kernel row request → ∃ next, Busy sha kernel later request ttlSeconds now next
  /-- The polls of those that have expired conflict, and change nothing. -/
  expired : ∀ later, Relation.ReflTransGen (Passes sha kernel db.admission now) db later →
    ∀ row ∈ db.admission.requests.rows, row.providerId = kernel.policy.providerId →
      row.state = .waiting → row.expiresAt ≤ now →
      ∀ request ttlSeconds, Polls sha kernel row request →
        kernel.tryAdmit sha later request ttlSeconds now = .error (.providerAdmissionConflict
          "provider admission request is already terminal or dispatched")

/-- A row with a token and the instant of its grant is a permit. -/
theorem permitFromRow_of_token {row : RequestRow} {token : Nat}
    (fenced : row.fencingToken = some token) (bounded : 1 ≤ token ∧ token < 2 ^ 63)
    (acquired : row.grantedAt = some now) : ∃ permit, permitFromRow row = .ok permit := by
  refine ⟨⟨row.requestId, row.providerId, row.projectBindingDigest, row.admissionLane, row.runId,
    row.authorityDigest, row.authorityEpoch, row.taskDigest, row.memberDigest,
    row.providerTierBindingDigest, row.policyDigest, token, now, row.expiresAt⟩, ?_⟩
  have kept : row.fencingToken.filter (fun token => 1 ≤ token ∧ token < 2 ^ 63) = some token := by
    rw [fenced]
    exact if_pos (by simpa using bounded)
  unfold permitFromRow
  rw [kept, acquired]
  rfl

/-- What a row is not a permit for is no busy answer. -/
theorem permitFromRow_not_busy (row : RequestRow) (message : String) :
    permitFromRow row ≠ .error (.providerAdmissionBusy message) := by
  intro failed
  unfold permitFromRow at failed
  cases fenced : row.fencingToken.filter (fun token => 1 ≤ token ∧ token < 2 ^ 63) with
  | none =>
    rw [fenced] at failed
    cases failed
  | some token =>
    rw [fenced] at failed
    cases acquired : row.grantedAt with
    | none =>
      rw [acquired] at failed
      cases failed
    | some instant =>
      rw [acquired] at failed
      cases failed

section Refreshed

variable {tables : AdmissionTables} {next : ControlRow} {request : ProviderAdmissionRequest}
  {row : RequestRow}

/-- A database whose expiry at a clock is known, with what a poll reads behind it. -/
structure Polled (sha : Sha256) (kernel : ProviderAdmissionKernel) (now : Timestamp)
    (db : RuntimeDb) (tables : AdmissionTables) (next : ControlRow) : Prop where
  /-- The expiry. -/
  expires : kernel.expire sha db.admission now = .ok tables
  /-- The control row behind it. -/
  valid : kernel.validatedState sha tables = .ok next
  /-- The circuit is closed. -/
  closed : next.circuitState = .closed
  /-- Under a global scope nothing is unresolved. -/
  resolved : kernel.policy.uncertainDispatchScope = .global →
    tables.countRequests kernel.policy.providerId (· = .reconciliationRequired) = 0

/-- The poll of a stored request reaches the turn of a waiting one, and conflicts with any other
that is not granted. -/
theorem tryAdmit_polled (polled : Polled sha kernel now db tables next)
    (stored : row ∈ tables.requests.rows) (own : row.providerId = kernel.policy.providerId)
    (polls : Polls sha kernel row request) (notGranted : row.state ≠ .granted)
    (ttlSeconds : Nat) :
    kernel.tryAdmit sha db request ttlSeconds now =
      if row.state = .waiting then
        kernel.grantIfServed { db with admission := tables } next request now
      else .error (.providerAdmissionConflict
        "provider admission request is already terminal or dispatched") := by
  have matching := polls.2
  have columns := matching
  simp only [rowMatchesRequest, decide_eq_true_eq] at columns
  have provider : request.providerId = kernel.policy.providerId := columns.1.symm.trans own
  have found : tables.requests.find? request.requestId = some row := by
    rw [polls.1]
    exact tables.requests.find?_self stored
  have settled : ¬(kernel.policy.uncertainDispatchScope = .global ∧
      0 < tables.countRequests request.providerId (· = .reconciliationRequired)) := by
    rintro ⟨scope, some⟩
    rw [provider, polled.resolved scope] at some
    exact absurd some (Nat.lt_irrefl 0)
  unfold tryAdmit
  rw [polled.expires, ok_bind]
  simp only [polled.valid, ok_bind]
  rw [if_neg (by simp [polled.closed]), if_neg (by simp [polled.closed]), if_neg settled, found]
  simp only
  rw [raiseIf_bind_of_not (by simp [matching]), if_neg notGranted]
  by_cases waiting : row.state = .waiting
  · rw [raiseIf_bind_of_not (by simp [waiting]), if_pos waiting]
  · rw [if_neg waiting]
    simp [raiseIf, waiting]
    rfl

/-- The answer to the poll of a waiting request: the grant of the one selected, and the others are
busy. -/
theorem grantIfServed_polled {ready : RuntimeDb} {chosen : RequestRow}
    (circuit : next.circuitState = .closed)
    (free : ready.admission.activeUnits kernel.policy.providerId < next.effectiveTarget)
    (selected : kernel.selectedWaiting ready.admission next = some chosen)
    (provider : request.providerId = kernel.policy.providerId) :
    kernel.grantIfServed ready next request now =
      if request.requestId = chosen.requestId then
        .ok (grant ready next request now, do
          let row ← require ((grant ready next request now).admission.requests.find?
            request.requestId) (.typeError "'NoneType' object is not subscriptable")
          permitFromRow row)
      else commitRaise ready
        (.providerAdmissionBusy "provider admission request is waiting for its fair turn") := by
  have capacity : effectiveCapacity next = next.effectiveTarget := by
    simp [effectiveCapacity, circuit]
  unfold grantIfServed
  rw [capacity, provider, if_neg (by omega), selected, Option.map_some]
  by_cases served : request.requestId = chosen.requestId
  · rw [if_neg (by simp [served]), if_pos served]
  · rw [if_pos (by simpa using fun same => served same.symm), if_neg served]

/-- The poll of the selected request is granted. -/
theorem granted_of_polled {chosen : RequestRow} (polled : Polled sha kernel now db tables next)
    (free : tables.activeUnits kernel.policy.providerId < next.effectiveTarget)
    (selected : kernel.selectedWaiting tables next = some chosen)
    (polls : Polls sha kernel chosen request) (ttlSeconds : Nat) :
    Granted sha kernel db request ttlSeconds now := by
  obtain ⟨stored, own, waiting, _⟩ := selectedWaiting_eq_some selected
  have columns := polls.2
  simp only [rowMatchesRequest, decide_eq_true_eq] at columns
  have provider : request.providerId = kernel.policy.providerId := columns.1.symm.trans own
  have answer := tryAdmit_polled polled stored own polls (by simp [waiting]) ttlSeconds
  rw [if_pos waiting, grantIfServed_polled polled.closed free selected provider,
    if_pos polls.1] at answer
  have written : (grant { db with admission := tables } next request now).admission =
      (reserve tables next request now).rewriteRequest chosen
        (chosen.toRequestProgress.granted (db.fencingCounter + 1) now) :=
    grant_admission stored polls.1.symm waiting
  have held : { chosen with toRequestProgress :=
      chosen.toRequestProgress.granted (db.fencingCounter + 1) now } ∈
      (grant { db with admission := tables } next request now).admission.requests.rows := by
    rw [written]
    exact (AdmissionTables.mem_rewriteRequest _ stored _ _).mpr (.inr rfl)
  have found := Table.find?_self _ held
  rw [show _ = request.requestId from polls.1.symm] at found
  refine ⟨_, _, answer, ⟨_, held, polls.1.symm, rfl, rfl, ?_⟩, fun bounded => ?_⟩
  · rw [found]
    rfl
  · rw [found]
    exact permitFromRow_of_token rfl ⟨Nat.le_add_left 1 _, bounded⟩ rfl

/-- The poll of another waiting request is busy. -/
theorem busy_of_polled {chosen : RequestRow} (polled : Polled sha kernel now db tables next)
    (free : tables.activeUnits kernel.policy.providerId < next.effectiveTarget)
    (selected : kernel.selectedWaiting tables next = some chosen)
    (stored : row ∈ tables.requests.rows) (own : row.providerId = kernel.policy.providerId)
    (waiting : row.state = .waiting) (other : row ≠ chosen)
    (polls : Polls sha kernel row request) (ttlSeconds : Nat) :
    Busy sha kernel db request ttlSeconds now { db with admission := tables } := by
  have columns := polls.2
  simp only [rowMatchesRequest, decide_eq_true_eq] at columns
  have provider : request.providerId = kernel.policy.providerId := columns.1.symm.trans own
  have different : request.requestId ≠ chosen.requestId := by
    intro same
    exact other (tables.requests.eq_of_key stored (selectedWaiting_eq_some selected).1
      (polls.1.symm.trans same))
  have answer := tryAdmit_polled polled stored own polls (by simp [waiting]) ttlSeconds
  rw [if_pos waiting, grantIfServed_polled polled.closed free selected provider,
    if_neg different] at answer
  exact ⟨_, answer⟩

/-- A busy answer to the poll of a waiting request leaves what the expiry leaves. -/
theorem next_of_busy {after : RuntimeDb} (polled : Polled sha kernel now db tables next)
    (stored : row ∈ tables.requests.rows) (own : row.providerId = kernel.policy.providerId)
    (waiting : row.state = .waiting) (polls : Polls sha kernel row request) {ttlSeconds : Nat}
    (busy : Busy sha kernel db request ttlSeconds now after) :
    after = { db with admission := tables } := by
  obtain ⟨message, answer⟩ := busy
  rw [tryAdmit_polled polled stored own polls (by simp [waiting]) ttlSeconds, if_pos waiting]
    at answer
  unfold grantIfServed at answer
  split at answer
  · rw [commitRaise_eq_ok] at answer
    exact congrArg (·.1) answer
  · split at answer
    · rw [commitRaise_eq_ok] at answer
      exact congrArg (·.1) answer
    · -- A grant does not answer that it is busy.
      simp only [Except.ok.injEq, Prod.mk.injEq] at answer
      cases found : (grant { db with admission := tables } next request now).admission.requests.find?
          request.requestId with
      | none => simp [found, require, bind, Except.bind] at answer
      | some granted =>
        rw [found] at answer
        exact absurd answer.2 (permitFromRow_not_busy granted message)

/-- An expiry at the same clock behind an expiry changes nothing that a poll reads. -/
theorem Polled.again {state : ControlRow} (polled : Polled sha kernel now db tables next)
    (refreshed : Refreshed sha kernel now state db.admission tables) :
    Polled sha kernel now { db with admission := tables } tables next where
  expires := expire_refreshed refreshed
  valid := polled.valid
  closed := polled.closed
  resolved := polled.resolved

end Refreshed

/-! ## The state a poll finds -/

section Servable

variable {tables : AdmissionTables} {state : ControlRow}

/-- The counts of an expired table that an expiry does not raise. -/
theorem countP_outlived (refreshed : Refreshed sha kernel now state db.admission tables)
    {condition before : RequestRow → Bool}
    (implied : ∀ row ∈ db.admission.requests.rows,
      condition (outlived kernel.policy.providerId now row) = true → before row = true) :
    tables.requests.rows.countP condition ≤ db.admission.requests.rows.countP before := by
  rw [refreshed.requests, List.countP_map]
  exact List.countP_mono_left implied

/-- Expiry raises no provider's count of units. -/
theorem activeUnits_outlived (refreshed : Refreshed sha kernel now state db.admission tables)
    (provider : String) : tables.activeUnits provider ≤ db.admission.activeUnits provider := by
  refine countP_outlived refreshed fun row _ holds => ?_
  simp only [decide_eq_true_eq] at holds ⊢
  have identity := identity_outlived kernel.policy.providerId now row
  exact ⟨(congrArg (·.providerId) identity).symm.trans holds.1, holds_of_outlived holds.2⟩

/-- Expiry raises no project's count of units. -/
theorem projectActive_outlived (refreshed : Refreshed sha kernel now state db.admission tables)
    (provider : String) (project : Digest) :
    tables.projectActive provider project ≤ db.admission.projectActive provider project := by
  refine countP_outlived refreshed fun row _ holds => ?_
  simp only [decide_eq_true_eq] at holds ⊢
  have identity := identity_outlived kernel.policy.providerId now row
  exact ⟨(congrArg (·.providerId) identity).symm.trans holds.1,
    (congrArg (·.projectBindingDigest) identity).symm.trans holds.2.1, holds_of_outlived holds.2.2⟩

/-- Where no dispatch has expired, an expiry leaves nothing unresolved that was not. -/
theorem resolved_outlived (refreshed : Refreshed sha kernel now state db.admission tables)
    (live : ∀ row ∈ db.admission.requests.rows, row.providerId = kernel.policy.providerId →
      row.state = .dispatched → now < row.expiresAt) :
    tables.countRequests kernel.policy.providerId (· = .reconciliationRequired) ≤
      db.admission.countRequests kernel.policy.providerId (· = .reconciliationRequired) := by
  refine countP_outlived refreshed fun row stored unresolved => ?_
  simp only [decide_eq_true_eq] at unresolved ⊢
  have identity := identity_outlived kernel.policy.providerId now row
  have own : row.providerId = kernel.policy.providerId :=
    (congrArg (·.providerId) identity).symm.trans unresolved.1
  refine ⟨own, ?_⟩
  have moved := unresolved.2
  unfold outlived at moved
  split at moved
  · rename_i due
    split at moved
    · cases moved
    · cases moved
    · rename_i dispatched
      exact absurd (live row stored own dispatched) (Nat.not_lt.mpr due.2)
    · exact moved
  · exact moved

/-- A request that contends is a waiting one behind the expiry, and the other way round. -/
theorem contends_iff_refreshed (refreshed : Refreshed sha kernel now state db.admission tables)
    (row : RequestRow) : Contends kernel db.admission now row ↔
      row ∈ tables.requests.rows ∧ row.providerId = kernel.policy.providerId ∧
        row.state = .waiting := by
  rw [refreshed.requests, List.mem_map]
  constructor
  · rintro ⟨stored, own, waiting, unexpired⟩
    exact ⟨⟨row, stored, outlived_of_unexpired unexpired⟩, own, waiting⟩
  · rintro ⟨⟨old, stored, rfl⟩, own, waiting⟩
    obtain ⟨same, unexpired⟩ := waiting_of_outlived waiting
    rw [same] at own waiting ⊢
    exact ⟨stored, own, waiting, unexpired own⟩

/-- A servable database refreshes, and behind its expiry a request that contends is selected. -/
theorem selected_of_servable (injective : Function.Injective sha.sha256)
    (endable : Endable sha db.admission) (known : PolicyKnown sha db.admission kernel.policy)
    (servable : Servable sha kernel db now) (live : DispatchesLive kernel db now) :
    ∃ state tables next chosen, Refreshed sha kernel now state db.admission tables ∧
      Polled sha kernel now db tables next ∧
      tables.activeUnits kernel.policy.providerId < next.effectiveTarget ∧
      kernel.selectedWaiting tables next = some chosen := by
  obtain ⟨state, valid, closed, free⟩ := servable.closed
  have validated := validatedControlState_eq_ok.mp valid
  obtain ⟨tables, expires, refreshed⟩ := expire_refreshes injective endable known validated.stored
    validated.provider validated.formed closed live
  obtain ⟨next, nextValid, nextClosed, target, lane⟩ := refreshed.control
  have polled : Polled sha kernel now db tables next := by
    refine ⟨expires, nextValid, nextClosed, fun scope => ?_⟩
    have settled := resolved_outlived refreshed (live scope)
    rw [servable.resolved scope] at settled
    exact Nat.le_zero.mp settled
  obtain ⟨row, contends, under⟩ := servable.waiting
  obtain ⟨held, own, waiting⟩ := (contends_iff_refreshed refreshed row).mp contends
  have eligible : row ∈ kernel.eligible tables := by
    have room := projectActive_outlived refreshed kernel.policy.providerId row.projectBindingDigest
    simp only [ProviderAdmissionKernel.eligible, List.mem_filter, decide_eq_true_eq]
    refine ⟨held, own, waiting, ?_⟩
    rw [own]
    omega
  obtain ⟨chosen, selected⟩ := firstServed_isSome tables
    (laneRows_nonempty next.lastGrantedLane (List.ne_nil_of_mem eligible))
  have units := activeUnits_outlived refreshed kernel.policy.providerId
  exact ⟨state, tables, next, chosen, refreshed, polled, by omega, selected⟩

/-- Busy answers leave the database that the first of them found expired. -/
theorem polled_of_passes {later : RuntimeDb} {next : ControlRow}
    (refreshed : Refreshed sha kernel now state db.admission tables)
    (polled : Polled sha kernel now db tables next)
    (passes : Relation.ReflTransGen (Passes sha kernel db.admission now) db later) :
    Polled sha kernel now later tables next := by
  have both : later = db ∨ later = { db with admission := tables } := by
    induction passes with
    | refl => exact .inl rfl
    | tail _ passed ih =>
      obtain ⟨row, request, ttlSeconds, contends, polls, busy⟩ := passed
      obtain ⟨held, own, waiting⟩ := (contends_iff_refreshed refreshed row).mp contends
      rcases ih with rfl | rfl
      · exact .inr (next_of_busy polled held own waiting polls busy)
      · have again : Polled sha kernel now { db with admission := tables } tables next :=
          polled.again refreshed
        have same := next_of_busy again held own waiting polls busy
        exact .inr same
  rcases both with rfl | rfl
  · exact polled
  · exact polled.again refreshed

/-- A servable database conserves work. -/
theorem conserves_of_servable (injective : Function.Injective sha.sha256)
    (endable : Endable sha db.admission) (known : PolicyKnown sha db.admission kernel.policy)
    (named : WaitingNamed db.admission) (servable : Servable sha kernel db now)
    (live : DispatchesLive kernel db now) : ∃ chosen, Conserves sha kernel db now chosen := by
  obtain ⟨state, tables, next, chosen, refreshed, polled, free, selected⟩ :=
    selected_of_servable injective endable known servable live
  obtain ⟨held, own, waiting, _⟩ := selectedWaiting_eq_some selected
  have contends := (contends_iff_refreshed refreshed chosen).mpr ⟨held, own, waiting⟩
  refine ⟨chosen, contends, ?_, ?_, ?_, ?_⟩
  · obtain ⟨validState, valid, _⟩ := servable.closed
    have validated := validatedControlState_eq_ok.mp valid
    obtain ⟨control, stored, sameProvider, digest⟩ := named chosen contends.1 waiting
    have equal : control = validState := db.admission.states.eq_of_key stored validated.stored
      (sameProvider.trans (own.trans validated.provider.symm))
    rw [← digest, equal]
    exact (governs_of_validated validated).policyDigest
  · intro later passes request ttlSeconds polls
    exact granted_of_polled (polled_of_passes refreshed polled passes) free selected polls ttlSeconds
  · intro later passes row request ttlSeconds contender other polls
    obtain ⟨rowHeld, rowOwn, rowWaiting⟩ := (contends_iff_refreshed refreshed row).mp contender
    exact ⟨_, busy_of_polled (polled_of_passes refreshed polled passes) free selected rowHeld rowOwn
      rowWaiting other polls ttlSeconds⟩
  · intro later passes row stored rowOwn rowWaiting expired request ttlSeconds polls
    have left : outlived kernel.policy.providerId now row ∈ tables.requests.rows := by
      rw [refreshed.requests]
      exact List.mem_map_of_mem stored
    have cancelled : outlived kernel.policy.providerId now row =
        { row with toRequestProgress := row.toRequestProgress.cancelled now } := by
      simp [outlived, rowOwn, rowWaiting, expired]
    rw [cancelled] at left
    have ended := tryAdmit_polled (polled_of_passes refreshed polled passes) left rowOwn polls
      (by simp [RequestProgress.cancelled]) ttlSeconds
    rw [if_neg (by simp [RequestProgress.cancelled])] at ended
    exact ended

end Servable

end ProviderAdmissionKernel

namespace AdmissionSystem

open ProviderAdmissionKernel

variable {sha : Sha256}

/-- A kernel of a policy. -/
def crowdedKernel (policy : ProviderAdmissionPolicy) : ProviderAdmissionKernel :=
  ⟨0, policy, .offlineTest⟩

/-- The sample scope with another policy. -/
def crowdedScope (sha : Sha256) (policy : ProviderAdmissionPolicy) : AuthorityScope :=
  { sampleScope sha "t1" with
    providerAdmissionPolicyDigests := [policy.policyDigest sha]
    legacy_tiers := (sampleScope sha "t1").legacy_tiers
    legacy_admission := by simp [sampleScope] }

/-- The reference of the authority of the sample run. -/
def crowdedReference (sha : Sha256) (policy : ProviderAdmissionPolicy) :
    AuthorizationReference where
  sourceKind := "t1"
  sourceId := "operator"
  digest := sha.sha256 (AuthorityBody.toDict
    ⟨7, "t1", "operator", 1, 0, crowdedScope sha policy, 1, 1000000000⟩)
  revision := 1
  epoch := 0
  scope := crowdedScope sha policy
  revision_positive := Nat.one_pos

/-- A request under that authority. -/
def crowdedRequest (sha : Sha256) (policy : ProviderAdmissionPolicy) (requestId : Uuid) :
    ProviderAdmissionRequest :=
  { sampleRequest sha requestId with authorization := crowdedReference sha policy }

/-- The permit of such a request. -/
def crowdedPermit (sha : Sha256) (policy : ProviderAdmissionPolicy) (requestId : Uuid)
    (ttlSeconds : Nat) : ProviderAdmissionPermit :=
  { samplePermit sha requestId requestId with
    authorityDigest := (crowdedReference sha policy).digest
    policyDigest := policy.policyDigest sha
    expiresAt := 2 + ttlSeconds * 1000000 }

/-- Requests are admitted in turn, each with its time to live. -/
def admitted (sha : Sha256) (policy : ProviderAdmissionPolicy) (asked : List (Uuid × Nat)) :
    List AdmissionAction :=
  [.install (crowdedKernel policy) 0 0 0,
    .issue "t1" "operator" (crowdedScope sha policy) 1000000000 1 7] ++
  asked.flatMap (fun entry => called (crowdedKernel policy)
    (.tryAdmit (crowdedRequest sha policy entry.1) entry.2) 2)

/-- A permit is given back. -/
def givenBack (sha : Sha256) (policy : ProviderAdmissionPolicy) (requestId : Uuid) :
    List AdmissionAction :=
  called (crowdedKernel policy) (.cancelBeforeTransport (crowdedPermit sha policy requestId 60)) 2

/-- One request is granted and gives its permit back, while two wait, one of them for a second. -/
def queued (sha : Sha256) : List AdmissionAction :=
  admitted sha glmProviderAdmissionPolicyV1 [(1, 60), (2, 60), (3, 1)] ++
    givenBack sha glmProviderAdmissionPolicyV1 1

/-- One request is dispatched for a second, and of seven that are granted one gives its permit back,
while one waits. -/
def crowded (sha : Sha256) : List AdmissionAction :=
  admitted sha glmProviderAdmissionPolicyV2
    ((1, 1) :: [2, 3, 4, 5, 6, 7, 8, 9].map (fun requestId => (requestId, 60))) ++
  called (crowdedKernel glmProviderAdmissionPolicyV2) (.beginTransport
    (crowdedPermit sha glmProviderAdmissionPolicyV2 1 1)
    (crowdedRequest sha glmProviderAdmissionPolicyV2 1)) 2 ++
  givenBack sha glmProviderAdmissionPolicyV2 8

/-- Servability, as it is computed. -/
def servableCheck (sha : Sha256) (kernel : ProviderAdmissionKernel) (db : RuntimeDb)
    (now : Timestamp) : Bool :=
  (match kernel.validatedState sha db.admission with
    | .ok state => state.circuitState = .closed ∧
        db.admission.activeUnits kernel.policy.providerId < state.effectiveTarget
    | .error _ => false) &&
  (kernel.policy.uncertainDispatchScope = .global →
    db.admission.countRequests kernel.policy.providerId (· = .reconciliationRequired) = 0) &&
  db.admission.requests.rows.any (fun row => row.providerId = kernel.policy.providerId ∧
    row.state = .waiting ∧ now < row.expiresAt ∧
    db.admission.projectActive kernel.policy.providerId row.projectBindingDigest + 1 ≤
      kernel.policy.perProjectCap)

/-- What is computed to be servable is. -/
theorem servable_of_check {kernel : ProviderAdmissionKernel} {db : RuntimeDb} {now : Timestamp}
    (checked : servableCheck sha kernel db now = true) : Servable sha kernel db now := by
  simp only [servableCheck, Bool.and_eq_true, decide_eq_true_eq, List.any_eq_true] at checked
  obtain ⟨⟨closed, resolved⟩, row, stored, own, waiting, unexpired, under⟩ := checked
  refine ⟨?_, resolved, row, ⟨stored, own, waiting, unexpired⟩, under⟩
  cases valid : kernel.validatedState sha db.admission with
  | error raised =>
    rw [valid] at closed
    cases closed
  | ok state =>
    rw [valid] at closed
    exact ⟨state, rfl, of_decide_eq_true closed⟩

/-- How a poll of the sample requests ends: with an error that rolls back, or with a committed answer
that is a permit or is not. -/
def crowdedAnswer (sha : Sha256) (policy : ProviderAdmissionPolicy) (db : RuntimeDb)
    (requestId : Uuid) (now : Timestamp) : Except MacrError Bool :=
  ((crowdedKernel policy).tryAdmit sha db (crowdedRequest sha policy requestId) 60 now).map
    (fun result => result.2.isOk)

section Answers

variable {policy : ProviderAdmissionPolicy} {db : RuntimeDb} {requestId : Uuid} {now : Timestamp}

/-- A poll without a permit is not granted, while tokens last. -/
theorem not_granted_of_answer (tokens : db.fencingCounter + 1 < 2 ^ 63)
    (answer : crowdedAnswer sha policy db requestId now = .ok false) :
    ¬Granted sha (crowdedKernel policy) db (crowdedRequest sha policy requestId) 60 now := by
  rintro ⟨after, result, committed, _, bounded⟩
  obtain ⟨permit, rfl⟩ := bounded tokens
  rw [crowdedAnswer, committed] at answer
  cases answer

/-- A poll that rolls back is not told that the provider is busy. -/
theorem not_busy_of_answer {error : MacrError}
    (answer : crowdedAnswer sha policy db requestId now = .error error) (next : RuntimeDb) :
    ¬Busy sha (crowdedKernel policy) db (crowdedRequest sha policy requestId) 60 now next := by
  rintro ⟨message, committed⟩
  rw [crowdedAnswer, committed] at answer
  cases answer

end Answers

end AdmissionSystem
end Macr
