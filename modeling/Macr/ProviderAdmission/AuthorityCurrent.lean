import Macr.ProviderAdmission.Transport

/-!
# Authority at commit

The activations and the transport start verify their authority again under the write lock, and an
activation consumes it there. A resolution does neither: it verifies before it takes the lock and
consumes nothing. So a run keeps every effect under a current authority, and every authority to
one effect, where a resolution meets the authority its check saw and presents it alone.
-/

namespace Macr

open Lib Relation

namespace ProviderAdmissionKernel

/-- The authority a call acts under, with the use its scope has to permit; a resolution's use is
read from the request it names. -/
def KernelCall.authority (sha : Sha256) (kernel : ProviderAdmissionKernel)
    (tables : AdmissionTables) : KernelCall → Option (AuthorizationReference × AuthorityUse)
  | .beginTransport _ request => some (request.authorization, kernel.admissionUse sha request)
  | .activateTarget target reference =>
    some (reference, kernel.targetUse (target.bindingDigest sha))
  | .activateHalfOpen binding reference _ =>
    some (reference, kernel.circuitUse (binding.bindingDigest sha))
  | .supersedePolicy binding _ reference =>
    some (reference, kernel.policyTransitionUse (binding.bindingDigest sha))
  | .resolveReconciliation requestId reference _ =>
    (tables.requests.find? requestId).map (fun row => (reference, resolutionUse row))
  | .tryAdmit _ _ | .cancelBeforeTransport _ | .cancelWaiting _ _ | .finish _ _ => none

/-- The reading an authority's expiry is compared with at commit: the authority store's, or, where
the store is not asked under the lock, the kernel's. -/
def KernelCall.authorityClock (clocks : ClockReadings) : KernelCall → Timestamp
  | .resolveReconciliation _ _ _ => clocks.kernel
  | _ => clocks.authority

/-- The activation or resolution authority a call presents. -/
def KernelCall.presents : KernelCall → Option AuthorizationReference
  | .activateTarget _ reference | .activateHalfOpen _ reference _
  | .supersedePolicy _ _ reference | .resolveReconciliation _ reference _ => some reference
  | _ => none

variable {sha : Sha256} {kernel : ProviderAdmissionKernel} {provider : String}
  {kind : EffectKind} {before after : RuntimeDb}

/-! ## What operations do to authorities -/

/-- A consumed authority is revoked, and no revocation is lost. -/
theorem consume_eq_ok {tables next : AuthorityTables} {reference : AuthorizationReference}
    {now : Timestamp} (done : consumeActivationAuthority tables reference now = .ok next) :
    next.Revoked reference.key ∧ ∀ key, tables.Revoked key → next.Revoked key := by
  simp only [consumeActivationAuthority, bind_eq_ok, raiseIf_eq_ok, exists_const, ne_eq, not_not,
    pure_eq_ok] at done
  obtain ⟨counted, rfl⟩ := done
  refine ⟨?_, fun key revoked => AuthorityTables.revoked_of_revokeWhere revoked _ now⟩
  have positive := counted ▸ Nat.one_pos
  obtain ⟨row, stored, met⟩ := List.countP_pos_iff.mp positive
  have named : row.key = reference.key := by
    simp only [decide_eq_true_eq] at met
    exact met.1
  exact AuthorityTables.revokeWhere_revokes stored named met now

/-- Effects of other kinds leave the authorities. -/
theorem authority_of_effects {kinds : List EffectKind}
    (effects : Effects sha kernel provider kinds before after) (plain : .authority ∉ kinds) :
    after.authority = before.authority := by
  refine effects.invariant (fun db => db.authority = before.authority) ?_ rfl
  intro kind listed first last held effect
  cases effect with
  | authority => exact absurd listed plain
  | _ => exact held

/-- A call that succeeds under an authority it verifies under the lock finds it current. -/
theorem current_of_transact {db : RuntimeDb} {clocks : ClockReadings} {call : KernelCall}
    {result : Committed RuntimeDb CallResult} {value : CallResult}
    {reference : AuthorizationReference} {use : AuthorityUse}
    (prepared : Prepared sha kernel call)
    (done : kernel.transact sha db clocks call = .ok result) (succeeded : result.2 = .ok value)
    (asked : call.authority sha kernel db.admission = some (reference, use))
    (locked : ∀ requestId reference evidence,
      call ≠ .resolveReconciliation requestId reference evidence) :
    db.authority.Current sha (call.authorityClock clocks) reference use := by
  cases call with
  | beginTransport permit request =>
    obtain ⟨inner, committed, rfl⟩ := except_map_eq_ok.mp done
    simp only [KernelCall.authority, Option.some.injEq, Prod.mk.injEq] at asked
    obtain ⟨rfl, rfl⟩ := asked
    obtain ⟨before, mid, state, row, expired, _, _, _, _, _, outcome⟩ :=
      beginTransport_eq_ok committed
    have same : mid.authority = db.authority := by rw [expired.frame]
    rcases outcome with ⟨error, rfl⟩ | ⟨_, ⟨⟨error, raised⟩, _⟩ | ⟨_, _, started⟩⟩
    · exact absurd succeeded (by simp [reported, Except.map])
    · exact absurd succeeded (by simp [reported, Except.map, raised])
    · exact same ▸ started.authority
  | activateTarget target own =>
    obtain ⟨inner, committed, rfl⟩ := except_map_eq_ok.mp done
    simp only [KernelCall.authority, Option.some.injEq, Prod.mk.injEq] at asked
    obtain ⟨rfl, rfl⟩ := asked
    exact (activateTarget_eq_ok committed).1
  | activateHalfOpen binding own probe =>
    obtain ⟨inner, committed, rfl⟩ := except_map_eq_ok.mp done
    simp only [KernelCall.authority, Option.some.injEq, Prod.mk.injEq] at asked
    obtain ⟨rfl, rfl⟩ := asked
    exact (activateHalfOpen_eq_ok committed).1
  | supersedePolicy binding successor own =>
    obtain ⟨inner, committed, rfl⟩ := except_map_eq_ok.mp done
    simp only [KernelCall.authority, Option.some.injEq, Prod.mk.injEq] at asked
    obtain ⟨rfl, rfl⟩ := asked
    exact (supersedePolicy_eq_ok (supportedPairs_provider prepared) committed).1
  | resolveReconciliation requestId own evidence => exact absurd rfl (locked _ _ _)
  | tryAdmit | cancelBeforeTransport | cancelWaiting | finish =>
    exact absurd asked (by simp [KernelCall.authority])

/-- A committed activation consumes the authority it presents. -/
theorem consumed_of_transact {db : RuntimeDb} {clocks : ClockReadings} {call : KernelCall}
    {result : Committed RuntimeDb CallResult} (prepared : Prepared sha kernel call)
    (done : kernel.transact sha db clocks call = .ok result)
    (activates : .authority ∈ call.kinds) :
    ∃ reference, call.presents = some reference ∧
      consumeActivationAuthority db.authority reference clocks.kernel =
        .ok result.1.authority := by
  cases call with
  | activateTarget target own =>
    obtain ⟨inner, committed, rfl⟩ := except_map_eq_ok.mp done
    exact ⟨own, rfl, (activateTarget_eq_ok committed).2.1⟩
  | activateHalfOpen binding own probe =>
    obtain ⟨inner, committed, rfl⟩ := except_map_eq_ok.mp done
    exact ⟨own, rfl, (activateHalfOpen_eq_ok committed).2.1⟩
  | supersedePolicy binding successor own =>
    obtain ⟨inner, committed, rfl⟩ := except_map_eq_ok.mp done
    exact ⟨own, rfl, (supersedePolicy_eq_ok (supportedPairs_provider prepared) committed).2.1⟩
  | _ => simp [KernelCall.kinds] at activates

/-- A committed call keeps every revocation. -/
theorem revoked_of_transact {db : RuntimeDb} {clocks : ClockReadings} {call : KernelCall}
    {result : Committed RuntimeDb CallResult} (prepared : Prepared sha kernel call)
    (done : kernel.transact sha db clocks call = .ok result) {key : String × String × Nat}
    (revoked : db.authority.Revoked key) : result.1.authority.Revoked key := by
  by_cases activates : .authority ∈ call.kinds
  · obtain ⟨reference, _, consumed⟩ := consumed_of_transact prepared done activates
    exact (consume_eq_ok consumed).2 key revoked
  · obtain ⟨provider, _, mid, first, second⟩ := transact_effects prepared done
    rw [authority_of_effects second activates, authority_of_effects first activates]
    exact revoked

end ProviderAdmissionKernel

namespace AdmissionSystem

open ProviderAdmissionKernel

variable {sha : Sha256} {system : AdmissionSystem} {action : AdmissionAction}

/-! ## Steps -/

/-- Every pending resolution's check found its authority current, for the request it names. -/
def Checked (sha : Sha256) (system : AdmissionSystem) : Prop :=
  ∀ pending ∈ system.pending, ∀ requestId reference evidence,
    pending.call = .resolveReconciliation requestId reference evidence →
      ∃ now, ∃ row ∈ system.db.admission.requests.rows, row.requestId = requestId ∧
        pending.seen.Current sha now reference (resolutionUse row)

/-- A resolution's use is read from what identifies its request. -/
theorem resolutionUse_congr {left right : RequestRow}
    (same : left.toRequestIdentity = right.toRequestIdentity) :
    resolutionUse left = resolutionUse right := by
  simp only [resolutionUse, same]

/-- The pending calls after a step were pending before, or have just made their checks. -/
theorem pending_step {call : PendingCall} (member : call ∈ (step sha system action).pending) :
    call ∈ system.pending ∨
      ∃ clocks, call.kernel.prepare sha system.db clocks call.call = .ok () ∧
        call.seen = system.db.authority ∧ (step sha system action).db = system.db := by
  cases action with
  | install kernel nonterminalRuns activeDispatchLeases now =>
    simp only [step] at member
    split at member <;> exact Or.inl member
  | prepare kernel asked clocks =>
    simp only [step] at member ⊢
    split at member
    · rename_i passed
      rw [if_pos passed]
      rcases List.mem_append.mp member with earlier | new
      · exact Or.inl earlier
      · rw [List.mem_singleton] at new
        subst new
        exact Or.inr ⟨clocks, passed.2, rfl, rfl⟩
    · exact Or.inl member
  | commit index clocks =>
    simp only [step] at member
    split at member
    · exact Or.inl (List.mem_of_mem_eraseIdx member)
    · exact Or.inl member
  | issue | revoke | advanceEpoch | drawToken => exact Or.inl member

/-- A step keeps pending resolutions checked. -/
theorem checked_step (sound : Sound sha system) (checked : Checked sha system)
    (action : AdmissionAction) : Checked sha (step sha system action) := by
  intro call member requestId reference evidence asked
  rcases pending_step member with earlier | ⟨clocks, passed, seen, same⟩
  · obtain ⟨now, row, stored, named, current⟩ :=
      checked call earlier requestId reference evidence asked
    obtain ⟨next, nextStored, identity, _⟩ := (moves_step sound action).kept row stored
    have nextNamed : next.requestId = row.requestId := congrArg (·.requestId) identity
    refine ⟨now, next, nextStored, nextNamed.trans named, ?_⟩
    rw [resolutionUse_congr identity]
    exact current
  · rw [asked] at passed
    simp only [prepare, bind_eq_ok, require_eq_ok, Option.filter_eq_some_iff,
      Table.find?_eq_some, AuthorityTables.verify_eq_ok,
      pure_eq_ok] at passed
    obtain ⟨row, ⟨⟨stored, named⟩, _⟩, _, ⟨_, current⟩, _⟩ := passed
    rw [same, seen]
    exact ⟨clocks.authority, row, stored, named, current⟩

/-- A step keeps every revocation. -/
theorem revoked_step (sound : Sound sha system) {key : String × String × Nat}
    (revoked : system.db.authority.Revoked key) (action : AdmissionAction) :
    (step sha system action).db.authority.Revoked key := by
  cases action with
  | install kernel nonterminalRuns activeDispatchLeases now =>
    simp only [step]
    split
    · rename_i result installed
      have same : result.1.authority = system.db.authority := by
        rcases installPolicy_eq_ok installed kernel.policy.providerId with effect | effect
        · exact authority_of_effects (Effects.single (List.mem_singleton.mpr rfl) effect) (by decide)
        · exact authority_of_effects (Effects.single (List.mem_singleton.mpr rfl) effect) (by decide)
      exact same ▸ revoked
    · exact revoked
  | prepare kernel asked clocks =>
    simp only [step]
    split <;> exact revoked
  | commit index clocks =>
    simp only [step]
    split
    · rename_i call outcome found
      obtain ⟨member, done⟩ := transaction_eq_some found
      cases outcome with
      | error error => exact revoked
      | ok result => exact revoked_of_transact (sound.pending call member).2 done.symm revoked
    · exact revoked
  | issue sourceKind sourceId scope expiresAt now authorityId =>
    exact AuthorityTables.revoked_of_issue revoked
  | revoke reference now => exact AuthorityTables.revoked_of_revoke revoked
  | advanceEpoch reasonDigest state now => exact revoked
  | drawToken => exact revoked

/-- The authority tables are, for a resolution, as its check saw them: the epoch row and its
authority's row have not changed, and that row has not expired. -/
def MeetsCheck (pending : PendingCall) (tables : AuthorityTables) (now : Timestamp) : Prop :=
  match pending.call with
  | .resolveReconciliation _ reference _ =>
    tables.epoch = pending.seen.epoch ∧
      tables.authorities.find? reference.key = pending.seen.authorities.find? reference.key ∧
      ∀ row ∈ tables.authorities.find? reference.key, now < row.expiresAt
  | _ => True

instance (pending : PendingCall) (tables : AuthorityTables) (now : Timestamp) :
    Decidable (MeetsCheck pending tables now) :=
  match h : pending.call with
  | .resolveReconciliation _ reference _ =>
    decidable_of_iff (tables.epoch = pending.seen.epoch ∧
      tables.authorities.find? reference.key = pending.seen.authorities.find? reference.key ∧
      (tables.authorities.find? reference.key).all (fun row => now < row.expiresAt) = true)
      (by simp [MeetsCheck, h, Option.all_eq_true])
  | .tryAdmit _ _ | .beginTransport _ _ | .cancelBeforeTransport _ | .cancelWaiting _ _
  | .finish _ _ | .activateTarget _ _ | .activateHalfOpen _ _ _ | .supersedePolicy _ _ _ =>
    isTrue (by simp [MeetsCheck, h])

/-- A resolution that commits meets what its check saw. -/
def MeetsWhatItSaw (system : AdmissionSystem) : AdmissionAction → Prop
  | .commit index clocks => ∀ pending ∈ system.pending[index]?,
    MeetsCheck pending system.db.authority clocks.kernel
  | _ => True

instance (system : AdmissionSystem) :
    (action : AdmissionAction) → Decidable (MeetsWhatItSaw system action)
  | .commit index clocks =>
    decidable_of_iff ((system.pending[index]?).all
      (fun pending => MeetsCheck pending system.db.authority clocks.kernel) = true)
      (by simp [MeetsWhatItSaw, Option.all_eq_true])
  | .install _ _ _ _ | .prepare _ _ _ | .issue _ _ _ _ _ _ | .revoke _ _ | .advanceEpoch _ _ _
  | .drawToken => isTrue trivial

/-- The step commits a call that succeeds under an authority. -/
def TakesEffect (sha : Sha256) (x : Machine.Step AdmissionSystem AdmissionAction)
    (call : PendingCall) (clocks : ClockReadings) : Prop :=
  ∃ result value, Commits sha x.before x.action call clocks result ∧ result.2 = .ok value

/-- Every call that succeeds in a step acts under an authority that is current at that commit. -/
def CurrentAtCommit (sha : Sha256) (x : Machine.Step AdmissionSystem AdmissionAction) : Prop :=
  ∀ call clocks, TakesEffect sha x call clocks → ∀ reference use,
    call.call.authority sha call.kernel x.before.db.admission = some (reference, use) →
      x.before.db.authority.Current sha (call.call.authorityClock clocks) reference use

/-- The step takes effect under an activation or resolution authority. -/
def UsesAuthority (sha : Sha256) (x : Machine.Step AdmissionSystem AdmissionAction)
    (reference : AuthorizationReference) : Prop :=
  ∃ call clocks, TakesEffect sha x call clocks ∧ call.call.presents = some reference

/-- The step resolves a request under an authority. -/
def ResolvesUnder (sha : Sha256) (x : Machine.Step AdmissionSystem AdmissionAction)
    (reference : AuthorizationReference) : Prop :=
  ∃ call clocks requestId evidence, TakesEffect sha x call clocks ∧
    call.call = .resolveReconciliation requestId reference evidence

/-- The step runs the transaction of a call that presents an authority; a resolution presents it
for a request that is unresolved. -/
def PresentsAuthority (x : Machine.Step AdmissionSystem AdmissionAction)
    (reference : AuthorizationReference) : Prop :=
  ∃ index clocks call, x.action = .commit index clocks ∧ x.before.pending[index]? = some call ∧
    call.call.presents = some reference ∧
    ∀ requestId evidence, call.call = .resolveReconciliation requestId reference evidence →
      ∃ row ∈ x.before.db.admission.requests.rows, row.requestId = requestId ∧
        row.state = .reconciliationRequired

/-- The call of a transaction is the pending one at its index. -/
theorem pending_of_commits {call : PendingCall} {clocks : ClockReadings}
    {result : Committed RuntimeDb CallResult}
    (commits : Commits sha system action call clocks result) :
    ∃ index, action = .commit index clocks ∧ system.pending[index]? = some call := by
  obtain ⟨index, same, found⟩ := commits
  simp only [transaction, Option.map_eq_some_iff, Prod.mk.injEq] at found
  obtain ⟨pending, at_index, rfl, _⟩ := found
  exact ⟨index, same, at_index⟩

/-- A reference that was current stays current where the epoch and its row do, until it expires. -/
theorem current_of_unchanged {seen tables : AuthorityTables} {earlier now : Timestamp}
    {reference : AuthorizationReference} {use : AuthorityUse}
    (current : seen.Current sha earlier reference use) (epoch : tables.epoch = seen.epoch)
    (row : tables.authorities.find? reference.key = seen.authorities.find? reference.key)
    (unexpired : ∀ row ∈ tables.authorities.find? reference.key, now < row.expiresAt) :
    tables.Current sha now reference use := by
  obtain ⟨backing, stored, named, digest, same, rowEpoch, scope, bodyScope, unrevoked, _⟩ :=
    current.backed
  have found : tables.authorities.find? reference.key = some backing := by
    rw [row]
    exact (seen.authorities.find?_eq_some _ _).mpr ⟨stored, named⟩
  have here := (tables.authorities.find?_eq_some _ _).mp found
  exact ⟨epoch ▸ current.epoch, epoch ▸ current.isOpen,
    ⟨backing, here.1, named, digest, same, rowEpoch, scope, bodyScope, unrevoked,
      unexpired backing found⟩, current.permitted, current.rereads⟩

/-- An effect of a step is under a current authority, where a resolution meets what its check
saw. -/
theorem current_step (sound : Sound sha system) (checked : Checked sha system)
    (meets : MeetsWhatItSaw system action) :
    CurrentAtCommit sha ⟨system, action, step sha system action⟩ := by
  rintro call clocks ⟨result, value, commits, succeeded⟩ reference use asked
  obtain ⟨member, done⟩ := commits.transacted
  by_cases locked : ∀ requestId reference evidence,
      call.call ≠ .resolveReconciliation requestId reference evidence
  · exact current_of_transact (sound.pending call member).2 done succeeded asked locked
  · obtain ⟨requestId, own, evidence, resolves⟩ : ∃ requestId own evidence,
        call.call = .resolveReconciliation requestId own evidence := by
      by_contra none
      exact locked (fun requestId own evidence same => none ⟨requestId, own, evidence, same⟩)
    obtain ⟨now, row, stored, named, current⟩ :=
      checked call member requestId own evidence resolves
    rw [resolves] at asked ⊢
    have found : system.db.admission.requests.find? requestId = some row :=
      (system.db.admission.requests.find?_eq_some _ _).mpr ⟨stored, named⟩
    simp only [KernelCall.authority, found, Option.map_some, Option.some.injEq,
      Prod.mk.injEq] at asked
    obtain ⟨rfl, rfl⟩ := asked
    obtain ⟨index, rfl, at_index⟩ := pending_of_commits commits
    have met := meets call at_index
    rw [MeetsCheck, resolves] at met
    exact current_of_unchanged current met.1 met.2.1 met.2.2

/-- An activation's authority is revoked after its step. -/
theorem revoked_of_uses (sound : Sound sha system) {reference : AuthorizationReference}
    (uses : UsesAuthority sha ⟨system, action, step sha system action⟩ reference) :
    ResolvesUnder sha ⟨system, action, step sha system action⟩ reference ∨
      (step sha system action).db.authority.Revoked reference.key := by
  obtain ⟨call, clocks, effect, presents⟩ := uses
  obtain ⟨result, value, commits, succeeded⟩ := effect
  obtain ⟨member, done⟩ := commits.transacted
  by_cases activates : .authority ∈ call.call.kinds
  · obtain ⟨own, presented, consumed⟩ :=
      consumed_of_transact (sound.pending call member).2 done activates
    have same : own = reference := Option.some.inj (presented.symm.trans presents)
    subst same
    rw [commits.db]
    exact Or.inr (consume_eq_ok consumed).1
  · obtain ⟨requestId, evidence, resolves⟩ : ∃ requestId evidence,
        call.call = .resolveReconciliation requestId reference evidence := by
      cases asked : call.call <;> simp_all [KernelCall.presents, KernelCall.kinds]
    exact Or.inl ⟨call, clocks, requestId, evidence, ⟨result, value, commits, succeeded⟩, resolves⟩

/-- An effect under an authority presented has a use for it. -/
theorem use_of_takesEffect {call : PendingCall} {clocks : ClockReadings}
    {reference : AuthorizationReference} {next : AdmissionSystem}
    (effect : TakesEffect sha ⟨system, action, next⟩ call clocks)
    (presents : call.call.presents = some reference) : ∃ use,
      call.call.authority sha call.kernel system.db.admission = some (reference, use) := by
  obtain ⟨result, value, commits, succeeded⟩ := effect
  obtain ⟨_, done⟩ := commits.transacted
  cases asked : call.call with
  | resolveReconciliation requestId own evidence =>
    rw [asked] at presents done
    obtain ⟨inner, committed, _⟩ := except_map_eq_ok.mp done
    obtain ⟨_, row, _, stored, named, _⟩ := resolveReconciliation_eq_ok committed
    have found : system.db.admission.requests.find? requestId = some row :=
      (system.db.admission.requests.find?_eq_some _ _).mpr ⟨stored, named⟩
    have same : own = reference := Option.some.inj presents
    exact ⟨resolutionUse row, by simp [KernelCall.authority, found, same]⟩
  | activateTarget target own =>
    rw [asked] at presents
    cases presents
    exact ⟨_, rfl⟩
  | activateHalfOpen binding own probe =>
    rw [asked] at presents
    cases presents
    exact ⟨_, rfl⟩
  | supersedePolicy binding successor own =>
    rw [asked] at presents
    cases presents
    exact ⟨_, rfl⟩
  | tryAdmit | beginTransport | cancelBeforeTransport | cancelWaiting | finish =>
    rw [asked] at presents
    exact absurd presents (by simp [KernelCall.presents])

/-- No effect is under a revoked authority, where a resolution meets what its check saw. -/
theorem not_uses_of_revoked (sound : Sound sha system) (checked : Checked sha system)
    (meets : MeetsWhatItSaw system action) {reference : AuthorizationReference}
    (revoked : system.db.authority.Revoked reference.key) :
    ¬UsesAuthority sha ⟨system, action, step sha system action⟩ reference := by
  rintro ⟨call, clocks, effect, presents⟩
  obtain ⟨use, asked⟩ := use_of_takesEffect effect presents
  have current := current_step sound checked meets call clocks effect reference use asked
  exact AuthorityTables.not_current_of_revoked revoked current

/-! ## Runs -/

/-- In every run in which each resolution that commits meets what its check saw, and no authority
is presented again after a resolution under it, every effect is under an authority that is current
at its commit, and each activation or resolution authority lets at most one effect commit. -/
theorem authority_current_at_commit (sha : Sha256) (actions : List AdmissionAction)
    (meets : (machine sha).Obeys MeetsWhatItSaw .initial actions)
    (once : ((machine sha).steps .initial actions).Pairwise (fun x y =>
      ∀ reference, ResolvesUnder sha x reference → ¬PresentsAuthority y reference)) :
    (∀ x ∈ (machine sha).steps .initial actions, CurrentAtCommit sha x) ∧
    ((machine sha).steps .initial actions).Pairwise (fun x y =>
      ∀ reference, UsesAuthority sha x reference → ¬UsesAuthority sha y reference) := by
  have keep : ∀ system action, (Sound sha system ∧ Checked sha system) →
      MeetsWhatItSaw system action →
      Sound sha ((machine sha).step system action) ∧
        Checked sha ((machine sha).step system action) :=
    fun _ action held _ => ⟨sound_step held.1 action, checked_step held.1 held.2 action⟩
  have start : Sound sha .initial ∧ Checked sha .initial :=
    ⟨sound_initial, fun pending member => by simp [initial] at member⟩
  constructor
  · intro x member
    obtain ⟨⟨sound, checked⟩, met, after⟩ := (machine sha).steps_invariant keep start meets x member
    obtain ⟨system, action, next⟩ := x
    have next_eq : next = step sha system action := after
    subst next_eq
    exact current_step sound checked met
  · -- An activation leaves its authority revoked; a resolution's is not presented again.
    have revocations : ((machine sha).steps .initial actions).Pairwise (fun x y =>
        ∀ reference, x.after.db.authority.Revoked reference.key →
          ¬UsesAuthority sha y reference) :=
      (machine sha).steps_pairwise keep start meets
        (fun x system => ∀ reference : AuthorizationReference,
          x.after.db.authority.Revoked reference.key →
            system.db.authority.Revoked reference.key)
        (fun _ _ _ _ _ revoked => revoked)
        (fun _ _ action held _ recorded reference revoked =>
          revoked_step held.1 (recorded reference revoked) action)
        (fun _ _ _ held met recorded reference revoked =>
          not_uses_of_revoked held.1 held.2 met (recorded reference revoked))
    have both := revocations.and once
    refine List.Pairwise.imp_of_mem ?_ both
    intro x y xMember _ related reference uses usesAgain
    obtain ⟨⟨sound, _⟩, _, after⟩ := (machine sha).steps_invariant keep start meets x xMember
    obtain ⟨system, action, next⟩ := x
    have next_eq : next = step sha system action := after
    subst next_eq
    rcases revoked_of_uses sound uses with resolves | revoked
    · refine related.2 reference resolves ?_
      obtain ⟨call, clocks, ⟨result, value, commits, _⟩, presents⟩ := usesAgain
      obtain ⟨index, same, at_index⟩ := pending_of_commits commits
      refine ⟨index, clocks, call, same, at_index, presents, fun requestId evidence asked => ?_⟩
      obtain ⟨_, done⟩ := commits.transacted
      rw [asked] at done
      obtain ⟨inner, committed, _⟩ := except_map_eq_ok.mp done
      obtain ⟨_, row, _, stored, named, unresolved, _⟩ := resolveReconciliation_eq_ok committed
      exact ⟨row, stored, named, unresolved⟩
    · exact related.1 reference revoked usesAgain

/-! ## A revoked authority and a second resolution -/

/-- The check of a resolution under the sample authority. -/
def checksResolution (requestId : Uuid) : AdmissionAction :=
  .prepare sampleKernel (.resolveReconciliation requestId (sampleResolution foldDigest) 10)
    (clocksAt 5)

/-- The authority the first pending call's transaction resolves a request under. -/
def resolvedUnder (system : AdmissionSystem) (clocks : ClockReadings) :
    Option AuthorizationReference :=
  match system.transaction foldDigest 0 clocks with
  | some (pending, .ok (_, .ok _)) =>
    match pending.call with
    | .resolveReconciliation _ reference _ => some reference
    | _ => none
  | _ => none

/-- A transaction that resolves a request under an authority uses it. -/
theorem uses_of_resolvedUnder {system : AdmissionSystem} (next : AdmissionSystem)
    {clocks : ClockReadings} {reference : AuthorizationReference}
    (found : resolvedUnder system clocks = some reference) :
    UsesAuthority foldDigest ⟨system, .commit 0 clocks, next⟩ reference := by
  unfold resolvedUnder at found
  split at found
  · rename_i pending db value transacted
    split at found
    · rename_i requestId own evidence asked
      refine ⟨pending, clocks, ⟨_, value, ⟨0, rfl, transacted⟩, rfl⟩, ?_⟩
      rw [asked]
      exact found
    · exact absurd found (by simp)
  · exact absurd found (by simp)

/-- In a run that ends where a revoked authority's resolution is about to commit, the last step
is not under a current authority. -/
theorem not_current_of_resolvedUnder {actions : List AdmissionAction} {clocks : ClockReadings}
    {reference : AuthorizationReference}
    (resolved : resolvedUnder ((machine foldDigest).run .initial actions) clocks = some reference)
    (revoked : ((machine foldDigest).run .initial actions).db.authority.Revoked reference.key) :
    ¬∀ x ∈ (machine foldDigest).steps .initial (actions ++ [.commit 0 clocks]),
      CurrentAtCommit foldDigest x := by
  intro always
  rw [Machine.steps_append] at always
  obtain ⟨call, at_commit, effect, presents⟩ := uses_of_resolvedUnder
    ((machine foldDigest).step _ (.commit 0 clocks)) resolved
  obtain ⟨use, asked⟩ := use_of_takesEffect effect presents
  have current := always _ (List.mem_append_right _ (List.mem_singleton.mpr rfl))
    call at_commit effect reference use asked
  exact AuthorityTables.not_current_of_revoked revoked current

/-- In a run that ends with two resolutions under one authority, the authority is used twice. -/
theorem not_once_of_resolvedUnder {actions : List AdmissionAction} {first second : ClockReadings}
    {reference : AuthorizationReference}
    (resolved : resolvedUnder ((machine foldDigest).run .initial actions) first = some reference)
    (again : resolvedUnder ((machine foldDigest).step ((machine foldDigest).run .initial actions)
      (.commit 0 first)) second = some reference) :
    ¬((machine foldDigest).steps .initial (actions ++ [.commit 0 first, .commit 0 second])).Pairwise
      (fun x y => ∀ reference,
        UsesAuthority foldDigest x reference → ¬UsesAuthority foldDigest y reference) := by
  intro once
  rw [Machine.steps_append] at once
  have both := (List.pairwise_append.mp once).2.1
  have related := (List.pairwise_cons.mp both).1 _ (List.mem_singleton.mpr rfl)
  exact related reference (uses_of_resolvedUnder _ resolved) (uses_of_resolvedUnder _ again)

/-- A resolution takes effect after its authority is revoked, and two resolutions take effect
under one authority. -/
theorem authority_not_current_at_commit :
    (¬∀ actions, ∀ x ∈ (machine foldDigest).steps .initial actions,
      CurrentAtCommit foldDigest x) ∧
    ¬∀ actions, ((machine foldDigest).steps .initial actions).Pairwise (fun x y =>
      ∀ reference, UsesAuthority foldDigest x reference → ¬UsesAuthority foldDigest y reference) := by
  constructor
  · -- The authority is revoked between the check and the transaction.
    have resolved : resolvedUnder ((machine foldDigest).run .initial
        (prepared foldDigest ++ leftUnresolved foldDigest 1 1 ++
          [checksResolution 1, .revoke (sampleResolution foldDigest) 6]))
        (clocksAt 6) = some (sampleResolution foldDigest) := by decide +kernel
    have revoked : ((machine foldDigest).run .initial
        (prepared foldDigest ++ leftUnresolved foldDigest 1 1 ++
          [checksResolution 1, .revoke (sampleResolution foldDigest) 6])).db.authority.Revoked
        (sampleResolution foldDigest).key := by decide +kernel
    exact fun always => not_current_of_resolvedUnder resolved revoked (always _)
  · -- Two requests are resolved under one authority.
    have resolved : resolvedUnder ((machine foldDigest).run .initial
        (prepared foldDigest ++ leftUnresolved foldDigest 1 1 ++ leftUnresolved foldDigest 2 2 ++
          [checksResolution 1, checksResolution 2])) (clocksAt 6) =
        some (sampleResolution foldDigest) := by
      decide +kernel
    have again : resolvedUnder ((machine foldDigest).step ((machine foldDigest).run .initial
        (prepared foldDigest ++ leftUnresolved foldDigest 1 1 ++ leftUnresolved foldDigest 2 2 ++
          [checksResolution 1, checksResolution 2])) (.commit 0 (clocksAt 6))) (clocksAt 7) =
        some (sampleResolution foldDigest) := by decide +kernel
    exact fun once => not_once_of_resolvedUnder resolved again (once _)

/-- The action is not the transaction of a resolution. -/
def resolvesNothing (system : AdmissionSystem) : AdmissionAction → Bool
  | .commit index _ =>
    match system.pending[index]? with
    | some ⟨_, .resolveReconciliation .., _⟩ => false
    | _ => true
  | _ => true

/-- A step that is not the transaction of a resolution resolves under no authority. -/
theorem not_resolvesUnder {sha : Sha256} {x : Machine.Step AdmissionSystem AdmissionAction}
    (nothing : resolvesNothing x.before x.action = true) (reference : AuthorizationReference) :
    ¬ResolvesUnder sha x reference := by
  rintro ⟨call, clocks, requestId, evidence, ⟨result, value, commits, _⟩, asked⟩
  obtain ⟨index, same, at_index⟩ := pending_of_commits commits
  obtain ⟨kernel, own, seen⟩ := call
  have resolves : own = .resolveReconciliation requestId reference evidence := asked
  subst resolves
  simp [resolvesNothing, same, at_index] at nothing

/-- A run in which one request is resolved under an authority that nothing has touched keeps the
rule. -/
theorem authority_current_at_commit_of_resolution :
    (∀ x ∈ (machine foldDigest).steps .initial
        (prepared foldDigest ++ leftUnresolved foldDigest 1 1 ++ [checksResolution 1] ++
          [.commit 0 (clocksAt 6)]),
      CurrentAtCommit foldDigest x) ∧
    ((machine foldDigest).steps .initial
        (prepared foldDigest ++ leftUnresolved foldDigest 1 1 ++ [checksResolution 1] ++
          [.commit 0 (clocksAt 6)])).Pairwise (fun x y =>
      ∀ reference, UsesAuthority foldDigest x reference →
        ¬UsesAuthority foldDigest y reference) := by
  have quiet : (machine foldDigest).Obeys (fun system action => resolvesNothing system action = true)
      .initial (prepared foldDigest ++ leftUnresolved foldDigest 1 1 ++ [checksResolution 1]) := by
    decide +kernel
  have unresolving : ∀ x ∈ (machine foldDigest).steps .initial
      (prepared foldDigest ++ leftUnresolved foldDigest 1 1 ++ [checksResolution 1]),
      ∀ reference, ¬ResolvesUnder foldDigest x reference := by
    intro x member
    exact not_resolvesUnder ((machine foldDigest).steps_obey quiet x member)
  refine authority_current_at_commit foldDigest _ (by decide +kernel) ?_
  -- Only the last step commits a resolution.
  rw [Machine.steps_append]
  refine List.pairwise_append.mpr ⟨?_, List.pairwise_singleton _ _, ?_⟩
  · refine List.Pairwise.imp_of_mem ?_ (List.pairwise_of_forall (fun _ _ => trivial))
    exact fun member _ _ reference resolves => absurd resolves (unresolving _ member reference)
  · exact fun x member y _ reference resolves => absurd resolves (unresolving x member reference)

end AdmissionSystem
end Macr
