import Macr.Authority
import Macr.DispatchLeases

/-!
# Admission to dispatch

`AdmissionGate.admit` verifies the authority, acquires the resource and verifies again; a refusal
of the second verification is undone by a release. Each of the four is a transaction or a read of
its own, with every other caller in between. An acquisition does not say whether it created the
lease it answers with, so a refused call releases whatever lease its run holds; and only a refused
authorization is undone, no other error of the second verification.
-/

namespace Macr

open Lib

/-- What a verification has read, or the error that its reads or its clock raised. -/
abbrev VerificationReads := Except MacrError (AuthorityEpoch × Option AuthorityRow × Timestamp)

/-- `DispatchAuthorityStore.verify` on what it has read. -/
def verification (sha : Sha256) (reads : VerificationReads) (reference : AuthorizationReference)
    (use : AuthorityUse) : Except MacrError AuthorizationReference := do
  let (epochRow, found, now) ← reads
  AuthorityTables.verifyRows sha epochRow found now reference use

/-- How far a call of `admit` has come. -/
inductive AdmitStage where
  /-- The first verification has passed. -/
  | verified
  /-- The resource is acquired, by a lease this call created or by an earlier one. -/
  | acquired (permit : DispatchPermit) (created : Bool)
  /-- The second verification has been refused; the release is next. -/
  | refused (permit : DispatchPermit) (created : Bool) (error : MacrError)
  /-- The permit is returned. -/
  | returned (permit : DispatchPermit)
  /-- The call has raised; a lease it created is noted. -/
  | raised (created : Option DispatchPermit) (error : MacrError)
deriving DecidableEq

/-- The permit a call has been handed and has not failed on. -/
def AdmitStage.handed? : AdmitStage → Option DispatchPermit
  | .acquired permit _ | .returned permit => some permit
  | .verified | .refused _ _ _ | .raised _ _ => none

/-- The permit of a call whose lease may still have to be undone, or should have been. -/
def AdmitStage.answerable? : AdmitStage → Option DispatchPermit
  | .acquired permit _ | .refused permit _ _ => some permit
  | .raised created _ => created
  | .verified | .returned _ => none

/-- A call of `AdmissionGate.admit` that has passed its first verification. -/
structure AdmitCall where
  /-- The resource to dispatch on. -/
  resourceKey : String
  /-- `context.run_id`. -/
  runId : Uuid
  /-- How long the lease is to last. -/
  ttlSeconds : Int
  /-- `context.authorization`. -/
  reference : AuthorizationReference
  /-- The use both verifications are asked for. -/
  use : AuthorityUse
  /-- How far it has come. -/
  stage : AdmitStage
deriving DecidableEq

/-- The lease store, what its callers have been handed, and the calls of `admit` begun so far. -/
structure DispatchSystem where
  /-- The tables. -/
  db : DispatchLeaseDb
  /-- The permits that calls of `acquire` alone have returned. -/
  acquired : List DispatchPermit
  /-- The calls of `admit`. -/
  calls : List AdmitCall

/-- The steps of the store's callers. A transaction may fail before its commit. -/
inductive DispatchAction where
  | acquire (resourceKey : String) (runId : Uuid) (ttlSeconds : Int) (now : Timestamp)
      (fault : Option MacrError)
  | renew (resourceKey : String) (runId : Uuid) (fencingToken : Nat) (ttlSeconds : Int)
      (now : Timestamp) (fault : Option MacrError)
  | release (resourceKey : String) (runId : Uuid) (fencingToken : Nat) (fault : Option MacrError)
  | reapExpiredForRun (runId : Uuid) (now : Timestamp) (fault : Option MacrError)
  | drawToken
  /-- A call of `admit` makes its first verification. -/
  | beginAdmit (resourceKey : String) (runId : Uuid) (ttlSeconds : Int)
      (reference : AuthorizationReference) (use : AuthorityUse) (reads : VerificationReads)
  /-- A call of `admit` acquires the resource. -/
  | admitAcquire (index : Nat) (now : Timestamp) (fault : Option MacrError)
  /-- A call of `admit` makes its second verification. -/
  | admitVerify (index : Nat) (reads : VerificationReads)
  /-- A call of `admit` undoes its acquisition. -/
  | admitRelease (index : Nat) (fault : Option MacrError)

/-- A transaction that may fail before its commit. -/
def attempt {α : Type} (fault : Option MacrError)
    (transaction : Except MacrError (Committed DispatchLeaseDb α)) :
    Except MacrError (Committed DispatchLeaseDb α) :=
  match fault with
  | some error => .error error
  | none => transaction

namespace DispatchSystem

/-- A new store. -/
def initial : DispatchSystem := ⟨.initial, [], []⟩

variable (sha : Sha256)

/-- The state of the store, with one call of `admit` moved on. -/
def moved (system : DispatchSystem) (db : DispatchLeaseDb) (index : Nat) (call : AdmitCall)
    (stage : AdmitStage) : DispatchSystem :=
  { system with db := db, calls := system.calls.set index { call with stage := stage } }

/-- The lease a call has created, if it has. -/
def noted (permit : DispatchPermit) (created : Bool) : Option DispatchPermit :=
  if created then some permit else none

/-- A call of `admit` acquires its resource. -/
def admitAcquire (system : DispatchSystem) (index : Nat) (call : AdmitCall) (now : Timestamp)
    (fault : Option MacrError) : DispatchSystem :=
  let done := settle system.db
    (attempt fault (system.db.acquire call.resourceKey call.runId call.ttlSeconds now))
  match done.2 with
  | .ok permit =>
    system.moved done.1 index call
      (.acquired permit (system.db.live? call.resourceKey now).isNone)
  | .error error => system.moved done.1 index call (.raised none error)

/-- A call of `admit` verifies again; only a refused authorization is caught. -/
def admitVerify (system : DispatchSystem) (index : Nat) (call : AdmitCall)
    (permit : DispatchPermit) (created : Bool) (reads : VerificationReads) : DispatchSystem :=
  match verification sha reads call.reference call.use with
  | .ok _ => system.moved system.db index call (.returned permit)
  | .error (.dispatchAuthorization message) =>
    system.moved system.db index call (.refused permit created (.dispatchAuthorization message))
  | .error error => system.moved system.db index call (.raised (noted permit created) error)

/-- A call of `admit` releases the lease of its permit, and raises. -/
def admitRelease (system : DispatchSystem) (index : Nat) (call : AdmitCall)
    (permit : DispatchPermit) (created : Bool) (error : MacrError) (fault : Option MacrError) :
    DispatchSystem :=
  let done := settle system.db
    (attempt fault (system.db.release permit.resourceKey permit.runId permit.fencingToken))
  match done.2 with
  | .ok _ => system.moved done.1 index call (.raised (noted permit created) error)
  | .error failed => system.moved done.1 index call (.raised (noted permit created) failed)

/-- One step. -/
def step (system : DispatchSystem) : DispatchAction → DispatchSystem
  | .acquire resourceKey runId ttlSeconds now fault =>
    let done := settle system.db
      (attempt fault (system.db.acquire resourceKey runId ttlSeconds now))
    match done.2 with
    | .ok permit => { system with db := done.1, acquired := system.acquired ++ [permit] }
    | .error _ => { system with db := done.1 }
  | .renew resourceKey runId fencingToken ttlSeconds now fault =>
    { system with
      db := (settle system.db (attempt fault
        (system.db.renew resourceKey runId fencingToken ttlSeconds now))).1 }
  | .release resourceKey runId fencingToken fault =>
    { system with
      db := (settle system.db (attempt fault
        (system.db.release resourceKey runId fencingToken))).1 }
  | .reapExpiredForRun runId now fault =>
    { system with
      db := (settle system.db (attempt fault (system.db.reapExpiredForRun runId now))).1 }
  | .drawToken => { system with db := system.db.drawToken }
  | .beginAdmit resourceKey runId ttlSeconds reference use reads =>
    match verification sha reads reference use with
    | .ok _ =>
      { system with
        calls := system.calls ++ [⟨resourceKey, runId, ttlSeconds, reference, use, .verified⟩] }
    | .error error =>
      { system with
        calls := system.calls ++
          [⟨resourceKey, runId, ttlSeconds, reference, use, .raised none error⟩] }
  | .admitAcquire index now fault =>
    match system.calls[index]? with
    | some call =>
      if call.stage = .verified then system.admitAcquire index call now fault else system
    | none => system
  | .admitVerify index reads =>
    match system.calls[index]? with
    | some call =>
      match call.stage with
      | .acquired permit created => system.admitVerify sha index call permit created reads
      | _ => system
    | none => system
  | .admitRelease index fault =>
    match system.calls[index]? with
    | some call =>
      match call.stage with
      | .refused permit created error =>
        system.admitRelease index call permit created error fault
      | _ => system
    | none => system

/-- The lease store and its callers as a machine. -/
def machine : Machine DispatchSystem DispatchAction := ⟨step sha⟩

/-! ## What a run may not do -/

/-- Another call than an `admit` was handed the lease of a permit and has not failed on it. -/
def HandedElsewhere (system : DispatchSystem) (index : Nat) (permit : DispatchPermit) : Prop :=
  (∃ other ∈ system.acquired, other.fencingToken = permit.fencingToken) ∨
    ∃ other ∈ List.range system.calls.length, other ≠ index ∧
      ∃ handed ∈ (system.calls[other]?).bind (·.stage.handed?),
        handed.fencingToken = permit.fencingToken

instance (system : DispatchSystem) (index : Nat) (permit : DispatchPermit) :
    Decidable (system.HandedElsewhere index permit) := by
  unfold HandedElsewhere
  infer_instance

/-- The lease of a permit is still stored. -/
def Stored (system : DispatchSystem) (permit : DispatchPermit) : Prop :=
  (system.db.held? permit.resourceKey permit.runId permit.fencingToken).isSome = true

instance (system : DispatchSystem) (permit : DispatchPermit) : Decidable (system.Stored permit) :=
  inferInstanceAs (Decidable (_ = true))

/-- A verification passes or is refused; no read or clock of it fails. -/
def Judged : Except MacrError AuthorizationReference → Bool
  | .ok _ | .error (.dispatchAuthorization _) => true
  | .error _ => false

/-- A release of a stored lease that a refused call created does not fail, and no one else relies
on the lease; a release of a lease it did not create fails. -/
def ReleasesOwn (system : DispatchSystem) (index : Nat) (permit : DispatchPermit)
    (fault : Option MacrError) : AdmitStage → Prop
  | .refused _ true _ => fault = none ∧ ¬system.HandedElsewhere index permit
  | .refused _ false _ => fault ≠ none
  | .verified | .acquired _ _ | .returned _ | .raised _ _ => True

instance (system : DispatchSystem) (index : Nat) (permit : DispatchPermit)
    (fault : Option MacrError) (stage : AdmitStage) :
    Decidable (system.ReleasesOwn index permit fault stage) :=
  match stage with
  | .refused _ true _ =>
    inferInstanceAs (Decidable (fault = none ∧ ¬system.HandedElsewhere index permit))
  | .refused _ false _ => inferInstanceAs (Decidable (fault ≠ none))
  | .verified | .acquired _ _ | .returned _ | .raised _ _ => inferInstanceAs (Decidable True)

/-- While the lease of its permit is stored, a call that created it has its second verification
judged, and a refused call that releases it created it, handed it to no one else and does not fail
to release. -/
def allowed (system : DispatchSystem) : DispatchAction → Prop
  | .admitVerify index reads =>
    ∀ call ∈ system.calls[index]?, ∀ permit ∈ call.stage.handed?,
      call.stage = .acquired permit true → system.Stored permit →
        Judged (verification sha reads call.reference call.use) = true
  | .admitRelease index fault =>
    ∀ call ∈ system.calls[index]?, ∀ permit ∈ call.stage.answerable?, system.Stored permit →
      system.ReleasesOwn index permit fault call.stage
  | .acquire _ _ _ _ _ | .renew _ _ _ _ _ _ | .release _ _ _ _ | .reapExpiredForRun _ _ _
  | .drawToken | .beginAdmit _ _ _ _ _ _ | .admitAcquire _ _ _ => True

instance (system : DispatchSystem) (action : DispatchAction) :
    Decidable (allowed sha system action) := by
  cases action <;> unfold allowed <;> infer_instance

end DispatchSystem
end Macr
