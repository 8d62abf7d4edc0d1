import Macr.DispatchAdmission

/-!
# The discipline of dispatch leases

Every change of the store keeps what the calls of `admit` rely on: tokens stay within the counter,
a lease with a call's token is of the call's resource and run, and a call that has raised has left
no lease it created. The last needs the run to keep clear of two ways of failing: a second
verification that fails otherwise than by a refusal, and a refused call that releases a lease it
did not create or that another caller relies on.
-/

namespace Macr

open Lib

namespace DispatchSystem

variable {sha : Sha256} {system : DispatchSystem} {action : DispatchAction}

/-! ## The change of one step -/

/-- An attempt that commits did not fail before. -/
theorem attempt_eq_ok {α : Type} {fault : Option MacrError}
    {transaction : Except MacrError (Committed DispatchLeaseDb α)}
    {result : Committed DispatchLeaseDb α} :
    attempt fault transaction = .ok result ↔ fault = none ∧ transaction = .ok result := by
  cases fault <;> simp [attempt]

/-- What settles is a change where what commits is one. -/
theorem change_of_settle {α : Type} {db : DispatchLeaseDb}
    {transaction : Except MacrError (Committed DispatchLeaseDb α)}
    (commits : ∀ result, transaction = .ok result → DispatchLeaseDb.LeaseChange db result.1) :
    DispatchLeaseDb.LeaseChange db (settle db transaction).1 := by
  cases done : transaction with
  | error error => exact .same db
  | ok result => exact commits result done

/-- An acquisition creates a lease or leaves the tables. -/
theorem change_of_acquire (db : DispatchLeaseDb) (resourceKey : String) (runId : Uuid)
    (ttlSeconds : Int) (now : Timestamp) (fault : Option MacrError) :
    DispatchLeaseDb.LeaseChange db
      (settle db (attempt fault (db.acquire resourceKey runId ttlSeconds now))).1 := by
  apply change_of_settle
  intro result done
  obtain ⟨permit, _, ⟨_, _, same⟩ | ⟨_, creates⟩⟩ :=
    DispatchLeaseDb.acquire_eq_ok (attempt_eq_ok.mp done).2
  · rw [same]
    exact .same db
  · exact .created creates

/-- A release removes leases or leaves the tables. -/
theorem change_of_release (db : DispatchLeaseDb) (resourceKey : String) (runId : Uuid)
    (fencingToken : Nat) (fault : Option MacrError) :
    DispatchLeaseDb.LeaseChange db
      (settle db (attempt fault (db.release resourceKey runId fencingToken))).1 := by
  apply change_of_settle
  intro result done
  obtain ⟨_, _, _, same⟩ := DispatchLeaseDb.release_eq_ok (attempt_eq_ok.mp done).2
  rw [same]
  exact .removed db _

/-- The tables after a call of `admit` has acquired. -/
theorem db_admitAcquire (system : DispatchSystem) (index : Nat) (call : AdmitCall)
    (now : Timestamp) (fault : Option MacrError) :
    (system.admitAcquire index call now fault).db =
      (settle system.db
        (attempt fault (system.db.acquire call.resourceKey call.runId call.ttlSeconds now))).1 := by
  unfold admitAcquire
  simp only
  split <;> rfl

/-- A second verification leaves the tables. -/
theorem db_admitVerify (system : DispatchSystem) (index : Nat) (call : AdmitCall)
    (permit : DispatchPermit) (created : Bool) (reads : VerificationReads) :
    (system.admitVerify sha index call permit created reads).db = system.db := by
  unfold admitVerify
  split <;> rfl

/-- The tables after a refused call has released. -/
theorem db_admitRelease (system : DispatchSystem) (index : Nat) (call : AdmitCall)
    (permit : DispatchPermit) (created : Bool) (error : MacrError) (fault : Option MacrError) :
    (system.admitRelease index call permit created error fault).db =
      (settle system.db (attempt fault
        (system.db.release permit.resourceKey permit.runId permit.fencingToken))).1 := by
  unfold admitRelease
  simp only
  split <;> rfl

/-- Every step is one change of the store. -/
theorem change_step (system : DispatchSystem) (action : DispatchAction) :
    DispatchLeaseDb.LeaseChange system.db (step sha system action).db := by
  cases action with
  | acquire resourceKey runId ttlSeconds now fault =>
    have change := change_of_acquire system.db resourceKey runId ttlSeconds now fault
    simp only [step]
    split <;> exact change
  | renew resourceKey runId fencingToken ttlSeconds now fault =>
    apply change_of_settle
    intro result done
    obtain ⟨_, expiresAt, _, _, _, same⟩ :=
      DispatchLeaseDb.renew_eq_ok (attempt_eq_ok.mp done).2
    rw [same]
    exact .renewed system.db resourceKey expiresAt
  | release resourceKey runId fencingToken fault =>
    exact change_of_release system.db resourceKey runId fencingToken fault
  | reapExpiredForRun runId now fault =>
    apply change_of_settle
    intro result done
    obtain ⟨_, _, same⟩ := DispatchLeaseDb.reapExpiredForRun_eq_ok (attempt_eq_ok.mp done).2
    rw [same]
    exact .removed system.db _
  | drawToken => exact .drawn system.db
  | beginAdmit =>
    simp only [step]
    split <;> exact .same system.db
  | admitAcquire index now fault =>
    simp only [step]
    split
    · split
      · rw [db_admitAcquire]
        exact change_of_acquire _ _ _ _ _ _
      · exact .same system.db
    · exact .same system.db
  | admitVerify index reads =>
    simp only [step]
    split
    · split
      · rw [db_admitVerify]
        exact .same system.db
      · exact .same system.db
    · exact .same system.db
  | admitRelease index fault =>
    simp only [step]
    split
    · split
      · rw [db_admitRelease]
        exact change_of_release _ _ _ _ _
      · exact .same system.db
    · exact .same system.db

/-! ## The invariant -/

/-- A lease with the token of a permit is of the permit's resource and run, and the token has been
drawn. -/
def Known (db : DispatchLeaseDb) (permit : DispatchPermit) : Prop :=
  permit.fencingToken ≤ db.fencingCounter ∧
    ∀ row ∈ db.leases.rows, row.fencingToken = permit.fencingToken →
      row.resourceKey = permit.resourceKey ∧ row.runId = permit.runId

/-- No lease has the token of a permit, which has been drawn. -/
def Gone (db : DispatchLeaseDb) (permit : DispatchPermit) : Prop :=
  permit.fencingToken ≤ db.fencingCounter ∧
    ∀ row ∈ db.leases.rows, row.fencingToken ≠ permit.fencingToken

/-- What the calls of `admit` rely on. -/
structure Disciplined (system : DispatchSystem) : Prop where
  /-- Each stored lease is known by its own token. -/
  rows : ∀ row ∈ system.db.leases.rows, Known system.db row
  /-- The permit of each call that may still answer for it is known. -/
  known : ∀ call ∈ system.calls, ∀ permit ∈ call.stage.answerable?, Known system.db permit
  /-- A call that has raised has left no lease it created. -/
  gone : ∀ call ∈ system.calls, ∀ permit error, call.stage = .raised (some permit) error →
    Gone system.db permit

theorem known_of_change {db next : DispatchLeaseDb} {permit : DispatchPermit}
    (change : DispatchLeaseDb.LeaseChange db next) (known : Known db permit) :
    Known next permit := by
  refine ⟨known.1.trans change.counter, ?_⟩
  intro row stored same
  rcases change.origin stored with ⟨old, held, resource, run, token⟩ | ⟨_, _, _, creates⟩
  · rw [← resource, ← run]
    exact known.2 old held (token.trans same)
  · have fresh := creates.token
    have bound := known.1
    omega

theorem gone_of_change {db next : DispatchLeaseDb} {permit : DispatchPermit}
    (change : DispatchLeaseDb.LeaseChange db next) (gone : Gone db permit) : Gone next permit := by
  refine ⟨gone.1.trans change.counter, ?_⟩
  intro row stored same
  rcases change.origin stored with ⟨old, held, _, _, token⟩ | ⟨_, _, _, creates⟩
  · exact gone.2 old held (token.trans same)
  · have fresh := creates.token
    have bound := gone.1
    omega

/-- Stored leases stay known by their tokens. -/
theorem rows_of_change {db next : DispatchLeaseDb}
    (change : DispatchLeaseDb.LeaseChange db next)
    (rows : ∀ row ∈ db.leases.rows, Known db row) : ∀ row ∈ next.leases.rows, Known next row := by
  intro row stored
  rcases change.origin stored with ⟨old, held, resource, run, token⟩ | ⟨_, _, _, creates⟩
  · have known := known_of_change change (rows old held)
    rw [Known, token, resource, run] at known
    exact known
  · have fresh := creates.token
    refine ⟨by rw [fresh, creates.counter], ?_⟩
    intro other held same
    rcases (creates.rows other).mp held with ⟨older, _⟩ | rfl
    · have bound := (rows other older).1
      omega
    · exact ⟨rfl, rfl⟩

/-- The token of a known permit whose lease is not stored is gone. -/
theorem gone_of_not_stored {permit : DispatchPermit} (known : Known system.db permit)
    (missing : ¬system.Stored permit) : Gone system.db permit := by
  refine ⟨known.1, ?_⟩
  intro row stored same
  obtain ⟨resource, run⟩ := known.2 row stored same
  have held : system.db.held? permit.resourceKey permit.runId permit.fencingToken = some row :=
    DispatchLeaseDb.held?_eq_some.mpr ⟨stored, resource, run, same⟩
  exact missing (by rw [Stored, held]; rfl)

/-- A change of the tables alone keeps the discipline. -/
theorem disciplined_of_change (held : Disciplined system) {db : DispatchLeaseDb}
    (change : DispatchLeaseDb.LeaseChange system.db db) (acquired : List DispatchPermit) :
    Disciplined ⟨db, acquired, system.calls⟩ where
  rows := rows_of_change change held.rows
  known := fun call member permit answerable =>
    known_of_change change (held.known call member permit answerable)
  gone := fun call member permit error raised =>
    gone_of_change change (held.gone call member permit error raised)

/-- A call may move on where the new stage is one the discipline allows. -/
theorem disciplined_of_moved (held : Disciplined system) {db : DispatchLeaseDb}
    (change : DispatchLeaseDb.LeaseChange system.db db) (index : Nat) (call : AdmitCall)
    {stage : AdmitStage} (known : ∀ permit ∈ stage.answerable?, Known db permit)
    (gone : ∀ permit error, stage = .raised (some permit) error → Gone db permit) :
    Disciplined (system.moved db index call stage) where
  rows := rows_of_change change held.rows
  known := by
    intro other member permit answerable
    rcases List.mem_or_eq_of_mem_set member with earlier | rfl
    · exact known_of_change change (held.known other earlier permit answerable)
    · exact known permit answerable
  gone := by
    intro other member permit error raised
    rcases List.mem_or_eq_of_mem_set member with earlier | rfl
    · exact gone_of_change change (held.gone other earlier permit error raised)
    · exact gone permit error raised

/-- A call of `admit` may begin. -/
theorem disciplined_of_begun (held : Disciplined system) {call : AdmitCall}
    (begun : call.stage.answerable? = none) :
    Disciplined { system with calls := system.calls ++ [call] } where
  rows := held.rows
  known := by
    intro other member permit answerable
    rcases List.mem_append.mp member with earlier | new
    · exact held.known other earlier permit answerable
    · rw [List.mem_singleton.mp new, begun] at answerable
      cases answerable
  gone := by
    intro other member permit error raised
    rcases List.mem_append.mp member with earlier | new
    · exact held.gone other earlier permit error raised
    · rw [List.mem_singleton.mp new] at raised
      rw [raised] at begun
      cases begun

/-! ## Steps of a call -/

/-- The permit an acquisition answers with is known afterwards. -/
theorem known_of_acquire (held : Disciplined system) {resourceKey : String} {runId : Uuid}
    {ttlSeconds : Int} {now : Timestamp} {result : Committed DispatchLeaseDb DispatchPermit}
    {permit : DispatchPermit}
    (done : system.db.acquire resourceKey runId ttlSeconds now = .ok result)
    (answer : result.2 = .ok permit) : Known result.1 permit := by
  obtain ⟨answered, same, ⟨live, _, kept⟩ | ⟨_, creates⟩⟩ := DispatchLeaseDb.acquire_eq_ok done
  all_goals
    rw [answer, Except.ok.injEq] at same
    subst same
  · rw [kept]
    exact held.rows permit (DispatchLeaseDb.live?_eq_some.mp live).1.1
  · exact rows_of_change (.created creates) held.rows permit
      ((creates.rows permit).mpr (.inr rfl))

/-- A call of `admit` acquires within the discipline. -/
theorem disciplined_admitAcquire (held : Disciplined system) (index : Nat) (call : AdmitCall)
    (now : Timestamp) (fault : Option MacrError) :
    Disciplined (system.admitAcquire index call now fault) := by
  have change := change_of_acquire system.db call.resourceKey call.runId call.ttlSeconds now fault
  unfold admitAcquire
  simp only
  split
  · rename_i permit answer
    apply disciplined_of_moved held change
    · intro other answerable
      have same : permit = other := by simpa [AdmitStage.answerable?] using answerable
      subst same
      cases done : attempt fault
          (system.db.acquire call.resourceKey call.runId call.ttlSeconds now) with
      | error error => simp [settle, done] at answer
      | ok result =>
        simp only [settle, done] at answer ⊢
        exact known_of_acquire held (attempt_eq_ok.mp done).2 answer
    · intro other error raised
      cases raised
  · apply disciplined_of_moved held change
    · intro other answerable
      cases answerable
    · intro other error raised
      cases raised

/-- A second verification moves its call on within the discipline, where it is judged or the lease
the call created is gone. -/
theorem disciplined_admitVerify (held : Disciplined system) {index : Nat} {call : AdmitCall}
    {permit : DispatchPermit} {created : Bool} {reads : VerificationReads}
    (found : system.calls[index]? = some call) (stage : call.stage = .acquired permit created)
    (judged : created = true → system.Stored permit →
      Judged (verification sha reads call.reference call.use) = true) :
    Disciplined (system.admitVerify sha index call permit created reads) := by
  have known : Known system.db permit := by
    apply held.known call (List.mem_of_getElem? found) permit
    rw [stage]
    rfl
  have change := DispatchLeaseDb.LeaseChange.same system.db
  unfold admitVerify
  split
  · apply disciplined_of_moved held change
    · intro other answerable
      cases answerable
    · intro other error raised
      cases raised
  · apply disciplined_of_moved held change
    · intro other answerable
      have same : permit = other := by simpa [AdmitStage.answerable?] using answerable
      exact same ▸ known
    · intro other error raised
      cases raised
  · rename_i error unjudged failed
    apply disciplined_of_moved held change
    · intro other answerable
      have same : noted permit created = some other := answerable
      rw [noted] at same
      split at same
      · cases same
        exact known
      · cases same
    · intro other raisedError raised
      rw [AdmitStage.raised.injEq, noted] at raised
      obtain ⟨same, _⟩ := raised
      split at same
      case isFalse => cases same
      case isTrue createdIt =>
        cases same
        apply gone_of_not_stored known
        intro stored
        have answer := judged createdIt stored
        rw [failed] at answer
        cases error with
        | dispatchAuthorization message => exact unjudged message rfl
        | _ => cases answer

/-- A release moves its refused call on within the discipline, where it does not fail on a stored
lease that the call created. -/
theorem disciplined_admitRelease (held : Disciplined system) {index : Nat} {call : AdmitCall}
    {permit : DispatchPermit} {created : Bool} {error : MacrError} {fault : Option MacrError}
    (found : system.calls[index]? = some call)
    (stage : call.stage = .refused permit created error)
    (releases : created = true → system.Stored permit → fault = none) :
    Disciplined (system.admitRelease index call permit created error fault) := by
  have known : Known system.db permit := by
    apply held.known call (List.mem_of_getElem? found) permit
    rw [stage]
    rfl
  have change :=
    change_of_release system.db permit.resourceKey permit.runId permit.fencingToken fault
  have answers : ∀ {db : DispatchLeaseDb}, Known db permit →
      ∀ other ∈ noted permit created, Known db other := by
    intro db knownThere other answerable
    rw [noted] at answerable
    split at answerable
    · cases answerable
      exact knownThere
    · cases answerable
  -- Once the release is over, no lease has the token of a permit whose lease the call created.
  have gone : created = true → Gone (settle system.db (attempt fault
      (system.db.release permit.resourceKey permit.runId permit.fencingToken))).1 permit := by
    intro createdIt
    cases done : attempt fault
        (system.db.release permit.resourceKey permit.runId permit.fencingToken) with
    | ok result =>
      obtain ⟨row, stored, _, same⟩ := DispatchLeaseDb.release_eq_ok (attempt_eq_ok.mp done).2
      rw [settle, same]
      refine ⟨known.1, ?_⟩
      intro other left token
      rw [Table.mem_delete, decide_eq_false_iff_not] at left
      exact left.2 (known.2 other left.1 token).1
    | error failed =>
      rw [settle]
      apply gone_of_not_stored known
      intro stored
      obtain ⟨row, here⟩ := Option.isSome_iff_exists.mp stored
      rw [releases createdIt stored, attempt, DispatchLeaseDb.release, here] at done
      cases done
  unfold admitRelease
  simp only
  split
  all_goals
    apply disciplined_of_moved held change
    · exact answers (known_of_change change known)
    · intro other raisedError raised
      rw [AdmitStage.raised.injEq, noted] at raised
      obtain ⟨same, _⟩ := raised
      split at same
      case isFalse => cases same
      case isTrue createdIt =>
        cases same
        exact gone createdIt

/-- Every allowed step keeps the discipline. -/
theorem disciplined_step (held : Disciplined system) (permitted : system.allowed sha action) :
    Disciplined (step sha system action) := by
  have moves : DispatchLeaseDb.LeaseChange system.db (step sha system action).db :=
    change_step system action
  cases action with
  | acquire resourceKey runId ttlSeconds now fault =>
    have change := change_of_acquire system.db resourceKey runId ttlSeconds now fault
    simp only [step]
    split
    · exact disciplined_of_change held change _
    · exact disciplined_of_change held change _
  | renew | release | reapExpiredForRun | drawToken =>
    exact disciplined_of_change held moves system.acquired
  | beginAdmit =>
    simp only [step]
    split
    · exact disciplined_of_begun held rfl
    · exact disciplined_of_begun held rfl
  | admitAcquire index now fault =>
    simp only [step]
    split
    · split
      · exact disciplined_admitAcquire held index _ now fault
      · exact held
    · exact held
  | admitVerify index reads =>
    simp only [step]
    split
    case h_2 => exact held
    case h_1 call found =>
      split
      case h_2 => exact held
      case h_1 permit created stage =>
        apply disciplined_admitVerify held found stage
        intro createdIt stored
        subst createdIt
        exact permitted call found permit (by rw [stage]; rfl) stage stored
  | admitRelease index fault =>
    simp only [step]
    split
    case h_2 => exact held
    case h_1 call found =>
      split
      case h_2 => exact held
      case h_1 permit created error stage =>
        apply disciplined_admitRelease held found stage
        intro createdIt stored
        subst createdIt
        have here := permitted call found permit (by rw [stage]; rfl) stored
        rw [stage] at here
        exact here.1

/-- A new store is disciplined. -/
theorem disciplined_initial : Disciplined initial where
  rows := fun _ stored => absurd stored List.not_mem_nil
  known := fun _ member => absurd member List.not_mem_nil
  gone := fun _ member => absurd member List.not_mem_nil

end DispatchSystem
end Macr
