import Macr.Approvals.Store
import Macr.CanonicalCode

/-!
# What approval records guarantee

A record is verified for a key only when a call with that key made and wrote it, in every run. The
rest of the contract holds while no call moves a file that is complete or being written, and while
a call that meets a record takes it only with the binding it asks for: a complete record then
stays at its path, and what `create` returned is verified there.
-/

namespace Macr

open Lib

/-! ## Records -/

section Records

variable {hmac : Hmac}

/-- The record of a call, as it was made. -/
structure Made (hmac : Hmac) (request : ApprovalRequest) (clock : Option Timestamp)
    (record : ApprovalRecord) : Prop where
  /-- It is for the digest. -/
  digest : record.approvalSha256 = request.approvalSha256
  /-- It has the binding that was asked for. -/
  tier : record.tier = request.tier
  /-- It has the fields of its version. -/
  fields : record.schemaVersion = 2 ↔ record.tier.isSome
  /-- It has a key. -/
  keyed : request.signingKey ≠ ""
  /-- It is authenticated with the key. -/
  mac : record.macSha256 = hmac.mac request.signingKey record.toApprovalBody.toDict
  /-- It is valid at the clock it was made at. -/
  valid : validateDocument request.approvalSha256 record clock = .ok record

/-- A MAC is made with a key. -/
theorem recordMac_eq_ok {body : ApprovalBody} {signingKey : String} {digest : Digest} :
    recordMac hmac body signingKey = .ok digest ↔
      signingKey ≠ "" ∧ hmac.mac signingKey body.toDict = digest := by
  simp only [recordMac, bind_eq_ok, raiseIf_eq_ok, exists_const, pure_eq_ok]

/-- The records that are valid at a clock. -/
theorem validateDocument_eq_ok {digest : Digest} {record valid : ApprovalRecord}
    {clock : Option Timestamp} : validateDocument digest record clock = .ok valid ↔
      ¬((record.schemaVersion ≠ 1 ∧ record.schemaVersion ≠ 2) ∨
        record.providerId ≠ "glm_flash_worker" ∨ record.approvalSha256 ≠ digest ∨
        record.approvedBy ≠ "host_operator" ∨ ¬isVersion4 record.nonce ∨
        record.expiresAt ≤ record.approvedAt ∨
        daysLength 365 < record.expiresAt - record.approvedAt) ∧
      ¬(record.schemaVersion = 2 ∧ ¬record.tier.any
        (fun tier => tier.contractSchema = 3 && isSha256 tier.bindingDigest)) ∧
      ∃ now : Timestamp, clock = some now ∧ ¬pastCalendar (now + 300000000) ∧
        ¬now + 300000000 < record.approvedAt ∧ ¬record.expiresAt ≤ now ∧ record = valid := by
  simp only [validateDocument, bind_eq_ok, raiseIf_eq_ok, require_eq_ok, exists_const, pure_eq_ok]

/-- A record is made with the fields of its arguments. -/
theorem made_of_prepared {request : ApprovalRequest} {clock : Option Timestamp}
    {nonce : DrawnUuid} {record : ApprovalRecord}
    (prepared : prepareApproval hmac request clock nonce = .ok record) :
    Made hmac request clock record := by
  simp only [prepareApproval, bind_eq_ok, raiseIf_eq_ok, require_eq_ok, exists_const, pure_eq_ok,
    recordMac_eq_ok, not_not] at prepared
  obtain ⟨days, now, rfl, typed, range, mac, ⟨keyed, authenticated⟩, rfl⟩ := prepared
  have positive : dayLength ≤ daysLength request.expiresInDays.toNat :=
    Nat.le_mul_of_pos_left _ (by omega)
  have length : daysLength request.expiresInDays.toNat ≤ daysLength 365 :=
    Nat.mul_le_mul_right _ (by omega)
  have minutes : 300000000 ≤ dayLength := by decide
  have calendar : ¬pastCalendar (now + 300000000) := fun past =>
    range (pastCalendar_mono (Nat.add_le_add_left (Nat.le_trans minutes positive) now) past)
  have later : now < now + daysLength request.expiresInDays.toNat :=
    Nat.lt_add_of_pos_right (Nat.lt_of_lt_of_le (by decide) positive)
  have fields : request.tier.isSome = (request.approvalContractSchema.isSome ||
      request.providerTierBindingDigest.isSome) ∧ ∀ tier ∈ request.tier,
        tier.contractSchema = 3 ∧ isSha256 tier.bindingDigest := by
    unfold ApprovalRequest.tier
    cases contractSchema : request.approvalContractSchema <;>
      cases bindingDigest : request.providerTierBindingDigest <;> simp_all
  refine ⟨rfl, rfl, ?_, keyed, authenticated.symm, validateDocument_eq_ok.mpr
    ⟨?_, ?_, now, rfl, calendar, ?_, ?_, rfl⟩⟩
  · simp only [fields.1]
    split <;> simp_all
  · rintro (version | other | other | other | version | order | long)
    · split at version <;> simp at version
    · exact other rfl
    · exact other rfl
    · exact other rfl
    · exact version nonce.version
    · exact Nat.not_le.mpr later order
    · rw [Nat.add_sub_cancel_left] at long
      exact Nat.not_le.mpr long length
  · rintro ⟨version, unbound⟩
    cases bound : request.tier with
    | none =>
      rw [← fields.1, bound] at version
      simp at version
    | some tier =>
      obtain ⟨three, digest⟩ := fields.2 tier bound
      simp [bound, three, digest] at unbound
  · exact fun future => Nat.not_le.mpr future (Nat.le_add_right _ _)
  · exact Nat.not_le.mpr later

end Records

namespace ApprovalState

variable {hmac : Hmac} {state : ApprovalState}

/-! ## Reading -/

/-- A complete record at the path of a digest. -/
def Stored (state : ApprovalState) (digest : Digest) (record : ApprovalRecord) : Prop :=
  ∃ name, state.path digest = some name ∧ state.files name = some ⟨record, true⟩

/-- What is read is a complete record with the fields of its version. -/
theorem readDocument_eq_ok {digest : Digest} {record : ApprovalRecord} :
    state.readDocument digest = .ok record ↔
      state.Stored digest record ∧ (record.schemaVersion = 2 ↔ record.tier.isSome) := by
  unfold readDocument Stored
  cases at_path : state.path digest with
  | none => simp
  | some name =>
    cases file : state.files name with
    | none => simp [file]
    | some stored =>
      obtain ⟨written, complete⟩ := stored
      simp only [Option.bind_some, file, bind_eq_ok, raiseIf_eq_ok, exists_const, pure_eq_ok,
        not_not, Option.some.injEq, exists_eq_left', ApprovalFile.mk.injEq]
      have spelt : decide (written.schemaVersion = 2) = written.tier.isSome ↔
          (written.schemaVersion = 2 ↔ written.tier.isSome) := by
        rw [Bool.eq_iff_iff, decide_eq_true_eq]
      constructor
      · rintro ⟨whole, fields, rfl⟩
        exact ⟨⟨rfl, whole⟩, spelt.mp fields⟩
      · rintro ⟨⟨rfl, whole⟩, fields⟩
        exact ⟨whole, spelt.mpr fields, rfl⟩

/-- What is verified is stored, has the MAC of the key, and is valid. -/
theorem verify_eq_ok {digest : Digest} {signingKey : String} {clock : Option Timestamp}
    {record : ApprovalRecord} : state.verify hmac digest signingKey clock = .ok record ↔
      state.readDocument digest = .ok record ∧ signingKey ≠ "" ∧
        record.macSha256 = hmac.mac signingKey record.toApprovalBody.toDict ∧
        validateDocument digest record clock = .ok record := by
  simp only [verify, bind_eq_ok, raiseIf_eq_ok, exists_const, recordMac_eq_ok, not_not]
  constructor
  · rintro ⟨read, reads, mac, ⟨keyed, rfl⟩, same, valid⟩
    obtain rfl := (validateDocument_eq_ok.mp valid).2.2.choose_spec.2.2.2.2
    exact ⟨reads, keyed, same, valid⟩
  · rintro ⟨reads, keyed, same, valid⟩
    exact ⟨record, reads, _, ⟨keyed, rfl⟩, same, valid⟩

/-! ## Steps -/

/-- What holds of a state and of every step a call in a phase takes holds after it. -/
theorem inPhase_rule {call : Nat} {phase : ApprovalPhase} {next : ApprovalCall → ApprovalState}
    (holds : ApprovalState → Prop) (kept : holds state)
    (stepped : ∀ current, state.calls call = some current → current.phase = phase →
      holds (next current)) : holds (state.inPhase call phase next) := by
  unfold inPhase
  cases found : state.calls call with
  | none => exact kept
  | some current =>
    dsimp only
    split
    · exact stepped current found ‹_›
    · exact kept

/-- What holds of a state and after a call is cut holds in both cases. -/
theorem cut_rule {call : Nat} {phase : ApprovalPhase} (holds : ApprovalState → Prop)
    (kept : holds state)
    (stepped : ∀ current, state.calls call = some current →
      holds (state.setPhase call current phase)) : holds (state.cut call phase) := by
  unfold cut
  cases found : state.calls call with
  | none => exact kept
  | some current =>
    dsimp only
    split
    · exact stepped current found
    · exact kept

/-! ## Who wrote a record -/

/-- The records of the calls and of the files are those that were made. -/
structure Recorded (hmac : Hmac) (state : ApprovalState) : Prop where
  /-- A call has the record it made. -/
  made : ∀ {call current}, state.calls call = some current →
    Made hmac current.request current.clock current.record
  /-- A file has the record of its call. -/
  filed : ∀ {name file}, state.files name = some file →
    ∃ current, state.calls name = some current ∧ file.record = current.record
  /-- The file at a path is that of a call for the digest. -/
  placed : ∀ {digest name}, state.path digest = some name → ∃ current,
    state.calls name = some current ∧ current.request.approvalSha256 = digest

/-- A call that goes on keeps its record. -/
theorem Recorded.setPhase {call : Nat} {current : ApprovalCall} {phase : ApprovalPhase}
    (recorded : Recorded hmac state) (found : state.calls call = some current) :
    Recorded hmac (state.setPhase call current phase) where
  made := by
    intro other other_call member
    simp only [ApprovalState.setPhase, Function.update_apply] at member
    split at member
    · obtain rfl := Option.some.inj member
      exact (recorded.made found :)
    · exact recorded.made member
  filed := by
    intro name file member
    obtain ⟨writer, known, same⟩ := recorded.filed member
    simp only [ApprovalState.setPhase, Function.update_apply]
    split
    · subst name
      obtain rfl := Option.some.inj (found.symm.trans known)
      exact ⟨_, rfl, same⟩
    · exact ⟨writer, known, same⟩
  placed := by
    intro digest name member
    obtain ⟨writer, known, same⟩ := recorded.placed member
    simp only [ApprovalState.setPhase, Function.update_apply]
    split
    · subst name
      obtain rfl := Option.some.inj (found.symm.trans known)
      exact ⟨_, rfl, same⟩
    · exact ⟨writer, known, same⟩

/-- A call that writes its file leaves it with its record. -/
theorem Recorded.write {call : Nat} {current : ApprovalCall} {complete : Bool}
    (recorded : Recorded hmac state) (found : state.calls call = some current) :
    Recorded hmac { state with
      files := Function.update state.files call (some ⟨current.record, complete⟩) } where
  made := recorded.made
  filed := by
    intro name file member
    simp only [Function.update_apply] at member
    split at member
    · subst name
      obtain rfl := Option.some.inj member
      exact ⟨current, found, rfl⟩
    · exact recorded.filed member
  placed := recorded.placed

/-- A call that places its file, or takes one away, leaves the paths to calls for their digests. -/
theorem Recorded.place {call : Nat} {current : ApprovalCall} (at_path : Option Nat)
    (recorded : Recorded hmac state) (found : state.calls call = some current)
    (own : ∀ name ∈ at_path, name = call) :
    Recorded hmac { state with
      path := Function.update state.path current.request.approvalSha256 at_path } where
  made := recorded.made
  filed := recorded.filed
  placed := by
    intro digest name member
    simp only [Function.update_apply] at member
    split at member
    · subst digest
      obtain rfl := own name member
      exact ⟨current, found, rfl⟩
    · exact recorded.placed member

/-- A call that begins has made its record. -/
theorem Recorded.start {call : Nat} {current : ApprovalCall} (recorded : Recorded hmac state)
    (fresh : state.calls call = none)
    (made : Made hmac current.request current.clock current.record) :
    Recorded hmac { state with
      calls := Function.update state.calls call (some current) } where
  made := by
    intro other other_call member
    simp only [Function.update_apply] at member
    split at member
    · obtain rfl := Option.some.inj member
      exact made
    · exact recorded.made member
  filed := by
    intro name file member
    obtain ⟨writer, known, same⟩ := recorded.filed member
    refine ⟨writer, ?_, same⟩
    dsimp only
    rw [Function.update_of_ne (by rintro rfl; simp [fresh] at known)]
    exact known
  placed := by
    intro digest name member
    obtain ⟨writer, known, same⟩ := recorded.placed member
    refine ⟨writer, ?_, same⟩
    dsimp only
    rw [Function.update_of_ne (by rintro rfl; simp [fresh] at known)]
    exact known

/-- Every step keeps the records those that were made. -/
theorem Recorded.step (recorded : Recorded hmac state) (action : ApprovalAction) :
    Recorded hmac (state.step hmac action) := by
  cases action with
  | start call request clock nonce =>
    unfold ApprovalState.step
    dsimp only
    split
    case h_1 record fresh prepared =>
      exact recorded.start fresh (made_of_prepared prepared)
    case h_2 => exact recorded
  | checkPath call => exact inPhase_rule (Recorded hmac) recorded fun current found _ => recorded.setPhase found
  | move call =>
    refine inPhase_rule (Recorded hmac) recorded fun current found _ => ?_
    split
    · exact recorded.setPhase found
    · exact (recorded.place none found (by simp)).setPhase found
  | openFile call =>
    refine inPhase_rule (Recorded hmac) recorded fun current found _ => ?_
    split
    · exact ((recorded.place (some call) found (by simp)).write found).setPhase found
    · exact recorded.setPhase found
  | write call =>
    refine inPhase_rule (Recorded hmac) recorded fun current found _ => ?_
    exact (recorded.write found).setPhase found
  | finish call => exact inPhase_rule (Recorded hmac) recorded fun current found _ => recorded.setPhase found
  | verify call clock =>
    exact inPhase_rule (Recorded hmac) recorded fun current found _ => recorded.setPhase found
  | crash call => exact cut_rule (Recorded hmac) recorded fun current found => recorded.setPhase found
  | fail call className => exact cut_rule (Recorded hmac) recorded fun current found => recorded.setPhase found

/-- Every run has the records that were made. -/
theorem recorded_run (hmac : Hmac) (actions : List ApprovalAction) :
    Recorded hmac ((machine hmac).run initial actions) :=
  (machine hmac).run_invariant_all (fun _ action recorded => recorded.step action)
    ⟨nofun, nofun, nofun⟩ actions

/-- Who wrote what a key verifies, and when it can be verified. -/
def Unforgeable (hmac : Hmac) (state : ApprovalState) : Prop :=
  ∀ {digest signingKey clock record}, state.verify hmac digest signingKey clock = .ok record →
    (∃ name current, state.calls name = some current ∧ current.record = record ∧
      current.request.signingKey = signingKey ∧ current.request.approvalSha256 = digest ∧
      state.files name = some ⟨record, true⟩) ∧
    ∃ now, clock = some now ∧ now < record.expiresAt

/-- Recorded states verify nothing that was not written with the key. -/
theorem Recorded.unforgeable (injective : hmac.Injective) (recorded : Recorded hmac state) :
    Unforgeable hmac state := by
  intro digest signingKey clock record verified
  obtain ⟨reads, -, mac, valid⟩ := verify_eq_ok.mp verified
  obtain ⟨⟨name, at_path, file⟩, -⟩ := readDocument_eq_ok.mp reads
  obtain ⟨current, known, same⟩ := recorded.filed file
  obtain ⟨writer, also_known, for_digest⟩ := recorded.placed at_path
  obtain rfl := Option.some.inj (known.symm.trans also_known)
  have made := recorded.made known
  dsimp only at same
  rw [← same] at made
  obtain ⟨-, -, now, read, -, -, unexpired, -⟩ := validateDocument_eq_ok.mp valid
  have keys := (injective (made.mac.symm.trans mac)).1
  exact ⟨⟨name, current, known, same.symm, keys, for_digest, file⟩, now, read,
    Nat.lt_of_not_le unexpired⟩

/-! ## Orderly runs -/

/-- The step moves no file that is complete or being written, and a call takes the record it met
only with the binding it asks for. -/
def Orderly (hmac : Hmac) (state : ApprovalState) : ApprovalAction → Prop
  | .move call => ∀ current name file, state.calls call = some current →
      current.phase = .replacing → state.path current.request.approvalSha256 = some name →
      state.files name = some file → file.complete = false ∧
        ∀ writer, state.calls name = some writer → writer.phase ≠ .writing
  | .verify call clock => ∀ current record now, state.calls call = some current →
      current.phase = .verifying → state.Stored current.request.approvalSha256 record →
      record.macSha256 = hmac.mac current.request.signingKey record.toApprovalBody.toDict →
      clock = some now → now < record.expiresAt → record.tier = current.request.tier
  | _ => True

/-- Every file that a call still works on is at its path as the call left it, a call that has not
come to its file has none, and what a call returned is verified as it was asked for. -/
structure InForce (hmac : Hmac) (state : ApprovalState) : Prop extends Recorded hmac state where
  /-- A call that has not opened its file has none. -/
  unopened : ∀ {call current}, state.calls call = some current →
    current.phase.beforeOpening → state.files call = none
  /-- A call that has opened its file has it at the path. -/
  held : ∀ {call current complete}, state.calls call = some current →
    current.phase.progress = some complete →
    state.path current.request.approvalSha256 = some call ∧
      state.files call = some ⟨current.record, complete⟩
  /-- A returned record is verified and has the binding. -/
  returned : ∀ {call current record clock}, state.calls call = some current →
    current.phase = .returned record clock →
    state.verify hmac current.request.approvalSha256 current.request.signingKey clock =
      .ok record ∧ record.tier = current.request.tier

/-- What is verified stays so while complete records stay. -/
theorem verify_kept {after : ApprovalState} {digest : Digest} {signingKey : String}
    {clock : Option Timestamp} {record : ApprovalRecord}
    (kept : ∀ {digest record}, state.Stored digest record → after.Stored digest record)
    (verified : state.verify hmac digest signingKey clock = .ok record) :
    after.verify hmac digest signingKey clock = .ok record := by
  rw [verify_eq_ok, readDocument_eq_ok] at verified ⊢
  obtain ⟨⟨stored, fields⟩, rest⟩ := verified
  exact ⟨⟨kept stored, fields⟩, rest⟩

/-- A call goes on and leaves the files of the other calls as they are. -/
theorem InForce.goesOn {after : ApprovalState} {call : Nat} {current : ApprovalCall}
    {phase : ApprovalPhase} (inForce : InForce hmac state)
    (recorded : Recorded hmac (after.setPhase call current phase))
    (calls : after.calls = state.calls)
    (files : ∀ name, name ≠ call → after.files name = state.files name)
    (paths : ∀ {name holder complete}, name ≠ call → state.calls name = some holder →
      holder.phase.progress = some complete →
      after.path holder.request.approvalSha256 = state.path holder.request.approvalSha256)
    (kept : ∀ {digest record}, state.Stored digest record → after.Stored digest record)
    (unopened : phase.beforeOpening → after.files call = none)
    (held : ∀ {complete}, phase.progress = some complete →
      after.path current.request.approvalSha256 = some call ∧
        after.files call = some ⟨current.record, complete⟩)
    (returned : ∀ {record clock}, phase = .returned record clock →
      after.verify hmac current.request.approvalSha256 current.request.signingKey clock =
        .ok record ∧ record.tier = current.request.tier) :
    InForce hmac (after.setPhase call current phase) where
  toRecorded := recorded
  unopened := by
    intro other other_call member early
    simp only [setPhase, Function.update_apply, calls] at member
    split at member
    · subst other
      obtain rfl := Option.some.inj member
      exact unopened early
    · exact (files other ‹_›).trans (inForce.unopened member early)
  held := by
    intro other other_call complete member progress
    simp only [setPhase, Function.update_apply, calls] at member
    split at member
    · subst other
      obtain rfl := Option.some.inj member
      exact held progress
    · have before := inForce.held member progress
      exact ⟨(paths ‹_› member progress).trans before.1, (files other ‹_›).trans before.2⟩
  returned := by
    intro other other_call record clock member ended
    simp only [setPhase, Function.update_apply, calls] at member
    split at member
    · subst other
      obtain rfl := Option.some.inj member
      exact returned ended
    · obtain ⟨verified, tier⟩ := inForce.returned member ended
      exact ⟨verify_kept kept verified, tier⟩

/-- An orderly move takes away no complete file. -/
theorem move_incomplete {call : Nat} {current : ApprovalCall}
    (orderly : Orderly hmac state (.move call)) (found : state.calls call = some current)
    (replacing : current.phase = .replacing) {record : ApprovalRecord} :
    ¬state.Stored current.request.approvalSha256 record := by
  rintro ⟨name, at_path, file⟩
  have incomplete := (orderly current name _ found replacing at_path file).1
  cases incomplete

/-- An orderly move takes away no file that a call works on. -/
theorem move_unheld {call name : Nat} {current holder : ApprovalCall} {complete : Bool}
    (inForce : InForce hmac state) (orderly : Orderly hmac state (.move call))
    (found : state.calls call = some current) (replacing : current.phase = .replacing)
    (known : state.calls name = some holder) (progress : holder.phase.progress = some complete) :
    holder.request.approvalSha256 ≠ current.request.approvalSha256 := by
  intro same
  obtain ⟨at_path, file⟩ := inForce.held known progress
  rw [same] at at_path
  obtain ⟨incomplete, idle⟩ := orderly current name _ found replacing at_path file
  have idle := idle holder known
  cases phase : holder.phase <;> simp_all [ApprovalPhase.progress]

/-- An orderly step leaves every complete record at its path. -/
theorem stored_kept (inForce : InForce hmac state) {action : ApprovalAction}
    (orderly : Orderly hmac state action) {digest : Digest} {record : ApprovalRecord}
    (stored : state.Stored digest record) : (state.step hmac action).Stored digest record := by
  cases action with
  | start call request clock nonce =>
    unfold ApprovalState.step
    dsimp only
    split <;> exact stored
  | checkPath call =>
    exact inPhase_rule (Stored · digest record) stored fun _ _ _ => stored
  | move call =>
    refine inPhase_rule (Stored · digest record) stored fun current found phase => ?_
    split
    · exact stored
    · obtain ⟨name, at_path, file⟩ := stored
      refine ⟨name, ?_, file⟩
      have other : digest ≠ current.request.approvalSha256 := by
        rintro rfl
        exact move_incomplete orderly found phase ⟨name, at_path, file⟩
      exact (Function.update_of_ne other _ _).trans at_path
  | openFile call =>
    refine inPhase_rule (Stored · digest record) stored fun current found phase => ?_
    split
    case h_1 vacant =>
      obtain ⟨name, at_path, file⟩ := stored
      have other : digest ≠ current.request.approvalSha256 := by
        rintro rfl
        simp [at_path] at vacant
      have elsewhere : name ≠ call := by
        rintro rfl
        simp [inForce.unopened found (by rw [phase]; rfl)] at file
      exact ⟨name, (Function.update_of_ne other _ _).trans at_path,
        (Function.update_of_ne elsewhere _ _).trans file⟩
    case h_2 => exact stored
  | write call =>
    refine inPhase_rule (Stored · digest record) stored fun current found phase => ?_
    obtain ⟨name, at_path, file⟩ := stored
    have elsewhere : name ≠ call := by
      rintro rfl
      have progress : current.phase.progress = some false := by rw [phase]; rfl
      simp [(inForce.held found progress).2] at file
    exact ⟨name, at_path, (Function.update_of_ne elsewhere _ _).trans file⟩
  | finish call =>
    exact inPhase_rule (Stored · digest record) stored fun _ _ _ => stored
  | verify call clock =>
    exact inPhase_rule (Stored · digest record) stored fun _ _ _ => stored
  | crash call => exact cut_rule (Stored · digest record) stored fun _ _ => stored
  | fail call className =>
    exact cut_rule (Stored · digest record) stored fun _ _ => stored

/-- A call goes on without touching a file. -/
theorem InForce.setPhase {call : Nat} {current : ApprovalCall} {phase : ApprovalPhase}
    (inForce : InForce hmac state) (found : state.calls call = some current)
    (early : phase.beforeOpening → current.phase.beforeOpening) (idle : phase.progress = none)
    (returned : ∀ {record clock}, phase = .returned record clock →
      state.verify hmac current.request.approvalSha256 current.request.signingKey clock =
        .ok record ∧ record.tier = current.request.tier) :
    InForce hmac (state.setPhase call current phase) :=
  inForce.goesOn (inForce.toRecorded.setPhase found) rfl (fun _ _ => rfl) (fun _ _ _ => rfl)
    (fun stored => stored) (fun before => inForce.unopened found (early before))
    (by simp [idle]) returned

/-- A call begins without a file. -/
theorem InForce.start {call : Nat} {request : ApprovalRequest} {clock : Option Timestamp}
    {record : ApprovalRecord} (inForce : InForce hmac state) (fresh : state.calls call = none)
    (recorded : Recorded hmac { state with
      calls := Function.update state.calls call (some ⟨request, clock, record, .prepared⟩) }) :
    InForce hmac { state with
      calls := Function.update state.calls call (some ⟨request, clock, record, .prepared⟩) } where
  toRecorded := recorded
  unopened := by
    intro other current member early
    simp only [Function.update_apply] at member
    split at member
    · subst other
      cases file : state.files call with
      | none => rfl
      | some written =>
        obtain ⟨writer, known, -⟩ := inForce.filed file
        simp [fresh] at known
    · exact inForce.unopened member early
  held := by
    intro other current complete member progress
    simp only [Function.update_apply] at member
    split at member
    · obtain rfl := Option.some.inj member
      cases progress
    · exact inForce.held member progress
  returned := by
    intro other current returned read member ended
    simp only [Function.update_apply] at member
    split at member
    · obtain rfl := Option.some.inj member
      cases ended
    · exact inForce.returned member ended

/-- A step of a call in a phase is what it does there. -/
theorem inPhase_eq {call : Nat} {current : ApprovalCall} {phase : ApprovalPhase}
    {next : ApprovalCall → ApprovalState} (found : state.calls call = some current)
    (here : current.phase = phase) : state.inPhase call phase next = next current := by
  simp [inPhase, found, here]

/-- An orderly step keeps what is in force. -/
theorem InForce.step (inForce : InForce hmac state) {action : ApprovalAction}
    (orderly : Orderly hmac state action) : InForce hmac (state.step hmac action) := by
  have recorded := inForce.toRecorded.step action
  have kept {digest : Digest} {record : ApprovalRecord} (stored : state.Stored digest record) :=
    stored_kept inForce orderly stored
  cases action with
  | start call request clock nonce =>
    unfold ApprovalState.step at recorded kept ⊢
    dsimp only at recorded kept ⊢
    cases fresh : state.calls call with
    | some current => exact inForce
    | none =>
      cases prepared : prepareApproval hmac request clock nonce with
      | error raised => exact inForce
      | ok record =>
        rw [fresh, prepared] at recorded
        exact inForce.start fresh recorded
  | checkPath call =>
    refine inPhase_rule (InForce hmac) inForce fun current found phase => inForce.setPhase found ?_ ?_ ?_
    · intro _
      rw [phase]
      rfl
    · split
      · rfl
      · split <;> rfl
    · intro record clock ended
      split at ended
      · cases ended
      · split at ended <;> cases ended
  | move call =>
    refine inPhase_rule (InForce hmac) inForce fun current found phase => ?_
    unfold ApprovalState.step at recorded kept
    dsimp only at recorded kept
    rw [inPhase_eq found phase] at recorded kept
    split
    case h_1 => exact inForce.setPhase found nofun rfl nofun
    case h_2 vacated at_path =>
      rw [at_path] at recorded kept
      refine inForce.goesOn recorded rfl (fun _ _ => rfl) ?_ kept ?_ nofun nofun
      · intro name holder complete _ known progress
        exact Function.update_of_ne (move_unheld inForce orderly found phase known progress) _ _
      · exact fun _ => inForce.unopened found (by rw [phase]; rfl)
  | openFile call =>
    refine inPhase_rule (InForce hmac) inForce fun current found phase => ?_
    unfold ApprovalState.step at recorded kept
    dsimp only at recorded kept
    rw [inPhase_eq found phase] at recorded kept
    split
    case h_1 vacant =>
      rw [vacant] at recorded kept
      refine inForce.goesOn recorded rfl ?_ ?_ kept nofun ?_ nofun
      · exact fun name other => Function.update_of_ne other _ _
      · intro name holder complete _ known progress
        refine Function.update_of_ne ?_ _ _
        intro same
        have at_path := (inForce.held known progress).1
        rw [same, vacant] at at_path
        cases at_path
      · rintro _ ⟨⟩
        exact ⟨Function.update_self _ _ _, Function.update_self _ _ _⟩
    case h_2 => exact inForce.setPhase found nofun rfl nofun
  | write call =>
    refine inPhase_rule (InForce hmac) inForce fun current found phase => ?_
    unfold ApprovalState.step at recorded kept
    dsimp only at recorded kept
    rw [inPhase_eq found phase] at recorded kept
    refine inForce.goesOn recorded rfl ?_ (fun _ _ _ => rfl) kept nofun ?_ nofun
    · exact fun name other => Function.update_of_ne other _ _
    · rintro _ ⟨⟩
      have progress : current.phase.progress = some false := by rw [phase]; rfl
      exact ⟨(inForce.held found progress).1, Function.update_self _ _ _⟩
  | finish call =>
    refine inPhase_rule (InForce hmac) inForce fun current found phase => inForce.setPhase found nofun rfl ?_
    rintro _ _ ⟨⟩
    have progress : current.phase.progress = some true := by rw [phase]; rfl
    obtain ⟨at_path, file⟩ := inForce.held found progress
    have made := inForce.made found
    exact ⟨verify_eq_ok.mpr ⟨readDocument_eq_ok.mpr ⟨⟨call, at_path, file⟩, made.fields⟩,
      made.keyed, made.mac, made.valid⟩, made.tier⟩
  | verify call clock =>
    refine inPhase_rule (InForce hmac) inForce fun current found phase => inForce.setPhase found ?_ ?_ ?_
    · split <;> exact nofun
    · split <;> rfl
    · intro record read ended
      split at ended
      case h_1 stored verified =>
        obtain ⟨rfl, rfl⟩ := ApprovalPhase.returned.inj ended
        obtain ⟨reads, -, mac, valid⟩ := verify_eq_ok.mp verified
        obtain ⟨-, -, now, rfl, -, -, unexpired, -⟩ := validateDocument_eq_ok.mp valid
        exact ⟨verified, orderly current stored now found phase (readDocument_eq_ok.mp reads).1
          mac rfl (Nat.lt_of_not_le unexpired)⟩
      case h_2 => cases ended
  | crash call =>
    exact cut_rule (InForce hmac) inForce fun current found => inForce.setPhase found nofun rfl nofun
  | fail call className =>
    exact cut_rule (InForce hmac) inForce fun current found => inForce.setPhase found nofun rfl nofun

/-- The empty directory has nothing in force. -/
theorem inForce_initial : InForce hmac initial :=
  ⟨⟨nofun, nofun, nofun⟩, nofun, nofun, nofun⟩

/-- Every orderly run keeps what is in force. -/
theorem inForce_run {actions : List ApprovalAction}
    (orderly : (machine hmac).Obeys (Orderly hmac) initial actions) :
    InForce hmac ((machine hmac).run initial actions) :=
  (machine hmac).run_invariant (fun _ _ inForce orderly => inForce.step orderly)
    inForce_initial orderly

/-- A digest that `create` returned a record for has one that can be read. -/
def Durable (state : ApprovalState) : Prop :=
  ∀ {call current record clock}, state.calls call = some current →
    current.phase = .returned record clock →
    ∃ stored, state.readDocument current.request.approvalSha256 = .ok stored

/-- What `create` returned is verified at the clock it read, and has the binding it was asked
for. -/
def Faithful (hmac : Hmac) (state : ApprovalState) : Prop :=
  ∀ {call current record clock}, state.calls call = some current →
    current.phase = .returned record clock →
    state.verify hmac current.request.approvalSha256 current.request.signingKey clock =
      .ok record ∧ record.tier = current.request.tier

/-- What can be read before a step can be read after it. -/
def Kept (before after : ApprovalState) : Prop :=
  ∀ {digest record}, before.readDocument digest = .ok record →
    after.readDocument digest = .ok record

/-- No run forges a record, and every orderly run keeps each record that can be read, has one for
every digest that `create` returned one for, and returns what was asked for. -/
theorem approvals_kept (injective : hmac.Injective) (actions : List ApprovalAction) :
    Unforgeable hmac ((machine hmac).run initial actions) ∧
    ((machine hmac).Obeys (Orderly hmac) initial actions →
      Durable ((machine hmac).run initial actions) ∧
      Faithful hmac ((machine hmac).run initial actions) ∧
      ∀ step ∈ (machine hmac).steps initial actions, Kept step.before step.after) := by
  refine ⟨(recorded_run hmac actions).unforgeable injective, fun orderly => ⟨?_, ?_, ?_⟩⟩
  · intro call current record clock known ended
    exact ⟨record, (verify_eq_ok.mp ((inForce_run orderly).returned known ended).1).1⟩
  · exact (inForce_run orderly).returned
  · intro step member digest record reads
    have keep : ∀ state action, InForce hmac state → Orderly hmac state action →
        InForce hmac (state.step hmac action) := fun _ _ inForce orderly => inForce.step orderly
    obtain ⟨before, allowed, taken⟩ :=
      (machine hmac).steps_invariant keep inForce_initial orderly step member
    rw [readDocument_eq_ok] at reads ⊢
    rw [taken]
    exact ⟨stored_kept before allowed reads.1, reads.2⟩

/-- An injective MAC. -/
def packedHmac : Hmac := ⟨fun key document => packedDigest.sha256 (.arr [.str key, document])⟩

/-- Its injectivity. -/
theorem packedHmac_injective : packedHmac.Injective := by
  intro key other document second same
  have documents := packedDigest_injective same
  simpa using documents

/-- A UUID of the fourth version. -/
def drawnNonce : DrawnUuid := ⟨4 * 2 ^ 76 + 2 * 2 ^ 62, by decide⟩

/-- A call without a binding, for one day. -/
def dayRequest (replaceExisting : Bool) : ApprovalRequest :=
  ⟨7, "key", 1, replaceExisting, none, none⟩

/-- One call that creates a record. -/
def createdOnce : List ApprovalAction :=
  [.start 0 (dayRequest false) (some 63000000000000000) drawnNonce, .checkPath 0, .openFile 0,
    .write 0, .finish 0]

/-- The creation of one record, with what it keeps. -/
theorem createdOnce_kept :
    Unforgeable packedHmac ((machine packedHmac).run initial createdOnce) ∧
    Durable ((machine packedHmac).run initial createdOnce) ∧
    Faithful packedHmac ((machine packedHmac).run initial createdOnce) ∧
    ∀ step ∈ (machine packedHmac).steps initial createdOnce, Kept step.before step.after := by
  obtain ⟨unforgeable, kept⟩ := approvals_kept packedHmac_injective createdOnce
  exact ⟨unforgeable, kept ⟨trivial, trivial, trivial, trivial, trivial, trivial⟩⟩

/-- One call creates a record; a second one moves it away to replace it, and its process ends. -/
def replacedOnce : List ApprovalAction :=
  createdOnce ++ [.start 1 (dayRequest true) (some 63000000000000001) drawnNonce, .checkPath 1,
    .move 1, .crash 1]

/-- The record that was returned is gone, and no other is in its place. -/
theorem replacedOnce_loses :
    ¬(∀ {hmac : Hmac}, hmac.Injective → ∀ actions,
      Durable ((machine hmac).run initial actions)) := by
  intro durable
  have returned : ∃ current record clock,
      ((machine packedHmac).run initial replacedOnce).calls 0 = some current ∧
      current.phase = .returned record clock ∧ current.request.approvalSha256 = 7 :=
    ⟨_, _, _, rfl, rfl, rfl⟩
  obtain ⟨current, record, clock, known, ended, digest⟩ := returned
  obtain ⟨stored, reads⟩ := durable packedHmac_injective replacedOnce known ended
  obtain ⟨⟨name, at_path, -⟩, -⟩ := readDocument_eq_ok.mp reads
  have vacant : ((machine packedHmac).run initial replacedOnce).path 7 = none := rfl
  rw [digest, vacant] at at_path
  cases at_path

end ApprovalState

end Macr
