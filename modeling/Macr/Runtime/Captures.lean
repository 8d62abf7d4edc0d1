import Macr.Lib.Machine
import Macr.Runtime.Vault

/-!
# Captures under way

A capture links its file and then commits its row, and other captures, of other processes too, may
come in between. A failure behind the link leaves a file that no row points to, and so does a
capture of a run that another provider's capture has. Where neither happens, files and rows agree
whenever no capture is under way, and a run has one candidate.
-/

namespace Macr

open Lib

/-- The arguments of `CandidateVault.capture`, with the identifier and the time it draws. -/
structure CaptureCall where
  /-- The provider. -/
  providerId : String
  /-- The run. -/
  runId : Uuid
  /-- The answer. -/
  answer : Bytes
  /-- The task. -/
  taskDigest : Digest
  /-- The approval, if any. -/
  approvalDigest : Option Digest
  /-- The identifier drawn. -/
  captureId : Uuid
  /-- The time read. -/
  capturedAt : Timestamp
deriving DecidableEq

/-- The row of a capture. -/
def CaptureCall.row (hashes : Hashes) (call : CaptureCall) : CaptureRow where
  captureId := call.captureId
  runId := call.runId
  providerId := call.providerId
  sha256 := hashes.bytes call.answer
  byteCount := call.answer.length
  taskDigest := call.taskDigest
  approvalDigest := call.approvalDigest
  capturedAt := call.capturedAt

/-- The name of a capture's file. -/
abbrev CaptureCall.key (call : CaptureCall) : String × Uuid := (call.providerId, call.runId)

/-- Where the write of a file fails. -/
inductive WriteFailure where
  /-- Before the file is linked. -/
  | beforeLink
  /-- Behind the link: at the check of what was written, or at the start of the transaction. -/
  | afterLink
deriving DecidableEq

/-- Where the transaction of a row fails. -/
inductive RecordFailure where
  /-- Before its commit. -/
  | beforeCommit
  /-- Behind its commit. -/
  | afterCommit
deriving DecidableEq

/-- The vault, and the captures between their file and their row. -/
structure VaultSystem where
  /-- The vault. -/
  vault : CandidateVault
  /-- The captures under way. -/
  pending : List CaptureCall

/-- A step of a capture. -/
inductive CaptureAction where
  /-- A capture writes its file. -/
  | write (call : CaptureCall) (failure : Option WriteFailure)
  /-- A capture under way records its row. -/
  | record (index : Nat) (failure : Option RecordFailure)

/-- How a step ends for its caller. -/
inductive CaptureOutcome where
  /-- There is no such capture. -/
  | idle
  /-- The capture is under way. -/
  | underWay
  /-- The capture raises. -/
  | raised (error : MacrError)
  /-- The capture returns its record. -/
  | returned (row : CaptureRow)
deriving DecidableEq

namespace VaultSystem

/-- A new vault. -/
def initial : VaultSystem := ⟨.initial, []⟩

/-- The first part of `capture`: its checks and `_write_once`. -/
def write (system : VaultSystem) (call : CaptureCall) (failure : Option WriteFailure) :
    VaultSystem × CaptureOutcome :=
  match system.vault.writeOnce call.providerId call.runId call.answer with
  | .error error => (system, .raised error)
  | .ok (vault, _) =>
    match failure with
    | none => (⟨vault, system.pending ++ [call]⟩, .underWay)
    | some .beforeLink => (system, .raised (.other "OSError"))
    | some .afterLink => (⟨vault, system.pending⟩, .raised (.other "OSError"))

/-- The second part of `capture`: its transaction. -/
def record (hashes : Hashes) (system : VaultSystem) (index : Nat)
    (failure : Option RecordFailure) : VaultSystem × CaptureOutcome :=
  match system.pending[index]? with
  | none => (system, .idle)
  | some call =>
    let rest := system.pending.eraseIdx index
    match system.vault.recordCapture (call.row hashes) with
    | .error error => (⟨system.vault, rest⟩, .raised error)
    | .ok (vault, answer) =>
      match failure with
      | some .beforeCommit => (⟨system.vault, rest⟩, .raised (.other "OperationalError"))
      | some .afterCommit => (⟨vault, rest⟩, .raised (.other "OperationalError"))
      | none =>
        match answer with
        | .error error => (⟨vault, rest⟩, .raised error)
        | .ok row => (⟨vault, rest⟩, .returned row)

/-- A step and how it ends. -/
def respond (hashes : Hashes) (system : VaultSystem) : CaptureAction → VaultSystem × CaptureOutcome
  | .write call failure => system.write call failure
  | .record index failure => system.record hashes index failure

/-- Captures as a machine. -/
def machine (hashes : Hashes) : Machine VaultSystem CaptureAction :=
  ⟨fun system action => (system.respond hashes action).1⟩

/-! ## What captures keep -/

/-- Files, rows and captures under way agree. -/
structure Whole (hashes : Hashes) (system : VaultSystem) : Prop where
  /-- A file is a row's, or that of a capture under way. -/
  owned : ∀ file ∈ system.vault.files.rows,
    (∃ row ∈ system.vault.captures.rows, (row.providerId, row.runId) = file.key) ∨
      ∃ call ∈ system.pending, call.key = file.key
  /-- A row has its file. -/
  backed : ∀ row ∈ system.vault.captures.rows, ∃ file ∈ system.vault.files.rows,
    file.key = (row.providerId, row.runId) ∧ hashes.bytes file.content = row.sha256 ∧
      file.content.length = row.byteCount
  /-- A capture under way has its file. -/
  written : ∀ call ∈ system.pending,
    (⟨call.providerId, call.runId, call.answer⟩ : CandidateFile) ∈ system.vault.files.rows
  /-- A run has at most one candidate. -/
  once : (system.vault.captures.rows.map (·.runId)).Nodup
  /-- The files of a run are one provider's. -/
  single : ∀ file ∈ system.vault.files.rows, ∀ other ∈ system.vault.files.rows,
    file.runId = other.runId → file.providerId = other.providerId

/-- A capture that creates its file is the first of its run and is not cut behind the link. One that
fails in its transaction leaves its file to a row or to another capture of the run, and one that
records a new row draws a new identifier. -/
def Undisturbed (system : VaultSystem) : CaptureAction → Prop
  | .write call failure =>
    isSafeComponent call.providerId = true → failure ≠ some .beforeLink →
      system.vault.files.find? call.key = none →
        failure = none ∧ system.vault.readByRun call.runId = none ∧
          ∀ other ∈ system.pending, other.runId ≠ call.runId
  | .record index failure => ∀ call ∈ system.pending[index]?,
    (failure = some .beforeCommit → system.vault.readByRun call.runId ≠ none ∨
      ∃ other ∈ system.pending.eraseIdx index, other.runId = call.runId) ∧
    (failure = some .afterCommit → system.vault.readByRun call.runId ≠ none) ∧
    (system.vault.readByRun call.runId = none →
      ∀ row ∈ system.vault.captures.rows, row.captureId ≠ call.captureId)

/-- The capture of a step. -/
def callOf (system : VaultSystem) : CaptureAction → Option CaptureCall
  | .write call _ => some call
  | .record index _ => system.pending[index]?

variable {hashes : Hashes} {system : VaultSystem}

/-- The capture found for a run is stored under it. -/
theorem readByRun_eq_some {vault : CandidateVault} {runId : Uuid} {row : CaptureRow}
    (found : vault.readByRun runId = some row) : row ∈ vault.captures.rows ∧ row.runId = runId :=
  ⟨List.mem_of_find?_eq_some found, by simpa using List.find?_some found⟩

/-- A run without a capture has no row. -/
theorem readByRun_eq_none {vault : CandidateVault} {runId : Uuid}
    (absent : vault.readByRun runId = none) : ∀ row ∈ vault.captures.rows, row.runId ≠ runId := by
  intro row stored same
  have unmet := List.find?_eq_none.mp absent row stored
  exact unmet (by simpa using same)

/-- A new vault is whole. -/
theorem whole_initial (hashes : Hashes) : Whole hashes initial := by
  constructor <;> simp [initial, CandidateVault.initial, Table.empty]

/-- A vault without a new file or row stays whole where every file is still owned. -/
theorem Whole.forget (whole : Whole hashes system) {rest : List CaptureCall}
    (fewer : ∀ call ∈ rest, call ∈ system.pending)
    (owned : ∀ file ∈ system.vault.files.rows,
      (∃ row ∈ system.vault.captures.rows, (row.providerId, row.runId) = file.key) ∨
        ∃ call ∈ rest, call.key = file.key) : Whole hashes ⟨system.vault, rest⟩ where
  owned := owned
  backed := whole.backed
  written := fun call member => whole.written call (fewer call member)
  once := whole.once
  single := whole.single

/-- A row and a capture under way of one run are of one provider. -/
theorem Whole.key_of_row (whole : Whole hashes system) {row : CaptureRow} {call : CaptureCall}
    (stored : row ∈ system.vault.captures.rows) (under : call ∈ system.pending)
    (same : row.runId = call.runId) : (row.providerId, row.runId) = call.key := by
  obtain ⟨file, held, key, _⟩ := whole.backed row stored
  have names := Prod.mk.inj key
  have provider := whole.single file held _ (whole.written call under) (names.2.trans same)
  exact Prod.ext (names.1.symm.trans provider) same

/-- Two captures under way of one run are of one provider. -/
theorem Whole.key_of_call (whole : Whole hashes system) {left right : CaptureCall}
    (first : left ∈ system.pending) (second : right ∈ system.pending)
    (same : left.runId = right.runId) : left.key = right.key :=
  Prod.ext (whole.single _ (whole.written left first) _ (whole.written right second) same) same

/-- A member of a list is at an index or stays when that is erased. -/
theorem mem_eraseIdx_or {items : List CaptureCall} {index : Nat} {item other : CaptureCall}
    (found : items[index]? = some item) (member : other ∈ items) :
    other = item ∨ other ∈ items.eraseIdx index := by
  induction items generalizing index with
  | nil => cases member
  | cons head rest ih =>
    cases index with
    | zero =>
      have same : head = item := by simpa using found
      rcases List.mem_cons.mp member with here | later
      · exact .inl (here.trans same)
      · exact .inr later
    | succ index =>
      rcases List.mem_cons.mp member with here | later
      · exact .inr (here ▸ List.mem_cons_self)
      · rcases ih (by simpa using found) later with same | kept
        · exact .inl same
        · exact .inr (List.mem_cons_of_mem _ kept)

/-- A capture that ends leaves the vault whole where its file keeps an owner. -/
theorem Whole.erase (whole : Whole hashes system) {index : Nat} {call : CaptureCall}
    (found : system.pending[index]? = some call)
    (kept : (∃ row ∈ system.vault.captures.rows, (row.providerId, row.runId) = call.key) ∨
      ∃ other ∈ system.pending.eraseIdx index, other.key = call.key) :
    Whole hashes ⟨system.vault, system.pending.eraseIdx index⟩ := by
  refine whole.forget (fun other member => List.mem_of_mem_eraseIdx member) ?_
  intro file held
  rcases whole.owned file held with row | ⟨owner, under, key⟩
  · exact .inl row
  · rcases mem_eraseIdx_or found under with same | still
    · rw [← key, same]
      exact kept
    · exact .inr ⟨owner, still, key⟩

/-- An undisturbed write keeps the vault whole. -/
theorem Whole.of_write (whole : Whole hashes system) {call : CaptureCall}
    {failure : Option WriteFailure} (undisturbed : Undisturbed system (.write call failure)) :
    Whole hashes (system.write call failure).1 := by
  unfold VaultSystem.write
  cases written : system.vault.writeOnce call.providerId call.runId call.answer with
  | error => exact whole
  | ok done =>
    obtain ⟨vault, answer⟩ := done
    obtain ⟨safe, captures, outcome⟩ := CandidateVault.writeOnce_eq_ok written
    have rows : vault.captures = system.vault.captures := captures
    rcases outcome with ⟨files, found⟩ | ⟨absent, grown⟩
    · -- The file is there already.
      have unchanged : vault = system.vault := by
        cases vault
        simp_all
      subst unchanged
      have held := ((Table.find?_eq_some _ _ _).mp found).1
      cases failure with
      | some kind => cases kind <;> exact whole
      | none =>
        refine ⟨?_, whole.backed, ?_, whole.once, whole.single⟩
        · intro file stored
          rcases whole.owned file stored with row | ⟨owner, under, key⟩
          · exact .inl row
          · exact .inr ⟨owner, List.mem_append_left _ under, key⟩
        · intro other member
          rcases List.mem_append.mp member with under | same
          · exact whole.written other under
          · rw [List.mem_singleton.mp same]
            exact held
    · -- The file is new, and the first of its run.
      cases failure with
      | some kind =>
        cases kind with
        | beforeLink => exact whole
        | afterLink =>
          have never := (undisturbed safe (by simp) absent).1
          cases never
      | none =>
        obtain ⟨_, noRow, noCall⟩ := undisturbed safe (by simp) absent
        have noFile : ∀ file ∈ system.vault.files.rows, file.runId ≠ call.runId := by
          intro file stored same
          rcases whole.owned file stored with ⟨row, held, key⟩ | ⟨owner, under, key⟩
          · exact readByRun_eq_none noRow row held ((Prod.mk.inj key).2.trans same)
          · exact noCall owner under ((Prod.mk.inj key).2.trans same)
        have listed : ∀ file, file ∈ vault.files.rows ↔ file ∈ system.vault.files.rows ∨
            file = ⟨call.providerId, call.runId, call.answer⟩ := by
          intro file
          rw [show vault.files.rows = _ from grown, List.mem_append, List.mem_singleton]
        refine ⟨?_, ?_, ?_, ?_, ?_⟩
        · intro file stored
          rcases (listed file).mp stored with held | rfl
          · rcases whole.owned file held with row | ⟨owner, under, key⟩
            · exact .inl (rows ▸ row)
            · exact .inr ⟨owner, List.mem_append_left _ under, key⟩
          · exact .inr ⟨call, List.mem_append_right _ List.mem_cons_self, rfl⟩
        · intro row stored
          obtain ⟨file, held, facts⟩ := whole.backed row (rows ▸ stored)
          exact ⟨file, (listed file).mpr (.inl held), facts⟩
        · intro other member
          rcases List.mem_append.mp member with under | same
          · exact (listed _).mpr (.inl (whole.written other under))
          · rw [List.mem_singleton.mp same]
            exact (listed _).mpr (.inr rfl)
        · show (vault.captures.rows.map _).Nodup
          rw [rows]
          exact whole.once
        · intro file stored other storedOther same
          rcases (listed file).mp stored with held | rfl
          · rcases (listed other).mp storedOther with heldOther | rfl
            · exact whole.single file held other heldOther same
            · exact absurd same (noFile file held)
          · rcases (listed other).mp storedOther with heldOther | rfl
            · exact absurd same.symm (noFile other heldOther)
            · rfl

/-- A stored capture of the run keeps the file of a capture under way. -/
theorem Whole.kept_by_row (whole : Whole hashes system) {call : CaptureCall}
    (under : call ∈ system.pending) (recorded : system.vault.readByRun call.runId ≠ none) :
    ∃ row ∈ system.vault.captures.rows, (row.providerId, row.runId) = call.key := by
  obtain ⟨row, found⟩ := Option.ne_none_iff_exists'.mp recorded
  obtain ⟨stored, same⟩ := readByRun_eq_some found
  exact ⟨row, stored, whole.key_of_row stored under same⟩

/-- An undisturbed record keeps the vault whole. -/
theorem Whole.of_record (whole : Whole hashes system) {index : Nat}
    {failure : Option RecordFailure} (undisturbed : Undisturbed system (.record index failure)) :
    Whole hashes (system.record hashes index failure).1 := by
  unfold VaultSystem.record
  cases found : system.pending[index]? with
  | none => exact whole
  | some call =>
    have under : call ∈ system.pending := List.mem_of_getElem? found
    obtain ⟨before, behind, fresh⟩ := undisturbed call found
    simp only
    cases recorded : system.vault.recordCapture (call.row hashes) with
    | error error =>
      -- Only a stored capture of the run refuses the row.
      have stored : system.vault.readByRun call.runId ≠ none := by
        intro absent
        have same : system.vault.readByRun (call.row hashes).runId = none := absent
        have inserted : ∃ captures, system.vault.captures.insert? (call.row hashes) =
            some captures := by
          refine ⟨_, (Table.insert?_eq_some _ _ _).mpr ⟨?_, rfl⟩⟩
          rintro member
          obtain ⟨row, held, equal⟩ := List.mem_map.mp member
          exact fresh absent row held equal
        obtain ⟨captures, done⟩ := inserted
        rw [CandidateVault.recordCapture, same] at recorded
        simp [done, require, bind, Except.bind, commit] at recorded
      exact whole.erase found (.inl (whole.kept_by_row under stored))
    | ok done =>
      obtain ⟨vault, answer⟩ := done
      obtain ⟨files, outcome⟩ := CandidateVault.recordCapture_eq_ok recorded
      rcases outcome with ⟨existing, present, _, same⟩ | ⟨absent, answered, _, grown⟩
      · -- The capture repeats the stored one.
        obtain ⟨rfl, rfl⟩ := Prod.mk.inj same
        have present : system.vault.readByRun call.runId = some existing := present
        have ended := whole.erase found
          (.inl (whole.kept_by_row under (by simp [present])))
        cases failure with
        | none => exact ended
        | some kind => cases kind <;> exact ended
      · have absent : system.vault.readByRun call.runId = none := absent
        have answered : answer = .ok (call.row hashes) := answered
        subst answered
        cases failure with
        | some kind =>
          cases kind with
          | afterCommit => exact absurd absent (behind rfl)
          | beforeCommit =>
            rcases before rfl with present | ⟨other, still, same⟩
            · exact absurd absent present
            · have key := whole.key_of_call (List.mem_of_mem_eraseIdx still) under same
              exact whole.erase found (.inr ⟨other, still, key⟩)
        | none =>
          -- The row is new, and its file is there.
          have listed : ∀ row, row ∈ vault.captures.rows ↔
              row ∈ system.vault.captures.rows ∨ row = call.row hashes := by
            intro row
            rw [show vault.captures.rows = _ from grown, List.mem_append, List.mem_singleton]
          have files : vault.files = system.vault.files := files
          refine ⟨?_, ?_, ?_, ?_, ?_⟩
          · intro file stored
            rw [show vault.files = _ from files] at stored
            rcases whole.owned file stored with ⟨row, held, key⟩ | ⟨owner, ownerUnder, key⟩
            · exact .inl ⟨row, (listed row).mpr (.inl held), key⟩
            · rcases mem_eraseIdx_or found ownerUnder with same | still
              · exact .inl ⟨call.row hashes, (listed _).mpr (.inr rfl), same ▸ key⟩
              · exact .inr ⟨owner, still, key⟩
          · intro row stored
            rw [show vault.files = _ from files]
            rcases (listed row).mp stored with held | rfl
            · exact whole.backed row held
            · exact ⟨_, whole.written call under, rfl, rfl, rfl⟩
          · intro other still
            rw [show vault.files = _ from files]
            exact whole.written other (List.mem_of_mem_eraseIdx still)
          · show (vault.captures.rows.map _).Nodup
            rw [show vault.captures.rows = _ from grown, List.map_append, List.map_singleton,
              List.nodup_append]
            refine ⟨whole.once, List.nodup_singleton _, ?_⟩
            intro runId member other last
            obtain ⟨row, held, rfl⟩ := List.mem_map.mp member
            rw [List.mem_singleton.mp last]
            exact readByRun_eq_none absent row held
          · show ∀ file ∈ vault.files.rows, ∀ other ∈ vault.files.rows, _
            rw [files]
            exact whole.single

/-- An undisturbed step keeps the vault whole. -/
theorem Whole.of_step (whole : Whole hashes system) {action : CaptureAction}
    (undisturbed : Undisturbed system action) :
    Whole hashes ((machine hashes).step system action) := by
  cases action with
  | write call failure => exact whole.of_write undisturbed
  | record index failure => exact whole.of_record undisturbed

/-! ## How a capture ends -/

/-- How a step of a capture ends, and what it changes. -/
structure Atomic (hashes : Hashes) (x : Machine.Step VaultSystem CaptureAction) : Prop where
  /-- A capture that raises leaves files and rows as they were. -/
  raised : ∀ error, (x.before.respond hashes x.action).2 = .raised error →
    x.after.vault = x.before.vault
  /-- A capture returns the stored record of its run, with its binding; where one was stored before,
  it is that one, and nothing changes. -/
  returned : ∀ row, (x.before.respond hashes x.action).2 = .returned row →
    ∃ call ∈ callOf x.before x.action, row ∈ x.after.vault.captures.rows ∧
      row.runId = call.runId ∧ row.Repeats (call.row hashes) ∧
      ∀ old, x.before.vault.readByRun call.runId = some old →
        row = old ∧ x.after.vault = x.before.vault
  /-- A capture with the bytes and the binding of a stored one is not refused, unless it fails. -/
  repeated : ∀ call ∈ callOf x.before x.action, ∀ old,
    x.before.vault.readByRun call.runId = some old → old.Repeats (call.row hashes) →
    x.before.vault.files.find? call.key = some ⟨call.providerId, call.runId, call.answer⟩ →
    x.action = .write call none ∨ (∃ index, x.action = .record index none) →
    isSafeComponent call.providerId = true →
      (x.before.respond hashes x.action).2 = .underWay ∨
        (x.before.respond hashes x.action).2 = .returned old
  /-- A capture with other bytes than its file has raises before it is under way, and one with
  another binding than the stored capture of its run raises in its transaction. -/
  differing : ∀ call ∈ callOf x.before x.action,
    ((∃ failure, x.action = .write call failure) →
      (∃ file, x.before.vault.files.find? call.key = some file ∧ file.content ≠ call.answer) →
        ∃ error, (x.before.respond hashes x.action).2 = .raised error) ∧
    ((∃ index failure, x.action = .record index failure) →
      (∃ old, x.before.vault.readByRun call.runId = some old ∧ ¬old.Repeats (call.row hashes)) →
        ∃ error, (x.before.respond hashes x.action).2 = .raised error)

/-- A write of a file that is there changes nothing in the vault. -/
theorem vault_of_present {vault : CandidateVault} {call : CaptureCall}
    {done : Committed CandidateVault Unit}
    (written : vault.writeOnce call.providerId call.runId call.answer = .ok done)
    (present : vault.files.find? call.key ≠ none) : done.1 = vault := by
  obtain ⟨_, captures, ⟨files, _⟩ | ⟨absent, _⟩⟩ := CandidateVault.writeOnce_eq_ok written
  · obtain ⟨next, answer⟩ := done
    cases next
    cases vault
    simp_all
  · exact absurd absent present

/-- An undisturbed write that raises leaves the vault. -/
theorem vault_of_raised_write {call : CaptureCall} {failure : Option WriteFailure}
    (undisturbed : Undisturbed system (.write call failure)) {error : MacrError}
    (raised : (system.write call failure).2 = .raised error) :
    (system.write call failure).1.vault = system.vault := by
  unfold VaultSystem.write at raised ⊢
  cases written : system.vault.writeOnce call.providerId call.runId call.answer with
  | error => rfl
  | ok done =>
    rw [written] at raised
    match failure with
    | none => cases raised
    | some .beforeLink => rfl
    | some .afterLink =>
      refine vault_of_present written ?_
      intro absent
      have safe := (CandidateVault.writeOnce_eq_ok written).1
      have never := (undisturbed safe (by simp) absent).1
      cases never

/-- What a record answers: the stored capture of the run, or the new row. -/
theorem record_outcome {index : Nat} {call : CaptureCall} {done : CandidateVault × Except MacrError CaptureRow}
    (found : system.pending[index]? = some call)
    (recorded : system.vault.recordCapture (call.row hashes) = .ok done) :
    ∃ row, done.2 = .ok row ∧ system.record hashes index none =
        (⟨done.1, system.pending.eraseIdx index⟩, .returned row) ∧
      row ∈ done.1.captures.rows ∧ row.runId = call.runId ∧ row.Repeats (call.row hashes) ∧
      ∀ old, system.vault.readByRun call.runId = some old → row = old ∧ done.1 = system.vault := by
  obtain ⟨vault, answer⟩ := done
  obtain ⟨_, outcome⟩ := CandidateVault.recordCapture_eq_ok recorded
  rcases outcome with ⟨existing, present, repeats, same⟩ | ⟨absent, answered, _, grown⟩
  · obtain ⟨rfl, rfl⟩ := Prod.mk.inj same
    have present : system.vault.readByRun call.runId = some existing := present
    obtain ⟨stored, run⟩ := readByRun_eq_some present
    refine ⟨existing, rfl, ?_, stored, run, repeats, ?_⟩
    · simp only [VaultSystem.record, found, recorded]
    · intro old known
      rw [present] at known
      exact ⟨Option.some.inj known, rfl⟩
  · have absent : system.vault.readByRun call.runId = none := absent
    have answered : answer = .ok (call.row hashes) := answered
    subst answered
    refine ⟨_, rfl, ?_, ?_, rfl, ⟨rfl, rfl, rfl, rfl, rfl⟩, ?_⟩
    · simp only [VaultSystem.record, found, recorded]
    · rw [show vault.captures.rows = _ from grown]
      exact List.mem_append_right _ List.mem_cons_self
    · intro old known
      rw [absent] at known
      cases known

/-- An undisturbed record that raises leaves the vault. -/
theorem vault_of_raised_record {index : Nat} {failure : Option RecordFailure}
    (undisturbed : Undisturbed system (.record index failure)) {error : MacrError}
    (raised : (system.record hashes index failure).2 = .raised error) :
    (system.record hashes index failure).1.vault = system.vault := by
  cases found : system.pending[index]? with
  | none => simp only [VaultSystem.record, found]
  | some call =>
    cases recorded : system.vault.recordCapture (call.row hashes) with
    | error => simp only [VaultSystem.record, found, recorded]
    | ok done =>
      obtain ⟨row, answered, ended, _, _, _, repeats⟩ := record_outcome found recorded
      match failure with
      | none =>
        rw [ended] at raised
        cases raised
      | some .beforeCommit => simp only [VaultSystem.record, found, recorded]
      | some .afterCommit =>
        obtain ⟨old, present⟩ := Option.ne_none_iff_exists'.mp ((undisturbed call found).2.1 rfl)
        simp only [VaultSystem.record, found, recorded]
        exact (repeats old present).2

/-- An undisturbed step is atomic. -/
theorem atomic_of_undisturbed {action : CaptureAction} (undisturbed : Undisturbed system action) :
    Atomic hashes ⟨system, action, (machine hashes).step system action⟩ where
  raised := by
    intro error raised
    cases action with
    | write call failure => exact vault_of_raised_write undisturbed raised
    | record index failure => exact vault_of_raised_record undisturbed raised
  returned := by
    intro row returned
    cases action with
    | write call failure =>
      simp only [respond, VaultSystem.write] at returned
      split at returned
      · cases returned
      · split at returned <;> cases returned
    | record index failure =>
      have shape : (system.record hashes index failure).2 = .returned row := returned
      cases found : system.pending[index]? with
      | none =>
        simp only [VaultSystem.record, found] at shape
        cases shape
      | some call =>
        cases recorded : system.vault.recordCapture (call.row hashes) with
        | error =>
          simp only [VaultSystem.record, found, recorded] at shape
          cases shape
        | ok done =>
          obtain ⟨answer, _, ended, stored, run, repeats, known⟩ := record_outcome found recorded
          match failure with
          | some .beforeCommit =>
            simp only [VaultSystem.record, found, recorded] at shape
            cases shape
          | some .afterCommit =>
            simp only [VaultSystem.record, found, recorded] at shape
            cases shape
          | none =>
            rw [ended] at shape
            have same := CaptureOutcome.returned.inj shape
            subst same
            refine ⟨call, found, ?_, run, repeats, ?_⟩
            · show answer ∈ (system.record hashes index none).1.vault.captures.rows
              rw [ended]
              exact stored
            · intro old present
              have after : (system.record hashes index none).1.vault = done.1 := by rw [ended]
              obtain ⟨equal, kept⟩ := known old present
              exact ⟨equal, after.trans kept⟩
  repeated := by
    intro call named old present repeats file unfailing safe
    rcases unfailing with same | ⟨index, same⟩
    · have same : action = .write call none := same
      subst same
      left
      have passes : system.vault.writeOnce call.providerId call.runId call.answer =
          .ok (system.vault, .ok ()) := by
        have file : system.vault.files.find? (call.providerId, call.runId) = _ := file
        simp [CandidateVault.writeOnce, safe, file, raiseIf, commit, bind, Except.bind]
      simp only [respond, VaultSystem.write, passes]
    · have same : action = .record index none := same
      subst same
      right
      have found : system.pending[index]? = some call := named
      have recorded : system.vault.recordCapture (call.row hashes) =
          .ok (system.vault, .ok old) := by
        have present : system.vault.readByRun (call.row hashes).runId = some old := present
        simp [CandidateVault.recordCapture, present, raiseIf, repeats, commit, bind, Except.bind]
      simp only [respond, VaultSystem.record, found, recorded]
  differing := by
    intro call named
    refine ⟨?_, ?_⟩
    · rintro ⟨failure, same⟩ ⟨file, found, other⟩
      have same : action = .write call failure := same
      subst same
      refine ⟨if isSafeComponent call.providerId = false then
        .valueError "provider_id must be a safe identifier" else .other "CandidateConflict", ?_⟩
      have found : system.vault.files.find? (call.providerId, call.runId) = some file := found
      by_cases safe : isSafeComponent call.providerId = false <;>
        simp [respond, VaultSystem.write, CandidateVault.writeOnce, safe, found, other, raiseIf,
          bind, Except.bind]
    · rintro ⟨index, failure, same⟩ ⟨old, present, differs⟩
      have same : action = .record index failure := same
      subst same
      have found : system.pending[index]? = some call := named
      have present : system.vault.readByRun (call.row hashes).runId = some old := present
      refine ⟨.other "CandidateConflict", ?_⟩
      simp [respond, VaultSystem.record, found, CandidateVault.recordCapture, present, differs,
        raiseIf, bind, Except.bind]

/-- In every run of captures that are undisturbed, the vault is whole and every step is atomic. -/
theorem captures_atomic (hashes : Hashes) (actions : List CaptureAction)
    (undisturbed : (machine hashes).Obeys Undisturbed initial actions) :
    Whole hashes ((machine hashes).run initial actions) ∧
      ∀ x ∈ (machine hashes).steps initial actions, Atomic hashes x := by
  have keep : ∀ system action, Whole hashes system → Undisturbed system action →
      Whole hashes ((machine hashes).step system action) := fun _ _ whole kept => whole.of_step kept
  refine ⟨(machine hashes).run_invariant keep (whole_initial hashes) undisturbed, ?_⟩
  intro x member
  obtain ⟨_, kept, after⟩ :=
    (machine hashes).steps_invariant keep (whole_initial hashes) undisturbed x member
  obtain ⟨before, action, next⟩ := x
  have same : next = (machine hashes).step before action := after
  subst same
  exact atomic_of_undisturbed kept

/-! ## Sample captures -/

instance (system : VaultSystem) : (action : CaptureAction) → Decidable (Undisturbed system action)
  | .write call failure => inferInstanceAs (Decidable
      (isSafeComponent call.providerId = true → failure ≠ some .beforeLink →
        system.vault.files.find? call.key = none →
          failure = none ∧ system.vault.readByRun call.runId = none ∧
            ∀ other ∈ system.pending, other.runId ≠ call.runId))
  | .record index failure => inferInstanceAs (Decidable (∀ call ∈ system.pending[index]?,
      (failure = some .beforeCommit → system.vault.readByRun call.runId ≠ none ∨
        ∃ other ∈ system.pending.eraseIdx index, other.runId = call.runId) ∧
      (failure = some .afterCommit → system.vault.readByRun call.runId ≠ none) ∧
      (system.vault.readByRun call.runId = none →
        ∀ row ∈ system.vault.captures.rows, row.captureId ≠ call.captureId)))

/-- Hashes of the sample captures. -/
def sampleHashes : Hashes :=
  { foldDigest with bytes := fun octets => octets.foldl (fun sum octet => sum * 257 + octet.toNat) 1 }

/-- A capture of run one. -/
def sampleCapture (providerId : String) (captureId : Uuid) : CaptureCall :=
  ⟨providerId, 1, [79, 75], 5, none, captureId, 9⟩

/-- Another provider's capture of a run that has one raises and leaves its file; so does a capture
that fails behind the link. -/
theorem captures_not_atomic :
    (respond sampleHashes ((machine sampleHashes).run initial
        [.write (sampleCapture "glm" 1) none, .record 0 none,
          .write (sampleCapture "grok" 2) none]) (.record 0 none)).2 =
        .raised (.other "CandidateConflict") ∧
      ¬Whole sampleHashes ((machine sampleHashes).run initial
        [.write (sampleCapture "glm" 1) none, .record 0 none,
          .write (sampleCapture "grok" 2) none, .record 0 none]) ∧
      ¬Whole sampleHashes ((machine sampleHashes).run initial
        [.write (sampleCapture "glm" 1) (some .afterLink)]) := by
  have left : ∀ system : VaultSystem, (∃ file ∈ system.vault.files.rows,
      (∀ row ∈ system.vault.captures.rows, (row.providerId, row.runId) ≠ file.key) ∧
        ∀ call ∈ system.pending, call.key ≠ file.key) → ¬Whole sampleHashes system := by
    rintro system ⟨file, stored, noRow, noCall⟩ whole
    rcases whole.owned file stored with ⟨row, held, same⟩ | ⟨call, under, same⟩
    · exact noRow row held same
    · exact noCall call under same
  exact ⟨by decide +kernel, left _ (by decide +kernel), left _ (by decide +kernel)⟩

/-- Two captures of a run with the same bytes and binding, of which the second comes between the file
and the row of the first, and a third behind them. -/
theorem captures_atomic_of_repeats :
    Whole sampleHashes ((machine sampleHashes).run initial
        [.write (sampleCapture "glm" 1) none, .write (sampleCapture "glm" 2) none,
          .record 0 none, .record 0 none, .write (sampleCapture "glm" 3) none, .record 0 none]) ∧
      ∀ x ∈ (machine sampleHashes).steps initial
        [.write (sampleCapture "glm" 1) none, .write (sampleCapture "glm" 2) none,
          .record 0 none, .record 0 none, .write (sampleCapture "glm" 3) none, .record 0 none],
        Atomic sampleHashes x :=
  captures_atomic sampleHashes _ (by decide +kernel)

end VaultSystem
end Macr
