import Macr.Canonical
import Macr.Errors
import Macr.Lib.Table

/-!
# The candidate vault

A capture is a file that is written once, named by its provider and run, and a row that points to
it. The file comes first: a transaction that fails leaves it behind.
-/

namespace Macr

open Lib

/-- Octets. -/
abbrev Bytes := List UInt8

/-- SHA-256 of documents and of octets. -/
structure Hashes extends Sha256 where
  /-- `hashlib.sha256` of octets. -/
  bytes : Bytes → Digest

/-- `str.encode("utf-8")`. -/
def encodeUtf8 (text : String) : Bytes := text.toList.flatMap String.utf8EncodeChar

/-- `_SAFE_COMPONENT`. -/
def isSafeComponent (text : String) : Bool :=
  match text.toList with
  | [] => false
  | first :: rest => first.isAlphanum &&
      rest.all (fun c => c.isAlphanum || c ∈ ['.', '_', '-']) && rest.length ≤ 127

/-- A row of `candidate_captures`; its relative path is the name of its file. -/
structure CaptureRow where
  /-- Primary key. -/
  captureId : Uuid
  /-- The run; unique. -/
  runId : Uuid
  /-- The provider. -/
  providerId : String
  /-- The digest of the file. -/
  sha256 : Digest
  /-- The length of the file. -/
  byteCount : Nat
  /-- The task. -/
  taskDigest : Digest
  /-- The approval, if any. -/
  approvalDigest : Option Digest
  /-- When it was captured. -/
  capturedAt : Timestamp
deriving DecidableEq

/-- A file of the candidate root, by provider and run. -/
structure CandidateFile where
  /-- The provider's directory. -/
  providerId : String
  /-- The run's directory. -/
  runId : Uuid
  /-- What it holds. -/
  content : Bytes
deriving DecidableEq

/-- The name of a file. -/
abbrev CandidateFile.key (file : CandidateFile) : String × Uuid := (file.providerId, file.runId)

/-- Two captures agree on everything but their identifier and time. -/
def CaptureRow.Repeats (left right : CaptureRow) : Prop :=
  left.providerId = right.providerId ∧ left.sha256 = right.sha256 ∧
    left.byteCount = right.byteCount ∧ left.taskDigest = right.taskDigest ∧
    left.approvalDigest = right.approvalDigest

instance (left right : CaptureRow) : Decidable (CaptureRow.Repeats left right) :=
  inferInstanceAs (Decidable (_ ∧ _ ∧ _ ∧ _ ∧ _))

/-- The candidate root and its table. -/
structure CandidateVault where
  /-- `candidate_captures`. -/
  captures : Table CaptureRow.captureId
  /-- The files. -/
  files : Table CandidateFile.key

namespace CandidateVault

/-- A new vault. -/
def initial : CandidateVault := ⟨.empty, .empty⟩

/-- `_write_once` behind the checks of `capture`. -/
def writeOnce (vault : CandidateVault) (providerId : String) (runId : Uuid) (answer : Bytes) :
    Except MacrError (Committed CandidateVault Unit) := do
  raiseIf (isSafeComponent providerId = false)
    (.valueError "provider_id must be a safe identifier")
  match vault.files.find? (providerId, runId) with
  | some file =>
    raiseIf (file.content ≠ answer)
      (.other "CandidateConflict")
    commit vault ()
  | none =>
    let files ← require (vault.files.insert? ⟨providerId, runId, answer⟩) .assertionError
    commit { vault with files := files } ()

/-- The capture of a run. -/
def readByRun (vault : CandidateVault) (runId : Uuid) : Option CaptureRow :=
  vault.captures.rows.find? (fun row => row.runId = runId)

/-- The transaction of `capture`. -/
def recordCapture (vault : CandidateVault) (row : CaptureRow) :
    Except MacrError (Committed CandidateVault CaptureRow) :=
  match vault.readByRun row.runId with
  | some existing => do
    raiseIf (¬CaptureRow.Repeats existing row) (.other "CandidateConflict")
    commit vault existing
  | none => do
    let captures ← require (vault.captures.insert? row) .integrity
    commit { vault with captures := captures } row

/-! ## What a capture writes -/

variable {vault : CandidateVault}

/-- A file is there already or is the last; no row changes. -/
theorem writeOnce_eq_ok {providerId : String} {runId : Uuid} {answer : Bytes}
    {done : Committed CandidateVault Unit}
    (written : vault.writeOnce providerId runId answer = .ok done) :
    isSafeComponent providerId = true ∧ done.1.captures = vault.captures ∧
      ((done.1.files = vault.files ∧
          vault.files.find? (providerId, runId) = some ⟨providerId, runId, answer⟩) ∨
        (vault.files.find? (providerId, runId) = none ∧
          done.1.files.rows = vault.files.rows ++ [⟨providerId, runId, answer⟩])) := by
  simp only [writeOnce, bind_eq_ok, raiseIf_eq_ok, exists_const] at written
  obtain ⟨safe, written⟩ := written
  refine ⟨by simpa using safe, ?_⟩
  cases found : vault.files.find? (providerId, runId) with
  | some file =>
    simp only [found, bind_eq_ok, raiseIf_eq_ok, exists_const, commit_eq_ok, ne_eq,
      not_not] at written
    obtain ⟨rfl, rfl⟩ := written
    obtain ⟨_, key⟩ := (vault.files.find?_eq_some _ _).mp found
    obtain ⟨rfl, rfl⟩ := Prod.mk.inj key
    exact ⟨rfl, .inl ⟨rfl, rfl⟩⟩
  | none =>
    simp only [found, bind_eq_ok, require_eq_ok, commit_eq_ok] at written
    obtain ⟨files, inserted, rfl⟩ := written
    exact ⟨rfl, .inr ⟨rfl, Table.rows_of_insert? inserted⟩⟩

/-- A capture's row is there already or is the last; no file changes. -/
theorem recordCapture_eq_ok {row : CaptureRow} {done : Committed CandidateVault CaptureRow}
    (recorded : vault.recordCapture row = .ok done) :
    done.1.files = vault.files ∧
      ((∃ existing, vault.readByRun row.runId = some existing ∧ existing.Repeats row ∧
          done = (vault, .ok existing)) ∨
        (vault.readByRun row.runId = none ∧ done.2 = .ok row ∧
          (∀ other ∈ vault.captures.rows, other.captureId ≠ row.captureId) ∧
          done.1.captures.rows = vault.captures.rows ++ [row])) := by
  unfold recordCapture at recorded
  cases found : vault.readByRun row.runId with
  | some existing =>
    simp only [found, bind_eq_ok, raiseIf_eq_ok, exists_const, commit_eq_ok, not_not] at recorded
    obtain ⟨repeats, rfl⟩ := recorded
    exact ⟨rfl, .inl ⟨existing, rfl, repeats, rfl⟩⟩
  | none =>
    simp only [found, bind_eq_ok, require_eq_ok, commit_eq_ok] at recorded
    obtain ⟨captures, inserted, rfl⟩ := recorded
    exact ⟨rfl, .inr ⟨rfl, rfl, Table.fresh_of_insert? inserted, Table.rows_of_insert? inserted⟩⟩

end CandidateVault
end Macr
