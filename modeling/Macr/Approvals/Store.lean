import Macr.Iso8601
import Macr.ScopeText
import Mathlib.Logic.Function.Basic

/-!
# The approval records of GLM

`GlmApprovalStore`: one file for each approval digest, with a MAC under the key of its writer. A
record that is replaced is moved away first, and the new one is then created exclusively and
written. A call of `create` is cut where another process can act or the power can fail; a moved
file stays in the history, which no call reads. Directories are taken to be there.
-/

namespace Macr

open Lib

/-- `ProviderPolicyError`. -/
def providerPolicyError (message : String) : MacrError := .named "ProviderPolicyError" message

/-- The binding of a typed approval. -/
structure ApprovalTier where
  /-- `approval_contract_schema`. -/
  contractSchema : Int
  /-- `provider_tier_binding_digest`. -/
  bindingDigest : String
deriving DecidableEq

attribute [ext] ApprovalTier

/-- The fields a record is authenticated for. -/
structure ApprovalBody where
  /-- `schema_version`. -/
  schemaVersion : Nat
  /-- `provider_id`. -/
  providerId : String
  /-- The approved digest. -/
  approvalSha256 : Digest
  /-- `approved_by`. -/
  approvedBy : String
  /-- When it was approved. -/
  approvedAt : Timestamp
  /-- When it expires. -/
  expiresAt : Timestamp
  /-- The nonce. -/
  nonce : Uuid
  /-- The two fields only a typed record has. -/
  tier : Option ApprovalTier
deriving DecidableEq

/-- The document of a body. -/
def ApprovalBody.toDict (body : ApprovalBody) : Json :=
  .obj ([("schema_version", .int body.schemaVersion), ("provider_id", .str body.providerId),
    ("approval_sha256", .hex body.approvalSha256), ("approved_by", .str body.approvedBy),
    ("approved_at", .time body.approvedAt), ("expires_at", .time body.expiresAt),
    ("nonce", .hex body.nonce)] ++ match body.tier with
      | none => []
      | some tier => [("approval_contract_schema", .int tier.contractSchema),
          ("provider_tier_binding_digest", .str tier.bindingDigest)])

/-- A record: its body and its MAC. -/
structure ApprovalRecord extends ApprovalBody where
  /-- `mac_sha256`. -/
  macSha256 : Digest
deriving DecidableEq

/-- HMAC-SHA256 of the canonical text of a document under a key. -/
structure Hmac where
  /-- The MAC. -/
  mac : String → Json → Digest

/-- No two keys and documents have one MAC. -/
def Hmac.Injective (hmac : Hmac) : Prop :=
  ∀ {key other : String} {document second : Json},
    hmac.mac key document = hmac.mac other second → key = other ∧ document = second

/-- The version and the variant of a UUID of `uuid4`. -/
def isVersion4 (value : Uuid) : Bool := value / 2 ^ 76 % 16 = 4 && value / 2 ^ 62 % 4 = 2

/-- What `uuid.uuid4` draws. -/
structure DrawnUuid where
  /-- The UUID. -/
  value : Uuid
  /-- It is one of the fourth version. -/
  version : isVersion4 value

/-- A moment that is after the last one of the calendar. -/
def pastCalendar (moment : Timestamp) : Bool := (maxOrdinal + 1) * dayLength ≤ moment

/-- Every moment after one that is past the calendar is past it. -/
theorem pastCalendar_mono {moment later : Timestamp} (ordered : moment ≤ later)
    (past : pastCalendar moment) : pastCalendar later :=
  decide_eq_true (Nat.le_trans (of_decide_eq_true past) ordered)

/-- The microseconds of some days. -/
def daysLength (days : Nat) : Nat := days * dayLength

/-! ## Records -/

/-- The arguments of `create`. -/
structure ApprovalRequest where
  /-- The digest to approve. -/
  approvalSha256 : Digest
  /-- The key. -/
  signingKey : String
  /-- `expires_in_days`. -/
  expiresInDays : Int
  /-- `replace_existing`. -/
  replaceExisting : Bool
  /-- `approval_contract_schema`. -/
  approvalContractSchema : Option Int
  /-- `provider_tier_binding_digest`. -/
  providerTierBindingDigest : Option String
deriving DecidableEq

/-- The typed binding that is asked for. -/
def ApprovalRequest.tier (request : ApprovalRequest) : Option ApprovalTier :=
  match request.approvalContractSchema, request.providerTierBindingDigest with
  | some contractSchema, some bindingDigest => some ⟨contractSchema, bindingDigest⟩
  | _, _ => none

section Records

variable (hmac : Hmac)

/-- `_record_mac`. -/
def recordMac (body : ApprovalBody) (signingKey : String) : Except MacrError Digest := do
  raiseIf (signingKey = "") (.valueError "approval signing key must be non-empty")
  return hmac.mac signingKey body.toDict

/-- The record `create` makes before it touches a file. A clock without a zone reads nothing. -/
def prepareApproval (request : ApprovalRequest) (clock : Option Timestamp) (nonce : DrawnUuid) :
    Except MacrError ApprovalRecord := do
  raiseIf (¬(1 ≤ request.expiresInDays ∧ request.expiresInDays ≤ 365))
    (.valueError "expires_in_days must be between 1 and 365")
  let now ← require clock (.valueError "approval clock must be timezone-aware")
  let typed := request.approvalContractSchema.isSome || request.providerTierBindingDigest.isSome
  raiseIf (typed ∧ (request.approvalContractSchema ≠ some 3 ∨
      ¬request.providerTierBindingDigest.any isSha256))
    (.valueError "typed GLM approval requires schema 3 and a tier binding digest")
  let expiresAt := now + daysLength request.expiresInDays.toNat
  raiseIf (pastCalendar expiresAt) (.named "OverflowError" "date value out of range")
  let body : ApprovalBody := {
    schemaVersion := if typed then 2 else 1
    providerId := "glm_flash_worker"
    approvalSha256 := request.approvalSha256
    approvedBy := "host_operator"
    approvedAt := now
    expiresAt := expiresAt
    nonce := nonce.value
    tier := request.tier }
  let mac ← recordMac hmac body request.signingKey
  return ⟨body, mac⟩

/-- `_validate_document`. -/
def validateDocument (digest : Digest) (record : ApprovalRecord) (clock : Option Timestamp) :
    Except MacrError ApprovalRecord := do
  raiseIf ((record.schemaVersion ≠ 1 ∧ record.schemaVersion ≠ 2) ∨
      record.providerId ≠ "glm_flash_worker" ∨ record.approvalSha256 ≠ digest ∨
      record.approvedBy ≠ "host_operator" ∨ ¬isVersion4 record.nonce ∨
      record.expiresAt ≤ record.approvedAt ∨
      daysLength 365 < record.expiresAt - record.approvedAt)
    (providerPolicyError "GLM host approval record is invalid")
  raiseIf (record.schemaVersion = 2 ∧ ¬record.tier.any
      (fun tier => tier.contractSchema = 3 && isSha256 tier.bindingDigest))
    (providerPolicyError "GLM host approval record is invalid")
  let now ← require clock (providerPolicyError "GLM host approval clock is invalid")
  raiseIf (pastCalendar (now + 300000000)) (.named "OverflowError" "date value out of range")
  raiseIf (now + 300000000 < record.approvedAt)
    (providerPolicyError "GLM host approval record is future-dated")
  raiseIf (record.expiresAt ≤ now) (providerPolicyError "GLM host approval record is expired")
  return record

end Records

/-! ## Files and calls -/

/-- A file: the record its writer has to write, and whether all of it is written. -/
structure ApprovalFile where
  /-- The record. -/
  record : ApprovalRecord
  /-- The text is complete; otherwise it is no JSON document. -/
  complete : Bool
deriving DecidableEq

/-- How far a call of `create` is. -/
inductive ApprovalPhase where
  /-- The record is made. -/
  | prepared
  /-- There is a file, and it is to be replaced. -/
  | replacing
  /-- The file is to be created. -/
  | opening
  /-- The file is created and empty. -/
  | writing
  /-- The file is written. -/
  | written
  /-- There is a file, and it is to be verified. -/
  | verifying
  /-- A record was returned, and the clock read at last. -/
  | returned (record : ApprovalRecord) (clock : Option Timestamp)
  /-- An error was raised. -/
  | raised (error : MacrError)
  /-- The process is gone. -/
  | crashed
deriving DecidableEq

/-- A call that has not ended. -/
def ApprovalPhase.isRunning : ApprovalPhase → Bool
  | .returned _ _ | .raised _ | .crashed => false
  | _ => true

/-- A call that has not come to its file. -/
def ApprovalPhase.beforeOpening : ApprovalPhase → Bool
  | .prepared | .replacing | .opening => true
  | _ => false

/-- Whether the file a call works on is complete. -/
def ApprovalPhase.progress : ApprovalPhase → Option Bool
  | .writing => some false
  | .written => some true
  | _ => none

/-- A call of `create`. -/
structure ApprovalCall where
  /-- Its arguments. -/
  request : ApprovalRequest
  /-- What its clock read first. -/
  clock : Option Timestamp
  /-- The record it made. -/
  record : ApprovalRecord
  /-- How far it is. -/
  phase : ApprovalPhase
deriving DecidableEq

/-- The directory and the calls. A file is named by the call that created it. -/
structure ApprovalState where
  /-- The file at the path of a digest. -/
  path : Digest → Option Nat
  /-- The files. -/
  files : Nat → Option ApprovalFile
  /-- The calls. -/
  calls : Nat → Option ApprovalCall

/-- What a process does. -/
inductive ApprovalAction where
  /-- `create` begins. -/
  | start (call : Nat) (request : ApprovalRequest) (clock : Option Timestamp) (nonce : DrawnUuid)
  /-- `path.exists()`. -/
  | checkPath (call : Nat)
  /-- `os.replace(path, archive_path)`. -/
  | move (call : Nat)
  /-- `path.open("x")`. -/
  | openFile (call : Nat)
  /-- The text is written and flushed. -/
  | write (call : Nat)
  /-- `create` returns its record. -/
  | finish (call : Nat)
  /-- `create` returns what `verify` returns. -/
  | verify (call : Nat) (clock : Option Timestamp)
  /-- The process ends. -/
  | crash (call : Nat)
  /-- The file system raises. -/
  | fail (call : Nat) (className : String)

namespace ApprovalState

variable (hmac : Hmac) (state : ApprovalState)

/-- No file and no call. -/
def initial : ApprovalState := ⟨fun _ => none, fun _ => none, fun _ => none⟩

/-- `_read_document`: a missing file and a text that is not complete are refused. -/
def readDocument (digest : Digest) : Except MacrError ApprovalRecord :=
  match (state.path digest).bind state.files with
  | none => .error (providerPolicyError "GLM host approval record is missing")
  | some file => do
    raiseIf (¬file.complete) (providerPolicyError "GLM host approval record is invalid")
    raiseIf (decide (file.record.schemaVersion = 2) ≠ file.record.tier.isSome)
      (providerPolicyError "GLM host approval record is invalid")
    return file.record

/-- `verify`. -/
def verify (digest : Digest) (signingKey : String) (clock : Option Timestamp) :
    Except MacrError ApprovalRecord := do
  let record ← state.readDocument digest
  let expectedMac ← recordMac hmac record.toApprovalBody signingKey
  raiseIf (record.macSha256 ≠ expectedMac)
    (providerPolicyError "GLM host approval record MAC is invalid")
  validateDocument digest record clock

/-- A call goes on. -/
def setPhase (call : Nat) (current : ApprovalCall) (phase : ApprovalPhase) : ApprovalState :=
  { state with calls := Function.update state.calls call (some { current with phase := phase }) }

/-- A step of a call that is in a phase. -/
def inPhase (call : Nat) (phase : ApprovalPhase) (next : ApprovalCall → ApprovalState) :
    ApprovalState :=
  match state.calls call with
  | some current => if current.phase = phase then next current else state
  | none => state

/-- A call that has not ended is cut. -/
def cut (call : Nat) (phase : ApprovalPhase) : ApprovalState :=
  match state.calls call with
  | some current => if current.phase.isRunning then state.setPhase call current phase else state
  | none => state

/-- What a process does to the directory. -/
def step : ApprovalAction → ApprovalState
  | .start call request clock nonce =>
    match state.calls call, prepareApproval hmac request clock nonce with
    | none, .ok record =>
      { state with
          calls := Function.update state.calls call (some ⟨request, clock, record, .prepared⟩) }
    | _, _ => state
  | .checkPath call => state.inPhase call .prepared fun current =>
      state.setPhase call current <|
        if (state.path current.request.approvalSha256).isNone then .opening
        else if current.request.replaceExisting then .replacing
        else .verifying
  | .move call => state.inPhase call .replacing fun current =>
      match state.path current.request.approvalSha256 with
      | none => state.setPhase call current (.raised (.named "FileNotFoundError" ""))
      | some _ =>
        { state with path := Function.update state.path current.request.approvalSha256 none }
          |>.setPhase call current .opening
  | .openFile call => state.inPhase call .opening fun current =>
      match state.path current.request.approvalSha256 with
      | none =>
        { state with
            path := Function.update state.path current.request.approvalSha256 (some call)
            files := Function.update state.files call (some ⟨current.record, false⟩) }
          |>.setPhase call current .writing
      | some _ => state.setPhase call current .verifying
  | .write call => state.inPhase call .writing fun current =>
      { state with files := Function.update state.files call (some ⟨current.record, true⟩) }
        |>.setPhase call current .written
  | .finish call => state.inPhase call .written fun current =>
      state.setPhase call current (.returned current.record current.clock)
  | .verify call clock => state.inPhase call .verifying fun current =>
      state.setPhase call current <|
        match state.verify hmac current.request.approvalSha256 current.request.signingKey clock with
        | .ok record => .returned record clock
        | .error error => .raised error
  | .crash call => state.cut call .crashed
  | .fail call className => state.cut call (.raised (.named className ""))

/-- The machine of the processes. -/
def machine : Machine ApprovalState ApprovalAction := ⟨step hmac⟩

end ApprovalState
end Macr
