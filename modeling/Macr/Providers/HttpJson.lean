import Macr.Providers.Responses

/-!
# The HTTP transport

`UrllibJsonTransport` from the opened request on. How the exchange ends is an input: a connection
that fails, an exception of another class with or without bytes of a response, a status outside
200 to 299, or a response, whose body is read or not.
-/

namespace Macr.Providers

open Lib Lib.JsonText

/-- How the reading of a body ends. -/
inductive BodyRead where
  /-- Bytes, as many as there are or one more than the limit. -/
  | bytes (raw : List UInt8)
  /-- `OSError`, of which `TimeoutError` is one. -/
  | osError
  /-- `ValueError`. -/
  | valueError
  /-- Another exception, such as those of `http.client`. -/
  | other (className : String)
deriving DecidableEq

/-- How an exchange ends. -/
inductive Exchange where
  /-- `URLError` or `TimeoutError`: there is no response. -/
  | connection
  /-- Another exception while the request is opened, perhaps with bytes of a response. -/
  | failed (className : String) (received : Bool)
  /-- `HTTPError`. -/
  | httpError (status : Nat) (body : BodyRead)
  /-- A response. -/
  | opened (status : Option Nat) (body : BodyRead)
deriving DecidableEq

/-- Bytes of a response were received. -/
def Exchange.received : Exchange → Bool
  | .connection => false
  | .failed _ received => received
  | .httpError _ _ | .opened _ _ => true

/-- What the transport depends on. -/
structure HttpLimits where
  /-- `max_request_bytes`. -/
  maxRequestBytes : Nat
  /-- `max_response_bytes`. -/
  maxResponseBytes : Nat
  /-- `sys.get_int_max_str_digits`. -/
  maxDigits : Nat
  /-- How deeply the reader of JSON nests. -/
  nesting : Nat

/-- `_MAX_ERROR_BODY_BYTES`. -/
def maxErrorBodyBytes : Nat := 64 * 1024

/-- What an error says of the transport once a response was received. -/
def receivedAt (stage : String) (status : Option Nat) (code : Option String) :
    TransportObservation :=
  { networkAttempted := some true, responseReceived := some true, providerHttpStatus := status,
    providerErrorCode := code, transportStage := some stage }

/-- `_response_status(response) or 200`. -/
def responseStatus (status : Option Nat) : Nat :=
  match status with
  | some status => if 100 ≤ status ∧ status ≤ 599 then status else 200
  | none => 200

section Transport

variable (limits : HttpLimits)

/-- `json.loads(raw.decode("utf-8"))`, where a text that is no JSON is told apart from the
exceptions that `json.JSONDecodeError` does not cover. -/
def decodeBody (raw : List UInt8) : Except Raised (Option Document) :=
  match decodeUtf8 raw with
  | none => .ok none
  | some text =>
    match loadsLast limits.maxDigits limits.nesting text with
    | .ok document => .ok (some document)
    | .error .overlong => .error (plain "ValueError")
    | .error .tooDeep => .error (plain "RecursionError")
    | .error .malformed | .error .duplicateKey => .ok none

/-- The error code of a document, if it is safe. -/
def errorCodeOf : Option Document → Option String
  | some (.object members) =>
    match field members "error" with
    | some (.object detail) =>
      let spelled := match field detail "code" with
        | some (.string text) => some (toChars text)
        | some (.number number) => if number.isInteger then some (toString number.integer) else none
        | _ => none
      spelled.filter isTelemetryIdentifier
    | _ => none
  | _ => none

/-- `_provider_error_code`. -/
def providerErrorCode : BodyRead → Except Raised (Option String)
  | .osError | .valueError => .ok none
  | .other className => .error (plain className)
  | .bytes raw =>
    if maxErrorBodyBytes < raw.length then .ok none
    else (decodeBody limits raw).map errorCodeOf

/-- `_open_and_decode`. -/
def openAndDecode : Exchange → Except Raised (List (Text × Document))
  | .connection => .error (diagnosed "ProviderUnavailableError"
      { networkAttempted := some true, responseReceived := some false,
        transportStage := some "connection" })
  | .failed className _ => .error (plain className)
  | .httpError status body => do
    let code ← providerErrorCode limits body
    .error (diagnosed "ProviderProtocolError" (receivedAt "http_response" (some status) code))
  | .opened status body =>
    let status := some (responseStatus status)
    match body with
    | .osError => .error (diagnosed "ProviderUnavailableError" (receivedAt "response_read" status none))
    | .valueError => .error (plain "ValueError")
    | .other className => .error (plain className)
    | .bytes raw => do
      refuse (limits.maxResponseBytes < raw.length)
        (diagnosed "ProviderProtocolError" (receivedAt "response_read" status none))
      match ← decodeBody limits raw with
      | some (.object members) => .ok members
      | _ => .error (diagnosed "ProviderProtocolError"
          (receivedAt "response_decode" status none))

end Transport

/-! ## Telemetry -/

/-- An error says that the network was used and a response received. -/
def TellsReceived (transport : TransportObservation) : Prop :=
  transport.networkAttempted = some true ∧ transport.responseReceived = some true

/-- The error says so of a response. -/
def SaysReceived (error : Raised) : Prop := ∃ transport ∈ error.diagnostic, TellsReceived transport

/-- The reader of JSON meets no bound in bytes. -/
def ReadsBody (limits : HttpLimits) (raw : List UInt8) : Prop :=
  ∀ text, decodeUtf8 raw = some text →
    loadsLast limits.maxDigits limits.nesting text ≠ .error .overlong ∧
    loadsLast limits.maxDigits limits.nesting text ≠ .error .tooDeep

/-- An exchange whose end the transport tells: no exception but those it expects, and no body that
its reader of JSON does not bear. -/
def Expected (limits : HttpLimits) : Exchange → Prop
  | .connection => True
  | .failed _ received => received = false
  | .httpError status body => (100 ≤ status ∧ status ≤ 599) ∧ (∀ className, body ≠ .other className) ∧
      ∀ raw, body = .bytes raw → raw.length ≤ maxErrorBodyBytes → ReadsBody limits raw
  | .opened _ body => body ≠ .valueError ∧ (∀ className, body ≠ .other className) ∧
      ∀ raw, body = .bytes raw → raw.length ≤ limits.maxResponseBytes → ReadsBody limits raw

variable {limits : HttpLimits}

/-- A telemetry of a response with a status is well formed. -/
theorem receivedAt_wellFormed {stage : String} {status : Option Nat} {code : Option String} :
    (receivedAt stage status code).WellFormed ↔
      (∀ given ∈ status, 100 ≤ given ∧ given ≤ 599) ∧
      (∀ given ∈ code, isTelemetryIdentifier given = true) ∧ isTelemetryIdentifier stage = true := by
  constructor
  · intro formed
    exact ⟨formed.httpStatus, formed.errorCode, formed.stage stage rfl⟩
  · rintro ⟨status, code, safe⟩
    exact ⟨status, code, by rintro _ ⟨⟩; exact safe, fun _ => rfl, fun _ => rfl⟩

/-- An error says what it is made with when that is well formed. -/
theorem saysReceived_diagnosed {className stage : String} {status : Option Nat}
    {code : Option String} : SaysReceived (diagnosed className (receivedAt stage status code)) ↔
      (receivedAt stage status code).WellFormed := by
  unfold diagnosed SaysReceived
  by_cases formed : (receivedAt stage status code).WellFormed
  · rw [if_pos formed]
    exact iff_of_true ⟨_, rfl, rfl, rfl⟩ formed
  · rw [if_neg formed]
    exact iff_of_false (by rintro ⟨_, ⟨⟩, _⟩) formed

/-- An error without a diagnostic says nothing. -/
@[simp] theorem not_saysReceived_plain {className : String} : ¬SaysReceived (plain className) := by
  simp [SaysReceived, plain]

/-- The status of a response is one. -/
theorem responseStatus_range (status : Option Nat) :
    100 ≤ responseStatus status ∧ responseStatus status ≤ 599 := by
  unfold responseStatus
  split
  · split
    · assumption
    · decide
  · decide

/-- A body that meets no bound raises nothing; another raises what says nothing. -/
theorem decodeBody_raises {raw : List UInt8} :
    RaisesOnly SaysReceived (decodeBody limits raw) ↔ ReadsBody limits raw := by
  unfold decodeBody ReadsBody
  cases decoded : decodeUtf8 raw with
  | none => simp
  | some text =>
    simp only [Option.some.injEq, forall_eq']
    cases loadsLast limits.maxDigits limits.nesting text with
    | ok document => simp
    | error raised => cases raised <;> simp

/-- The code of a document is safe. -/
theorem errorCodeOf_safe {document : Option Document} {code : String}
    (found : errorCodeOf document = some code) : isTelemetryIdentifier code = true := by
  unfold errorCodeOf at found
  split at found
  · split at found
    · exact (Option.filter_eq_some_iff.mp found).2
    · cases found
  · cases found

/-- A code that was read is safe. -/
theorem providerErrorCode_safe {body : BodyRead} {found : Option String}
    (read : providerErrorCode limits body = .ok found) :
    ∀ code ∈ found, isTelemetryIdentifier code = true := by
  rintro code rfl
  unfold providerErrorCode at read
  split at read
  · cases read
  · cases read
  · cases read
  · split at read
    · cases read
    · rename_i raw _
      cases decoded : decodeBody limits raw with
      | error raised =>
        rw [decoded] at read
        cases read
      | ok document =>
        rw [decoded] at read
        exact errorCodeOf_safe (Except.ok.inj read)

/-- What the error body raises. -/
theorem providerErrorCode_raises {body : BodyRead} :
    RaisesOnly SaysReceived (providerErrorCode limits body) ↔
      (∀ className, body ≠ .other className) ∧
      ∀ raw, body = .bytes raw → raw.length ≤ maxErrorBodyBytes → ReadsBody limits raw := by
  cases body with
  | osError => simp [providerErrorCode]
  | valueError => simp [providerErrorCode]
  | other className => simp [providerErrorCode]
  | bytes raw =>
    unfold providerErrorCode
    simp only [ne_eq, reduceCtorEq, not_false_eq_true, implies_true, true_and, BodyRead.bytes.injEq,
      forall_eq']
    by_cases long : maxErrorBodyBytes < raw.length
    · rw [if_pos long]
      exact iff_of_true raisesOnly_ok (fun short => absurd long (Nat.not_lt.mpr short))
    · rw [if_neg long]
      rw [show (decodeBody limits raw).map errorCodeOf = errorCodeOf <$> decodeBody limits raw from
        rfl, raisesOnly_map, decodeBody_raises]
      exact ⟨fun reads _ => reads, fun reads => reads (Nat.not_lt.mp long)⟩

/-- A body that is decoded without a word of the response is decoded. -/
theorem decodeBody_returns {raw : List UInt8} (telling : RaisesOnly SaysReceived (decodeBody limits raw)) :
    ∃ document, decodeBody limits raw = .ok document := by
  cases decoded : decodeBody limits raw with
  | ok document => exact ⟨document, rfl⟩
  | error raised =>
    have silent : RaisesOnly (fun error => ¬SaysReceived error) (decodeBody limits raw) := by
      unfold decodeBody
      split
      · simp
      · split <;> simp
    exact absurd (telling raised decoded) (silent raised decoded)

/-- So is the code of an error body. -/
theorem providerErrorCode_returns {body : BodyRead}
    (telling : RaisesOnly SaysReceived (providerErrorCode limits body)) :
    ∃ found, providerErrorCode limits body = .ok found := by
  unfold providerErrorCode at telling ⊢
  split at telling
  · exact ⟨none, rfl⟩
  · exact ⟨none, rfl⟩
  · exact absurd (raisesOnly_error.mp telling) not_saysReceived_plain
  · split
    · exact ⟨none, rfl⟩
    · rename_i raw long
      rw [if_neg long] at telling
      obtain ⟨document, decoded⟩ := decodeBody_returns (raisesOnly_map.mp telling)
      exact ⟨errorCodeOf document, by rw [decoded]; rfl⟩

/-- Where bytes were received, the transport says so of every exchange that ends as expected, and
of no other. -/
theorem openAndDecode_raises {exchange : Exchange} (received : exchange.received = true) :
    RaisesOnly SaysReceived (openAndDecode limits exchange) ↔ Expected limits exchange := by
  cases exchange with
  | connection => cases received
  | failed className bytes =>
    cases received
    simp [openAndDecode, Expected]
  | httpError status body =>
    unfold openAndDecode Expected
    rw [raisesOnly_bind, providerErrorCode_raises]
    simp only [raisesOnly_error, saysReceived_diagnosed, receivedAt_wellFormed,
      Option.mem_some_iff, forall_eq']
    constructor
    · rintro ⟨reads, formed⟩
      obtain ⟨found, read⟩ := providerErrorCode_returns (providerErrorCode_raises.mpr reads)
      exact ⟨(formed found read).1, reads⟩
    · rintro ⟨range, reads⟩
      exact ⟨reads, fun found read => ⟨range, providerErrorCode_safe read, by decide⟩⟩
  | opened status body =>
    have stages : (receivedAt "response_read" (some (responseStatus status)) none).WellFormed ∧
        (receivedAt "response_decode" (some (responseStatus status)) none).WellFormed := by
      constructor <;> refine receivedAt_wellFormed.mpr ⟨?_, by simp, by decide⟩ <;> rintro _ ⟨⟩ <;>
        exact responseStatus_range status
    unfold openAndDecode Expected
    cases body with
    | osError => simp [saysReceived_diagnosed, stages.1]
    | valueError => simp
    | other className => simp
    | bytes raw =>
      simp only [raisesOnly_bind, raisesOnly_refuse, saysReceived_diagnosed, stages.1, implies_true,
        refuse_eq_ok, decodeBody_raises, true_and, not_lt, ne_eq, reduceCtorEq, not_false_eq_true,
        BodyRead.bytes.injEq, forall_eq', forall_const]
      refine imp_congr_right fun short => ?_
      refine ⟨fun both => both.1, fun reads => ⟨reads, fun document _ => ?_⟩⟩
      split
      · exact raisesOnly_ok
      · exact raisesOnly_error.mpr (saysReceived_diagnosed.mpr stages.2)

end Macr.Providers
