import WebhookConformance.ObserverQueries

/-! The observer protocol of `observers/protocol.py`: evidence, capabilities, responses and stored
records, each with the checks its model makes, and the check of a response against its request. -/
namespace WebhookConformance

open Checked

section Scalars

/-- The zeros of the decimal digits that `\d` matches; the other nine follow each. -/
def decimalZeros : List Nat :=
  [0x30, 0x660, 0x6f0, 0x7c0, 0x966, 0x9e6, 0xa66, 0xae6, 0xb66, 0xbe6, 0xc66, 0xce6, 0xd66, 0xde6,
   0xe50, 0xed0, 0xf20, 0x1040, 0x1090, 0x17e0, 0x1810, 0x1946, 0x19d0, 0x1a80, 0x1a90, 0x1b50,
   0x1bb0, 0x1c40, 0x1c50, 0xa620, 0xa8d0, 0xa900, 0xa9d0, 0xa9f0, 0xaa50, 0xabf0, 0xff10, 0x104a0,
   0x10d30, 0x11066, 0x110f0, 0x11136, 0x111d0, 0x112f0, 0x11450, 0x114d0, 0x11650, 0x116c0,
   0x11730, 0x118e0, 0x11950, 0x11c50, 0x11d50, 0x11da0, 0x11f50, 0x16a60, 0x16ac0, 0x16b50,
   0x1d7ce, 0x1d7d8, 0x1d7e2, 0x1d7ec, 0x1d7f6, 0x1e140, 0x1e2f0, 0x1e4f0, 0x1e950, 0x1fbf0]

def pythonDigit (c : Char) : Option Nat :=
  (decimalZeros.find? fun z => decide (z ≤ c.toNat ∧ c.toNat < z + 10)).map (c.toNat - ·)

def asciiDigit (c : Char) : Option Nat := if c.isDigit then some (c.toNat - 48) else none

/-- The digits a text begins with, and the rest. -/
def takeDigits (digit : Char → Option Nat) : List Char → List Nat × List Char
  | [] => ([], [])
  | c :: cs =>
    match digit c with
    | none => ([], c :: cs)
    | some d => (d :: (takeDigits digit cs).1, (takeDigits digit cs).2)

def natOfDigits (digits : List Nat) : Nat := digits.foldl (fun n d => 10 * n + d) 0

/-- A decimal number, exactly as it is written. -/
structure DecimalValue where
  negative : Bool
  coefficient : Nat
  exponent : Int
  deriving DecidableEq, Repr

def readWhole (digit : Char → Option Nat) : List Char → Option (List Nat × List Char)
  | [] => none
  | '0' :: cs => some ([0], cs)
  | c :: cs =>
    if c.isDigit then some ((c.toNat - 48) :: (takeDigits digit cs).1, (takeDigits digit cs).2)
    else none

def readFraction (digit : Char → Option Nat) : List Char → Option (List Nat × List Char)
  | '.' :: cs => if (takeDigits digit cs).1 = [] then none else some (takeDigits digit cs)
  | cs => some ([], cs)

def readExponent (digit : Char → Option Nat) : List Char → Option Int
  | [] => some 0
  | e :: cs =>
    let sign := if cs.head? = some '-' then -1 else 1
    let digits := takeDigits digit
      (if cs.head? = some '-' ∨ cs.head? = some '+' then cs.tail else cs)
    if (e = 'e' ∨ e = 'E') ∧ digits.1 ≠ [] ∧ digits.2 = [] then some (sign * natOfDigits digits.1)
    else none

/-- The whole text against the pattern of a decimal number. -/
def readDecimal (digit : Char → Option Nat) (s : String) : Option DecimalValue := do
  let negative := s.toList.head? = some '-'
  let (whole, cs) ← readWhole digit (if negative then s.toList.tail else s.toList)
  let (fraction, cs) ← readFraction digit cs
  let exponent ← readExponent digit cs
  return ⟨negative, natOfDigits (whole ++ fraction), exponent - fraction.length⟩

def fixedDigits (count : Nat) (cs : List Char) : Option (Nat × List Char) :=
  let digits := (cs.take count).filterMap pythonDigit
  if digits.length = count then some (natOfDigits digits, cs.drop count) else none

def separator (c : Char) : List Char → Option (List Char)
  | d :: cs => if d = c then some cs else none
  | [] => none

/-- The end of a timestamp, with an optional fraction of at most nine digits. -/
def timestampEnds (cs : List Char) : Bool :=
  match cs with
  | '.' :: cs =>
    let digits := takeDigits pythonDigit cs
    decide (1 ≤ digits.1.length ∧ digits.1.length ≤ 9) && digits.2 = ['Z']
  | cs => cs = ['Z']

/-- `_validate_utc_timestamp` accepts it. -/
def isObserverTimestamp (s : String) : Bool :=
  let parsed : Option Bool := do
    let (year, cs) ← fixedDigits 4 s.toList
    let (month, cs) ← fixedDigits 2 (← separator '-' cs)
    let (day, cs) ← fixedDigits 2 (← separator '-' cs)
    let (hour, cs) ← fixedDigits 2 (← separator 'T' cs)
    let (minute, cs) ← fixedDigits 2 (← separator ':' cs)
    let (second, cs) ← fixedDigits 2 (← separator ':' cs)
    return timestampEnds cs && decide (1 ≤ year ∧ (1 ≤ month ∧ month ≤ 12) ∧
      (1 ≤ day ∧ day ≤ daysInMonth year month) ∧ hour < 24 ∧ minute < 60 ∧ second < 60)
  parsed.getD false

def isErrorCategory (s : String) : Bool :=
  match s.toList with
  | [] => false
  | c :: cs =>
    c.isLower && decide (cs.length ≤ 127) && cs.all fun d => d.isLower || d.isDigit || d = '_'

/-- The category of a wire or a record error, a bounded lower-case token. -/
structure ErrorToken where
  text : String
  wellFormed : isErrorCategory text = true
  deriving DecidableEq

structure SnapshotId where
  text : String
  bounded : validateBoundedText "snapshot_id" 512 false text = .ok ()
  deriving DecidableEq

end Scalars

section Evidence

/-- A typed value of the protocol. -/
inductive EvidenceValue where
  | null
  | boolean (b : Bool)
  | integer (n : Int)
  | decimalString (s : String)
  | string (s : String)
  | bytesDigest (digest : BytesDigestValue)
  | timestamp (s : String)
  | array (items : List Json)
  | object (members : List (String × Json))
  deriving DecidableEq

def EvidenceValue.valueType : EvidenceValue → EvidenceValueType
  | .null => .null
  | .boolean _ => .boolean
  | .integer _ => .integer
  | .decimalString _ => .decimalString
  | .string _ => .string
  | .bytesDigest _ => .bytesDigest
  | .timestamp _ => .timestamp
  | .array _ => .array
  | .object _ => .object

def EvidenceValue.json : EvidenceValue → Json
  | .null => .null
  | .boolean b => .bool b
  | .integer n => .number n
  | .decimalString s => .text s
  | .string s => .text s
  | .bytesDigest digest => digest.dump
  | .timestamp s => .text s
  | .array items => .array items
  | .object members => .object members

/-- The optional media type of a digest: absent, null or a plain text. -/
def digestMediaType (raw : Option Json) : Option (Option String) :=
  match raw with
  | none => some none
  | some .null => some none
  | some (.text s) =>
    if (1 ≤ s.length ∧ s.length ≤ 255) ∧ PlainText s then some (some s) else none
  | some _ => none

/-- `BytesDigestMetadata.model_validate`. -/
def bytesDigestMetadata : Json → Option BytesDigestValue
  | .object members =>
    if members.all fun m => decide (m.1 ∈ ["sha256", "byte_length", "media_type"]) then
      match members.lookup "sha256", members.lookup "byte_length",
        digestMediaType (members.lookup "media_type") with
      | some (.text sha256), some (.number n), some mediaType =>
        if h : isSha256 sha256 = true ∧ (0 ≤ n ∧ n.toNat ≤ maxSafeInteger) ∧
            ∀ m ∈ mediaType, 1 ≤ m.length ∧ m.length ≤ 255 then
          some ⟨sha256, n.toNat, mediaType, h.1, h.2.1.2, h.2.2⟩
        else none
      | _, _, _ => none
    else none
  | _ => none

/-- The value of an evidence item read as the type it declares: `freeze_and_classify_value`, then
`validate_declared_shape`. -/
def evidenceValue (type : EvidenceValueType) (raw : Json) : Except String EvidenceValue :=
  let conflict := "value does not conform to value_type " ++ type.value
  if type = .bytesDigest then
    match bytesDigestMetadata raw with
    | some digest => .ok (.bytesDigest digest)
    | none => .error conflict
  else do
    freezeJson raw
    match type, raw with
    | .null, .null => return .null
    | .boolean, .bool b => return .boolean b
    | .integer, .number n => return .integer n
    | .decimalString, .text s =>
      require (s.length ≤ 256 ∧ (readDecimal pythonDigit s).isSome = true) conflict
      return .decimalString s
    | .string, .text s => return .string s
    | .timestamp, .text s =>
      require (isObserverTimestamp s = true) conflict
      return .timestamp s
    | .array, .array items => return .array items
    | .object, .object members => return .object members
    | _, _ => throw conflict

structure ObserverEvidence where
  key : String
  value : EvidenceValue
  sensitive : Bool
  key_text : validateBoundedText "evidence key" maxJsonKeyLength false key = .ok ()
  value_typed : evidenceValue value.valueType value.json = .ok value
  deriving DecidableEq

def ObserverEvidence.valueType (e : ObserverEvidence) : EvidenceValueType := e.value.valueType

/-- What of the evidence may be stored. -/
def withoutSensitive (evidence : List ObserverEvidence) : List ObserverEvidence :=
  evidence.filter fun e => !e.sensitive

@[simp] theorem withoutSensitive_nil : withoutSensitive [] = [] := rfl

end Evidence

section Capabilities

structure ObserverCapabilities where
  evidenceTypes : List EvidenceValueType
  evidenceKeys : List String
  readOnly : Bool
  idempotent : Bool
  maxQueries : Nat
  supportsPending : Bool
  stableSnapshotIds : Bool
  types_ne_nil : evidenceTypes ≠ []
  types_nodup : evidenceTypes.Nodup
  keys_le : evidenceKeys.length ≤ 256
  keys_text : ∀ key ∈ evidenceKeys,
    validateBoundedText "capability evidence key" maxJsonKeyLength false key = .ok ()
  keys_nodup : evidenceKeys.Nodup
  maxQueries_range : 1 ≤ maxQueries ∧ maxQueries ≤ 64
  deriving DecidableEq

def ObserverCapabilities.automaticReinvocationSafe (c : ObserverCapabilities) : Bool :=
  c.readOnly && c.idempotent

structure CapabilityNegotiation where
  missingEvidenceKeys : List String
  unsupportedEvidenceTypes : List EvidenceValueType
  queryLimitExceeded : Bool
  deriving DecidableEq

def CapabilityNegotiation.supported (n : CapabilityNegotiation) : Bool :=
  n.missingEvidenceKeys.isEmpty && n.unsupportedEvidenceTypes.isEmpty && !n.queryLimitExceeded

/-- `negotiate_capabilities`; no caller asks for stable snapshots. -/
def negotiateCapabilities (c : ObserverCapabilities) (queries : List WireQuery) :
    CapabilityNegotiation where
  missingEvidenceKeys := ((queries.map WireQuery.key).filter (· ∉ c.evidenceKeys)).eraseDups
  unsupportedEvidenceTypes := ((queries.map WireQuery.type).filter (· ∉ c.evidenceTypes)).eraseDups
  queryLimitExceeded := decide (c.maxQueries < queries.length)

def automaticPollingAllowed (c : ObserverCapabilities) (n : CapabilityNegotiation) : Bool :=
  n.supported && c.automaticReinvocationSafe && c.supportsPending

end Capabilities

section Messages

inductive ObserverResponseStatus where
  | ok
  | pending
  | unsupported
  | error
  deriving DecidableEq, Repr

structure ObserverWireError where
  category : ErrorToken
  retryable : Bool
  deriving DecidableEq

/-- `ObserverResponse.validate_status_shape`. -/
def ResponseShape (status : ObserverResponseStatus) (snapshotId : Option SnapshotId)
    (evidence : List ObserverEvidence) (error : Option ObserverWireError) : Prop :=
  match status with
  | .ok => snapshotId.isSome = true ∧ error = none
  | .error => (snapshotId = none ∧ evidence = []) ∧ error.isSome = true
  | .pending | .unsupported => (snapshotId = none ∧ evidence = []) ∧ error = none

structure ObserverResponse where
  requestId : String
  status : ObserverResponseStatus
  capabilities : ObserverCapabilities
  snapshotId : Option SnapshotId
  evidence : List ObserverEvidence
  error : Option ObserverWireError
  evidence_le : evidence.length ≤ 64
  keys_nodup : (evidence.map ObserverEvidence.key).Nodup
  shape : ResponseShape status snapshotId evidence error
  deriving DecidableEq

def automaticRetryAllowed (c : ObserverCapabilities) (response : ObserverResponse) : Bool :=
  c.automaticReinvocationSafe && decide (response.status = .error) &&
    response.error.any ObserverWireError.retryable

structure ObservationRecordError where
  category : ErrorToken
  messageRedacted : String
  deriving DecidableEq

/-- `ObservationRecord.validate_status_shape`. -/
def RecordShape (status : ObservationStatus) (snapshotId : Option SnapshotId)
    (evidence : List ObserverEvidence) (error : Option ObservationRecordError) : Prop :=
  match status with
  | .ok => snapshotId.isSome = true ∧ error = none
  | .error | .timeout => (snapshotId = none ∧ evidence = []) ∧ error.isSome = true
  | .pending | .unsupported => snapshotId = none ∧ evidence = []

/-- A stored sample. -/
structure ObservationRecord where
  sampleId : String
  sampleSequence : Nat
  status : ObservationStatus
  snapshotId : Option SnapshotId
  evidence : List ObserverEvidence
  error : Option ObservationRecordError
  evidence_le : evidence.length ≤ 64
  keys_nodup : (evidence.map ObserverEvidence.key).Nodup
  shape : RecordShape status snapshotId evidence error
  deriving DecidableEq

/-- What the poller reads of the diagnostic of a classified exception. -/
structure ObserverDiagnostic where
  category : ErrorToken
  code : String
  message : String
  retryable : Bool
  deriving DecidableEq

def protocolErrorToken : ErrorToken := ⟨"observer_protocol_error", by decide⟩

/-- `ObserverProtocolError.protocol_violation`. -/
def protocolViolation (code message : String) : ObserverDiagnostic :=
  ⟨protocolErrorToken, code, message, false⟩

/-- `validate_response_for_request` on an observe request. -/
def validateResponseForRequest (requestId : String) (queries : List WireQuery)
    (response : ObserverResponse) : Except ObserverDiagnostic ObserverResponse := do
  require (response.requestId = requestId)
    (protocolViolation "OBS_RESPONSE_REQUEST_ID_MISMATCH"
      "The observer response request ID does not match the request.")
  require (((negotiateCapabilities response.capabilities queries).supported = true) ∨
      response.status = .unsupported)
    (protocolViolation "OBS_CAPABILITY_MISMATCH"
      "The observer response conflicts with its declared capabilities.")
  require (response.status = .pending → response.capabilities.supportsPending = true)
    (protocolViolation "OBS_PENDING_NOT_DECLARED"
      "The observer returned pending without declaring pending support.")
  if response.status = .ok then
    require (∀ e ∈ response.evidence, e.key ∈ queries.map WireQuery.key)
      (protocolViolation "OBS_UNREQUESTED_EVIDENCE"
        "The observer returned evidence that was not requested.")
    require (∀ q ∈ queries, q.key ∈ response.evidence.map ObserverEvidence.key)
      (protocolViolation "OBS_EVIDENCE_MISSING"
        "The observer omitted requested evidence from an ok response.")
    require (∀ q ∈ queries, ∀ e ∈ response.evidence, e.key = q.key → e.valueType = q.type)
      (protocolViolation "OBS_EVIDENCE_TYPE_MISMATCH"
        "The observer returned evidence with a different declared type.")
  return response

end Messages

end WebhookConformance
