import WebhookConformance.Dialer

/-! The evidence of one physical HTTP attempt (`http/evidence.py`), of which `AttemptResult` is the
part that its terminal reduction reads. -/
namespace WebhookConformance

open InternetAddress

inductive HeaderOwner where
  | user
  | signer
  | client
  deriving DecidableEq, Repr

inductive AttemptPhase where
  | validation
  | pool
  | resolution
  | connect
  | write
  | responseHeaders
  | responseBody
  | close
  deriving DecidableEq, Repr

inductive AttemptProgressCheckpoint where
  | connectionAttemptStarted
  | requestSendStarted
  | awaitingResponse
  deriving DecidableEq, Repr

structure RequestEvidence where
  bodySha256 : String
  bodyBytes : Nat
  headers : List (String × HeaderOwner)
  deriving DecidableEq, Repr

/-- The response of an attempt with the bytes that were kept of it. -/
structure CapturedResponse extends ResponseEvidence where
  headers : List String
  bodySha256 : Option String
  observedBodySha256 : String
  bodyBytes : Nat
  observedBodyBytes : Nat
  capturedBody : Bytes
  truncated : Bool
  mediaType : Option String
  deriving DecidableEq, Repr

/-- The checks of `ResponseEvidence.__post_init__` on counts, digests and the status. -/
def CapturedResponse.Valid (r : CapturedResponse) : Prop :=
  100 ≤ r.status ∧ r.status ≤ 599 ∧ r.bodyBytes ≤ int64Max ∧ r.observedBodyBytes ≤ r.bodyBytes ∧
    (r.bodyComplete = true →
      r.observedBodyBytes = r.bodyBytes ∧ r.bodySha256 = some r.observedBodySha256) ∧
    (r.bodyComplete = false → r.bodySha256 = none)

instance (r : CapturedResponse) : Decidable r.Valid := inferInstanceAs (Decidable (_ ∧ _))

structure PeerEvidence where
  authorizedAddress : String
  authorizedFamily : Version
  peerAddress : String
  peerFamily : Version
  tls : Bool
  deriving DecidableEq, Repr

structure AttemptTimings where
  totalElapsedNs : Int
  poolElapsedNs : Int
  connectElapsedNs : Int
  writeElapsedNs : Option Int
  responseHeadersElapsedNs : Option Int
  requestSendStartedNs : Option Int
  responseHeadersCompletedNs : Option Int
  deriving DecidableEq, Repr

def NonnegativeInt64 (v : Int) : Prop := 0 ≤ v ∧ v ≤ int64Max

instance (v : Int) : Decidable (NonnegativeInt64 v) := inferInstanceAs (Decidable (_ ∧ _))

/-- The checks of `AttemptTimings.__post_init__`. -/
def AttemptTimings.Valid (t : AttemptTimings) : Prop :=
  NonnegativeInt64 t.totalElapsedNs ∧ NonnegativeInt64 t.poolElapsedNs ∧
    NonnegativeInt64 t.connectElapsedNs ∧ (∀ v ∈ t.writeElapsedNs, NonnegativeInt64 v) ∧
    (∀ v ∈ t.responseHeadersElapsedNs, NonnegativeInt64 v) ∧
    (∀ v ∈ t.requestSendStartedNs, NonnegativeInt64 v) ∧
    (∀ v ∈ t.responseHeadersCompletedNs, NonnegativeInt64 v) ∧
    ∀ started ∈ t.requestSendStartedNs, ∀ completed ∈ t.responseHeadersCompletedNs,
      started ≤ completed

instance (t : AttemptTimings) : Decidable t.Valid := inferInstanceAs (Decidable (_ ∧ _))

structure ReportedError extends AttemptError where
  phase : AttemptPhase
  messageRedacted : String
  deriving DecidableEq, Repr

/-- The check of an error's message. -/
def LineSafe (message : String) : Prop :=
  1 ≤ message.length ∧ message.length ≤ 512 ∧ '\r' ∉ message.toList ∧ '\n' ∉ message.toList

instance (message : String) : Decidable (LineSafe message) := inferInstanceAs (Decidable (_ ∧ _))

/-- The fields of an `AttemptResult` before their checks. -/
structure ResultFields where
  outcome : AttemptOutcome
  request : RequestEvidence
  timings : AttemptTimings
  response : Option CapturedResponse
  peer : Option PeerEvidence
  error : Option ReportedError
  requestBytesMayHaveLeft : Bool
  deriving DecidableEq, Repr

/-- The outcome checks of `AttemptResult.__post_init__`. -/
def ResultFields.Valid (r : ResultFields) : Prop :=
  (r.outcome = .notSent → r.requestBytesMayHaveLeft = false) ∧
    (r.outcome = .unknownOutcome → r.requestBytesMayHaveLeft = true) ∧
    (r.response.isSome = true ↔ r.outcome = .response)

instance (r : ResultFields) : Decidable r.Valid := inferInstanceAs (Decidable (_ ∧ _))

/-- What an execution returns. -/
structure TransportResult extends ResultFields where
  valid : toResultFields.Valid
  deriving DecidableEq, Repr

end WebhookConformance
