import WebhookConformance.Verdicts
import WebhookConformance.Retries

/-! The terminal reduction of one physical attempt: `http/evidence.py` results against the
durable phase, as `runtime/attempts.py` classifies them. -/
namespace WebhookConformance

inductive AttemptOutcome where
  | notSent
  | response
  | unknownOutcome
  deriving DecidableEq, Repr

inductive AttemptErrorCode where
  | connectTimeout
  | readTimeout
  | writeTimeout
  | poolTimeout
  | totalTimeout
  | tlsError
  | connectionError
  | protocolError
  | responseTooLarge
  | resourceLimit
  | invalidRequest
  | cancelled
  deriving DecidableEq, Repr

inductive AttemptPhaseEvidence where
  | controlledPreTransport
  | noConnectionEstablished
  | connectionAttemptStarted
  | requestSendStarted
  | awaitingResponse
  | responseObserved
  deriving DecidableEq, Repr

structure ResponseEvidence where
  status : Nat
  bodyComplete : Bool
  deriving DecidableEq, Repr

structure AttemptError where
  code : AttemptErrorCode
  retryable : Bool
  deriving DecidableEq, Repr

/-- The proofs are the outcome checks of `AttemptResult.__post_init__`. -/
structure AttemptResult where
  outcome : AttemptOutcome
  response : Option ResponseEvidence
  error : Option AttemptError
  requestBytesMayHaveLeft : Bool
  notSent_kept : outcome = .notSent → requestBytesMayHaveLeft = false
  unknown_left : outcome = .unknownOutcome → requestBytesMayHaveLeft = true
  response_iff : response.isSome = true ↔ outcome = .response

def timeoutCodes : List AttemptErrorCode :=
  [.connectTimeout, .readTimeout, .writeTimeout, .poolTimeout, .totalTimeout]

def classificationsByTerminalState : AttemptState → List AttemptClassification
  | .notSent => [.environmentFailure, .harnessFailure]
  | .succeeded => [.receiverAccepted]
  | .rejected => [.receiverRejected]
  | .transportFailed => [.environmentFailure, .harnessFailure]
  | .unknownOutcome => [.ambiguous]
  | .cancelled => [.cancelled]
  | _ => []

/-- The live states in which request bytes may already be under way. -/
def possibleSendPhase : AttemptState → Option AttemptPhaseEvidence
  | .sending => some .requestSendStarted
  | .awaitingResponse => some .awaitingResponse
  | _ => none

def unknownOutcomePhase : AttemptState → Option AttemptPhaseEvidence
  | .connecting => some .connectionAttemptStarted
  | s => possibleSendPhase s

def terminalReduction (result : AttemptResult) (current : AttemptState) :
    Except String (AttemptState × AttemptClassification × AttemptPhaseEvidence) :=
  match result.outcome with
  | .notSent =>
    match possibleSendPhase current with
    | some phase => .ok (.unknownOutcome, .ambiguous, phase)
    | none =>
      match current with
      | .preSendCommitted => .ok (.notSent, .environmentFailure, .controlledPreTransport)
      | .connecting => .ok (.notSent, .environmentFailure, .noConnectionEstablished)
      | _ => .error "not_sent transport evidence followed a durable send phase"
  | .unknownOutcome =>
    match unknownOutcomePhase current with
    | some phase => .ok (.unknownOutcome, .ambiguous, phase)
    | none => .error "unknown outcome lacks a durable possible-send phase"
  | .response =>
    match result.response with
    | none => .error "response outcome lacks response evidence"
    | some response =>
      if response.bodyComplete = false then
        match possibleSendPhase current with
        | some phase => .ok (.unknownOutcome, .ambiguous, phase)
        | none => .error "incomplete response lacks a durable possible-send phase"
      else if result.error.isSome then
        .ok (.transportFailed, .environmentFailure, .responseObserved)
      else if 200 ≤ response.status ∧ response.status ≤ 299 then
        .ok (.succeeded, .receiverAccepted, .responseObserved)
      else .ok (.rejected, .receiverRejected, .responseObserved)

def retryPredicate (result : AttemptResult) (classification : AttemptClassification)
    (retryableStatus : Option (Nat → Bool)) : Option RetryPredicate :=
  if classification = .receiverRejected ∧
      (result.response.any fun r => retryableStatus.any fun f => f r.status) then
    some .retryableStatus
  else if classification = .environmentFailure then
    match result.error with
    | none => none
    | some error =>
      if error.code ∈ timeoutCodes then some .timedOut
      else if error.retryable then some .connectionFailed
      else none
  else none

def predecessorStatus (result : AttemptResult) (classification : AttemptClassification)
    (retryableStatus : Option (Nat → Bool)) : Option Nat :=
  if classification = .receiverRejected ∧
      (result.response.any fun r => retryableStatus.any fun f => f r.status) then
    result.response.map ResponseEvidence.status
  else none

theorem terminalReduction_classification {result : AttemptResult} {current state : AttemptState}
    {c : AttemptClassification} {phase : AttemptPhaseEvidence}
    (h : terminalReduction result current = .ok (state, c, phase)) :
    c ∈ classificationsByTerminalState state := by
  unfold terminalReduction at h
  repeat' split at h
  all_goals try cases h
  all_goals simp [classificationsByTerminalState]

/-- What the lifecycle hands to the retry decider, always a well-formed predecessor. -/
def classifiedPredecessor (attemptId : String) (attemptOrdinal : Nat) (hpos : 1 ≤ attemptOrdinal)
    (logicalTimeNs : Int) (result : AttemptResult) (c : AttemptClassification)
    (retryableStatus : Option (Nat → Bool)) : ClassifiedPredecessor where
  attemptId := attemptId
  attemptOrdinal := attemptOrdinal
  classification := c
  predicate := retryPredicate result c retryableStatus
  logicalTimeNs := logicalTimeNs
  statusCode := predecessorStatus result c retryableStatus
  ordinal_pos := hpos
  ambiguous_none := by
    intro hc
    simp [retryPredicate, predecessorStatus, hc]
  status_rejected := by
    intro hp
    unfold retryPredicate at hp
    split at hp
    · rename_i hr
      refine ⟨hr.1, ?_⟩
      simp only [predecessorStatus, if_pos hr]
      cases hres : result.response <;> simp_all
    · repeat' split at hp
      all_goals simp at hp
  transport_environment := by
    intro hp
    by_cases hr : c = .receiverRejected ∧
        (result.response.any fun r => retryableStatus.any fun f => f r.status)
    · simp [retryPredicate, if_pos hr] at hp
    · refine ⟨?_, by simp [predecessorStatus, hr]⟩
      by_contra hne
      simp [retryPredicate, hr, hne] at hp

end WebhookConformance
