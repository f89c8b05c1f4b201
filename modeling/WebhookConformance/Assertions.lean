import WebhookConformance.Attempts

/-! Assertion evaluation: the transport evaluators of `assertions/transport.py`, the
normalization and the evidence rules of `runtime/assertions.py`. The nine observer evaluators
only enter through the normalized evaluation they end in. -/
namespace WebhookConformance

inductive HttpStatusClass where
  | success
  | redirection
  | clientError
  | serverError
  deriving DecidableEq, Repr

def statusClass (status : Nat) : Option HttpStatusClass :=
  if 200 ≤ status ∧ status ≤ 299 then some .success
  else if 300 ≤ status ∧ status ≤ 399 then some .redirection
  else if 400 ≤ status ∧ status ≤ 499 then some .clientError
  else if 500 ≤ status ∧ status ≤ 599 then some .serverError
  else none

structure StatusExpectation where
  codes : List Nat
  classes : List HttpStatusClass
  deriving DecidableEq, Repr

inductive AttemptMode where
  | allTerminal
  | lastTerminal
  deriving DecidableEq, Repr

structure AttemptSelector where
  event : String
  mode : AttemptMode
  deriving DecidableEq, Repr

inductive AssertionConfig where
  | httpStatus (expected : StatusExpectation) (attempt : AttemptSelector)
  | acknowledgementDeadline (within : Duration) (attempt : AttemptSelector)
  | observer

def AssertionConfig.isTransport : AssertionConfig → Bool
  | .httpStatus _ _ => true
  | .acknowledgementDeadline _ _ => true
  | .observer => false

/-- The persisted facts of an attempt that assertions read. -/
structure PersistedAttempt where
  attemptId : String
  eventId : String
  status : Option Nat
  responseHeadersElapsedNs : Option Nat
  deriving DecidableEq, Repr

inductive TransportAssertionCode where
  | statusMatch
  | statusMismatch
  | responseMissing
  | headerTimingMissing
  | acknowledgementWithinDeadline
  | acknowledgementDeadlineExceeded
  deriving DecidableEq, Repr

def TransportAssertionCode.value : TransportAssertionCode → String
  | .statusMatch => "status_match"
  | .statusMismatch => "status_mismatch"
  | .responseMissing => "response_missing"
  | .headerTimingMissing => "header_timing_missing"
  | .acknowledgementWithinDeadline => "acknowledgement_within_deadline"
  | .acknowledgementDeadlineExceeded => "acknowledgement_deadline_exceeded"

structure TransportEvaluation where
  result : AssertionResult
  code : TransportAssertionCode
  deriving DecidableEq, Repr

def evaluateStatus (expected : StatusExpectation) (attempt : PersistedAttempt) :
    TransportEvaluation :=
  match attempt.status with
  | none => ⟨.error, .responseMissing⟩
  | some status =>
    if status ∈ expected.codes ∨ (statusClass status).any (· ∈ expected.classes) then
      ⟨.pass, .statusMatch⟩
    else ⟨.fail, .statusMismatch⟩

def evaluateAcknowledgement (within : Duration) (attempt : PersistedAttempt) :
    TransportEvaluation :=
  match attempt.status, attempt.responseHeadersElapsedNs with
  | none, _ => ⟨.error, .responseMissing⟩
  | some _, none => ⟨.error, .headerTimingMissing⟩
  | some _, some elapsed =>
    if elapsed ≤ within.nanoseconds then ⟨.pass, .acknowledgementWithinDeadline⟩
    else ⟨.fail, .acknowledgementDeadlineExceeded⟩

/-- A terminal evaluation as it is persisted; `classified` is the check of
`NormalizedAssertionEvaluation.__post_init__`. -/
structure NormalizedEvaluation where
  result : AssertionResult
  state : AssertionState
  errorOrigin : Option AssertionErrorOrigin
  comparison : Option String
  verdict : TerminalVerdict
  classified : classifyAssertionVerdict result state errorOrigin = .ok verdict

def terminalState (result : AssertionResult) (code : String) : AssertionState :=
  match result with
  | .pass => .passed
  | .fail => .failed
  | .skipped => .unsupported
  | _ => if code = "observer_unsupported" then .unsupported else .error

/-- What an exception inside an evaluator becomes. -/
def evaluatorException : NormalizedEvaluation :=
  ⟨.error, .error, some .harness, none, terminalVerdict .harnessError, rfl⟩

/-- `_normalize_evaluator_result`, with the error origin its evaluator family gives a code. -/
def normalize (result : AssertionResult) (code : String) (origin : AssertionErrorOrigin) :
    NormalizedEvaluation :=
  let state := terminalState result code
  let errorOrigin := if state = .error then some origin else none
  match h : classifyAssertionVerdict result state errorOrigin with
  | .error _ => evaluatorException
  | .ok verdict => ⟨result, state, errorOrigin, some code, verdict, h⟩

def normalizeTransport (evaluation : TransportEvaluation) : NormalizedEvaluation :=
  normalize evaluation.result evaluation.code.value
    (if evaluation.code = .headerTimingMissing then .harness else .environment)

theorem errorResult_ne_pass (origin : AssertionErrorOrigin) : errorResult origin ≠ .pass := by
  cases origin <;> decide

/-- A passing evaluation is persisted in state `passed`, and only it. -/
theorem NormalizedEvaluation.pass_iff (e : NormalizedEvaluation) :
    e.verdict.category = .pass ↔ e.state = .passed := by
  obtain ⟨result, state, origin, comparison, verdict, h⟩ := e
  cases state <;> cases result <;> cases origin <;> cases h <;>
    simp [terminalVerdict, errorResult_ne_pass]

inductive AssertionEvidenceKind where
  | attempt
  | observation
  | record
  | artifact
  | transition
  | recoveryDecision
  deriving DecidableEq, Repr

structure AssertionEvidenceReference where
  kind : AssertionEvidenceKind
  evidenceId : String
  deriving DecidableEq, Repr

/-- `_validate_bundle_for_assertion`: attempt links and observation links exclude each other. -/
def validateBundle (config : AssertionConfig) (references : List AssertionEvidenceReference) :
    Except String Unit :=
  let kinds := references.map AssertionEvidenceReference.kind
  if config.isTransport then
    if AssertionEvidenceKind.attempt ∉ kinds then
      .error "transport assertions require typed attempt evidence"
    else if AssertionEvidenceKind.observation ∈ kinds then
      .error "transport assertions cannot consume observation evidence"
    else .ok ()
  else if AssertionEvidenceKind.observation ∉ kinds then
    .error "observer assertions require typed observation evidence"
  else if AssertionEvidenceKind.attempt ∈ kinds then
    .error "observer assertions cannot consume attempt evidence"
  else .ok ()

/-- What a lifecycle call persists. -/
structure LifecycleResult where
  normalized : NormalizedEvaluation
  references : List AssertionEvidenceReference

/-- `AssertionLifecycle.evaluate` on a collected bundle. -/
def lifecycleEvaluate (config : AssertionConfig) (references : List AssertionEvidenceReference)
    (evaluated : NormalizedEvaluation) : Except String LifecycleResult := do
  validateBundle config references
  return ⟨evaluated, references⟩

/-- `AssertionLifecycle.evaluate_observer`: a capability gap is persisted with the preflight
reference alone, and the supplier is not asked. -/
def lifecycleEvaluateObserver (config : AssertionConfig) (gap : Option Bool)
    (capabilityReference : Option AssertionEvidenceReference)
    (supplied : List AssertionEvidenceReference × NormalizedEvaluation) :
    Except String LifecycleResult :=
  match gap with
  | some skip =>
    match capabilityReference with
    | none => .error "unsupported capability evaluation requires durable preflight evidence"
    | some reference =>
      .ok ⟨⟨if skip then .skipped else .error, .unsupported, none,
        some "observer capability preflight", terminalVerdict .unsupported, by cases skip <;> rfl⟩,
        [reference]⟩
  | none => lifecycleEvaluate config supplied.1 supplied.2

section Selection

variable (events : List (String × String))

/-- `_selected_event_id` over the configured names next to the planned ids. -/
def selectedEventId (name : String) : Except String String :=
  match events.find? (·.1 = name) with
  | none => .error "transport assertion references an unknown event"
  | some event => .ok event.2

def selectAttempts (selector : AttemptSelector) (attempts : List PersistedAttempt) :
    Except String (List PersistedAttempt) := do
  let eventId ← selectedEventId events selector.event
  let terminal := attempts.filter (·.eventId = eventId)
  let selected := match selector.mode with
    | .allTerminal => terminal
    | .lastTerminal => terminal.getLast?.toList
  if selected.isEmpty then
    throw "transport assertion selected no terminal attempt"
  return selected

/-- The first failing evaluation is the witness, else the first in error, else the last. -/
def witness (evaluated : List TransportEvaluation) : Option TransportEvaluation :=
  (evaluated.find? (·.result = .fail)).or
    ((evaluated.find? (·.result = .error)).or evaluated.getLast?)

def evaluateTransportSelection (config : AssertionConfig) (selector : AttemptSelector)
    (evaluator : PersistedAttempt → TransportEvaluation) (attempts : List PersistedAttempt) :
    Except String LifecycleResult := do
  let selected ← selectAttempts events selector attempts
  let evaluation := ((witness (selected.map evaluator)).map normalizeTransport).getD
    evaluatorException
  lifecycleEvaluate config (selected.map fun a => ⟨.attempt, a.attemptId⟩) evaluation

end Selection

end WebhookConformance
