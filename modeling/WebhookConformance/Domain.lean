import Mathlib.Data.List.MinMax

/-! The closed vocabularies of `domain/enums.py` and `errors.py`, and the edge tables of
`journal/transitions.py`. -/
namespace WebhookConformance

inductive ResultCategory where
  | pass
  | receiverFailure
  | environmentError
  | harnessError
  | ambiguous
  | invalidInput
  | unsupported
  | cancelled
  deriving DecidableEq, Repr

inductive RunState where
  | planned
  | running
  | paused
  | completed
  | cancelled
  | failed
  deriving DecidableEq, Repr

inductive ScenarioState where
  | pending
  | eligible
  | running
  | passed
  | failed
  | error
  | skipped
  | ambiguous
  | cancelled
  deriving DecidableEq, Repr

inductive DeliveryState where
  | pending
  | eligible
  | active
  | satisfied
  | exhausted
  | ambiguous
  | cancelled
  | skipped
  deriving DecidableEq, Repr

inductive AttemptState where
  | scheduled
  | claimed
  | preSendCommitted
  | connecting
  | sending
  | awaitingResponse
  | responseObserved
  | notSent
  | succeeded
  | rejected
  | transportFailed
  | unknownOutcome
  | cancelled
  deriving DecidableEq, Repr

inductive ObservationState where
  | scheduled
  | running
  | ok
  | pending
  | unsupported
  | error
  | timedOut
  | cancelled
  deriving DecidableEq, Repr

inductive AssertionState where
  | pending
  | running
  | passed
  | failed
  | error
  | unsupported
  | cancelled
  deriving DecidableEq, Repr

inductive AttemptClassification where
  | planned
  | receiverAccepted
  | receiverRejected
  | environmentFailure
  | harnessFailure
  | cancelled
  | ambiguous
  deriving DecidableEq, Repr

inductive ObservationStatus where
  | ok
  | pending
  | unsupported
  | error
  | timeout
  deriving DecidableEq, Repr

inductive AssertionResult where
  | pass
  | fail
  | error
  | skipped
  | pending
  deriving DecidableEq, Repr

inductive EntityType where
  | run
  | scenario
  | delivery
  | attempt
  | observation
  | assertion
  deriving DecidableEq, Repr

def runEdges : List (RunState × RunState) :=
  [(.planned, .running), (.planned, .cancelled), (.planned, .failed),
   (.running, .paused), (.running, .completed), (.running, .cancelled), (.running, .failed),
   (.paused, .running), (.paused, .cancelled), (.paused, .failed)]

def scenarioEdges : List (ScenarioState × ScenarioState) :=
  [(.pending, .eligible), (.pending, .skipped), (.pending, .error), (.pending, .cancelled),
   (.eligible, .running), (.eligible, .skipped), (.eligible, .error), (.eligible, .cancelled),
   (.running, .passed), (.running, .failed), (.running, .error), (.running, .skipped),
   (.running, .ambiguous), (.running, .cancelled)]

def deliveryEdges : List (DeliveryState × DeliveryState) :=
  [(.pending, .eligible), (.pending, .skipped), (.pending, .cancelled),
   (.eligible, .active), (.eligible, .skipped), (.eligible, .cancelled),
   (.active, .eligible), (.active, .satisfied), (.active, .exhausted), (.active, .ambiguous),
   (.active, .cancelled)]

def attemptEdges : List (AttemptState × AttemptState) :=
  [(.scheduled, .claimed), (.scheduled, .cancelled),
   (.claimed, .preSendCommitted), (.claimed, .notSent), (.claimed, .cancelled),
   (.preSendCommitted, .connecting), (.preSendCommitted, .notSent),
   (.preSendCommitted, .cancelled),
   (.connecting, .sending), (.connecting, .notSent), (.connecting, .transportFailed),
   (.connecting, .unknownOutcome), (.connecting, .cancelled),
   (.sending, .awaitingResponse), (.sending, .transportFailed), (.sending, .unknownOutcome),
   (.awaitingResponse, .responseObserved), (.awaitingResponse, .transportFailed),
   (.awaitingResponse, .unknownOutcome),
   (.responseObserved, .succeeded), (.responseObserved, .rejected),
   (.responseObserved, .transportFailed)]

def observationEdges : List (ObservationState × ObservationState) :=
  [(.scheduled, .running), (.scheduled, .cancelled),
   (.running, .ok), (.running, .pending), (.running, .unsupported), (.running, .error),
   (.running, .timedOut), (.running, .cancelled)]

def assertionEdges : List (AssertionState × AssertionState) :=
  [(.pending, .running), (.pending, .cancelled),
   (.running, .passed), (.running, .failed), (.running, .error), (.running, .unsupported),
   (.running, .cancelled)]

/-- A state with no outgoing edge, as `_definition` computes `terminal_states`. -/
def terminal {σ : Type} [DecidableEq σ] (edges : List (σ × σ)) (s : σ) : Bool :=
  edges.all fun e => decide (e.1 ≠ s)

def RunState.terminal (s : RunState) : Bool := WebhookConformance.terminal runEdges s

def ScenarioState.terminal (s : ScenarioState) : Bool :=
  WebhookConformance.terminal scenarioEdges s

def DeliveryState.terminal (s : DeliveryState) : Bool :=
  WebhookConformance.terminal deliveryEdges s

def AttemptState.terminal (s : AttemptState) : Bool := WebhookConformance.terminal attemptEdges s

def ObservationState.terminal (s : ObservationState) : Bool :=
  WebhookConformance.terminal observationEdges s

def AssertionState.terminal (s : AssertionState) : Bool :=
  WebhookConformance.terminal assertionEdges s

/-- No edge leaves a terminal state, whatever the table. -/
theorem terminal_no_edge {σ : Type} [DecidableEq σ] {edges : List (σ × σ)} {s t : σ}
    (ht : terminal edges s = true) : (s, t) ∉ edges := by
  intro he
  have := List.all_eq_true.mp ht (s, t) he
  simp at this

end WebhookConformance
