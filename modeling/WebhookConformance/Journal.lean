import WebhookConformance.Assertions
import WebhookConformance.Library.Ledger
import WebhookConformance.Library.Table

/-! The journal of one run: the rows of its tables, the commands of `journal/transitions.py` and
the guarded transition of `journal/repositories.py`. The table `runs` holds one row, so run ids
and the checks for other runs are left out. -/
namespace WebhookConformance

inductive LifecycleState where
  | run (state : RunState)
  | scenario (state : ScenarioState)
  | delivery (state : DeliveryState)
  | attempt (state : AttemptState)
  | observation (state : ObservationState)
  | assertion (state : AssertionState)
  deriving DecidableEq, Repr

def LifecycleState.entityType : LifecycleState → EntityType
  | .run _ => .run
  | .scenario _ => .scenario
  | .delivery _ => .delivery
  | .attempt _ => .attempt
  | .observation _ => .observation
  | .assertion _ => .assertion

def initialState : EntityType → LifecycleState
  | .run => .run .planned
  | .scenario => .scenario .pending
  | .delivery => .delivery .pending
  | .attempt => .attempt .scheduled
  | .observation => .observation .scheduled
  | .assertion => .assertion .pending

instance attemptEdge_lawful : LawfulBEq (AttemptState × AttemptState) := inferInstance

def transitionAllowed : LifecycleState → LifecycleState → Bool
  | .run a, .run b => (a, b) ∈ runEdges
  | .scenario a, .scenario b => (a, b) ∈ scenarioEdges
  | .delivery a, .delivery b => (a, b) ∈ deliveryEdges
  | .attempt a, .attempt b => (a, b) ∈ attemptEdges
  | .observation a, .observation b => (a, b) ∈ observationEdges
  | .assertion a, .assertion b => (a, b) ∈ assertionEdges
  | _, _ => false

structure EntityKey where
  entityType : EntityType
  entityId : String
  deriving DecidableEq, Repr

/-- The six state machines as one family over the projections. -/
def stateMachine : Ledger.Machine EntityKey LifecycleState where
  initial key := initialState key.entityType
  allows _ := transitionAllowed

inductive TransitionErrorKind where
  | illegalTransition
  | staleOwnerEpoch
  | crossRunReference
  | idempotencyConflict
  | projectionIntegrity
  | constraint
  deriving DecidableEq, Repr

structure JournalError where
  kind : TransitionErrorKind
  message : String
  deriving DecidableEq, Repr

structure TransitionTimestamp where
  wallTime : String
  monotonicElapsedNs : Option Nat
  deriving DecidableEq, Repr

inductive AttemptEvidenceState where
  | scheduled
  | leased
  | sending
  | acknowledged
  | rejected
  | timedOut
  | connectionFailed
  | protocolFailed
  | cancelled
  | unknownOutcome
  deriving DecidableEq, Repr

structure RequestMetadata where
  urlRedacted : String
  bodySha256 : String
  byteLength : Nat
  headerNames : List String
  deriving DecidableEq, Repr

structure ResponseMetadata where
  status : Nat
  bodySha256 : Option String
  capturedBytes : Nat
  truncated : Bool
  deriving DecidableEq, Repr

structure TransportError where
  category : String
  messageRedacted : String
  phase : Option String
  deriving DecidableEq, Repr

structure AttemptTransportEvidenceCommand where
  recordId : String
  scenarioId : String
  eventId : String
  deliveryId : String
  attemptId : String
  state : AttemptEvidenceState
  classification : AttemptClassification
  request : Option RequestMetadata
  response : Option ResponseMetadata
  error : Option TransportError
  responseHeadersElapsedNs : Option Nat
  deriving DecidableEq, Repr

/-- A retry condition by the two members that the claim reads, and its canonical text. -/
structure RetryCondition where
  predecessorAttemptId : String
  nextAttemptOrdinal : Nat
  text : String
  deriving DecidableEq, Repr

structure RetrySchedule where
  scheduleEntryId : String
  scenarioId : String
  entityType : String
  entityId : String
  logicalTimeNs : Int
  scenarioOrdinal : Nat
  stepOrdinal : Nat
  deliveryOrdinal : Nat
  attemptOrdinal : Nat
  deterministicTieKey : String
  idempotencyKey : String
  predecessorAttemptId : String
  condition : Option RetryCondition
  deriving DecidableEq, Repr

structure AttemptTerminalOutcome where
  classification : AttemptClassification
  retrySchedule : Option RetrySchedule
  deriving DecidableEq, Repr

structure AttemptResponseStagingCommand where
  terminalState : AttemptState
  terminalOutcome : AttemptTerminalOutcome
  transportEvidence : AttemptTransportEvidenceCommand
  deriving DecidableEq, Repr

structure AttemptPhaseEvidenceCommand where
  phase : AttemptPhaseEvidence
  requestBlobHash : Option String
  requestHeadersHash : Option String
  deriving DecidableEq, Repr

inductive DeliverySatisfactionKind where
  | attempt
  | assertionPolicy
  deriving DecidableEq, Repr

/-- One guarded transition; both states belong to the entity's own machine. -/
structure TransitionCommand where
  transitionId : String
  entityId : String
  expectedState : Option LifecycleState
  newState : LifecycleState
  triggerCategory : String
  timestamp : TransitionTimestamp
  ownerEpoch : Nat
  idempotencyKey : String
  causalReference : Option String
  logicalTimeNs : Option Int
  deliverySatisfaction : Option (DeliverySatisfactionKind × String)
  attemptOutcome : Option AttemptTerminalOutcome
  expected_typed : ∀ s, expectedState = some s → s.entityType = newState.entityType

def TransitionCommand.key (c : TransitionCommand) : EntityKey := ⟨c.newState.entityType, c.entityId⟩

structure TransitionRecord where
  transitionId : String
  sequence : Nat
  key : EntityKey
  fromState : Option LifecycleState
  toState : LifecycleState
  triggerCategory : String
  causalRecordId : Option String
  timestamp : TransitionTimestamp
  logicalTimeNs : Option Int
  ownerEpoch : Nat
  idempotencyKey : String
  deriving DecidableEq, Repr

def TransitionRecord.entry (r : TransitionRecord) : Ledger.Entry EntityKey LifecycleState :=
  ⟨r.key, r.fromState, r.toState⟩

section Rows

structure JournalRun where
  runId : String
  state : RunState
  ownerEpoch : Nat
  terminal : Option (ResultCategory × String)
  deriving DecidableEq, Repr

structure ScenarioRow where
  scenarioId : String
  ordinal : Nat
  state : ScenarioState
  deriving DecidableEq, Repr

structure DeliveryRow where
  deliveryId : String
  scenarioId : String
  eventId : String
  ordinal : Nat
  stepOrdinal : Nat
  required : Bool
  state : DeliveryState
  deriving DecidableEq, Repr

structure AttemptRow where
  attemptId : String
  scenarioId : String
  eventId : String
  deliveryId : String
  attemptPlanId : String
  ordinal : Nat
  state : AttemptState
  predecessorAttemptId : Option String
  ownerEpoch : Nat
  outcome : Option AttemptClassification
  terminalRecordedAt : Option String
  phase : Option AttemptPhaseEvidence
  requestBlobHash : Option String
  requestHeadersHash : Option String
  deriving DecidableEq, Repr

structure SeriesRow where
  observationId : String
  scenarioId : String
  eventId : Option String
  checkpoint : String
  observerId : String
  state : ObservationState
  deriving DecidableEq, Repr

/-- An assertion row; `allowsSkip` is what `_unsupported_policy_allows_skip` reads off its
policy. -/
structure AssertionRow where
  assertionId : String
  scenarioId : String
  type : String
  required : Bool
  allowsSkip : Bool
  state : AssertionState
  deriving DecidableEq, Repr

structure ScheduleRow where
  scheduleEntryId : String
  scenarioId : String
  entityType : String
  entityId : String
  logicalTimeNs : Int
  scenarioOrdinal : Nat
  stepOrdinal : Nat
  deliveryOrdinal : Nat
  attemptOrdinal : Nat
  deterministicTieKey : String
  condition : Option RetryCondition
  idempotencyKey : String
  consumed : Option (String × Nat)
  deriving DecidableEq, Repr

structure AttemptRecord where
  evidence : AttemptTransportEvidenceCommand
  sequence : Nat
  recordedAt : TransitionTimestamp
  logicalTimeNs : Option Int
  deriving DecidableEq, Repr

/-- The retry columns of a staged response; scenario, entity type and predecessor are not among
them. -/
structure StagedRetry where
  scheduleEntryId : String
  entityId : String
  logicalTimeNs : Int
  scenarioOrdinal : Nat
  stepOrdinal : Nat
  deliveryOrdinal : Nat
  attemptOrdinal : Nat
  deterministicTieKey : String
  idempotencyKey : String
  condition : Option RetryCondition
  deriving DecidableEq, Repr

structure ResponseStagingRow where
  evidence : AttemptTransportEvidenceCommand
  terminalState : AttemptState
  classification : AttemptClassification
  retry : Option StagedRetry
  deriving DecidableEq, Repr

structure SampleRow where
  sampleId : String
  recordId : String
  scenarioId : String
  observationId : String
  eventId : Option String
  observerId : String
  sampleSequence : Nat
  status : ObservationStatus
  recordedAt : String
  snapshotId : Option String
  evidence : String
  error : Option String
  deriving DecidableEq, Repr

structure EvaluationRow where
  evaluationId : String
  recordId : String
  scenarioId : String
  assertionId : String
  type : String
  evaluationSequence : Nat
  result : AssertionResult
  recordedAt : String
  expected : Option String
  actual : Option String
  comparison : Option String
  message : Option String
  evidence : List AssertionEvidenceReference
  deriving DecidableEq, Repr

inductive AmbiguityPolicy where
  | stop
  | observe
  | redeliver
  | operatorDecision
  deriving DecidableEq, Repr

inductive RecoveryDecisionKind where
  | stoppedAmbiguous
  | observationRequested
  | redeliveryCreated
  | operatorProcessed
  | operatorNotProcessed
  | operatorStillUnknown
  deriving DecidableEq, Repr

structure RecoveryDecisionPlan where
  decisionId : String
  scenarioId : String
  attemptId : String
  policy : AmbiguityPolicy
  decision : RecoveryDecisionKind
  reason : String
  recordedAt : String
  evidence : List (String × String)
  operatorIdentityFingerprint : Option String
  operatorInputDigest : Option String
  deriving DecidableEq, Repr

structure DecisionRow where
  plan : RecoveryDecisionPlan
  sequence : Nat
  deriving DecidableEq, Repr

structure Journal where
  run : JournalRun
  scenarios : Table ScenarioRow ScenarioRow.scenarioId
  deliveries : Table DeliveryRow DeliveryRow.deliveryId
  attempts : Table AttemptRow AttemptRow.attemptId
  series : Table SeriesRow SeriesRow.observationId
  assertions : Table AssertionRow AssertionRow.assertionId
  schedule : Table ScheduleRow ScheduleRow.scheduleEntryId
  transitions : List TransitionRecord
  staging : Table ResponseStagingRow fun r => r.evidence.attemptId
  attemptRecords : Table AttemptRecord fun r => r.evidence.recordId
  samples : Table SampleRow SampleRow.sampleId
  evaluations : Table EvaluationRow EvaluationRow.evaluationId
  decisions : Table DecisionRow fun r => r.plan.decisionId

end Rows

def Journal.state (j : Journal) (key : EntityKey) : Option LifecycleState :=
  match key.entityType with
  | .run => if key.entityId = j.run.runId then some (.run j.run.state) else none
  | .scenario => (j.scenarios.find key.entityId).map fun r => .scenario r.state
  | .delivery => (j.deliveries.find key.entityId).map fun r => .delivery r.state
  | .attempt => (j.attempts.find key.entityId).map fun r => .attempt r.state
  | .observation => (j.series.find key.entityId).map fun r => .observation r.state
  | .assertion => (j.assertions.find key.entityId).map fun r => .assertion r.state

def Journal.history (j : Journal) (key : EntityKey) : List TransitionRecord :=
  j.transitions.filter (·.key = key)

/-- `UPDATE … SET state`: the compare-and-swap cannot miss, the state was read just before. -/
def Journal.setState (j : Journal) (entityId : String) : LifecycleState → Journal
  | .run s => { j with run := { j.run with state := s } }
  | .scenario s =>
    { j with scenarios := j.scenarios.modify entityId (fun r => { r with state := s }) fun _ => rfl }
  | .delivery s =>
    { j with deliveries := j.deliveries.modify entityId (fun r => { r with state := s }) fun _ => rfl }
  | .attempt s =>
    { j with attempts := j.attempts.modify entityId (fun r => { r with state := s }) fun _ => rfl }
  | .observation s =>
    { j with series := j.series.modify entityId (fun r => { r with state := s }) fun _ => rfl }
  | .assertion s =>
    { j with assertions := j.assertions.modify entityId (fun r => { r with state := s }) fun _ => rfl }

section Guards

open TransitionErrorKind Checked

def illegal (message : String) : JournalError := ⟨illegalTransition, message⟩

def terminalAttemptStates : List AttemptState :=
  [.notSent, .succeeded, .rejected, .transportFailed, .unknownOutcome, .cancelled]

def retryPredecessorStates : List AttemptState :=
  [.notSent, .rejected, .transportFailed, .unknownOutcome]

def atomicRetryStates : List AttemptState := [.notSent, .rejected, .transportFailed]

def evidenceStatesByTerminalState : AttemptState → List AttemptEvidenceState
  | .notSent => [.connectionFailed, .protocolFailed]
  | .succeeded => [.acknowledged]
  | .rejected => [.rejected]
  | .transportFailed => [.timedOut, .connectionFailed, .protocolFailed]
  | .unknownOutcome => [.unknownOutcome]
  | .cancelled => [.cancelled]
  | _ => []

/-- The terminal attempt state that a command enters. -/
def TransitionCommand.terminalAttempt (c : TransitionCommand) : Option AttemptState :=
  match c.newState with
  | .attempt s => if s ∈ terminalAttemptStates then some s else none
  | _ => none

def DeliverySatisfactionKind.trigger : DeliverySatisfactionKind → String
  | .attempt => "attempt_outcome"
  | .assertionPolicy => "assertion_policy"

def validatePayloadScope (c : TransitionCommand) : Except JournalError Unit := do
  require (c.newState = .delivery .satisfied ↔ c.deliverySatisfaction.isSome)
    (illegal "delivery satisfaction evidence is required only for satisfied entry")
  require (∀ e ∈ c.deliverySatisfaction, c.causalReference = some e.2)
    (illegal "delivery satisfaction evidence must equal the transition cause")
  require (∀ e ∈ c.deliverySatisfaction, c.triggerCategory = e.1.trigger)
    (illegal "delivery satisfaction kind and trigger category disagree")
  require (c.terminalAttempt.isSome ↔ c.attemptOutcome.isSome)
    (illegal "terminal attempt transitions require exact outcome projection fields")
  require (∀ o ∈ c.attemptOutcome, ∀ r ∈ o.retrySchedule, r.predecessorAttemptId = c.entityId)
    (illegal "derived retry schedule predecessor must equal the terminal attempt")

def TransitionCommand.observesResponse (c : TransitionCommand) : Prop :=
  c.expectedState = some (.attempt .awaitingResponse) ∧ c.newState = .attempt .responseObserved

instance (c : TransitionCommand) : Decidable c.observesResponse :=
  inferInstanceAs (Decidable (_ ∧ _))

def validateResponseStagingPresence (c : TransitionCommand)
    (staging : Option AttemptResponseStagingCommand) : Except JournalError Unit := do
  require (c.observesResponse ↔ staging.isSome)
    (illegal "response-observed entry requires exactly one sanitized response staging record")
  require (∀ s ∈ staging, s.transportEvidence.attemptId = c.entityId)
    (illegal "staged response belongs to a different attempt")

def validateTransportEvidencePresence (c : TransitionCommand)
    (evidence : Option AttemptTransportEvidenceCommand) : Except JournalError Unit := do
  require (c.terminalAttempt.isSome ↔ evidence.isSome)
    (illegal "terminal attempt transitions require exactly one sanitized transport record")
  require (evidence.isSome → c.attemptOutcome.isSome)
    (illegal "terminal transport evidence requires an attempt outcome")
  require (∀ e ∈ evidence, e.attemptId = c.entityId)
    (illegal "transport evidence belongs to a different attempt")
  require (∀ e ∈ evidence, ∀ o ∈ c.attemptOutcome, e.classification = o.classification)
    (illegal "transport evidence classification differs from the terminal outcome")
  require (∀ e ∈ evidence, ∀ s ∈ c.terminalAttempt, e.state ∈ evidenceStatesByTerminalState s)
    (illegal "serialized evidence state is incompatible with terminal attempt state")

def requireCurrentOwner (j : Journal) (ownerEpoch : Nat) : Except JournalError Unit :=
  require (j.run.ownerEpoch = ownerEpoch) ⟨staleOwnerEpoch, "transition owner epoch is stale"⟩

def guardRunCompletion (j : Journal) : Except JournalError Unit :=
  require (∀ d ∈ j.deliveries.rows, d.required = true →
      d.state ∉ [.pending, .eligible, .active, .ambiguous])
    (illegal "run completion requires every required delivery to be terminal and unambiguous")

def AssertionRow.letsPass (a : AssertionRow) : Prop :=
  a.state = .passed ∨ a.state = .unsupported ∧ a.allowsSkip = true

instance (a : AssertionRow) : Decidable a.letsPass := inferInstanceAs (Decidable (_ ∨ _))

def Journal.guardScenarioPass (j : Journal) (scenarioId : String) : Except JournalError Unit :=
  require (∀ a ∈ j.assertions.rows, a.scenarioId = scenarioId → a.required = true → a.letsPass)
    (illegal "scenario pass requires every required assertion to pass or explicitly skip")

/-- A terminal attempt of the delivery whose durable outcome belongs to its state. -/
def requireRelatedAttempt (j : Journal) (cause : String) (delivery : DeliveryRow)
    (allowed : List AttemptState) : Except JournalError Unit :=
  match j.attempts.find cause with
  | none => .error (illegal "causal attempt does not exist")
  | some a => do
    require (a.scenarioId = delivery.scenarioId ∧ a.deliveryId = delivery.deliveryId)
      ⟨crossRunReference, "causal attempt is outside the delivery identity"⟩
    require (a.state ∈ allowed)
      (illegal "causal attempt outcome does not qualify for this transition")
    require (a.terminalRecordedAt.isSome ∧ a.outcome.isSome)
      ⟨projectionIntegrity, "causal terminal attempt is missing durable outcome evidence"⟩
    require (∀ o ∈ a.outcome, o ∈ classificationsByTerminalState a.state)
      ⟨projectionIntegrity,
        "causal terminal attempt state and outcome classification disagree"⟩

def requirePassedAssertion (j : Journal) (cause scenarioId : String) : Except JournalError Unit :=
  match j.assertions.find cause with
  | none => .error (illegal "delivery assertion-policy cause does not exist")
  | some a => do
    require (a.scenarioId = scenarioId)
      ⟨crossRunReference, "delivery assertion-policy cause is outside its scenario"⟩
    require (a.state = .passed) (illegal "delivery assertion-policy cause is not passed")

def guardDeliverySatisfaction (j : Journal) (delivery : DeliveryRow) :
    DeliverySatisfactionKind × String → Except JournalError Unit
  | (.attempt, cause) => requireRelatedAttempt j cause delivery [.succeeded]
  | (.assertionPolicy, cause) => requirePassedAssertion j cause delivery.scenarioId

def guardRetryPredecessor (j : Journal) (c : TransitionCommand) (delivery : DeliveryRow) :
    Except JournalError Unit :=
  match c.causalReference with
  | none => .error (illegal "retry eligibility requires an explicit predecessor outcome cause")
  | some cause => do
    require (c.triggerCategory = "retry_eligible")
      (illegal "retry eligibility requires an explicit predecessor outcome cause")
    requireRelatedAttempt j cause delivery retryPredecessorStates

end Guards

end WebhookConformance
