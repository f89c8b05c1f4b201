import WebhookConformance.Reporting
import WebhookConformance.Transition

/-! The operations of the journal: schedule claims and their rebinding, observations, evaluations,
the completion of a run and the two operations of a resume. Each is one transaction: an error
leaves the journal as it was. -/
namespace WebhookConformance

open TransitionErrorKind Checked

/-- A transition without attempt evidence. -/
def TransitionCommand.plain (c : TransitionCommand) : TransitionOperation := ⟨c, none, none, none⟩

section Claim

/-- The proof is the shape check of the claim transition. -/
structure AttemptScheduleClaim where
  scheduleEntryId : String
  attemptId : String
  attemptPlanId : String
  eventId : String
  deliveryId : String
  predecessorAttemptId : Option String
  condition : Option RetryCondition
  transition : TransitionCommand
  claim_edge : transition.entityId = attemptId ∧
    transition.expectedState = some (.attempt .scheduled) ∧
    transition.newState = .attempt .claimed ∧
    transition.causalReference = none ∧ transition.attemptOutcome = none

variable (j : Journal) (claim : AttemptScheduleClaim) (entry : ScheduleRow)

/-- The entry and the claim agree with the planned delivery. -/
def AttemptScheduleClaim.Places : Prop :=
  ∃ d ∈ j.deliveries.find claim.deliveryId, ∃ s ∈ j.scenarios.find d.scenarioId,
    d.scenarioId = entry.scenarioId ∧ d.eventId = claim.eventId ∧
      s.ordinal = entry.scenarioOrdinal ∧ d.stepOrdinal = entry.stepOrdinal ∧
      d.ordinal = entry.deliveryOrdinal

instance : Decidable (claim.Places j entry) := inferInstanceAs (Decidable (∃ d ∈ _, _))

/-- The predecessor is the terminal attempt before the scheduled one. -/
def AttemptScheduleClaim.Succeeds (prior : AttemptRow) : Prop :=
  prior.scenarioId = entry.scenarioId ∧ prior.eventId = claim.eventId ∧
    prior.deliveryId = claim.deliveryId ∧ prior.ordinal + 1 = entry.attemptOrdinal ∧
    prior.state ∈ retryPredecessorStates ∧ prior.outcome.isSome ∧ prior.terminalRecordedAt.isSome

instance (prior : AttemptRow) : Decidable (claim.Succeeds entry prior) :=
  inferInstanceAs (Decidable (_ ∧ _))

def validateRetryPredecessor (predecessor : String) : Except JournalError Unit :=
  match entry.condition with
  | none => .error (illegal "retry schedule requires condition and next ordinal")
  | some condition => do
    require (1 ≤ entry.attemptOrdinal)
      (illegal "retry schedule requires condition and next ordinal")
    require (predecessor ≠ claim.attemptId) (illegal "physical retry attempt must be distinct")
    require (condition.predecessorAttemptId = predecessor ∧
        condition.nextAttemptOrdinal = entry.attemptOrdinal)
      (illegal "retry condition identity differs from claim")
    require ((j.attempts.find predecessor).isSome) (illegal "retry predecessor does not exist")
    require (∀ prior ∈ j.attempts.find predecessor, claim.Succeeds entry prior)
      (illegal "retry predecessor identity or terminal outcome differs")

def validateClaimedPredecessor : Except JournalError Unit :=
  match claim.predecessorAttemptId with
  | none =>
    require (entry.condition = none ∧ entry.attemptOrdinal = 1)
      (illegal "only an initial attempt schedule may omit predecessor")
  | some predecessor => validateRetryPredecessor j claim entry predecessor

def validateAttemptScheduleClaim : Except JournalError Unit := do
  require (entry.entityType = "attempt" ∧ entry.entityId = claim.attemptPlanId ∧
      claim.transition.logicalTimeNs = some entry.logicalTimeNs ∧
      entry.condition = claim.condition)
    ⟨idempotencyConflict, "attempt schedule semantics differ from claim"⟩
  require ((j.deliveries.find claim.deliveryId).isSome)
    (illegal "attempt schedule delivery does not exist")
  require (claim.Places j entry)
    (illegal "attempt schedule ordering or delivery identity differs")
  validateClaimedPredecessor j claim entry

/-- The row of a freshly claimed attempt. -/
def claimedRow : AttemptRow :=
  { attemptId := claim.attemptId
    scenarioId := entry.scenarioId
    eventId := claim.eventId
    deliveryId := claim.deliveryId
    attemptPlanId := entry.entityId
    ordinal := entry.attemptOrdinal
    state := .scheduled
    predecessorAttemptId := claim.predecessorAttemptId
    ownerEpoch := claim.transition.ownerEpoch
    outcome := none
    terminalRecordedAt := none
    phase := none
    requestBlobHash := none
    requestHeadersHash := none }

/-- The columns that a prepared or claimed attempt shares with its claim. -/
structure AttemptIdentity where
  scenarioId : String
  eventId : String
  deliveryId : String
  attemptPlanId : String
  ordinal : Nat
  predecessorAttemptId : Option String
  ownerEpoch : Nat
  deriving DecidableEq, Repr

def AttemptRow.identity (row : AttemptRow) : AttemptIdentity :=
  ⟨row.scenarioId, row.eventId, row.deliveryId, row.attemptPlanId, row.ordinal,
    row.predecessorAttemptId, row.ownerEpoch⟩

/-- The keys of the planned delivery that an attempt row refers to. -/
def AttemptRow.OwnedBy (row : AttemptRow) (d : DeliveryRow) : Prop :=
  d.scenarioId = row.scenarioId ∧ d.eventId = row.eventId

instance (row : AttemptRow) (d : DeliveryRow) : Decidable (row.OwnedBy d) :=
  inferInstanceAs (Decidable (_ ∧ _))

/-- The predecessor of an attempt is an attempt of the same delivery. -/
def AttemptRow.Continues (row prior : AttemptRow) : Prop :=
  prior.scenarioId = row.scenarioId ∧ prior.eventId = row.eventId ∧
    prior.deliveryId = row.deliveryId

instance (row prior : AttemptRow) : Decidable (row.Continues prior) :=
  inferInstanceAs (Decidable (_ ∧ _))

def insertAttempt (row : AttemptRow) : Except JournalError Journal := do
  require (∃ d ∈ j.deliveries.find row.deliveryId, row.OwnedBy d)
    ⟨.constraint, "FOREIGN KEY constraint failed"⟩
  require (∀ id ∈ row.predecessorAttemptId, ∃ prior ∈ j.attempts.find id, row.Continues prior)
    ⟨.constraint, "FOREIGN KEY constraint failed"⟩
  require (∀ other ∈ j.attempts.rows,
      ¬ (other.deliveryId = row.deliveryId ∧ other.ordinal = row.ordinal))
    ⟨.constraint, "UNIQUE constraint failed"⟩
  let attempts ← insertRow j.attempts row
  return { j with attempts }

def insertClaimedAttempt : Except JournalError Journal :=
  match j.attempts.find claim.attemptId with
  | some prepared => do
    require (prepared.identity = (claimedRow claim entry).identity ∧ prepared.state = .scheduled)
      ⟨idempotencyConflict, "prepared physical attempt differs from its schedule claim"⟩
    return j
  | none => insertAttempt j (claimedRow claim entry)

/-- A claim names its transition, whatever epoch it was committed in. -/
def TransitionRecord.Claims (existing : TransitionRecord) (c : TransitionCommand) : Prop :=
  { existing with ownerEpoch := c.ownerEpoch, timestamp := c.timestamp } =
      recordFromCommand c existing.sequence ∧
    existing.ownerEpoch ≤ c.ownerEpoch

instance (existing : TransitionRecord) (c : TransitionCommand) : Decidable (existing.Claims c) :=
  inferInstanceAs (Decidable (_ ∧ _))

def verifiedClaimTransition : Except JournalError TransitionRecord :=
  match j.transitions.find? (·.idempotencyKey = claim.transition.idempotencyKey) with
  | none =>
    .error ⟨idempotencyConflict,
      "rebound claim differs from its durable scheduled-to-claimed transition"⟩
  | some existing => do
    require (existing.Claims claim.transition)
      ⟨idempotencyConflict,
        "rebound claim differs from its durable scheduled-to-claimed transition"⟩
    return existing

def replayClaim (consumedEpoch : Nat) : Except JournalError (Journal × CommittedTransition) := do
  require (consumedEpoch = claim.transition.ownerEpoch)
    ⟨idempotencyConflict, "attempt schedule was consumed by another owner"⟩
  require (∃ row ∈ j.attempts.find claim.attemptId,
      row.identity = (claimedRow claim entry).identity)
    ⟨idempotencyConflict, "consumed schedule attempt differs from replay"⟩
  let existing ← verifiedClaimTransition j claim
  return (j, ⟨existing, true⟩)

def consumeSchedule : Journal :=
  { j with
    schedule := j.schedule.modify claim.scheduleEntryId
      (fun r => { r with
        consumed := some (claim.transition.timestamp.wallTime, claim.transition.ownerEpoch) })
      fun _ => rfl }

def commitClaim : Except JournalError (Journal × CommittedTransition) := do
  let inserted ← insertClaimedAttempt (consumeSchedule j claim) claim entry
  applyTransition inserted claim.transition.plain

def claimEntry : Except JournalError (Journal × CommittedTransition) := do
  validateAttemptScheduleClaim j claim entry
  match entry.consumed with
  | none => commitClaim j claim entry
  | some (_, consumedEpoch) => replayClaim j claim entry consumedEpoch

/-- `_ClaimAttemptScheduleOperation.execute`. -/
def claimAttemptSchedule : Except JournalError (Journal × CommittedTransition) := do
  requireCurrentOwner j claim.transition.ownerEpoch
  match j.schedule.find claim.scheduleEntryId with
  | none => .error (illegal "attempt schedule does not exist")
  | some entry => claimEntry j claim entry

end Claim

section Rebind

variable (j : Journal)

/-- The schedule entries of an attempt, through its delivery. -/
def schedulesOf (row : AttemptRow) : List ScheduleRow :=
  j.schedule.rows.filter fun e =>
    e.scenarioId = row.scenarioId ∧ e.entityType = "attempt" ∧ e.entityId = row.attemptPlanId ∧
      (j.deliveries.find row.deliveryId).map DeliveryRow.ordinal = some e.deliveryOrdinal ∧
      e.attemptOrdinal = row.ordinal

def rebindSchedule (row : AttemptRow) (entry : ScheduleRow) (ownerEpoch : Nat) :
    Except JournalError Journal :=
  match entry.consumed with
  | none => .error ⟨projectionIntegrity, "claimed attempt lacks durable schedule consumption"⟩
  | some (consumedAt, consumedEpoch) => do
    require (consumedEpoch = row.ownerEpoch)
      ⟨projectionIntegrity, "claimed attempt and consumed schedule owners disagree"⟩
    return { j with
      schedule := j.schedule.modify entry.scheduleEntryId
        (fun r => { r with consumed := some (consumedAt, ownerEpoch) }) fun _ => rfl }

def rebindEntry (row : AttemptRow) (entry : ScheduleRow) (ownerEpoch : Nat) :
    Except JournalError Journal :=
  if row.state = .scheduled then do
    require (entry.consumed = none)
      ⟨projectionIntegrity, "scheduled attempt has a consumed schedule"⟩
    return j
  else rebindSchedule j row entry ownerEpoch

def rebindRow (row : AttemptRow) (expectedState : AttemptState) (ownerEpoch : Nat) :
    Except JournalError Journal :=
  match schedulesOf j row with
  | [entry] => do
    require (row.state = expectedState)
      (illegal "recoverable attempt changed state before lease rebind")
    require (row.ownerEpoch ≤ ownerEpoch)
      ⟨staleOwnerEpoch, "recoverable attempt belongs to a newer owner"⟩
    let rebound ← rebindEntry j row entry ownerEpoch
    return { rebound with
      attempts := rebound.attempts.modify row.attemptId (fun r => { r with ownerEpoch }) fun _ => rfl }
  | _ => .error ⟨projectionIntegrity, "recoverable attempt must have exactly one matching schedule"⟩

/-- `_RebindRecoverableAttemptOperation.execute`, for the two states that may be rebound. -/
def rebindRecoverableAttempt (attemptId : String) (expectedState : AttemptState)
    (ownerEpoch : Nat) : Except JournalError Journal := do
  require (expectedState = .scheduled ∨ expectedState = .claimed)
    (illegal "only scheduled or claimed attempts can be rebound")
  require (j.run.ownerEpoch = ownerEpoch)
    ⟨staleOwnerEpoch, "recovery lease rebind used a stale owner epoch"⟩
  match j.attempts.find attemptId with
  | none =>
    .error ⟨projectionIntegrity, "recoverable attempt must have exactly one matching schedule"⟩
  | some row => rebindRow j row expectedState ownerEpoch

end Rebind

section Observations

/-- The proof is the shape check of the two transitions. -/
structure ObservationSeriesCommand where
  scenarioId : String
  observationId : String
  observerId : String
  checkpoint : String
  eventId : Option String
  initialTransition : TransitionCommand
  runningTransition : TransitionCommand
  initial_edge : initialTransition.entityId = observationId ∧
    initialTransition.expectedState = none ∧
    initialTransition.newState = .observation .scheduled
  running_edge : runningTransition.entityId = observationId ∧
    runningTransition.expectedState = some (.observation .scheduled) ∧
    runningTransition.newState = .observation .running ∧
    runningTransition.ownerEpoch = initialTransition.ownerEpoch

variable (j : Journal)

def ObservationSeriesCommand.row (c : ObservationSeriesCommand) : SeriesRow :=
  ⟨c.observationId, c.scenarioId, c.eventId, c.checkpoint, c.observerId, .scheduled⟩

def insertSeries (c : ObservationSeriesCommand) : Except JournalError Journal :=
  match j.series.find c.observationId with
  | none => do
    require (∀ s ∈ j.series.rows, ¬ (s.scenarioId = c.scenarioId ∧ s.checkpoint = c.checkpoint ∧
        s.observerId = c.observerId ∧ s.eventId = c.eventId))
      ⟨idempotencyConflict, "observation scope already belongs to a different observation_id"⟩
    require ((j.scenarios.find c.scenarioId).isSome) ⟨.constraint, "FOREIGN KEY constraint failed"⟩
    let series ← insertRow j.series c.row
    return { j with series }
  | some existing => do
    require ({ existing with state := .scheduled } = c.row)
      ⟨idempotencyConflict, "observation series identity differs from its replay"⟩
    return j

/-- `_BeginObservationSeriesOperation.execute`. -/
def beginSeries (c : ObservationSeriesCommand) :
    Except JournalError (Journal × CommittedTransition × CommittedTransition) := do
  requireCurrentOwner j c.initialTransition.ownerEpoch
  let inserted ← insertSeries j c
  let (scheduled, initial) ← applyTransition inserted c.initialTransition.plain
  let (running, started) ← applyTransition scheduled c.runningTransition.plain
  return (running, initial, started)

def terminalObservationStates : ObservationStatus → List ObservationState
  | .ok => [.ok]
  | .pending => [.pending]
  | .unsupported => [.unsupported]
  | .error => [.error, .cancelled]
  | .timeout => [.timedOut]

/-- The proof is the shape check against the sample. -/
structure ObservationSampleCommand where
  record : SampleRow
  ownerEpoch : Nat
  terminalTransition : Option TransitionCommand
  open_status : terminalTransition = none → record.status ∈ [.ok, .pending, .error]
  terminal_edge : ∀ t, terminalTransition = some t → t.entityId = record.observationId ∧
    t.expectedState = some (.observation .running) ∧ t.ownerEpoch = ownerEpoch ∧
    t.causalReference = some record.recordId ∧
    ∃ s ∈ terminalObservationStates record.status, t.newState = .observation s

def applyTerminal : Option TransitionCommand → Except JournalError Journal
  | none => .ok j
  | some t => do
    let (applied, _) ← applyTransition j t.plain
    return applied

def insertSample (record : SampleRow) (series : SeriesRow) : Except JournalError Journal :=
  match j.samples.rows.filter fun s => s.sampleId = record.sampleId ∨ s.recordId = record.recordId with
  | [] => do
    require (series.state = .running)
      (illegal "new samples require a running observation series")
    require (record.sampleSequence = nextSequence ((j.samples.rows.filter
        (·.observationId = record.observationId)).map SampleRow.sampleSequence))
      ⟨idempotencyConflict, "observation sample sequence is not the next value"⟩
    let samples ← insertRow j.samples record
    return { j with samples }
  | [existing] => do
    require (existing = record)
      ⟨idempotencyConflict, "observation sample replay differs from durable evidence"⟩
    return j
  | _ => .error ⟨idempotencyConflict, "sample_id and record_id name different samples"⟩

/-- `_AppendObservationSampleOperation.execute`. -/
def appendSample (c : ObservationSampleCommand) : Except JournalError Journal := do
  require (j.run.ownerEpoch = c.ownerEpoch) ⟨staleOwnerEpoch, "observation owner epoch is stale"⟩
  match j.series.find c.record.observationId with
  | none => .error (illegal "observation sample series does not exist")
  | some series => do
    require (series.scenarioId = c.record.scenarioId ∧ series.eventId = c.record.eventId ∧
        series.observerId = c.record.observerId)
      ⟨crossRunReference, "observation sample scope differs from its series"⟩
    let inserted ← insertSample j c.record series
    applyTerminal inserted c.terminalTransition

end Observations

section Evaluations

/-- The proofs are the checks of `AssertionEvaluationCommand.__post_init__`. -/
structure AssertionEvaluationCommand where
  evaluation : EvaluationRow
  terminalTransition : TransitionCommand
  evidence_nonempty : evaluation.evidence ≠ []
  evidence_nodup : evaluation.evidence.Nodup
  terminal_edge : terminalTransition.entityId = evaluation.assertionId ∧
    terminalTransition.expectedState = some (.assertion .running) ∧
    terminalTransition.triggerCategory = "assertion_evaluation" ∧
    terminalTransition.causalReference = some evaluation.recordId ∧
    terminalTransition.attemptOutcome = none ∧
    terminalTransition.timestamp.wallTime = evaluation.recordedAt
  terminal_state : ∃ s ∈ allowedStates evaluation.result,
    terminalTransition.newState = .assertion s

variable (j : Journal)

/-- The stored row that a reference names; artifacts are not in this model, so a link to one is
never found. -/
def Journal.HasEvidence (reference : AssertionEvidenceReference) : Prop :=
  match reference.kind with
  | .attempt => (j.attempts.find reference.evidenceId).isSome
  | .observation => (j.series.find reference.evidenceId).isSome ∨
      (j.samples.find reference.evidenceId).isSome
  | .record => (j.attemptRecords.find reference.evidenceId).isSome ∨
      (∃ s ∈ j.samples.rows, s.recordId = reference.evidenceId) ∨
      ∃ e ∈ j.evaluations.rows, e.recordId = reference.evidenceId
  | .artifact => False
  | .transition => ∃ t ∈ j.transitions, t.transitionId = reference.evidenceId
  | .recoveryDecision => (j.decisions.find reference.evidenceId).isSome

instance (reference : AssertionEvidenceReference) : Decidable (j.HasEvidence reference) := by
  unfold Journal.HasEvidence
  cases reference.kind <;> infer_instance

def validateAssertionEvaluationIdentity (evaluation : EvaluationRow) :
    Except JournalError Unit :=
  match j.assertions.find evaluation.assertionId with
  | none => .error (illegal "assertion evaluation target does not exist")
  | some a => do
    require (a.scenarioId = evaluation.scenarioId)
      ⟨crossRunReference, "assertion evaluation target has a different scope"⟩
    require (a.type = evaluation.type)
      ⟨idempotencyConflict, "assertion evaluation type differs from its projection"⟩
    require (a.state = .running) (illegal "new assertion evaluations require a running assertion")

def insertEvaluation (evaluation : EvaluationRow) : Except JournalError Journal := do
  validateAssertionEvaluationIdentity j evaluation
  require (evaluation.evaluationSequence = nextSequence ((j.evaluations.rows.filter
      (·.assertionId = evaluation.assertionId)).map EvaluationRow.evaluationSequence))
    ⟨idempotencyConflict, "assertion evaluation sequence is not the next value"⟩
  require (∀ reference ∈ evaluation.evidence, j.HasEvidence reference)
    ⟨crossRunReference, "assertion evaluation references missing or cross-run evidence"⟩
  let evaluations ← insertRow j.evaluations evaluation
  return { j with evaluations }

/-- The row is new, or it repeats the one stored under its evaluation and record ids. -/
def appendEvaluationRow (evaluation : EvaluationRow) : Except JournalError Journal :=
  match j.evaluations.rows.filter fun e =>
      e.evaluationId = evaluation.evaluationId ∨ e.recordId = evaluation.recordId with
  | [] => insertEvaluation j evaluation
  | [existing] => do
    -- the type is a column of the assertion, not of its evaluation
    require ({ existing with type := evaluation.type, evidence := evaluation.evidence } = evaluation)
      ⟨idempotencyConflict, "assertion evaluation replay differs"⟩
    require (existing.evidence = evaluation.evidence)
      ⟨idempotencyConflict, "assertion evidence-link replay differs"⟩
    return j
  | _ =>
    .error ⟨idempotencyConflict,
      "evaluation_id and record_id name different assertion evaluations"⟩

/-- `_AppendAssertionEvaluationOperation.execute`. -/
def appendEvaluation (c : AssertionEvaluationCommand) :
    Except JournalError (Journal × CommittedTransition) := do
  requireCurrentOwner j c.terminalTransition.ownerEpoch
  let appended ← appendEvaluationRow j c.evaluation
  applyTransition appended c.terminalTransition.plain

end Evaluations

section Completion

def runStateByResult : ResultCategory → RunState
  | .pass => .completed
  | .receiverFailure => .completed
  | .environmentError => .completed
  | .unsupported => .completed
  | .ambiguous => .paused
  | .cancelled => .cancelled
  | .harnessError => .failed
  | .invalidInput => .failed

/-- The proofs are the checks of `FullRunCompletionRequest.__post_init__`. -/
structure FullRunCompletionRequest where
  ownerEpoch : Nat
  resultCategory : ResultCategory
  completedAt : String
  transition : TransitionCommand
  category_terminal : resultCategory ≠ .ambiguous
  completion_edge : transition.expectedState = some (.run .running) ∧
    transition.newState = .run (runStateByResult resultCategory) ∧
    transition.ownerEpoch = ownerEpoch

variable (j : Journal)

def setTerminal (category : ResultCategory) (completedAt : String) : Except JournalError Journal := do
  require (j.run.terminal = none ∨ j.run.terminal = some (category, completedAt))
    ⟨.constraint, "run terminal metadata conflicts with durable completion"⟩
  return { j with run := { j.run with terminal := some (category, completedAt) } }

/-- `_FinalizeFullRunOperation.execute`. -/
def finalizeRun (request : FullRunCompletionRequest) : Except JournalError Journal := do
  let (applied, _) ← applyTransition j request.transition.plain
  setTerminal applied request.resultCategory request.completedAt

end Completion

section Resume

/-- The proofs are the checks of `RedeliveryAttemptPlan.__post_init__`. -/
structure RedeliveryAttemptPlan where
  scenarioId : String
  eventId : String
  deliveryId : String
  predecessorAttemptId : String
  attemptId : String
  attemptPlanId : String
  attemptOrdinal : Nat
  schedule : ScheduleRow
  distinct : attemptId ≠ predecessorAttemptId
  schedule_identity : schedule.entityId = attemptPlanId ∧ schedule.attemptOrdinal = attemptOrdinal
  deriving DecidableEq, Repr

structure ResumePolicyPlan where
  ownerEpoch : Nat
  decisions : List RecoveryDecisionPlan
  redeliveries : List RedeliveryAttemptPlan
  deriving DecidableEq, Repr

variable (j : Journal)

/-- `_AdvanceOwnerEpoch.execute`. -/
def advanceOwnerEpoch (previousOwnerEpoch newOwnerEpoch : Nat) : Except JournalError Journal := do
  require (newOwnerEpoch = previousOwnerEpoch + 1)
    ⟨staleOwnerEpoch, "resume owner epoch must advance exactly once"⟩
  require (j.run.ownerEpoch = previousOwnerEpoch)
    ⟨staleOwnerEpoch, "durable owner epoch changed before resume acquisition committed"⟩
  return { j with run := { j.run with ownerEpoch := newOwnerEpoch } }

def insertDecision (j : Journal) (plan : RecoveryDecisionPlan) : Except JournalError Journal := do
  let sequence := nextSequence (j.decisions.rows.map DecisionRow.sequence)
  let decisions ← insertRow j.decisions ⟨plan, sequence⟩
  return { j with decisions }

def RedeliveryAttemptPlan.row (r : RedeliveryAttemptPlan) (ownerEpoch : Nat) : AttemptRow :=
  { attemptId := r.attemptId
    scenarioId := r.scenarioId
    eventId := r.eventId
    deliveryId := r.deliveryId
    attemptPlanId := r.attemptPlanId
    ordinal := r.attemptOrdinal
    state := .scheduled
    predecessorAttemptId := some r.predecessorAttemptId
    ownerEpoch
    outcome := none
    terminalRecordedAt := none
    phase := none
    requestBlobHash := none
    requestHeadersHash := none }

def RedeliveryAttemptPlan.scheduleRow (r : RedeliveryAttemptPlan) : ScheduleRow :=
  { r.schedule with scenarioId := r.scenarioId, entityType := "attempt", consumed := none }

def insertRedelivery (ownerEpoch : Nat) (j : Journal) (r : RedeliveryAttemptPlan) :
    Except JournalError Journal := do
  require (∃ a ∈ j.attempts.find r.predecessorAttemptId,
      a.scenarioId = r.scenarioId ∧ a.state = .unknownOutcome)
    ⟨projectionIntegrity, "redelivery predecessor is not a preserved unknown_outcome"⟩
  let inserted ← insertAttempt j (r.row ownerEpoch)
  insertScheduleRow inserted r.scheduleRow

def verifyPolicyReplay (plan : ResumePolicyPlan) : Except JournalError Unit := do
  require (∀ d ∈ plan.decisions, (j.decisions.find d.decisionId).map DecisionRow.plan = some d)
    ⟨projectionIntegrity, "replayed recovery decision differs from durable evidence"⟩
  require (∀ r ∈ plan.redeliveries, ∃ a ∈ j.attempts.find r.attemptId,
      a.identity = (r.row plan.ownerEpoch).identity ∧ a.state = .scheduled)
    ⟨projectionIntegrity, "replayed redelivery attempt differs"⟩
  require (∀ r ∈ plan.redeliveries, ∃ e ∈ j.schedule.find r.schedule.scheduleEntryId,
      { e with consumed := none } = r.scheduleRow)
    ⟨projectionIntegrity, "replayed redelivery schedule differs"⟩

def writePolicy (plan : ResumePolicyPlan) : Except JournalError (Journal × Bool) := do
  let decided ← runAll insertDecision j plan.decisions
  let redelivered ← runAll (insertRedelivery plan.ownerEpoch) decided plan.redeliveries
  return (redelivered, true)

def existingDecisions (plan : ResumePolicyPlan) : List RecoveryDecisionPlan :=
  plan.decisions.filter fun d => (j.decisions.find d.decisionId).isSome

/-- `_CommitPolicy.execute`: the flag says whether the plan was applied now. -/
def commitPolicy (plan : ResumePolicyPlan) : Except JournalError (Journal × Bool) := do
  require (j.run.ownerEpoch = plan.ownerEpoch)
    ⟨staleOwnerEpoch, "resume journal operation used a stale owner epoch"⟩
  if existingDecisions j plan = [] then
    writePolicy j plan
  else do
    require (existingDecisions j plan = plan.decisions)
      ⟨projectionIntegrity, "policy commit contains a partial idempotent replay"⟩
    verifyPolicyReplay j plan
    return (j, false)

end Resume

/-- One transaction of the journal. -/
inductive JournalOperation where
  | transition (op : TransitionOperation)
  | claim (claim : AttemptScheduleClaim)
  | rebind (attemptId : String) (expectedState : AttemptState) (ownerEpoch : Nat)
  | beginSeries (command : ObservationSeriesCommand)
  | appendSample (command : ObservationSampleCommand)
  | appendEvaluation (command : AssertionEvaluationCommand)
  | finalizeRun (request : FullRunCompletionRequest)
  | advanceOwnerEpoch (previousOwnerEpoch newOwnerEpoch : Nat)
  | commitPolicy (plan : ResumePolicyPlan)

def Journal.execute (j : Journal) : JournalOperation → Except JournalError Journal
  | .transition op => Prod.fst <$> applyTransition j op
  | .claim c => Prod.fst <$> claimAttemptSchedule j c
  | .rebind attemptId expectedState ownerEpoch =>
    rebindRecoverableAttempt j attemptId expectedState ownerEpoch
  | .beginSeries c => Prod.fst <$> WebhookConformance.beginSeries j c
  | .appendSample c => WebhookConformance.appendSample j c
  | .appendEvaluation c => Prod.fst <$> WebhookConformance.appendEvaluation j c
  | .finalizeRun r => WebhookConformance.finalizeRun j r
  | .advanceOwnerEpoch old new => WebhookConformance.advanceOwnerEpoch j old new
  | .commitPolicy plan => Prod.fst <$> WebhookConformance.commitPolicy j plan

end WebhookConformance
