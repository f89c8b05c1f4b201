import WebhookConformance.Journal

/-! The transition operation: `_ApplyTransitionOperation` with the evidence it commits. -/
namespace WebhookConformance

open TransitionErrorKind Checked

/-- What one transaction applies. -/
structure TransitionOperation where
  command : TransitionCommand
  phaseEvidence : Option AttemptPhaseEvidenceCommand
  responseStaging : Option AttemptResponseStagingCommand
  transportEvidence : Option AttemptTransportEvidenceCommand

section Validate

variable (j : Journal) (c : TransitionCommand)

def validateProjectionAndEdge (state : LifecycleState) : Except JournalError Unit :=
  match c.expectedState with
  | none => do
    require (c.newState = initialState c.key.entityType ∧ state = c.newState)
      (illegal "initial transition does not match the existing initial projection")
    require (j.history c.key = [])
      (illegal "initial transition history already exists for this entity")
  | some expected => do
    require (state = expected)
      (illegal "transition expected prior state differs from the projection")
    require (transitionAllowed expected c.newState = true)
      (illegal "transition edge is absent from the authoritative state table")

/-- The schedule names the attempt after this one of the same delivery. -/
def RetrySchedule.Follows (r : RetrySchedule) (row : AttemptRow) : Prop :=
  r.predecessorAttemptId = row.attemptId ∧ r.scenarioId = row.scenarioId ∧
    r.entityType = "attempt" ∧ r.attemptOrdinal = row.ordinal + 1 ∧
    (j.scenarios.find row.scenarioId).map ScenarioRow.ordinal = some r.scenarioOrdinal ∧
    (j.deliveries.find row.deliveryId).map (fun d => (d.stepOrdinal, d.ordinal)) =
      some (r.stepOrdinal, r.deliveryOrdinal)

instance (r : RetrySchedule) (row : AttemptRow) : Decidable (r.Follows j row) :=
  inferInstanceAs (Decidable (_ ∧ _))

def validateRetryScheduleIdentity (row : AttemptRow) (state : AttemptState) :
    Except JournalError Unit :=
  require (∀ o ∈ c.attemptOutcome, ∀ r ∈ o.retrySchedule,
      state ∈ atomicRetryStates ∧ r.Follows j row)
    (illegal "derived retry schedule does not match the terminal attempt identity")

def guardTerminalAttempt (row : AttemptRow) (state : AttemptState) : Except JournalError Unit := do
  require (∃ o ∈ c.attemptOutcome, o.classification ∈ classificationsByTerminalState state)
    (illegal "attempt terminal classification is incompatible with its state")
  require (row.outcome = none ∧ row.terminalRecordedAt = none)
    ⟨projectionIntegrity, "attempt already contains terminal outcome projection fields"⟩
  validateRetryScheduleIdentity j c row state

def guardDelivery (row : DeliveryRow) (state : DeliveryState) : Except JournalError Unit :=
  if state = .satisfied then
    match c.deliverySatisfaction with
    | some evidence => guardDeliverySatisfaction j row evidence
    | none => .error (illegal "delivery satisfaction evidence is required only for satisfied entry")
  else if c.expectedState = some (.delivery .active) ∧ state = .eligible then
    guardRetryPredecessor j c row
  else .ok ()

def missingEntity : JournalError := illegal "transition entity does not exist"

def validateTransitionGuards : Except JournalError Unit :=
  match c.newState with
  | .run state =>
    if c.expectedState = some (.run .running) ∧ state = .completed then guardRunCompletion j
    else .ok ()
  | .scenario state => if state = .passed then j.guardScenarioPass c.entityId else .ok ()
  | .delivery state =>
    match j.deliveries.find c.entityId with
    | none => .error missingEntity
    | some row => guardDelivery j c row state
  | .attempt state =>
    match j.attempts.find c.entityId with
    | none => .error missingEntity
    | some row => if state ∈ terminalAttemptStates then guardTerminalAttempt j c row state else .ok ()
  | .observation _ => .ok ()
  | .assertion _ => .ok ()

def validateTransportEvidenceIdentity (evidence : AttemptTransportEvidenceCommand) :
    Except JournalError Unit :=
  match j.attempts.find c.entityId with
  | none => .error (illegal "transport evidence attempt does not exist")
  | some a => do
    require ((a.scenarioId, a.eventId, a.deliveryId) =
        (evidence.scenarioId, evidence.eventId, evidence.deliveryId))
      ⟨crossRunReference, "transport evidence identity differs from the physical attempt"⟩
    require (∀ r ∈ j.attemptRecords.rows, r.evidence.attemptId ≠ c.entityId)
      ⟨projectionIntegrity,
        "physical attempt already has a final record without this transition"⟩
    require (j.attemptRecords.find evidence.recordId = none)
      ⟨idempotencyConflict, "transport record_id already names another final attempt record"⟩

def RetrySchedule.staged (r : RetrySchedule) : StagedRetry :=
  ⟨r.scheduleEntryId, r.entityId, r.logicalTimeNs, r.scenarioOrdinal, r.stepOrdinal,
    r.deliveryOrdinal, r.attemptOrdinal, r.deterministicTieKey, r.idempotencyKey, r.condition⟩

/-- `_attempt_response_staging_values`. -/
def AttemptResponseStagingCommand.row (s : AttemptResponseStagingCommand) : ResponseStagingRow :=
  ⟨s.transportEvidence, s.terminalState, s.terminalOutcome.classification,
    s.terminalOutcome.retrySchedule.map RetrySchedule.staged⟩

/-- The reduction of an observed response. -/
def TransitionCommand.reducesResponse : Prop :=
  c.expectedState = some (.attempt .responseObserved) ∧ c.terminalAttempt.isSome

instance : Decidable c.reducesResponse := inferInstanceAs (Decidable (_ ∧ _))

def validateTerminalResponseStaging (evidence : Option AttemptTransportEvidenceCommand) :
    Except JournalError Unit :=
  if c.reducesResponse then
    match c.terminalAttempt, c.attemptOutcome, evidence with
    | some state, some outcome, some e =>
      require (j.staging.find c.entityId = some (AttemptResponseStagingCommand.mk state outcome e).row)
        ⟨projectionIntegrity,
          "terminal response reduction differs from durable staged evidence"⟩
    | _, _, _ => .error (illegal "response reduction requires its staged terminal evidence")
  else .ok ()

end Validate

section Persist

def phaseEdges : AttemptPhaseEvidence → List (AttemptState × AttemptState)
  | .controlledPreTransport =>
    [(.claimed, .preSendCommitted), (.claimed, .notSent), (.preSendCommitted, .notSent)]
  | .noConnectionEstablished => [(.connecting, .notSent)]
  | .connectionAttemptStarted => [(.preSendCommitted, .connecting), (.connecting, .unknownOutcome)]
  | .requestSendStarted => [(.connecting, .sending), (.sending, .unknownOutcome)]
  | .awaitingResponse => [(.sending, .awaitingResponse), (.awaitingResponse, .unknownOutcome)]
  | .responseObserved =>
    [(.awaitingResponse, .responseObserved), (.responseObserved, .succeeded),
     (.responseObserved, .rejected), (.responseObserved, .transportFailed)]

variable (j : Journal) (c : TransitionCommand)

def validatePhaseEdge (evidence : AttemptPhaseEvidenceCommand) : Except JournalError Unit :=
  match c.expectedState, c.newState with
  | some (.attempt old), .attempt new => do
    require ((old, new) ∈ phaseEdges evidence.phase)
      (illegal "phase evidence is incompatible with attempt edge")
    require (old = .claimed → new = .preSendCommitted →
        evidence.requestBlobHash.isSome ∧ evidence.requestHeadersHash.isSome)
      (illegal "pre-send commit requires both request digests")
  | _, _ => .error (illegal "phase evidence is incompatible with attempt edge")

/-- A digest may be set once, and repeated. -/
def compatibleDigest (stored supplied : Option String) : Prop :=
  stored = none ∨ stored = supplied ∨ supplied = none

instance (stored supplied : Option String) : Decidable (compatibleDigest stored supplied) :=
  inferInstanceAs (Decidable (_ ∨ _ ∨ _))

def AttemptRow.Compatible (row : AttemptRow) (evidence : AttemptPhaseEvidenceCommand) : Prop :=
  compatibleDigest row.requestBlobHash evidence.requestBlobHash ∧
    compatibleDigest row.requestHeadersHash evidence.requestHeadersHash

instance (row : AttemptRow) (evidence : AttemptPhaseEvidenceCommand) :
    Decidable (row.Compatible evidence) :=
  inferInstanceAs (Decidable (_ ∧ _))

def AttemptRow.withPhase (row : AttemptRow) (evidence : AttemptPhaseEvidenceCommand) : AttemptRow :=
  { row with
    phase := some evidence.phase
    requestBlobHash := evidence.requestBlobHash.or row.requestBlobHash
    requestHeadersHash := evidence.requestHeadersHash.or row.requestHeadersHash }

def persistAttemptPhaseEvidence : Option AttemptPhaseEvidenceCommand → Except JournalError Journal
  | none => .ok j
  | some evidence => do
    validatePhaseEdge c evidence
    require (∃ row ∈ j.attempts.find c.entityId, row.Compatible evidence)
      ⟨idempotencyConflict, "attempt phase evidence conflicts with durable evidence"⟩
    return { j with attempts := j.attempts.modify c.entityId (·.withPhase evidence) fun _ => rfl }

def insertRow {α κ : Type} [DecidableEq κ] {key : α → κ} (t : Table α key) (row : α) :
    Except JournalError (Table α key) :=
  match t.insert row with
  | none => .error ⟨.constraint, "UNIQUE constraint failed"⟩
  | some t => .ok t

def persistAttemptResponseStaging :
    Option AttemptResponseStagingCommand → Except JournalError Journal
  | none => .ok j
  | some staging => do
    validateResponseStagingPresence c (some staging)
    validateTransportEvidenceIdentity j c staging.transportEvidence
    let staged ← insertRow j.staging staging.row
    return { j with staging := staged }

/-- `COALESCE(MAX(sequence), 0) + 1`. -/
def nextSequence (sequences : List Nat) : Nat := sequences.foldr max 0 + 1

def insertAttemptRecord : Option AttemptTransportEvidenceCommand → Except JournalError Journal
  | none => .ok j
  | some evidence => do
    let sequence := nextSequence (j.attemptRecords.rows.map AttemptRecord.sequence)
    require (sequence ≤ maxSafeInteger)
      ⟨projectionIntegrity, "attempt record sequence exceeds the journal boundary"⟩
    let records ← insertRow j.attemptRecords ⟨evidence, sequence, c.timestamp, c.logicalTimeNs⟩
    return { j with attemptRecords := records }

def RetrySchedule.row (r : RetrySchedule) : ScheduleRow :=
  ⟨r.scheduleEntryId, r.scenarioId, r.entityType, r.entityId, r.logicalTimeNs, r.scenarioOrdinal,
    r.stepOrdinal, r.deliveryOrdinal, r.attemptOrdinal, r.deterministicTieKey, r.condition,
    r.idempotencyKey, none⟩

def insertScheduleRow (row : ScheduleRow) : Except JournalError Journal := do
  require (∀ other ∈ j.schedule.rows, other.idempotencyKey ≠ row.idempotencyKey)
    ⟨.constraint, "UNIQUE constraint failed"⟩
  let schedule ← insertRow j.schedule row
  return { j with schedule }

def insertRetrySchedule : Except JournalError Journal :=
  match c.attemptOutcome.bind AttemptTerminalOutcome.retrySchedule with
  | none => .ok j
  | some schedule => insertScheduleRow j schedule.row

def consumeAttemptResponseStaging : Except JournalError Journal :=
  if c.reducesResponse then do
    require ((j.staging.find c.entityId).isSome)
      ⟨projectionIntegrity,
        "terminal response reduction did not consume exactly one staged result"⟩
    return { j with staging := j.staging.erase c.entityId }
  else .ok j

end Persist

section Apply

variable (j : Journal) (c : TransitionCommand)

def recordFromCommand (sequence : Nat) : TransitionRecord :=
  ⟨c.transitionId, sequence, c.key, c.expectedState, c.newState, c.triggerCategory,
    c.causalReference, c.timestamp, c.logicalTimeNs, c.ownerEpoch, c.idempotencyKey⟩

/-- `_insert_transition` under the next sequence number. -/
def insertTransition : Except JournalError Journal := do
  let sequence := nextSequence (j.transitions.map TransitionRecord.sequence)
  require (sequence ≤ maxSafeInteger)
    ⟨projectionIntegrity, "transition sequence exceeds the journal boundary"⟩
  return { j with transitions := j.transitions ++ [recordFromCommand c sequence] }

/-- The new state, and for a terminal attempt its outcome. -/
def updateProjection : Journal :=
  match c.expectedState with
  | none => j
  | some _ =>
    let moved := j.setState c.entityId c.newState
    match c.attemptOutcome with
    | none => moved
    | some outcome =>
      { moved with
        attempts := moved.attempts.modify c.entityId
          (fun r => { r with
            outcome := some outcome.classification
            terminalRecordedAt := some c.timestamp.wallTime }) fun _ => rfl }

structure CommittedTransition where
  record : TransitionRecord
  idempotentReplay : Bool
  deriving DecidableEq, Repr

/-- The schedule entry after a terminal attempt, whoever wrote it. -/
def DerivedNextAttemptSchedule (row : AttemptRow) : Prop :=
  ∃ r ∈ j.schedule.rows, r.scenarioId = row.scenarioId ∧ r.entityType = "attempt" ∧
    (j.scenarios.find row.scenarioId).map ScenarioRow.ordinal = some r.scenarioOrdinal ∧
    (j.deliveries.find row.deliveryId).map (fun d => (d.stepOrdinal, d.ordinal)) =
      some (r.stepOrdinal, r.deliveryOrdinal) ∧
    r.attemptOrdinal = row.ordinal + 1

instance (row : AttemptRow) : Decidable (DerivedNextAttemptSchedule j row) :=
  inferInstanceAs (Decidable (∃ r ∈ _, _))

/-- The row a retry schedule was stored in, whether or not it has been consumed since. -/
def verifyExistingRetrySchedule (schedule : RetrySchedule) : Except JournalError Unit :=
  require (∃ r ∈ j.schedule.rows, r.idempotencyKey = schedule.idempotencyKey ∧
      { r with consumed := none } = schedule.row)
    ⟨projectionIntegrity, "idempotent terminal outcome retry schedule is missing or different"⟩

def verifyRetryOutcome (row : AttemptRow) (outcome : AttemptTerminalOutcome) :
    Except JournalError Unit :=
  match outcome.retrySchedule with
  | none =>
    require (row.state ∈ atomicRetryStates → ¬ DerivedNextAttemptSchedule j row)
      ⟨idempotencyConflict, "idempotent terminal outcome omitted its derived retry schedule"⟩
  | some schedule => verifyExistingRetrySchedule j schedule

def verifyExistingAttemptOutcome (existing : TransitionRecord) (outcome : AttemptTerminalOutcome) :
    Except JournalError Unit :=
  match j.attempts.find c.entityId with
  | none => .error ⟨projectionIntegrity, "idempotent terminal attempt projection is missing"⟩
  | some row => do
    require (existing.toState = .attempt row.state ∧
        row.outcome = some outcome.classification ∧
        row.terminalRecordedAt = some existing.timestamp.wallTime)
      ⟨projectionIntegrity, "idempotent terminal attempt projection differs from history"⟩
    validateRetryScheduleIdentity j c row row.state
    verifyRetryOutcome j row outcome

/-- The record repeats the command; its timestamp and sequence are its own. -/
def TransitionRecord.Repeats (existing : TransitionRecord) : Prop :=
  recordFromCommand c existing.sequence = { existing with timestamp := c.timestamp }

instance (existing : TransitionRecord) : Decidable (existing.Repeats c) :=
  inferInstanceAs (Decidable (_ = _))

def verifyIdempotentReplay (existing : TransitionRecord) : Except JournalError Unit := do
  require (existing.Repeats c)
    ⟨idempotencyConflict, "idempotency key was reused for different transition semantics"⟩
  match c.attemptOutcome with
  | none => .ok ()
  | some outcome => verifyExistingAttemptOutcome j c existing outcome

/-- A stored phase that the row still shows, and the digests for good. -/
def AttemptRow.Repeats (row : AttemptRow) (evidence : AttemptPhaseEvidenceCommand) : Prop :=
  (c.newState = .attempt row.state → row.phase = some evidence.phase) ∧
    (evidence.requestBlobHash.isSome → row.requestBlobHash = evidence.requestBlobHash) ∧
    (evidence.requestHeadersHash.isSome → row.requestHeadersHash = evidence.requestHeadersHash)

instance (row : AttemptRow) (evidence : AttemptPhaseEvidenceCommand) :
    Decidable (row.Repeats c evidence) :=
  inferInstanceAs (Decidable (_ ∧ _))

def verifyAttemptPhaseEvidence : Option AttemptPhaseEvidenceCommand → Except JournalError Unit
  | none => .ok ()
  | some evidence =>
    match j.attempts.find c.entityId with
    | none => .error ⟨idempotencyConflict, "attempt phase evidence replay differs"⟩
    | some row => do
      validatePhaseEdge c evidence
      require (row.Repeats c evidence)
        ⟨idempotencyConflict, "attempt phase evidence replay differs"⟩

/-- Replay reads the staging row, which the reduction of the response has deleted. -/
def verifyAttemptResponseStaging :
    Option AttemptResponseStagingCommand → Except JournalError Unit
  | none => .ok ()
  | some staging => do
    validateResponseStagingPresence c (some staging)
    require (j.staging.find c.entityId = some staging.row)
      ⟨idempotencyConflict, "attempt response staging replay differs from durable evidence"⟩

def verifyExistingAttemptRecord (existing : TransitionRecord) :
    Option AttemptTransportEvidenceCommand → Except JournalError Unit
  | none => .ok ()
  | some evidence =>
    match j.attemptRecords.rows.filter (·.evidence.attemptId = c.entityId) with
    | [record] =>
      require (record = ⟨evidence, record.sequence, existing.timestamp, existing.logicalTimeNs⟩)
        ⟨idempotencyConflict, "idempotent terminal transition transport evidence differs"⟩
    | _ =>
      .error ⟨projectionIntegrity,
        "idempotent terminal transition is missing its unique attempt record"⟩

def replayTransition (op : TransitionOperation) (existing : TransitionRecord) :
    Except JournalError (Journal × CommittedTransition) := do
  verifyIdempotentReplay j op.command existing
  verifyAttemptPhaseEvidence j op.command op.phaseEvidence
  verifyAttemptResponseStaging j op.command op.responseStaging
  verifyExistingAttemptRecord j op.command existing op.transportEvidence
  return (j, ⟨existing, true⟩)

def validateTransportIdentity (op : TransitionOperation) : Except JournalError Unit :=
  match op.transportEvidence with
  | none => .ok ()
  | some evidence => validateTransportEvidenceIdentity j op.command evidence

def requireEntity : Except JournalError LifecycleState :=
  match j.state c.key with
  | none => .error missingEntity
  | some state => .ok state

/-- Everything `_ApplyTransitionOperation` checks before its first write. -/
def validateCommit (op : TransitionOperation) : Except JournalError Unit := do
  require (∀ r ∈ j.transitions, r.transitionId ≠ op.command.transitionId)
    ⟨idempotencyConflict, "transition_id already names a different command"⟩
  let state ← requireEntity j op.command
  validateProjectionAndEdge j op.command state
  validateTransitionGuards j op.command
  validateTransportIdentity j op
  validateTerminalResponseStaging j op.command op.transportEvidence

def writeTransition (op : TransitionOperation) : Except JournalError Journal := do
  let appended ← insertTransition j op.command
  let phased ← persistAttemptPhaseEvidence (updateProjection appended op.command) op.command
    op.phaseEvidence
  let staged ← persistAttemptResponseStaging phased op.command op.responseStaging
  let recorded ← insertAttemptRecord staged op.command op.transportEvidence
  let scheduled ← insertRetrySchedule recorded op.command
  consumeAttemptResponseStaging scheduled op.command

def commitTransition (op : TransitionOperation) :
    Except JournalError (Journal × CommittedTransition) := do
  validateCommit j op
  let written ← writeTransition j op
  return (written, ⟨recordFromCommand op.command
    (nextSequence (j.transitions.map TransitionRecord.sequence)), false⟩)

/-- `_ApplyTransitionOperation.execute`. -/
def applyTransition (op : TransitionOperation) :
    Except JournalError (Journal × CommittedTransition) := do
  validatePayloadScope op.command
  validateResponseStagingPresence op.command op.responseStaging
  validateTransportEvidencePresence op.command op.transportEvidence
  requireCurrentOwner j op.command.ownerEpoch
  match j.transitions.find? (·.idempotencyKey = op.command.idempotencyKey) with
  | some existing => replayTransition j op existing
  | none => commitTransition j op

end Apply

end WebhookConformance
