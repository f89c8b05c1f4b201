import WebhookConformance.Operations

/-! The recovery scan: what a fresh owner decides about every attempt it finds, and the commands
and plans that it makes of it. -/
namespace WebhookConformance

open Checked

inductive DurableNoSendProof where
  | none
  | controlledPreTransport
  | noConnectionEstablished
  deriving DecidableEq, Repr

inductive AttemptRecoveryAction where
  | resumeScheduled
  | reclaimExpiredClaim
  | requirePhaseEvidence
  | terminateNotSent
  | terminateUnknownOutcome
  | reduceDurableResponse
  | preserveTerminal
  | preserveUnknownOutcome
  deriving DecidableEq, Repr

inductive RecoveryAmbiguity where
  | none
  | phaseEvidenceRequired
  | possibleReceiverEffect
  deriving DecidableEq, Repr

inductive RecoveryErrorKind where
  | integrity
  | resourceLimit
  | ownerEpoch
  | value
  deriving DecidableEq, Repr

structure RecoveryError where
  kind : RecoveryErrorKind
  message : String
  deriving DecidableEq, Repr

def AttemptState.value : AttemptState → String
  | .scheduled => "scheduled"
  | .claimed => "claimed"
  | .preSendCommitted => "pre_send_committed"
  | .connecting => "connecting"
  | .sending => "sending"
  | .awaitingResponse => "awaiting_response"
  | .responseObserved => "response_observed"
  | .notSent => "not_sent"
  | .succeeded => "succeeded"
  | .rejected => "rejected"
  | .transportFailed => "transport_failed"
  | .unknownOutcome => "unknown_outcome"
  | .cancelled => "cancelled"

def AttemptRecoveryAction.value : AttemptRecoveryAction → String
  | .resumeScheduled => "resume_scheduled"
  | .reclaimExpiredClaim => "reclaim_expired_claim"
  | .requirePhaseEvidence => "require_phase_evidence"
  | .terminateNotSent => "terminate_not_sent"
  | .terminateUnknownOutcome => "terminate_unknown_outcome"
  | .reduceDurableResponse => "reduce_durable_response"
  | .preserveTerminal => "preserve_terminal"
  | .preserveUnknownOutcome => "preserve_unknown_outcome"

section Classify

/-- `classify_attempt_state`. -/
def classifyAttemptState (state : AttemptState) (proof : DurableNoSendProof) :
    AttemptRecoveryAction × RecoveryAmbiguity × Option AttemptState :=
  match state with
  | .preSendCommitted =>
    if proof = .controlledPreTransport then (.terminateNotSent, .none, some .notSent)
    else (.requirePhaseEvidence, .phaseEvidenceRequired, none)
  | .connecting =>
    if proof = .noConnectionEstablished then (.terminateNotSent, .none, some .notSent)
    else (.terminateUnknownOutcome, .possibleReceiverEffect, some .unknownOutcome)
  | .scheduled => (.resumeScheduled, .none, none)
  | .claimed => (.reclaimExpiredClaim, .none, none)
  | .sending => (.terminateUnknownOutcome, .possibleReceiverEffect, some .unknownOutcome)
  | .awaitingResponse => (.terminateUnknownOutcome, .possibleReceiverEffect, some .unknownOutcome)
  | .responseObserved => (.reduceDurableResponse, .none, none)
  | .unknownOutcome => (.preserveUnknownOutcome, .possibleReceiverEffect, none)
  | .notSent => (.preserveTerminal, .none, none)
  | .succeeded => (.preserveTerminal, .none, none)
  | .rejected => (.preserveTerminal, .none, none)
  | .transportFailed => (.preserveTerminal, .none, none)
  | .cancelled => (.preserveTerminal, .none, none)

def durableNoSendProof : Option AttemptPhaseEvidence → DurableNoSendProof
  | some .controlledPreTransport => .controlledPreTransport
  | some .noConnectionEstablished => .noConnectionEstablished
  | _ => .none

end Classify

section Items

structure AttemptRecoveryItem where
  scenarioId : String
  eventId : String
  deliveryId : String
  attemptId : String
  scenarioOrdinal : Nat
  stepOrdinal : Nat
  deliveryOrdinal : Nat
  attemptOrdinal : Nat
  priorState : AttemptState
  durableNoSendProof : DurableNoSendProof
  action : AttemptRecoveryAction
  ambiguity : RecoveryAmbiguity
  targetState : Option AttemptState
  predecessorAttemptId : Option String
  responseStaging : Option AttemptResponseStagingCommand
  deriving DecidableEq, Repr

def attemptActionPriorStates : AttemptRecoveryAction → List AttemptState
  | .resumeScheduled => [.scheduled]
  | .reclaimExpiredClaim => [.claimed]
  | .requirePhaseEvidence => [.preSendCommitted]
  | .terminateNotSent => [.preSendCommitted, .connecting]
  | .terminateUnknownOutcome => [.connecting, .sending, .awaitingResponse]
  | .reduceDurableResponse => [.responseObserved]
  | .preserveTerminal => [.notSent, .succeeded, .rejected, .transportFailed, .cancelled]
  | .preserveUnknownOutcome => [.unknownOutcome]

def attemptActionTargets : AttemptRecoveryAction → Option AttemptState
  | .terminateNotSent => some .notSent
  | .terminateUnknownOutcome => some .unknownOutcome
  | _ => none

def attemptActionAmbiguity : AttemptRecoveryAction → RecoveryAmbiguity
  | .requirePhaseEvidence => .phaseEvidenceRequired
  | .terminateUnknownOutcome => .possibleReceiverEffect
  | .preserveUnknownOutcome => .possibleReceiverEffect
  | _ => .none

def expectedNoSendProof (item : AttemptRecoveryItem) : DurableNoSendProof :=
  if item.action ≠ .terminateNotSent then .none
  else if item.priorState = .preSendCommitted then .controlledPreTransport
  else .noConnectionEstablished

def invalidValue (message : String) : RecoveryError := ⟨.value, message⟩

def validateActionTarget (item : AttemptRecoveryItem) : Except RecoveryError Unit :=
  if item.action = .reduceDurableResponse then
    match item.responseStaging with
    | none => .error (invalidValue "durable response recovery requires staged response evidence")
    | some staging => require (item.targetState = some staging.terminalState)
        (invalidValue "durable response recovery target differs from staged evidence")
  else do
    require (item.targetState = attemptActionTargets item.action)
      (invalidValue "attempt recovery action and target state disagree")
    require (item.responseStaging = none)
      (invalidValue "only durable response recovery may carry staged response evidence")

/-- `_validate_attempt_action`. -/
def validateAttemptAction (item : AttemptRecoveryItem) : Except RecoveryError Unit := do
  validateActionTarget item
  require (item.priorState ∈ attemptActionPriorStates item.action)
    (invalidValue (item.action.value ++ " is invalid from " ++ item.priorState.value))
  require (item.ambiguity = attemptActionAmbiguity item.action)
    (invalidValue "attempt recovery action and ambiguity disagree")
  require (item.durableNoSendProof = expectedNoSendProof item)
    (invalidValue "attempt recovery action carries invalid no-send proof")

/-- A row of `_load_attempt_rows`: the attempt with the places of its scenario and delivery. -/
structure LoadedAttempt where
  row : AttemptRow
  scenarioOrdinal : Nat
  stepOrdinal : Nat
  deliveryOrdinal : Nat
  deriving DecidableEq, Repr

def loadAttemptRow (j : Journal) (row : AttemptRow) : Option LoadedAttempt := do
  let s ← j.scenarios.find row.scenarioId
  let d ← j.deliveries.find row.deliveryId
  if row.OwnedBy d then some ⟨row, s.ordinal, d.stepOrdinal, d.ordinal⟩ else none

def recoveryIntegrity (message : String) : RecoveryError := ⟨.integrity, message⟩

/-- `_validate_attempt_projection`, without the format of the timestamp. -/
def validateAttemptProjection (row : AttemptRow) : Except RecoveryError Unit :=
  if row.state ∈ terminalAttemptStates then do
    require (row.outcome.isSome ∧ row.terminalRecordedAt.isSome)
      (recoveryIntegrity "terminal attempt is missing durable outcome fields")
    require (∀ o ∈ row.outcome, o ∈ classificationsByTerminalState row.state)
      (recoveryIntegrity "terminal attempt state and classification disagree")
  else
    require (row.outcome = none ∧ row.terminalRecordedAt = none)
      (recoveryIntegrity "nonterminal attempt contains terminal outcome fields")

/-- The target of a staged response is the state that was staged. -/
def recoveryTarget (action : AttemptRecoveryAction) (target : Option AttemptState)
    (staging : Option AttemptResponseStagingCommand) : Except RecoveryError (Option AttemptState) :=
  match action, staging with
  | .reduceDurableResponse, none =>
    .error (recoveryIntegrity "response-observed attempt lacks durable response staging")
  | .reduceDurableResponse, some s => .ok (some s.terminalState)
  | _, some _ => .error (recoveryIntegrity "non-response-observed attempt retains response staging")
  | _, none => .ok target

/-- `_attempt_item`. -/
def attemptItem (loaded : LoadedAttempt) (staging : Option AttemptResponseStagingCommand) :
    Except RecoveryError AttemptRecoveryItem := do
  validateAttemptProjection loaded.row
  let rawProof := WebhookConformance.durableNoSendProof loaded.row.phase
  let decision := classifyAttemptState loaded.row.state rawProof
  let target ← recoveryTarget decision.1 decision.2.2 staging
  let item : AttemptRecoveryItem :=
    { scenarioId := loaded.row.scenarioId
      eventId := loaded.row.eventId
      deliveryId := loaded.row.deliveryId
      attemptId := loaded.row.attemptId
      scenarioOrdinal := loaded.scenarioOrdinal
      stepOrdinal := loaded.stepOrdinal
      deliveryOrdinal := loaded.deliveryOrdinal
      attemptOrdinal := loaded.row.ordinal
      priorState := loaded.row.state
      durableNoSendProof := if decision.1 = .terminateNotSent then rawProof else .none
      action := decision.1
      ambiguity := decision.2.1
      targetState := target
      predecessorAttemptId := loaded.row.predecessorAttemptId
      responseStaging := staging }
  validateAttemptAction item
  return item

theorem loadAttemptRow_ok {j : Journal} {row : AttemptRow} {loaded : LoadedAttempt}
    (h : loadAttemptRow j row = some loaded) : loaded.row = row ∧
      (j.scenarios.find row.scenarioId).map ScenarioRow.ordinal = some loaded.scenarioOrdinal ∧
      (j.deliveries.find row.deliveryId).map (fun d => (d.stepOrdinal, d.ordinal)) =
        some (loaded.stepOrdinal, loaded.deliveryOrdinal) := by
  obtain ⟨s, hs, h⟩ := Option.bind_eq_some_iff.1 h
  obtain ⟨d, hd, h⟩ := Option.bind_eq_some_iff.1 h
  split at h
  · cases h
    rw [hs, hd]
    exact ⟨rfl, rfl, rfl⟩
  · cases h

/-- An item names its attempt and the attempt's place. -/
theorem attemptItem_place {loaded : LoadedAttempt} {staging : Option AttemptResponseStagingCommand}
    {item : AttemptRecoveryItem} (h : attemptItem loaded staging = .ok item) :
    item.attemptId = loaded.row.attemptId ∧ item.scenarioId = loaded.row.scenarioId ∧
      item.scenarioOrdinal = loaded.scenarioOrdinal ∧ item.stepOrdinal = loaded.stepOrdinal ∧
      item.deliveryOrdinal = loaded.deliveryOrdinal ∧ item.attemptOrdinal = loaded.row.ordinal := by
  obtain ⟨_, -, h⟩ := bind_ok h
  obtain ⟨target, -, h⟩ := bind_ok h
  obtain ⟨_, -, h⟩ := bind_ok h
  cases pure_ok h
  exact ⟨rfl, rfl, rfl, rfl, rfl, rfl⟩

end Items

section Redeliveries

structure RedeliveryTemplate where
  attemptPlanId : String
  logicalDueNs : Int
  deterministicTieKey : String
  deriving DecidableEq, Repr

/-- The condition of a redelivery, with its canonical text. -/
def redeliveryCondition (attemptId predecessor : String) (ordinal : Nat) : RetryCondition where
  predecessorAttemptId := predecessor
  nextAttemptOrdinal := ordinal
  text := "\x7b\"attempt_id\":\"" ++ attemptId ++ "\",\"next_attempt_ordinal\":" ++ toString ordinal ++
    ",\"policy\":\"redeliver\",\"predecessor_attempt_id\":\"" ++ predecessor ++ "\"\x7d"

/-- `_redelivery_from`. -/
def redeliveryFrom (item : AttemptRecoveryItem) (template : RedeliveryTemplate) (attemptId : String) :
    Except RecoveryError RedeliveryAttemptPlan := do
  require (item.attemptOrdinal + 1 ≤ maxSafeInteger)
    ⟨.resourceLimit, "redelivery attempt ordinal exceeds the safe-integer limit"⟩
  if hdistinct : attemptId ≠ item.attemptId then
    return {
      scenarioId := item.scenarioId
      eventId := item.eventId
      deliveryId := item.deliveryId
      predecessorAttemptId := item.attemptId
      attemptId
      attemptPlanId := template.attemptPlanId
      attemptOrdinal := item.attemptOrdinal + 1
      schedule :=
        { scheduleEntryId := "resume.redelivery." ++ attemptId
          scenarioId := item.scenarioId
          entityType := "attempt"
          entityId := template.attemptPlanId
          logicalTimeNs := template.logicalDueNs
          scenarioOrdinal := item.scenarioOrdinal
          stepOrdinal := item.stepOrdinal
          deliveryOrdinal := item.deliveryOrdinal
          attemptOrdinal := item.attemptOrdinal + 1
          deterministicTieKey := template.deterministicTieKey ++ "." ++ attemptId
          condition := some (redeliveryCondition attemptId item.attemptId (item.attemptOrdinal + 1))
          idempotencyKey := "resume.redelivery.schedule." ++ attemptId
          consumed := none }
      distinct := hdistinct
      schedule_identity := ⟨rfl, rfl⟩ }
  else
    throw (invalidValue "redelivery must use a distinct physical attempt identity")

/-- A redelivery is scheduled in the place of its predecessor, under the next ordinal. -/
theorem redeliveryFrom_place {item : AttemptRecoveryItem} {template : RedeliveryTemplate}
    {attemptId : String} {r : RedeliveryAttemptPlan}
    (h : redeliveryFrom item template attemptId = .ok r) :
    r.predecessorAttemptId = item.attemptId ∧ r.schedule.scenarioId = item.scenarioId ∧
      r.schedule.entityType = "attempt" ∧ r.schedule.scenarioOrdinal = item.scenarioOrdinal ∧
      r.schedule.stepOrdinal = item.stepOrdinal ∧
      r.schedule.deliveryOrdinal = item.deliveryOrdinal ∧
      r.schedule.attemptOrdinal = item.attemptOrdinal + 1 := by
  obtain ⟨_, -, h⟩ := bind_ok h
  split at h
  · cases pure_ok h
    exact ⟨rfl, rfl, rfl, rfl, rfl, rfl, rfl⟩
  · cases h

theorem redeliveryFrom_identity {item : AttemptRecoveryItem} {template : RedeliveryTemplate}
    {attemptId : String} {r : RedeliveryAttemptPlan}
    (h : redeliveryFrom item template attemptId = .ok r) :
    r.attemptId = attemptId ∧ r.attemptOrdinal = item.attemptOrdinal + 1 ∧
      r.attemptPlanId = template.attemptPlanId := by
  obtain ⟨_, -, h⟩ := bind_ok h
  split at h
  · cases pure_ok h
    exact ⟨rfl, rfl, rfl⟩
  · cases h

end Redeliveries

end WebhookConformance
