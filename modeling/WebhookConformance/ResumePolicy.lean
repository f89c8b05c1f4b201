import WebhookConformance.RecoveryScan
import WebhookConformance.Schedule

/-! The resume policy: what `ResumePolicyEngine.build_plan` decides about the unresolved attempts of a
recovery plan and about the pending schedule. -/
namespace WebhookConformance

open Checked

section Queue

structure ScheduleItem where
  scheduleEntryId : String
  entityId : String
  logicalDueNs : Int
  scenarioOrdinal : Nat
  stepOrdinal : Nat
  deliveryOrdinal : Nat
  attemptOrdinal : Nat
  deterministicTieKey : String
  deriving DecidableEq, Repr

def ScheduleItem.orderKey (item : ScheduleItem) : OrderKey :=
  toLex (item.logicalDueNs, toLex (item.scenarioOrdinal, toLex (item.stepOrdinal,
    toLex (item.deliveryOrdinal, toLex (item.attemptOrdinal,
      toLex (item.deterministicTieKey, item.scheduleEntryId))))))

def ScheduleItem.Le (a b : ScheduleItem) : Prop := a.orderKey ≤ b.orderKey

instance : DecidableRel ScheduleItem.Le := fun a b =>
  inferInstanceAs (Decidable (a.orderKey ≤ b.orderKey))

instance : Std.Total ScheduleItem.Le := ⟨fun a b => le_total a.orderKey b.orderKey⟩

instance : IsTrans ScheduleItem ScheduleItem.Le := ⟨fun _ _ _ => le_trans⟩

def maxPolicyItems : Nat := 100000

def policyIntegrity (message : String) : RecoveryError := ⟨.integrity, message⟩

def policyLimit (message : String) : RecoveryError := ⟨.resourceLimit, message⟩

/-- `PersistentPriorityQueue.add` on the entries in the order of their insertion. -/
def addItem (entries : List ScheduleItem) (item : ScheduleItem) :
    Except RecoveryError (List ScheduleItem) :=
  match entries.find? (·.scheduleEntryId = item.scheduleEntryId) with
  | some existing => do
    require (existing = item)
      (policyIntegrity "schedule entry identity was reused with different semantics")
    return entries
  | none => do
    require (entries.length < maxPolicyItems)
      (policyLimit "persistent schedule exceeded its configured item bound")
    return entries ++ [item]

/-- The proofs are the checks of `PersistedScheduleSnapshot.__post_init__`. -/
structure PersistedScheduleSnapshot where
  entries : List ScheduleItem
  consumedEntryIds : List String
  bounded : entries.length ≤ maxPolicyItems
  unique : (entries.map (·.scheduleEntryId)).Nodup
  consumed_known : ∀ id ∈ consumedEntryIds, id ∈ entries.map (·.scheduleEntryId)

/-- The entries that are not durably consumed. -/
def PersistedScheduleSnapshot.open (snapshot : PersistedScheduleSnapshot) : List ScheduleItem :=
  snapshot.entries.filter (·.scheduleEntryId ∉ snapshot.consumedEntryIds)

/-- `_pending_schedule`. -/
def pendingSchedule (snapshot : PersistedScheduleSnapshot) :
    Except RecoveryError (List ScheduleItem) := do
  let queue ← (runAll addItem [] snapshot.open).mapError fun _ =>
    policyIntegrity "persisted schedule snapshot failed reconstruction"
  return queue.insertionSort ScheduleItem.Le

end Queue

section Inputs

inductive OperatorVerdict where
  | processed
  | notProcessed
  | stillUnknown
  deriving DecidableEq, Repr

/-- The whole template of the bundle: the delivery it authorises, besides what a redelivery takes
from it. -/
structure RedeliveryAuthorization extends RedeliveryTemplate where
  scenarioId : String
  eventId : String
  deliveryId : String
  deriving DecidableEq, Repr

structure ObservationReconciliationRule where
  scenarioId : String
  deliveryId : String
  observationId : String
  assertionIds : List String
  readOnly : Bool
  idempotent : Bool
  assertions_valid : assertionIds ≠ [] ∧ assertionIds.Nodup
  deriving DecidableEq, Repr

def ObservationReconciliationRule.eligibleForResume (rule : ObservationReconciliationRule) : Bool :=
  rule.readOnly && rule.idempotent

/-- The proofs are the checks of `BundleRecoveryPolicy.__post_init__`. -/
structure BundleRecoveryPolicy where
  redeliveryTemplates : List RedeliveryAuthorization
  observationRules : List ObservationReconciliationRule
  bounded : redeliveryTemplates.length ≤ maxPolicyItems ∧ observationRules.length ≤ maxPolicyItems
  templates_unique : (redeliveryTemplates.map fun t => (t.scenarioId, t.deliveryId)).Nodup
  rules_unique : (observationRules.map fun r => (r.scenarioId, r.deliveryId)).Nodup

structure OperatorDecisionDirective where
  attemptId : String
  verdict : OperatorVerdict
  reason : String
  operatorIdentityFingerprint : String
  operatorInputDigest : String
  evidence : List (String × String)
  signedPolicyVerified : Bool
  evidence_valid : evidence ≠ [] ∧ evidence.Nodup
  deriving DecidableEq, Repr

/-- The proofs are the checks of `ResumeInvocationPolicy.__post_init__`. -/
structure ResumeInvocationPolicy where
  onAmbiguous : Option AmbiguityPolicy
  noninteractive : Bool
  cancelRequested : Bool
  operatorDecisions : List OperatorDecisionDirective
  bounded : operatorDecisions.length ≤ maxPolicyItems
  decisions_expected : operatorDecisions ≠ [] → onAmbiguous = some .operatorDecision
  decisions_unique : (operatorDecisions.map (·.attemptId)).Nodup

end Inputs

section Plans

inductive ResumeDisposition where
  | continueRun
  | awaitObservation
  | stopAmbiguous
  | cancelled
  deriving DecidableEq, Repr

structure ObservationReconciliationPlan where
  attemptId : String
  scenarioId : String
  deliveryId : String
  observationId : String
  assertionIds : List String
  deriving DecidableEq, Repr

/-- The whole plan: what the journal commits of it, and what the runtime goes by. -/
structure PolicyPlan extends ResumePolicyPlan where
  requestedPolicy : Option AmbiguityPolicy
  effectivePolicy : AmbiguityPolicy
  disposition : ResumeDisposition
  resultCategory : Option ResultCategory
  exitCode : Option Nat
  ambiguousAttemptIds : List String
  observations : List ObservationReconciliationPlan
  runnableSchedule : List ScheduleItem
  deferredSchedule : List ScheduleItem
  deriving DecidableEq, Repr

def requireLimit (name : String) (length : Nat) : Except RecoveryError Unit :=
  require (length ≤ maxPolicyItems) (policyLimit (name ++ " exceeds the policy item limit"))

/-- `ResumePolicyPlan.__post_init__`. -/
def PolicyPlan.checked (plan : PolicyPlan) : Except RecoveryError PolicyPlan := do
  require (plan.resultCategory.isSome ↔ plan.exitCode.isSome)
    (invalidValue "result_category and exit_code must be present together")
  require (plan.exitCode = plan.resultCategory.map exitForResult)
    (invalidValue "policy result and exit code disagree")
  require (plan.disposition = .stopAmbiguous ∨ plan.disposition = .cancelled →
      plan.resultCategory.isSome)
    (invalidValue "terminal policy disposition requires a result category")
  require plan.ambiguousAttemptIds.Nodup (invalidValue "ambiguous attempt identities must be unique")
  requireLimit "decisions" plan.decisions.length
  requireLimit "redeliveries" plan.redeliveries.length
  requireLimit "observations" plan.observations.length
  requireLimit "runnable_schedule" plan.runnableSchedule.length
  requireLimit "deferred_schedule" plan.deferredSchedule.length
  requireLimit "combined policy schedule" (plan.runnableSchedule.length + plan.deferredSchedule.length)
  require ((plan.runnableSchedule ++ plan.deferredSchedule).map (·.scheduleEntryId)).Nodup
    (invalidValue "policy schedule projections contain duplicate identities")
  return plan

end Plans

section Build

/-- The evidence and the choices that all constructors of a plan share. -/
structure PolicyContext where
  recovery : RecoveryPlan
  ambiguous : List AttemptRecoveryItem
  pending : List ScheduleItem
  timestamp : TransitionTimestamp

def AmbiguityPolicy.value : AmbiguityPolicy → String
  | .stop => "stop"
  | .observe => "observe"
  | .redeliver => "redeliver"
  | .operatorDecision => "operator_decision"

variable (context : PolicyContext)

/-- `_decision_for`, without the fields of an operator. -/
def decisionFor (item : AttemptRecoveryItem) (policy : AmbiguityPolicy) (decision : RecoveryDecisionKind)
    (reason : String) (evidence : List (String × String)) : RecoveryDecisionPlan where
  decisionId := "resume." ++ toString context.recovery.ownerEpoch ++ "." ++ policy.value ++ "." ++
    item.attemptId
  scenarioId := item.scenarioId
  attemptId := item.attemptId
  policy
  decision
  reason
  recordedAt := context.timestamp.wallTime
  evidence
  operatorIdentityFingerprint := none
  operatorInputDigest := none

/-- A plan without decisions, redeliveries or observations; each constructor fills in its own. -/
def PolicyContext.base (requested : Option AmbiguityPolicy) (effective : AmbiguityPolicy)
    (disposition : ResumeDisposition) (result : Option ResultCategory)
    (runnable deferred : List ScheduleItem) : PolicyPlan where
  ownerEpoch := context.recovery.ownerEpoch
  decisions := []
  redeliveries := []
  requestedPolicy := requested
  effectivePolicy := effective
  disposition
  resultCategory := result
  exitCode := result.map exitForResult
  ambiguousAttemptIds := context.ambiguous.map (·.attemptId)
  observations := []
  runnableSchedule := runnable
  deferredSchedule := deferred

/-- `_continue_without_ambiguity`. -/
def continueWithoutAmbiguity (invocation : ResumeInvocationPolicy) : PolicyPlan :=
  context.base invocation.onAmbiguous (invocation.onAmbiguous.getD .stop) .continueRun none
    context.pending []

/-- `_cancelled_plan`. -/
def cancelledPlan (invocation : ResumeInvocationPolicy) : PolicyPlan :=
  context.base invocation.onAmbiguous .stop .cancelled (some .cancelled) [] context.pending

/-- `_stop_plan`. -/
def stopPlan (requested : Option AmbiguityPolicy) (reason : String) : PolicyPlan :=
  { context.base requested .stop .stopAmbiguous (some .ambiguous) [] context.pending with
    decisions := context.ambiguous.map fun item =>
      decisionFor context item .stop .stoppedAmbiguous reason [] }

def BundleRecoveryPolicy.ruleFor (bundle : BundleRecoveryPolicy) (item : AttemptRecoveryItem) :
    Option ObservationReconciliationRule :=
  bundle.observationRules.find? fun rule =>
    rule.scenarioId = item.scenarioId ∧ rule.deliveryId = item.deliveryId

/-- The rules of all unresolved attempts, if each has an eligible one. -/
def BundleRecoveryPolicy.selectRules (bundle : BundleRecoveryPolicy)
    (ambiguous : List AttemptRecoveryItem) : Option (List ObservationReconciliationRule) :=
  ambiguous.mapM fun item => (bundle.ruleFor item).filter (·.eligibleForResume)

def observationFor (item : AttemptRecoveryItem) (rule : ObservationReconciliationRule) :
    ObservationReconciliationPlan :=
  ⟨item.attemptId, item.scenarioId, item.deliveryId, rule.observationId, rule.assertionIds⟩

/-- `_observe_plan`. -/
def observePlan (bundle : BundleRecoveryPolicy) : PolicyPlan :=
  match bundle.selectRules context.ambiguous with
  | none => stopPlan context (some .observe) "observe_requires_read_only_idempotent_decisive_rule"
  | some rules =>
    { context.base (some .observe) .observe .awaitObservation none [] context.pending with
      decisions := List.zipWith (fun item rule => decisionFor context item .observe
        .observationRequested "configured_read_only_observer_and_decisive_assertions"
        (("observation", rule.observationId) :: rule.assertionIds.map ("assertion", ·)))
        context.ambiguous rules
      observations := List.zipWith observationFor context.ambiguous rules }

/-- The part of the schedule that belongs to one delivery. -/
def ScheduleItem.scope (item : ScheduleItem) : Nat × Nat × Nat :=
  (item.scenarioOrdinal, item.stepOrdinal, item.deliveryOrdinal)

def AttemptRecoveryItem.scope (item : AttemptRecoveryItem) : Nat × Nat × Nat :=
  (item.scenarioOrdinal, item.stepOrdinal, item.deliveryOrdinal)

/-- `_partition_linked_schedule`: what may run, and what waits for an unresolved attempt. -/
def partitionLinkedSchedule : List ScheduleItem × List ScheduleItem :=
  context.pending.partition fun item => item.scope ∉ context.ambiguous.map (·.scope)

def OperatorVerdict.decision : OperatorVerdict → RecoveryDecisionKind
  | .processed => .operatorProcessed
  | .notProcessed => .operatorNotProcessed
  | .stillUnknown => .operatorStillUnknown

/-- `_operator_decision_for`. -/
def operatorDecisionFor (item : AttemptRecoveryItem) (directive : OperatorDecisionDirective) :
    RecoveryDecisionPlan :=
  { decisionFor context item .operatorDecision directive.verdict.decision directive.reason
      directive.evidence with
    operatorIdentityFingerprint := some directive.operatorIdentityFingerprint
    operatorInputDigest := some directive.operatorInputDigest }

/-- The directives are for the unresolved attempts, all of them and no others. -/
def ResumeInvocationPolicy.Complete (invocation : ResumeInvocationPolicy)
    (ambiguous : List AttemptRecoveryItem) : Prop :=
  (∀ d ∈ invocation.operatorDecisions, d.attemptId ∈ ambiguous.map (·.attemptId)) ∧
    ∀ item ∈ ambiguous, item.attemptId ∈ invocation.operatorDecisions.map (·.attemptId)

instance (invocation : ResumeInvocationPolicy) (ambiguous : List AttemptRecoveryItem) :
    Decidable (invocation.Complete ambiguous) :=
  inferInstanceAs (Decidable (_ ∧ _))

def ResumeInvocationPolicy.directives (invocation : ResumeInvocationPolicy)
    (ambiguous : List AttemptRecoveryItem) : List OperatorDecisionDirective :=
  ambiguous.filterMap fun item =>
    invocation.operatorDecisions.find? (·.attemptId = item.attemptId)

def decidedPlan (selected : List OperatorDecisionDirective) : PolicyPlan :=
  let decisions := List.zipWith (operatorDecisionFor context) context.ambiguous selected
  if ∃ d ∈ selected, d.verdict = .stillUnknown then
    { context.base (some .operatorDecision) .operatorDecision .stopAmbiguous (some .ambiguous) []
        context.pending with
      decisions }
  else
    { context.base (some .operatorDecision) .operatorDecision .continueRun none
        (partitionLinkedSchedule context).1 (partitionLinkedSchedule context).2 with
      decisions }

/-- `_operator_plan`. -/
def operatorPlan (invocation : ResumeInvocationPolicy) : PolicyPlan :=
  let selected := invocation.directives context.ambiguous
  if ¬ invocation.Complete context.ambiguous then
    stopPlan context (some .operatorDecision) "operator_decision_set_is_incomplete"
  else if invocation.noninteractive ∧ ∃ d ∈ selected, d.signedPolicyVerified = false then
    stopPlan context (some .operatorDecision) "noninteractive_operator_policy_is_unsigned"
  else decidedPlan context selected

end Build

section Redeliver

def BundleRecoveryPolicy.templateFor (bundle : BundleRecoveryPolicy) (item : AttemptRecoveryItem) :
    Option RedeliveryAuthorization :=
  bundle.redeliveryTemplates.find? fun t =>
    t.scenarioId = item.scenarioId ∧ t.deliveryId = item.deliveryId

/-- `_is_redeliverable`. -/
def AttemptRecoveryItem.Redeliverable (item : AttemptRecoveryItem) : Prop :=
  item.priorState = .unknownOutcome ∨ item.targetState = some .unknownOutcome

instance (item : AttemptRecoveryItem) : Decidable item.Redeliverable :=
  inferInstanceAs (Decidable (_ ∨ _))

/-- The template is of the attempt's own scenario, event and delivery. -/
def RedeliveryAuthorization.Authorizes (t : RedeliveryAuthorization) (item : AttemptRecoveryItem) : Prop :=
  t.scenarioId = item.scenarioId ∧ t.eventId = item.eventId ∧ t.deliveryId = item.deliveryId

instance (t : RedeliveryAuthorization) (item : AttemptRecoveryItem) : Decidable (t.Authorizes item) :=
  inferInstanceAs (Decidable (_ ∧ _))

/-- Why one attempt may not be sent again. -/
def itemBlockReason (bundle : BundleRecoveryPolicy) (item : AttemptRecoveryItem) : Option String :=
  if ¬ item.Redeliverable then some "ambiguity_is_not_a_terminal_unknown_outcome"
  else match bundle.templateFor item with
    | none => some "scenario_redelivery_authorization_is_missing"
    | some t =>
      if t.Authorizes item then none else some "scenario_redelivery_authorization_identity_mismatch"

/-- `_redelivery_block_reason`. -/
def redeliveryBlockReason (bundle : BundleRecoveryPolicy) (ambiguous : List AttemptRecoveryItem) :
    Option String :=
  if ¬ (ambiguous.map fun item => (item.scenarioId, item.deliveryId)).Nodup then
    some "multiple_unresolved_attempts_share_one_delivery"
  else ambiguous.findSome? (itemBlockReason bundle)

/-- `_fresh_redelivery_id` for one value of the factory, `none` if the value was no attempt id. -/
def freshRedeliveryId (drawn : Option String) (existing : List String) : Except RecoveryError String :=
  match drawn with
  | none => .error (policyIntegrity "fresh attempt identity factory returned an invalid value")
  | some attemptId => do
    require (attemptId ∉ existing)
      (policyIntegrity "fresh attempt identity collides with recovery history")
    return attemptId

def ScheduleRow.item (row : ScheduleRow) : ScheduleItem where
  scheduleEntryId := row.scheduleEntryId
  entityId := row.entityId
  logicalDueNs := row.logicalTimeNs
  scenarioOrdinal := row.scenarioOrdinal
  stepOrdinal := row.stepOrdinal
  deliveryOrdinal := row.deliveryOrdinal
  attemptOrdinal := row.attemptOrdinal
  deterministicTieKey := row.deterministicTieKey

/-- The loop of `_authorized_redelivery_plan`, with the factory's next values and the attempt and
schedule ids that are taken. -/
def redeliverAll (bundle : BundleRecoveryPolicy) : List (Option String) → List String → List String →
    List AttemptRecoveryItem → Except RecoveryError (List RedeliveryAttemptPlan)
  | _, _, _, [] => .ok []
  | drawn, attemptIds, scheduleIds, item :: rest =>
    match bundle.templateFor item with
    -- the block reason has excluded this
    | none => .error (invalidValue "redelivery template is missing")
    | some template => do
      let attemptId ← freshRedeliveryId (drawn.headD none) attemptIds
      let redelivery ← redeliveryFrom item template.toRedeliveryTemplate attemptId
      require (redelivery.schedule.scheduleEntryId ∉ scheduleIds)
        (policyIntegrity "redelivery schedule identity collides with persisted state")
      let later ← redeliverAll bundle drawn.tail (attemptId :: attemptIds)
        (redelivery.schedule.scheduleEntryId :: scheduleIds) rest
      return redelivery :: later

variable (context : PolicyContext)

def redeliveredPlan (redeliveries : List RedeliveryAttemptPlan) : PolicyPlan :=
  { context.base (some .redeliver) .redeliver .continueRun none
      (((partitionLinkedSchedule context).1 ++
        redeliveries.map (·.schedule.item)).insertionSort ScheduleItem.Le)
      (partitionLinkedSchedule context).2 with
    decisions := List.zipWith (fun item r => decisionFor context item .redeliver .redeliveryCreated
      "explicit_bundle_and_invocation_redelivery" [("attempt", r.attemptId)])
      context.ambiguous redeliveries
    redeliveries }

/-- `_authorized_redelivery_plan`. -/
def authorizedRedeliveryPlan (bundle : BundleRecoveryPolicy) (snapshot : PersistedScheduleSnapshot)
    (drawn : List (Option String)) : Except RecoveryError PolicyPlan := do
  let redeliveries ← redeliverAll bundle drawn (context.recovery.attempts.map (·.attemptId))
    (snapshot.entries.map (·.scheduleEntryId) ++ snapshot.consumedEntryIds) context.ambiguous
  require (context.pending.length + redeliveries.length ≤ maxPolicyItems)
    (policyLimit "redelivery would exceed the scheduler item limit")
  return redeliveredPlan context redeliveries

/-- `_redelivery_plan`. -/
def redeliveryPlan (bundle : BundleRecoveryPolicy) (snapshot : PersistedScheduleSnapshot)
    (drawn : List (Option String)) : Except RecoveryError PolicyPlan :=
  match redeliveryBlockReason bundle context.ambiguous with
  | some reason => .ok (stopPlan context (some .redeliver) reason)
  | none => authorizedRedeliveryPlan context bundle snapshot drawn

end Redeliver

section BuildPlan

variable (context : PolicyContext) (bundle : BundleRecoveryPolicy) (invocation : ResumeInvocationPolicy)
  (snapshot : PersistedScheduleSnapshot) (drawn : List (Option String))

/-- The policy of the invocation, for a plan with unresolved attempts. -/
def policyPlan : Except RecoveryError PolicyPlan :=
  match invocation.onAmbiguous with
  | none => .ok (stopPlan context none "default_stop")
  | some .stop => .ok (stopPlan context (some .stop) "explicit_stop")
  | some .observe => .ok (observePlan context bundle)
  | some .operatorDecision => .ok (operatorPlan context invocation)
  | some .redeliver => redeliveryPlan context bundle snapshot drawn

/-- The plan before its own checks. -/
def choosePlan : Except RecoveryError PolicyPlan :=
  if invocation.cancelRequested then
    if context.ambiguous = [] then .ok (cancelledPlan context invocation)
    else .ok (stopPlan context invocation.onAmbiguous "cancellation_preserved_unresolved_ambiguity")
  else if context.ambiguous = [] then .ok (continueWithoutAmbiguity context invocation)
  else policyPlan context bundle invocation snapshot drawn

/-- `ResumePolicyEngine.build_plan`; `drawn` is what the factory of fresh attempt ids returns. -/
def buildPlan (recovery : RecoveryPlan) (timestamp : TransitionTimestamp) :
    Except RecoveryError PolicyPlan := do
  require timestamp.monotonicElapsedNs.isSome
    (policyIntegrity "resume policy planning requires a live clock timestamp")
  let pending ← pendingSchedule snapshot
  let ambiguous := recovery.unresolvedAmbiguousAttempts
  require (ambiguous.length ≤ maxPolicyItems ∧ pending.length ≤ maxPolicyItems)
    (policyLimit "resume policy input exceeds the bounded item limit")
  let plan ← choosePlan ⟨recovery, ambiguous, pending, timestamp⟩ bundle invocation snapshot drawn
  plan.checked

end BuildPlan

end WebhookConformance
