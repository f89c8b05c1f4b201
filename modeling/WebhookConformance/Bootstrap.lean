import WebhookConformance.Operations

/-! The journal that `_BootstrapOperation` writes, and the activation of a full run on it. -/
namespace WebhookConformance

/-- What `_build_plan` makes of a manifest. Its identifier checks are the tables' own; the other
fields are the values it writes and the order it has checked. -/
structure BootstrapPlan where
  runId : String
  ownerEpoch : Nat
  scenarios : Table ScenarioRow ScenarioRow.scenarioId
  deliveries : Table DeliveryRow DeliveryRow.deliveryId
  assertions : Table AssertionRow AssertionRow.assertionId
  schedules : Table ScheduleRow ScheduleRow.scheduleEntryId
  scenarios_pending : ∀ s ∈ scenarios.rows, s.state = .pending
  deliveries_pending : ∀ d ∈ deliveries.rows, d.state = .pending
  assertions_pending : ∀ a ∈ assertions.rows, a.state = .pending
  deliveries_scoped : ∀ d ∈ deliveries.rows, d.scenarioId ∈ scenarios.rows.map ScenarioRow.scenarioId
  assertions_scoped : ∀ a ∈ assertions.rows, a.scenarioId ∈ scenarios.rows.map ScenarioRow.scenarioId
  deliveries_required : ∀ d ∈ deliveries.rows, d.required = true
  assertions_required : ∀ a ∈ assertions.rows, a.required = true
  deliveries_placed : (deliveries.rows.map fun d => (d.scenarioId, d.ordinal)).Nodup
  schedules_initial : ∀ e ∈ schedules.rows, e.attemptOrdinal = 1 ∧ e.consumed = none

/-- `_BootstrapOperation.execute` on a fresh journal. -/
def BootstrapPlan.journal (plan : BootstrapPlan) : Journal where
  run := ⟨plan.runId, .planned, plan.ownerEpoch, none⟩
  scenarios := plan.scenarios
  deliveries := plan.deliveries
  attempts := Table.empty
  series := Table.empty
  assertions := plan.assertions
  schedule := plan.schedules
  transitions := []
  staging := Table.empty
  attemptRecords := Table.empty
  samples := Table.empty
  evaluations := Table.empty
  decisions := Table.empty

section Activate

/-- The command of `_apply_transition`; the clock is read once for each identity. -/
def fullCommand (ownerEpoch : Nat) (clock : String → TransitionTimestamp) (entityId tag : String)
    (expected : Option LifecycleState) (new : LifecycleState)
    (typed : ∀ s, expected = some s → s.entityType = new.entityType) : TransitionCommand where
  transitionId := "full." ++ tag ++ "." ++ entityId
  entityId
  expectedState := expected
  newState := new
  triggerCategory := tag
  timestamp := clock ("full." ++ tag ++ "." ++ entityId)
  ownerEpoch
  idempotencyKey := "full." ++ tag ++ "." ++ entityId
  causalReference := none
  logicalTimeNs := none
  deliverySatisfaction := none
  attemptOutcome := none
  expected_typed := typed

variable (plan : BootstrapPlan) (clock : String → TransitionTimestamp)

/-- The record that the projection started in its initial state. -/
def initialCommand (tag : String) (key : EntityKey) : TransitionCommand :=
  fullCommand plan.ownerEpoch clock key.entityId tag none (initialState key.entityType) nofun

def BootstrapPlan.deliveriesOf (s : ScenarioRow) : List EntityKey :=
  (plan.deliveries.rows.filter (·.scenarioId = s.scenarioId)).map fun d => ⟨.delivery, d.deliveryId⟩

def BootstrapPlan.assertionsOf (s : ScenarioRow) : List EntityKey :=
  (plan.assertions.rows.filter (·.scenarioId = s.scenarioId)).map fun a =>
    ⟨.assertion, a.assertionId⟩

def initialScenarioCommands (s : ScenarioRow) : List TransitionCommand :=
  initialCommand plan clock "scenario_initial" ⟨.scenario, s.scenarioId⟩ ::
    (plan.deliveriesOf s).map (initialCommand plan clock "delivery_initial") ++
    (plan.assertionsOf s).map (initialCommand plan clock "assertion_initial")

def initialCommands : List TransitionCommand :=
  initialCommand plan clock "run_initial" ⟨.run, plan.runId⟩ ::
    plan.scenarios.rows.flatMap (initialScenarioCommands plan clock)

def startCommands : List TransitionCommand :=
  fullCommand plan.ownerEpoch clock plan.runId "run_started" (some (.run .planned))
      (.run .running) (by rintro _ ⟨⟩; rfl) ::
    plan.scenarios.rows.flatMap fun s =>
      [fullCommand plan.ownerEpoch clock s.scenarioId "scenario_eligible"
        (some (.scenario .pending)) (.scenario .eligible) (by rintro _ ⟨⟩; rfl),
       fullCommand plan.ownerEpoch clock s.scenarioId "scenario_started"
        (some (.scenario .eligible)) (.scenario .running) (by rintro _ ⟨⟩; rfl)]

/-- `_activate_full_run`. -/
def activateFullRun : List JournalOperation :=
  (initialCommands plan clock ++ startCommands plan clock).map fun c => .transition c.plain

end Activate

/-- A run of one scenario with one delivery and no assertion. -/
def singlePlan : BootstrapPlan where
  runId := "run"
  ownerEpoch := 0
  scenarios := ⟨[⟨"scenario", 0, .pending⟩], by decide⟩
  deliveries := ⟨[⟨"delivery", "scenario", "event", 0, 0, true, .pending⟩], by decide⟩
  assertions := Table.empty
  schedules := ⟨[⟨"entry", "scenario", "attempt", "plan", 0, 0, 0, 0, 1, "initial.plan", none,
    "initial.schedule", none⟩], by decide⟩
  scenarios_pending := by decide
  deliveries_pending := by decide
  assertions_pending := by decide
  deliveries_scoped := by decide
  assertions_scoped := by decide
  deliveries_required := by decide
  assertions_required := by decide
  deliveries_placed := by decide
  schedules_initial := by decide

/-- The claim of the one scheduled attempt. -/
def singleClaim : AttemptScheduleClaim where
  scheduleEntryId := "entry"
  attemptId := "attempt"
  attemptPlanId := "plan"
  eventId := "event"
  deliveryId := "delivery"
  predecessorAttemptId := none
  condition := none
  transition :=
    { transitionId := "attempt.claim.attempt"
      entityId := "attempt"
      expectedState := some (.attempt .scheduled)
      newState := .attempt .claimed
      triggerCategory := "attempt_claimed"
      timestamp := ⟨"t", none⟩
      ownerEpoch := 0
      idempotencyKey := "attempt.claim.attempt"
      causalReference := none
      logicalTimeNs := some 0
      deliverySatisfaction := none
      attemptOutcome := none
      expected_typed := by rintro _ ⟨⟩; rfl }
  claim_edge := by decide

end WebhookConformance
