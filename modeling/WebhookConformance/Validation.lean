import WebhookConformance.MutationRules

/-! Semantic validation of a project, `scenario/validate.py`. What the step loop accumulates is
computed here variable by variable, each as a list in step order. -/
namespace WebhookConformance

section FirstIndexes

/-- The keys of `_first_indexes` with their first positions, from position `index` on. -/
def firstIndexesFrom (seen : List (String × Nat)) : Nat → List String → List (String × Nat)
  | _, [] => seen
  | index, value :: values =>
    firstIndexesFrom (if (seen.lookup value).isSome then seen else seen ++ [(value, index)])
      (index + 1) values

def firstIndexes (values : List String) : List (String × Nat) := firstIndexesFrom [] 0 values

/-- The positions `_first_indexes` reports: those of values that stood before. -/
def repeatedIndexes (before : List String) : Nat → List String → List Nat
  | _, [] => []
  | index, value :: values =>
    (if value ∈ before then [index] else []) ++ repeatedIndexes (before ++ [value]) (index + 1) values

/-- The `id` of a repeated item in a collection. -/
def duplicateDiagnostics (collection : List PathPart) (code message action : String)
    (values : List String) : List SemanticDiagnostic :=
  (repeatedIndexes [] 0 values).map fun index =>
    Diagnostic.planning
      ⟨code, message, fieldPath (collection ++ [.index index, .key "id"]), action⟩

end FirstIndexes

section CycleMembers

/-- The variables of the depth-first search; colours are 0, 1, 2 in the source. -/
inductive NodeColor where
  | white
  | gray
  | black
  deriving DecidableEq, Repr

structure CycleSearch where
  color : List (String × NodeColor)
  parent : List (String × Option String)
  members : List String
  stack : List (String × Nat)

def CycleSearch.paint (s : CycleSearch) (node : String) (c : NodeColor) : CycleSearch :=
  { s with color := s.color.map fun e => if e.1 = node then (e.1, c) else e }

/-- The walk from a node back along the parents to the closing node of a cycle. -/
def parentChain (parent : List (String × Option String)) (target : String) :
    Nat → Option String → List String
  | 0, _ => []
  | _ + 1, none => []
  | left + 1, some cursor =>
    if cursor = target then []
    else cursor :: parentChain parent target left ((parent.lookup cursor).getD none)

/-- One turn of the search with `node` on top of the stack. -/
def searchStep (nodeCount : Nat) (edges : List (String × List String)) (s : CycleSearch)
    (node : String) (next : Nat) (below : List (String × Nat)) : CycleSearch :=
  match ((edges.lookup node).getD [])[next]? with
  | none => { s.paint node .black with stack := below }
  | some neighbor =>
    let s := { s with stack := (node, next + 1) :: below }
    match s.color.lookup neighbor with
    | none => s
    | some .white =>
      { s.paint neighbor .gray with
        parent := (neighbor, some node) :: s.parent
        stack := (neighbor, 0) :: s.stack }
    | some .gray =>
      { s with members :=
        s.members ++ neighbor :: parentChain s.parent neighbor (nodeCount + 1) (some node) }
    | some .black => s

/-- The inner loop. Every turn passes an edge or blackens a node, so the fuel of
`cycleMembers` suffices. -/
def searchLoop (nodeCount : Nat) (edges : List (String × List String)) :
    Nat → CycleSearch → CycleSearch
  | 0, s => s
  | fuel + 1, s =>
    match s.stack with
    | [] => s
    | (node, next) :: below => searchLoop nodeCount edges fuel (searchStep nodeCount edges s node next below)

def searchFuel (nodes : List String) (edges : List (String × List String)) : Nat :=
  nodes.length + (nodes.map fun n => ((edges.lookup n).getD []).length).sum + 1

def searchFrom (nodes : List String) (edges : List (String × List String)) (s : CycleSearch)
    (start : String) : CycleSearch :=
  match s.color.lookup start with
  | some .white =>
    searchLoop nodes.length edges (searchFuel nodes edges)
      { s.paint start .gray with parent := (start, none) :: s.parent, stack := [(start, 0)] }
  | _ => s

/-- `_cycle_members`. -/
def cycleMembers (nodes : List String) (edges : List (String × List String)) : List String :=
  (nodes.foldl (searchFrom nodes edges) ⟨nodes.map fun n => (n, .white), [], [], []⟩).members

end CycleMembers

structure FaultOccurrence where
  faultClass : FaultClass
  fieldPath : String
  operatorId : Option String
  deriving DecidableEq, Repr

/-- `_Faults`: only the first occurrence of a class is kept. -/
def firstFaults : List FaultOccurrence → List FaultOccurrence
  | [] => []
  | f :: faults => f :: (firstFaults faults).filter fun g => g.faultClass ≠ f.faultClass

structure DeliveryUserHeaders where
  scenarioIndex : Nat
  stepIndex : Nat
  names : List String
  deriving DecidableEq, Repr

/-- What the checks of one scenario read. -/
structure ScenarioScope where
  config : ProjectConfig
  scenario : ProjectScenario
  index : Nat
  headers : List DeliveryUserHeaders

section ScenarioRules

variable (scope : ScenarioScope)

def ScenarioScope.path (field : List PathPart) : String :=
  fieldPath ([.key "scenarios", .index scope.index] ++ field)

/-- A planning diagnostic of this scenario. -/
def ScenarioScope.report (code message : String) (field : List PathPart) (action : String) :
    SemanticDiagnostic :=
  Diagnostic.planning ⟨code, message, scope.path field, action⟩

/-- The event of that name, through the index of its first declaration. -/
def ScenarioScope.event? (name : String) : Option EventConfig :=
  scope.scenario.events.find? fun e => e.id.text = name

def ScenarioScope.eventIds : List String := scope.scenario.events.map fun e => e.id.text

section Dependencies

def dependencyDiagnostics (eventIndex : Nat) (event : EventConfig) : List SemanticDiagnostic :=
  event.dependencies.zipIdx.flatMap fun (dependency, i) =>
    let field := [PathPart.key "events", .index eventIndex, .key "depends_on", .index i]
    if dependency = event.id.text then
      [scope.report "SCENARIO_EVENT_DEPENDENCY_SELF" "An event cannot depend on itself." field
        "Remove the self-dependency."]
    else
      reportIf (scope.event? dependency).isNone
        (scope.report "SCENARIO_EVENT_DEPENDENCY_NOT_FOUND"
          "Event dependency reference does not resolve." field
          "Reference another event ID in this scenario.")

def eventDiagnostics (eventIndex : Nat) (event : EventConfig) : List SemanticDiagnostic :=
  reportIf (scope.config.fixture? event.fixture).isNone
      (scope.report "SCENARIO_EVENT_FIXTURE_NOT_FOUND" "Event fixture reference does not resolve."
        [.key "events", .index eventIndex, .key "fixture"]
        "Reference one configured fixture ID.") ++
    dependencyDiagnostics scope eventIndex event

/-- `dependency_edges`: the resolved dependencies of each event's first declaration. -/
def dependencyEdges : List (String × List String) :=
  scope.scenario.events.map fun event =>
    (event.id.text, event.dependencies.filter fun d =>
      d ≠ event.id.text && (scope.event? d).isSome)

def dependencyCycleDiagnostics : List SemanticDiagnostic :=
  let indexes := firstIndexes scope.eventIds
  let members := cycleMembers (indexes.map Prod.fst) (dependencyEdges scope)
  indexes.flatMap fun (eventId, eventIndex) =>
    reportIf (decide (eventId ∈ members))
      (scope.report "SCENARIO_EVENT_DEPENDENCY_CYCLE"
        "Event dependencies must form an acyclic graph."
        [.key "events", .index eventIndex, .key "depends_on"]
        "Remove one dependency edge from the cycle.")

end Dependencies

section Steps

def ScenarioScope.signer? (action : ConfiguredDelivery) : Option SignerConfig :=
  action.signer.bind scope.config.signers.get?

def ScenarioScope.mutationScope (stepIndex : Nat) (action : ConfiguredDelivery)
    (event : EventConfig) : MutationScope where
  maxRequestBytes := scope.config.limits.maxRequestBytes
  scenarioIndex := scope.index
  stepIndex
  description := scope.scenario.description
  fixture := scope.config.fixture? event.fixture
  signer := scope.signer? action

/-- The user headers bound to a delivery step. -/
def ScenarioScope.userHeaders (stepIndex : Nat) : List String :=
  ((scope.headers.find? fun b => b.scenarioIndex = scope.index && b.stepIndex = stepIndex).map
    DeliveryUserHeaders.names).getD []

def deliverDiagnostics (stepIndex : Nat) (action : ConfiguredDelivery) : List SemanticDiagnostic :=
  let field (name : String) : List PathPart :=
    [.key "steps", .index stepIndex, .key "deliver", .key name]
  reportIf (scope.event? action.event).isNone
      (scope.report "SCENARIO_DELIVERY_EVENT_NOT_FOUND" "Delivery event reference does not resolve."
        (field "event") "Reference one event declared by this scenario.") ++
    reportIf (action.signer.isSome && (scope.signer? action).isNone)
      (scope.report "SCENARIO_DELIVERY_SIGNER_NOT_FOUND"
        "Delivery signer reference does not resolve." (field "signer")
        "Reference one configured signer profile.") ++
    reportIf (!action.concurrencyGroup.all validSemanticText)
      (groupInvalid scope.index stepIndex).planning ++
    (scope.event? action.event).toList.flatMap fun event =>
      validateMutations (scope.mutationScope stepIndex action event) action.mutations ++
        (scope.signer? action).toList.flatMap fun signer =>
          validateSignerHeaders signer (scope.userHeaders stepIndex) (scope.path (field "signer"))

def observeDiagnostics (stepIndex : Nat) (observer checkpoint : String) :
    List SemanticDiagnostic :=
  let field (name : String) : List PathPart :=
    [.key "steps", .index stepIndex, .key "observe", .key name]
  reportIf (scope.config.observers.get? observer).isNone
      (scope.report "SCENARIO_OBSERVE_OBSERVER_NOT_FOUND"
        "Observe-step observer reference does not resolve." (field "observer")
        "Reference one configured observer profile.") ++
    reportIf (!validSemanticText checkpoint)
      (scope.report "SCENARIO_OBSERVE_CHECKPOINT_INVALID"
        "Observe-step checkpoint must be nonempty and bounded." (field "checkpoint")
        "Use a nonempty checkpoint no longer than 4096 characters.")

def restartDiagnostics (stepIndex : Nat) (lifecycle : ProfileName) : List SemanticDiagnostic :=
  let field : List PathPart := [.key "steps", .index stepIndex, .key "restart"]
  match scope.config.lifecycles.get? lifecycle.text with
  | none =>
    [scope.report "SCENARIO_RESTART_LIFECYCLE_NOT_FOUND"
      "Restart-step lifecycle reference does not resolve." field
      "Reference one configured lifecycle profile."]
  | some profile =>
    reportIf (!profile.enabled)
      (scope.report "SCENARIO_RESTART_LIFECYCLE_DISABLED"
        "Restart step requires an enabled lifecycle profile." field
        "Enable the lifecycle profile or remove the restart step.")

def waitOverflow (stepIndex : Nat) : SemanticDiagnostic :=
  ⟨⟨"SCENARIO_LOGICAL_TIME_OVERFLOW",
    "Scenario waits exceed the signed 64-bit logical-time range.",
    scope.path [.key "steps", .index stepIndex, .key "wait"],
    "Reduce cumulative scenario wait durations."⟩, .resourceLimit, []⟩

/-- The diagnostics of the step loop. The logical time is `none` once it has overflowed; it is
bounded by the largest duration, not by what a manifest can hold. -/
def stepsDiagnostics : Nat → Option Nat → List StepConfig → List SemanticDiagnostic
  | _, _, [] => []
  | stepIndex, time, .deliver action :: steps =>
    deliverDiagnostics scope stepIndex action ++ stepsDiagnostics (stepIndex + 1) time steps
  | stepIndex, none, .wait _ :: steps => stepsDiagnostics (stepIndex + 1) none steps
  | stepIndex, some time, .wait duration :: steps =>
    if int64Max - duration.nanoseconds < time then
      waitOverflow scope stepIndex :: stepsDiagnostics (stepIndex + 1) none steps
    else stepsDiagnostics (stepIndex + 1) (some (time + duration.nanoseconds)) steps
  | stepIndex, time, .barrier name _ :: steps =>
    reportIf (!validSemanticText name) (barrierInvalid scope.index stepIndex).planning ++
      stepsDiagnostics (stepIndex + 1) time steps
  | stepIndex, time, .observe observer checkpoint :: steps =>
    observeDiagnostics scope stepIndex observer checkpoint ++
      stepsDiagnostics (stepIndex + 1) time steps
  | stepIndex, time, .restart lifecycle :: steps =>
    restartDiagnostics scope stepIndex lifecycle ++ stepsDiagnostics (stepIndex + 1) time steps

end Steps

section Deliveries

/-- The deliver steps with their positions. -/
def deliverSteps : Nat → List StepConfig → List (Nat × ConfiguredDelivery)
  | _, [] => []
  | stepIndex, .deliver action :: steps => (stepIndex, action) :: deliverSteps (stepIndex + 1) steps
  | stepIndex, _ :: steps => deliverSteps (stepIndex + 1) steps

def ScenarioScope.deliveries : List (Nat × ConfiguredDelivery) :=
  deliverSteps 0 scope.scenario.steps

def ScenarioScope.deliveriesOf (event : String) : List (Nat × ConfiguredDelivery) :=
  scope.deliveries.filter fun d => d.2.event = event

/-- `delivered_events`. -/
def ScenarioScope.delivered (event : String) : Bool :=
  (scope.event? event).isSome && !(scope.deliveriesOf event).isEmpty

/-- `first_delivery_step`. -/
def ScenarioScope.firstDeliveryStep (event : String) : Option Nat :=
  if (scope.event? event).isSome then (scope.deliveriesOf event).head?.map Prod.fst else none

/-- `event_delivery_counts`. -/
def ScenarioScope.deliveryCount (event : String) : Nat :=
  ((scope.deliveriesOf event).map fun d => d.2.count).sum

/-- The valid group of a delivery. -/
def deliveryGroup (action : ConfiguredDelivery) : Option String :=
  action.concurrencyGroup.filter validSemanticText

/-- `event_ungrouped_counts`; an invalid group counts as none. -/
def ScenarioScope.ungroupedCount (event : String) : Nat :=
  (((scope.deliveriesOf event).filter fun d => (deliveryGroup d.2).isNone).map fun d => d.2.count).sum

/-- `event_groups`. -/
def ScenarioScope.eventGroups (event : String) : List String :=
  ((scope.deliveriesOf event).filterMap fun d => deliveryGroup d.2).dedup

def ScenarioScope.plannedDeliveries : Nat := (scope.deliveries.map fun d => d.2.count).sum

def ScenarioScope.plannedAttempts : Nat :=
  (scope.deliveries.map fun d =>
    d.2.count * (d.2.retry.map RetryConfig.maxAttempts).getD 1).sum

end Deliveries

section GroupRules

/-- The group and barrier rules after the step loop. -/
def groupRules (scenarioIndex : Nat) (scenario : ScenarioConfig) : List Diagnostic :=
  let steps := scenario.steps
  let groups := Grouping.groupInOrder Prod.fst (memberInsertions 0 steps)
  let barriers := Grouping.groupInOrder Prod.fst (barrierInsertions 0 steps)
  (groups.flatMap fun group =>
      let releases := barriersOf steps group.1
      groupTooSmall scenarioIndex group.2 ++ barrierCount scenarioIndex group.2 releases ++
        barrierEarly scenarioIndex group.2 releases) ++
    barriers.flatMap fun barrier =>
      barrierUnknown scenarioIndex barrier.1 (barrier.2.map Prod.snd) (groups.map Prod.fst)

end GroupRules

section Faults

def deliverFaults (stepIndex : Nat) (action : ConfiguredDelivery) : List FaultOccurrence :=
  let field (part : List PathPart) : String :=
    scope.path ([.key "steps", .index stepIndex, .key "deliver"] ++ part)
  ((action.retry.map RetryConfig.retryOn).getD []).zipIdx.map (fun (p, i) =>
      ⟨.retry p, field [.key "retry", .key "retry_on", .index i], none⟩) ++
    (scope.event? action.event).toList.flatMap fun _ =>
      action.mutations.zipIdx.map fun (m, i) =>
        ⟨.mutation m.operator, field [.key "mutations", .index i], some m.operator.id⟩

def stepFaults : Nat → List StepConfig → List FaultOccurrence
  | _, [] => []
  | stepIndex, .deliver action :: steps =>
    deliverFaults scope stepIndex action ++ stepFaults (stepIndex + 1) steps
  | stepIndex, .restart _ :: steps =>
    ⟨.lifecycleRestart, scope.path [.key "steps", .index stepIndex, .key "restart"], none⟩ ::
      stepFaults (stepIndex + 1) steps
  | stepIndex, _ :: steps => stepFaults (stepIndex + 1) steps

def groupFaults : List FaultOccurrence :=
  (Grouping.groupInOrder Prod.fst (memberInsertions 0 scope.scenario.config.steps)).flatMap
    fun group =>
      if (group.2.map fun m => m.2.count).sum < minConcurrencyGroupDeliveries then []
      else [⟨.deliveryConcurrent, groupField scope.index group.2, none⟩]

def eventFaults (eventIndex : Nat) (event : EventConfig) : List FaultOccurrence :=
  let id := event.id.text
  (if scope.deliveryCount id > 1 ∧
      (scope.ungroupedCount id > 0 ∨ (scope.eventGroups id).length ≠ 1) then
    [⟨.deliveryDuplicate, scope.path [.key "events", .index eventIndex, .key "id"], none⟩]
  else []) ++
    event.dependencies.flatMap fun dependency =>
      match scope.firstDeliveryStep dependency, scope.firstDeliveryStep id with
      | some other, some own =>
        if own < other ∨ (scope.eventGroups id).any (· ∈ scope.eventGroups dependency) then
          [⟨.deliveryDependencyOrderReversal,
            scope.path [.key "events", .index eventIndex, .key "depends_on"], none⟩]
        else []
      | _, _ => []

def ScenarioScope.faults : List FaultOccurrence :=
  firstFaults (stepFaults scope 0 scope.scenario.steps ++ groupFaults scope ++
    scope.scenario.events.zipIdx.flatMap fun (event, i) => eventFaults scope i event)

end Faults

def undeliveredDiagnostics (eventIndex : Nat) (event : EventConfig) : List SemanticDiagnostic :=
  reportIf (!scope.delivered event.id.text)
    (scope.report "SCENARIO_EVENT_NOT_DELIVERED"
      "Every scenario event requires at least one planned delivery."
      [.key "events", .index eventIndex, .key "id"]
      "Add a delivery step that references this event.")

section Assertions

def attemptDiagnostics (assertionIndex : Nat) (selector : AttemptSelector) :
    List SemanticDiagnostic :=
  let field : List PathPart :=
    [.key "assertions", .index assertionIndex, .key "attempt", .key "event"]
  if (scope.event? selector.event).isNone then
    [scope.report "SCENARIO_ASSERTION_EVENT_NOT_FOUND"
      "Assertion attempt event reference does not resolve." field
      "Reference one event declared by this scenario."]
  else
    reportIf (!scope.delivered selector.event)
      (scope.report "SCENARIO_ASSERTION_EVENT_NOT_DELIVERED"
        "Assertion selects an event with no planned delivery." field
        "Add a delivery for the selected event.")

/-- `_validate_observer_query`: only the observer of a query is looked at. -/
def observerQueryDiagnostics (query : ConfigObserverQuery) (field : List PathPart) :
    List SemanticDiagnostic :=
  reportIf (scope.config.observers.get? query.observer.text).isNone
    (scope.report "SCENARIO_ASSERTION_OBSERVER_NOT_FOUND"
      "Assertion observer reference does not resolve." field
      "Reference one configured observer profile.")

/-- The queries of an observer assertion with the fields that hold them. -/
def ObserverCheck.queries : ObserverCheck → List (ConfigObserverQuery × List PathPart)
  | .count _ query _ _ => [(query, [.key "query"])]
  | .existence _ query => [(query, [.key "query"])]
  | .resourceField query _ _ _ _ => [(query, [.key "query"])]
  | .eventualState query _ _ _ _ => [(query, [.key "query"])]
  | .orderedTransition query _ _ _ _ => [(query, [.key "query"])]
  | .noPartialSideEffect predicates _ _ =>
    predicates.zipIdx.map fun (p, i) => (p.query, [.key "predicates", .index i, .key "query"])

def assertionDiagnostics (assertionIndex : Nat) (assertion : ScenarioAssertion) :
    List SemanticDiagnostic :=
  match assertion with
  | .httpStatus _ _ attempt => attemptDiagnostics scope assertionIndex attempt
  | .acknowledgementDeadline _ _ attempt _ => attemptDiagnostics scope assertionIndex attempt
  | .observer a =>
    a.check.queries.flatMap fun (query, field) =>
      observerQueryDiagnostics scope query
        ([.key "assertions", .index assertionIndex] ++ field ++ [.key "observer"])

end Assertions

def ScenarioAssertion.id : ScenarioAssertion → ProfileName
  | .httpStatus id _ _ => id
  | .acknowledgementDeadline id _ _ _ => id
  | .observer a => a.id

/-- `_validate_scenario`. -/
def scenarioDiagnostics : List SemanticDiagnostic :=
  duplicateDiagnostics [.key "scenarios", .index scope.index, .key "events"]
      "SCENARIO_DUPLICATE_EVENT_ID" "Event IDs must be unique within a scenario."
      "Give every event in this scenario a unique ID." scope.eventIds ++
    duplicateDiagnostics [.key "scenarios", .index scope.index, .key "assertions"]
      "SCENARIO_DUPLICATE_ASSERTION_ID" "Assertion IDs must be unique within a scenario."
      "Give every assertion in this scenario a unique ID."
      (scope.scenario.assertions.map fun a => a.id.text) ++
    (scope.scenario.events.zipIdx.flatMap fun (event, i) => eventDiagnostics scope i event) ++
    dependencyCycleDiagnostics scope ++
    stepsDiagnostics scope 0 (some 0) scope.scenario.steps ++
    (groupRules scope.index scope.scenario.config).map Diagnostic.planning ++
    (scope.scenario.events.zipIdx.flatMap fun (event, i) => undeliveredDiagnostics scope i event) ++
    scope.scenario.assertions.zipIdx.flatMap fun (assertion, i) =>
      assertionDiagnostics scope i assertion

end ScenarioRules

section Project

variable (config : ProjectConfig) (context : List DeliveryUserHeaders)

def StepConfig.isDeliver : StepConfig → Bool
  | .deliver _ => true
  | _ => false

/-- A binding of user headers names an existing delivery step. -/
def bindingDiagnostics (bindingIndex : Nat) (binding : DeliveryUserHeaders) :
    List SemanticDiagnostic :=
  let path := fieldPath
    [.key "scenario_validation_context", .key "user_headers", .index bindingIndex]
  match config.scenarios[binding.scenarioIndex]? with
  | none =>
    [Diagnostic.planning ⟨"SCENARIO_HEADER_CONTEXT_SCENARIO_NOT_FOUND",
      "User-header binding does not identify a configured scenario.", path,
      "Bind user headers to an existing scenario index."⟩]
  | some scenario =>
    if scenario.steps[binding.stepIndex]?.any StepConfig.isDeliver then
      reportIf (binding.names.any fun name => decide (name ∈ harnessRequestHeaders))
        (Diagnostic.planning ⟨"SCENARIO_USER_HEADER_RESERVED",
          "User-supplied header conflicts with a harness-owned request header.", path,
          "Remove framing, routing, proxy, and harness-generated headers."⟩)
    else
      [Diagnostic.planning ⟨"SCENARIO_HEADER_CONTEXT_DELIVERY_NOT_FOUND",
        "User-header binding does not identify a delivery step.", path,
        "Bind user headers to an existing delivery-step index."⟩]

def lifecycleDiagnostics : List SemanticDiagnostic :=
  config.lifecycles.entries.flatMap fun (name, lifecycle) =>
    reportIf (config.observers.get? lifecycle.readinessObserver.text).isNone
      (Diagnostic.planning ⟨"SCENARIO_LIFECYCLE_OBSERVER_NOT_FOUND",
        "Lifecycle readiness observer reference does not resolve.",
        fieldPath [.key "lifecycles", .key name.text, .key "readiness_observer"],
        "Reference one configured observer profile."⟩)

def scenarioScopes : List ScenarioScope :=
  config.scenarios.zipIdx.map fun (scenario, i) => ⟨config, scenario, i, context⟩

section Baselines

def ScenarioScope.faultClasses (scope : ScenarioScope) : List FaultClass :=
  scope.faults.map FaultOccurrence.faultClass

/-- `semantic_by_id`: the first scenario of that name. -/
def referencedScenario (scopes : List ScenarioScope) (id : String) : Option ScenarioScope :=
  scopes.find? fun scope => scope.scenario.id.text = id

def requiredBaselines (scope : ScenarioScope) : List SemanticDiagnostic :=
  if scope.faultClasses.length > 1 then
    (scope.faultClasses.filter fun f =>
      f ∉ scope.scenario.baselines.map BaselineConfig.faultClass).map fun f =>
        ⟨⟨"SCENARIO_BASELINE_REQUIRED", "Multi-fault scenario lacks a required one-fault baseline.",
          scope.path [.key "baselines"], "Add a baseline mapping for every included fault class."⟩,
          .planningError, [("fault_class", .text f.value)]⟩
  else []

def baselineDiagnostics (scopes : List ScenarioScope) (scope : ScenarioScope) (index : Nat)
    (baseline : BaselineConfig) : List SemanticDiagnostic :=
  let field (name : String) : String := scope.path [.key "baselines", .index index, .key name]
  reportIf (decide (baseline.faultClass ∉ scope.faultClasses))
      ⟨⟨"SCENARIO_BASELINE_UNUSED_FAULT_CLASS",
        "Baseline mapping names a fault not present in this scenario.", field "fault_class",
        "Remove the mapping or select an included fault class."⟩, .planningError,
        [("fault_class", .text baseline.faultClass.value)]⟩ ++
    (if baseline.scenario = scope.scenario.id then
      [Diagnostic.planning ⟨"SCENARIO_BASELINE_SELF_REFERENCE",
        "A scenario cannot use itself as a one-fault baseline.", field "scenario",
        "Reference a separate one-fault scenario."⟩]
    else
      match referencedScenario scopes baseline.scenario.text with
      | none =>
        [Diagnostic.planning ⟨"SCENARIO_BASELINE_NOT_FOUND",
          "Baseline scenario reference does not resolve.", field "scenario",
          "Reference one configured one-fault scenario ID."⟩]
      | some referenced =>
        match referenced.faultClasses with
        | [fault] =>
          reportIf (decide (fault ≠ baseline.faultClass))
            ⟨⟨"SCENARIO_BASELINE_FAULT_MISMATCH",
              "Referenced one-fault scenario does not match the mapped fault class.",
              field "scenario", "Reference the matching one-fault scenario."⟩, .planningError,
              [("fault_class", .text baseline.faultClass.value),
               ("baseline_fault_class", .text fault.value)]⟩
        | faults =>
          [⟨⟨"SCENARIO_BASELINE_NOT_ONE_FAULT",
            "Referenced baseline must contain exactly one fault class.", field "scenario",
            "Reference a scenario containing exactly the mapped fault."⟩, .planningError,
            [("fault_count", .number faults.length)]⟩])

/-- The resolved baseline references of each scenario. -/
def baselineEdges (scopes : List ScenarioScope) : List (String × List String) :=
  scopes.map fun scope =>
    (scope.scenario.id.text,
      (scope.scenario.baselines.filter fun b =>
        b.scenario ≠ scope.scenario.id && (referencedScenario scopes b.scenario.text).isSome).map
          fun b => b.scenario.text)

def baselinesDiagnostics (scopes : List ScenarioScope) : List SemanticDiagnostic :=
  let indexes := firstIndexes (scopes.map fun scope => scope.scenario.id.text)
  let members := cycleMembers (indexes.map Prod.fst) (baselineEdges scopes)
  (scopes.flatMap fun scope =>
    requiredBaselines scope ++ scope.scenario.baselines.zipIdx.flatMap fun (baseline, i) =>
      baselineDiagnostics scopes scope i baseline) ++
    indexes.flatMap fun (scenarioId, index) =>
      reportIf (decide (scenarioId ∈ members))
        (Diagnostic.planning ⟨"SCENARIO_BASELINE_CYCLE",
          "Baseline scenario references must form an acyclic graph.",
          fieldPath [.key "scenarios", .index index, .key "baselines"],
          "Remove one baseline reference from the cycle."⟩)

end Baselines

section Limits

def limitDiagnostic (code message field action : String) (limit observed : Nat) :
    List SemanticDiagnostic :=
  reportIf (decide (limit < observed))
    ⟨⟨code, message, fieldPath [.key "limits", .key field], action⟩, .resourceLimit,
      [("limit", .number limit), ("observed", .number observed)]⟩

def totalEvents : Nat := (config.scenarios.map fun s => s.events.length).sum

def totalPlannedAttempts (scopes : List ScenarioScope) : Nat :=
  (scopes.map ScenarioScope.plannedAttempts).sum

def limitDiagnostics (scopes : List ScenarioScope) : List SemanticDiagnostic :=
  limitDiagnostic "SCENARIO_EVENT_LIMIT_EXCEEDED"
      "The project exceeds its configured logical-event limit." "max_events"
      "Reduce declared scenario events or raise max_events within its cap."
      config.limits.maxEvents (totalEvents config) ++
    limitDiagnostic "SCENARIO_ATTEMPT_LIMIT_EXCEEDED"
      "The project exceeds its configured physical-attempt limit." "max_attempts"
      "Reduce deliveries or retries, or raise max_attempts within its cap."
      config.limits.maxAttempts (totalPlannedAttempts scopes)

end Limits

/-- Everything that is added, before the bound on the number of diagnostics. -/
def projectDiagnostics : List SemanticDiagnostic :=
  let scopes := scenarioScopes config context
  (context.zipIdx.flatMap fun (binding, i) => bindingDiagnostics config i binding) ++
    duplicateDiagnostics [.key "fixtures"] "SCENARIO_DUPLICATE_FIXTURE_ID"
      "Fixture IDs must be unique." "Give every fixture a unique ID."
      (config.fixtures.map fun f => f.id.text) ++
    duplicateDiagnostics [.key "scenarios"] "SCENARIO_DUPLICATE_ID" "Scenario IDs must be unique."
      "Give every scenario a unique ID." (config.scenarios.map fun s => s.id.text) ++
    lifecycleDiagnostics config ++ scopes.flatMap scenarioDiagnostics ++
    baselinesDiagnostics scopes ++ limitDiagnostics config scopes

def maxScenarioDiagnostics : Nat := 50

/-- `_Diagnostics.finish`: the last of a full list gives way to the note that some are omitted. -/
def finishDiagnostics (ds : List SemanticDiagnostic) : List SemanticDiagnostic :=
  if ds.length ≤ maxScenarioDiagnostics then ds
  else ds.take (maxScenarioDiagnostics - 1) ++
    [⟨⟨"SCENARIO_DIAGNOSTIC_LIMIT", "Additional scenario errors were omitted.", fieldPath [],
      "Fix the reported errors, then validate the project again."⟩, .resourceLimit,
      [("maximum", .number maxScenarioDiagnostics)]⟩]

structure ScenarioSemantics where
  scenarioId : String
  scenarioIndex : Nat
  eventIds : List String
  faultOccurrences : List FaultOccurrence
  plannedDeliveries : Nat
  plannedAttempts : Nat
  deriving DecidableEq

def ScenarioScope.semantics (scope : ScenarioScope) : ScenarioSemantics :=
  ⟨scope.scenario.id.text, scope.index, scope.eventIds, scope.faults, scope.plannedDeliveries,
    scope.plannedAttempts⟩

structure ScenarioValidationResult where
  scenarios : List ScenarioSemantics
  diagnostics : List SemanticDiagnostic
  totalEvents : Nat
  totalPlannedDeliveries : Nat
  totalPlannedAttempts : Nat
  deriving DecidableEq

def validateProjectSemantics : ScenarioValidationResult :=
  let scopes := scenarioScopes config context
  ⟨scopes.map ScenarioScope.semantics, finishDiagnostics (projectDiagnostics config context),
    totalEvents config, (scopes.map ScenarioScope.plannedDeliveries).sum,
    totalPlannedAttempts scopes⟩

/-- `ScenarioValidationResult.ok`. -/
def AcceptedProject : Prop := (validateProjectSemantics config context).diagnostics = []

instance : Decidable (AcceptedProject config context) :=
  inferInstanceAs (Decidable (_ = []))

variable {config context}

theorem finishDiagnostics_eq_nil {ds : List SemanticDiagnostic} :
    finishDiagnostics ds = [] ↔ ds = [] := by
  unfold finishDiagnostics
  split
  · rfl
  · rename_i hlong
    constructor
    · intro h
      simp at h
    · rintro rfl
      exact absurd (Nat.zero_le _) hlong

theorem acceptedProject_iff : AcceptedProject config context ↔ projectDiagnostics config context = [] :=
  finishDiagnostics_eq_nil

/-- An accepted project has no diagnostic for any of its scenarios. -/
theorem AcceptedProject.scenario (h : AcceptedProject config context) {i : Nat} {s : ProjectScenario}
    (hs : config.scenarios[i]? = some s) :
    scenarioDiagnostics ⟨config, s, i, context⟩ = [] := by
  have hall := acceptedProject_iff.mp h
  simp only [projectDiagnostics, List.append_eq_nil_iff] at hall
  obtain ⟨⟨⟨-, hscopes⟩, -⟩, -⟩ := hall
  apply List.flatMap_eq_nil_iff.mp hscopes
  exact List.mem_map.mpr ⟨(s, i), List.mem_zipIdx_iff_getElem?.mpr hs, rfl⟩

section AcceptedDeliveries

variable {stepIndex : Nat} {action : ConfiguredDelivery} {steps : List StepConfig}

theorem stepsDiagnostics_deliver {scope : ScenarioScope} {first : Nat} {time : Option Nat}
    (h : stepsDiagnostics scope first time steps = [])
    (hmem : (stepIndex, action) ∈ deliverSteps first steps) :
    deliverDiagnostics scope stepIndex action = [] := by
  induction steps generalizing first time with
  | nil => exact absurd hmem List.not_mem_nil
  | cons step steps ih =>
    cases step with
    | deliver planned =>
      obtain ⟨hdeliver, hrest⟩ := List.append_eq_nil_iff.1 h
      obtain heq | hmem := List.mem_cons.1 hmem
      · cases heq
        exact hdeliver
      · exact ih hrest hmem
    | wait d =>
      cases time with
      | none => exact ih h hmem
      | some time =>
        unfold stepsDiagnostics at h
        split at h
        · cases h
        · exact ih h hmem
    | barrier name hname => exact ih (List.append_eq_nil_iff.1 h).2 hmem
    | observe observer checkpoint => exact ih (List.append_eq_nil_iff.1 h).2 hmem
    | restart lifecycle => exact ih (List.append_eq_nil_iff.1 h).2 hmem

/-- What the compiler plans is a delivery of the project. -/
theorem plannedActions_deliver {time : Int} {source : DeliverAction × Int}
    (h : source ∈ plannedActions time (steps.map StepConfig.toStep)) (first : Nat) :
    ∃ i action, (i, action) ∈ deliverSteps first steps ∧ source.1 = action.toDeliverAction := by
  induction steps generalizing time first with
  | nil => exact absurd h List.not_mem_nil
  | cons step steps ih =>
    cases step with
    | deliver planned =>
      obtain h | h := List.mem_append.1 h
      · exact ⟨first, planned, List.mem_cons_self, congrArg Prod.fst (List.eq_of_mem_replicate h)⟩
      · obtain ⟨i, action, hmem, hsource⟩ := ih h (first + 1)
        exact ⟨i, action, List.mem_cons_of_mem _ hmem, hsource⟩
    | wait d => exact ih h (first + 1)
    | barrier name hname => exact ih h (first + 1)
    | observe observer checkpoint => exact ih h (first + 1)
    | restart lifecycle => exact ih h (first + 1)

theorem AcceptedProject.deliver {i : Nat} {s : ProjectScenario}
    (h : AcceptedProject config context) (hs : config.scenarios[i]? = some s)
    (hmem : (stepIndex, action) ∈ deliverSteps 0 s.steps) :
    deliverDiagnostics ⟨config, s, i, context⟩ stepIndex action = [] := by
  have hdiagnostics := h.scenario hs
  simp only [scenarioDiagnostics, List.append_eq_nil_iff] at hdiagnostics
  obtain ⟨⟨⟨⟨-, hsteps⟩, -⟩, -⟩, -⟩ := hdiagnostics
  exact stepsDiagnostics_deliver hsteps hmem

/-- A group of an accepted project is nonempty and bounded, and nothing more. -/
theorem AcceptedProject.group {i : Nat} {s : ProjectScenario} {source : DeliverAction × Int}
    {name : String} (h : AcceptedProject config context) (hs : config.scenarios[i]? = some s)
    (hsource : source ∈ plannedActions 0 s.config.steps)
    (hname : source.1.concurrencyGroup = some name) : validSemanticText name = true := by
  obtain ⟨stepIndex, action, hmem, hsource⟩ := plannedActions_deliver hsource 0
  have hdeliver := h.deliver hs hmem
  simp only [deliverDiagnostics, List.append_eq_nil_iff, reportIf_eq_nil] at hdeliver
  obtain ⟨⟨-, hgroup⟩, -⟩ := hdeliver
  rw [hsource] at hname
  rw [hname] at hgroup
  simpa using hgroup

end AcceptedDeliveries

end Project

end WebhookConformance
