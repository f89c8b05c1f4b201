import WebhookConformance.Plan
import WebhookConformance.Library.Grouping

/-! The concurrency-group and barrier rules of `scenario/validate.py`. -/
namespace WebhookConformance

inductive PathPart where
  | key (name : String)
  | index (n : Nat)
  deriving DecidableEq, Repr

def PathPart.render : PathPart → String
  | .key name => "." ++ name
  | .index n => "[" ++ toString n ++ "]"

/-- `_field_path`. -/
def fieldPath (parts : List PathPart) : String :=
  parts.foldl (fun rendered part => rendered ++ part.render) "$"

structure Diagnostic where
  code : String
  message : String
  fieldPath : String
  correctiveAction : String
  deriving DecidableEq, Repr

def maxSemanticReferenceLength : Nat := 4096
def minConcurrencyGroupDeliveries : Nat := 2

def validSemanticText (value : String) : Bool :=
  value ≠ "" ∧ value.length ≤ maxSemanticReferenceLength

structure GroupMember where
  stepIndex : Nat
  count : Nat
  eventId : String
  deriving DecidableEq, Repr

section Rules

variable (scenarioIndex : Nat)

def stepField (stepIndex : Nat) (field : List PathPart) : String :=
  fieldPath ([.key "scenarios", .index scenarioIndex, .key "steps", .index stepIndex] ++ field)

def groupInvalid (stepIndex : Nat) : Diagnostic :=
  ⟨"SCENARIO_CONCURRENCY_GROUP_INVALID", "Concurrency-group name must be nonempty and bounded.",
    stepField scenarioIndex stepIndex [.key "deliver", .key "concurrency_group"],
    "Use a nonempty name no longer than 4096 characters."⟩

def barrierInvalid (stepIndex : Nat) : Diagnostic :=
  ⟨"SCENARIO_BARRIER_NAME_INVALID", "Barrier name must be nonempty and bounded.",
    stepField scenarioIndex stepIndex [.key "barrier"],
    "Use a nonempty name no longer than 4096 characters."⟩

/-- The name checks of the step loop. -/
def nameDiagnostics : Nat → List ScenarioStep → List Diagnostic
  | _, [] => []
  | stepIndex, step :: steps =>
    (match step with
      | .deliver action =>
        if action.concurrencyGroup.all validSemanticText then []
        else [groupInvalid scenarioIndex stepIndex]
      | .barrier name => if validSemanticText name then [] else [barrierInvalid scenarioIndex stepIndex]
      | _ => []) ++ nameDiagnostics (stepIndex + 1) steps

/-- The insertions into `group_members`, in step order. -/
def memberInsertions : Nat → List ScenarioStep → List (String × GroupMember)
  | _, [] => []
  | stepIndex, .deliver action :: steps =>
    match action.concurrencyGroup.filter validSemanticText with
    | none => memberInsertions (stepIndex + 1) steps
    | some name =>
      (name, ⟨stepIndex, action.count, action.event⟩) :: memberInsertions (stepIndex + 1) steps
  | stepIndex, _ :: steps => memberInsertions (stepIndex + 1) steps

/-- The insertions into `barriers`. -/
def barrierInsertions : Nat → List ScenarioStep → List (String × Nat)
  | _, [] => []
  | stepIndex, .barrier name :: steps =>
    if validSemanticText name then (name, stepIndex) :: barrierInsertions (stepIndex + 1) steps
    else barrierInsertions (stepIndex + 1) steps
  | stepIndex, _ :: steps => barrierInsertions (stepIndex + 1) steps

def barriersOf (steps : List ScenarioStep) (name : String) : List Nat :=
  ((barrierInsertions 0 steps).filter (·.1 = name)).map Prod.snd

def groupField (members : List (String × GroupMember)) : String :=
  stepField scenarioIndex ((members.head?.map fun m => m.2.stepIndex).getD 0)
    [.key "deliver", .key "concurrency_group"]

def groupTooSmall (members : List (String × GroupMember)) : List Diagnostic :=
  if (members.map fun m => m.2.count).sum < minConcurrencyGroupDeliveries then
    [⟨"SCENARIO_CONCURRENCY_GROUP_TOO_SMALL",
      "A concurrency group requires at least two planned deliveries.",
      groupField scenarioIndex members,
      "Add another delivery to the group or remove the group."⟩]
  else []

def barrierCount (members : List (String × GroupMember)) (releases : List Nat) :
    List Diagnostic :=
  match releases with
  | [] =>
    [⟨"SCENARIO_CONCURRENCY_BARRIER_MISSING", "A concurrency group requires one matching barrier.",
      groupField scenarioIndex members, "Add one later barrier step with the same name."⟩]
  | _ :: duplicates =>
    duplicates.map fun stepIndex =>
      ⟨"SCENARIO_CONCURRENCY_BARRIER_DUPLICATE",
        "A concurrency group can be released by only one barrier.",
        stepField scenarioIndex stepIndex [.key "barrier"],
        "Keep exactly one matching barrier step."⟩

def barrierEarly (members : List (String × GroupMember)) (releases : List Nat) :
    List Diagnostic :=
  match releases with
  | [] => []
  | release :: _ =>
    if release ≤ (members.map fun m => m.2.stepIndex).foldl max 0 then
      [⟨"SCENARIO_CONCURRENCY_BARRIER_EARLY",
        "A concurrency barrier must follow every member declaration.",
        stepField scenarioIndex release [.key "barrier"],
        "Move the barrier after all deliveries in its group."⟩]
    else []

def barrierUnknown (name : String) (releases : List Nat) (groups : List String) :
    List Diagnostic :=
  if name ∈ groups then []
  else releases.map fun stepIndex =>
    ⟨"SCENARIO_BARRIER_GROUP_NOT_FOUND", "Barrier does not name a configured concurrency group.",
      stepField scenarioIndex stepIndex [.key "barrier"],
      "Name a concurrency group declared by a delivery step."⟩

/-- Every diagnostic the group rules add for one scenario. -/
def concurrencyDiagnostics (scenario : ScenarioConfig) : List Diagnostic :=
  let steps := scenario.steps
  let groups := Grouping.groupInOrder Prod.fst (memberInsertions 0 steps)
  let barriers := Grouping.groupInOrder Prod.fst (barrierInsertions 0 steps)
  nameDiagnostics scenarioIndex 0 steps ++
    (groups.flatMap fun group =>
      let releases := barriersOf steps group.1
      groupTooSmall scenarioIndex group.2 ++ barrierCount scenarioIndex group.2 releases ++
        barrierEarly scenarioIndex group.2 releases) ++
    barriers.flatMap fun barrier =>
      barrierUnknown scenarioIndex barrier.1 (barrier.2.map Prod.snd) (groups.map Prod.fst)

end Rules

end WebhookConformance
