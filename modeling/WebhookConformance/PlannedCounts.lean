import WebhookConformance.BarrierInputs
import WebhookConformance.DomainSeparation

/-! What validation counts against what the compiler plans: deliveries and attempt templates of
every scenario, their ordinals and their ids. -/
namespace WebhookConformance

open Checked

section NaturalKeys

/-- The natural keys of the copies of one deliver step. -/
def copyKeys (scenarioKey : List String) (stepIndex : Nat) (event : String) (first count : Nat) :
    List (List String) :=
  (List.range' first count).map fun k => scenarioKey ++ [toString stepIndex, toString k, event]

/-- The natural keys of the deliveries of a scenario, in delivery order. -/
def stepKeys (scenarioKey : List String) : Nat → List ScenarioStep → List (List String)
  | _, [] => []
  | stepIndex, .deliver action :: steps =>
    copyKeys scenarioKey stepIndex action.event 0 action.count ++
      stepKeys scenarioKey (stepIndex + 1) steps
  | stepIndex, _ :: steps => stepKeys scenarioKey (stepIndex + 1) steps

def deliveryKeys : Nat → List ScenarioConfig → List (List String)
  | _, [] => []
  | index, scenario :: scenarios =>
    stepKeys [toString index, scenario.id] 0 scenario.steps ++ deliveryKeys (index + 1) scenarios

variable {scenarioKey key : List String} {stepIndex index : Nat}

theorem copyKeys_nodup {event : String} {first count : Nat} :
    (copyKeys scenarioKey stepIndex event first count).Nodup := by
  refine List.Nodup.map (fun k l h => ?_) List.nodup_range'
  have htail := List.append_cancel_left h
  simp only [List.cons.injEq, and_true, true_and] at htail
  exact toString_nat_injective htail

/-- The step of a key is one of the steps that are left. -/
theorem stepKeys_step {steps : List ScenarioStep} (h : key ∈ stepKeys scenarioKey stepIndex steps) :
    ∃ i, stepIndex ≤ i ∧ ∃ rest, key = scenarioKey ++ toString i :: rest := by
  induction steps generalizing stepIndex with
  | nil => cases h
  | cons step steps ih =>
    have hlater : key ∈ stepKeys scenarioKey (stepIndex + 1) steps →
        ∃ i, stepIndex ≤ i ∧ ∃ rest, key = scenarioKey ++ toString i :: rest := by
      intro h
      obtain ⟨i, hi, hkey⟩ := ih h
      exact ⟨i, by omega, hkey⟩
    cases step with
    | deliver action =>
      rcases List.mem_append.1 h with h | h
      · obtain ⟨k, -, rfl⟩ := List.mem_map.1 h
        exact ⟨stepIndex, le_rfl, _, rfl⟩
      · exact hlater h
    | wait d => exact hlater h
    | barrier name => exact hlater h
    | observe observer checkpoint => exact hlater h
    | restart => exact hlater h

theorem stepKeys_nodup {steps : List ScenarioStep} :
    (stepKeys scenarioKey stepIndex steps).Nodup := by
  induction steps generalizing stepIndex with
  | nil => exact List.nodup_nil
  | cons step steps ih =>
    cases step with
    | deliver action =>
      refine List.nodup_append.2 ⟨copyKeys_nodup, ih, ?_⟩
      intro key hkey other hother heq
      obtain ⟨k, -, rfl⟩ := List.mem_map.1 hkey
      obtain ⟨i, hi, rest, rfl⟩ := stepKeys_step hother
      have hstep := (List.cons.inj (List.append_cancel_left heq)).1
      have := toString_nat_injective hstep
      omega
    | wait d => exact ih
    | barrier name => exact ih
    | observe observer checkpoint => exact ih
    | restart => exact ih

theorem deliveryKeys_scenario {scenarios : List ScenarioConfig}
    (h : key ∈ deliveryKeys index scenarios) :
    ∃ i, index ≤ i ∧ ∃ rest, key = toString i :: rest := by
  induction scenarios generalizing index with
  | nil => cases h
  | cons scenario scenarios ih =>
    rcases List.mem_append.1 h with h | h
    · obtain ⟨i, -, rest, rfl⟩ := stepKeys_step h
      exact ⟨index, le_rfl, _, rfl⟩
    · obtain ⟨i, hi, hkey⟩ := ih h
      exact ⟨i, by omega, hkey⟩

/-- No two deliveries of a project have one natural key. -/
theorem deliveryKeys_nodup {scenarios : List ScenarioConfig} :
    (deliveryKeys index scenarios).Nodup := by
  induction scenarios generalizing index with
  | nil => exact List.nodup_nil
  | cons scenario scenarios ih =>
    refine List.nodup_append.2 ⟨stepKeys_nodup, ih, ?_⟩
    intro key hkey other hother hsame
    obtain ⟨step, -, rest, rfl⟩ := stepKeys_step hkey
    obtain ⟨i, hi, rest', rfl⟩ := deliveryKeys_scenario hother
    have := toString_nat_injective (List.cons.inj hsame).1
    omega

end NaturalKeys

section CompiledIds

variable {g : ContextGenerator} {requestBlob : DeliverAction → String}

/-- The delivery has the id of that key. -/
def IdentifiedBy (g : ContextGenerator) (key : List String) (d : DeliveryPlan) : Prop :=
  plannedId g .delivery key = .ok d.deliveryId

theorem compileCopies_keys {scenarioKey : List String} {scenarioId : String} {stepIndex : Nat}
    {action : DeliverAction} {time : Int} {left k ordinal : Nat} {ds : List DeliveryPlan}
    (h : compileCopies g requestBlob scenarioKey scenarioId stepIndex action time left k ordinal =
      .ok ds) :
    List.Forall₂ (IdentifiedBy g) (copyKeys scenarioKey stepIndex action.event k left) ds := by
  induction left generalizing k ordinal ds with
  | zero =>
    cases h
    exact .nil
  | succ left ih =>
    obtain ⟨deliveryId, hid, h⟩ := bind_ok h
    obtain ⟨attempts, -, h⟩ := bind_ok h
    obtain ⟨t, -, h⟩ := bind_ok h
    obtain ⟨rest, hrest, h⟩ := bind_ok h
    cases pure_ok h
    exact .cons hid (ih hrest)

theorem compileSteps_keys {scenarioKey : List String} {scenarioId : String}
    {stepIndex ordinal : Nat} {time : Int} {steps : List ScenarioStep} {ds : List DeliveryPlan}
    (h : compileSteps g requestBlob scenarioKey scenarioId stepIndex time ordinal steps = .ok ds) :
    List.Forall₂ (IdentifiedBy g) (stepKeys scenarioKey stepIndex steps) ds := by
  induction steps generalizing stepIndex ordinal time ds with
  | nil =>
    cases h
    exact .nil
  | cons step steps ih =>
    cases step with
    | deliver action =>
      obtain ⟨copies, hcopies, h⟩ := bind_ok h
      obtain ⟨rest, hrest, h⟩ := bind_ok h
      cases pure_ok h
      exact List.rel_append (compileCopies_keys hcopies) (ih hrest)
    | wait d => exact ih h
    | barrier name => exact ih h
    | observe observer checkpoint => exact ih h
    | restart => exact ih h

theorem compileScenarios_keys {index : Nat} {scenarios : List ScenarioConfig}
    {plans : List ScenarioPlan} (h : compileScenarios g requestBlob index scenarios = .ok plans) :
    List.Forall₂ (IdentifiedBy g) (deliveryKeys index scenarios)
      (plans.flatMap ScenarioPlan.deliveries) := by
  induction scenarios generalizing index plans with
  | nil =>
    cases h
    exact .nil
  | cons scenario scenarios ih =>
    obtain ⟨plan, hplan, h⟩ := bind_ok h
    obtain ⟨rest, hrest, h⟩ := bind_ok h
    cases pure_ok h
    obtain ⟨scenarioId, -, hplan⟩ := bind_ok hplan
    obtain ⟨ds, hds, hplan⟩ := bind_ok hplan
    cases pure_ok hplan
    exact List.rel_append (compileSteps_keys hds) (ih hrest)

/-- Keys that have different ids give deliveries with different ids. -/
theorem deliveryIds_nodup {keys : List (List String)} {ds : List DeliveryPlan}
    (h : List.Forall₂ (IdentifiedBy g) keys ds) (hkeys : keys.Nodup)
    (hinj : ∀ k ∈ keys, ∀ l ∈ keys, plannedId g .delivery k = plannedId g .delivery l → k = l) :
    (ds.map DeliveryPlan.deliveryId).Nodup := by
  induction h with
  | nil => exact List.nodup_nil
  | @cons key d keys ds hid hids ih =>
    rw [List.nodup_cons] at hkeys
    rw [List.map_cons, List.nodup_cons]
    refine ⟨fun hmem => ?_, ih hkeys.2 fun k hk l hl =>
      hinj k (List.mem_cons_of_mem _ hk) l (List.mem_cons_of_mem _ hl)⟩
    obtain ⟨d', hd', heq⟩ := List.mem_map.1 hmem
    obtain ⟨k, hk, hid'⟩ := exists_of_mem_right hids hd'
    have hsame : plannedId g .delivery key = plannedId g .delivery k := by
      rw [hid, hid', heq]
    rw [hinj key List.mem_cons_self k (List.mem_cons_of_mem _ hk) hsame] at hkeys
    exact hkeys.1 hk

end CompiledIds

section Counts

variable {g : ContextGenerator} {requestBlob : DeliverAction → String} {steps : List StepConfig}

/-- `attempts_per_delivery`. -/
def DeliverAction.attempts (action : DeliverAction) : Nat :=
  (action.retry.map RetryConfig.maxAttempts).getD 1

def ScenarioPlan.attemptCount (plan : ScenarioPlan) : Nat :=
  (plan.deliveries.map fun d => d.attemptPlan.length).sum

theorem CompiledDelivery.attempts {scenarioId : String} {source : DeliverAction × Int}
    {d : DeliveryPlan} (h : CompiledDelivery g requestBlob scenarioId source d) :
    d.attemptPlan.length = source.1.attempts := by
  obtain ⟨first, later, hplan, -, -, -, -, hnone, hsome⟩ := attemptTemplates_ok h.plan
  rw [hplan, List.length_cons]
  unfold DeliverAction.attempts
  cases hretry : source.1.retry with
  | none =>
    rw [hnone hretry]
    rfl
  | some retry =>
    rw [(hsome retry hretry).length_eq, retry.backoff_length]
    have := retry.maxAttempts_range.1
    simp only [Option.map_some, Option.getD_some]
    omega

/-- The step loop of validation counts the actions that the compiler plans. -/
theorem plannedActions_counts (time : Int) (first : Nat) :
    (plannedActions time (steps.map StepConfig.toStep)).length =
        ((deliverSteps first steps).map fun d => d.2.count).sum ∧
      ((plannedActions time (steps.map StepConfig.toStep)).map fun s => s.1.attempts).sum =
        ((deliverSteps first steps).map fun d =>
          d.2.count * (d.2.retry.map RetryConfig.maxAttempts).getD 1).sum := by
  induction steps generalizing time first with
  | nil => exact ⟨rfl, rfl⟩
  | cons step steps ih =>
    cases step with
    | deliver action =>
      obtain ⟨hcount, hattempts⟩ := ih time (first + 1)
      constructor
      · simp only [List.map_cons, StepConfig.toStep, plannedActions, deliverSteps,
          List.length_append, List.length_replicate, List.sum_cons, hcount]
      · rw [List.map_cons, StepConfig.toStep, plannedActions, deliverSteps, List.map_append,
          List.map_replicate, List.sum_append, List.sum_replicate_nat, List.map_cons, List.sum_cons,
          hattempts]
        rfl
    | wait d => exact ih _ _
    | barrier name hname => exact ih _ _
    | observe observer checkpoint => exact ih _ _
    | restart lifecycle => exact ih _ _

theorem CompiledScenario.counts {s : ProjectScenario} {plan : ScenarioPlan} {config : ProjectConfig}
    {context : List DeliveryUserHeaders} {i : Nat}
    (h : CompiledScenario g requestBlob s.config plan) :
    plan.deliveries.length = (ScenarioScope.mk config s i context).plannedDeliveries ∧
      plan.attemptCount = (ScenarioScope.mk config s i context).plannedAttempts := by
  obtain ⟨hcount, hattempts⟩ := @plannedActions_counts s.steps 0 0
  refine ⟨h.deliveries.length_eq.symm.trans hcount, Eq.trans ?_ hattempts⟩
  have hsame : ∀ {sources : List (DeliverAction × Int)} {ds : List DeliveryPlan},
      List.Forall₂ (CompiledDelivery g requestBlob plan.scenarioId) sources ds →
        (ds.map fun d => d.attemptPlan.length) = sources.map fun s => s.1.attempts := by
    intro sources ds hall
    induction hall with
    | nil => rfl
    | cons hd _ ih => rw [List.map_cons, List.map_cons, hd.attempts, ih]
  exact congrArg List.sum (hsame h.deliveries)

theorem compiled_semantics {config : ProjectConfig} {context : List DeliveryUserHeaders}
    {scenarios : List ProjectScenario} {plans : List ScenarioPlan}
    (h : List.Forall₂ (CompiledScenario g requestBlob) (scenarios.map ProjectScenario.config) plans)
    (first : Nat) :
    plans.map (fun s => s.deliveries.length) = ((scenarios.zipIdx first).map fun (s, i) =>
        (ScenarioScope.mk config s i context).plannedDeliveries) ∧
      plans.map ScenarioPlan.attemptCount = ((scenarios.zipIdx first).map fun (s, i) =>
        (ScenarioScope.mk config s i context).plannedAttempts) := by
  induction scenarios generalizing plans first with
  | nil =>
    cases h
    exact ⟨rfl, rfl⟩
  | cons s scenarios ih =>
    rw [List.map_cons] at h
    cases h with
    | cons hplan hplans =>
      obtain ⟨hcounts, hattempts⟩ := ih hplans (first + 1)
      obtain ⟨hcount, hattempt⟩ := @CompiledScenario.counts g requestBlob s _ config context first hplan
      constructor
      · rw [List.map_cons, List.zipIdx_cons, List.map_cons, hcounts, hcount]
      · rw [List.map_cons, List.zipIdx_cons, List.map_cons, hattempts, hattempt]

/-- A compiled manifest holds exactly the deliveries and the attempt templates that validation
counted, with ordinals from zero on, and with different ids where different keys have them. -/
theorem compiled_counts {config : ProjectConfig} {context : List DeliveryUserHeaders}
    {plans : List ScenarioPlan} (haccepted : AcceptedProject config context)
    (hcompiled : compileScenarios g requestBlob 0 (config.scenarios.map ProjectScenario.config) =
      .ok plans) :
    ∃ result, result = validateProjectSemantics config context ∧ result.diagnostics = [] ∧
      plans.map (fun s => s.deliveries.length) =
        result.scenarios.map ScenarioSemantics.plannedDeliveries ∧
      plans.map ScenarioPlan.attemptCount =
        result.scenarios.map ScenarioSemantics.plannedAttempts ∧
      (plans.map fun s => s.deliveries.length).sum = result.totalPlannedDeliveries ∧
      (plans.map ScenarioPlan.attemptCount).sum = result.totalPlannedAttempts ∧
      (∀ s ∈ plans, s.deliveries.map DeliveryPlan.ordinal = List.range s.deliveries.length) ∧
      ((∀ k ∈ deliveryKeys 0 (config.scenarios.map ProjectScenario.config),
          ∀ l ∈ deliveryKeys 0 (config.scenarios.map ProjectScenario.config),
            plannedId g .delivery k = plannedId g .delivery l → k = l) →
        ((plans.flatMap ScenarioPlan.deliveries).map DeliveryPlan.deliveryId).Nodup) := by
  have hscenarios := compileScenarios_ok hcompiled
  obtain ⟨hcounts, hattempts⟩ := @compiled_semantics g requestBlob config context _ _ hscenarios 0
  have hdeliveries : plans.map (fun s => s.deliveries.length) =
      (scenarioScopes config context).map ScenarioScope.plannedDeliveries := by
    rw [hcounts, scenarioScopes, List.map_map]
    rfl
  have htemplates : plans.map ScenarioPlan.attemptCount =
      (scenarioScopes config context).map ScenarioScope.plannedAttempts := by
    rw [hattempts, scenarioScopes, List.map_map]
    rfl
  refine ⟨_, rfl, haccepted, ?_, ?_, congrArg List.sum hdeliveries, congrArg List.sum htemplates,
    ?_, ?_⟩
  · rw [hdeliveries, validateProjectSemantics, List.map_map]
    rfl
  · rw [htemplates, validateProjectSemantics, List.map_map]
    rfl
  · intro s hs
    obtain ⟨scenario, -, hscenario⟩ := exists_of_mem_right hscenarios hs
    exact hscenario.ordinals
  · exact deliveryIds_nodup (compileScenarios_keys hcompiled) deliveryKeys_nodup

theorem pair_counts :
    ∃ plans, compileScenarios modularGenerator (fun _ => "blob") 0
        ((groupedProject "pair" (by decide)).scenarios.map ProjectScenario.config) = .ok plans ∧
      plans.map (fun s => s.deliveries.length) = [2] ∧
      (plans.map ScenarioPlan.attemptCount).sum = 2 ∧
      ((plans.flatMap ScenarioPlan.deliveries).map DeliveryPlan.deliveryId).Nodup := by
  obtain ⟨plans, hplans⟩ := exists_of_isOk (show (compileScenarios modularGenerator
    (fun _ => "blob") 0 ((groupedProject "pair" (by decide)).scenarios.map
      ProjectScenario.config)).isOk = true by decide +kernel)
  have haccepted : AcceptedProject (groupedProject "pair" (by decide)) [] := by decide +kernel
  obtain ⟨result, rfl, -, hdeliveries, -, -, hattempts, -, hids⟩ :=
    compiled_counts haccepted hplans
  refine ⟨plans, hplans, hdeliveries.trans ?_, hattempts.trans ?_, hids ?_⟩
  · decide +kernel
  · decide +kernel
  · decide +kernel

end Counts

end WebhookConformance
