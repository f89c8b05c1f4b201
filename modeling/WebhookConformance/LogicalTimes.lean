import WebhookConformance.Validation

/-! Logical times against the `SafeInteger` fields of the manifest: what `_compile_scenario` and
`_attempt_templates` compute from the waits, backoffs and jitters that validation lets through. -/
namespace WebhookConformance

open Checked

def InSafeRange (v : Int) : Prop := -(maxSafeInteger : Int) ≤ v ∧ v ≤ maxSafeInteger

/-- The two ways a `SafeInteger` field refuses a value. -/
def safeIntegerErrors : List String :=
  ["Input should be greater than or equal to -9007199254740991",
   "Input should be less than or equal to 9007199254740991"]

def NotOnBound (e : String) : Prop := e ∉ safeIntegerErrors

instance (e : String) : Decidable (NotOnBound e) := inferInstanceAs (Decidable (¬ _))

theorem raises_safeInteger {v : Int} : Raises NotOnBound (safeInteger v) ↔ InSafeRange v := by
  unfold safeInteger
  split
  · rw [raises_error]
    refine iff_of_false (by decide) ?_
    rintro ⟨hlo, -⟩
    omega
  · split
    · rw [raises_error]
      refine iff_of_false (by decide) ?_
      rintro ⟨-, hhi⟩
      omega
    · refine iff_of_true raises_ok ⟨?_, ?_⟩ <;> omega

section GeneratorErrors

variable {g : ContextGenerator}

theorem raises_encodeContext {context : List String} :
    Raises NotOnBound (encodeContext context) := by
  refine raises_bind.mpr ⟨?_, fun components _ => raises_bind.mpr ⟨?_, fun _ _ => raises_ok⟩⟩
  · exact raises_ite (fun _ => raises_error.mpr (by decide)) fun _ =>
      raises_ite (fun _ => raises_error.mpr (by decide)) fun _ => raises_ok
  · refine raises_mapM fun component _ => ?_
    exact raises_ite (fun _ => raises_error.mpr (by decide)) fun _ => raises_ok

theorem raises_block {encoded : Bytes} {counter : Nat} :
    Raises NotOnBound (g.block encoded counter) :=
  raises_ite (fun _ => raises_error.mpr (by decide)) fun _ => raises_ok

theorem raises_streamSlice {encoded : Bytes} {offset length : Nat} :
    Raises NotOnBound (g.streamSlice encoded offset length) := by
  refine raises_ite (fun _ => raises_bind.mpr ⟨raises_error.mpr (by decide), ?_⟩) fun _ =>
    raises_bind.mpr ⟨raises_mapM fun counter _ => raises_block, fun _ _ => raises_ok⟩
  intro a ha
  cases ha

theorem raises_boundedIntLoop {encoded : Bytes} {lower : Int} {span width limit fuel : Nat}
    {offset : Nat} :
    Raises NotOnBound (g.boundedIntLoop encoded lower span width limit fuel offset) := by
  induction fuel generalizing offset with
  | zero => exact raises_error.mpr (by decide)
  | succ fuel ih =>
    unfold ContextGenerator.boundedIntLoop
    split
    · rename_i e he
      exact raises_error.mpr (raises_streamSlice e he)
    · exact raises_ite (fun _ => raises_ok) fun _ => ih

theorem raises_boundedInt {context : List String} {lower upper : Int} :
    Raises NotOnBound (g.boundedInt context lower upper) := by
  refine raises_ite (fun _ => raises_error.mpr (by decide)) fun _ => ?_
  split
  · rename_i e he
    exact raises_error.mpr (raises_encodeContext e he)
  · exact raises_boundedIntLoop

/-- No draw ends with the error of a manifest field. -/
theorem raises_templateJitter {scenarioId deliveryId : String} {jitter ordinal : Nat} :
    Raises NotOnBound (templateJitter g scenarioId deliveryId jitter ordinal) := by
  refine raises_ite (fun _ => raises_ok) fun _ => ?_
  unfold ContextGenerator.signedRetryJitter
  refine raises_ite (fun _ => raises_error.mpr (by decide)) fun _ => ?_
  refine raises_ite (fun _ => raises_error.mpr (by decide)) fun _ => ?_
  refine raises_ite (fun _ => raises_error.mpr (by decide)) fun _ => ?_
  refine raises_ite (fun _ => raises_error.mpr (by decide)) fun _ => ?_
  exact raises_ite (fun _ => raises_error.mpr (by decide)) fun _ => raises_boundedInt

theorem raises_plannedId {kind : PlannedIdKind} {key : List String} :
    Raises NotOnBound (plannedId g kind key) := by
  refine raises_bind.mpr ⟨?_, fun components _ => raises_bind.mpr ⟨?_, fun raw _ => ?_⟩⟩
  · refine raises_ite (fun _ => raises_error.mpr (by decide)) fun _ => ?_
    refine raises_ite (fun _ => raises_error.mpr (by decide)) fun _ => ?_
    exact raises_ite (fun _ => raises_error.mpr (by decide)) fun _ => raises_ok
  · refine raises_bind.mpr ⟨raises_encodeContext, fun encoded _ => ?_⟩
    exact raises_bind.mpr ⟨raises_mapM fun counter _ => raises_block, fun _ _ => raises_ok⟩
  · refine raises_bind.mpr ⟨?_, fun _ _ => raises_ok⟩
    exact raises_ite (fun _ => raises_error.mpr (by decide)) fun _ => raises_ok

end GeneratorErrors

section Templates

variable {g : ContextGenerator} {scenarioId deliveryId blob : String} {predicates : List Char}
  {jitter ordinal : Nat} {notBefore : Int}

/-- Draws that succeed one after the other, the first for the attempt after `ordinal`. -/
def Drawn (draw : Nat → Except String Int) : Nat → List Int → Prop
  | _, [] => True
  | ordinal, v :: vs => draw (ordinal + 1) = .ok v ∧ Drawn draw (ordinal + 1) vs

/-- The time after as many retries as there are draws: their backoffs and the draws added up. -/
def dueAfter (time : Int) (backoff : List Duration) (drawn : List Int) : Int :=
  time + (((backoff.take drawn.length).map fun d => (d.nanoseconds : Int)).sum + drawn.sum)

theorem dueAfter_cons {time v : Int} {delay : Duration} {delays : List Duration}
    {vs : List Int} :
    dueAfter time (delay :: delays) (v :: vs) =
      dueAfter (time + delay.nanoseconds + v) delays vs := by
  simp only [dueAfter, List.length_cons, List.take_succ_cons, List.map_cons, List.sum_cons]
  omega

theorem raises_attemptTemplate {condition : Option (List Char)} :
    Raises NotOnBound (attemptTemplate ordinal notBefore blob condition) ↔
      InSafeRange notBefore := by
  unfold attemptTemplate
  rw [raises_bind, raises_safeInteger]
  exact and_iff_left fun _ _ => raises_ok

/-- The loop stays off the bound exactly when every partial sum is in range. -/
theorem raises_laterTemplates {delays : List Duration} :
    Raises NotOnBound (laterTemplates g scenarioId deliveryId blob predicates jitter ordinal
        notBefore delays) ↔
      ∀ drawn, drawn ≠ [] → drawn.length ≤ delays.length →
        Drawn (templateJitter g scenarioId deliveryId jitter) ordinal drawn →
        InSafeRange (dueAfter notBefore delays drawn) := by
  induction delays generalizing ordinal notBefore with
  | nil =>
    refine iff_of_true raises_ok ?_
    intro drawn hne hlen
    simp only [List.length_nil, Nat.le_zero, List.length_eq_zero_iff] at hlen
    exact absurd hlen hne
  | cons delay delays ih =>
    unfold laterTemplates
    simp only [raises_bind, raises_templateJitter, raises_attemptTemplate, true_and, ih]
    constructor
    · intro h drawn hne hlen hdrawn
      cases drawn with
      | nil => exact absurd rfl hne
      | cons v vs =>
        obtain ⟨hsafe, hrest⟩ := h v hdrawn.1
        rw [dueAfter_cons]
        by_cases hvs : vs = []
        · subst hvs
          simpa [dueAfter] using hsafe
        · obtain ⟨t, ht⟩ : ∃ t, attemptTemplate (ordinal + 1) (notBefore + delay.nanoseconds + v)
              blob (some predicates) = .ok t := by
            simp only [attemptTemplate, safeInteger, not_lt.mpr hsafe.1, not_lt.mpr hsafe.2,
              if_false]
            exact ⟨_, rfl⟩
          exact (hrest t ht).1 vs hvs (by simpa using hlen) hdrawn.2
    · intro h v hv
      refine ⟨?_, fun t _ => ⟨fun vs _ hlen hvs => ?_, fun _ _ => raises_ok⟩⟩
      · have := h [v] (by simp) (by simp) ⟨hv, trivial⟩
        rw [dueAfter_cons] at this
        simpa [dueAfter] using this
      · have := h (v :: vs) (by simp) (by simpa using hlen) ⟨hv, hvs⟩
        rwa [dueAfter_cons] at this

end Templates

section Deliveries

/-- The models of one delivery, as the innermost loop builds them. -/
def buildDelivery (g : ContextGenerator) (scenarioId deliveryId blob : String)
    (action : DeliverAction) (logicalTimeNs : Int) (ordinal : Nat) :
    Except String DeliveryPlan := do
  let attempts ← attemptTemplates g scenarioId deliveryId blob action logicalTimeNs
  let time ← safeInteger logicalTimeNs
  return ⟨deliveryId, time, ordinal, action.concurrencyGroup, attempts⟩

/-- A delivery of the project under the identifiers the generator gives it. -/
structure PlannedDelivery where
  scenarioId : String
  deliveryId : String
  action : DeliverAction
  time : Int

/-- Its waits, backoffs and drawn jitters add up inside the safe range, from the first attempt
to the last. -/
def PlannedDelivery.SumsSafe (g : ContextGenerator) (d : PlannedDelivery) : Prop :=
  InSafeRange d.time ∧ ∀ retry ∈ d.action.retry, ∀ drawn, drawn.length ≤ retry.backoff.length →
    Drawn (templateJitter g d.scenarioId d.deliveryId retry.jitter.nanoseconds) 1 drawn →
    InSafeRange (dueAfter d.time retry.backoff drawn)

theorem raises_attemptTemplates {g : ContextGenerator} {d : PlannedDelivery} {blob : String} :
    Raises NotOnBound (attemptTemplates g d.scenarioId d.deliveryId blob d.action d.time) ↔
      d.SumsSafe g := by
  unfold attemptTemplates
  rw [raises_bind, raises_attemptTemplate]
  refine and_congr_right fun hsafe => ?_
  have hfirst : ∃ t, attemptTemplate 1 d.time blob none = .ok t := by
    simp only [attemptTemplate, safeInteger, not_lt.mpr hsafe.1, not_lt.mpr hsafe.2, if_false]
    exact ⟨_, rfl⟩
  obtain ⟨first, hf⟩ := hfirst
  cases hr : d.action.retry with
  | none => exact iff_of_true (fun _ _ => raises_ok) (by simp)
  | some retry =>
    simp only [raises_bind, raises_laterTemplates, Option.mem_def, Option.some.injEq,
      forall_eq']
    constructor
    · intro h drawn hlen hdrawn
      by_cases hne : drawn = []
      · subst hne
        simpa [dueAfter] using hsafe
      · exact (h first hf).1 drawn hne hlen hdrawn
    · intro h t _
      exact ⟨fun drawn _ hlen hdrawn => h drawn hlen hdrawn, fun _ _ => raises_ok⟩

theorem raises_buildDelivery {g : ContextGenerator} {d : PlannedDelivery} {blob : String}
    {ordinal : Nat} :
    Raises NotOnBound
        (buildDelivery g d.scenarioId d.deliveryId blob d.action d.time ordinal) ↔
      d.SumsSafe g := by
  unfold buildDelivery
  rw [raises_bind, raises_attemptTemplates]
  refine and_iff_left_of_imp fun hsafe attempts _ => ?_
  rw [raises_bind, raises_safeInteger]
  exact ⟨hsafe.1, fun _ _ => raises_ok⟩

end Deliveries

section Compile

/-- The deliveries of one scenario in plan order: natural key, action and logical time. -/
def plannedDeliveries (scenarioKey : List String) :
    Nat → Int → List ScenarioStep → List (List String × DeliverAction × Int)
  | _, _, [] => []
  | stepIndex, time, .wait d :: steps =>
    plannedDeliveries scenarioKey (stepIndex + 1) (time + d.nanoseconds) steps
  | stepIndex, time, .deliver action :: steps =>
    ((List.range action.count).map fun k =>
      (scenarioKey ++ [toString stepIndex, toString k, action.event], action, time)) ++
      plannedDeliveries scenarioKey (stepIndex + 1) time steps
  | stepIndex, time, _ :: steps => plannedDeliveries scenarioKey (stepIndex + 1) time steps

def scenarioKey (index : Nat) (scenario : ProjectScenario) : List String :=
  [toString index, scenario.id.text]

/-- `d` is a delivery of the project. -/
def ProjectConfig.Plans (config : ProjectConfig) (g : ContextGenerator) (d : PlannedDelivery) :
    Prop :=
  ∃ index scenario key, config.scenarios[index]? = some scenario ∧
    plannedId g .scenario (scenarioKey index scenario) = .ok d.scenarioId ∧
    (key, d.action, d.time) ∈
      plannedDeliveries (scenarioKey index scenario) 0 0 scenario.config.steps ∧
    plannedId g .delivery key = .ok d.deliveryId

variable {g : ContextGenerator} {requestBlob : DeliverAction → String} {key : List String}
  {scenarioId : String} {stepIndex ordinal : Nat} {time : Int}

theorem raises_compileCopies {action : DeliverAction} {left k : Nat}
    (h : ∀ j, k ≤ j → j < k + left → ∀ id, plannedId g .delivery
      (key ++ [toString stepIndex, toString j, action.event]) = .ok id →
      PlannedDelivery.SumsSafe g ⟨scenarioId, id, action, time⟩) :
    Raises NotOnBound
      (compileCopies g requestBlob key scenarioId stepIndex action time left k ordinal) := by
  induction left generalizing k ordinal with
  | zero => exact raises_ok
  | succ left ih =>
    refine raises_bind.mpr ⟨raises_plannedId, fun id hid => ?_⟩
    have hsafe := h k le_rfl (by omega) id hid
    refine raises_bind.mpr ⟨raises_attemptTemplates.mpr hsafe, fun attempts _ => ?_⟩
    refine raises_bind.mpr ⟨raises_safeInteger.mpr hsafe.1, fun t _ => ?_⟩
    refine raises_bind.mpr ⟨ih fun j hk hj => h j (by omega) (by omega), fun _ _ => raises_ok⟩

theorem raises_compileSteps {steps : List ScenarioStep}
    (h : ∀ planned ∈ plannedDeliveries key stepIndex time steps, ∀ id,
      plannedId g .delivery planned.1 = .ok id →
      PlannedDelivery.SumsSafe g ⟨scenarioId, id, planned.2.1, planned.2.2⟩) :
    Raises NotOnBound
      (compileSteps g requestBlob key scenarioId stepIndex time ordinal steps) := by
  induction steps generalizing stepIndex ordinal time with
  | nil => exact raises_ok
  | cons step steps ih =>
    cases step with
    | wait d => exact ih h
    | deliver action =>
      refine raises_bind.mpr ⟨raises_compileCopies fun j _ hj id hid => ?_, fun copies _ => ?_⟩
      · refine h (_, action, time) (List.mem_append_left _ (List.mem_map.mpr ⟨j, ?_, rfl⟩)) id hid
        exact List.mem_range.mpr (by omega)
      · exact raises_bind.mpr ⟨ih fun planned hp => h planned (List.mem_append_right _ hp),
          fun _ _ => raises_ok⟩
    | barrier name => exact ih h
    | observe observer checkpoint => exact ih h
    | restart => exact ih h

theorem raises_compileScenarios {scenarios : List ProjectScenario} {first : Nat}
    (h : ∀ i s, scenarios[i]? = some s → ∀ id, plannedId g .scenario (scenarioKey (first + i) s) =
      .ok id → ∀ planned ∈ plannedDeliveries (scenarioKey (first + i) s) 0 0 s.config.steps,
      ∀ deliveryId, plannedId g .delivery planned.1 = .ok deliveryId →
      PlannedDelivery.SumsSafe g ⟨id, deliveryId, planned.2.1, planned.2.2⟩) :
    Raises NotOnBound
      (compileScenarios g requestBlob first (scenarios.map ProjectScenario.config)) := by
  induction scenarios generalizing first with
  | nil => exact raises_ok
  | cons s scenarios ih =>
    refine raises_bind.mpr ⟨?_, fun plan _ => ?_⟩
    · refine raises_bind.mpr ⟨raises_plannedId, fun id hid => ?_⟩
      exact raises_bind.mpr ⟨raises_compileSteps (h 0 s rfl id hid), fun _ _ => raises_ok⟩
    · refine raises_bind.mpr ⟨ih fun i s' hs id hid => ?_, fun _ _ => raises_ok⟩
      have := h (i + 1) s' hs id
      rw [show first + (i + 1) = first + 1 + i by omega] at this
      exact this hid

end Compile

section Accepted

variable {config : ProjectConfig} {context : List DeliveryUserHeaders} {g : ContextGenerator}

end Accepted

/-- A delivery after one wait. -/
def lateScenario (wait : Duration) : ProjectScenario :=
  orderScenario ⟨"late", by decide⟩ [.wait wait, .deliver deliverOrder] orderAccepted
    ⟨by simp, by simp⟩

def lateProject (wait : Duration) : ProjectConfig :=
  orderProject ⟨.stripeV1, none⟩ noObservers noObservers_le (lateScenario wait) rfl

end WebhookConformance
