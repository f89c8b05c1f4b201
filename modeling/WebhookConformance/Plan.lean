import WebhookConformance.Identifiers

/-! Scenario configuration and its compilation to delivery plans: the delivery part of
`config/models.py`, `manifest/models.py` and `manifest/compiler.py`. -/
namespace WebhookConformance

def maxSafeInteger : Nat := 2 ^ 53 - 1

/-- An exact nonnegative duration in signed-int64 nanoseconds. -/
structure Duration where
  nanoseconds : Nat
  le_max : nanoseconds ≤ int64Max
  deriving DecidableEq

/-- `RetryOn` of the configuration and `RetryPredicate` of the scheduler: one vocabulary. -/
inductive RetryPredicate where
  | timedOut
  | connectionFailed
  | retryableStatus
  deriving DecidableEq, Repr

def RetryPredicate.value : RetryPredicate → List Char
  | .timedOut => "timed_out".toList
  | .connectionFailed => "connection_failed".toList
  | .retryableStatus => "retryable_status".toList

/-- Inverse of `value`: the `RetryPredicate(piece)` lookup. -/
def RetryPredicate.ofValue (piece : List Char) : Option RetryPredicate :=
  [.timedOut, .connectionFailed, .retryableStatus].find? fun p => p.value = piece

inductive RetryStatusSelector where
  | status (code : Nat)
  | statusClass (hundreds : Nat)
  deriving DecidableEq, Repr

/-- The fields are those of `RetryConfig`; the proofs are its validators. -/
structure RetryConfig where
  maxAttempts : Nat
  backoff : List Duration
  retryOn : List RetryPredicate
  retryableStatuses : Option (List RetryStatusSelector)
  jitter : Duration
  maxAttempts_range : 1 ≤ maxAttempts ∧ maxAttempts ≤ 32
  backoff_length : backoff.length = maxAttempts - 1
  retryOn_nodup : retryOn.Nodup
  retryOn_nil_iff : retryOn = [] ↔ maxAttempts = 1
  statuses_iff : retryableStatuses.isSome = true ↔ RetryPredicate.retryableStatus ∈ retryOn

structure DeliverAction where
  event : String
  count : Nat
  concurrencyGroup : Option String
  retry : Option RetryConfig
  count_range : 1 ≤ count ∧ count ≤ 128

theorem RetryConfig.two_attempts : 1 ≤ 2 ∧ 2 ≤ 32 := by decide

theorem DeliverAction.one_copy : 1 ≤ 1 ∧ 1 ≤ 128 := by decide

inductive ScenarioStep where
  | deliver (action : DeliverAction)
  | wait (duration : Duration)
  | barrier (name : String)
  | observe (observer checkpoint : String)
  | restart

structure ScenarioConfig where
  id : String
  steps : List ScenarioStep

structure AttemptTemplate where
  ordinal : Nat
  notBeforeLogicalNs : Int
  requestBlob : String
  headersSha256 : String
  conditionalOn : Option (List Char)
  deriving DecidableEq, Repr

structure DeliveryPlan where
  deliveryId : String
  logicalTimeNs : Int
  ordinal : Nat
  concurrencyGroup : Option String
  attemptPlan : List AttemptTemplate
  deriving DecidableEq, Repr

structure ScenarioPlan where
  scenarioId : String
  deliveries : List DeliveryPlan
  deriving DecidableEq, Repr

/-- The pydantic `SafeInteger` bound, checked whenever a manifest model is built. -/
def safeInteger (v : Int) : Except String Int :=
  if v < -(maxSafeInteger : Int) then
    .error "Input should be greater than or equal to -9007199254740991"
  else if (maxSafeInteger : Int) < v then
    .error "Input should be less than or equal to 9007199254740991"
  else .ok v

def jitterPolicyVersion : String := "retry-jitter-v1"

/-- `sha256_digest(b"[]")`. -/
def emptyHeadersDigest : String :=
  "sha256:4f53cda18c2baa0c0354bb5f9a3ecbe5ed12ab4d8e11ba873c2f11161202b945"

def attemptTemplate (ordinal : Nat) (notBefore : Int) (requestBlob : String)
    (conditionalOn : Option (List Char)) : Except String AttemptTemplate := do
  let time ← safeInteger notBefore
  return ⟨ordinal, time, requestBlob, emptyHeadersDigest, conditionalOn⟩

section AttemptTemplates

variable (g : ContextGenerator) (scenarioId deliveryId requestBlob : String)

/-- The draw of `_attempt_templates`: a zero bound is not drawn at all. -/
def templateJitter (jitter : Nat) (ordinal : Nat) : Except String Int :=
  if jitter = 0 then .ok 0
  else g.signedRetryJitter scenarioId deliveryId ordinal jitterPolicyVersion jitter

/-- The turns of the loop after the first: one for each backoff, `ordinal` and `notBefore`
being those of the template before it. The signed jitter is added as it is drawn. -/
def laterTemplates (predicates : List Char) (jitter : Nat) :
    Nat → Int → List Duration → Except String (List AttemptTemplate)
  | _, _, [] => .ok []
  | ordinal, notBefore, delay :: delays => do
    let drawn ← templateJitter g scenarioId deliveryId jitter (ordinal + 1)
    let next := notBefore + delay.nanoseconds + drawn
    let template ← attemptTemplate (ordinal + 1) next requestBlob (some predicates)
    let rest ← laterTemplates predicates jitter (ordinal + 1) next delays
    return template :: rest

def attemptTemplates (action : DeliverAction) (logicalTimeNs : Int) :
    Except String (List AttemptTemplate) := do
  let first ← attemptTemplate 1 logicalTimeNs requestBlob none
  match action.retry with
  | none => return [first]
  | some retry =>
    let predicates := ['|'].intercalate (retry.retryOn.map RetryPredicate.value)
    let later ← laterTemplates g scenarioId deliveryId requestBlob predicates
      retry.jitter.nanoseconds 1 logicalTimeNs retry.backoff
    return first :: later

end AttemptTemplates

section Compile

variable (g : ContextGenerator) (requestBlob : DeliverAction → String)

/-- The `count` deliveries of one deliver step; `k` copies are already compiled. -/
def compileCopies (scenarioKey : List String) (scenarioId : String) (stepIndex : Nat)
    (action : DeliverAction) (logicalTimeNs : Int) :
    Nat → Nat → Nat → Except String (List DeliveryPlan)
  | 0, _, _ => .ok []
  | left + 1, k, ordinal => do
    let deliveryId ← plannedId g .delivery
      (scenarioKey ++ [toString stepIndex, toString k, action.event])
    let attempts ← attemptTemplates g scenarioId deliveryId (requestBlob action) action
      logicalTimeNs
    let time ← safeInteger logicalTimeNs
    let rest ← compileCopies scenarioKey scenarioId stepIndex action logicalTimeNs left (k + 1)
      (ordinal + 1)
    return ⟨deliveryId, time, ordinal, action.concurrencyGroup, attempts⟩ :: rest

/-- The step loop of `_compile_scenario`. Barrier, observe and restart steps are skipped. -/
def compileSteps (scenarioKey : List String) (scenarioId : String) :
    Nat → Int → Nat → List ScenarioStep → Except String (List DeliveryPlan)
  | _, _, _, [] => .ok []
  | stepIndex, logicalTimeNs, ordinal, step :: steps =>
    match step with
    | .wait d =>
      compileSteps scenarioKey scenarioId (stepIndex + 1) (logicalTimeNs + d.nanoseconds)
        ordinal steps
    | .deliver action => do
      let copies ← compileCopies g requestBlob scenarioKey scenarioId stepIndex action
        logicalTimeNs action.count 0 ordinal
      let rest ← compileSteps scenarioKey scenarioId (stepIndex + 1) logicalTimeNs
        (ordinal + action.count) steps
      return copies ++ rest
    | _ => compileSteps scenarioKey scenarioId (stepIndex + 1) logicalTimeNs ordinal steps

def compileScenario (scenarioIndex : Nat) (scenario : ScenarioConfig) :
    Except String ScenarioPlan := do
  let scenarioKey := [toString scenarioIndex, scenario.id]
  let scenarioId ← plannedId g .scenario scenarioKey
  let deliveries ← compileSteps g requestBlob scenarioKey scenarioId 0 0 0 scenario.steps
  return ⟨scenarioId, deliveries⟩

def compileScenarios : Nat → List ScenarioConfig → Except String (List ScenarioPlan)
  | _, [] => .ok []
  | index, scenario :: scenarios => do
    let plan ← compileScenario g requestBlob index scenario
    let rest ← compileScenarios (index + 1) scenarios
    return plan :: rest

end Compile

/-- The action and the logical time of every planned delivery, in delivery order. -/
def plannedActions : Int → List ScenarioStep → List (DeliverAction × Int)
  | _, [] => []
  | time, .wait d :: steps => plannedActions (time + d.nanoseconds) steps
  | time, .deliver action :: steps =>
    List.replicate action.count (action, time) ++ plannedActions time steps
  | time, _ :: steps => plannedActions time steps

theorem safeInteger_ok {v w : Int} (h : safeInteger v = .ok w) :
    w = v ∧ -(maxSafeInteger : Int) ≤ v ∧ v ≤ maxSafeInteger := by
  unfold safeInteger at h
  split at h
  · cases h
  · split at h
    · cases h
    · cases h
      refine ⟨rfl, ?_, ?_⟩ <;> omega

theorem attemptTemplate_ok {ordinal : Nat} {notBefore : Int} {blob : String}
    {condition : Option (List Char)} {t : AttemptTemplate}
    (h : attemptTemplate ordinal notBefore blob condition = .ok t) :
    t = ⟨ordinal, notBefore, blob, emptyHeadersDigest, condition⟩ ∧
      -(maxSafeInteger : Int) ≤ notBefore ∧ notBefore ≤ maxSafeInteger := by
  obtain ⟨time, ht, hp⟩ := Checked.bind_ok h
  obtain ⟨rfl, hlo, hhi⟩ := safeInteger_ok ht
  exact ⟨(Checked.pure_ok hp).symm, hlo, hhi⟩

/-- What the loop leaves behind: each later template follows the one before it by its backoff
plus the drawn jitter. -/
def TemplatesAfter (draw : Nat → Except String Int) (predicates : List Char) :
    Nat → Int → List Duration → List AttemptTemplate → Prop
  | _, _, [], [] => True
  | ordinal, notBefore, delay :: delays, t :: ts =>
    (∃ v, draw (ordinal + 1) = .ok v ∧ t.notBeforeLogicalNs = notBefore + delay.nanoseconds + v) ∧
      t.ordinal = ordinal + 1 ∧ t.conditionalOn = some predicates ∧
      (-(maxSafeInteger : Int) ≤ t.notBeforeLogicalNs ∧ t.notBeforeLogicalNs ≤ maxSafeInteger) ∧
      TemplatesAfter draw predicates (ordinal + 1) t.notBeforeLogicalNs delays ts
  | _, _, _, _ => False

theorem laterTemplates_ok {g : ContextGenerator} {scenarioId deliveryId blob : String}
    {predicates : List Char} {jitter ordinal : Nat} {notBefore : Int} {delays : List Duration}
    {ts : List AttemptTemplate}
    (h : laterTemplates g scenarioId deliveryId blob predicates jitter ordinal notBefore delays =
      .ok ts) :
    TemplatesAfter (templateJitter g scenarioId deliveryId jitter) predicates ordinal notBefore
      delays ts := by
  induction delays generalizing ordinal notBefore ts with
  | nil =>
    cases h
    trivial
  | cons delay delays ih =>
    obtain ⟨v, hv, h⟩ := Checked.bind_ok h
    obtain ⟨t, ht, h⟩ := Checked.bind_ok h
    obtain ⟨rest, hrest, h⟩ := Checked.bind_ok h
    obtain ⟨rfl, hsafe⟩ := attemptTemplate_ok ht
    cases Checked.pure_ok h
    exact ⟨⟨v, hv, rfl⟩, rfl, rfl, hsafe, ih hrest⟩

/-- The joined `retry_on` values. -/
def RetryConfig.predicates (retry : RetryConfig) : List Char :=
  ['|'].intercalate (retry.retryOn.map RetryPredicate.value)

theorem attemptTemplates_ok {g : ContextGenerator} {scenarioId deliveryId blob : String}
    {action : DeliverAction} {time : Int} {ts : List AttemptTemplate}
    (h : attemptTemplates g scenarioId deliveryId blob action time = .ok ts) :
    ∃ first later, ts = first :: later ∧ first.ordinal = 1 ∧
      first.notBeforeLogicalNs = time ∧ first.conditionalOn = none ∧
      (-(maxSafeInteger : Int) ≤ time ∧ time ≤ maxSafeInteger) ∧
      (action.retry = none → later = []) ∧
      ∀ retry, action.retry = some retry →
        TemplatesAfter (templateJitter g scenarioId deliveryId retry.jitter.nanoseconds)
          retry.predicates 1 time retry.backoff later := by
  obtain ⟨first, hf, h⟩ := Checked.bind_ok h
  obtain ⟨rfl, hsafe⟩ := attemptTemplate_ok hf
  cases hr : action.retry with
  | none =>
    rw [hr] at h
    cases Checked.pure_ok h
    exact ⟨_, [], rfl, rfl, rfl, rfl, hsafe, fun _ => rfl, by simp⟩
  | some retry =>
    rw [hr] at h
    obtain ⟨later, hl, h⟩ := Checked.bind_ok h
    cases Checked.pure_ok h
    refine ⟨_, later, rfl, rfl, rfl, rfl, hsafe, by simp, ?_⟩
    intro retry' he
    cases he
    exact laterTemplates_ok hl

theorem TemplatesAfter.length_eq {draw : Nat → Except String Int} {predicates : List Char}
    {ordinal : Nat} {notBefore : Int} {delays : List Duration} {ts : List AttemptTemplate}
    (h : TemplatesAfter draw predicates ordinal notBefore delays ts) :
    ts.length = delays.length := by
  induction delays generalizing ordinal notBefore ts with
  | nil =>
    cases ts with
    | nil => rfl
    | cons t ts => exact h.elim
  | cons delay delays ih =>
    cases ts with
    | nil => exact h.elim
    | cons t ts => simp [ih h.2.2.2.2]

theorem TemplatesAfter.ordinals {draw : Nat → Except String Int} {predicates : List Char}
    {ordinal : Nat} {notBefore : Int} {delays : List Duration} {ts : List AttemptTemplate}
    (h : TemplatesAfter draw predicates ordinal notBefore delays ts) :
    ts.map AttemptTemplate.ordinal = List.range' (ordinal + 1) ts.length := by
  induction delays generalizing ordinal notBefore ts with
  | nil =>
    cases ts with
    | nil => rfl
    | cons t ts => exact h.elim
  | cons delay delays ih =>
    cases ts with
    | nil => exact h.elim
    | cons t ts => simp [List.range'_succ, h.2.1, ih h.2.2.2.2]

theorem TemplatesAfter.get {draw : Nat → Except String Int} {predicates : List Char}
    {ordinal k : Nat} {notBefore : Int} {delays : List Duration} {ts : List AttemptTemplate}
    {t : AttemptTemplate} (h : TemplatesAfter draw predicates ordinal notBefore delays ts)
    (ht : ts[k]? = some t) :
    t.ordinal = ordinal + k + 1 ∧ t.conditionalOn = some predicates ∧
      (-(maxSafeInteger : Int) ≤ t.notBeforeLogicalNs ∧ t.notBeforeLogicalNs ≤ maxSafeInteger) := by
  induction k generalizing ordinal notBefore delays ts with
  | zero =>
    cases ts with
    | nil => simp at ht
    | cons u ts =>
      cases delays with
      | nil => exact h.elim
      | cons delay delays =>
        simp only [List.getElem?_cons_zero, Option.some.injEq] at ht
        subst ht
        exact ⟨h.2.1, h.2.2.1, h.2.2.2.1⟩
  | succ k ih =>
    cases ts with
    | nil => simp at ht
    | cons u ts =>
      cases delays with
      | nil => exact h.elim
      | cons delay delays =>
        obtain ⟨ho, hrest⟩ := ih h.2.2.2.2 (by simpa using ht)
        exact ⟨by omega, hrest⟩

/-- One step of the compiled times, by position. -/
theorem TemplatesAfter.step {draw : Nat → Except String Int} {predicates : List Char}
    {ordinal k : Nat} {notBefore a b : Int} {delay : Duration} {delays : List Duration}
    {ts : List AttemptTemplate}
    (h : TemplatesAfter draw predicates ordinal notBefore delays ts)
    (hd : delays[k]? = some delay)
    (ha : (notBefore :: ts.map AttemptTemplate.notBeforeLogicalNs)[k]? = some a)
    (hb : (ts.map AttemptTemplate.notBeforeLogicalNs)[k]? = some b) :
    ∃ v, draw (ordinal + k + 1) = .ok v ∧ b = a + delay.nanoseconds + v := by
  induction k generalizing ordinal notBefore delays ts with
  | zero =>
    cases delays with
    | nil => simp at hd
    | cons d ds =>
      cases ts with
      | nil => exact h.elim
      | cons t ts =>
        simp only [List.getElem?_cons_zero, List.map_cons, Option.some.injEq] at hd ha hb
        subst hd ha hb
        exact h.1
  | succ k ih =>
    cases delays with
    | nil => simp at hd
    | cons d ds =>
      cases ts with
      | nil => exact h.elim
      | cons t ts =>
        simp only [List.getElem?_cons_succ, List.map_cons] at hd ha hb
        have := ih h.2.2.2.2 hd ha hb
        simpa [Nat.add_assoc, Nat.add_comm 1 k] using this

section CompileSpec

variable {g : ContextGenerator} {requestBlob : DeliverAction → String}

/-- One compiled delivery against the action and time it was planned from. -/
structure CompiledDelivery (g : ContextGenerator) (requestBlob : DeliverAction → String)
    (scenarioId : String) (source : DeliverAction × Int) (d : DeliveryPlan) : Prop where
  time : d.logicalTimeNs = source.2
  group : d.concurrencyGroup = source.1.concurrencyGroup
  plan : attemptTemplates g scenarioId d.deliveryId (requestBlob source.1) source.1 source.2 =
    .ok d.attemptPlan
  identity : ∃ key, plannedId g .delivery key = .ok d.deliveryId

theorem compileCopies_ok {key : List String} {scenarioId : String} {stepIndex : Nat}
    {action : DeliverAction} {time : Int} {left k ordinal : Nat} {ds : List DeliveryPlan}
    (h : compileCopies g requestBlob key scenarioId stepIndex action time left k ordinal =
      .ok ds) :
    List.Forall₂ (CompiledDelivery g requestBlob scenarioId)
        (List.replicate left (action, time)) ds ∧
      ds.map DeliveryPlan.ordinal = List.range' ordinal left := by
  induction left generalizing k ordinal ds with
  | zero =>
    cases h
    exact ⟨.nil, rfl⟩
  | succ left ih =>
    obtain ⟨deliveryId, hid, h⟩ := Checked.bind_ok h
    obtain ⟨attempts, hat, h⟩ := Checked.bind_ok h
    obtain ⟨t, ht, h⟩ := Checked.bind_ok h
    obtain ⟨rest, hrest, h⟩ := Checked.bind_ok h
    obtain ⟨he, -, -⟩ := safeInteger_ok ht
    cases Checked.pure_ok h
    obtain ⟨hall, hord⟩ := ih hrest
    refine ⟨?_, ?_⟩
    · rw [List.replicate_succ]
      exact .cons ⟨he, rfl, hat, _, hid⟩ hall
    · simp [hord, List.range'_succ]

theorem compileSteps_ok {key : List String} {scenarioId : String} {stepIndex ordinal : Nat}
    {time : Int} {steps : List ScenarioStep} {ds : List DeliveryPlan}
    (h : compileSteps g requestBlob key scenarioId stepIndex time ordinal steps = .ok ds) :
    List.Forall₂ (CompiledDelivery g requestBlob scenarioId) (plannedActions time steps) ds ∧
      ds.map DeliveryPlan.ordinal = List.range' ordinal ds.length := by
  induction steps generalizing stepIndex ordinal time ds with
  | nil =>
    cases h
    exact ⟨.nil, rfl⟩
  | cons step steps ih =>
    cases step with
    | wait d => exact ih h
    | deliver action =>
      obtain ⟨copies, hc, h⟩ := Checked.bind_ok h
      obtain ⟨rest, hrest, h⟩ := Checked.bind_ok h
      cases Checked.pure_ok h
      obtain ⟨hc1, hc2⟩ := compileCopies_ok hc
      obtain ⟨hr1, hr2⟩ := ih hrest
      have hlen : copies.length = action.count := by
        have := hc1.length_eq
        simpa using this.symm
      refine ⟨List.rel_append hc1 hr1, ?_⟩
      rw [List.map_append, hc2, hr2, List.length_append, hlen, List.range'_append_1]
    | barrier name => exact ih h
    | observe observer checkpoint => exact ih h
    | restart => exact ih h

/-- One compiled scenario against its configuration. -/
structure CompiledScenario (g : ContextGenerator) (requestBlob : DeliverAction → String)
    (scenario : ScenarioConfig) (plan : ScenarioPlan) : Prop where
  deliveries : List.Forall₂ (CompiledDelivery g requestBlob plan.scenarioId)
    (plannedActions 0 scenario.steps) plan.deliveries
  ordinals : plan.deliveries.map DeliveryPlan.ordinal = List.range plan.deliveries.length
  identity : ∃ key, plannedId g .scenario key = .ok plan.scenarioId

theorem compileScenario_ok {index : Nat} {scenario : ScenarioConfig} {plan : ScenarioPlan}
    (h : compileScenario g requestBlob index scenario = .ok plan) :
    CompiledScenario g requestBlob scenario plan := by
  obtain ⟨scenarioId, hid, h⟩ := Checked.bind_ok h
  obtain ⟨ds, hds, h⟩ := Checked.bind_ok h
  cases Checked.pure_ok h
  obtain ⟨hall, hord⟩ := compileSteps_ok hds
  exact ⟨hall, by rw [hord, List.range_eq_range'], _, hid⟩

theorem compileScenarios_ok {index : Nat} {scenarios : List ScenarioConfig}
    {plans : List ScenarioPlan} (h : compileScenarios g requestBlob index scenarios = .ok plans) :
    List.Forall₂ (CompiledScenario g requestBlob) scenarios plans := by
  induction scenarios generalizing index plans with
  | nil =>
    cases h
    exact .nil
  | cons scenario scenarios ih =>
    obtain ⟨plan, hp, h⟩ := Checked.bind_ok h
    obtain ⟨rest, hrest, h⟩ := Checked.bind_ok h
    cases Checked.pure_ok h
    exact .cons (compileScenario_ok hp) (ih hrest)

theorem plannedActions_time_nonneg {time : Int} {steps : List ScenarioStep} (ht : 0 ≤ time)
    {source : DeliverAction × Int} (hs : source ∈ plannedActions time steps) :
    0 ≤ source.2 := by
  induction steps generalizing time with
  | nil => simp [plannedActions] at hs
  | cons step steps ih =>
    cases step with
    | wait d => exact ih (by omega) hs
    | deliver action =>
      rcases List.mem_append.mp hs with hs | hs
      · rw [(List.mem_replicate.mp hs).2]
        exact ht
      · exact ih ht hs
    | barrier name => exact ih ht hs
    | observe observer checkpoint => exact ih ht hs
    | restart => exact ih ht hs

theorem ordinal_of_range {s : ScenarioPlan}
    (h : s.deliveries.map DeliveryPlan.ordinal = List.range s.deliveries.length) {n : Nat}
    {d : DeliveryPlan} (hd : s.deliveries[n]? = some d) : d.ordinal = n := by
  obtain ⟨hn, rfl⟩ := List.getElem?_eq_some_iff.mp hd
  have := congrArg (fun l => l[n]?) h
  simpa [hn] using this

/-- A compiled delivery by its coordinates, with the action and time it was planned from. -/
theorem compiledDelivery_get {configs : List ScenarioConfig} {plans : List ScenarioPlan}
    (h : List.Forall₂ (CompiledScenario g requestBlob) configs plans) {i n : Nat}
    {s : ScenarioPlan} {d : DeliveryPlan} (hs : plans[i]? = some s)
    (hd : s.deliveries[n]? = some d) :
    ∃ config source, configs[i]? = some config ∧
      (plannedActions 0 config.steps)[n]? = some source ∧ 0 ≤ source.2 ∧
      KeyComponent s.scenarioId ∧ d.ordinal = n ∧
      CompiledDelivery g requestBlob s.scenarioId source d := by
  obtain ⟨config, hconfig, hcomp⟩ := Checked.exists_getElem?_right h hs
  obtain ⟨source, hsource, hdel⟩ := Checked.exists_getElem?_right hcomp.deliveries hd
  obtain ⟨key, hkey⟩ := hcomp.identity
  exact ⟨config, source, hconfig, hsource,
    plannedActions_time_nonneg le_rfl (List.mem_of_getElem? hsource), plannedId_component hkey,
    ordinal_of_range hcomp.ordinals hd, hdel⟩

end CompileSpec

end WebhookConformance
