import WebhookConformance.Assertions
import WebhookConformance.ScheduleProgress

/-! The scenario reduction of `_evaluate_full_assertions`: delivery verdicts of the schedule loop
next to assertion verdicts, on a fresh run and on a resumed one. -/
namespace WebhookConformance

/-- The immutable evaluation a resumed run finds for an assertion. -/
structure ExistingEvaluation where
  result : AssertionResult
  comparison : Option String
  deriving DecidableEq, Repr

/-- One assertion of a scenario with everything the loop reads about it. On a fresh run `state`
is `pending` and the three durable fields are empty. -/
structure AssertionCase where
  assertionId : String
  config : AssertionConfig
  state : AssertionState
  existing : Option ExistingEvaluation
  durableSamples : List AssertionEvidenceReference
  observation : Option ObservationState
  observed : Except String LifecycleResult

/-- `_existing_assertion_category`. -/
def existingAssertionCategory (state : AssertionState) (existing : ExistingEvaluation) :
    Except String ResultCategory :=
  if state = .error then
    if existing.result ≠ .error then .error "errored assertion has a non-error evaluation"
    else
      let origin : AssertionErrorOrigin :=
        match existing.comparison with
        | none => .harness
        | some comparison =>
          if comparison = "snapshot_scope_mismatch" then .invalidInput
          else if comparison ∈ ["header_timing_missing", "comparator_unsupported",
            "poll_result_inconsistent"] then .harness
          else .environment
      (classifyAssertionVerdict existing.result state (some origin)).map TerminalVerdict.category
  else (classifyAssertionVerdict existing.result state none).map TerminalVerdict.category

def scenarioState : ResultCategory → ScenarioState
  | .pass => .passed
  | .receiverFailure => .failed
  | .ambiguous => .ambiguous
  | .cancelled => .cancelled
  | .environmentError => .error
  | .harnessError => .error
  | .invalidInput => .error
  | .unsupported => .error

structure ScenarioCase where
  scenarioId : String
  deliveries : List String
  events : List (String × String)
  assertions : List AssertionCase
  current : ScenarioState

structure FullScenarioResult where
  scenarioId : String
  resultCategory : ResultCategory
  state : ScenarioState
  deriving DecidableEq, Repr

section Evaluate

variable (resume : Bool)

def AssertionCase.durable (c : AssertionCase) : Bool :=
  !c.config.isTransport && !c.durableSamples.isEmpty

def AssertionCase.interrupted (c : AssertionCase) : Option ObservationState :=
  if c.config.isTransport then none else c.observation

/-- A pending assertion: recovered samples, the transport selection, or the observer. -/
def evaluatePending (events : List (String × String)) (attempts : List PersistedAttempt)
    (c : AssertionCase) : Except String LifecycleResult :=
  if c.durable then c.observed
  else
    match c.config with
    | .httpStatus expected selector =>
      evaluateTransportSelection events c.config selector (evaluateStatus expected) attempts
    | .acknowledgementDeadline within selector =>
      evaluateTransportSelection events c.config selector (evaluateAcknowledgement within) attempts
    | .observer => c.observed

/-- One turn of the assertion loop: the category it contributes and the state it leaves. -/
def evaluateAssertion (events : List (String × String)) (attempts : List PersistedAttempt)
    (c : AssertionCase) : Except String (ResultCategory × AssertionState) :=
  if c.config.isTransport = false ∧ attempts = [] then
    .error "observer assertion recovery lacks attempt scope evidence"
  else if resume = true ∧ c.durable = false ∧ c.interrupted.isSome then
    .error "interrupted observer invocation lacks a reusable durable sample"
  else
    match c.state, c.existing with
    | .pending, some _ => .error "pending assertion already has a terminal evaluation"
    | .pending, none =>
      (evaluatePending events attempts c).map fun r => (r.normalized.verdict.category, r.normalized.state)
    | .running, some _ => .error "running assertion already has a terminal evaluation"
    | .running, none =>
      if c.durable = false then
        .error "interrupted running assertion lacks durable observation evidence"
      else c.observed.map fun r => (r.normalized.verdict.category, r.normalized.state)
    | state, some existing => (existingAssertionCategory state existing).map fun v => (v, state)
    | .cancelled, none => .ok (.cancelled, .cancelled)
    | _, none => .error "terminal assertion lacks its immutable evaluation record"

def deliveryCategory (verdicts : List (String × TerminalVerdict)) (deliveryId : String) :
    Except String ResultCategory :=
  match verdicts.lookup deliveryId with
  | none => .error deliveryId
  | some verdict => .ok verdict.category

/-- `_guard_scenario_pass` over the required assertion rows; the bootstrap stores no policy that
lets an unsupported one pass. -/
def guardScenarioPass (states : List AssertionState) : Except String Unit :=
  if states.all (· = .passed) then .ok ()
  else .error "scenario pass requires every required assertion to pass or explicitly skip"

/-- The scenario transition that the loop commits, with its guard. -/
def commitScenario (new : ScenarioState) (states : List AssertionState) :
    Except String ScenarioState := do
  if new = .passed then
    guardScenarioPass states
  return new

/-- The loop body for one scenario: its result and the state it commits, if it commits one. -/
def evaluateScenario (verdicts : List (String × TerminalVerdict))
    (attempts : List PersistedAttempt) (s : ScenarioCase) :
    Except String (FullScenarioResult × Option ScenarioState) := do
  let deliveries ← s.deliveries.mapM (deliveryCategory verdicts)
  if ResultCategory.ambiguous ∈ deliveries then
    if s.assertions.any fun c => c.state ≠ .pending ∨ c.existing.isSome then
      throw "ambiguous delivery requires untouched pending assertions"
    if s.current ≠ .running then
      throw "ambiguous resumable delivery requires a running scenario projection"
    return (⟨s.scenarioId, .ambiguous, .running⟩, none)
  else
    let evaluated ← s.assertions.mapM (evaluateAssertion resume s.events attempts)
    let verdict ← reduceTerminalVerdicts (deliveries ++ evaluated.map Prod.fst) none
    let state := scenarioState verdict.category
    let result : FullScenarioResult := ⟨s.scenarioId, verdict.category, state⟩
    if s.current = .running then
      let committed ← commitScenario state (evaluated.map Prod.snd)
      return (result, some committed)
    else if s.current ≠ state then
      throw "terminal scenario differs from resumed evidence reduction"
    else return (result, none)

end Evaluate

section Verdicts

variable {env : RunEnvironment} {plans : List ScenarioPlan} {st next final : LoopState}
  {entries : List ScheduleEntry}

/-- The verdicts of the loop against the attempts it ran: a terminal attempt is recorded, once,
and any other one is followed by the next attempt of its delivery. -/
structure VerdictInv (plans : List ScenarioPlan) (st : LoopState) : Prop where
  located : ∀ x ∈ st.attempts, ∃ s d, DeliveryAt plans x.entry.coordinates s d ∧
    x.deliveryId = d.deliveryId
  recorded : ∀ x ∈ st.attempts, x.deliveryTerminal = true →
    (x.deliveryId, x.verdict) ∈ st.deliveryVerdicts
  executed : ∀ v ∈ st.deliveryVerdicts, ∃ x ∈ st.attempts, v = (x.deliveryId, x.verdict)
  unique : (st.deliveryVerdicts.map Prod.fst).Nodup
  followed : ∀ x ∈ st.attempts, x.deliveryTerminal = false →
    (∃ r ∈ st.pending, r.coordinates = x.entry.coordinates ∧
      r.attemptOrdinal = x.entry.attemptOrdinal + 1) ∨
    ∃ y ∈ st.attempts, y.entry.coordinates = x.entry.coordinates ∧
      y.entry.attemptOrdinal = x.entry.attemptOrdinal + 1

theorem recordVerdicts_inv {completed : List AttemptExecution}
    {verdicts out : List (String × TerminalVerdict)}
    (h : Checked.runAll recordVerdict verdicts completed = .ok out) :
    out = verdicts ++ ((completed.filter AttemptExecution.deliveryTerminal).map fun x =>
        (x.deliveryId, x.verdict)) ∧
      ((verdicts.map Prod.fst).Nodup → (out.map Prod.fst).Nodup) := by
  induction completed generalizing verdicts with
  | nil =>
    cases h
    simp
  | cons x completed ih =>
    obtain ⟨mid, hmid, h⟩ := Checked.bind_ok h
    obtain ⟨hout, hnd⟩ := ih h
    unfold recordVerdict at hmid
    split at hmid
    · rename_i hx
      cases hmid
      exact ⟨by simp [hout, hx], hnd⟩
    · rename_i hx
      split at hmid
      · cases hmid
      · rename_i hfresh
        cases hmid
        have hterm : x.deliveryTerminal = true := by simpa using hx
        refine ⟨by simp [hout, hterm], fun hold => hnd ?_⟩
        rw [List.map_append, List.nodup_append]
        refine ⟨hold, by simp, ?_⟩
        intro a ha b hb he
        simp only [List.map_cons, List.map_nil, List.mem_singleton] at hb
        exact hfresh (hb ▸ he ▸ ha)

theorem verdictInv_batch {first : ScheduleEntry} {rest : List ScheduleEntry}
    (hi : VerdictInv plans st) (hp : orderedPending st = first :: rest)
    (h : scheduleBatch env plans st first (first :: rest) = .ok next) :
    VerdictInv plans next := by
  obtain ⟨due, later, completed, releases, verdicts, hperm, -, -, -, hrel, hv, rfl⟩ :=
    scheduleBatch_split hp h
  obtain ⟨hx, -⟩ := releaseBatch_ok hrel
  obtain ⟨rfl, hnd⟩ := recordVerdicts_inv hv
  constructor
  case located =>
    intro x hm
    rcases List.mem_append.mp hm with hm | hm
    · exact hi.located x hm
    · obtain ⟨e, -, hex⟩ := Checked.exists_of_mem_right hx hm
      obtain ⟨s, d, hd, hid⟩ := execute_delivery hex
      rw [← (execute_ok hex).1] at hd
      exact ⟨s, d, hd, hid⟩
  case recorded =>
    intro x hm hterm
    rcases List.mem_append.mp hm with hm | hm
    · exact List.mem_append_left _ (hi.recorded x hm hterm)
    · exact List.mem_append_right _
        (List.mem_map.mpr ⟨x, List.mem_filter.mpr ⟨hm, hterm⟩, rfl⟩)
  case executed =>
    intro v hm
    rcases List.mem_append.mp hm with hm | hm
    · obtain ⟨x, hxm, he⟩ := hi.executed v hm
      exact ⟨x, List.mem_append_left _ hxm, he⟩
    · obtain ⟨x, hxm, rfl⟩ := List.mem_map.mp hm
      exact ⟨x, List.mem_append_right _ (List.mem_filter.mp hxm).1, rfl⟩
  case unique => exact hnd hi.unique
  case followed =>
    intro x hm hterm
    rcases List.mem_append.mp hm with hm | hm
    · rcases hi.followed x hm hterm with ⟨r, hr, hc, ho⟩ | ⟨y, hy, hc, ho⟩
      · rcases List.mem_append.mp (hperm.mem_iff.mpr hr) with hr | hr
        · -- the retry row was due in this batch, so its attempt has been run
          obtain ⟨y, hy, hry⟩ := Checked.exists_of_mem_left hx hr
          have hent := (execute_ok hry).1
          exact Or.inr ⟨y, List.mem_append_right _ hy, by rw [hent, hc], by rw [hent, ho]⟩
        · exact Or.inl ⟨r, List.mem_append_left _ hr, hc, ho⟩
      · exact Or.inr ⟨y, List.mem_append_left _ hy, hc, ho⟩
    · obtain ⟨e, -, hex⟩ := Checked.exists_of_mem_right hx hm
      have hs : x.decision.shouldSchedule = true := by
        simpa [AttemptExecution.deliveryTerminal] using hterm
      obtain ⟨r, hre⟩ := retryEntry_of_shouldSchedule hex hs
      obtain ⟨-, hc, ho, -⟩ := retryEntry_some hex hre
      have hent := (execute_ok hex).1
      exact Or.inl ⟨r, List.mem_append_right _ (List.mem_filterMap.mpr ⟨x, hm, hre⟩),
        by rw [hc, hent], by rw [ho, hent]⟩

/-- The last attempt of a delivery in a finished run. -/
structure LastAttempt (final : LoopState) (deliveryId : String) (x : AttemptExecution) :
    Prop where
  mem : x ∈ final.attempts
  delivery : x.deliveryId = deliveryId
  last : ∀ y ∈ final.attempts, y.deliveryId = deliveryId →
    y.entry.attemptOrdinal ≤ x.entry.attemptOrdinal

theorem executeSchedules_verdicts (h : executeSchedules env plans entries = .ok final) :
    VerdictInv plans final ∧ final.pending = [] ∧
      expectedDeliveries plans ⊆ final.deliveryVerdicts.map Prod.fst := by
  refine scheduleLoop_invariant (fun st next first rest hi hp hb => verdictInv_batch hi hp hb) h ?_
  constructor <;> simp

theorem lookup_of_mem {v : TerminalVerdict} {key : String} {verdicts : List (String × TerminalVerdict)}
    (hnd : (verdicts.map Prod.fst).Nodup) (hm : (key, v) ∈ verdicts) :
    verdicts.lookup key = some v := by
  induction verdicts with
  | nil => simp at hm
  | cons head verdicts ih =>
    rw [List.map_cons, List.nodup_cons] at hnd
    rcases List.mem_cons.mp hm with rfl | hm
    · simp
    · have hne : ¬ key = head.1 := fun he => hnd.1 (he ▸ List.mem_map_of_mem hm)
      have hbeq : (key == head.1) = false := by simpa using hne
      rw [List.lookup_cons, hbeq]
      exact ih hnd.2 hm

/-- A delivery's verdict is that of its last attempt. -/
theorem LastAttempt.verdict (h : executeSchedules env plans entries = .ok final)
    {x : AttemptExecution} {deliveryId : String} (hx : LastAttempt final deliveryId x) :
    final.deliveryVerdicts.lookup deliveryId = some x.verdict := by
  obtain ⟨hi, hempty, -⟩ := executeSchedules_verdicts h
  have hterm : x.deliveryTerminal = true := by
    by_contra hne
    rcases hi.followed x hx.mem (Bool.not_eq_true _ ▸ hne) with ⟨r, hr, -⟩ | ⟨y, hy, hc, ho⟩
    · simp [hempty] at hr
    · obtain ⟨s, d, hd, hid⟩ := hi.located x hx.mem
      obtain ⟨s', d', hd', hid'⟩ := hi.located y hy
      obtain ⟨-, rfl⟩ := hd.unique (hc ▸ hd')
      have := hx.last y hy (hid'.trans (hid.symm.trans hx.delivery))
      omega
  rw [← hx.delivery]
  exact lookup_of_mem hi.unique (hi.recorded x hx.mem hterm)

/-- Every planned delivery has a last attempt. -/
theorem exists_lastAttempt (h : executeSchedules env plans entries = .ok final)
    {s : ScenarioPlan} {d : DeliveryPlan} (hs : s ∈ plans) (hd : d ∈ s.deliveries) :
    ∃ x, LastAttempt final d.deliveryId x := by
  obtain ⟨hi, -, hall⟩ := executeSchedules_verdicts h
  have hid : d.deliveryId ∈ final.deliveryVerdicts.map Prod.fst :=
    hall (List.mem_flatMap.mpr ⟨s, hs, List.mem_map_of_mem hd⟩)
  obtain ⟨v, hv, hvid⟩ := List.mem_map.mp hid
  obtain ⟨x, hx, rfl⟩ := hi.executed v hv
  have hne : (final.attempts.filter (·.deliveryId = d.deliveryId)).argmax
      (fun y => y.entry.attemptOrdinal) ≠ none := by
    rw [ne_eq, List.argmax_eq_none]
    exact List.ne_nil_of_mem (List.mem_filter.mpr ⟨hx, by simpa using hvid⟩)
  obtain ⟨last, hlast⟩ := Option.ne_none_iff_exists'.mp hne
  obtain ⟨hmem, hdel⟩ := List.mem_filter.mp (List.argmax_mem hlast)
  refine ⟨last, hmem, by simpa using hdel, ?_⟩
  intro y hy hyd
  have hmemy : y ∈ final.attempts.filter (·.deliveryId = d.deliveryId) :=
    List.mem_filter.mpr ⟨hy, by simpa using hyd⟩
  exact List.le_of_mem_argmax (f := fun y : AttemptExecution => y.entry.attemptOrdinal) hmemy hlast

end Verdicts

section Scenario

variable {resume : Bool} {verdicts : List (String × TerminalVerdict)}
  {attempts : List PersistedAttempt} {c : AssertionCase} {s : ScenarioCase}

/-- A passing verdict of an existing evaluation belongs to a passed assertion. -/
theorem existingAssertionCategory_pass {state : AssertionState} {existing : ExistingEvaluation}
    (h : existingAssertionCategory state existing = .ok .pass) : state = .passed := by
  obtain ⟨result, comparison⟩ := existing
  unfold existingAssertionCategory at h
  cases state <;> cases result <;> simp_all [classifyAssertionVerdict, Except.map, errorResult_ne_pass]

/-- An assertion that contributes `PASS` is passed in the journal. -/
theorem evaluateAssertion_pass {events : List (String × String)} {state : AssertionState}
    (h : evaluateAssertion resume events attempts c = .ok (.pass, state)) : state = .passed := by
  have hresult : ∀ r : Except String LifecycleResult,
      (r.map fun r => (r.normalized.verdict.category, r.normalized.state)) = .ok (.pass, state) →
        state = .passed := by
    intro r hr
    cases r with
    | error e => cases hr
    | ok r =>
      simp only [Except.map, Except.ok.injEq, Prod.mk.injEq] at hr
      rw [← hr.2]
      exact r.normalized.pass_iff.mp hr.1
  unfold evaluateAssertion at h
  split at h
  · cases h
  · split at h
    · cases h
    · split at h
      · cases h
      · exact hresult _ h
      · cases h
      · split at h
        · cases h
        · exact hresult _ h
      · cases he : existingAssertionCategory c.state _ with
        | error e =>
          rw [he] at h
          cases h
        | ok v =>
          rw [he] at h
          cases h
          exact existingAssertionCategory_pass he
      · cases h
      · cases h

/-- Passing assertions never fail the guard of the scenario transition. -/
theorem evaluated_passed {evaluated : List (ResultCategory × AssertionState)}
    (h : s.assertions.mapM (evaluateAssertion resume s.events attempts) = .ok evaluated)
    (hpass : ∀ c ∈ s.assertions, ∃ state,
      evaluateAssertion resume s.events attempts c = .ok (.pass, state)) :
    ∀ e ∈ evaluated, e = (.pass, .passed) := by
  intro e he
  obtain ⟨c, hc, hce⟩ := Checked.exists_of_mem_right (Checked.mapM_ok_iff.mp h) he
  obtain ⟨state, hstate⟩ := hpass c hc
  have hpassed := evaluateAssertion_pass hstate
  rw [hstate] at hce
  cases hce
  rw [hpassed]

/-- With passing assertions the deliveries alone decide: the scenario is committed as passed
exactly when each of them counts as `PASS`. -/
theorem evaluateScenario_pass_iff {deliveries : List ResultCategory}
    (hd : s.deliveries.mapM (deliveryCategory verdicts) = .ok deliveries)
    (hne : deliveries ≠ []) (hamb : ResultCategory.ambiguous ∉ deliveries)
    (hcur : s.current = .running)
    (hpass : ∀ c ∈ s.assertions, ∃ state,
      evaluateAssertion resume s.events attempts c = .ok (.pass, state)) :
    evaluateScenario resume verdicts attempts s =
        .ok (⟨s.scenarioId, .pass, .passed⟩, some .passed) ↔
      ∀ category ∈ deliveries, category = .pass := by
  obtain ⟨evaluated, hev⟩ := Checked.mapM_exists fun c hc => ⟨_, (hpass c hc).choose_spec⟩
  have hall := evaluated_passed hev hpass
  obtain ⟨v, hv⟩ := @reduceTerminalVerdicts_ok (deliveries ++ evaluated.map Prod.fst)
    (by simp [hne])
  have hvpass : v.category = .pass ↔ ∀ category ∈ deliveries, category = .pass := by
    rw [reduceTerminalVerdicts_pass_iff hv]
    constructor
    · exact fun h category hc => h category (List.mem_append_left _ hc)
    · intro h category hc
      rcases List.mem_append.mp hc with hc | hc
      · exact h category hc
      · obtain ⟨e, he, rfl⟩ := List.mem_map.mp hc
        rw [hall e he]
  have hguard : (evaluated.map Prod.snd).all (· = .passed) = true := by
    rw [List.all_eq_true]
    intro state hm
    obtain ⟨e, he, rfl⟩ := List.mem_map.mp hm
    simp [hall e he]
  rw [← hvpass]
  simp only [evaluateScenario, hd, hev, hv, bind, Except.bind, if_neg hamb, hcur, if_true]
  constructor
  · intro h
    cases hcommit : commitScenario (scenarioState v.category) (evaluated.map Prod.snd) with
    | error e => simp [hcommit] at h
    | ok committed =>
      rw [hcommit] at h
      simp only [pure, Except.pure, Except.ok.injEq, Prod.mk.injEq,
        FullScenarioResult.mk.injEq] at h
      exact h.1.2.1
  · intro h
    have hcommit : commitScenario (scenarioState v.category) (evaluated.map Prod.snd) =
        .ok .passed := by
      simp only [h, scenarioState, commitScenario, if_true, guardScenarioPass, hguard]
      rfl
    rw [hcommit]
    simp [h, scenarioState, pure, Except.pure]

end Scenario

section Run

variable {env : RunEnvironment} {plans : List ScenarioPlan} {plan : ScenarioPlan}
  {entries : List ScheduleEntry} {final : LoopState} {resume : Bool}
  {attempts : List PersistedAttempt} {s : ScenarioCase}

theorem LastAttempt.category (h : executeSchedules env plans entries = .ok final)
    {x : AttemptExecution} {deliveryId : String} (hx : LastAttempt final deliveryId x) :
    deliveryCategory final.deliveryVerdicts deliveryId =
      .ok (attemptResult x.run.classification) := by
  rw [deliveryCategory, hx.verdict h]
  rfl

/-- How a complete response counts: an accepted one as `PASS`, a rejected one as the receiver's
failure, whatever the assertions of its scenario expect. -/
theorem responded_category (x : AttemptRun)
    (h : x.terminalState = .succeeded ∨ x.terminalState = .rejected) :
    (x.terminalState = .succeeded ∧ attemptResult x.classification = .pass) ∨
      (x.terminalState = .rejected ∧ attemptResult x.classification = .receiverFailure) := by
  have hc := terminalReduction_classification x.reduced
  rcases h with h | h
  · rw [h, classificationsByTerminalState, List.mem_singleton] at hc
    exact Or.inl ⟨h, by rw [hc]; rfl⟩
  · rw [h, classificationsByTerminalState, List.mem_singleton] at hc
    exact Or.inr ⟨h, by rw [hc]; rfl⟩

/-- A scenario whose deliveries all ended in a complete response and whose assertions all pass is
committed as passed exactly when no last response was a rejection. -/
theorem responded_scenario_passed_iff (hrun : executeSchedules env plans entries = .ok final)
    (hplan : plan ∈ plans) (hne : plan.deliveries ≠ [])
    (hdel : s.deliveries = plan.deliveries.map DeliveryPlan.deliveryId)
    (hcur : s.current = .running)
    (hresponse : ∀ d ∈ plan.deliveries, ∀ x, LastAttempt final d.deliveryId x →
      x.run.terminalState = .succeeded ∨ x.run.terminalState = .rejected)
    (hpass : ∀ c ∈ s.assertions, ∃ state,
      evaluateAssertion resume s.events attempts c = .ok (.pass, state)) :
    evaluateScenario resume final.deliveryVerdicts attempts s =
        .ok (⟨s.scenarioId, .pass, .passed⟩, some .passed) ↔
      ∀ d ∈ plan.deliveries, ∀ x, LastAttempt final d.deliveryId x →
        x.run.terminalState = .succeeded := by
  have hlast : ∀ d ∈ plan.deliveries, ∃ x, LastAttempt final d.deliveryId x :=
    fun d hd => exists_lastAttempt hrun hplan hd
  obtain ⟨categories, hcat⟩ := @Checked.mapM_exists _ _ _ (deliveryCategory final.deliveryVerdicts)
    s.deliveries (by
      intro id hid
      rw [hdel] at hid
      obtain ⟨d, hd, rfl⟩ := List.mem_map.mp hid
      obtain ⟨x, hx⟩ := hlast d hd
      exact ⟨_, hx.category hrun⟩)
  have hpairs := Checked.mapM_ok_iff.mp hcat
  rw [hdel, List.forall₂_map_left_iff] at hpairs
  have hcategory : ∀ category ∈ categories, ∃ d ∈ plan.deliveries, ∃ x,
      LastAttempt final d.deliveryId x ∧ category = attemptResult x.run.classification := by
    intro category hm
    obtain ⟨d, hd, hdc⟩ := Checked.exists_of_mem_right hpairs hm
    obtain ⟨x, hx⟩ := hlast d hd
    exact ⟨d, hd, x, hx, Except.ok.inj (hdc.symm.trans (hx.category hrun))⟩
  have hcne : categories ≠ [] := by
    rintro rfl
    cases hds : plan.deliveries with
    | nil => exact hne hds
    | cons d ds => simp [hds] at hpairs
  have hamb : ResultCategory.ambiguous ∉ categories := by
    intro hm
    obtain ⟨d, hd, x, hx, hc⟩ := hcategory _ hm
    rcases responded_category x.run (hresponse d hd x hx) with ⟨-, h⟩ | ⟨-, h⟩ <;>
      simp [h] at hc
  rw [evaluateScenario_pass_iff hcat hcne hamb hcur hpass]
  constructor
  · intro hall d hd x hx
    obtain ⟨category, hm, hdc⟩ := Checked.exists_of_mem_left hpairs hd
    have hc := Except.ok.inj (hdc.symm.trans (hx.category hrun))
    rcases responded_category x.run (hresponse d hd x hx) with ⟨h, -⟩ | ⟨-, h⟩
    · exact h
    · have := hall category hm
      rw [hc, h] at this
      cases this
  · intro hall category hm
    obtain ⟨d, hd, x, hx, rfl⟩ := hcategory category hm
    rcases responded_category x.run (Or.inl (hall d hd x hx)) with ⟨-, h⟩ | ⟨h, -⟩
    · exact h
    · rw [hall d hd x hx] at h
      cases h

/-- The persisted evidence of an executed attempt, for a delivery of this event. -/
def AttemptExecution.persisted (eventId : String) (x : AttemptExecution) : PersistedAttempt :=
  ⟨x.run.attemptId, eventId, x.run.result.response.map ResponseEvidence.status, none⟩

def oneDelivery : ScenarioConfig :=
  ⟨"scenario", [.deliver ⟨"event", 1, none, none, DeliverAction.one_copy⟩]⟩

/-- What it compiles to. -/
def onePlan : ScenarioPlan :=
  ⟨"scenario_2CY5SDSX4NZX12T001604YR00C",
    [singleAttempt none "delivery_29AVWKGS4G88PM4JRECBH4X69B" 0 0]⟩

/-- Its only schedule row. -/
def oneEntry : ScheduleEntry :=
  singleEntry "scenario_2CY5SDSX4NZX12T001604YR00C" 0 0 0
    "f523fa6f866f5fcbe4a235e0f875d58e2e3e299a9431a30ecb67c1711e8336d5"
    "attempt_plan_5TMFBPP7AFF73BRF34DGB0PQZ2"

theorem oneEntry_ids :
    initialEntryId modularSha256 "scenario_2CY5SDSX4NZX12T001604YR00C"
        "delivery_29AVWKGS4G88PM4JRECBH4X69B" =
      "initial." ++ "f523fa6f866f5fcbe4a235e0f875d58e2e3e299a9431a30ecb67c1711e8336d5" ∧
    plannedId modularGenerator .attemptPlan ["scenario_2CY5SDSX4NZX12T001604YR00C",
        "delivery_29AVWKGS4G88PM4JRECBH4X69B", "1"] =
      .ok "attempt_plan_5TMFBPP7AFF73BRF34DGB0PQZ2" := by
  constructor <;> decide +kernel

theorem oneDelivery_scheduled :
    compileScenarios modularGenerator (fun _ => "blob") 0 [oneDelivery] = .ok [onePlan] ∧
      bootstrapSchedule modularGenerator modularSha256 [onePlan] = .ok [oneEntry] := by
  have hseeds : bootstrapScenario modularGenerator modularSha256 0 onePlan = .ok [oneEntry] := by
    rw [bootstrapScenario, if_neg (by decide), Checked.mapM_ok_iff]
    exact .cons (singleEntry_seeded oneEntry_ids.1 oneEntry_ids.2) .nil
  refine ⟨by decide +kernel, bootstrapSchedule_of ?_ (Checked.bind_of hseeds rfl) rfl ?_ ?_⟩ <;>
    decide +kernel

theorem executeProject_oneDelivery (status : Nat) :
    executeProject (respondingRun status) (fun _ => "blob") [oneDelivery] =
      (executeSchedules (respondingRun status) [onePlan] [oneEntry]).map
        fun final => ([onePlan], final) :=
  executeProject_of oneDelivery_scheduled.1 oneDelivery_scheduled.2

/-- The fresh scenario of `plan` with one assertion on the status of its last attempt. -/
def statusScenario (plan : ScenarioPlan) (expected : StatusExpectation) : ScenarioCase :=
  ⟨plan.scenarioId, plan.deliveries.map DeliveryPlan.deliveryId, [("event", "event_1")],
    [⟨"assertion", .httpStatus expected ⟨"event", .lastTerminal⟩, .pending, none, [], none,
      .error ""⟩], .running⟩

/-- How the scenario of a run with one delivery ends, with the evaluation of the assertion that
expects `status`. -/
def statusOutcome (status : Nat) : Except ScheduleError (List ScenarioPlan × LoopState) →
    Option ((ResultCategory × AssertionState) × ResultCategory × ScenarioState × Option ScenarioState)
  | .ok ([plan], final) =>
    let s := statusScenario plan ⟨[status], []⟩
    let attempts := final.attempts.map (AttemptExecution.persisted "event_1")
    match s.assertions.mapM (evaluateAssertion false s.events attempts),
        evaluateScenario false final.deliveryVerdicts attempts s with
    | .ok [evaluated], .ok (result, committed) =>
      some (evaluated, result.resultCategory, result.state, committed)
    | _, _ => none
  | _ => none

/-- Run one delivery against a receiver answering `status` and evaluate the assertion that
expects it. -/
def runStatusScenario (status : Nat) :
    Option ((ResultCategory × AssertionState) × ResultCategory × ScenarioState × Option ScenarioState) :=
  statusOutcome status (executeProject (respondingRun status) (fun _ => "blob") [oneDelivery])

/-- The facts of a run with one accepted delivery that the equivalence asks for. -/
def acceptedFacts (final : LoopState) : Bool :=
  final.attempts.all (fun x => x.run.terminalState = .succeeded) &&
    (statusScenario onePlan ⟨[200], []⟩).assertions.all fun c =>
      (evaluateAssertion false (statusScenario onePlan ⟨[200], []⟩).events
        (final.attempts.map (AttemptExecution.persisted "event_1")) c).toOption =
          some (.pass, .passed)

theorem oneDelivery_runs :
    (executeSchedules (respondingRun 200) [onePlan] [oneEntry]).toOption.any acceptedFacts = true ∧
      statusOutcome 401 ((executeSchedules (respondingRun 401) [onePlan] [oneEntry]).map
        fun final => ([onePlan], final)) =
          some ((.pass, .passed), .receiverFailure, .failed, some .failed) := by
  constructor <;> decide +kernel

theorem accepted_status_passes :
    ∃ plan final, executeProject (respondingRun 200) (fun _ => "blob") [oneDelivery] =
        .ok ([plan], final) ∧
      evaluateScenario false final.deliveryVerdicts
          (final.attempts.map (AttemptExecution.persisted "event_1"))
          (statusScenario plan ⟨[200], []⟩) =
        .ok (⟨plan.scenarioId, .pass, .passed⟩, some .passed) := by
  have hfacts := oneDelivery_runs.1
  rw [executeProject_oneDelivery]
  cases hrun : executeSchedules (respondingRun 200) [onePlan] [oneEntry] with
  | error e =>
    rw [hrun] at hfacts
    cases hfacts
  | ok final =>
    rw [hrun] at hfacts
    obtain ⟨hall, hpass⟩ := Bool.and_eq_true_iff.1 hfacts
    rw [List.all_eq_true] at hall hpass
    have hsucceeded : ∀ x ∈ final.attempts, x.run.terminalState = .succeeded :=
      fun x hx => of_decide_eq_true (hall x hx)
    refine ⟨onePlan, final, rfl, (responded_scenario_passed_iff hrun
      (List.mem_singleton_self _) (List.cons_ne_nil _ _) rfl rfl ?_ ?_).mpr ?_⟩
    · exact fun d _ x hx => Or.inl (hsucceeded x hx.mem)
    · intro c hc
      refine ⟨.passed, ?_⟩
      have hok := of_decide_eq_true (hpass c hc)
      cases he : evaluateAssertion false (statusScenario onePlan ⟨[200], []⟩).events
          (final.attempts.map (AttemptExecution.persisted "event_1")) c with
      | error e =>
        rw [he] at hok
        cases hok
      | ok v =>
        rw [he] at hok
        exact congrArg _ (Option.some.inj hok)
    · exact fun d _ x hx => hsucceeded x hx.mem

/-- The receiver answers 401, the only assertion of the scenario expects 401 and passes, and the
scenario is committed as failed. -/
theorem expected_rejection_fails : runStatusScenario 401 =
    some ((.pass, .passed), .receiverFailure, .failed, some .failed) := by
  rw [runStatusScenario, executeProject_oneDelivery]
  exact oneDelivery_runs.2

end Run

end WebhookConformance
