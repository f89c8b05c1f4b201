import WebhookConformance.Verdicts

/-! Report projections of one journal snapshot: the summary of `reporting/summary.py` and the
JUnit, HTML and causal projections of `runtime/reporting.py`. -/
namespace WebhookConformance

/-- The typed prefix of a planned or fresh identifier. -/
def hasKind (kind id : String) : Bool := (kind ++ "_").toList.isPrefixOf id.toList

structure AttemptEvidence where
  recordId : String
  scenarioId : String
  eventId : String
  deliveryId : String
  attemptId : String
  monotonicElapsedNs : Option Nat
  classification : AttemptClassification
  errorMessage : Option String
  record_kind : hasKind "record" recordId = true
  attempt_kind : hasKind "attempt" attemptId = true

structure JournalReportAttempt where
  record : AttemptEvidence
  responseHeadersElapsedNs : Option Nat

structure JournalReportObservation where
  recordId : String
  scenarioId : String
  observationId : String
  sampleId : String
  status : ObservationStatus
  errorMessage : Option String
  record_kind : hasKind "record" recordId = true
  observation_kind : hasKind "observation" observationId = true
  sample_kind : hasKind "sample" sampleId = true

structure AssertionEvaluation where
  recordId : String
  scenarioId : String
  assertionId : String
  type : String
  result : AssertionResult
  evidenceRefs : List String
  message : Option String

/-- The states `AssertionEvaluationCommand` commits with a result. -/
def allowedStates : AssertionResult → List AssertionState
  | .pass => [.passed]
  | .fail => [.failed]
  | .error => [.error, .unsupported]
  | .skipped => [.unsupported]
  | .pending => []

structure JournalReportAssertion where
  record : AssertionEvaluation
  assertionState : AssertionState
  committed : assertionState ∈ allowedStates record.result

structure JournalReportScenario where
  scenarioId : String
  ordinal : Nat
  name : String
  state : ScenarioState

/-- The rows a report is made from; that record ids are unique is a check of `SummarySource`. -/
structure JournalReportSnapshot where
  terminalCategory : Option ResultCategory
  scenarios : List JournalReportScenario
  attempts : List JournalReportAttempt
  observations : List JournalReportObservation
  assertions : List JournalReportAssertion
  recordIds_nodup : (attempts.map (·.record.recordId) ++ observations.map (·.recordId) ++
    assertions.map (·.record.recordId)).Nodup

def pairwiseReduce (left right : ResultCategory) : ResultCategory :=
  if precedenceIndex left ≤ precedenceIndex right then left else right

/-- `reduce_result_categories`: a durable terminal verdict is kept, whatever the facts. -/
def reduceResultCategories (categories : List ResultCategory)
    (durablyTerminal : Option ResultCategory) : ResultCategory :=
  match durablyTerminal with
  | some category => category
  | none =>
    match categories with
    | [] => .pass
    | first :: rest => rest.foldl pairwiseReduce first

theorem pairwiseReduce_pass (left right : ResultCategory) :
    pairwiseReduce left right = .pass ↔ left = .pass ∧ right = .pass := by
  cases left <;> cases right <;> decide

theorem foldl_pairwiseReduce_pass (rest : List ResultCategory) (first : ResultCategory) :
    rest.foldl pairwiseReduce first = .pass ↔ first = .pass ∧ ∀ c ∈ rest, c = .pass := by
  induction rest generalizing first with
  | nil => simp
  | cons c rest ih =>
    rw [List.foldl_cons, ih, pairwiseReduce_pass, List.forall_mem_cons, and_assoc]

theorem reduceResultCategories_pass (categories : List ResultCategory) :
    reduceResultCategories categories none = .pass ↔ ∀ c ∈ categories, c = .pass := by
  cases categories with
  | nil => simp [reduceResultCategories]
  | cons first rest => rw [reduceResultCategories, foldl_pairwiseReduce_pass, List.forall_mem_cons]

section Categories

def attemptCategory (item : JournalReportAttempt) : ResultCategory :=
  (classifyAttemptVerdict item.record.classification).category

def observationCategory (item : JournalReportObservation) : ResultCategory :=
  match item.status with
  | .ok => .pass
  | .unsupported => .unsupported
  | .error => .environmentError
  | .timeout => .environmentError
  | .pending => .ambiguous

def assertionErrorCategories : List ResultCategory :=
  [.environmentError, .harnessError, .invalidInput]

/-- The fallback of `_assertion_category` and `_scenario_state_category`: an error takes the
run's category where that is one of `categories`. -/
def errorCategory (categories : List ResultCategory) (runCategory : Option ResultCategory) :
    ResultCategory :=
  match runCategory with
  | some c => if c ∈ categories then c else .harnessError
  | none => .harnessError

theorem classify_committed (item : JournalReportAssertion)
    (h : ¬ (item.assertionState = .error ∧ item.record.result = .error)) :
    (classifyAssertionVerdict item.record.result item.assertionState none).toOption.isSome = true := by
  have hc := item.committed
  revert h hc
  cases item.record.result <;> cases item.assertionState <;> decide

def assertionCategory (runCategory : Option ResultCategory) (item : JournalReportAssertion) :
    ResultCategory :=
  if h : item.assertionState = .error ∧ item.record.result = .error then
    errorCategory assertionErrorCategories runCategory
  else
    ((classifyAssertionVerdict item.record.result item.assertionState none).toOption.get
      (classify_committed item h)).category

def scenarioStateCategory (runCategory : Option ResultCategory) : ScenarioState → ResultCategory
  | .passed => .pass
  | .failed => .receiverFailure
  | .ambiguous => .ambiguous
  | .cancelled => .cancelled
  | .skipped => .unsupported
  | .error =>
    errorCategory [.environmentError, .harnessError, .invalidInput, .unsupported] runCategory
  | _ => .pass

theorem attemptCategory_pass (item : JournalReportAttempt) : attemptCategory item = .pass ↔
    item.record.classification = .receiverAccepted ∨ item.record.classification = .planned := by
  unfold attemptCategory classifyAttemptVerdict
  cases item.record.classification <;> simp [attemptResult]

theorem observationCategory_pass (item : JournalReportObservation) :
    observationCategory item = .pass ↔ item.status = .ok := by
  unfold observationCategory
  cases item.status <;> simp

theorem errorCategory_ne_pass {categories : List ResultCategory} (h : .pass ∉ categories)
    (runCategory : Option ResultCategory) : errorCategory categories runCategory ≠ .pass := by
  unfold errorCategory
  split
  · split
    · next c hc =>
      rintro rfl
      exact h hc
    · decide
  · decide

theorem assertionCategory_pass (runCategory : Option ResultCategory)
    (item : JournalReportAssertion) :
    assertionCategory runCategory item = .pass ↔ item.record.result = .pass := by
  have herror := errorCategory_ne_pass (show .pass ∉ assertionErrorCategories by decide) runCategory
  obtain ⟨⟨_, _, _, _, result, _, _⟩, state, hc⟩ := item
  cases result with
  | pass =>
    obtain rfl : state = .passed := by simpa [allowedStates] using hc
    exact ⟨fun _ => rfl, fun _ => rfl⟩
  | fail =>
    obtain rfl : state = .failed := by simpa [allowedStates] using hc
    exact ⟨nofun, nofun⟩
  | error =>
    have hstate : state = .error ∨ state = .unsupported := by simpa [allowedStates] using hc
    rcases hstate with rfl | rfl
    · exact ⟨fun h => absurd h herror, nofun⟩
    · exact ⟨nofun, nofun⟩
  | skipped =>
    obtain rfl : state = .unsupported := by simpa [allowedStates] using hc
    exact ⟨nofun, nofun⟩
  | pending => simp [allowedStates] at hc

end Categories

variable (snapshot : JournalReportSnapshot)

def JournalReportSnapshot.attemptsOf (scenarioId : String) : List JournalReportAttempt :=
  snapshot.attempts.filter (·.record.scenarioId = scenarioId)

def JournalReportSnapshot.observationsOf (scenarioId : String) : List JournalReportObservation :=
  snapshot.observations.filter (·.scenarioId = scenarioId)

def JournalReportSnapshot.assertionsOf (scenarioId : String) : List JournalReportAssertion :=
  snapshot.assertions.filter (·.record.scenarioId = scenarioId)

def resultCategories : List ResultCategory :=
  let categories := snapshot.attempts.map attemptCategory ++
    snapshot.observations.map observationCategory ++
    snapshot.assertions.map (assertionCategory snapshot.terminalCategory)
  if categories.isEmpty then [.pass] else categories

structure HtmlScenarioResult where
  scenarioId : String
  name : String
  ordinal : Nat
  classification : ResultCategory
  deriving DecidableEq, Repr

def htmlScenario (scenario : JournalReportScenario) : HtmlScenarioResult :=
  let categories := scenarioStateCategory snapshot.terminalCategory scenario.state ::
    ((snapshot.attemptsOf scenario.scenarioId).map attemptCategory ++
      (snapshot.observationsOf scenario.scenarioId).map observationCategory ++
      (snapshot.assertionsOf scenario.scenarioId).map (assertionCategory snapshot.terminalCategory))
  ⟨scenario.scenarioId, scenario.name, scenario.ordinal, reduceResultCategories categories none⟩

def htmlScenarios : List HtmlScenarioResult := snapshot.scenarios.map (htmlScenario snapshot)

inductive JUnitCaseKind where
  | assertion
  | infrastructure
  deriving DecidableEq, Repr

inductive JUnitErrorType where
  | observerTimeout
  | environmentError
  | harnessError
  | ambiguousOutcome
  | invalidInput
  deriving DecidableEq, Repr

structure JUnitCase where
  caseId : String
  name : String
  kind : JUnitCaseKind
  classification : ResultCategory
  physicalDurationNs : Nat
  assertionId : Option String
  assertionOrdinal : Option Nat
  message : Option String
  reasonCode : Option String
  errorType : Option JUnitErrorType
  evidenceRefs : List String
  deriving DecidableEq, Repr

def junitErrorType : ResultCategory → Option JUnitErrorType
  | .environmentError => some .environmentError
  | .harnessError => some .harnessError
  | .ambiguous => some .ambiguousOutcome
  | .invalidInput => some .invalidInput
  | _ => none

def junitReasonCode : ResultCategory → Option String
  | .unsupported => some "UNSUPPORTED_CAPABILITY"
  | .cancelled => some "CANCELLED_BY_OPERATOR"
  | _ => none

/-- `_junit_case` for an infrastructure case. -/
def infrastructureCase (caseId name : String) (classification : ResultCategory) (durationNs : Nat)
    (message : String) (evidenceRefs : List String) : JUnitCase :=
  { caseId, name, kind := .infrastructure, classification, physicalDurationNs := durationNs,
    assertionId := none, assertionOrdinal := none, message := some message,
    reasonCode := junitReasonCode classification, errorType := junitErrorType classification,
    evidenceRefs }

/-- The child element `_render_case` gives a testcase. -/
inductive CaseElement where
  | failure
  | error
  | skipped
  deriving DecidableEq, Repr

def JUnitCase.element (case_ : JUnitCase) : Option CaseElement :=
  match case_.classification with
  | .receiverFailure => some .failure
  | .environmentError | .harnessError | .ambiguous | .invalidInput => some .error
  | .unsupported | .cancelled => some .skipped
  | .pass => none

/-- A zero elapsed time is as good as none for the `or` chain of `_attempt_duration`. -/
def attemptDuration (item : JournalReportAttempt) : Nat :=
  match item.record.monotonicElapsedNs with
  | some (n + 1) => n + 1
  | _ => item.responseHeadersElapsedNs.getD 0

/-- A dictionary keyed by attempt id and record id: the last writer of a key wins. -/
def attemptByReference (attempts : List JournalReportAttempt) (reference : String) :
    Option JournalReportAttempt :=
  attempts.reverse.find? fun item =>
    item.record.attemptId = reference ∨ item.record.recordId = reference

def observationByReference (observations : List JournalReportObservation) (reference : String) :
    Option JournalReportObservation :=
  observations.reverse.find? fun item =>
    item.observationId = reference ∨ item.sampleId = reference ∨ item.recordId = reference

section JUnit

-- the ordinals `_assertion_ordinals` reads off the verified manifest
variable (assertionOrdinals : String → String → Nat) (scenario : JournalReportScenario)

def assertionCase (item : JournalReportAssertion) : JUnitCase :=
  let classification := assertionCategory snapshot.terminalCategory item
  { caseId := "assertion-" ++ item.record.recordId
    name := item.record.type
    kind := .assertion
    classification
    physicalDurationNs := (item.record.evidenceRefs.filterMap
      (attemptByReference (snapshot.attemptsOf scenario.scenarioId))).foldl
        (fun longest a => max longest (attemptDuration a)) 0
    assertionId := some item.record.assertionId
    assertionOrdinal := some (assertionOrdinals item.record.scenarioId item.record.assertionId)
    message := item.record.message
    reasonCode := junitReasonCode classification
    errorType := junitErrorType classification
    evidenceRefs := item.record.evidenceRefs }

def attemptCase (item : JournalReportAttempt) : Option JUnitCase :=
  let category := attemptCategory item
  if category = .pass ∨ category = .receiverFailure then none
  else some (infrastructureCase ("attempt-" ++ item.record.recordId)
    ("attempt " ++ item.record.attemptId) category (attemptDuration item)
    (item.record.errorMessage.getD "Attempt did not produce a comparable receiver result.")
    [item.record.recordId])

def observationCase (item : JournalReportObservation) : Option JUnitCase :=
  let category := observationCategory item
  if category = .pass then none
  else some (infrastructureCase ("observation-" ++ item.recordId)
    ("observation " ++ item.observationId) category 0
    (item.errorMessage.getD "Observer capability is unsupported.") [item.recordId])

def scenarioCase : Option JUnitCase :=
  let fallback := scenarioStateCategory snapshot.terminalCategory scenario.state
  if fallback = .pass then none
  else some (infrastructureCase ("scenario-" ++ toString scenario.ordinal ++ "-result")
    "scenario terminal result" fallback 0
    "Scenario completed without a more specific exported testcase." [])

def junitCases : List JUnitCase :=
  let cases := (snapshot.assertionsOf scenario.scenarioId).map
      (assertionCase snapshot assertionOrdinals scenario) ++
    (snapshot.attemptsOf scenario.scenarioId).filterMap attemptCase ++
    (snapshot.observationsOf scenario.scenarioId).filterMap observationCase
  if cases.isEmpty then (scenarioCase snapshot scenario).toList else cases

structure JUnitScenario where
  scenarioId : String
  name : String
  ordinal : Nat
  cases : List JUnitCase
  deriving DecidableEq, Repr

/-- The suites of `_junit_run`, one for each scenario. -/
def junitScenarios : List JUnitScenario := snapshot.scenarios.map fun scenario =>
  ⟨scenario.scenarioId, scenario.name, scenario.ordinal,
    junitCases snapshot assertionOrdinals scenario⟩

end JUnit

structure FailureCausalTrace where
  assertionRecordId : String
  scenarioId : String
  eventId : String
  deliveryId : String
  attemptId : String
  attemptRecordId : String
  observationId : String
  observationRecordId : String
  assertionId : String
  classification : ResultCategory
  immediateEvidenceRefs : List String
  deriving DecidableEq, Repr

/-- The first reference of an evaluation that is an attempt of its scenario. -/
def tracedAttempt (item : JournalReportAssertion) : Option JournalReportAttempt :=
  item.record.evidenceRefs.findSome? fun reference =>
    (attemptByReference snapshot.attempts reference).filter
      (·.record.scenarioId = item.record.scenarioId)

def tracedObservation (item : JournalReportAssertion) : Option JournalReportObservation :=
  item.record.evidenceRefs.findSome? fun reference =>
    (observationByReference snapshot.observations reference).filter
      (·.scenarioId = item.record.scenarioId)

/-- One turn of the loop of `_causal_traces`. -/
def causalTrace (item : JournalReportAssertion) : Option FailureCausalTrace :=
  if item.record.result = .pass then none
  else
    match tracedAttempt snapshot item, tracedObservation snapshot item with
    | some attempt, some observation =>
      some { assertionRecordId := item.record.recordId
             scenarioId := item.record.scenarioId
             eventId := attempt.record.eventId
             deliveryId := attempt.record.deliveryId
             attemptId := attempt.record.attemptId
             attemptRecordId := attempt.record.recordId
             observationId := observation.observationId
             observationRecordId := observation.recordId
             assertionId := item.record.assertionId
             classification := assertionCategory snapshot.terminalCategory item
             immediateEvidenceRefs := item.record.evidenceRefs }
    | _, _ => none

def causalTraces : List FailureCausalTrace := snapshot.assertions.filterMap (causalTrace snapshot)

def failureRefs : List String :=
  ((snapshot.attempts.filter (attemptCategory · ≠ .pass)).map (·.record.recordId) ++
    (snapshot.observations.filter (observationCategory · ≠ .pass)).map (·.recordId) ++
    (causalTraces snapshot).map FailureCausalTrace.assertionRecordId).eraseDups

structure ResultCounts where
  scenarios : Nat
  attempts : Nat
  observations : Nat
  assertions : Nat
  deriving DecidableEq, Repr

structure AggregateRunOutcome where
  verdict : ResultCategory
  exitCode : Nat
  counts : ResultCounts
  failureRefs : List String
  deriving DecidableEq, Repr

/-- `build_result_summary` on the source that `_regenerate_with_service` assembles. -/
def resultSummary : AggregateRunOutcome :=
  let verdict := reduceResultCategories (resultCategories snapshot) snapshot.terminalCategory
  { verdict
    exitCode := exitForResult verdict
    counts := ⟨snapshot.scenarios.length, snapshot.attempts.length, snapshot.observations.length,
      snapshot.assertions.length⟩
    failureRefs := failureRefs snapshot }

section Agreement

variable {snapshot} {scenario : JournalReportScenario} {assertionOrdinals : String → String → Nat}

/-- Every row of the scenario is a success on its own: the receiver accepted each attempt, each
sample is `ok` and each evaluation passed. -/
def CleanScenario (snapshot : JournalReportSnapshot) (scenarioId : String) : Prop :=
  (∀ item ∈ snapshot.attempts, item.record.scenarioId = scenarioId →
    item.record.classification = .receiverAccepted ∨ item.record.classification = .planned) ∧
  (∀ item ∈ snapshot.observations, item.scenarioId = scenarioId → item.status = .ok) ∧
  ∀ item ∈ snapshot.assertions, item.record.scenarioId = scenarioId → item.record.result = .pass

/-- The HTML page shows the worst row of a passed scenario, not its verdict. -/
theorem htmlScenario_pass (hpassed : scenario.state = .passed) :
    (htmlScenario snapshot scenario).classification = .pass ↔
      CleanScenario snapshot scenario.scenarioId := by
  simp only [htmlScenario, reduceResultCategories_pass, List.forall_mem_cons, hpassed,
    scenarioStateCategory, true_and, List.forall_mem_append, List.forall_mem_map,
    JournalReportSnapshot.attemptsOf, JournalReportSnapshot.observationsOf,
    JournalReportSnapshot.assertionsOf, List.mem_filter, decide_eq_true_eq, and_imp,
    attemptCategory_pass, observationCategory_pass, assertionCategory_pass, CleanScenario, and_assoc]

theorem junitCases_clean (hpassed : scenario.state = .passed)
    (hclean : CleanScenario snapshot scenario.scenarioId) :
    ∀ case_ ∈ junitCases snapshot assertionOrdinals scenario, case_.classification = .pass := by
  obtain ⟨hattempts, hobservations, hassertions⟩ := hclean
  have hnoAttempt : (snapshot.attemptsOf scenario.scenarioId).filterMap attemptCase = [] := by
    rw [List.filterMap_eq_nil_iff]
    intro item hitem
    obtain ⟨hmem, hscenario⟩ := List.mem_filter.1 hitem
    have hpass := (attemptCategory_pass item).2 (hattempts item hmem (by simpa using hscenario))
    simp [attemptCase, hpass]
  have hnoObservation :
      (snapshot.observationsOf scenario.scenarioId).filterMap observationCase = [] := by
    rw [List.filterMap_eq_nil_iff]
    intro item hitem
    obtain ⟨hmem, hscenario⟩ := List.mem_filter.1 hitem
    have hpass := (observationCategory_pass item).2
      (hobservations item hmem (by simpa using hscenario))
    simp [observationCase, hpass]
  have hnoFallback : scenarioCase snapshot scenario = none := by
    simp [scenarioCase, hpassed, scenarioStateCategory]
  intro case_ hcase
  simp only [junitCases, hnoAttempt, hnoObservation, List.append_nil, hnoFallback] at hcase
  split at hcase
  · cases hcase
  · obtain ⟨item, hitem, rfl⟩ := List.mem_map.1 hcase
    obtain ⟨hmem, hscenario⟩ := List.mem_filter.1 hitem
    exact (assertionCategory_pass _ item).2 (hassertions item hmem (by simpa using hscenario))

end Agreement

section Causality

variable {snapshot} {item : JournalReportAssertion} {reference : String}

theorem attemptByReference_some {attempts : List JournalReportAttempt} {a : JournalReportAttempt}
    (h : attemptByReference attempts reference = some a) :
    a ∈ attempts ∧ (a.record.attemptId = reference ∨ a.record.recordId = reference) := by
  refine ⟨List.mem_reverse.1 (List.mem_of_find?_eq_some h), ?_⟩
  simpa using List.find?_some h

theorem observationByReference_some {observations : List JournalReportObservation}
    {o : JournalReportObservation}
    (h : observationByReference observations reference = some o) :
    o ∈ observations ∧
      (o.observationId = reference ∨ o.sampleId = reference ∨ o.recordId = reference) := by
  refine ⟨List.mem_reverse.1 (List.mem_of_find?_eq_some h), ?_⟩
  simpa using List.find?_some h

/-- A reference resolves to an attempt of the evaluation's own scenario. -/
def NamesAttempt (snapshot : JournalReportSnapshot) (item : JournalReportAssertion)
    (reference : String) : Prop :=
  ∃ a, attemptByReference snapshot.attempts reference = some a ∧
    a.record.scenarioId = item.record.scenarioId

def NamesObservation (snapshot : JournalReportSnapshot) (item : JournalReportAssertion)
    (reference : String) : Prop :=
  ∃ o, observationByReference snapshot.observations reference = some o ∧
    o.scenarioId = item.record.scenarioId

theorem findSome?_filter_isSome {α β : Type} {refs : List α} {f : α → Option β} {p : β → Bool} :
    (refs.findSome? fun r => (f r).filter p).isSome = true ↔
      ∃ r ∈ refs, ∃ b, f r = some b ∧ p b = true := by
  rw [List.findSome?_isSome_iff]
  simp only [Option.isSome_iff_exists, Option.filter_eq_some_iff]

theorem tracedAttempt_isSome : (tracedAttempt snapshot item).isSome = true ↔
    ∃ reference ∈ item.record.evidenceRefs, NamesAttempt snapshot item reference := by
  simp only [tracedAttempt, findSome?_filter_isSome, decide_eq_true_eq, NamesAttempt]

theorem tracedObservation_isSome : (tracedObservation snapshot item).isSome = true ↔
    ∃ reference ∈ item.record.evidenceRefs, NamesObservation snapshot item reference := by
  simp only [tracedObservation, findSome?_filter_isSome, decide_eq_true_eq, NamesObservation]

/-- A failed evaluation gets a trace exactly when its references name an attempt and an
observation of its scenario. -/
theorem causalTrace_isSome (hfailed : item.record.result ≠ .pass) :
    (causalTrace snapshot item).isSome = true ↔
      (∃ reference ∈ item.record.evidenceRefs, NamesAttempt snapshot item reference) ∧
        ∃ reference ∈ item.record.evidenceRefs, NamesObservation snapshot item reference := by
  rw [← tracedAttempt_isSome, ← tracedObservation_isSome, causalTrace, if_neg hfailed]
  cases tracedAttempt snapshot item <;> cases tracedObservation snapshot item <;> simp

theorem causalTrace_some {trace : FailureCausalTrace} (h : causalTrace snapshot item = some trace) :
    trace.assertionRecordId = item.record.recordId ∧
      trace.immediateEvidenceRefs = item.record.evidenceRefs := by
  unfold causalTrace at h
  split at h
  · cases h
  · split at h
    · cases h
      exact ⟨rfl, rfl⟩
    · cases h

end Causality

end WebhookConformance
