import WebhookConformance.Reporting
import WebhookConformance.Evaluation

/-! What the reports say about a finished run: where they agree with the journal's verdicts, and
which failed evaluations they name. -/
namespace WebhookConformance

variable {snapshot : JournalReportSnapshot} {item : JournalReportAssertion}
  {assertionOrdinals : String → String → Nat}

/-- The summary repeats the run's terminal category; a scenario the journal passed is passed on
the HTML page and has no failed or errored testcase. -/
structure ReportsAgree (snapshot : JournalReportSnapshot)
    (assertionOrdinals : String → String → Nat) : Prop where
  summary : some (resultSummary snapshot).verdict = snapshot.terminalCategory
  html : List.Forall₂ (fun scenario page => scenario.state = .passed → page.classification = .pass)
    snapshot.scenarios (htmlScenarios snapshot)
  junit : List.Forall₂ (fun scenario suite => scenario.state = .passed → ∀ case_ ∈ suite.cases,
      case_.element ≠ some .failure ∧ case_.element ≠ some .error)
    snapshot.scenarios (junitScenarios snapshot assertionOrdinals)

theorem element_of_pass {case_ : JUnitCase} (h : case_.classification = .pass) :
    case_.element = none := by
  simp [JUnitCase.element, h]

/-- The reports of a terminal run agree with its journal exactly when every row of every passed
scenario is a success of its own. -/
theorem reports_agree_iff {category : ResultCategory}
    (hterminal : snapshot.terminalCategory = some category) :
    ReportsAgree snapshot assertionOrdinals ↔
      ∀ scenario ∈ snapshot.scenarios, scenario.state = .passed →
        CleanScenario snapshot scenario.scenarioId := by
  constructor
  · intro h scenario hmem hpassed
    have hpage := List.forall₂_map_right_iff.1 h.html
    exact (htmlScenario_pass hpassed).1 (List.forall₂_same.1 hpage scenario hmem hpassed)
  · intro h
    refine ⟨?_, ?_, ?_⟩
    · simp only [resultSummary, hterminal, reduceResultCategories]
    · refine List.forall₂_map_right_iff.2 (List.forall₂_same.2 ?_)
      intro scenario hmem hpassed
      exact (htmlScenario_pass hpassed).2 (h scenario hmem hpassed)
    · refine List.forall₂_map_right_iff.2 (List.forall₂_same.2 ?_)
      intro scenario hmem hpassed case_ hcase
      have hpass := junitCases_clean hpassed (h scenario hmem hpassed) case_ hcase
      rw [element_of_pass hpass]
      simp

section Retried

/-- A receiver that answers 503 first and 200 to every retry. -/
def recoveringReceiver : RunEnvironment :=
  { respondingRun 200 with
    attempt := fun _ n => respondedRun (if n = 1 then 503 else 200)
    retryableStatus := fun _ => some (· = 503) }

def retriedDelivery : ScenarioConfig :=
  ⟨"scenario", [.deliver ⟨"event", 1, none, some ⟨2, [⟨1, by decide⟩], [.retryableStatus],
    some [.status 503], ⟨0, by decide⟩, RetryConfig.two_attempts, rfl, by decide, by decide, by decide⟩,
    DeliverAction.one_copy⟩]⟩

/-- Its delivery, with a second attempt for a retryable status. -/
def retriedCopy : DeliveryPlan :=
  let first := singleAttempt none "delivery_29AVWKGS4G88PM4JRECBH4X69B" 0 0
  { first with attemptPlan := first.attemptPlan ++ [⟨2, 1, "blob",
    "sha256:4f53cda18c2baa0c0354bb5f9a3ecbe5ed12ab4d8e11ba873c2f11161202b945",
    some "retryable_status".toList⟩] }

def retriedPlan : ScenarioPlan := ⟨"scenario_2CY5SDSX4NZX12T001604YR00C", [retriedCopy]⟩

theorem retriedDelivery_scheduled :
    compileScenarios modularGenerator (fun _ => "blob") 0 [retriedDelivery] = .ok [retriedPlan] ∧
      bootstrapSchedule modularGenerator modularSha256 [retriedPlan] = .ok [oneEntry] := by
  have hseed := scheduleSeed_of (n := 0) (d := retriedCopy) rfl oneEntry_ids.1 oneEntry_ids.2
  have hseeds : bootstrapScenario modularGenerator modularSha256 0 retriedPlan =
      .ok [oneEntry] := by
    rw [bootstrapScenario, if_neg (by decide), Checked.mapM_ok_iff]
    exact .cons hseed .nil
  refine ⟨by decide +kernel, bootstrapSchedule_of ?_ (Checked.bind_of hseeds rfl) rfl ?_ ?_⟩ <;>
    decide +kernel

/-- The classifications of a run's attempts in order, and how its scenario is committed. -/
def retriedOutcome : Except ScheduleError (List ScenarioPlan × LoopState) →
    Option (List AttemptClassification × ResultCategory × ScenarioState)
  | .ok ([plan], final) =>
    match evaluateScenario false final.deliveryVerdicts
        (final.attempts.map (AttemptExecution.persisted "event_1"))
        (statusScenario plan ⟨[200], []⟩) with
    | .ok (result, some committed) =>
      some (final.attempts.map (·.run.classification), result.resultCategory, committed)
    | _ => none
  | _ => none

def runRetriedScenario : Option (List AttemptClassification × ResultCategory × ScenarioState) :=
  retriedOutcome (executeProject recoveringReceiver (fun _ => "blob") [retriedDelivery])

def answeredAttempt (recordId attemptId : String) (classification : AttemptClassification)
    (hrecord : hasKind "record" recordId = true) (hattempt : hasKind "attempt" attemptId = true) :
    JournalReportAttempt :=
  ⟨⟨recordId, "scenario_1", "event_1", "delivery_1", attemptId, none, classification, none,
    hrecord, hattempt⟩, none⟩

def acceptedSnapshot : JournalReportSnapshot where
  terminalCategory := some .pass
  scenarios := [⟨"scenario_1", 1, "scenario", .passed⟩]
  attempts := [answeredAttempt "record_1" "attempt_1" .receiverAccepted (by decide) (by decide)]
  observations := []
  assertions := [⟨⟨"record_2", "scenario_1", "assertion_1", "http_status", .pass, ["attempt_1"],
    none⟩, .passed, by decide⟩]
  recordIds_nodup := by decide

theorem accepted_reports_agree :
    acceptedSnapshot.terminalCategory = some .pass ∧ ReportsAgree acceptedSnapshot (fun _ _ => 1) :=
  ⟨rfl, (reports_agree_iff rfl).2 (by simp [acceptedSnapshot, answeredAttempt, CleanScenario])⟩

/-- The journal of the retried run: a rejected attempt, the accepted one, a passed assertion. -/
def retriedSnapshot : JournalReportSnapshot where
  terminalCategory := some .pass
  scenarios := [⟨"scenario_1", 1, "scenario", .passed⟩]
  attempts := [answeredAttempt "record_1" "attempt_1" .receiverRejected (by decide) (by decide),
    answeredAttempt "record_2" "attempt_2" .receiverAccepted (by decide) (by decide)]
  observations := []
  assertions := [⟨⟨"record_3", "scenario_1", "assertion_1", "http_status", .pass, ["attempt_2"],
    none⟩, .passed, by decide⟩]
  recordIds_nodup := by decide

/-- A 503 that is retried and then accepted passes its scenario, and the HTML page of the passed
scenario reads as a receiver failure. -/
theorem retried_reports_disagree :
    runRetriedScenario = some (retriedSnapshot.attempts.map (·.record.classification), .pass,
      .passed) ∧
    (htmlScenarios retriedSnapshot).map HtmlScenarioResult.classification = [.receiverFailure] ∧
    ¬ ReportsAgree retriedSnapshot (fun _ _ => 1) := by
  have hproject := @executeProject_of recoveringReceiver _ _ _ _ retriedDelivery_scheduled.1
    retriedDelivery_scheduled.2
  refine ⟨?_, by decide, ?_⟩
  · rw [runRetriedScenario, hproject]
    decide +kernel
  intro h
  have hpage := List.forall₂_map_right_iff.1 h.html
  cases List.forall₂_same.1 hpage _ (List.mem_singleton_self _) rfl

end Retried

section Named

/-- The reports name an evaluation: its record is a failure reference, and the causal index has a
trace of it that links the evidence it references. -/
def NamedInReports (snapshot : JournalReportSnapshot) (item : JournalReportAssertion) : Prop :=
  item.record.recordId ∈ (resultSummary snapshot).failureRefs ∧
    ∃ trace ∈ causalTraces snapshot, trace.assertionRecordId = item.record.recordId ∧
      trace.immediateEvidenceRefs = item.record.evidenceRefs

theorem named_of_trace {trace : FailureCausalTrace} (hmem : item ∈ snapshot.assertions)
    (h : causalTrace snapshot item = some trace) : NamedInReports snapshot item := by
  obtain ⟨hrecord, hevidence⟩ := causalTrace_some h
  have htrace : trace ∈ causalTraces snapshot := List.mem_filterMap.2 ⟨item, hmem, h⟩
  refine ⟨?_, trace, htrace, hrecord, hevidence⟩
  rw [← hrecord]
  exact List.mem_eraseDups.2 (List.mem_append_right _ (List.mem_map_of_mem htrace))

/-- Record ids are unique, so a trace of an evaluation's record is a trace of the evaluation. -/
theorem trace_of_named (hmem : item ∈ snapshot.assertions) (h : NamedInReports snapshot item) :
    (causalTrace snapshot item).isSome = true := by
  obtain ⟨-, trace, htrace, hrecord, -⟩ := h
  obtain ⟨other, hother, htraceOther⟩ := List.mem_filterMap.1 htrace
  have hid : other.record.recordId = item.record.recordId :=
    (causalTrace_some htraceOther).1.symm.trans hrecord
  have hnodup := (List.nodup_append.1 snapshot.recordIds_nodup).2.1
  obtain rfl := List.inj_on_of_nodup_map hnodup hother hmem hid
  rw [htraceOther]
  rfl

theorem namedInReports_iff (hmem : item ∈ snapshot.assertions)
    (hfailed : item.record.result ≠ .pass) :
    NamedInReports snapshot item ↔
      (∃ reference ∈ item.record.evidenceRefs, NamesAttempt snapshot item reference) ∧
        ∃ reference ∈ item.record.evidenceRefs, NamesObservation snapshot item reference := by
  rw [← causalTrace_isSome hfailed]
  constructor
  · exact trace_of_named hmem
  · intro h
    obtain ⟨trace, htrace⟩ := Option.isSome_iff_exists.1 h
    exact named_of_trace hmem htrace

theorem hasKind_head {kind id : String} {c : Char} (h : hasKind kind id = true)
    (hc : kind.toList.head? = some c) : id.toList.head? = some c := by
  obtain ⟨rest, hrest⟩ := List.isPrefixOf_iff_prefix.1 h
  rw [← hrest, String.toList_append, List.append_assoc, List.head?_append, hc]
  rfl

theorem NamesAttempt.head {reference : String} (h : NamesAttempt snapshot item reference) :
    reference.toList.head? = some 'a' ∨ reference.toList.head? = some 'r' := by
  obtain ⟨a, ha, -⟩ := h
  rcases (attemptByReference_some ha).2 with rfl | rfl
  · exact Or.inl (hasKind_head a.record.attempt_kind rfl)
  · exact Or.inr (hasKind_head a.record.record_kind rfl)

theorem NamesObservation.head {reference : String} (h : NamesObservation snapshot item reference) :
    reference.toList.head? = some 'o' ∨ reference.toList.head? = some 's' ∨
      reference.toList.head? = some 'r' := by
  obtain ⟨o, ho, -⟩ := h
  rcases (observationByReference_some ho).2 with rfl | rfl | rfl
  · exact Or.inl (hasKind_head o.observation_kind rfl)
  · exact Or.inr (Or.inl (hasKind_head o.sample_kind rfl))
  · exact Or.inr (Or.inr (hasKind_head o.record_kind rfl))

/-- An id stored under its kind: the append of an evaluation finds it in that kind's table. -/
def TypedReference (reference : AssertionEvidenceReference) : Prop :=
  match reference.kind with
  | .attempt => hasKind "attempt" reference.evidenceId = true
  | .observation => hasKind "observation" reference.evidenceId = true ∨
      hasKind "sample" reference.evidenceId = true
  | _ => True

theorem TypedReference.attempt_head {reference : AssertionEvidenceReference}
    (h : TypedReference reference) (hkind : reference.kind = .attempt) :
    reference.evidenceId.toList.head? = some 'a' := by
  simp only [TypedReference, hkind] at h
  exact hasKind_head h rfl

theorem TypedReference.observation_head {reference : AssertionEvidenceReference}
    (h : TypedReference reference) (hkind : reference.kind = .observation) :
    reference.evidenceId.toList.head? = some 'o' ∨ reference.evidenceId.toList.head? = some 's' := by
  simp only [TypedReference, hkind] at h
  exact h.imp (fun h => hasKind_head h rfl) fun h => hasKind_head h rfl

/-- References of one of the two kinds alone name no attempt together with an observation. -/
theorem not_named_of_one_kind {references : List AssertionEvidenceReference}
    (hmem : item ∈ snapshot.assertions) (hfailed : item.record.result ≠ .pass)
    (htyped : ∀ reference ∈ references, TypedReference reference)
    (hrefs : item.record.evidenceRefs = references.map AssertionEvidenceReference.evidenceId)
    (hkind : (∀ reference ∈ references, reference.kind = .attempt) ∨
      ∀ reference ∈ references, reference.kind = .observation) :
    ¬ NamedInReports snapshot item := by
  rw [namedInReports_iff hmem hfailed, hrefs]
  rintro ⟨⟨_, hattempt, hnamesAttempt⟩, ⟨_, hobservation, hnamesObservation⟩⟩
  obtain ⟨first, hfirst, rfl⟩ := List.mem_map.1 hattempt
  obtain ⟨second, hsecond, rfl⟩ := List.mem_map.1 hobservation
  rcases hkind with hkind | hkind
  · -- an attempt id names no observation
    have hhead := (htyped second hsecond).attempt_head (hkind second hsecond)
    rcases hnamesObservation.head with h | h | h <;> simp [hhead] at h
  · -- neither an observation id nor a sample id names an attempt
    rcases (htyped first hfirst).observation_head (hkind first hfirst) with hhead | hhead <;>
      rcases hnamesAttempt.head with h | h <;> simp [hhead] at h

/-- The observer results of the runner's own executors: a lifecycle call over links to attempts
and observations, or a capability reference of one of these kinds. -/
def OwnObserver (c : AssertionCase) : Prop :=
  ∀ r, c.observed = .ok r → ∃ gap capability supplied,
    lifecycleEvaluateObserver c.config gap capability supplied = .ok r ∧
      ∀ reference ∈ capability.toList ++ supplied.1,
        reference.kind = .attempt ∨ reference.kind = .observation

theorem validateBundle_one_kind {config : AssertionConfig}
    {references : List AssertionEvidenceReference} (h : validateBundle config references = .ok ())
    (hkinds : ∀ reference ∈ references,
      reference.kind = .attempt ∨ reference.kind = .observation) :
    (∀ reference ∈ references, reference.kind = .attempt) ∨
      ∀ reference ∈ references, reference.kind = .observation := by
  simp only [validateBundle, List.mem_map, not_exists, not_and] at h
  by_cases htransport : config.isTransport = true
  · left
    intro reference hmem
    apply (hkinds reference hmem).resolve_right
    intro hobservation
    simp [htransport, show ∃ x ∈ references, x.kind = .observation from ⟨_, hmem, hobservation⟩] at h
    split at h <;> cases h
  · right
    intro reference hmem
    apply (hkinds reference hmem).resolve_left
    intro hattempt
    simp [htransport, show ∃ x ∈ references, x.kind = .attempt from ⟨_, hmem, hattempt⟩] at h
    split at h <;> cases h

theorem OwnObserver.one_kind {c : AssertionCase} {r : LifecycleResult} (hown : OwnObserver c)
    (h : c.observed = .ok r) :
    (∀ reference ∈ r.references, reference.kind = .attempt) ∨
      ∀ reference ∈ r.references, reference.kind = .observation := by
  obtain ⟨gap, capability, supplied, hobserve, hkinds⟩ := hown r h
  cases gap with
  | none =>
    obtain ⟨_, hvalid, hok⟩ := Checked.bind_ok hobserve
    cases hok
    exact validateBundle_one_kind hvalid fun reference hmem =>
      hkinds reference (List.mem_append_right _ hmem)
  | some skip =>
    cases capability with
    | none => cases hobserve
    | some reference =>
      cases hobserve
      simpa using hkinds reference (by simp)

theorem evaluateTransportSelection_references {events : List (String × String)}
    {config : AssertionConfig} {selector : AttemptSelector}
    {evaluator : PersistedAttempt → TransportEvaluation} {attempts : List PersistedAttempt}
    {r : LifecycleResult}
    (h : evaluateTransportSelection events config selector evaluator attempts = .ok r) :
    ∀ reference ∈ r.references, reference.kind = .attempt := by
  obtain ⟨selected, -, h⟩ := Checked.bind_ok h
  obtain ⟨_, -, hok⟩ := Checked.bind_ok h
  cases hok
  intro reference hmem
  obtain ⟨a, -, rfl⟩ := List.mem_map.1 hmem
  rfl

/-- What the loop persists for an assertion links attempts alone or observations alone. -/
theorem evaluatePending_one_kind {events : List (String × String)}
    {attempts : List PersistedAttempt} {c : AssertionCase} {r : LifecycleResult}
    (hown : OwnObserver c) (h : evaluatePending events attempts c = .ok r) :
    (∀ reference ∈ r.references, reference.kind = .attempt) ∨
      ∀ reference ∈ r.references, reference.kind = .observation := by
  unfold evaluatePending at h
  split at h
  · exact hown.one_kind h
  · split at h
    · exact Or.inl (evaluateTransportSelection_references h)
    · exact Or.inl (evaluateTransportSelection_references h)
    · exact hown.one_kind h

/-- The reports name a failed evaluation exactly when its references name both an attempt and an
observation of its scenario. No evaluation of the runner's own evaluators has such references. -/
theorem failed_evaluation_named_iff (hmem : item ∈ snapshot.assertions)
    (hfailed : item.record.result ≠ .pass) :
    (NamedInReports snapshot item ↔
      (∃ reference ∈ item.record.evidenceRefs, NamesAttempt snapshot item reference) ∧
        ∃ reference ∈ item.record.evidenceRefs, NamesObservation snapshot item reference) ∧
    ∀ events attempts (c : AssertionCase) (r : LifecycleResult), OwnObserver c →
      (evaluatePending events attempts c = .ok r ∨ c.observed = .ok r) →
      (∀ reference ∈ r.references, TypedReference reference) →
      item.record.evidenceRefs = r.references.map AssertionEvidenceReference.evidenceId →
        ¬ NamedInReports snapshot item := by
  refine ⟨namedInReports_iff hmem hfailed, ?_⟩
  intro events attempts c r hown hevaluated htyped hrefs
  apply not_named_of_one_kind hmem hfailed htyped hrefs
  rcases hevaluated with h | h
  · exact evaluatePending_one_kind hown h
  · exact hown.one_kind h

/-- A rejected delivery whose failed status assertion links its attempt. -/
def failedItem : JournalReportAssertion :=
  ⟨⟨"record_2", "scenario_1", "assertion_1", "http_status", .fail, ["attempt_1"], none⟩, .failed,
    by decide⟩

def failedSnapshot : JournalReportSnapshot where
  terminalCategory := some .receiverFailure
  scenarios := [⟨"scenario_1", 1, "scenario", .failed⟩]
  attempts := [answeredAttempt "record_1" "attempt_1" .receiverRejected (by decide) (by decide)]
  observations := []
  assertions := [failedItem]
  recordIds_nodup := by decide

theorem failed_status_named_iff : NamedInReports failedSnapshot failedItem ↔
    (∃ reference ∈ ["attempt_1"], NamesAttempt failedSnapshot failedItem reference) ∧
      ∃ reference ∈ ["attempt_1"], NamesObservation failedSnapshot failedItem reference :=
  (failed_evaluation_named_iff (List.mem_singleton_self _) (by decide)).1

/-- The receiver answers 500 where 200 is expected: the evaluation fails with its attempt as
evidence, the summary names the attempt alone and the causal index is empty. -/
theorem failed_status_not_named :
    ((evaluatePending [("event", "event_1")] [⟨"attempt_1", "event_1", some 500, none⟩]
        ⟨"assertion_1", .httpStatus ⟨[200], []⟩ ⟨"event", .lastTerminal⟩, .pending, none, [], none,
          .error ""⟩).toOption.map fun r =>
        (r.normalized.result, r.references.map AssertionEvidenceReference.evidenceId)) =
      some (failedItem.record.result, failedItem.record.evidenceRefs) ∧
    (resultSummary failedSnapshot).failureRefs = ["record_1"] ∧
    causalTraces failedSnapshot = [] ∧ ¬ NamedInReports failedSnapshot failedItem := by
  have htraces : causalTraces failedSnapshot = [] := by decide
  refine ⟨by decide, by decide, htraces, ?_⟩
  rintro ⟨-, trace, htrace, -⟩
  rw [htraces] at htrace
  cases htrace

end Named

end WebhookConformance
