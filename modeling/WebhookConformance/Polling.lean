import WebhookConformance.ObserverEvaluators

/-! One observation series: `ObservationPoller.poll` with the samples it stores. -/
namespace WebhookConformance

open Checked

section Records

/-- `_record_status`. -/
def ObserverResponseStatus.recorded : ObserverResponseStatus → ObservationStatus
  | .ok => .ok
  | .pending => .pending
  | .unsupported => .unsupported
  | .error => .error

/-- `_response_record`: sensitive evidence is not stored. -/
def responseRecord (sampleId : String) (sequence : Nat) (r : ObserverResponse) :
    ObservationRecord where
  sampleId := sampleId
  sampleSequence := sequence
  status := r.status.recorded
  snapshotId := r.snapshotId
  evidence := withoutSensitive r.evidence
  error := r.error.map fun e => ⟨e.category, "Observer returned a classified error."⟩
  evidence_le := (List.length_filter_le _ _).trans r.evidence_le
  keys_nodup := r.keys_nodup.sublist (List.filter_sublist.map _)
  shape := by
    have h := r.shape
    cases hs : r.status <;> simp_all [ResponseShape, RecordShape, ObserverResponseStatus.recorded]

/-- A record without a response. -/
def plainRecord (sampleId : String) (sequence : Nat) (status : ObservationStatus)
    (error : Option ObservationRecordError) (shape : RecordShape status none [] error) :
    ObservationRecord :=
  ⟨sampleId, sequence, status, none, [], error, Nat.zero_le _, List.nodup_nil, shape⟩

def unsupportedRecord (sampleId : String) (sequence : Nat) : ObservationRecord :=
  plainRecord sampleId sequence .unsupported none ⟨rfl, rfl⟩

def errorRecord (sampleId : String) (sequence : Nat) (category : ErrorToken) (message : String) :
    ObservationRecord :=
  plainRecord sampleId sequence .error (some ⟨category, message⟩) ⟨⟨rfl, rfl⟩, rfl⟩

def timeoutRecord (sampleId : String) (sequence : Nat) (category : ErrorToken) :
    ObservationRecord :=
  plainRecord sampleId sequence .timeout (some ⟨category, "The physical observer deadline elapsed."⟩)
    ⟨⟨rfl, rfl⟩, rfl⟩

def deadlineToken : ErrorToken := ⟨"observer_deadline", by decide⟩

def timeoutToken : ErrorToken := ⟨"observer_timeout", by decide⟩

def predicateErrorToken : ErrorToken := ⟨"predicate_error", by decide⟩

end Records

section Poller

/-- What one invocation of the observer process or endpoint does. -/
inductive Invocation where
  | response (r : ObserverResponse)
  | timeout
  | failure (diagnostic : Option ObserverDiagnostic)

/-- One turn of the polling loop: the monotonic clock at its head, before the invocation and after
it. -/
structure PollTurn where
  headNs : Nat
  invokedNs : Nat
  invocation : Invocation
  finishedNs : Nat

/-- A started series; `startNs` is the clock reading the deadline counts from. -/
structure ObservationSeries where
  plan : ObservationPollPlan
  requestId : String
  capabilities : ObserverCapabilities
  startNs : Nat

namespace ObservationSeries

variable (series : ObservationSeries)

def negotiation : CapabilityNegotiation :=
  negotiateCapabilities series.capabilities series.plan.queries

def expired (now : Nat) : Bool := decide (series.startNs + series.plan.withinNs ≤ now)

/-- `_invoke_with_deadline` over an adapter, which checks the response against the request. -/
def invoke (turn : PollTurn) : Invocation :=
  if series.expired turn.invokedNs then .timeout
  else
    match turn.invocation with
    | .response r =>
      match validateResponseForRequest series.requestId series.plan.queries r with
      | .ok r => .response r
      | .error diagnostic => .failure (some diagnostic)
    | other => other

end ObservationSeries

/-- What the loop keeps between two turns; the records are those stored so far. -/
structure PollState where
  records : List ObservationRecord
  lastResponse : Option ObserverResponse
  validEvidenceSeen : Bool

/-- A series that has come to its end. -/
structure PollRun where
  result : ObservationPollResult
  records : List ObservationRecord

inductive PollStep where
  | again (state : PollState)
  | finished (run : PollRun)

namespace PollState

def sequence (state : PollState) : Nat := state.records.length + 1

def append (state : PollState) (record : ObservationRecord) : PollState :=
  { state with records := state.records ++ [record] }

def answered (state : PollState) (r : ObserverResponse) : PollState :=
  { state with
    lastResponse := some r
    validEvidenceSeen := state.validEvidenceSeen || decide (r.status = .ok) }

/-- The last sample with its terminal edge, and the result. -/
def finish (state : PollState) (outcome : ObservationPollOutcome) (record : ObservationRecord)
    (deadlineElapsed : Bool) : PollRun :=
  ⟨⟨outcome, outcome.finalState, (state.records ++ [record]).map ObservationRecord.sampleId,
    decide (outcome = .matched), state.validEvidenceSeen, deadlineElapsed, state.lastResponse⟩,
    state.records ++ [record]⟩

end PollState

section Loop

variable (series : ObservationSeries) (predicate : ObserverResponse → Except String Bool)
  (sampleId : Nat → String)

/-- The part of the loop that handles a response. -/
def pollResponse (state : PollState) (r : ObserverResponse) : PollStep :=
  let id := sampleId state.sequence
  let record := responseRecord id state.sequence r
  let answered := state.answered r
  if r.capabilities ≠ series.capabilities then
    .finished (state.finish .error (errorRecord id state.sequence protocolErrorToken
      "Observer capabilities changed during one polling series.") false)
  else
    match r.status with
    | .ok =>
      match predicate r with
      | .error _ =>
        .finished (answered.finish .error (errorRecord id state.sequence predicateErrorToken
          "The typed polling predicate could not evaluate valid evidence.") false)
      | .ok true => .finished (answered.finish .matched record false)
      | .ok false =>
        if series.capabilities.automaticReinvocationSafe then .again (answered.append record)
        else .finished (answered.finish .mismatch record false)
    | .pending =>
      if automaticPollingAllowed series.capabilities series.negotiation then
        .again (answered.append record)
      else .finished (answered.finish .pending record false)
    | .unsupported => .finished (answered.finish .unsupported record false)
    | .error =>
      if automaticRetryAllowed series.capabilities r then .again (answered.append record)
      else .finished (answered.finish .error record false)

/-- A classified exception ends the series unless it may be retried before the deadline. -/
def pollFailure (state : PollState) (diagnostic : Option ObserverDiagnostic) (finishedNs : Nat) :
    PollStep :=
  let record := errorRecord (sampleId state.sequence) state.sequence
    ((diagnostic.map ObserverDiagnostic.category).getD protocolErrorToken)
    "Observer invocation failed with a classified error."
  if diagnostic.any ObserverDiagnostic.retryable &&
      series.capabilities.automaticReinvocationSafe && !series.expired finishedNs then
    .again (state.append record)
  else .finished (state.finish .error record false)

def pollTurn (state : PollState) (turn : PollTurn) : PollStep :=
  let timedOut := fun category =>
    state.finish .timedOut (timeoutRecord (sampleId state.sequence) state.sequence category)
  if series.expired turn.headNs then .finished (timedOut deadlineToken true)
  else
    match series.invoke turn with
    | .response r => pollResponse series predicate sampleId state r
    | .failure diagnostic => pollFailure series sampleId state diagnostic turn.finishedNs
    | .timeout => .finished (timedOut timeoutToken (series.expired turn.finishedNs))

/-- The loop over the turns of the series, which end where it ends. -/
def pollLoop : PollState → List PollTurn → Option PollRun
  | _, [] => none
  | state, turn :: turns =>
    match pollTurn series predicate sampleId state turn with
    | .again next => pollLoop next turns
    | .finished run => if turns.isEmpty then some run else none

def PollState.initial : PollState := ⟨[], none, false⟩

/-- `ObservationPoller.poll`: unsupported capabilities end the series before its first turn. -/
def poll (turns : List PollTurn) : Option PollRun :=
  if series.negotiation.supported then pollLoop series predicate sampleId .initial turns
  else if turns.isEmpty then
    some (PollState.initial.finish .unsupported (unsupportedRecord (sampleId 1) 1) false)
  else none

end Loop

end Poller

section Inversion

variable {series : ObservationSeries} {predicate : ObserverResponse → Except String Bool}
  {sampleId : Nat → String} {state next : PollState} {turn : PollTurn} {run : PollRun}

/-- The response that a turn gets from the observer. -/
def ObservationSeries.answer (series : ObservationSeries) (turn : PollTurn) :
    Option ObserverResponse :=
  match series.invoke turn with
  | .response r => some r
  | _ => none

theorem answer_eq_some {r : ObserverResponse} :
    series.answer turn = some r ↔ series.invoke turn = .response r := by
  unfold ObservationSeries.answer
  cases series.invoke turn <;> simp

/-- What a turn that does not end the series leaves. -/
theorem pollTurn_again (h : pollTurn series predicate sampleId state turn = .again next) :
    (∃ r, series.answer turn = some r ∧ r.status ≠ .unsupported ∧
      (r.status = .ok → predicate r = .ok false) ∧
      next = (state.answered r).append
        (responseRecord (sampleId state.sequence) state.sequence r)) ∨
    (∃ record : ObservationRecord, series.answer turn = none ∧ record.status = .error ∧
      series.capabilities.automaticReinvocationSafe = true ∧ next = state.append record) := by
  unfold pollTurn at h
  dsimp only at h
  split at h
  · cases h
  split at h
  · rename_i r hinvoke
    refine .inl ⟨r, answer_eq_some.mpr hinvoke, ?_⟩
    unfold pollResponse at h
    dsimp only at h
    split at h
    · cases h
    split at h
    · rename_i hstatus
      split at h
      · cases h
      · cases h
      · rename_i hpredicate
        split at h
        · cases h
          exact ⟨by simp [hstatus], fun _ => hpredicate, rfl⟩
        · cases h
    · rename_i hstatus
      split at h
      · cases h
        exact ⟨by simp [hstatus], by simp [hstatus], rfl⟩
      · cases h
    · cases h
    · rename_i hstatus
      split at h
      · cases h
        exact ⟨by simp [hstatus], by simp [hstatus], rfl⟩
      · cases h
  · rename_i diagnostic hinvoke
    unfold pollFailure at h
    dsimp only at h
    split at h
    · rename_i hretry
      cases h
      simp only [Bool.and_eq_true] at hretry
      refine .inr ⟨_, ?_, rfl, hretry.1.2, rfl⟩
      simp [ObservationSeries.answer, hinvoke]
    · cases h
  · cases h

/-- The observer gave no answer in time. -/
def ObservationSeries.TimesOut (series : ObservationSeries) (turn : PollTurn) : Prop :=
  series.expired turn.headNs = true ∨ series.invoke turn = .timeout

/-- The turn ends with an answer that the predicate could evaluate. -/
def Accepts (series : ObservationSeries) (predicate : ObserverResponse → Except String Bool)
    (turn : PollTurn) (r : ObserverResponse) : Prop :=
  series.expired turn.headNs = false ∧ series.answer turn = some r ∧
    r.capabilities = series.capabilities ∧ r.status = .ok ∧ ∃ matched, predicate r = .ok matched

/-- How a turn ends the series. -/
inductive PollEnd (series : ObservationSeries)
    (predicate : ObserverResponse → Except String Bool) (sampleId : Nat → String)
    (state : PollState) (turn : PollTurn) : PollRun → Prop where
  | deadline (hexpired : series.expired turn.headNs = true) :
    PollEnd series predicate sampleId state turn (state.finish .timedOut
      (timeoutRecord (sampleId state.sequence) state.sequence deadlineToken) true)
  | timeout (hexpired : series.expired turn.headNs = false)
      (hinvoke : series.invoke turn = .timeout) :
    PollEnd series predicate sampleId state turn (state.finish .timedOut
      (timeoutRecord (sampleId state.sequence) state.sequence timeoutToken)
      (series.expired turn.finishedNs))
  | accepted (r : ObserverResponse) (matched : Bool) (haccepts : Accepts series predicate turn r)
      (hpredicate : predicate r = .ok matched) :
    PollEnd series predicate sampleId state turn ((state.answered r).finish
      (if matched then .matched else .mismatch)
      (responseRecord (sampleId state.sequence) state.sequence r) false)
  | declined (r : ObserverResponse) (outcome : ObservationPollOutcome)
      (hanswer : series.answer turn = some r) (hexpired : series.expired turn.headNs = false)
      (hcapabilities : r.capabilities = series.capabilities)
      (hstatus : r.status = .pending ∧ outcome = .pending ∨
        r.status = .unsupported ∧ outcome = .unsupported) :
    PollEnd series predicate sampleId state turn ((state.answered r).finish outcome
      (responseRecord (sampleId state.sequence) state.sequence r) false)
  | failed (ended : PollState) (record : ObservationRecord) (hstatus : record.status = .error)
      (hrecords : ended.records = state.records) (htime : ¬ series.TimesOut turn)
      (haccepts : ∀ r, ¬ Accepts series predicate turn r)
      (hsupported : ∀ r, series.answer turn = some r → r.capabilities = series.capabilities →
        r.status ≠ .unsupported) :
    PollEnd series predicate sampleId state turn (ended.finish .error record false)

theorem pollResponse_finished {r : ObserverResponse} (hexpired : series.expired turn.headNs = false)
    (hinvoke : series.invoke turn = .response r)
    (h : pollResponse series predicate sampleId state r = .finished run) :
    PollEnd series predicate sampleId state turn run := by
  have hanswer := answer_eq_some.mpr hinvoke
  have htime : ¬ series.TimesOut turn := by simp [ObservationSeries.TimesOut, hexpired, hinvoke]
  have hsame : ∀ r', series.answer turn = some r' → r' = r := by
    intro r' h'
    exact (Option.some_inj.mp (hanswer.symm.trans h')).symm
  unfold pollResponse at h
  dsimp only at h
  split at h
  · rename_i hcapabilities
    cases h
    refine .failed _ _ rfl rfl htime ?_ ?_
    · rintro r' ⟨-, h', hc, -⟩
      exact hcapabilities (hsame r' h' ▸ hc)
    · intro r' h' hc
      exact absurd (hsame r' h' ▸ hc) hcapabilities
  rename_i hcapabilities
  rw [not_not] at hcapabilities
  split at h
  · rename_i hstatus
    split at h
    · rename_i e hpredicate
      cases h
      refine .failed _ _ rfl rfl htime ?_ ?_
      · rintro r' ⟨-, h', -, -, matched, hm⟩
        rw [hsame r' h', hpredicate] at hm
        cases hm
      · intro r' h' _
        simp [hsame r' h', hstatus]
    · rename_i hpredicate
      cases h
      exact .accepted r true ⟨hexpired, hanswer, hcapabilities, hstatus, true, hpredicate⟩ hpredicate
    · rename_i hpredicate
      split at h
      · cases h
      · cases h
        exact .accepted r false ⟨hexpired, hanswer, hcapabilities, hstatus, false, hpredicate⟩
          hpredicate
  · rename_i hstatus
    split at h
    · cases h
    · cases h
      exact .declined r .pending hanswer hexpired hcapabilities (.inl ⟨hstatus, rfl⟩)
  · rename_i hstatus
    cases h
    exact .declined r .unsupported hanswer hexpired hcapabilities (.inr ⟨hstatus, rfl⟩)
  · rename_i hstatus
    split at h
    · cases h
    · cases h
      refine .failed _ _ (by simp [responseRecord, hstatus, ObserverResponseStatus.recorded]) rfl htime ?_ ?_
      · rintro r' ⟨-, h', -, hok, -⟩
        rw [hsame r' h', hstatus] at hok
        cases hok
      · intro r' h' _
        simp [hsame r' h', hstatus]

theorem pollTurn_finished (h : pollTurn series predicate sampleId state turn = .finished run) :
    PollEnd series predicate sampleId state turn run := by
  unfold pollTurn at h
  dsimp only at h
  split at h
  · rename_i hexpired
    cases h
    exact .deadline hexpired
  rename_i hexpired
  rw [Bool.not_eq_true] at hexpired
  split at h
  · rename_i r hinvoke
    exact pollResponse_finished hexpired hinvoke h
  · rename_i diagnostic hinvoke
    have hanswer : series.answer turn = none := by simp [ObservationSeries.answer, hinvoke]
    unfold pollFailure at h
    dsimp only at h
    split at h
    · cases h
    · cases h
      refine .failed _ _ rfl rfl (by simp [ObservationSeries.TimesOut, hexpired, hinvoke]) ?_ ?_
      · rintro r ⟨-, h', -⟩
        rw [hanswer] at h'
        cases h'
      · intro r h' _
        rw [hanswer] at h'
        cases h'
  · rename_i hinvoke
    cases h
    exact .timeout hexpired hinvoke

end Inversion

section Eventual

/-- A poller's predicate asks for a pass and raises on an error. -/
def answerOf (result : AssertionResult) : Except String Bool :=
  if result = .error then .error "observer evidence could not be evaluated"
  else .ok (decide (result = .pass))

/-- `EventualStatePredicate.__call__`. -/
def eventualStatePredicate (p : Predicate) (r : ObserverResponse) : Except String Bool := do
  require (r.status = .ok) "The temporal predicate could not evaluate normalized evidence."
  let evaluation ← evaluateEvidencePredicate p r.evidence
  answerOf evaluation.result

end Eventual

end WebhookConformance
