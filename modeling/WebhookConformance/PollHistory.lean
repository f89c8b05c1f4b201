import WebhookConformance.Polling

/-! What the polling loop has stored after a number of turns, told by those turns. -/
namespace WebhookConformance

open Checked

variable {series : ObservationSeries} {predicate : ObserverResponse → Except String Bool}
  {sampleId : Nat → String} {before turns : List PollTurn} {state next : PollState}
  {turn : PollTurn} {run : PollRun}

/-- The states that the loop reaches from its start. -/
inductive Reaches (series : ObservationSeries) (predicate : ObserverResponse → Except String Bool)
    (sampleId : Nat → String) : List PollTurn → PollState → Prop where
  | start : Reaches series predicate sampleId [] .initial
  | turn {before : List PollTurn} {state next : PollState} {turn : PollTurn}
      (hbefore : Reaches series predicate sampleId before state)
      (hturn : pollTurn series predicate sampleId state turn = .again next) :
    Reaches series predicate sampleId (before ++ [turn]) next

theorem pollLoop_reaches (hbefore : Reaches series predicate sampleId before state)
    (h : pollLoop series predicate sampleId state turns = some run) :
    ∃ reached last state', before ++ turns = reached ++ [last] ∧
      Reaches series predicate sampleId reached state' ∧
      PollEnd series predicate sampleId state' last run := by
  induction turns generalizing before state with
  | nil => cases h
  | cons turn turns ih =>
    unfold pollLoop at h
    split at h
    · rename_i next hturn
      obtain ⟨reached, last, state', happend, hreached, hend⟩ := ih (.turn hbefore hturn) h
      exact ⟨reached, last, state', by simpa using happend, hreached, hend⟩
    · rename_i run' hturn
      split at h
      · rename_i hempty
        cases h
        rw [List.isEmpty_iff] at hempty
        subst hempty
        exact ⟨before, turn, state, rfl, hbefore, pollTurn_finished hturn⟩
      · cases h

/-- The sample of a turn: its answer without the sensitive evidence, or an error. -/
def RecordsTurn (series : ObservationSeries) (turn : PollTurn) (record : ObservationRecord) :
    Prop :=
  match series.answer turn with
  | some r => record.status = r.status.recorded ∧ record.evidence = withoutSensitive r.evidence
  | none => record.status = .error

/-- What holds between the turns so far and the state of the loop. -/
structure PollHistory (series : ObservationSeries)
    (predicate : ObserverResponse → Except String Bool) (turns : List PollTurn)
    (state : PollState) : Prop where
  records : List.Forall₂ (RecordsTurn series) turns state.records
  lastResponse : state.lastResponse = (turns.filterMap series.answer).getLast?
  valid : state.validEvidenceSeen = true ↔
    ∃ turn ∈ turns, ∃ r, series.answer turn = some r ∧ r.status = .ok
  declined : ∀ turn ∈ turns, ∀ r, series.answer turn = some r →
    r.status ≠ .unsupported ∧ (r.status = .ok → predicate r = .ok false)

theorem PollHistory.initial : PollHistory series predicate [] .initial :=
  ⟨.nil, rfl, by simp [PollState.initial], by simp⟩

theorem PollHistory.step (hstate : PollHistory series predicate before state)
    (h : pollTurn series predicate sampleId state turn = .again next) :
    PollHistory series predicate (before ++ [turn]) next := by
  obtain ⟨r, hanswer, hstatus, hdeclined, rfl⟩ | ⟨record, hanswer, hstatus, -, rfl⟩ :=
    pollTurn_again h
  · refine ⟨?_, ?_, ?_, ?_⟩
    · refine List.rel_append hstate.records (.cons ?_ .nil)
      simp only [RecordsTurn, hanswer]
      exact ⟨rfl, rfl⟩
    · simp [PollState.append, PollState.answered, hanswer]
    · simp only [PollState.append, PollState.answered, Bool.or_eq_true, decide_eq_true_eq,
        List.mem_append, List.mem_singleton, or_and_right, exists_or, exists_eq_left, hstate.valid]
      simp [hanswer]
    · intro t ht r' hr'
      rcases List.mem_append.mp ht with ht | ht
      · exact hstate.declined t ht r' hr'
      · rw [List.mem_singleton.mp ht, hanswer] at hr'
        cases hr'
        exact ⟨hstatus, hdeclined⟩
  · refine ⟨?_, ?_, ?_, ?_⟩
    · refine List.rel_append hstate.records (.cons ?_ .nil)
      simpa only [RecordsTurn, hanswer] using hstatus
    · simpa [PollState.append, hanswer] using hstate.lastResponse
    · simp only [PollState.append, List.mem_append, List.mem_singleton, or_and_right, exists_or,
        exists_eq_left, hstate.valid]
      simp [hanswer]
    · intro t ht r' hr'
      rcases List.mem_append.mp ht with ht | ht
      · exact hstate.declined t ht r' hr'
      · rw [List.mem_singleton.mp ht, hanswer] at hr'
        cases hr'

theorem Reaches.history (h : Reaches series predicate sampleId before state) :
    PollHistory series predicate before state := by
  induction h with
  | start => exact .initial
  | turn _ hturn ih => exact ih.step hturn

end WebhookConformance
