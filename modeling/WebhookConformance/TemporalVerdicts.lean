import WebhookConformance.PollHistory

/-! The verdicts of the temporal assertions: which observed transitions pass an ordered
transition, and that a series polled with an assertion's own predicate is consistent with it. -/
namespace WebhookConformance

open Checked

section Ordered

/-- A transition as `_transition_states` decodes it, with its state. -/
inductive Transition : Json → String → Prop where
  | text {state : String} (hstate : state ≠ "") : Transition (.text state) state
  | object {members : List (String × Json)} {state : String}
      (hlookup : members.lookup "state" = some (.text state)) (hstate : state ≠ "")
      (hkeys : ∀ m ∈ members, m.1 ∈ ["state", "timestamp"])
      (htimestamp : ∀ t ∈ members.lookup "timestamp", (evidenceValue .timestamp t).isOk = true) :
    Transition (.object members) state

/-- The expected states occur as a block, or one after the other where others may come between. -/
def Occurs (allowIntermediate : Bool) (expected observed : List String) : Prop :=
  if allowIntermediate then expected.Sublist observed else expected <:+: observed

instance (allowIntermediate : Bool) (expected observed : List String) :
    Decidable (Occurs allowIntermediate expected observed) :=
  inferInstanceAs (Decidable (ite _ _ _))

variable {actual expected : List String}

theorem transitionState_eq_some {v : Json} {state : String} :
    transitionState v = some state ↔ Transition v state := by
  constructor
  · intro h
    rw [transitionState.eq_def] at h
    split at h
    · split at h
      · cases h
      · rename_i hstate
        cases h
        exact .text hstate
    · split at h
      · rename_i hlookup
        split at h
        · rename_i hshape
          cases h
          exact .object hlookup hshape.1 hshape.2.1 hshape.2.2
        · cases h
      · cases h
    · cases h
  · intro h
    cases h with
    | text hstate => exact if_neg hstate
    | object hlookup hstate hkeys htimestamp =>
      rw [transitionState, hlookup]
      exact if_pos ⟨hstate, hkeys, htimestamp⟩

theorem isOrderedSubsequence_iff {next : String} :
    isOrderedSubsequence actual (next :: expected) = true ↔ (next :: expected).Sublist actual := by
  induction actual generalizing next expected with
  | nil => simp [isOrderedSubsequence]
  | cons state actual ih =>
    rw [isOrderedSubsequence]
    split
    · rename_i hstate
      subst hstate
      rw [List.cons_sublist_cons]
      cases expected with
      | nil => simp
      | cons second expected => simpa using ih
    · rename_i hstate
      rw [ih]
      constructor
      · exact .cons state
      · intro h
        cases h with
        | cons _ h => exact h
        | cons_cons _ h => exact absurd rfl hstate

theorem containsContiguousSequence_iff :
    containsContiguousSequence actual expected = true ↔ expected <:+: actual := by
  rw [containsContiguousSequence, Bool.and_eq_true, decide_eq_true_eq, List.any_eq_true]
  constructor
  · rintro ⟨-, index, -, hblock⟩
    have hblock := of_decide_eq_true hblock
    refine ⟨actual.take index, (actual.drop index).drop expected.length, ?_⟩
    nth_rewrite 1 [← hblock]
    rw [List.append_assoc, List.take_append_drop, List.take_append_drop]
  · rintro ⟨before, after, rfl⟩
    refine ⟨?_, before.length, ?_, ?_⟩
    · simp only [List.length_append]
      omega
    · simp only [List.mem_range, List.length_append]
      omega
    · rw [decide_eq_true_eq, List.append_assoc, List.drop_left, List.take_left]

theorem mapM_transitionState {items : List Json} {observed : List String} :
    items.mapM transitionState = some observed ↔ List.Forall₂ Transition items observed := by
  induction items generalizing observed with
  | nil => cases observed <;> simp
  | cons v items ih =>
    rw [List.mapM_cons]
    constructor
    · intro h
      obtain ⟨state, hstate, h⟩ := Option.bind_eq_some_iff.1 h
      obtain ⟨states, hstates, h⟩ := Option.bind_eq_some_iff.1 h
      cases h
      exact .cons (transitionState_eq_some.1 hstate) (ih.1 hstates)
    · intro h
      cases h with
      | cons hstate hstates =>
        rw [transitionState_eq_some.2 hstate, ih.2 hstates]
        rfl

/-- The one item of the queried key is an array of transitions with these states. -/
def ObservedStates (query : ConfigObserverQuery) (evidence : List ObserverEvidence)
    (observed : List String) : Prop :=
  ∃ item items, evidence.filter (·.key = query.key) = [item] ∧ item.value = .array items ∧
    List.Forall₂ Transition items observed

theorem occurs_iff {allowIntermediate : Bool} (hexpected : expected ≠ []) :
    (if allowIntermediate then isOrderedSubsequence actual expected
      else containsContiguousSequence actual expected) = true ↔
        Occurs allowIntermediate expected actual := by
  obtain ⟨next, rest, rfl⟩ := List.exists_cons_of_ne_nil hexpected
  cases allowIntermediate with
  | true => exact isOrderedSubsequence_iff
  | false => exact containsContiguousSequence_iff

variable {query : ConfigObserverQuery} {evidence : List ObserverEvidence}
  {observed observed' : List String} {allowIntermediate : Bool}

/-- The evidence cannot be read, or its states decide. -/
theorem evaluateOrderedTransition_cases (hexpected : expected ≠ []) :
    ((evaluateOrderedTransition query expected allowIntermediate evidence).result = .error ∧
      ∀ observed, ¬ ObservedStates query evidence observed) ∨
    ∃ observed, ObservedStates query evidence observed ∧
      (evaluateOrderedTransition query expected allowIntermediate evidence).result =
        if (if allowIntermediate then isOrderedSubsequence observed expected
          else containsContiguousSequence observed expected) then .pass else .fail := by
  rw [evaluateOrderedTransition, selectEvidence]
  split
  · rename_i hfilter
    refine .inl ⟨rfl, ?_⟩
    rintro observed ⟨item, items, hitem, -⟩
    cases hfilter.symm.trans hitem
  · rename_i item hfilter
    rw [evaluateTransitions.eq_def]
    dsimp only
    split
    · rename_i items hvalue
      cases hstates : items.mapM transitionState with
      | none =>
        refine .inl ⟨rfl, ?_⟩
        rintro observed ⟨item', items', hitem, hvalue', hobserved⟩
        cases hfilter.symm.trans hitem
        cases hvalue.symm.trans hvalue'
        rw [mapM_transitionState.2 hobserved] at hstates
        cases hstates
      | some observed =>
        refine .inr ⟨observed, ⟨item, items, hfilter, hvalue, mapM_transitionState.1 hstates⟩, ?_⟩
        exact apply_ite TemporalEvaluation.result _ _ _
    · rename_i hvalue
      refine .inl ⟨rfl, ?_⟩
      rintro observed ⟨item', items', hitem, hvalue', -⟩
      cases hfilter.symm.trans hitem
      exact hvalue items' hvalue'
  · rename_i hmany
    refine .inl ⟨rfl, ?_⟩
    rintro observed ⟨item, items, hitem, -⟩
    exact hmany item hitem

theorem observedStates_unique (h : ObservedStates query evidence observed)
    (h' : ObservedStates query evidence observed') : observed = observed' := by
  obtain ⟨item, items, hfilter, hvalue, hobserved⟩ := h
  obtain ⟨item', items', hfilter', hvalue', hobserved'⟩ := h'
  cases hfilter.symm.trans hfilter'
  cases hvalue.symm.trans hvalue'
  exact Option.some.inj
    ((mapM_transitionState.2 hobserved).symm.trans (mapM_transitionState.2 hobserved'))

/-- An ordered transition passes exactly when the evidence is an array of transitions in which the
expected states occur, and fails exactly when it is one in which they do not. -/
theorem ordered_transition_verdict (hexpected : 2 ≤ expected.length) :
    ((evaluateOrderedTransition query expected allowIntermediate evidence).result = .pass ↔
      ∃ observed, ObservedStates query evidence observed ∧
        Occurs allowIntermediate expected observed) ∧
    ((evaluateOrderedTransition query expected allowIntermediate evidence).result = .fail ↔
      ∃ observed, ObservedStates query evidence observed ∧
        ¬ Occurs allowIntermediate expected observed) := by
  have hne : expected ≠ [] := by
    rintro rfl
    cases hexpected
  obtain ⟨herror, hnone⟩ | ⟨observed, hobserved, hresult⟩ :=
    @evaluateOrderedTransition_cases _ query evidence allowIntermediate hne
  · rw [herror]
    exact ⟨⟨nofun, fun ⟨observed, h, _⟩ => absurd h (hnone observed)⟩,
      ⟨nofun, fun ⟨observed, h, _⟩ => absurd h (hnone observed)⟩⟩
  · have hdecides : ∀ P : List String → Prop,
        (∃ states, ObservedStates query evidence states ∧ P states) ↔ P observed := by
      intro P
      constructor
      · rintro ⟨states, hstates, hP⟩
        exact observedStates_unique hstates hobserved ▸ hP
      · exact fun hP => ⟨observed, hobserved, hP⟩
    rw [hresult, hdecides, hdecides, ← occurs_iff hne]
    generalize (if allowIntermediate then isOrderedSubsequence observed expected
      else containsContiguousSequence observed expected) = occurs
    cases occurs with
    | true => exact ⟨⟨fun _ => rfl, fun _ => rfl⟩, ⟨nofun, fun h => absurd rfl h⟩⟩
    | false => exact ⟨⟨nofun, nofun⟩, ⟨fun _ => Bool.false_ne_true, fun _ => rfl⟩⟩

def transitionEvidence : ObserverEvidence where
  key := "orders"
  value := .array [.text "a", .text "x", .text "b"]
  sensitive := false
  key_text := by decide
  value_typed := by decide +kernel

theorem skipped_state_passes_only_with_intermediate :
    (evaluateOrderedTransition ordersQuery ["a", "b"] true [transitionEvidence]).result = .pass ∧
      (evaluateOrderedTransition ordersQuery ["a", "b"] false [transitionEvidence]).result =
        .fail := by
  have hobserved : ObservedStates ordersQuery [transitionEvidence] ["a", "x", "b"] :=
    ⟨_, _, rfl, rfl, .cons (.text (by decide)) (.cons (.text (by decide))
      (.cons (.text (by decide)) .nil))⟩
  exact ⟨(ordered_transition_verdict (by decide)).1.2 ⟨_, hobserved, by decide⟩,
    (ordered_transition_verdict (by decide)).2.2 ⟨_, hobserved, by decide⟩⟩

end Ordered

section Eventual

variable {series : ObservationSeries} {sampleId : Nat → String} {turns : List PollTurn}
  {run : PollRun} {p : Predicate} {onUnsupported : OnUnsupported} {r : ObserverResponse}

/-- The predicate answers exactly where the evaluation of the evidence is no error. -/
theorem eventualStatePredicate_ok {matched : Bool} (h : eventualStatePredicate p r = .ok matched) :
    ∃ evaluation, evaluateEvidencePredicate p r.evidence = .ok evaluation ∧
      evaluation.result ≠ .error ∧ (matched = true ↔ evaluation.result = .pass) := by
  obtain ⟨_, -, h⟩ := bind_ok h
  obtain ⟨evaluation, hevaluation, h⟩ := bind_ok h
  rw [answerOf] at h
  split at h
  · cases h
  · rename_i hresult
    cases h
    exact ⟨evaluation, hevaluation, hresult, decide_eq_true_iff⟩

/-- What the predicate says of a series' last response fits its outcome. -/
def DetailFits (outcome : ObservationPollOutcome) (detail : Option AssertionResult) : Prop :=
  match outcome with
  | .matched => detail = some .pass
  | .mismatch => detail ≠ none ∧ detail ≠ some .pass
  | .timedOut => detail ≠ some .pass
  | _ => True

theorem eventualResult_consistent {result : ObservationPollResult}
    {detail : Option AssertionResult} (hresult : result.consistent = true)
    (hdetail : DetailFits result.outcome detail) :
    (eventualResult onUnsupported result detail).2 ≠ .pollResultInconsistent := by
  unfold eventualResult
  rw [if_neg (by rw [hresult]; decide)]
  cases houtcome : result.outcome with
  | matched =>
    rw [houtcome] at hdetail
    dsimp only
    rw [if_pos (show detail = some .pass from hdetail)]
    exact nofun
  | mismatch =>
    rw [houtcome] at hdetail
    cases detail with
    | none => exact absurd rfl hdetail.1
    | some verdict =>
      cases verdict with
      | pass => exact absurd rfl hdetail.2
      | _ => exact nofun
  | timedOut =>
    rw [houtcome] at hdetail
    dsimp only
    rw [if_neg (show detail ≠ some .pass from hdetail)]
    repeat' split
    all_goals exact nofun
  | pending => exact nofun
  | unsupported => exact nofun
  | error =>
    dsimp only
    split <;> exact nofun

theorem finish_consistent {state : PollState} {outcome : ObservationPollOutcome}
    {record : ObservationRecord} {elapsed : Bool}
    (h : outcome = .matched ∨ outcome = .mismatch →
      state.validEvidenceSeen = true ∧ state.lastResponse.isSome = true) :
    (state.finish outcome record elapsed).result.consistent = true := by
  cases outcome <;> simp_all [PollState.finish, ObservationPollResult.consistent,
    ObservationPollOutcome.finalState]

/-- The verdict on the last response that `_eventual_detail` finds. -/
theorem detail_of_predicate {state : PollState} {detail : Option PredicateEvaluation}
    {matched : Bool} (hlast : state.lastResponse = some r) (hstatus : r.status = .ok)
    (hpredicate : eventualStatePredicate p r = .ok matched)
    (hdetail : eventualDetail p state.lastResponse = .ok detail) :
    detail.map PredicateEvaluation.result ≠ none ∧
      (detail.map PredicateEvaluation.result = some .pass ↔ matched = true) := by
  obtain ⟨evaluation, hevaluation, -, hmatched⟩ := eventualStatePredicate_ok hpredicate
  simp only [eventualDetail, hlast, if_pos hstatus, hevaluation] at hdetail
  cases pure_ok hdetail
  exact ⟨nofun, by rw [Option.map_some, Option.some_inj, hmatched]⟩

theorem PollEnd.fits {state : PollState} {turn : PollTurn} {before : List PollTurn}
    {detail : Option PredicateEvaluation}
    (h : PollEnd series (eventualStatePredicate p) sampleId state turn run)
    (hhistory : PollHistory series (eventualStatePredicate p) before state)
    (hdetail : eventualDetail p run.result.lastResponse = .ok detail) :
    run.result.consistent = true ∧
      DetailFits run.result.outcome (detail.map PredicateEvaluation.result) := by
  -- an answer that did not end the series did not satisfy the predicate
  have hearlier : eventualDetail p state.lastResponse = .ok detail →
      detail.map PredicateEvaluation.result ≠ some .pass := by
    intro hdetail hpass
    cases hlast : state.lastResponse with
    | none =>
      rw [hlast] at hdetail
      cases hdetail
      cases hpass
    | some r =>
      have hmem : r ∈ before.filterMap series.answer :=
        List.mem_of_getLast? (hhistory.lastResponse.symm.trans hlast)
      obtain ⟨turn, hturn, hanswer⟩ := List.mem_filterMap.1 hmem
      by_cases hstatus : r.status = .ok
      · have hdeclined := (hhistory.declined turn hturn r hanswer).2 hstatus
        exact absurd ((detail_of_predicate hlast hstatus hdeclined hdetail).2.1 hpass) (by decide)
      · simp only [hlast, eventualDetail, if_neg hstatus] at hdetail
        cases hdetail
        cases hpass
  cases h with
  | deadline hexpired => exact ⟨finish_consistent (by simp), hearlier hdetail⟩
  | timeout hexpired hinvoke => exact ⟨finish_consistent (by simp), hearlier hdetail⟩
  | accepted r matched haccepts hpredicate =>
    obtain ⟨-, -, -, hstatus, -⟩ := haccepts
    have hlast : (state.answered r).lastResponse = some r := rfl
    have hanswered := detail_of_predicate hlast hstatus hpredicate hdetail
    refine ⟨finish_consistent fun _ => ⟨by simp [PollState.answered, hstatus], rfl⟩, ?_⟩
    cases matched with
    | true => exact hanswered.2.2 rfl
    | false => exact ⟨hanswered.1, fun hpass => absurd (hanswered.2.1 hpass) (by decide)⟩
  | declined r outcome hanswer hexpired hcapabilities hstatus =>
    obtain ⟨-, rfl⟩ | ⟨-, rfl⟩ := hstatus
    · exact ⟨finish_consistent (by simp), trivial⟩
    · exact ⟨finish_consistent (by simp), trivial⟩
  | failed ended record hstatus hrecords htime haccepts hsupported =>
    exact ⟨finish_consistent (by simp), trivial⟩

/-- One order is expected within a second. -/
def oneOrderExpected : Predicate := ⟨storeName, ordersQuery, none, .eq, .integer oneOrder, .error⟩

def ordersSeries : ObservationSeries where
  plan := ⟨"store", [⟨"orders", .integer, .object []⟩], 1000, 10, 10⟩
  requestId := "request"
  capabilities := ⟨[.integer], ["orders"], true, true, 1, true, false, by decide, by decide,
    by decide, by decide, by decide, by decide⟩
  startNs := 0

end Eventual

end WebhookConformance
