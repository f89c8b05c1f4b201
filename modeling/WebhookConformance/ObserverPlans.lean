import WebhookConformance.ObserverQueries

/-! Which observer assertions of an accepted project can be planned at run time, and whether the
types they request are the types they are evaluated on. -/
namespace WebhookConformance

open Checked

section Types

variable {predicates : List Predicate}
  {predicates_range : 2 ≤ predicates.length ∧ predicates.length ≤ 64}
  {names_nodup : (predicates.map Predicate.name).Nodup} {p : Predicate}

/-- The requested type is that of some predicate of the key. -/
theorem queryType_composite (hp : p ∈ predicates) :
    ∃ q ∈ predicates, q.query.key = p.query.key ∧
      queryType (.noPartialSideEffect predicates predicates_range names_nodup) p.query.key =
        q.neededType := by
  cases hfind : predicates.find? fun q => q.query.key = p.query.key with
  | none =>
    have := List.find?_eq_none.mp hfind p hp
    simp at this
  | some q =>
    refine ⟨q, List.mem_of_find?_eq_some hfind, by simpa using List.find?_some hfind, ?_⟩
    simp [queryType, hfind]

/-- A derived query of a predicate's key, and there is only this one. -/
theorem exists_wire_query {wire : List WireQuery}
    (h : deriveObserverQueries (.noPartialSideEffect predicates predicates_range names_nodup) =
      .ok wire) (hp : p ∈ predicates) :
    ∃ w, wire.filter (fun w => w.key = p.query.key) = [w] ∧
      w.type = queryType (.noPartialSideEffect predicates predicates_range names_nodup)
        p.query.key := by
  obtain ⟨hnodup, hkeys, htypes⟩ := deriveObserverQueries_spec h
  have hmem : p.query.key ∈ wire.map WireQuery.key := by
    rw [hkeys, ObserverCheck.configured, List.map_map]
    exact List.mem_map.mpr ⟨p, hp, rfl⟩
  obtain ⟨w, hw, hkey⟩ := List.mem_map.mp hmem
  refine ⟨w, ?_, by rw [htypes w hw, hkey]⟩
  have hunique : ∀ u ∈ wire, u.key = p.query.key → u = w := fun u hu huk =>
    List.inj_on_of_nodup_map hnodup hu hw (huk.trans hkey.symm)
  have hfilter : wire.filter (fun u => u.key = p.query.key) = wire.filter (· = w) := by
    refine List.filter_congr fun u hu => ?_
    rw [decide_eq_decide]
    exact ⟨hunique u hu, fun he => he ▸ hkey⟩
  rw [hfilter, List.filter_eq, List.count_eq_one_of_mem hnodup.of_map hw]
  rfl

end Types

/-- A predicate on the whole value of the orders query. -/
def ordersPredicate (name : ProfileName) (expected : TypedValue) : Predicate :=
  ⟨name, ordersQuery, none, .eq, expected, .error⟩

section Plans

variable {config : ProjectConfig} {context : List DeliveryUserHeaders}

theorem configured_ne_nil (check : ObserverCheck) : check.configured ≠ [] := by
  cases check with
  | noPartialSideEffect predicates predicates_range names_nodup =>
    intro h
    rw [ObserverCheck.configured, List.map_eq_nil_iff] at h
    rw [h] at predicates_range
    exact absurd predicates_range.1 (by decide)
  | _ => simp [ObserverCheck.configured]

theorem configured_length_le (check : ObserverCheck) : check.configured.length ≤ 64 := by
  cases check with
  | noPartialSideEffect predicates predicates_range names_nodup =>
    rw [ObserverCheck.configured, List.length_map]
    exact predicates_range.2
  | _ => simp [ObserverCheck.configured]

theorem queries_map_fst (check : ObserverCheck) :
    check.queries.map Prod.fst = check.configured := by
  cases check with
  | noPartialSideEffect predicates predicates_range names_nodup =>
    have hfst : predicates.zipIdx.map Prod.fst = predicates := List.zipIdx_map_fst 0 predicates
    rw [ObserverCheck.queries, ObserverCheck.configured, List.map_map]
    conv_rhs => rw [← hfst, List.map_map]
    rfl
  | _ => rfl

/-- The observers of an accepted assertion are configured. -/
theorem AcceptedProject.observer (h : AcceptedProject config context) {i : Nat}
    {s : ProjectScenario} {a : ObserverAssertion} (hs : config.scenarios[i]? = some s)
    (ha : ScenarioAssertion.observer a ∈ s.assertions) {q : ConfigObserverQuery}
    (hq : q ∈ a.check.configured) : ∃ o, config.observers.get? q.observer.text = some o := by
  have hdiag := h.scenario hs
  simp only [scenarioDiagnostics, List.append_eq_nil_iff] at hdiag
  obtain ⟨-, hassertions⟩ := hdiag
  obtain ⟨k, hk⟩ := List.mem_iff_getElem?.mp ha
  have hone := List.flatMap_eq_nil_iff.mp hassertions (.observer a, k)
    (List.mem_zipIdx_iff_getElem?.mpr hk)
  rw [← queries_map_fst] at hq
  obtain ⟨⟨q', field⟩, hmem, rfl⟩ := List.mem_map.mp hq
  have hquery := List.flatMap_eq_nil_iff.mp hone _ hmem
  simp only [observerQueryDiagnostics, reportIf_eq_nil, Option.isNone_eq_false_iff] at hquery
  exact Option.isSome_iff_exists.mp hquery

theorem observerId_ok_iff {check : ObserverCheck} {name : String} :
    observerId check = .ok name ↔
      (∀ q ∈ check.configured, ∀ r ∈ check.configured, q.observer = r.observer) ∧
        ∃ q ∈ check.configured, q.observer.text = name := by
  unfold observerId
  split
  · rename_i hnil
    exact absurd hnil (configured_ne_nil check)
  · rename_i first rest hcons
    rw [require_bind_ok, hcons]
    simp only [pure, Except.pure, Except.ok.injEq, List.forall_mem_cons, List.exists_mem_cons_iff]
    constructor
    · rintro ⟨hsame, rfl⟩
      refine ⟨⟨⟨trivial, fun r hr => (hsame r hr).symm⟩, fun q hq => ⟨hsame q hq, ?_⟩⟩, Or.inl rfl⟩
      exact fun r hr => (hsame q hq).trans (hsame r hr).symm
    · rintro ⟨⟨-, hsame⟩, hname⟩
      refine ⟨fun q hq => (hsame q hq).1, ?_⟩
      rcases hname with hname | ⟨q, hq, hname⟩
      · exact hname
      · rw [← (hsame q hq).1]
        exact hname

/-- A profile name is a bounded text of one line. -/
theorem ProfileName.lineSafe (name : ProfileName) :
    (1 ≤ name.text.length ∧ name.text.length ≤ 256) ∧
      ¬ name.text.toList.any (fun c => decide (c ∈ ['\r', '\n', '\x00'])) = true := by
  have hname := name.wellFormed
  unfold isProfileName at hname
  split at hname
  · cases hname
  · rename_i c cs hcons
    simp only [Bool.and_eq_true, decide_eq_true_eq, List.all_eq_true] at hname
    obtain ⟨⟨hc, hlen⟩, htail⟩ := hname
    have hlength : name.text.length = cs.length + 1 := by
      rw [← String.length_toList, hcons, List.length_cons]
    have hsafe : ∀ d, d.isLower = true ∨ isProfileNameTail d = true →
        ¬ d ∈ ['\r', '\n', '\x00'] := by
      intro d hd hmem
      simp only [List.mem_cons, List.not_mem_nil, or_false] at hmem
      rcases hmem with rfl | rfl | rfl <;> exact absurd hd (by decide)
    refine ⟨⟨by omega, by omega⟩, ?_⟩
    rw [hcons, List.any_eq_true]
    rintro ⟨d, hd, hbad⟩
    rcases List.mem_cons.mp hd with rfl | hd
    · exact hsafe d (Or.inl hc) (of_decide_eq_true hbad)
    · exact hsafe d (Or.inr (htail d hd)) (of_decide_eq_true hbad)

theorem ObserverConfig.invocationTimeout_pos (o : ObserverConfig) : 1 ≤ o.invocationTimeout := by
  cases o with
  | command timeout timeout_pos => exact timeout_pos
  | http connect read total connect_pos read_pos total_pos => exact total_pos

/-- The bounds of a plan are accepted exactly when the deadline and the timeout are safe integers:
the configuration has checked the rest. -/
theorem pollPlan_ok_iff {a : ObserverAssertion} {name : ProfileName} {wire : List WireQuery}
    {timeout : Nat} (ht : 1 ≤ timeout) :
    (∃ plan, pollPlan a name.text wire timeout = .ok plan) ↔
      timeout ≤ maxSafeInteger ∧ ∀ polling ∈ a.polling, polling.within.nanoseconds ≤ maxSafeInteger := by
  have hmin : minimumPollNanoseconds ≤ maxSafeInteger := by decide
  unfold pollPlan ObservationPollPlan.validate positiveSafeInteger
  cases hp : a.polling with
  | none =>
    simp only [require_bind_ok, pure, Except.pure, Except.ok.injEq, exists_and_left, exists_eq',
      and_true, Option.mem_def, reduceCtorEq, false_implies, implies_true]
    constructor
    · rintro ⟨-, -, htimeout, -⟩
      exact htimeout.2
    · intro hle
      exact ⟨name.lineSafe, by omega, by omega, by omega, by omega, le_rfl⟩
  | some polling =>
    have h1 := polling.within_pos
    have h2 := polling.interval_min
    have h3 := polling.interval_le
    have hpos : 1 ≤ minimumPollNanoseconds := by decide
    simp only [require_bind_ok, pure, Except.pure, Except.ok.injEq, exists_and_left, exists_eq',
      and_true, Option.mem_def, Option.some.injEq, forall_eq']
    constructor
    · rintro ⟨-, hwithin, htimeout, -⟩
      exact ⟨htimeout.2, hwithin.2⟩
    · rintro ⟨hle, hwithin⟩
      exact ⟨name.lineSafe, by omega, by omega, by omega, h2, h3⟩

/-- The deadline of the assertion and the timeout of each observer it names are safe integers. -/
def PollBoundsSafe (config : ProjectConfig) (a : ObserverAssertion) : Prop :=
  (∀ polling ∈ a.polling, polling.within.nanoseconds ≤ maxSafeInteger) ∧
    ∀ q ∈ a.check.configured, ∀ o, config.observers.get? q.observer.text = some o →
      o.invocationTimeout ≤ maxSafeInteger

/-- The derived queries always make an observe request. -/
theorem observeRequest_derived {check : ObserverCheck} {wire : List WireQuery}
    (h : deriveObserverQueries check = .ok wire) : observeRequest wire = .ok wire := by
  obtain ⟨hnodup, hkeys, -⟩ := deriveObserverQueries_spec h
  have hne : wire ≠ [] := by
    rintro rfl
    obtain ⟨q, hq⟩ := List.exists_mem_of_ne_nil _ (configured_ne_nil check)
    have := (hkeys q.key).mpr (List.mem_map_of_mem hq)
    simp at this
  have hlength : wire.length ≤ 64 := by
    have hsub : wire.map WireQuery.key ⊆ check.configured.map ConfigObserverQuery.key :=
      fun key hkey => (hkeys key).mp hkey
    have := (List.subperm_of_subset hnodup hsub).length_le
    simp only [List.length_map] at this
    exact this.trans (configured_length_le check)
  unfold observeRequest
  rw [require_bind_ok, require_bind_ok, require_bind_ok]
  exact ⟨hlength, hne, hnodup, rfl⟩

/-- An accepted observer assertion can be planned exactly when its queries name one observer, can
be derived, and its deadline and timeout are safe integers. -/
theorem observation_planned_iff (h : AcceptedProject config context) {i : Nat}
    {s : ProjectScenario} {a : ObserverAssertion} (hs : config.scenarios[i]? = some s)
    (ha : ScenarioAssertion.observer a ∈ s.assertions) :
    (∃ plan, planObservation config a = .ok plan) ↔
      (∀ q ∈ a.check.configured, ∀ r ∈ a.check.configured, q.observer = r.observer) ∧
        Derivable a.check ∧ PollBoundsSafe config a := by
  obtain ⟨q, hq⟩ := List.exists_mem_of_ne_nil _ (configured_ne_nil a.check)
  obtain ⟨o, ho⟩ := h.observer hs ha hq
  constructor
  · rintro ⟨plan, hplan⟩
    obtain ⟨name, hname, hplan⟩ := bind_ok hplan
    obtain ⟨hsame, r, hr, rfl⟩ := observerId_ok_iff.mp hname
    rw [hsame r hr q hq, ho] at hplan
    obtain ⟨wire, hwire, hplan⟩ := bind_ok hplan
    obtain ⟨wire', hrequest, hplan⟩ := bind_ok hplan
    obtain ⟨htimeout, hwithin⟩ := (pollPlan_ok_iff o.invocationTimeout_pos).mp ⟨plan, hplan⟩
    refine ⟨hsame, deriveObserverQueries_ok_iff.mp ⟨wire, hwire⟩, hwithin, fun r hr o' ho' => ?_⟩
    rw [hsame r hr q hq, ho] at ho'
    cases ho'
    exact htimeout
  · rintro ⟨hsame, hderivable, hwithin, htimeout⟩
    obtain ⟨wire, hwire⟩ := deriveObserverQueries_ok_iff.mpr hderivable
    obtain ⟨plan, hplan⟩ := (pollPlan_ok_iff o.invocationTimeout_pos).mpr
      ⟨htimeout q hq o ho, hwithin⟩
    refine ⟨plan, bind_of (observerId_ok_iff.mpr ⟨hsame, q, hq, rfl⟩) ?_⟩
    simp only [ho]
    exact bind_of hwire (bind_of (observeRequest_derived hwire) hplan)

/-- One delivery observed by one assertion. -/
def observedScenario (a : ObserverAssertion) : ProjectScenario :=
  orderScenario ⟨"observed", by decide⟩ [.deliver deliverOrder] (.observer a) ⟨by simp, by simp⟩

def oneSecond : ObserverConfig := .command ⟨1000000000, by decide⟩ (by decide)

def observedProject (a : ObserverAssertion) : ProjectConfig :=
  orderProject ⟨.stripeV1, none⟩
    ⟨[(storeName, oneSecond), (⟨"ledger", by decide⟩, oneSecond)], by decide⟩ (by decide)
    (observedScenario a) rfl

theorem counted_orders_planned :
    AcceptedProject (observedProject optionalCount) [] ∧
      ∃ plan, planObservation (observedProject optionalCount) optionalCount = .ok plan := by
  have haccepted : AcceptedProject (observedProject optionalCount) [] := by decide +kernel
  refine ⟨haccepted, (observation_planned_iff haccepted (i := 0) rfl (List.mem_singleton_self _)).mpr
    ⟨?_, ⟨?_, ?_⟩, ?_, ?_⟩⟩
  · simp [optionalCount, ObserverCheck.configured]
  · intro q hq
    obtain rfl := List.mem_singleton.mp hq
    exact ⟨by decide, ⟨by decide, by decide, fun w e hw => by
      cases hw with
      | root => simp [SendableNode, ordersQuery]
      | child hmem => simp [ordersQuery, Json.children] at hmem⟩⟩
  · exact List.pairwise_singleton _ _
  · simp [optionalCount]
  · intro q hq o ho
    obtain rfl := List.mem_singleton.mp hq
    have hstore : (observedProject optionalCount).observers.get? ordersQuery.observer.text =
        some oneSecond := by decide +kernel
    rw [hstore, Option.some.injEq] at ho
    subst ho
    decide

def ledgerQuery : ConfigObserverQuery := { ordersQuery with observer := ⟨"ledger", by decide⟩ }

/-- Both the store and the ledger hold one order, or neither does. -/
def crossObserver : ObserverAssertion where
  id := ⟨"both", by decide⟩
  onUnsupported := .unsupported
  polling := none
  check := .noPartialSideEffect
    [ordersPredicate ⟨"stored", by decide⟩ (.integer oneOrder),
     { ordersPredicate ⟨"booked", by decide⟩ (.integer oneOrder) with query := ledgerQuery }]
    (by decide) (by decide)
  polling_required := by decide

/-- A composite assertion over two observers passes every check before the run and cannot be
planned in it. -/
theorem cross_observer_not_planned :
    AcceptedProject (observedProject crossObserver) [] ∧
      planObservation (observedProject crossObserver) crossObserver =
        .error "composite predicates must use one observer" := by
  constructor
  · decide +kernel
  · decide +kernel

end Plans

end WebhookConformance
