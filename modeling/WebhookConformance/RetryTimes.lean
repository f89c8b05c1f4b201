import WebhookConformance.ScheduleRun

/-! The logical times of compiled attempt plans, against the clamped delay of
`scheduler/retries.py` and every check that reads them. -/
namespace WebhookConformance

variable {g : ContextGenerator} {requestBlob : DeliverAction → String} {scenarioId : String}
  {source : DeliverAction × Int} {d : DeliveryPlan} {configs : List ScenarioConfig}
  {plans : List ScenarioPlan}

/-- A property of every compiled delivery, next to the action and time it was planned from. -/
def EveryDelivery (P : String → DeliverAction × Int → DeliveryPlan → Prop)
    (configs : List ScenarioConfig) (plans : List ScenarioPlan) : Prop :=
  ∀ (i n : Nat) (config : ScenarioConfig) (source : DeliverAction × Int) (s : ScenarioPlan)
    (d : DeliveryPlan), configs[i]? = some config →
    (plannedActions 0 config.steps)[n]? = some source → plans[i]? = some s →
    s.deliveries[n]? = some d → P s.scenarioId source d

theorem EveryDelivery.of_compiled {P Q : String → DeliverAction × Int → DeliveryPlan → Prop}
    (h : List.Forall₂ (CompiledScenario g requestBlob) configs plans)
    (hP : EveryDelivery P configs plans)
    (himp : ∀ scenarioId source d, KeyComponent scenarioId → 0 ≤ source.2 →
      CompiledDelivery g requestBlob scenarioId source d → P scenarioId source d →
        Q scenarioId source d) : EveryDelivery Q configs plans := by
  intro i n config source s d hconfig hsource hs hd
  obtain ⟨config', source', hconfig', hsource', ht, hk, -, hc⟩ := compiledDelivery_get h hs hd
  cases hconfig.symm.trans hconfig'
  cases hsource.symm.trans hsource'
  exact himp _ _ _ hk ht hc (hP i n config source s d hconfig hsource hs hd)

def DeliveryPlan.times (d : DeliveryPlan) : List Int :=
  d.attemptPlan.map AttemptTemplate.notBeforeLogicalNs

/-- The drawn jitter of attempt `ordinal` at the bound of its retry policy. -/
def retryJitter (g : ContextGenerator) (scenarioId deliveryId : String) (retry : RetryConfig)
    (ordinal : Nat) : Except String Int :=
  g.signedRetryJitter scenarioId deliveryId ordinal jitterPolicyVersion retry.jitter.nanoseconds

/-- The first time is the start, and each next one follows by the delay of
`derive_retry_delay_ns`. -/
structure ClampedTimes (g : ContextGenerator) (scenarioId : String) (source : DeliverAction × Int)
    (d : DeliveryPlan) : Prop where
  first : d.times[0]? = some source.2
  single : source.1.retry = none → d.times.length = 1
  length : ∀ retry, source.1.retry = some retry → d.times.length = retry.maxAttempts
  next : ∀ retry, source.1.retry = some retry → ∀ k delay, retry.backoff[k]? = some delay →
    ∃ a b v, d.times[k]? = some a ∧ d.times[k + 1]? = some b ∧
      retryJitter g scenarioId d.deliveryId retry (k + 2) = .ok v ∧
      b = a + max 0 ((delay.nanoseconds : Int) + v) ∧
      deriveRetryDelayNs g scenarioId d.deliveryId (k + 2) delay.nanoseconds
        retry.jitter.nanoseconds = .ok (b - a, v)

/-- Every reader of the plan takes it: both plan checks, and retry evaluation after any attempt
of the plan. -/
structure AcceptedPlan (g : ContextGenerator) (scenarioId : String) (d : DeliveryPlan) :
    Prop where
  monotone : d.times.Pairwise (· ≤ ·)
  retries : Retries.validateAttemptPlan d = .ok ()
  bundle : BundlePolicy.validateAttemptPlan d = .ok ()
  evaluate : ∀ (sha256Hex : String → String) (p : ClassifiedPredecessor) (t : AttemptTemplate),
    d.attemptPlan[p.attemptOrdinal - 1]? = some t → p.logicalTimeNs = t.notBeforeLogicalNs →
      ∃ decision, evaluateRetry g sha256Hex d p scenarioId = .ok decision

/-- No jitter draw is more negative than the backoff it is added to. -/
def BackoffCoversJitter (g : ContextGenerator) (scenarioId : String)
    (source : DeliverAction × Int) (d : DeliveryPlan) : Prop :=
  ∀ retry, source.1.retry = some retry → ∀ (k : Nat) (delay : Duration) (v : Int),
    retry.backoff[k]? = some delay → retryJitter g scenarioId d.deliveryId retry (k + 2) = .ok v →
      0 ≤ (delay.nanoseconds : Int) + v

/-- A jitter bound within every backoff is covered under every seed. -/
theorem backoffCoversJitter_of_le
    (hle : ∀ retry, source.1.retry = some retry → ∀ delay ∈ retry.backoff,
      retry.jitter.nanoseconds ≤ delay.nanoseconds) :
    BackoffCoversJitter g scenarioId source d := by
  intro retry hr k delay v hd hv
  have hrange := ContextGenerator.signedRetryJitter_range hv
  have := hle retry hr delay (List.mem_of_getElem? hd)
  omega

section Delivery

variable (h : CompiledDelivery g requestBlob scenarioId source d)
include h

/-- What the loop draws is `signed_retry_jitter`, also where it skips a zero bound. -/
theorem CompiledDelivery.draw_eq (hs : KeyComponent scenarioId) (retry : RetryConfig) {n : Nat}
    (hn : n ≤ maxAttempts) :
    deliveryJitter g scenarioId d.deliveryId retry n =
      retryJitter g scenarioId d.deliveryId retry n := by
  unfold deliveryJitter templateJitter retryJitter
  split
  · rename_i hz
    obtain ⟨key, hkey⟩ := h.identity
    rw [hz, signedRetryJitter_zero_ok hs (plannedId_component hkey) (by unfold KeyComponent; decide)
      (ordinal_component hn) (by simp only [maxAttempts, uint64Max] at hn ⊢; omega)]
  · rfl

theorem CompiledDelivery.first_time : d.times[0]? = some source.2 := by
  obtain ⟨first, later, hts, -, ht, -⟩ := h.templates
  simp [DeliveryPlan.times, hts, ht, h.time]

theorem CompiledDelivery.times_length :
    (source.1.retry = none → d.times.length = 1) ∧
      ∀ retry, source.1.retry = some retry → d.times.length = retry.maxAttempts := by
  obtain ⟨first, later, hts, -, -, -, -, hnone, hsome⟩ := h.templates
  rw [DeliveryPlan.times, List.length_map, hts, List.length_cons]
  constructor
  · intro hr
    simp [hnone hr]
  · intro retry hr
    have := (hsome retry hr).length_eq
    have := retry.backoff_length
    have := retry.maxAttempts_range
    omega

theorem CompiledDelivery.template_ordinal {k : Nat} {t : AttemptTemplate}
    (ht : d.attemptPlan[k]? = some t) : t.ordinal = k + 1 := by
  obtain ⟨first, later, hts, ho, -, -, -, hnone, hsome⟩ := h.templates
  rw [hts] at ht
  cases k with
  | zero =>
    cases ht
    exact ho
  | succ k =>
    rw [List.getElem?_cons_succ] at ht
    cases hr : source.1.retry with
    | none => simp [hnone hr] at ht
    | some retry =>
      have := ((hsome retry hr).get ht).1
      omega

/-- The step the compiler takes: the signed jitter as drawn, without a clamp. -/
theorem CompiledDelivery.next_time (hs : KeyComponent scenarioId) {retry : RetryConfig}
    (hr : source.1.retry = some retry) {k : Nat} {delay : Duration}
    (hd : retry.backoff[k]? = some delay) :
    ∃ a b v, d.times[k]? = some a ∧ d.times[k + 1]? = some b ∧
      retryJitter g scenarioId d.deliveryId retry (k + 2) = .ok v ∧
      b = a + delay.nanoseconds + v ∧ b ≤ maxSafeInteger := by
  obtain ⟨first, later, hts, -, ht, -, -, -, hsome⟩ := h.templates
  have hafter := hsome retry hr
  have htimes : d.times = d.logicalTimeNs :: later.map AttemptTemplate.notBeforeLogicalNs := by
    rw [DeliveryPlan.times, hts, List.map_cons, ht]
  have hk := (List.getElem?_eq_some_iff.mp hd).1
  have hlen := hafter.length_eq
  have hmax := retry.maxAttempts_range
  have hb := retry.backoff_length
  have hlater : later[k]? = some later[k] := List.getElem?_eq_getElem (by omega)
  have htail : (later.map AttemptTemplate.notBeforeLogicalNs)[k]? =
      some later[k].notBeforeLogicalNs := by
    rw [List.getElem?_map, hlater]
    rfl
  obtain ⟨a, ha⟩ : ∃ a, d.times[k]? = some a :=
    ⟨_, List.getElem?_eq_getElem (by rw [htimes]; simp; omega)⟩
  obtain ⟨v, hv, he⟩ := hafter.step hd (htimes ▸ ha) htail
  refine ⟨a, _, v, ha, by rw [htimes, List.getElem?_cons_succ, htail], ?_, he,
    (hafter.get hlater).2.2.2⟩
  rw [← h.draw_eq hs retry (by simp only [maxAttempts]; omega), ← hv, Nat.add_comm k 2]
  exact congrArg _ (by omega)

/-- Covered draws of `signed_retry_jitter` are covered draws of the compiler. -/
theorem CompiledDelivery.covered (hs : KeyComponent scenarioId)
    (hc : BackoffCoversJitter g scenarioId source d) :
    DeliveryCovered g scenarioId source.1 d.deliveryId := by
  intro retry hr k delay v hd hv
  have hk := (List.getElem?_eq_some_iff.mp hd).1
  have hb := retry.backoff_length
  have hmax := retry.maxAttempts_range
  refine hc retry hr k delay v hd ?_
  rwa [← h.draw_eq hs retry (by simp only [maxAttempts]; omega), show k + 2 = 1 + k + 1 by omega]

theorem CompiledDelivery.times_monotone (hc : DeliveryCovered g scenarioId source.1 d.deliveryId) :
    d.times.Pairwise (· ≤ ·) := by
  rw [← List.isChain_iff_pairwise, List.isChain_iff_getElem]
  intro k hk
  simp only [DeliveryPlan.times, List.length_map] at hk
  simp only [DeliveryPlan.times, List.getElem_map]
  exact h.le_next hc (List.getElem?_eq_getElem (by omega)) (List.getElem?_eq_getElem hk)

theorem CompiledDelivery.time_nonneg (ht : 0 ≤ source.2)
    (hc : DeliveryCovered g scenarioId source.1 d.deliveryId) {k : Nat} {a : Int}
    (ha : d.times[k]? = some a) : 0 ≤ a := by
  have hfirst := h.first_time
  have hmono := h.times_monotone hc
  cases hts : d.times with
  | nil => simp [hts] at ha
  | cons first later =>
    rw [hts] at ha hfirst hmono
    cases hfirst
    rcases List.mem_cons.mp (List.mem_of_getElem? ha) with rfl | hm
    · exact ht
    · exact ht.trans ((List.pairwise_cons.mp hmono).1 a hm)

theorem CompiledDelivery.clamped (hs : KeyComponent scenarioId) (ht : 0 ≤ source.2)
    (hc : BackoffCoversJitter g scenarioId source d) : ClampedTimes g scenarioId source d := by
  refine ⟨h.first_time, h.times_length.1, h.times_length.2, ?_⟩
  intro retry hr k delay hd
  obtain ⟨a, b, v, ha, hb, hv, he, hsafe⟩ := h.next_time hs hr hd
  have hcov := hc retry hr k delay v hd hv
  have hnonneg := h.time_nonneg ht (h.covered hs hc) ha
  have hk := (List.getElem?_eq_some_iff.mp hd).1
  have hlen := retry.backoff_length
  have hmax := retry.maxAttempts_range
  have hord : ¬ (k + 2 < 1 ∨ maxSafeInteger < k + 2) := by
    simp only [maxSafeInteger]
    omega
  refine ⟨a, b, v, ha, hb, hv, by omega, ?_⟩
  have hle := delay.le_max
  simp only [deriveRetryDelayNs, deriveSignedJitterNs, if_neg hord, show ¬ int64Max <
    delay.nanoseconds by omega, if_false, bind, Except.bind]
  rw [show g.signedRetryJitter scenarioId d.deliveryId (k + 2) jitterPolicyVersion
    retry.jitter.nanoseconds = .ok v from hv]
  dsimp only
  rw [if_neg (by omega), show max 0 ((delay.nanoseconds : Int) + v) = b - a by omega]
  rfl

theorem CompiledDelivery.accepted (hs : KeyComponent scenarioId)
    (hc : BackoffCoversJitter g scenarioId source d) : AcceptedPlan g scenarioId d where
  monotone := h.times_monotone (h.covered hs hc)
  retries := Retries.validateAttemptPlan_compiled h (h.covered hs hc)
  bundle := BundlePolicy.validateAttemptPlan_compiled h (h.covered hs hc)
  evaluate := fun _ _ _ ht htime => evaluateRetry_compiled h (h.covered hs hc) hs ht htime

/-- The clamp and the unclamped step agree only where the draw is covered. -/
theorem CompiledDelivery.covered_of_clamped (hs : KeyComponent scenarioId)
    (hclamp : ClampedTimes g scenarioId source d) : BackoffCoversJitter g scenarioId source d := by
  intro retry hr k delay v hd hv
  obtain ⟨a, b, v', ha, hb, hv', he, -⟩ := h.next_time hs hr hd
  obtain ⟨a', b', w, ha', hb', hw, he', -⟩ := hclamp.next retry hr k delay hd
  cases ha.symm.trans ha'
  cases hb.symm.trans hb'
  cases hv.symm.trans hv'
  cases hv.symm.trans hw
  omega

end Delivery

/-- The first rows of a compiled run are due at nonnegative times, so its clock starts before
them. -/
theorem bootstrap_notPast {sha : Sha256} {entries : List ScheduleEntry}
    (h : List.Forall₂ (CompiledScenario g requestBlob) configs plans)
    (hb : Bootstrapped sha plans entries) : NotPast ⟨entries, 0, [], [], []⟩ := by
  intro e he
  obtain ⟨s, d, hs, hseed⟩ := hb.seeds he
  obtain ⟨config, source, -, -, ht, -, -, hc⟩ := compiledDelivery_get h hs hseed.delivery
  obtain ⟨t, htm, hdue⟩ := hseed.first
  have hfirst := hc.first_time
  rw [DeliveryPlan.times, List.getElem?_map, htm] at hfirst
  have hstart : t.notBeforeLogicalNs = source.2 := Option.some.inj hfirst
  exact ht.trans_eq (hstart.symm.trans hdue.symm)

/-- Compiled times follow the clamped delay law, and every check accepts them, exactly when no
jitter draw is more negative than its backoff. -/
theorem compiled_times_clamped_iff (h : compileScenarios g requestBlob 0 configs = .ok plans) :
    (EveryDelivery (fun scenarioId source d =>
        ClampedTimes g scenarioId source d ∧ AcceptedPlan g scenarioId d) configs plans ∧
      ∀ env entries, env.generator = g → bootstrapSchedule g env.sha256 plans = .ok entries →
        executeSchedules env plans entries ≠ .error .movedBackwards) ↔
    EveryDelivery (BackoffCoversJitter g) configs plans := by
  have hcomp := compileScenarios_ok h
  constructor
  · rintro ⟨hall, -⟩
    exact hall.of_compiled hcomp fun _ _ _ hs _ hc hp => hc.covered_of_clamped hs hp.1
  · intro hcov
    refine ⟨hcov.of_compiled hcomp fun _ _ _ hs ht hc hp =>
      ⟨hc.clamped hs ht hp, hc.accepted hs hp⟩, ?_⟩
    intro env entries _ hb
    exact scheduleLoop_notBackwards (bootstrap_notPast hcomp (bootstrapSchedule_ok hb))

/-- One delivery with one retry, `backoff` before it and `jitter` around it. -/
def oneRetry (backoff jitter : Duration) : DeliverAction where
  event := "event"
  count := 1
  concurrencyGroup := none
  retry := some ⟨2, [backoff], [.timedOut], none, jitter, RetryConfig.two_attempts, rfl, by decide,
    by decide, by decide⟩
  count_range := DeliverAction.one_copy

def oneRetryScenario (backoff jitter : Duration) : ScenarioConfig :=
  ⟨"scenario", [.deliver (oneRetry backoff jitter)]⟩

theorem oneRetry_covered_clamped :
    ∃ plans, compileScenarios modularGenerator (fun _ => "blob") 0
        [oneRetryScenario ⟨10, by decide⟩ ⟨5, by decide⟩] = .ok plans ∧
      EveryDelivery (fun scenarioId source d =>
        ClampedTimes modularGenerator scenarioId source d ∧
          AcceptedPlan modularGenerator scenarioId d)
        [oneRetryScenario ⟨10, by decide⟩ ⟨5, by decide⟩] plans := by
  obtain ⟨plans, hplans⟩ := Checked.exists_of_isOk (show (compileScenarios modularGenerator
    (fun _ => "blob") 0 [oneRetryScenario ⟨10, by decide⟩ ⟨5, by decide⟩]).isOk = true by
      decide +kernel)
  refine ⟨plans, hplans, ((compiled_times_clamped_iff hplans).mpr ?_).1⟩
  intro i n config source s d hconfig hsource _ _
  apply backoffCoversJitter_of_le
  obtain rfl := List.mem_singleton.mp (List.mem_of_getElem? hconfig)
  obtain rfl := List.mem_singleton.mp (List.mem_of_getElem? hsource)
  intro retry hr delay hd
  cases hr
  obtain rfl := List.mem_singleton.mp hd
  decide

/-- A zero backoff under a negative draw: the second template lies before the first, and both
plan checks refuse the plan. -/
theorem oneRetry_uncovered :
    ∃ plans, compileScenarios modularGenerator (fun _ => "blob") 0
        [oneRetryScenario ⟨0, by decide⟩ ⟨4, by decide⟩] = .ok plans ∧
      (plans.map fun s => s.deliveries.map DeliveryPlan.times) = [[[0, -4]]] ∧
      (∀ s ∈ plans, ∀ d ∈ s.deliveries,
        Retries.validateAttemptPlan d =
            .error "attempt template logical times must be monotonic" ∧
          BundlePolicy.validateAttemptPlan d =
            .error "manifest retry due times are not monotonic") ∧
      ¬ EveryDelivery (fun scenarioId source d =>
        ClampedTimes modularGenerator scenarioId source d ∧
          AcceptedPlan modularGenerator scenarioId d)
        [oneRetryScenario ⟨0, by decide⟩ ⟨4, by decide⟩] plans := by
  have hrun : ((compileScenarios modularGenerator (fun _ => "blob") 0
      [oneRetryScenario ⟨0, by decide⟩ ⟨4, by decide⟩]).toOption.any fun plans =>
        decide ((plans.map fun s => s.deliveries.map DeliveryPlan.times) = [[[0, -4]]] ∧
          ∀ s ∈ plans, ∀ d ∈ s.deliveries,
            Retries.validateAttemptPlan d =
                .error "attempt template logical times must be monotonic" ∧
              BundlePolicy.validateAttemptPlan d =
                .error "manifest retry due times are not monotonic")) = true := by
    decide +kernel
  cases hplans : compileScenarios modularGenerator (fun _ => "blob") 0
      [oneRetryScenario ⟨0, by decide⟩ ⟨4, by decide⟩] with
  | error e => simp [hplans, Except.toOption] at hrun
  | ok plans =>
    rw [hplans] at hrun
    obtain ⟨htimes, hchecks⟩ := of_decide_eq_true hrun
    refine ⟨plans, rfl, htimes, hchecks, ?_⟩
    intro hall
    obtain ⟨s, rfl, hs⟩ := List.map_eq_singleton_iff.mp htimes
    obtain ⟨d, hd, -⟩ := List.map_eq_singleton_iff.mp hs
    have hmem : d ∈ s.deliveries := by simp [hd]
    have hok := (hall 0 0 _ _ s d rfl rfl rfl (by rw [hd]; rfl)).2.retries
    rw [(hchecks s (by simp) d hmem).1] at hok
    cases hok

end WebhookConformance
