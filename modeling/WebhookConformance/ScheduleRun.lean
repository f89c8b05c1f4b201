import WebhookConformance.Schedule

/-! What one batch of the schedule loop does, and what every run of the loop keeps. -/
namespace WebhookConformance

variable {env : RunEnvironment} {plans : List ScenarioPlan} {st next : LoopState}
  {first e : ScheduleEntry} {pending due rest : List ScheduleEntry}

section Bootstrap

variable {g : ContextGenerator} {sha : Sha256} {entries : List ScheduleEntry}

/-- The first row of a delivery of scenario `s`, as the bootstrap writes it. -/
structure Seed (sha : Sha256) (s : ScenarioPlan) (d : DeliveryPlan) (e : ScheduleEntry) :
    Prop where
  delivery : s.deliveries[e.deliveryOrdinal]? = some d
  ordinal : d.ordinal = e.deliveryOrdinal
  first : ∃ t, d.attemptPlan[0]? = some t ∧ e.logicalDueNs = t.notBeforeLogicalNs
  attempt : e.attemptOrdinal = 1
  id : e.scheduleEntryId = initialEntryId sha s.scenarioId d.deliveryId
  scenario : e.scenarioId = s.scenarioId

theorem scheduleSeed_ok {k : Nat} {s : ScenarioPlan} {d : DeliveryPlan}
    (h : scheduleSeed g sha k s.scenarioId d = .ok e)
    (hd : s.deliveries[d.ordinal]? = some d) :
    e.scenarioOrdinal = k ∧ e.deliveryOrdinal = d.ordinal ∧ Seed sha s d e := by
  unfold scheduleSeed at h
  split at h
  · cases h
  · rename_i initial rest hplan
    obtain ⟨planId, -, h⟩ := Checked.bind_ok h
    cases Checked.pure_ok h
    exact ⟨rfl, rfl, hd, rfl, ⟨initial, by rw [hplan]; rfl, rfl⟩, rfl, rfl, rfl⟩

theorem bootstrapScenario_ok {k : Nat} {s : ScenarioPlan}
    (h : bootstrapScenario g sha k s = .ok entries) :
    List.Forall₂ (fun d e => e.scenarioOrdinal = k ∧ Seed sha s d e) s.deliveries entries := by
  unfold bootstrapScenario at h
  split at h
  · cases h
  · rename_i hord
    rw [ne_eq, not_not] at hord
    have hall := Checked.mapM_ok_iff.mp h
    refine Checked.forall₂_imp_mem hall ?_
    intro d e hd hseed
    obtain ⟨n, hn⟩ := List.getElem?_of_mem hd
    obtain ⟨hk, -, hs⟩ := scheduleSeed_ok hseed (ordinal_of_range hord hn ▸ hn)
    exact ⟨hk, hs⟩

theorem bootstrapScenarios_ok {k : Nat} (h : bootstrapScenarios g sha k plans = .ok entries) :
    List.Forall₂ (fun d e => ∃ i s, e.scenarioOrdinal = k + i ∧ plans[i]? = some s ∧ Seed sha s d e)
      (plans.flatMap ScenarioPlan.deliveries) entries := by
  induction plans generalizing k entries with
  | nil =>
    cases h
    exact .nil
  | cons s plans ih =>
    obtain ⟨here, hhere, h⟩ := Checked.bind_ok h
    obtain ⟨later, hlater, h⟩ := Checked.bind_ok h
    cases Checked.pure_ok h
    refine List.rel_append ((bootstrapScenario_ok hhere).imp ?_) ((ih hlater).imp ?_)
    · rintro d e ⟨hk, hs⟩
      exact ⟨0, s, hk, rfl, hs⟩
    · rintro d e ⟨i, s', hi, hs', hs⟩
      exact ⟨i + 1, s', by omega, by simpa using hs', hs⟩

/-- The journal right after its bootstrap transaction: one row for each planned delivery. -/
structure Bootstrapped (sha : Sha256) (plans : List ScenarioPlan) (entries : List ScheduleEntry) :
    Prop where
  entities : (entityIds plans).Nodup
  rows : plans.length + 2 * entries.length ≤ maxBootstrapRows
  ids : (entries.map ScheduleEntry.scheduleEntryId).Nodup
  pairs : List.Forall₂ (fun d e => ∃ s, plans[e.scenarioOrdinal]? = some s ∧ Seed sha s d e)
    (plans.flatMap ScenarioPlan.deliveries) entries

theorem bootstrapSchedule_ok (h : bootstrapSchedule g sha plans = .ok entries) :
    Bootstrapped sha plans entries := by
  unfold bootstrapSchedule at h
  split at h
  · cases h
  · rename_i hent
    obtain ⟨rows, hrows, h⟩ := Checked.bind_ok h
    dsimp only at h
    split at h
    · cases h
    · split at h
      · cases h
      · rename_i hmax
        split at h
        · cases h
        · rename_i hids
          cases Checked.pure_ok h
          refine ⟨not_not.mp hent, by omega, not_not.mp hids, ?_⟩
          refine (bootstrapScenarios_ok hrows).imp ?_
          rintro d e ⟨i, s, hi, hs, hseed⟩
          exact ⟨s, by rw [hi, Nat.zero_add]; exact hs, hseed⟩

theorem Bootstrapped.seeds (hb : Bootstrapped sha plans entries) (he : e ∈ entries) :
    ∃ s d, plans[e.scenarioOrdinal]? = some s ∧ Seed sha s d e := by
  obtain ⟨d, -, s, hs, hseed⟩ := Checked.exists_of_mem_right hb.pairs he
  exact ⟨s, d, hs, hseed⟩

end Bootstrap

/-- A retry is scheduled at the next template of its plan, never before its predecessor. -/
theorem evaluateRetry_scheduled {g : ContextGenerator} {sha256Hex : String → String}
    {d : DeliveryPlan} {p : ClassifiedPredecessor} {scenarioId : String}
    {decision : RetryDecision} (h : evaluateRetry g sha256Hex d p scenarioId = .ok decision)
    (hs : decision.shouldSchedule = true) :
    ∃ t, d.attemptPlan[p.attemptOrdinal]? = some t ∧
      decision.logicalDueNs = some t.notBeforeLogicalNs ∧
      decision.scheduleEntryId = some ("retry." ++ sha256Hex (scenarioId ++ "|" ++ d.deliveryId ++
        "|" ++ p.attemptId ++ "|" ++ toString (p.attemptOrdinal + 1))) ∧
      p.logicalTimeNs ≤ t.notBeforeLogicalNs ∧ decision.attemptPlanId.isSome = true := by
  obtain ⟨-, -, h⟩ := Checked.bind_ok h
  dsimp only at h
  split at h
  · cases Checked.pure_ok h
    simp [RetryDecision.shouldSchedule, terminalDecision] at hs
  · rw [Nat.add_sub_cancel] at h
    split at h
    · cases Checked.pure_ok h
      simp [RetryDecision.shouldSchedule, terminalDecision] at hs
    · rename_i t ht
      split at h
      · cases h
      · split at h
        · cases Checked.pure_ok h
          simp [RetryDecision.shouldSchedule, terminalDecision] at hs
        · obtain ⟨predicates, -, h⟩ := Checked.bind_ok h
          split at h
          · cases Checked.pure_ok h
            simp [RetryDecision.shouldSchedule, terminalDecision] at hs
          · split at h
            · cases h
            · rename_i hlt
              obtain ⟨-, -, h⟩ := Checked.bind_ok h
              obtain ⟨planId, -, h⟩ := Checked.bind_ok h
              cases Checked.pure_ok h
              exact ⟨t, ht, rfl, rfl, by omega, rfl⟩

/-- The scenario and delivery of an entry that the manifest knows. -/
theorem scheduledPlan_ok {s : ScenarioPlan} {d : DeliveryPlan}
    (h : scheduledPlan plans e = .ok (s, d)) :
    plans[e.scenarioOrdinal]? = some s ∧ s.deliveries[e.deliveryOrdinal]? = some d ∧
      s.scenarioId = e.scenarioId := by
  unfold scheduledPlan at h
  split at h
  · cases h
  · rename_i s' hs
    split at h
    · cases h
    · rename_i d' hd
      split at h
      · cases h
      · rename_i hne
        split at h
        · cases h
        · cases h
          exact ⟨hs, hd, by_contra fun hc => hne (Or.inl hc)⟩

theorem execute_ok {x : AttemptExecution} (h : execute env plans e = .ok x) :
    x.entry = e ∧ x.run = env.attempt e.coordinates e.attemptOrdinal ∧
      ∃ s d, scheduledPlan plans e = .ok (s, d) ∧ x.deliveryId = d.deliveryId ∧
      evaluateRetry env.generator env.sha256.hexdigest d
        (classifiedPredecessor x.run.attemptId e.attemptOrdinal e.attempt_pos e.logicalDueNs
          x.run.result x.run.classification (env.retryableStatus e.coordinates)) s.scenarioId =
        .ok x.decision := by
  obtain ⟨⟨s, d⟩, hp, h⟩ := Checked.bind_ok h
  obtain ⟨decision, hd, h⟩ := Checked.bind_ok h
  cases Checked.pure_ok h
  exact ⟨rfl, rfl, s, d, hp, rfl, hd⟩

/-- The text a retry's row id is the digest of, the retry following attempt `ordinal`. -/
def retryRoot (env : RunEnvironment) (scenarioId deliveryId : String) (c : Nat × Nat)
    (ordinal : Nat) : String :=
  scenarioId ++ "|" ++ deliveryId ++ "|" ++ (env.attempt c ordinal).attemptId ++ "|" ++
    toString (ordinal + 1)

/-- The row a retried attempt leaves: the same delivery, the next ordinal, its template's time,
and an id of the retry kind. -/
theorem retryEntry_some {x : AttemptExecution} {r : ScheduleEntry}
    (hx : execute env plans e = .ok x) (h : retryEntry x = some r) :
    x.decision.shouldSchedule = true ∧ r.coordinates = e.coordinates ∧
      r.attemptOrdinal = e.attemptOrdinal + 1 ∧ r.scenarioId = e.scenarioId ∧
      e.logicalDueNs ≤ r.logicalDueNs ∧
      ∃ s d t, plans[e.scenarioOrdinal]? = some s ∧ s.deliveries[e.deliveryOrdinal]? = some d ∧
        d.attemptPlan[e.attemptOrdinal]? = some t ∧ r.logicalDueNs = t.notBeforeLogicalNs ∧
        r.scheduleEntryId = "retry." ++ env.sha256.hexdigest
          (retryRoot env s.scenarioId d.deliveryId e.coordinates e.attemptOrdinal) := by
  obtain ⟨hent, hrun, s, d, hp, -, hdec⟩ := execute_ok hx
  unfold retryEntry at h
  split at h
  · rename_i entryId planId due hid hplan hdue
    split at h
    · rename_i hs
      obtain ⟨t, ht, htime, hroot, hle, -⟩ := evaluateRetry_scheduled hdec hs
      obtain ⟨hps, hpd, -⟩ := scheduledPlan_ok hp
      rw [htime] at hdue
      rw [hroot] at hid
      cases hdue
      cases hid
      cases h
      subst hent
      refine ⟨hs, rfl, rfl, rfl, hle, s, d, t, hps, hpd, ht, rfl, ?_⟩
      rw [retryRoot, ← hrun]
      rfl
    · cases h
  · cases h

/-- Everything a batch does: its guard, its call, and the state it leaves. -/
theorem scheduleBatch_ok (h : scheduleBatch env plans st first pending = .ok next) :
    st.logicalNowNs ≤ first.logicalDueNs ∧ ∃ completed releases verdicts,
      releaseBatch env plans
          (pending.filter fun item => item.logicalDueNs = first.logicalDueNs) =
        .ok (completed, releases) ∧
      Checked.runAll recordVerdict st.deliveryVerdicts completed = .ok verdicts ∧
      next = ⟨(pending.filter fun item => item.logicalDueNs ≠ first.logicalDueNs) ++
          completed.filterMap retryEntry, first.logicalDueNs,
        st.calls ++ [⟨(pending.filter fun item =>
          item.logicalDueNs = first.logicalDueNs).map ScheduleEntry.scheduleEntryId, releases⟩],
        st.attempts ++ completed, verdicts⟩ := by
  unfold scheduleBatch at h
  split at h
  · cases h
  · rename_i hlt
    dsimp only at h
    split at h
    · cases h
    · rename_i completed releases hr
      split at h
      · cases h
      · rename_i verdicts hv
        cases h
        exact ⟨by omega, completed, releases, verdicts, hr, hv, rfl⟩

theorem orderedPending_perm (st : LoopState) : (orderedPending st).Perm st.pending :=
  List.perm_insertionSort orderLe st.pending

/-- The first entry in stable order is due first. -/
theorem orderedPending_head (h : orderedPending st = first :: rest) :
    ∀ e ∈ first :: rest, first.logicalDueNs ≤ e.logicalDueNs := by
  have hsorted := List.pairwise_insertionSort orderLe st.pending
  rw [show st.pending.insertionSort orderLe = first :: rest from h, List.pairwise_cons] at hsorted
  intro e he
  rcases List.mem_cons.mp he with rfl | he
  · exact le_rfl
  · rcases Prod.Lex.toLex_le_toLex.mp (hsorted.1 e he) with hlt | ⟨heq, -⟩
    · exact le_of_lt hlt
    · exact le_of_eq heq

/-- The call of a batch: one work item per due entry, keyed by its group. -/
def BatchItem (plans : List ScenarioPlan) (e : ScheduleEntry)
    (w : ConcurrencyWork ScheduleEntry) : Prop :=
  w.payload = e ∧ w.workId = e.scheduleEntryId ∧ concurrencyGroup plans e = .ok w.concurrencyGroup

theorem concurrencyWork_ok {τ : Type} {workId group : String} {ordinal : Nat} {payload : τ}
    {w : ConcurrencyWork τ} (h : concurrencyWork workId group ordinal payload = .ok w) :
    w = ⟨workId, group, ordinal, payload⟩ := by
  obtain ⟨-, -, h⟩ := Checked.bind_ok h
  obtain ⟨-, -, h⟩ := Checked.bind_ok h
  split at h
  · cases h
  · exact (Checked.pure_ok h).symm

theorem batchWork_ok {work : List (ConcurrencyWork ScheduleEntry)}
    (h : batchWork plans due = .ok work) : List.Forall₂ (BatchItem plans) due work := by
  have hz := Checked.mapM_ok_iff.mp h
  have hdue : due = due.zipIdx.map Prod.fst := by simp
  rw [hdue, List.forall₂_map_left_iff]
  refine hz.imp ?_
  intro item w hw
  obtain ⟨group, hg, hw⟩ := Checked.bind_ok hw
  cases concurrencyWork_ok hw
  exact ⟨rfl, rfl, hg⟩

theorem BatchItem.completed {work : List (ConcurrencyWork ScheduleEntry)}
    {completed : List AttemptExecution} (hi : List.Forall₂ (BatchItem plans) due work)
    (hx : List.Forall₂ (fun w x => execute env plans w.payload = .ok x) work completed) :
    List.Forall₂ (fun e x => execute env plans e = .ok x) due completed := by
  induction hi generalizing completed with
  | nil =>
    cases hx
    exact .nil
  | cons hi _ ih =>
    cases hx with
    | cons hx hrest =>
      rw [hi.1] at hx
      exact .cons hx (ih hrest)

theorem releaseBatch_ok {completed : List AttemptExecution} {releases : List BarrierRelease}
    (h : releaseBatch env plans due = .ok (completed, releases)) :
    List.Forall₂ (fun e x => execute env plans e = .ok x) due completed ∧
      ∃ work cohorts, batchWork plans due = .ok work ∧ validateAndGroup work = .ok cohorts ∧
        releases = cohorts.map release := by
  obtain ⟨work, hw, h⟩ := Checked.bind_ok h
  obtain ⟨-, -, h⟩ := Checked.bind_ok h
  obtain ⟨cohorts, hc, h⟩ := Checked.bind_ok h
  obtain ⟨done, hd, h⟩ := Checked.bind_ok h
  cases Checked.pure_ok h
  exact ⟨BatchItem.completed (batchWork_ok hw) (Checked.mapM_ok_iff.mp hd), work, cohorts, hw, hc, rfl⟩

section Time

/-- No pending entry is due before the logical clock. -/
def NotPast (st : LoopState) : Prop := ∀ e ∈ st.pending, st.logicalNowNs ≤ e.logicalDueNs

/-- A batch splits the pending rows into those it runs and those due later, and leaves the
latter with the retries of the former. -/
theorem scheduleBatch_split (hp : orderedPending st = first :: rest)
    (h : scheduleBatch env plans st first (first :: rest) = .ok next) :
    ∃ due later completed releases verdicts, (due ++ later).Perm st.pending ∧ first ∈ due ∧
      (∀ e ∈ due, e.logicalDueNs = first.logicalDueNs) ∧
      (∀ e ∈ later, first.logicalDueNs < e.logicalDueNs) ∧
      releaseBatch env plans due = .ok (completed, releases) ∧
      Checked.runAll recordVerdict st.deliveryVerdicts completed = .ok verdicts ∧
      next = ⟨later ++ completed.filterMap retryEntry, first.logicalDueNs,
        st.calls ++ [⟨due.map ScheduleEntry.scheduleEntryId, releases⟩],
        st.attempts ++ completed, verdicts⟩ := by
  obtain ⟨-, completed, releases, verdicts, hr, hv, rfl⟩ := scheduleBatch_ok h
  refine ⟨_, _, completed, releases, verdicts, ?_, ?_, ?_, ?_, hr, hv, rfl⟩
  · have hsplit := List.filter_append_perm
      (fun item => decide (item.logicalDueNs = first.logicalDueNs)) (first :: rest)
    have hall := orderedPending_perm st
    rw [hp] at hall
    simpa only [ne_eq, decide_not] using hsplit.trans hall
  · simp
  · intro e he
    simpa using (List.mem_filter.mp he).2
  · intro e he
    obtain ⟨hmem, hne⟩ := List.mem_filter.mp he
    have hle := orderedPending_head hp e hmem
    have hne' : e.logicalDueNs ≠ first.logicalDueNs := by simpa using hne
    omega

/-- The entries a batch leaves: those due later, and the retries of those it ran. -/
theorem scheduleBatch_pending (hp : orderedPending st = first :: rest)
    (h : scheduleBatch env plans st first (first :: rest) = .ok next) (he : e ∈ next.pending) :
    (e ∈ st.pending ∧ first.logicalDueNs < e.logicalDueNs) ∨
      ∃ p x, p ∈ st.pending ∧ p.logicalDueNs = first.logicalDueNs ∧
        execute env plans p = .ok x ∧ retryEntry x = some e := by
  obtain ⟨due, later, completed, releases, verdicts, hperm, -, hdue, hlater, hr, -, rfl⟩ :=
    scheduleBatch_split hp h
  rcases List.mem_append.mp he with he | he
  · exact Or.inl ⟨hperm.mem_iff.mp (List.mem_append_right _ he), hlater e he⟩
  · obtain ⟨x, hx, hre⟩ := List.mem_filterMap.mp he
    obtain ⟨p, hpm, hexec⟩ := Checked.exists_of_mem_right (releaseBatch_ok hr).1 hx
    exact Or.inr ⟨p, x, hperm.mem_iff.mp (List.mem_append_left _ hpm), hdue p hpm, hexec, hre⟩

theorem scheduleBatch_now
    (h : scheduleBatch env plans st first (first :: rest) = .ok next) :
    next.logicalNowNs = first.logicalDueNs := by
  obtain ⟨-, completed, releases, verdicts, -, -, rfl⟩ := scheduleBatch_ok h
  rfl

theorem notPast_batch (hp : orderedPending st = first :: rest)
    (h : scheduleBatch env plans st first (first :: rest) = .ok next) : NotPast next := by
  intro e he
  rw [scheduleBatch_now h]
  rcases scheduleBatch_pending hp h he with ⟨-, hlt⟩ | ⟨p, x, -, hdue, hx, hre⟩
  · omega
  · have := (retryEntry_some hx hre).2.2.2.2.1
    omega

theorem scheduleBatch_notBackwards (hp : orderedPending st = first :: rest) (hn : NotPast st) :
    scheduleBatch env plans st first (first :: rest) ≠ .error .movedBackwards := by
  have hf : first ∈ st.pending := by
    rw [← (orderedPending_perm st).mem_iff, hp]
    simp
  have := hn first hf
  unfold scheduleBatch
  rw [if_neg (by omega)]
  dsimp only
  split
  · simp
  · split <;> simp

/-- The time check of the loop never fires: retry evaluation already refuses an earlier time. -/
theorem scheduleLoop_notBackwards {fuel : Nat} (hn : NotPast st) :
    scheduleLoop env plans fuel st ≠ .error .movedBackwards := by
  induction fuel generalizing st with
  | zero => simp [scheduleLoop]
  | succ fuel ih =>
    unfold scheduleLoop
    split
    · split <;> simp
    · rename_i first rest hp
      split
      · rename_i err herr
        intro hc
        cases hc
        exact scheduleBatch_notBackwards hp hn herr
      · rename_i next hnext
        exact ih (notPast_batch hp hnext)

end Time

/-- What every batch preserves holds when the loop ends, and then nothing is pending and the
verdicts are those of the planned deliveries. -/
theorem scheduleLoop_invariant {Inv : LoopState → Prop} {fuel : Nat} {final : LoopState}
    (hstep : ∀ st next first rest, Inv st → orderedPending st = first :: rest →
      scheduleBatch env plans st first (first :: rest) = .ok next → Inv next)
    (h : scheduleLoop env plans fuel st = .ok final) (hst : Inv st) :
    Inv final ∧ final.pending = [] ∧
      expectedDeliveries plans ⊆ final.deliveryVerdicts.map Prod.fst := by
  induction fuel generalizing st with
  | zero => cases h
  | succ fuel ih =>
    unfold scheduleLoop at h
    split at h
    · rename_i hp
      split at h
      · rename_i hall
        cases h
        have hempty := orderedPending_perm final
        rw [hp] at hempty
        exact ⟨hst, hempty.symm.eq_nil, hall.1⟩
      · cases h
    · rename_i first rest hp
      split at h
      · cases h
      · rename_i next hnext
        exact ih h (hstep st next first rest hst hp hnext)

end WebhookConformance
