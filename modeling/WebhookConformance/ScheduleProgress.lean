import WebhookConformance.RetryTimes

/-! Progress of the schedule loop: with plans that retry evaluation accepts, no batch raises, the
schedule drains, and every delivery becomes terminal exactly once. -/
namespace WebhookConformance

variable {env : RunEnvironment} {plans : List ScenarioPlan} {st next : LoopState}
  {first e r : ScheduleEntry} {rest due : List ScheduleEntry} {c : Nat × Nat}
  {s s' : ScenarioPlan} {d d' : DeliveryPlan} {t : AttemptTemplate}

def DeliveryAt (plans : List ScenarioPlan) (c : Nat × Nat) (s : ScenarioPlan)
    (d : DeliveryPlan) : Prop :=
  plans[c.1]? = some s ∧ s.deliveries[c.2]? = some d

theorem DeliveryAt.unique (h : DeliveryAt plans c s d) (h' : DeliveryAt plans c s' d') :
    s = s' ∧ d = d' := by
  obtain ⟨hs, hd⟩ := h
  obtain ⟨hs', hd'⟩ := h'
  cases hs.symm.trans hs'
  cases hd.symm.trans hd'
  exact ⟨rfl, rfl⟩

/-- What the loop needs of one delivery plan. -/
structure ReadyDelivery (g : ContextGenerator) (scenarioId : String) (n : Nat)
    (d : DeliveryPlan) : Prop where
  ordinal : d.ordinal = n
  ordinals : ∀ (k : Nat) (t : AttemptTemplate), d.attemptPlan[k]? = some t → t.ordinal = k + 1
  evaluate : ∀ (sha256Hex : String → String) (p : ClassifiedPredecessor) (t : AttemptTemplate),
    d.attemptPlan[p.attemptOrdinal - 1]? = some t → p.logicalTimeNs = t.notBeforeLogicalNs →
      ∃ decision, evaluateRetry g sha256Hex d p scenarioId = .ok decision
  group : ∀ name, d.concurrencyGroup = some name → name ≠ "" → isToken 128 name = true

/-- The digest does not collide on the retry rows of two deliveries. -/
def DigestApart (env : RunEnvironment) (plans : List ScenarioPlan) : Prop :=
  ∀ {c c' s s' d d' k k'}, DeliveryAt plans c s d → DeliveryAt plans c' s' d' →
    1 ≤ k → k < d.attemptPlan.length → 1 ≤ k' → k' < d'.attemptPlan.length →
    env.sha256.hexdigest (retryRoot env s.scenarioId d.deliveryId c k) =
      env.sha256.hexdigest (retryRoot env s'.scenarioId d'.deliveryId c' k') → c = c'

/-- Nothing of this manifest makes the loop raise. -/
structure RunReady (env : RunEnvironment) (plans : List ScenarioPlan) : Prop where
  ready : ∀ {c s d}, DeliveryAt plans c s d → ReadyDelivery env.generator s.scenarioId c.2 d
  deliveryIds : ∀ {c c' s s' d d'}, DeliveryAt plans c s d → DeliveryAt plans c' s' d' →
    d.deliveryId = d'.deliveryId → c = c'
  initialIds : ∀ {c c' s s' d d'}, DeliveryAt plans c s d → DeliveryAt plans c' s' d' →
    initialEntryId env.sha256 s.scenarioId d.deliveryId =
      initialEntryId env.sha256 s'.scenarioId d'.deliveryId → c = c'
  retryIds : DigestApart env plans

/-- A pending row agrees with the plan it belongs to. -/
structure Planned (env : RunEnvironment) (plans : List ScenarioPlan) (e : ScheduleEntry)
    (s : ScenarioPlan) (d : DeliveryPlan) (t : AttemptTemplate) : Prop where
  delivery : DeliveryAt plans e.coordinates s d
  template : d.attemptPlan[e.attemptOrdinal - 1]? = some t
  due : e.logicalDueNs = t.notBeforeLogicalNs
  scenario : e.scenarioId = s.scenarioId
  id : (e.attemptOrdinal = 1 ∧
      e.scheduleEntryId = initialEntryId env.sha256 s.scenarioId d.deliveryId) ∨
    ∃ k, 1 ≤ k ∧ e.attemptOrdinal = k + 1 ∧ e.scheduleEntryId = "retry." ++
      env.sha256.hexdigest (retryRoot env s.scenarioId d.deliveryId e.coordinates k)

section EntryIds

theorem initial_ne_retry (x y : String) : "initial." ++ x ≠ "retry." ++ y := by
  intro h
  have := congrArg (fun text => text.toList.head?) h
  simp [String.toList_append] at this

theorem retry_append_inj {x y : String} (h : "retry." ++ x = "retry." ++ y) : x = y := by
  have := congrArg String.toList h
  rw [String.toList_append, String.toList_append] at this
  exact String.toList_inj.mp (List.append_cancel_left this)

/-- Rows with one id belong to one delivery. -/
theorem Planned.coordinates_eq {t' : AttemptTemplate} (hr : RunReady env plans)
    (he : Planned env plans e s d t) (he' : Planned env plans r s' d' t')
    (h : e.scheduleEntryId = r.scheduleEntryId) : e.coordinates = r.coordinates := by
  have hk := (List.getElem?_eq_some_iff.mp he.template).1
  have hk' := (List.getElem?_eq_some_iff.mp he'.template).1
  rcases he.id with ⟨-, hid⟩ | ⟨k, hpos, ho, hid⟩
  · rcases he'.id with ⟨-, hid'⟩ | ⟨k', -, -, hid'⟩
    · exact hr.initialIds he.delivery he'.delivery (hid.symm.trans (h.trans hid'))
    · exact (initial_ne_retry _ _ (hid.symm.trans (h.trans hid'))).elim
  · rcases he'.id with ⟨-, hid'⟩ | ⟨k', hpos', ho', hid'⟩
    · exact (initial_ne_retry _ _ (hid'.symm.trans (h.symm.trans hid))).elim
    · exact hr.retryIds he.delivery he'.delivery hpos (by omega) hpos' (by omega)
        (retry_append_inj (hid.symm.trans (h.trans hid')))

theorem tokenChar_hex : ∀ c ∈ "0123456789abcdef".toList, tokenChar c = true := by decide

/-- A digest behind a token is a token. -/
theorem isToken_digest (sha : Sha256) {lead text : String} {m : Nat}
    (hl : lead.toList.all tokenChar = true) (hm : lead.toList.length + 64 ≤ m) :
    isToken m (lead ++ sha.hexdigest text) = true := by
  have hlen : (lead ++ sha.hexdigest text).length = lead.toList.length + 64 := by
    rw [← String.length_toList, String.toList_append, List.length_append, sha.length_eq]
  have hall : (lead ++ sha.hexdigest text).toList.all tokenChar = true := by
    rw [String.toList_append, List.all_append, hl, Bool.true_and, List.all_eq_true]
    exact fun c hc => tokenChar_hex c (sha.hex text c hc)
  simp only [isToken, hlen, hall, decide_eq_true_eq]
  exact ⟨by omega, hm, trivial⟩

/-- The three ways in which the id of a row is made. -/
inductive RowId (sha : Sha256) : String → Prop
  | initial (scenarioId deliveryId : String) : RowId sha (initialEntryId sha scenarioId deliveryId)
  | retry (root : String) : RowId sha ("retry." ++ sha.hexdigest root)
  | redelivery {attemptId : String} (fresh : isFreshAttemptId attemptId = true) :
      RowId sha ("resume.redelivery." ++ attemptId)

theorem isToken_fresh {lead attemptId : String} {m : Nat}
    (hfresh : isFreshAttemptId attemptId = true) (hl : lead.toList.all tokenChar = true)
    (hm : lead.toList.length + 34 ≤ m) : isToken m (lead ++ attemptId) = true := by
  rw [isFreshAttemptId, Bool.and_eq_true, List.isPrefixOf_iff_prefix] at hfresh
  obtain ⟨⟨ulid, hulid⟩, hfresh⟩ := hfresh
  have hdrop : attemptId.toList.drop 8 = ulid := by
    rw [← hulid]
    exact List.drop_left' (by decide)
  rw [hdrop, isCrockfordUlid, Bool.and_eq_true, Bool.and_eq_true, decide_eq_true_eq] at hfresh
  obtain ⟨⟨hlength, halphabet⟩, -⟩ := hfresh
  have hlen : (lead ++ attemptId).length = lead.toList.length + 34 := by
    rw [← String.length_toList, String.toList_append, ← hulid, List.length_append,
      List.length_append, hlength]
    rfl
  have hchar : ∀ c ∈ crockfordAlphabet, tokenChar c = true := by decide
  have hall : (lead ++ attemptId).toList.all tokenChar = true := by
    rw [String.toList_append, ← hulid, List.all_append, List.all_append, hl, Bool.true_and,
      Bool.and_eq_true, List.all_eq_true]
    refine ⟨by decide, List.all_eq_true.2 fun c hc => hchar c ?_⟩
    exact List.contains_iff_mem.1 (List.all_eq_true.1 halphabet c hc)
  simp only [isToken, hlen, hall, decide_eq_true_eq]
  exact ⟨by omega, hm, trivial⟩

/-- Row ids are tokens, with or without a short leading text. -/
theorem RowId.token {sha : Sha256} {id : String} (h : RowId sha id) {lead : String} {m : Nat}
    (hl : lead.toList.all tokenChar = true) (hm : lead.toList.length + 72 ≤ m) :
    isToken m (lead ++ id) = true := by
  have hlead : ∀ text : String, text.toList.all tokenChar = true →
      (lead ++ text).toList.all tokenChar = true ∧
        (lead ++ text).toList.length = lead.toList.length + text.toList.length := by
    intro text htext
    rw [String.toList_append, List.all_append, hl, htext, List.length_append]
    exact ⟨rfl, rfl⟩
  cases h with
  | initial scenarioId deliveryId =>
    obtain ⟨hall, hlength⟩ := hlead "initial." (by decide)
    have height : "initial.".toList.length = 8 := by decide
    rw [initialEntryId, ← String.append_assoc]
    exact isToken_digest sha hall (by omega)
  | retry root =>
    obtain ⟨hall, hlength⟩ := hlead "retry." (by decide)
    have hsix : "retry.".toList.length = 6 := by decide
    rw [← String.append_assoc]
    exact isToken_digest sha hall (by omega)
  | redelivery hfresh =>
    obtain ⟨hall, hlength⟩ := hlead "resume.redelivery." (by decide)
    have height : "resume.redelivery.".toList.length = 18 := by decide
    rw [← String.append_assoc]
    exact isToken_fresh hfresh hall (by omega)

theorem Planned.rowId (he : Planned env plans e s d t) : RowId env.sha256 e.scheduleEntryId := by
  obtain ⟨-, hid⟩ | ⟨k, -, -, hid⟩ := he.id
  · rw [hid]
    exact .initial _ _
  · rw [hid]
    exact .retry _

end EntryIds

section Batch

/-- The barrier key of a planned row. -/
def rowGroup (d : DeliveryPlan) (e : ScheduleEntry) : String :=
  (d.concurrencyGroup.filter (· ≠ "")).getD ("ungrouped." ++ e.scheduleEntryId)

theorem Planned.scheduledPlan_eq (hr : RunReady env plans) (he : Planned env plans e s d t) :
    scheduledPlan plans e = .ok (s, d) := by
  have hready := hr.ready he.delivery
  have hpos := e.attempt_pos
  have hord := hready.ordinals _ _ he.template
  have hany : ¬ (d.attemptPlan.all fun t => t.ordinal ≠ e.attemptOrdinal) = true := by
    rw [List.all_eq_true]
    intro hall
    have := hall t (List.mem_of_getElem? he.template)
    simp only [decide_eq_true_eq] at this
    omega
  obtain ⟨hs, hd⟩ := he.delivery
  simp only [ScheduleEntry.coordinates] at hs hd hready
  simp only [scheduledPlan, hs, hd, he.scenario, hready.ordinal, ne_eq,
    not_true, or_self, if_false]
  rw [if_neg hany]

theorem Planned.concurrencyGroup_eq (hr : RunReady env plans) (he : Planned env plans e s d t) :
    concurrencyGroup plans e = .ok (rowGroup d e) := by
  rw [concurrencyGroup, he.scheduledPlan_eq hr]
  rfl

theorem Planned.group_token (hr : RunReady env plans) (he : Planned env plans e s d t) :
    isToken 128 (rowGroup d e) = true := by
  unfold rowGroup
  cases hg : d.concurrencyGroup.filter (· ≠ "") with
  | none => exact he.rowId.token (by decide) (by decide)
  | some name =>
    obtain ⟨hname, hne⟩ := Option.filter_eq_some_iff.mp hg
    exact (hr.ready he.delivery).group name hname (by simpa using hne)

theorem Planned.execute_total (hr : RunReady env plans) (he : Planned env plans e s d t) :
    ∃ x, execute env plans e = .ok x := by
  obtain ⟨decision, hd⟩ := (hr.ready he.delivery).evaluate env.sha256.hexdigest
    (classifiedPredecessor (env.attempt e.coordinates e.attemptOrdinal).attemptId
      e.attemptOrdinal e.attempt_pos e.logicalDueNs
      (env.attempt e.coordinates e.attemptOrdinal).result
      (env.attempt e.coordinates e.attemptOrdinal).classification
      (env.retryableStatus e.coordinates)) t he.template he.due
  exact ⟨_, by simp only [execute, he.scheduledPlan_eq hr, bind, Except.bind, hd]; rfl⟩

theorem concurrencyWork_total {τ : Type} {workId group : String} {ordinal : Nat} {payload : τ}
    (hid : isToken 96 workId = true) (hgroup : isToken 128 group = true)
    (ho : ordinal ≤ maxOrdinal) :
    concurrencyWork workId group ordinal payload = .ok ⟨workId, group, ordinal, payload⟩ := by
  simp only [concurrencyWork, token, hid, hgroup, if_true, bind, Except.bind,
    show ¬ maxOrdinal < ordinal by omega, if_false]
  rfl

theorem batchWork_total (hr : RunReady env plans)
    (hplan : ∀ e ∈ due, ∃ s d t, Planned env plans e s d t) (hsize : due.length ≤ maxGroupItems) :
    ∃ work, batchWork plans due = .ok work := by
  apply Checked.mapM_exists
  intro item hitem
  obtain ⟨-, hlt, -⟩ := List.mem_zipIdx hitem
  obtain ⟨s, d, t, he⟩ := hplan item.1 (List.fst_mem_of_mem_zipIdx hitem)
  have hid : isToken 96 ("" ++ item.1.scheduleEntryId) = true :=
    he.rowId.token (by decide) (by decide)
  rw [String.empty_append] at hid
  refine ⟨⟨item.1.scheduleEntryId, rowGroup d item.1, item.2, item.1⟩, ?_⟩
  rw [he.concurrencyGroup_eq hr]
  exact concurrencyWork_total hid (he.group_token hr) (by
    simp only [maxGroupItems] at hsize
    simp only [maxOrdinal]
    omega)

theorem BatchItem.workIds {work : List (ConcurrencyWork ScheduleEntry)}
    (h : List.Forall₂ (BatchItem plans) due work) :
    work.map ConcurrencyWork.workId = due.map ScheduleEntry.scheduleEntryId := by
  induction h with
  | nil => rfl
  | cons hi _ ih => simp [hi.2.1, ih]

theorem BatchItem.payloads {work : List (ConcurrencyWork ScheduleEntry)}
    (h : List.Forall₂ (BatchItem plans) due work) :
    work.map ConcurrencyWork.payload = due := by
  induction h with
  | nil => rfl
  | cons hi _ ih => simp [hi.1, ih]

/-- Rows of different deliveries have different ids. -/
theorem planned_ids_nodup (hr : RunReady env plans)
    (hplan : ∀ e ∈ due, ∃ s d t, Planned env plans e s d t)
    (hnd : (due.map ScheduleEntry.coordinates).Nodup) :
    (due.map ScheduleEntry.scheduleEntryId).Nodup := by
  rw [List.Nodup, List.pairwise_map] at hnd ⊢
  refine hnd.imp_of_mem ?_
  intro a b ha hb hne hid
  obtain ⟨s, d, t, hpa⟩ := hplan a ha
  obtain ⟨s', d', t', hpb⟩ := hplan b hb
  exact hne (hpa.coordinates_eq hr hpb hid)

theorem releaseBatch_total (hr : RunReady env plans)
    (hplan : ∀ e ∈ due, ∃ s d t, Planned env plans e s d t) (hsize : due.length ≤ maxGroupItems)
    (hnd : (due.map ScheduleEntry.coordinates).Nodup) :
    ∃ completed releases, releaseBatch env plans due = .ok (completed, releases) := by
  obtain ⟨work, hwork⟩ := batchWork_total hr hplan hsize
  have hitems := batchWork_ok hwork
  have hids : (work.map ConcurrencyWork.workId).Nodup := by
    rw [BatchItem.workIds hitems]
    exact planned_ids_nodup hr hplan hnd
  obtain ⟨completed, hdone⟩ :
      ∃ completed, work.mapM (fun w => execute env plans w.payload) = .ok completed := by
    apply Checked.mapM_exists
    intro w hw
    have hm : w.payload ∈ due := by
      rw [← BatchItem.payloads hitems]
      exact List.mem_map_of_mem hw
    obtain ⟨s, d, t, he⟩ := hplan w.payload hm
    exact he.execute_total hr
  have hlen : ¬ maxGroupItems < work.length := by
    rw [← hitems.length_eq]
    omega
  have hcon : validateConcurrency env.maxConcurrency =
      .ok (env.maxConcurrency.getD defaultDeliveryConcurrency) := by
    have := env.concurrency_range
    simp only [validateConcurrency]
    rw [if_neg (by omega)]
  obtain ⟨cohorts, hcohorts⟩ : ∃ cohorts, validateAndGroup work = .ok cohorts := by
    unfold validateAndGroup
    rw [if_neg hlen, if_neg (not_not.mpr hids)]
    exact ⟨_, rfl⟩
  refine ⟨completed, cohorts.map release, ?_⟩
  simp only [releaseBatch, hwork, runConcurrencyGroups, hcon, hcohorts, bind, Except.bind, hdone]
  rfl

end Batch

section Verdicts

theorem recordVerdict_ok {verdicts : List (String × TerminalVerdict)} {x : AttemptExecution}
    (hx : x.deliveryId ∉ verdicts.map Prod.fst) :
    recordVerdict verdicts x =
      .ok (if x.deliveryTerminal then verdicts ++ [(x.deliveryId, x.verdict)] else verdicts) := by
  unfold recordVerdict
  cases x.deliveryTerminal with
  | false => rfl
  | true => simp [hx]

/-- Fresh deliveries are recorded one after the other, the terminal ones in order. -/
theorem recordVerdicts_ok {completed : List AttemptExecution}
    {verdicts : List (String × TerminalVerdict)}
    (hnd : (completed.map AttemptExecution.deliveryId).Nodup)
    (hfresh : ∀ x ∈ completed, x.deliveryId ∉ verdicts.map Prod.fst) :
    Checked.runAll recordVerdict verdicts completed = .ok (verdicts ++
      (completed.filter AttemptExecution.deliveryTerminal).map fun x => (x.deliveryId, x.verdict)) := by
  induction completed generalizing verdicts with
  | nil => simp
  | cons x completed ih =>
    rw [List.map_cons, List.nodup_cons] at hnd
    rw [Checked.runAll, recordVerdict_ok (hfresh x (by simp))]
    have hrest : ∀ y ∈ completed, y.deliveryId ≠ x.deliveryId ∧
        y.deliveryId ∉ verdicts.map Prod.fst := by
      intro y hy
      refine ⟨?_, hfresh y (List.mem_cons_of_mem x hy)⟩
      intro he
      exact hnd.1 (he ▸ List.mem_map_of_mem hy)
    cases hx : x.deliveryTerminal with
    | false =>
      simp only [Bool.false_eq_true, if_false, List.filter_cons, hx]
      exact ih hnd.2 fun y hy => (hrest y hy).2
    | true =>
      have hih := @ih (verdicts ++ [(x.deliveryId, x.verdict)]) hnd.2 (by
        intro y hy
        obtain ⟨hne, hold⟩ := hrest y hy
        simp only [List.map_append, List.map_cons, List.map_nil, List.mem_append,
          List.mem_singleton, not_or]
        exact ⟨hold, hne⟩)
      simp only [if_true, List.filter_cons, hx, List.map_cons]
      exact hih.trans (by simp)

end Verdicts

section Invariant

/-- The rows and the verdicts between two batches. -/
structure LoopInv (env : RunEnvironment) (plans : List ScenarioPlan) (st : LoopState) :
    Prop where
  planned : ∀ e ∈ st.pending, ∃ s d t, Planned env plans e s d t
  nodup : (st.pending.map ScheduleEntry.coordinates).Nodup
  size : st.pending.length ≤ maxGroupItems
  undecided : ∀ e ∈ st.pending, ∀ s d, DeliveryAt plans e.coordinates s d →
    d.deliveryId ∉ st.deliveryVerdicts.map Prod.fst
  decided : ∀ c s d, DeliveryAt plans c s d → c ∈ st.pending.map ScheduleEntry.coordinates ∨
    d.deliveryId ∈ st.deliveryVerdicts.map Prod.fst
  known : ∀ id ∈ st.deliveryVerdicts.map Prod.fst, ∃ c s d, DeliveryAt plans c s d ∧
    d.deliveryId = id

theorem LoopInv.eq_of_coordinates (hi : LoopInv env plans st) (he : e ∈ st.pending)
    (hr : r ∈ st.pending) (h : e.coordinates = r.coordinates) : e = r :=
  List.inj_on_of_nodup_map hi.nodup he hr h

theorem execute_delivery {x : AttemptExecution} (h : execute env plans e = .ok x) :
    ∃ s d, DeliveryAt plans e.coordinates s d ∧ x.deliveryId = d.deliveryId := by
  obtain ⟨-, -, s, d, hp, hid, -⟩ := execute_ok h
  obtain ⟨hs, hd, -⟩ := scheduledPlan_ok hp
  exact ⟨s, d, ⟨hs, hd⟩, hid⟩

/-- The retry of a planned row is planned. -/
theorem Planned.retry {x : AttemptExecution}
    (he : Planned env plans e s d t) (hx : execute env plans e = .ok x)
    (h : retryEntry x = some r) : ∃ u, Planned env plans r s d u := by
  obtain ⟨-, hc, ho, hs, -, s', d', u, hs', hd', hu, hdue, hid⟩ := retryEntry_some hx h
  obtain ⟨rfl, rfl⟩ := he.delivery.unique (show DeliveryAt plans e.coordinates s' d' from ⟨hs', hd'⟩)
  refine ⟨u, hc ▸ he.delivery, ?_, hdue, hs.trans he.scenario, Or.inr ?_⟩
  · rw [ho, Nat.add_sub_cancel]
    exact hu
  · exact ⟨e.attemptOrdinal, e.attempt_pos, ho, hc ▸ hid⟩

/-- A scheduled retry always carries its row. -/
theorem retryEntry_of_shouldSchedule {x : AttemptExecution} (hx : execute env plans e = .ok x)
    (hs : x.decision.shouldSchedule = true) : ∃ r, retryEntry x = some r := by
  obtain ⟨-, -, s, d, -, -, hdec⟩ := execute_ok hx
  obtain ⟨u, -, hdue, hid, -, hplan⟩ := evaluateRetry_scheduled hdec hs
  obtain ⟨planId, hplan⟩ := Option.isSome_iff_exists.mp hplan
  simp only [retryEntry, hdue, hid, hplan, hs, if_true]
  exact ⟨_, rfl⟩

theorem retries_coordinates {completed : List AttemptExecution}
    (h : List.Forall₂ (fun e x => execute env plans e = .ok x) due completed) :
    ((completed.filterMap retryEntry).map ScheduleEntry.coordinates).Sublist
      (due.map ScheduleEntry.coordinates) := by
  induction h with
  | nil => exact .slnil
  | @cons e x due completed hx _ ih =>
    cases hre : retryEntry x with
    | none =>
      rw [List.filterMap_cons_none hre]
      exact ih.cons _
    | some r =>
      rw [List.filterMap_cons_some hre, List.map_cons, List.map_cons,
        (retryEntry_some hx hre).2.1]
      exact ih.cons_cons _

/-- The deliveries a batch runs are different ones, none with a verdict yet. -/
theorem LoopInv.completed_fresh {later : List ScheduleEntry} {completed : List AttemptExecution}
    (hr : RunReady env plans) (hi : LoopInv env plans st)
    (hperm : (due ++ later).Perm st.pending)
    (hx : List.Forall₂ (fun e x => execute env plans e = .ok x) due completed) :
    (completed.map AttemptExecution.deliveryId).Nodup ∧
      ∀ x ∈ completed, x.deliveryId ∉ st.deliveryVerdicts.map Prod.fst := by
  constructor
  · have hnd : (due.map ScheduleEntry.coordinates).Nodup := by
      have hall := (hperm.map ScheduleEntry.coordinates).nodup_iff.mpr hi.nodup
      rw [List.map_append] at hall
      exact (List.nodup_append.mp hall).1
    rw [List.Nodup, List.pairwise_map] at hnd ⊢
    refine Checked.pairwise_of_forall₂ hx hnd ?_
    intro e e' x x' he he' hne hid
    obtain ⟨s, d, hd, hdid⟩ := execute_delivery he
    obtain ⟨s', d', hd', hdid'⟩ := execute_delivery he'
    exact hne (hr.deliveryIds hd hd' (hdid.symm.trans (hid.trans hdid')))
  · intro x hxm
    obtain ⟨e, he, hex⟩ := Checked.exists_of_mem_right hx hxm
    obtain ⟨s, d, hd, hid⟩ := execute_delivery hex
    rw [hid]
    exact hi.undecided e (hperm.mem_iff.mp (List.mem_append_left _ he)) s d hd

/-- The invariant of the loop passes through a batch. -/
theorem loopInv_batch (hr : RunReady env plans) (hi : LoopInv env plans st)
    (hp : orderedPending st = first :: rest)
    (h : scheduleBatch env plans st first (first :: rest) = .ok next) : LoopInv env plans next := by
  have hpend := fun {e} => @scheduleBatch_pending env plans st next first e rest hp h
  obtain ⟨due, later, completed, releases, verdicts, hperm, -, hdue, hlater, hrel, hv, rfl⟩ :=
    scheduleBatch_split hp h
  obtain ⟨hx, -⟩ := releaseBatch_ok hrel
  obtain ⟨hnd, hfresh⟩ := hi.completed_fresh hr hperm hx
  cases hv.symm.trans (recordVerdicts_ok hnd hfresh)
  have hsub := (List.Sublist.refl (later.map ScheduleEntry.coordinates)).append
    (retries_coordinates hx)
  have hswap := (List.perm_append_comm.trans hperm).map ScheduleEntry.coordinates
  rw [List.map_append] at hswap
  have hmem : ∀ q ∈ due, q ∈ st.pending := fun q hq =>
    hperm.mem_iff.mp (List.mem_append_left _ hq)
  -- a verdict of this batch belongs to a row it ran without a retry
  have hnew : ∀ id ∈ (completed.filter AttemptExecution.deliveryTerminal).map
      (Prod.fst ∘ fun x => (x.deliveryId, x.verdict)),
      ∃ q x s d, q ∈ due ∧ execute env plans q = .ok x ∧ x.deliveryTerminal = true ∧
        DeliveryAt plans q.coordinates s d ∧ d.deliveryId = id := by
    intro id hid
    obtain ⟨x, hxm, rfl⟩ := List.mem_map.mp hid
    obtain ⟨hxm, hterm⟩ := List.mem_filter.mp hxm
    obtain ⟨q, hq, hqx⟩ := Checked.exists_of_mem_right hx hxm
    obtain ⟨s, d, hd, hdid⟩ := execute_delivery hqx
    exact ⟨q, x, s, d, hq, hqx, hterm, hd, hdid.symm⟩
  constructor
  case planned =>
    intro e he
    rcases hpend he with ⟨he, -⟩ | ⟨p, x, hpm, -, hpx, hre⟩
    · exact hi.planned e he
    · obtain ⟨s, d, t, hplan⟩ := hi.planned p hpm
      obtain ⟨u, hu⟩ := hplan.retry hpx hre
      exact ⟨s, d, u, hu⟩
  case nodup =>
    rw [List.map_append]
    exact (hswap.nodup_iff.mpr hi.nodup).sublist hsub
  case size =>
    have hle := hsub.length_le
    have hlen := hswap.length_eq
    have := hi.size
    simp only [List.length_append, List.length_map] at hle hlen ⊢
    omega
  case undecided =>
    intro e he s d hd hin
    rw [List.map_append, List.map_map, List.mem_append] at hin
    rcases hpend he with ⟨hem, hlt⟩ | ⟨p, x, hpm, hpdue, hpx, hre⟩
    · rcases hin with hold | hnow
      · exact hi.undecided e hem s d hd hold
      · obtain ⟨q, y, s', d', hq, -, -, hd', hid⟩ := hnew _ hnow
        have hc := hr.deliveryIds hd hd' hid.symm
        have := hdue q hq
        rw [← hi.eq_of_coordinates hem (hmem q hq) hc] at this
        omega
    · have hc := (retryEntry_some hpx hre).2.1
      rw [hc] at hd
      rcases hin with hold | hnow
      · exact hi.undecided p hpm s d hd hold
      · obtain ⟨q, y, s', d', hq, hqy, hterm, hd', hid⟩ := hnew _ hnow
        have hqp := hi.eq_of_coordinates (hmem q hq) hpm (hr.deliveryIds hd' hd hid)
        subst hqp
        cases hpx.symm.trans hqy
        have hs := (retryEntry_some hpx hre).1
        simp [AttemptExecution.deliveryTerminal, hs] at hterm
  case decided =>
    intro c s d hd
    rw [List.map_append, List.map_append, List.mem_append, List.mem_append, List.map_map]
    rcases hi.decided c s d hd with hpending | hdone
    · obtain ⟨e, he, rfl⟩ := List.mem_map.mp hpending
      rcases List.mem_append.mp (hperm.mem_iff.mpr he) with hq | hl
      · obtain ⟨x, hxm, hex⟩ := Checked.exists_of_mem_left hx hq
        obtain ⟨s', d', hd', hid⟩ := execute_delivery hex
        obtain ⟨rfl, rfl⟩ := hd.unique hd'
        cases hs : x.decision.shouldSchedule with
        | true =>
          obtain ⟨r, hre⟩ := retryEntry_of_shouldSchedule hex hs
          refine Or.inl (Or.inr (List.mem_map.mpr ⟨r, List.mem_filterMap.mpr ⟨x, hxm, hre⟩, ?_⟩))
          exact (retryEntry_some hex hre).2.1
        | false =>
          refine Or.inr (Or.inr (List.mem_map.mpr ⟨x, List.mem_filter.mpr ⟨hxm, ?_⟩, hid⟩))
          simp [AttemptExecution.deliveryTerminal, hs]
      · exact Or.inl (Or.inl (List.mem_map_of_mem hl))
    · exact Or.inr (Or.inl hdone)
  case known =>
    intro id hid
    rw [List.map_append, List.map_map, List.mem_append] at hid
    rcases hid with hold | hnow
    · exact hi.known id hold
    · obtain ⟨q, x, s, d, -, -, -, hd, hdid⟩ := hnew id hnow
      exact ⟨q.coordinates, s, d, hd, hdid⟩

end Invariant

section Progress

def planLength (plans : List ScenarioPlan) (c : Nat × Nat) : Nat :=
  match plans[c.1]? with
  | none => 0
  | some s =>
    match s.deliveries[c.2]? with
    | none => 0
    | some d => d.attemptPlan.length

theorem DeliveryAt.planLength (h : DeliveryAt plans c s d) :
    WebhookConformance.planLength plans c = d.attemptPlan.length := by
  simp [WebhookConformance.planLength, h.1, h.2]

/-- How many attempts a row can still lead to, itself included. -/
def rowWeight (plans : List ScenarioPlan) (e : ScheduleEntry) : Nat :=
  planLength plans e.coordinates + 1 - e.attemptOrdinal

def weight (plans : List ScenarioPlan) (rows : List ScheduleEntry) : Nat :=
  (rows.map (rowWeight plans)).sum

theorem Planned.rowWeight_pos (he : Planned env plans e s d t) : 1 ≤ rowWeight plans e := by
  have hk := (List.getElem?_eq_some_iff.mp he.template).1
  rw [rowWeight, he.delivery.planLength]
  omega

/-- A retry weighs one less than its predecessor, and a terminal attempt leaves nothing. -/
theorem weight_retries {completed : List AttemptExecution}
    (hplan : ∀ e ∈ due, ∃ s d t, Planned env plans e s d t)
    (h : List.Forall₂ (fun e x => execute env plans e = .ok x) due completed) :
    weight plans (completed.filterMap retryEntry) + due.length ≤ weight plans due := by
  induction h with
  | nil => simp [weight]
  | @cons e x due completed hx _ ih =>
    have hrest := ih fun q hq => hplan q (List.mem_cons_of_mem e hq)
    obtain ⟨s, d, t, he⟩ := hplan e (by simp)
    have hpos := he.rowWeight_pos
    simp only [weight, List.map_cons, List.sum_cons, List.length_cons] at hrest ⊢
    cases hre : retryEntry x with
    | none =>
      rw [List.filterMap_cons_none hre]
      omega
    | some r =>
      obtain ⟨-, hc, ho, -⟩ := retryEntry_some hx hre
      have hr : rowWeight plans r + 1 = rowWeight plans e := by
        unfold rowWeight at hpos ⊢
        rw [hc, ho]
        omega
      rw [List.filterMap_cons_some hre, List.map_cons, List.sum_cons]
      omega

theorem weight_batch (hi : LoopInv env plans st) (hp : orderedPending st = first :: rest)
    (h : scheduleBatch env plans st first (first :: rest) = .ok next) :
    weight plans next.pending < weight plans st.pending := by
  obtain ⟨due, later, completed, releases, verdicts, hperm, hfirst, -, -, hrel, -, rfl⟩ :=
    scheduleBatch_split hp h
  have hretry := weight_retries (fun e he => hi.planned e (hperm.mem_iff.mp
    (List.mem_append_left _ he))) (releaseBatch_ok hrel).1
  have hsum := (hperm.map (rowWeight plans)).sum_nat
  have hlen := List.length_pos_of_mem hfirst
  simp only [weight, List.map_append, List.sum_append] at hretry hsum ⊢
  omega

theorem scheduleBatch_total (hr : RunReady env plans) (hi : LoopInv env plans st)
    (hn : NotPast st) (hp : orderedPending st = first :: rest) :
    ∃ next, scheduleBatch env plans st first (first :: rest) = .ok next := by
  have hperm : ((first :: rest).filter (fun item => item.logicalDueNs = first.logicalDueNs) ++
      (first :: rest).filter (fun item => ¬ item.logicalDueNs = first.logicalDueNs)).Perm
        st.pending := by
    have hsplit := List.filter_append_perm
      (fun item => decide (item.logicalDueNs = first.logicalDueNs)) (first :: rest)
    have hall := orderedPending_perm st
    rw [hp] at hall
    simpa only [decide_not] using hsplit.trans hall
  have hfirst : first ∈ st.pending := by
    rw [← (orderedPending_perm st).mem_iff, hp]
    simp
  have hlate := hn first hfirst
  have hsize := hi.size
  rw [← hperm.length_eq, List.length_append] at hsize
  have hnodup := (hperm.map ScheduleEntry.coordinates).nodup_iff.mpr hi.nodup
  rw [List.map_append] at hnodup
  obtain ⟨completed, releases, hrel⟩ := releaseBatch_total hr
    (fun e he => hi.planned e (hperm.mem_iff.mp (List.mem_append_left _ he)))
    (by omega) (List.nodup_append.mp hnodup).1
  obtain ⟨hnd, hfresh⟩ := hi.completed_fresh hr hperm (releaseBatch_ok hrel).1
  unfold scheduleBatch
  rw [if_neg (by omega)]
  simp only [hrel, recordVerdicts_ok hnd hfresh]
  exact ⟨_, rfl⟩

/-- The drained loop has a verdict for exactly the planned deliveries. -/
theorem LoopInv.drained (hi : LoopInv env plans st) (hp : orderedPending st = []) :
    expectedDeliveries plans ⊆ st.deliveryVerdicts.map Prod.fst ∧
      st.deliveryVerdicts.map Prod.fst ⊆ expectedDeliveries plans := by
  have hempty : st.pending = [] := by
    have := orderedPending_perm st
    rw [hp] at this
    exact this.symm.eq_nil
  constructor
  · intro id hid
    obtain ⟨s, hs, hid⟩ := List.mem_flatMap.mp hid
    obtain ⟨d, hd, rfl⟩ := List.mem_map.mp hid
    obtain ⟨i, hi'⟩ := List.getElem?_of_mem hs
    obtain ⟨n, hn⟩ := List.getElem?_of_mem hd
    rcases hi.decided (i, n) s d ⟨hi', hn⟩ with hpend | hdone
    · simp [hempty] at hpend
    · exact hdone
  · intro id hid
    obtain ⟨c, s, d, hd, rfl⟩ := hi.known id hid
    exact List.mem_flatMap.mpr ⟨s, List.mem_of_getElem? hd.1,
      List.mem_map_of_mem (List.mem_of_getElem? hd.2)⟩

/-- Every reachable loop state keeps an invariant that each batch keeps, and with a weight below
the fuel the loop ends in such a state with nothing pending. -/
theorem scheduleLoop_total {Inv : LoopState → Prop} (hr : RunReady env plans)
    (hstep : ∀ st next first rest, Inv st → LoopInv env plans st → NotPast st →
      orderedPending st = first :: rest →
      scheduleBatch env plans st first (first :: rest) = .ok next → Inv next)
    {fuel : Nat} (hw : weight plans st.pending < fuel) (hi : LoopInv env plans st)
    (hn : NotPast st) (hinv : Inv st) :
    ∃ final, scheduleLoop env plans fuel st = .ok final ∧ final.pending = [] ∧ Inv final ∧
      LoopInv env plans final := by
  induction fuel generalizing st with
  | zero => omega
  | succ fuel ih =>
    unfold scheduleLoop
    cases hp : orderedPending st with
    | nil =>
      have hempty := orderedPending_perm st
      rw [hp] at hempty
      dsimp only
      rw [if_pos (hi.drained hp)]
      exact ⟨st, rfl, hempty.symm.eq_nil, hinv, hi⟩
    | cons first rest =>
      obtain ⟨next, hnext⟩ := scheduleBatch_total hr hi hn hp
      have hlt := weight_batch hi hp hnext
      dsimp only
      rw [hnext]
      exact ih (by omega) (loopInv_batch hr hi hp hnext) (notPast_batch hp hnext)
        (hstep st next first rest hinv hi hn hp hnext)

end Progress

section Start

variable {entries : List ScheduleEntry} {g : ContextGenerator}
  {requestBlob : DeliverAction → String} {configs : List ScenarioConfig}

theorem deliveryId_unique (hnd : (entityIds plans).Nodup) {c c' : Nat × Nat}
    (h : DeliveryAt plans c s d) (h' : DeliveryAt plans c' s' d')
    (hid : d.deliveryId = d'.deliveryId) : c = c' := by
  obtain ⟨hin, hpair⟩ := List.nodup_flatMap.mp hnd
  rw [List.pairwise_iff_getElem] at hpair
  have hmem : ∀ {c : Nat × Nat} {s d}, DeliveryAt plans c s d →
      d.deliveryId ∈ s.scenarioId :: s.deliveries.map DeliveryPlan.deliveryId :=
    fun h => List.mem_cons_of_mem _ (List.mem_map_of_mem (List.mem_of_getElem? h.2))
  obtain ⟨hi, hs⟩ := List.getElem?_eq_some_iff.mp h.1
  obtain ⟨hi', hs'⟩ := List.getElem?_eq_some_iff.mp h'.1
  rcases Nat.lt_trichotomy c.1 c'.1 with hlt | heq | hgt
  · have hdis := hpair c.1 c'.1 hi hi' hlt
    rw [Function.onFun_apply, hs, hs'] at hdis
    exact (hdis (hmem h) (hid ▸ hmem h')).elim
  · have hss : s = s' := by
      have := h.1
      rw [heq, h'.1] at this
      exact (Option.some.inj this).symm
    subst hss
    have hnd' := (List.nodup_cons.mp (hin s (List.mem_of_getElem? h.1))).2
    have hn := (List.getElem?_eq_some_iff.mp h.2).1
    refine Prod.ext heq ((List.getElem?_inj (by simpa using hn) hnd').mp ?_)
    rw [List.getElem?_map, List.getElem?_map, h.2, h'.2]
    exact congrArg some hid
  · have hdis := hpair c'.1 c.1 hi' hi hgt
    rw [Function.onFun_apply, hs, hs'] at hdis
    exact (hdis (hmem h') (hid ▸ hmem h)).elim

theorem Bootstrapped.seed_delivery (he : plans[e.scenarioOrdinal]? = some s)
    (hseed : Seed env.sha256 s d e) : DeliveryAt plans e.coordinates s d :=
  ⟨he, hseed.delivery⟩

/-- Every planned delivery has its row. -/
theorem Bootstrapped.covers (hb : Bootstrapped env.sha256 plans entries)
    (h : DeliveryAt plans c s d) :
    ∃ e ∈ entries, e.coordinates = c ∧
      e.scheduleEntryId = initialEntryId env.sha256 s.scenarioId d.deliveryId := by
  have hmem : d ∈ plans.flatMap ScenarioPlan.deliveries :=
    List.mem_flatMap.mpr ⟨s, List.mem_of_getElem? h.1, List.mem_of_getElem? h.2⟩
  obtain ⟨e, he, s', hs', hseed⟩ := Checked.exists_of_mem_left hb.pairs hmem
  have hc := deliveryId_unique hb.entities (seed_delivery hs' hseed) h rfl
  obtain ⟨rfl, -⟩ := h.unique (hc ▸ seed_delivery hs' hseed)
  exact ⟨e, he, hc, hseed.id⟩

/-- Every group name of the project is a token of the barrier. -/
def TokenGroups (configs : List ScenarioConfig) : Prop :=
  ∀ config ∈ configs, ∀ source ∈ plannedActions 0 config.steps, ∀ name,
    source.1.concurrencyGroup = some name → isToken 128 name = true

/-- Compiled plans whose draws are covered and whose groups are tokens never make the loop
raise, as long as the digest keeps the retry rows of different deliveries apart. -/
theorem runReady_of_compiled (hcomp : List.Forall₂ (CompiledScenario g requestBlob) configs plans)
    (hg : env.generator = g) (hb : Bootstrapped env.sha256 plans entries)
    (hcov : EveryDelivery (BackoffCoversJitter g) configs plans)
    (htoken : TokenGroups configs)
    (hdigest : DigestApart env plans) : RunReady env plans where
  ready := by
    intro c s d hd
    obtain ⟨config, source, hconfig, hsource, -, hkey, hord, hc⟩ :=
      compiledDelivery_get hcomp hd.1 hd.2
    have hcovered := hcov _ _ _ _ _ _ hconfig hsource hd.1 hd.2
    refine ⟨hord, ?_, ?_, ?_⟩
    · intro k t ht
      exact hc.template_ordinal ht
    · rw [hg]
      exact (hc.accepted hkey hcovered).evaluate
    · intro name hname _
      exact htoken config (List.mem_of_getElem? hconfig) source (List.mem_of_getElem? hsource) name
        (hc.group ▸ hname)
  deliveryIds := deliveryId_unique hb.entities
  initialIds := by
    intro c c' s s' d d' hd hd' hid
    obtain ⟨e, he, hc, hei⟩ := hb.covers hd
    obtain ⟨e', he', hc', hei'⟩ := hb.covers hd'
    have := List.inj_on_of_nodup_map hb.ids he he' (hei.trans (hid.trans hei'.symm))
    rw [← hc, ← hc', this]
  retryIds := hdigest

theorem loopInv_start (hb : Bootstrapped env.sha256 plans entries) :
    LoopInv env plans ⟨entries, 0, [], [], []⟩ where
  planned := by
    intro e he
    obtain ⟨s, d, hs, hseed⟩ := hb.seeds he
    obtain ⟨t, ht, hdue⟩ := hseed.first
    refine ⟨s, d, t, ⟨hs, hseed.delivery⟩, ?_, hdue, hseed.scenario, Or.inl ⟨hseed.attempt, hseed.id⟩⟩
    rw [hseed.attempt]
    exact ht
  nodup := by
    have hids := hb.ids
    rw [List.Nodup, List.pairwise_map] at hids ⊢
    refine hids.imp_of_mem ?_
    intro e e' he he' hne hc
    obtain ⟨s, d, hs, hseed⟩ := hb.seeds he
    obtain ⟨s', d', hs', hseed'⟩ := hb.seeds he'
    obtain ⟨rfl, rfl⟩ := (Bootstrapped.seed_delivery hs hseed).unique
      (hc ▸ Bootstrapped.seed_delivery hs' hseed')
    exact hne (hseed.id.trans hseed'.id.symm)
  size := by
    have := hb.rows
    simp only [maxBootstrapRows] at this
    simp only [maxGroupItems]
    omega
  undecided := by simp
  decided := by
    intro c s d hd
    obtain ⟨e, he, hc, -⟩ := hb.covers hd
    exact Or.inl (List.mem_map.mpr ⟨e, he, hc⟩)
  known := by simp

theorem templateCount_eq (plans : List ScenarioPlan) :
    templateCount plans =
      ((plans.flatMap ScenarioPlan.deliveries).map fun d => d.attemptPlan.length).sum := by
  induction plans with
  | nil => rfl
  | cons s plans ih =>
    simp only [templateCount, List.map_cons, List.sum_cons, List.flatMap_cons, List.map_append,
      List.sum_append] at ih ⊢
    rw [ih]

theorem weight_start (hb : Bootstrapped env.sha256 plans entries) :
    weight plans entries = templateCount plans := by
  have hrows : ∀ {ds : List DeliveryPlan} {rows : List ScheduleEntry},
      List.Forall₂ (fun d e => ∃ s, plans[e.scenarioOrdinal]? = some s ∧ Seed env.sha256 s d e)
        ds rows → weight plans rows = (ds.map fun d => d.attemptPlan.length).sum := by
    intro ds rows h
    induction h with
    | nil => rfl
    | cons hr _ ih =>
      obtain ⟨s, hs, hseed⟩ := hr
      have hw := (Bootstrapped.seed_delivery hs hseed).planLength
      simp only [weight, List.map_cons, List.sum_cons] at ih ⊢
      rw [ih, rowWeight, hw, hseed.attempt, Nat.add_sub_cancel]
  rw [hrows hb.pairs, templateCount_eq]

/-- Every run of such a manifest drains its schedule. -/
theorem executeSchedules_total {Inv : LoopState → Prop} (hr : RunReady env plans)
    (hb : Bootstrapped env.sha256 plans entries) (hn : NotPast ⟨entries, 0, [], [], []⟩)
    (hstart : Inv ⟨entries, 0, [], [], []⟩)
    (hstep : ∀ st next first rest, Inv st → LoopInv env plans st → NotPast st →
      orderedPending st = first :: rest →
      scheduleBatch env plans st first (first :: rest) = .ok next → Inv next) :
    ∃ final, executeSchedules env plans entries = .ok final ∧ final.pending = [] ∧ Inv final ∧
      LoopInv env plans final :=
  scheduleLoop_total hr hstep (by rw [weight_start hb]; omega) (loopInv_start hb) hn hstart

end Start

end WebhookConformance
