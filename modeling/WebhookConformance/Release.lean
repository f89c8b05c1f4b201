import WebhookConformance.Groups
import WebhookConformance.ScheduleProgress

/-! When the first attempts of a concurrency group leave through one barrier release. -/
namespace WebhookConformance

variable {env : RunEnvironment} {plans : List ScenarioPlan} {st next : LoopState}
  {first e r : ScheduleEntry} {rest due : List ScheduleEntry} {s : ScenarioPlan}
  {d : DeliveryPlan} {t : AttemptTemplate}

/-- The barrier key of a row. -/
def rowKey (plans : List ScenarioPlan) (e : ScheduleEntry) : Option String :=
  (concurrencyGroup plans e).toOption

/-- The releases of one call: one for each key, with the ids of exactly the rows of that key. -/
structure ReleasesByKey (plans : List ScenarioPlan) (due : List ScheduleEntry)
    (releases : List BarrierRelease) : Prop where
  nodup : (releases.map BarrierRelease.concurrencyGroup).Nodup
  ids : ∀ release ∈ releases, release.eligibleWorkIds.Perm
    ((due.filter (rowKey plans · = some release.concurrencyGroup)).map
      ScheduleEntry.scheduleEntryId)
  covers : ∀ e ∈ due, ∃ release ∈ releases, rowKey plans e = some release.concurrencyGroup

theorem BatchItem.filter_ids {work : List (ConcurrencyWork ScheduleEntry)}
    (h : List.Forall₂ (BatchItem plans) due work) (key : String) :
    (work.filter (·.concurrencyGroup = key)).map ConcurrencyWork.workId =
      (due.filter (rowKey plans · = some key)).map ScheduleEntry.scheduleEntryId := by
  induction h with
  | nil => rfl
  | @cons e w _ _ hi _ ih =>
    have hkey : rowKey plans e = some w.concurrencyGroup := by
      rw [rowKey, hi.2.2]
      rfl
    by_cases hk : w.concurrencyGroup = key
    · simp [hk, hkey, ih, hi.2.1]
    · simp [hk, hkey, ih]

theorem releaseBatch_byKey {completed : List AttemptExecution} {releases : List BarrierRelease}
    (h : releaseBatch env plans due = .ok (completed, releases)) :
    ReleasesByKey plans due releases := by
  obtain ⟨-, work, cohorts, hwork, hgroup, rfl⟩ := releaseBatch_ok h
  have hitems := batchWork_ok hwork
  unfold validateAndGroup at hgroup
  split at hgroup
  · cases hgroup
  · split at hgroup
    · cases hgroup
    · cases hgroup
      constructor
      · have hkeys := Grouping.groupInOrder_keys_nodup
          (fun entry : Nat × ConcurrencyWork ScheduleEntry => entry.2.concurrencyGroup)
          (indexed work)
        simpa [release, Function.comp_def] using hkeys
      · intro out hout
        obtain ⟨cohort, hcohort, rfl⟩ := List.mem_map.mp hout
        obtain ⟨group, hgroup, rfl⟩ := List.mem_map.mp hcohort
        rw [← BatchItem.filter_ids hitems]
        exact release_perm hgroup
      · intro e he
        obtain ⟨w, hw, hi⟩ := Checked.exists_of_mem_left hitems he
        obtain ⟨entry, hentry, rfl⟩ : ∃ entry ∈ indexed work, entry.2 = w := by
          rw [← @indexed_map_snd _ work] at hw
          obtain ⟨entry, hentry, rfl⟩ := List.mem_map.mp hw
          exact ⟨entry, hentry, rfl⟩
        have hmem := @Grouping.exists_group _ _ _
          (fun entry : Nat × ConcurrencyWork ScheduleEntry => entry.2.concurrencyGroup) _ _ hentry
        refine ⟨_, List.mem_map_of_mem (List.mem_map_of_mem hmem), ?_⟩
        rw [rowKey, hi.2.2]
        rfl

/-- The rows of the first attempts of scenario `s`'s members of a group. -/
def memberIds (sha : Sha256) (s : ScenarioPlan) (name : String) : List String :=
  (s.deliveries.filter (·.concurrencyGroup = some name)).map fun d =>
    initialEntryId sha s.scenarioId d.deliveryId

/-- All of `ids` go into one call, no other call has one of them, and one release of that call
makes exactly them eligible. -/
def ReleasedOnce (calls : List BarrierCall) (name : String) (ids : List String) : Prop :=
  ∃ before call after, calls = before ++ call :: after ∧
    (∀ id ∈ ids, id ∈ call.workIds) ∧
    (∀ other ∈ before ++ after, ∀ id ∈ ids, id ∉ other.workIds ∧
      ∀ release ∈ other.releases, id ∉ release.eligibleWorkIds) ∧
    ∃ earlier release later, call.releases = earlier ++ release :: later ∧
      release.concurrencyGroup = name ∧ release.eligibleWorkIds.Perm ids ∧
      ∀ other ∈ earlier ++ later, ∀ id ∈ ids, id ∉ other.eligibleWorkIds

/-- Ids a call never saw are in none of its releases. -/
theorem ReleasesByKey.not_mem {releases : List BarrierRelease} {id : String}
    (h : ReleasesByKey plans due releases) (hid : id ∉ due.map ScheduleEntry.scheduleEntryId) :
    ∀ release ∈ releases, id ∉ release.eligibleWorkIds := by
  intro release hr hm
  obtain ⟨e, he, rfl⟩ := List.mem_map.mp ((h.ids release hr).mem_iff.mp hm)
  exact hid (List.mem_map_of_mem (List.mem_filter.mp he).1)

theorem ReleasedOnce.append {calls : List BarrierCall} {name : String} {ids : List String}
    {releases : List BarrierRelease} (h : ReleasedOnce calls name ids)
    (hkey : ReleasesByKey plans due releases)
    (hnew : ∀ id ∈ ids, id ∉ due.map ScheduleEntry.scheduleEntryId) :
    ReleasedOnce (calls ++ [⟨due.map ScheduleEntry.scheduleEntryId, releases⟩]) name ids := by
  obtain ⟨before, call, after, rfl, hin, hout, hrel⟩ := h
  refine ⟨before, call, after ++ [⟨due.map ScheduleEntry.scheduleEntryId, releases⟩], by simp,
    hin, ?_, hrel⟩
  intro other hother id hid
  rw [← List.append_assoc, List.mem_append, List.mem_singleton] at hother
  rcases hother with hother | rfl
  · exact hout other hother id hid
  · exact ⟨hnew id hid, hkey.not_mem (hnew id hid)⟩

section Group

/-- The members of a group in scenario `i` start at one time, no attempt planned in another
scenario under the same name falls on it, and the name is not that of an ungrouped row. -/
structure GroupApart (plans : List ScenarioPlan) (i : Nat) (name : String) (time : Int) :
    Prop where
  together : ∀ n s d, DeliveryAt plans (i, n) s d → d.concurrencyGroup = some name →
    ∀ t, d.attemptPlan[0]? = some t → t.notBeforeLogicalNs = time
  alone : ∀ c s d, DeliveryAt plans c s d → c.1 ≠ i → d.concurrencyGroup = some name →
    ∀ t ∈ d.attemptPlan, t.notBeforeLogicalNs ≠ time
  nonempty : name ≠ ""
  named : ∀ text, name ≠ "ungrouped." ++ text

/-- Before the release: every member's first row is pending and no call had one. -/
def Waiting (plans : List ScenarioPlan) (i : Nat) (name : String) (ids : List String)
    (st : LoopState) : Prop :=
  (∀ n s d, DeliveryAt plans (i, n) s d → d.concurrencyGroup = some name →
    ∃ e ∈ st.pending, e.coordinates = (i, n) ∧ e.attemptOrdinal = 1) ∧
  ∀ call ∈ st.calls, ∀ id ∈ ids, id ∉ call.workIds ∧
    ∀ release ∈ call.releases, id ∉ release.eligibleWorkIds

/-- After it: the release is in the calls, and no first row is pending any more. -/
def Released (name : String) (ids : List String) (st : LoopState) : Prop :=
  ReleasedOnce st.calls name ids ∧ ∀ e ∈ st.pending, e.scheduleEntryId ∉ ids

theorem Planned.rowKey_eq (hr : RunReady env plans) (he : Planned env plans e s d t) :
    rowKey plans e = some (rowGroup d e) := by
  rw [rowKey, he.concurrencyGroup_eq hr]
  rfl

theorem rowGroup_member {name : String} (hd : d.concurrencyGroup = some name) (hne : name ≠ "") :
    rowGroup d e = name := by
  rw [rowGroup, hd, Option.filter_some_pos (by simpa using hne)]
  rfl

theorem group_of_rowGroup {name : String} (h : rowGroup d e = name)
    (hn : ∀ text, name ≠ "ungrouped." ++ text) : d.concurrencyGroup = some name := by
  unfold rowGroup at h
  cases hf : d.concurrencyGroup.filter (· ≠ "") with
  | none =>
    rw [hf] at h
    exact (hn _ h.symm).elim
  | some found =>
    rw [hf] at h
    cases h
    exact (Option.filter_eq_some_iff.mp hf).1

theorem Planned.first_row (he : Planned env plans e s d t) (ho : e.attemptOrdinal = 1) :
    e.scheduleEntryId = initialEntryId env.sha256 s.scenarioId d.deliveryId ∧
      d.attemptPlan[0]? = some t := by
  refine ⟨?_, by simpa [ho] using he.template⟩
  rcases he.id with ⟨-, hid⟩ | ⟨k, hk, hok, -⟩
  · exact hid
  · omega

variable {i : Nat} {name : String} {time : Int}

theorem mem_memberIds {id : String} :
    id ∈ memberIds env.sha256 s name ↔ ∃ (n : Nat) (d : DeliveryPlan),
      s.deliveries[n]? = some d ∧ d.concurrencyGroup = some name ∧
        id = initialEntryId env.sha256 s.scenarioId d.deliveryId := by
  constructor
  · intro h
    obtain ⟨d, hd, rfl⟩ := List.mem_map.mp h
    obtain ⟨hd, hg⟩ := List.mem_filter.mp hd
    obtain ⟨n, hn⟩ := List.getElem?_of_mem hd
    exact ⟨n, d, hn, by simpa using hg, rfl⟩
  · rintro ⟨n, d, hn, hg, rfl⟩
    exact List.mem_map.mpr ⟨d, List.mem_filter.mpr ⟨List.mem_of_getElem? hn, by simpa using hg⟩,
      rfl⟩

theorem memberIds_nodup (hr : RunReady env plans) (hs : plans[i]? = some s) :
    (memberIds env.sha256 s name).Nodup := by
  have hall : (s.deliveries.map fun d =>
      initialEntryId env.sha256 s.scenarioId d.deliveryId).Nodup := by
    rw [List.Nodup, List.pairwise_map, List.pairwise_iff_getElem]
    intro n n' hn hn' hlt hid
    have hat : DeliveryAt plans (i, n) s _ := ⟨hs, List.getElem?_eq_getElem hn⟩
    have hat' : DeliveryAt plans (i, n') s _ := ⟨hs, List.getElem?_eq_getElem hn'⟩
    have := hr.initialIds hat hat' hid
    simp only [Prod.mk.injEq, true_and] at this
    omega
  exact hall.sublist (List.filter_sublist.map _)

/-- A pending row with a member's id is the first row of that member, due at the group's time. -/
theorem Waiting.row_of_id (hr : RunReady env plans) (hi : LoopInv env plans st)
    (hg : GroupApart plans i name time) (hs : plans[i]? = some s)
    (hw : Waiting plans i name (memberIds env.sha256 s name) st) (he : e ∈ st.pending)
    (hid : e.scheduleEntryId ∈ memberIds env.sha256 s name) :
    e.logicalDueNs = time ∧ rowKey plans e = some name := by
  obtain ⟨n, d, hn, hname, hid⟩ := mem_memberIds.mp hid
  obtain ⟨q, hq, hc, ho⟩ := hw.1 n s d ⟨hs, hn⟩ hname
  obtain ⟨s', d', t, hplan⟩ := hi.planned q hq
  have hat : DeliveryAt plans q.coordinates s d := hc ▸ ⟨hs, hn⟩
  obtain ⟨rfl, rfl⟩ := hplan.delivery.unique hat
  obtain ⟨hqid, ht⟩ := hplan.first_row ho
  obtain ⟨s₁, d₁, t₁, hplan₁⟩ := hi.planned e he
  have hrow : e = q := hi.eq_of_coordinates he hq
    (hplan₁.coordinates_eq hr hplan (hid.trans hqid.symm))
  subst hrow
  refine ⟨?_, ?_⟩
  · rw [hplan.due]
    exact hg.together n _ _ ⟨hs, hn⟩ hname t ht
  · rw [hplan.rowKey_eq hr, rowGroup_member hname hg.nonempty]

variable {later : List ScheduleEntry}

/-- In the batch at the group's time, the rows under its name are exactly its first rows. -/
theorem Waiting.due_ids (hr : RunReady env plans) (hi : LoopInv env plans st)
    (hg : GroupApart plans i name time) (hs : plans[i]? = some s)
    (hw : Waiting plans i name (memberIds env.sha256 s name) st)
    (hperm : (due ++ later).Perm st.pending) (hdue : ∀ e ∈ due, e.logicalDueNs = time)
    (hlater : ∀ e ∈ later, time < e.logicalDueNs) :
    ((due.filter (rowKey plans · = some name)).map ScheduleEntry.scheduleEntryId).Perm
      (memberIds env.sha256 s name) := by
  have hmem : ∀ e ∈ due, e ∈ st.pending := fun e he =>
    hperm.mem_iff.mp (List.mem_append_left _ he)
  have hnodup : (due.map ScheduleEntry.scheduleEntryId).Nodup := by
    refine planned_ids_nodup hr (fun e he => hi.planned e (hmem e he)) ?_
    have hall := (hperm.map ScheduleEntry.coordinates).nodup_iff.mpr hi.nodup
    rw [List.map_append] at hall
    exact (List.nodup_append.mp hall).1
  refine (List.perm_ext_iff_of_nodup (hnodup.sublist (List.filter_sublist.map _))
    (memberIds_nodup hr hs)).mpr ?_
  intro id
  constructor
  · intro h
    obtain ⟨e, he, rfl⟩ := List.mem_map.mp h
    obtain ⟨he, hkey⟩ := List.mem_filter.mp he
    obtain ⟨s', d, t, hplan⟩ := hi.planned e (hmem e he)
    rw [hplan.rowKey_eq hr, decide_eq_true_eq, Option.some.injEq] at hkey
    have hname := group_of_rowGroup hkey hg.named
    by_cases hc : e.coordinates.1 = i
    · have hat : DeliveryAt plans (i, e.coordinates.2) s' d := hc ▸ hplan.delivery
      cases hs.symm.trans hat.1
      obtain ⟨q, hq, hqc, ho⟩ := hw.1 _ s d hat hname
      have hrow : q = e := hi.eq_of_coordinates hq (hmem e he) (hqc.trans (by rw [← hc]))
      subst hrow
      exact mem_memberIds.mpr ⟨_, d, hat.2, hname, (hplan.first_row ho).1⟩
    · have := hg.alone _ s' d hplan.delivery hc hname t (List.mem_of_getElem? hplan.template)
      exact (this (hplan.due.symm.trans (hdue e he))).elim
  · intro h
    obtain ⟨n, d, hn, hname, hid⟩ := mem_memberIds.mp h
    obtain ⟨q, hq, hqc, ho⟩ := hw.1 n s d ⟨hs, hn⟩ hname
    obtain ⟨s', d', t, hplan⟩ := hi.planned q hq
    have hat : DeliveryAt plans q.coordinates s d := hqc ▸ ⟨hs, hn⟩
    obtain ⟨rfl, rfl⟩ := hplan.delivery.unique hat
    have hqid := (hplan.first_row ho).1.trans hid.symm
    obtain ⟨htime, hkey⟩ := hw.row_of_id hr hi hg hs hq (hqid ▸ h)
    refine List.mem_map.mpr ⟨q, List.mem_filter.mpr ⟨?_, by simpa using hkey⟩, hqid⟩
    rcases List.mem_append.mp (hperm.mem_iff.mpr hq) with hq | hq
    · exact hq
    · have := hlater q hq
      omega

/-- That batch releases the group, once and whole. -/
theorem Waiting.releasedOnce {releases : List BarrierRelease} (hr : RunReady env plans)
    (hi : LoopInv env plans st) (hg : GroupApart plans i name time) (hs : plans[i]? = some s)
    (hw : Waiting plans i name (memberIds env.sha256 s name) st)
    (hused : ∃ d ∈ s.deliveries, d.concurrencyGroup = some name)
    (hperm : (due ++ later).Perm st.pending) (hdue : ∀ e ∈ due, e.logicalDueNs = time)
    (hlater : ∀ e ∈ later, time < e.logicalDueNs) (hkey : ReleasesByKey plans due releases) :
    ReleasedOnce (st.calls ++ [⟨due.map ScheduleEntry.scheduleEntryId, releases⟩]) name
      (memberIds env.sha256 s name) := by
  have hids := hw.due_ids hr hi hg hs hperm hdue hlater
  obtain ⟨d, hd, hname⟩ := hused
  obtain ⟨n, hn⟩ := List.getElem?_of_mem hd
  have hfirst : initialEntryId env.sha256 s.scenarioId d.deliveryId ∈ memberIds env.sha256 s name :=
    mem_memberIds.mpr ⟨n, d, hn, hname, rfl⟩
  obtain ⟨q, hq, -⟩ := List.mem_map.mp (hids.mem_iff.mpr hfirst)
  obtain ⟨hqdue, hqkey⟩ := List.mem_filter.mp hq
  obtain ⟨release, hrel, hrelkey⟩ := hkey.covers q hqdue
  have hgroup : release.concurrencyGroup = name := by
    rw [hrelkey, decide_eq_true_eq, Option.some.injEq] at hqkey
    exact hqkey
  obtain ⟨earlier, after, hsplit⟩ := List.append_of_mem hrel
  refine ⟨st.calls, _, [], rfl, ?_, ?_, earlier, release, after, hsplit, hgroup, ?_, ?_⟩
  · intro id hid
    obtain ⟨e, he, rfl⟩ := List.mem_map.mp (hids.mem_iff.mpr hid)
    exact List.mem_map_of_mem (List.mem_filter.mp he).1
  · intro other hother
    rw [List.append_nil] at hother
    exact hw.2 other hother
  · have := hkey.ids release hrel
    rw [hgroup] at this
    exact this.trans hids
  · -- an id in a second release would give that release the group's key too
    intro other hother id hid hin
    have hmem : other ∈ releases := by
      rw [hsplit]
      rcases List.mem_append.mp hother with h | h
      · exact List.mem_append_left _ h
      · exact List.mem_append_right _ (List.mem_cons_of_mem _ h)
    obtain ⟨e, he, rfl⟩ := List.mem_map.mp ((hkey.ids other hmem).mem_iff.mp hin)
    obtain ⟨he, hother'⟩ := List.mem_filter.mp he
    have hname' := (hw.row_of_id hr hi hg hs
      (hperm.mem_iff.mp (List.mem_append_left _ he)) hid).2
    rw [hname', decide_eq_true_eq, Option.some.injEq] at hother'
    have hnodup := hkey.nodup
    rw [hsplit, List.map_append, List.map_cons, List.nodup_middle, ← List.map_append,
      List.nodup_cons] at hnodup
    exact hnodup.1 (hgroup.trans hother' ▸ List.mem_map_of_mem hother)

/-- A batch keeps the group waiting or leaves it released. -/
theorem group_batch (hr : RunReady env plans) (hi : LoopInv env plans st)
    (hg : GroupApart plans i name time) (hs : plans[i]? = some s)
    (hused : ∃ d ∈ s.deliveries, d.concurrencyGroup = some name)
    (hp : orderedPending st = first :: rest)
    (h : scheduleBatch env plans st first (first :: rest) = .ok next)
    (hstate : Waiting plans i name (memberIds env.sha256 s name) st ∨
      Released name (memberIds env.sha256 s name) st) :
    Waiting plans i name (memberIds env.sha256 s name) next ∨
      Released name (memberIds env.sha256 s name) next := by
  obtain ⟨due, later, completed, releases, verdicts, hperm, hfirst, hdue, hlater, hrel, -, rfl⟩ :=
    scheduleBatch_split hp h
  have hkey := releaseBatch_byKey hrel
  have hmem : ∀ e ∈ due, e ∈ st.pending := fun e he =>
    hperm.mem_iff.mp (List.mem_append_left _ he)
  have hmem' : ∀ e ∈ later, e ∈ st.pending := fun e he =>
    hperm.mem_iff.mp (List.mem_append_right _ he)
  have hretry : ∀ r ∈ completed.filterMap retryEntry,
      r.scheduleEntryId ∉ memberIds env.sha256 s name := by
    intro r hre hid
    obtain ⟨x, hx, hre⟩ := List.mem_filterMap.mp hre
    obtain ⟨e, -, hex⟩ := Checked.exists_of_mem_right (releaseBatch_ok hrel).1 hx
    obtain ⟨-, -, -, -, -, s', d', -, -, -, -, -, hrid⟩ := retryEntry_some hex hre
    obtain ⟨n, d, -, -, hid⟩ := mem_memberIds.mp hid
    exact initial_ne_retry _ _ (hid.symm.trans hrid)
  rcases hstate with hw | ⟨honce, hgone⟩
  · by_cases htime : first.logicalDueNs = time
    · rw [htime] at hdue hlater
      refine Or.inr ⟨hw.releasedOnce hr hi hg hs hused hperm hdue hlater hkey, ?_⟩
      intro e he hid
      rcases List.mem_append.mp he with he | he
      · have := (hw.row_of_id hr hi hg hs (hmem' e he) hid).1
        have := hlater e he
        omega
      · exact hretry e he hid
    · have hnone : ∀ id ∈ memberIds env.sha256 s name,
          id ∉ due.map ScheduleEntry.scheduleEntryId := by
        intro id hid hin
        obtain ⟨e, he, rfl⟩ := List.mem_map.mp hin
        have := (hw.row_of_id hr hi hg hs (hmem e he) hid).1
        exact htime ((hdue e he).symm.trans this)
      refine Or.inl ⟨?_, ?_⟩
      · intro n s' d hat hname
        obtain ⟨e, he, hc, ho⟩ := hw.1 n s' d hat hname
        refine ⟨e, List.mem_append_left _ ?_, hc, ho⟩
        rcases List.mem_append.mp (hperm.mem_iff.mpr he) with hin | hin
        · obtain ⟨s₁, d₁, t₁, hplan⟩ := hi.planned e he
          obtain ⟨-, ht⟩ := hplan.first_row ho
          obtain ⟨rfl, rfl⟩ := hat.unique (hc ▸ hplan.delivery)
          have := hg.together n _ _ hat hname t₁ ht
          exact (htime ((hdue e hin).symm.trans (hplan.due.trans this))).elim
        · exact hin
      · intro call hcall id hid
        rcases List.mem_append.mp hcall with hcall | hcall
        · exact hw.2 call hcall id hid
        · rw [List.mem_singleton.mp hcall]
          exact ⟨hnone id hid, hkey.not_mem (hnone id hid)⟩
  · refine Or.inr ⟨honce.append hkey ?_, ?_⟩
    · intro id hid hin
      obtain ⟨e, he, rfl⟩ := List.mem_map.mp hin
      exact hgone e (hmem e he) hid
    · intro e he
      rcases List.mem_append.mp he with he | he
      · exact hgone e (hmem' e he)
      · exact hretry e he

end Group

section Run

variable {requestBlob : DeliverAction → String} {configs : List ScenarioConfig}
  {config : ScenarioConfig} {entries : List ScheduleEntry} {i : Nat} {name : String}

/-- No wait separates two members of the group. -/
def MembersTogether (config : ScenarioConfig) (name : String) : Prop :=
  ∀ a ∈ plannedActions 0 config.steps, ∀ b ∈ plannedActions 0 config.steps,
    a.1.concurrencyGroup = some name → b.1.concurrencyGroup = some name → a.2 = b.2

/-- No attempt planned in another scenario under this name falls on a member's start. -/
def NameAlone (plans : List ScenarioPlan) (i : Nat) (name : String) : Prop :=
  ∀ c s d c' s' d', DeliveryAt plans c s d → DeliveryAt plans c' s' d' → c.1 ≠ i → c'.1 = i →
    d.concurrencyGroup = some name → d'.concurrencyGroup = some name →
    ∀ t ∈ d.attemptPlan, t.notBeforeLogicalNs ≠ d'.logicalTimeNs

theorem groupApart_of_compiled {g : ContextGenerator}
    (hcomp : List.Forall₂ (CompiledScenario g requestBlob) configs plans)
    (hconfig : configs[i]? = some config) {n : Nat} (hd : DeliveryAt plans (i, n) s d)
    (hname : d.concurrencyGroup = some name) (htogether : MembersTogether config name)
    (halone : NameAlone plans i name) (hne : name ≠ "")
    (hnamed : ∀ text, name ≠ "ungrouped." ++ text) :
    GroupApart plans i name d.logicalTimeNs where
  together := by
    intro n' s' d' hd' hname' t ht
    obtain ⟨config₁, a, hc₁, ha, -, -, -, hca⟩ := compiledDelivery_get hcomp hd.1 hd.2
    obtain ⟨config₂, b, hc₂, hb, -, -, -, hcb⟩ := compiledDelivery_get hcomp hd'.1 hd'.2
    cases hconfig.symm.trans hc₁
    cases hconfig.symm.trans hc₂
    have hfirst := hcb.first_time
    rw [DeliveryPlan.times, List.getElem?_map, ht] at hfirst
    have htime : t.notBeforeLogicalNs = b.2 := Option.some.inj hfirst
    rw [htime, hca.time]
    exact htogether b (List.mem_of_getElem? hb) a (List.mem_of_getElem? ha) (hcb.group ▸ hname')
      (hca.group ▸ hname)
  alone := fun c s' d' hd' hc hname' => halone c s' d' (i, n) s d hd' hd hc rfl hname' hname
  nonempty := hne
  named := hnamed

theorem token_ne_empty {m : Nat} {text : String} (h : isToken m text = true) : text ≠ "" := by
  rintro rfl
  simp [isToken] at h

def pairMember : DeliverAction := ⟨"event", 1, some "pair", none, DeliverAction.one_copy⟩

/-- Two deliveries of one group, `waits` between their steps. -/
def pairScenario (id : String) (waits : List ScenarioStep) : ScenarioConfig :=
  ⟨id, [.deliver pairMember] ++ waits ++ [.deliver pairMember, .barrier "pair"]⟩

/-- Two deliveries of the group as they are compiled, the second one due at `due`. -/
def pairPlan (scenarioId id id' : String) (due : Int) : ScenarioPlan :=
  ⟨scenarioId, [singleAttempt (some "pair") id 0 0, singleAttempt (some "pair") id' due 1]⟩

def onlyPlan : ScenarioPlan :=
  pairPlan "scenario_2R5XXXEK7HEBEF95FZ88PG009G" "delivery_08BQTYTMZNGV7FDG225N0HRFK2"
    "delivery_08BQTYTMZNGV7FDGA25N0HRFK2" 0

def waitedPlan : ScenarioPlan :=
  pairPlan "scenario_2R5XXXEK7HEBEF95FZ88PG009G" "delivery_08BQTYTMZNGV7FDG225N0HRFK2"
    "delivery_08BQTYTMZNGV7FDGJ25N0HRFK2" 5

def firstPlan : ScenarioPlan :=
  pairPlan "scenario_1FFFBMSWBJVKT9BZT25M002C09" "delivery_2MY3SMWTC6SVTS2WHD84DGZ4Q2"
    "delivery_2MY3SMWTC6SVTS2WSD84DGZ4Q2" 0

def secondPlan : ScenarioPlan :=
  pairPlan "scenario_3VTX6F2WPWYJAZYGHD000K22FC" "delivery_7CWH567TPEYP846QA13C7684JD"
    "delivery_7CWH567TPEYP846QJ13C7684JD" 0

def onlyEntries : List ScheduleEntry :=
  [singleEntry onlyPlan.scenarioId 0 0 0
      "24b4763a7f2683ab27e1c5da76ffada0be4623aaa621a316e4e293ef2fd25e66"
      "attempt_plan_69HCXC1ESK25SSY8QSA8GZ6WYW",
    singleEntry onlyPlan.scenarioId 0 0 1
      "24b4763a7f2683ab27e1c5da85ffada0be4623aaa621a316e4e293ef2fd25e66"
      "attempt_plan_69HCXC1ESK25SSYCFSA8GZ6WYW"]

def waitedEntries : List ScheduleEntry :=
  [singleEntry waitedPlan.scenarioId 0 0 0
      "24b4763a7f2683ab27e1c5da76ffada0be4623aaa621a316e4e293ef2fd25e66"
      "attempt_plan_69HCXC1ESK25SSY8QSA8GZ6WYW",
    singleEntry waitedPlan.scenarioId 5 0 1
      "24b4763a7f2683ab27e1c5da8effada0be4623aaa621a316e4e293ef2fd25e66"
      "attempt_plan_69HCXC1ESK25SSYEQSA8GZ6WYW"]

def firstEntries : List ScheduleEntry :=
  [singleEntry firstPlan.scenarioId 0 0 0
      "442f0cf1717c50067d648c53dc18388722ef2b98ac21a284dab0d14afc295194"
      "attempt_plan_4GSXDM54XSDNM3EEAVZW40EWQ4",
    singleEntry firstPlan.scenarioId 0 0 1
      "442f0cf1717c50067d648c53e718388722ef2b98ac21a284dab0d14afc295194"
      "attempt_plan_4GSXDM54XSDNM3EH2VZW40EWQ4"]

def secondEntries : List ScheduleEntry :=
  [singleEntry secondPlan.scenarioId 0 1 0
      "85b323268ff942f0928bc9e4e8f427195b400998a533a3a4acec1862570a4577"
      "attempt_plan_3XSJDRXHSMC9DJ9DCEBGBFMRE2",
    singleEntry secondPlan.scenarioId 0 1 1
      "85b323268ff942f0928bc9e4f1f427195b400998a533a3a4acec1862570a4577"
      "attempt_plan_3XSJDRXHSMC9DJ9FMEBGBFMRE2"]

theorem plans_compiled :
    compileScenarios modularGenerator (fun _ => "blob") 0 [pairScenario "only" []] =
        .ok [onlyPlan] ∧
      compileScenarios modularGenerator (fun _ => "blob") 0
        [pairScenario "only" [.wait ⟨5, by decide⟩]] = .ok [waitedPlan] ∧
      compileScenarios modularGenerator (fun _ => "blob") 0
        [pairScenario "first" [], pairScenario "second" []] = .ok [firstPlan, secondPlan] := by
  refine ⟨?_, ?_, ?_⟩ <;> decide +kernel

theorem pairPlan_seeded {scenarioId id id' digest digest' planId planId' : String} {due : Int}
    {n : Nat} (hentry : initialEntryId modularSha256 scenarioId id = "initial." ++ digest)
    (hid : plannedId modularGenerator .attemptPlan [scenarioId, id, "1"] = .ok planId)
    (hentry' : initialEntryId modularSha256 scenarioId id' = "initial." ++ digest')
    (hid' : plannedId modularGenerator .attemptPlan [scenarioId, id', "1"] = .ok planId') :
    bootstrapScenario modularGenerator modularSha256 n (pairPlan scenarioId id id' due) =
      .ok [singleEntry scenarioId 0 n 0 digest planId,
        singleEntry scenarioId due n 1 digest' planId'] := by
  rw [bootstrapScenario, if_neg (by simp [pairPlan, singleAttempt, List.range_succ]),
    Checked.mapM_ok_iff]
  exact .cons (singleEntry_seeded hentry hid) (.cons (singleEntry_seeded hentry' hid') .nil)

-- Each digest is an evaluation of its own: one of a whole schedule holds all the texts at once.
theorem plans_seeded :
    bootstrapScenario modularGenerator modularSha256 0 onlyPlan = .ok onlyEntries ∧
      bootstrapScenario modularGenerator modularSha256 0 waitedPlan = .ok waitedEntries ∧
      bootstrapScenario modularGenerator modularSha256 0 firstPlan = .ok firstEntries ∧
      bootstrapScenario modularGenerator modularSha256 1 secondPlan = .ok secondEntries := by
  refine ⟨pairPlan_seeded ?_ ?_ ?_ ?_, pairPlan_seeded ?_ ?_ ?_ ?_, pairPlan_seeded ?_ ?_ ?_ ?_,
    pairPlan_seeded ?_ ?_ ?_ ?_⟩ <;> decide +kernel

theorem schedules_seeded :
    bootstrapSchedule modularGenerator modularSha256 [onlyPlan] = .ok onlyEntries ∧
      bootstrapSchedule modularGenerator modularSha256 [waitedPlan] = .ok waitedEntries ∧
      bootstrapSchedule modularGenerator modularSha256 [firstPlan, secondPlan] =
        .ok (firstEntries ++ secondEntries) := by
  obtain ⟨honly, hwaited, hfirst, hsecond⟩ := plans_seeded
  have hlater : bootstrapScenarios modularGenerator modularSha256 1 [secondPlan] =
      .ok secondEntries := Checked.bind_of hsecond rfl
  refine ⟨bootstrapSchedule_of ?_ (Checked.bind_of honly rfl) rfl ?_ ?_,
    bootstrapSchedule_of ?_ (Checked.bind_of hwaited rfl) rfl ?_ ?_,
    bootstrapSchedule_of ?_ (Checked.bind_of hfirst (Checked.bind_of hlater rfl)) rfl ?_ ?_⟩ <;>
    decide +kernel

/-- The members of a scenario with two deliveries, both in the group. -/
theorem memberIds_pair {s : ScenarioPlan} {d d' : DeliveryPlan} {n : Nat}
    {entries : List ScheduleEntry} (hs : s.deliveries = [d, d'])
    (hd : d.concurrencyGroup = some "pair") (hd' : d'.concurrencyGroup = some "pair")
    (h : bootstrapScenario modularGenerator modularSha256 n s = .ok entries) :
    memberIds modularSha256 s "pair" = entries.map ScheduleEntry.scheduleEntryId := by
  have hseeds := bootstrapScenario_ok h
  rw [hs] at hseeds
  cases hseeds with
  | cons hfirst hrest =>
    cases hrest with
    | cons hsecond hnil =>
      cases hnil
      simp [memberIds, hs, hd, hd', hfirst.2.id, hsecond.2.id]

/-- Some call has all the ids, and one of its releases has as many as there are. -/
def someWholeRelease (calls : List BarrierCall) (ids : List String) : Bool :=
  calls.any fun call => ids.all (· ∈ call.workIds) &&
    call.releases.any fun release => release.eligibleWorkIds.length = ids.length &&
      ids.all (· ∈ release.eligibleWorkIds)

theorem ReleasedOnce.whole {calls : List BarrierCall} {ids : List String}
    (h : ReleasedOnce calls name ids) : someWholeRelease calls ids = true := by
  obtain ⟨before, call, after, rfl, hin, -, earlier, release, later, hsplit, -, hperm, -⟩ := h
  simp only [someWholeRelease, List.any_eq_true, Bool.and_eq_true, List.all_eq_true,
    decide_eq_true_eq]
  refine ⟨call, by simp, hin, release, by simp [hsplit], hperm.length_eq, ?_⟩
  exact fun id hid => hperm.mem_iff.mpr hid

/-- The first scenario of a run uses the group but does not release it whole. -/
def releaseBroken : Except ScheduleError (List ScenarioPlan × LoopState) → Bool
  | .error _ => false
  | .ok (plans, final) => plans.head?.any fun s =>
    (s.deliveries.any fun d => d.concurrencyGroup = some "pair") &&
      !someWholeRelease final.calls (memberIds modularSha256 s "pair")

theorem not_released_of_broken {run : Except ScheduleError (List ScenarioPlan × LoopState)}
    (h : releaseBroken run = true) :
    ∃ plans final s, run = .ok (plans, final) ∧
      plans[0]? = some s ∧ (∃ d ∈ s.deliveries, d.concurrencyGroup = some "pair") ∧
      ¬ ReleasedOnce final.calls "pair" (memberIds modularSha256 s "pair") := by
  unfold releaseBroken at h
  split at h
  · cases h
  · rename_i plans final
    cases plans with
    | nil => simp at h
    | cons s plans =>
      simp only [List.head?_cons, Option.any_some, Bool.and_eq_true, List.any_eq_true,
        decide_eq_true_eq, Bool.not_eq_true'] at h
      refine ⟨_, final, s, rfl, rfl, h.1, ?_⟩
      intro hreleased
      rw [hreleased.whole] at h
      simp at h

theorem releaseBroken_of {configs : List ScenarioConfig} {s : ScenarioPlan}
    {plans : List ScenarioPlan} {entries : List ScheduleEntry} {ids : List String}
    (hcompile : compileScenarios modularGenerator (fun _ => "blob") 0 configs = .ok (s :: plans))
    (hboot : bootstrapSchedule modularGenerator modularSha256 (s :: plans) = .ok entries)
    (hused : (s.deliveries.any fun d => d.concurrencyGroup = some "pair") = true)
    (hids : memberIds modularSha256 s "pair" = ids)
    (hrun : (executeSchedules (respondingRun 200) (s :: plans) entries).toOption.any
      (fun final => !someWholeRelease final.calls ids) = true) :
    releaseBroken (executeProject (respondingRun 200) (fun _ => "blob") configs) = true := by
  rw [@executeProject_of (respondingRun 200) _ _ _ _ hcompile hboot]
  cases hfinal : executeSchedules (respondingRun 200) (s :: plans) entries with
  | error e =>
    rw [hfinal] at hrun
    cases hrun
  | ok final =>
    rw [hfinal, ← hids] at hrun
    exact Bool.and_eq_true_iff.2 ⟨hused, hrun⟩

end Run

end WebhookConformance
