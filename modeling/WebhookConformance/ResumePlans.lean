import WebhookConformance.ResumePolicy

/-! What every plan of the resume policy keeps: the pending schedule is split and nothing of it lost,
every unresolved attempt is decided once, and what waits for one of them does not run. -/
namespace WebhookConformance

open Checked

variable {context : PolicyContext} {bundle : BundleRecoveryPolicy}
  {invocation : ResumeInvocationPolicy} {snapshot : PersistedScheduleSnapshot}
  {drawn : List (Option String)} {plan : PolicyPlan}

section Pending

/-- Entries with ids of their own are all added. -/
theorem runAll_addItem {added entries queue : List ScheduleItem}
    (hunique : ((added ++ entries).map (·.scheduleEntryId)).Nodup)
    (h : runAll addItem added entries = .ok queue) : queue = added ++ entries := by
  induction entries generalizing added with
  | nil =>
    cases h
    rw [List.append_nil]
  | cons item entries ih =>
    obtain ⟨next, hnext, h⟩ := bind_ok h
    have hnone : added.find? (·.scheduleEntryId = item.scheduleEntryId) = none := by
      rw [List.find?_eq_none]
      intro other hother
      rw [List.map_append, List.nodup_append] at hunique
      simpa using hunique.2.2 _ (List.mem_map_of_mem hother) _
        (List.mem_map_of_mem List.mem_cons_self)
    rw [addItem, hnone] at hnext
    obtain ⟨_, -, hnext⟩ := bind_ok hnext
    cases pure_ok hnext
    rw [List.append_cons] at hunique ⊢
    exact ih hunique h

/-- The pending schedule is what is not consumed, in the order of the queue. -/
theorem pendingSchedule_ok {pending : List ScheduleItem} (h : pendingSchedule snapshot = .ok pending) :
    pending.Perm snapshot.open ∧ pending.Pairwise ScheduleItem.Le ∧
      (pending.map (·.scheduleEntryId)).Nodup := by
  obtain ⟨queue, hqueue, h⟩ := bind_ok h
  cases pure_ok h
  have hopen : (snapshot.open.map (·.scheduleEntryId)).Nodup :=
    snapshot.unique.sublist (List.filter_sublist.map _)
  have hsame := @runAll_addItem [] _ _ hopen (mapError_ok_iff.1 hqueue)
  rw [List.nil_append] at hsame
  subst hsame
  have hperm := List.perm_insertionSort ScheduleItem.Le snapshot.open
  exact ⟨hperm, List.pairwise_insertionSort _ _, (hperm.map _).nodup_iff.2 hopen⟩

end Pending

section Decisions

/-- One decision for each unresolved attempt, whatever it takes from the other list. -/
theorem decided_ids {β : Type} {f : AttemptRecoveryItem → β → RecoveryDecisionPlan}
    {items : List AttemptRecoveryItem} {bs : List β}
    (hf : ∀ item b, (f item b).attemptId = item.attemptId) (hlength : items.length = bs.length) :
    (List.zipWith f items bs).map (·.attemptId) = items.map (·.attemptId) := by
  induction items generalizing bs with
  | nil => rfl
  | cons item items ih =>
    cases bs with
    | nil => cases hlength
    | cons b bs =>
      rw [List.zipWith_cons_cons, List.map_cons, List.map_cons, hf, ih (Nat.succ.inj hlength)]

theorem stopPlan_decisions (requested : Option AmbiguityPolicy) (reason : String) :
    (stopPlan context requested reason).decisions.map (·.attemptId) =
      context.ambiguous.map (·.attemptId) := by
  simp [stopPlan, decisionFor]

theorem selectRules_length {ambiguous : List AttemptRecoveryItem}
    {rules : List ObservationReconciliationRule} (h : bundle.selectRules ambiguous = some rules) :
    ambiguous.length = rules.length := by
  induction ambiguous generalizing rules with
  | nil =>
    cases h
    rfl
  | cons item ambiguous ih =>
    rw [BundleRecoveryPolicy.selectRules, List.mapM_cons] at h
    obtain ⟨rule, -, h⟩ := Option.bind_eq_some_iff.1 h
    obtain ⟨later, hlater, h⟩ := Option.bind_eq_some_iff.1 h
    cases h
    rw [List.length_cons, List.length_cons, ih hlater]

theorem directives_length {ambiguous : List AttemptRecoveryItem}
    (h : invocation.Complete ambiguous) :
    ambiguous.length = (invocation.directives ambiguous).length := by
  refine (List.filterMap_length_eq_length.2 ?_).symm
  intro item hitem
  obtain ⟨d, hd, hid⟩ := List.mem_map.1 (h.2 item hitem)
  rw [List.find?_isSome]
  exact ⟨d, hd, decide_eq_true hid⟩

end Decisions

section Redeliveries

theorem redeliverAll_ok {attemptIds scheduleIds : List String} {items : List AttemptRecoveryItem}
    {redeliveries : List RedeliveryAttemptPlan}
    (h : redeliverAll bundle drawn attemptIds scheduleIds items = .ok redeliveries) :
    List.Forall₂ (fun item r => ∃ t ∈ bundle.templateFor item,
        redeliveryFrom item t.toRedeliveryTemplate r.attemptId = .ok r) items redeliveries ∧
      (∀ r ∈ redeliveries, r.attemptId ∉ attemptIds ∧ r.schedule.scheduleEntryId ∉ scheduleIds) ∧
      (redeliveries.map (·.attemptId)).Nodup ∧
      (redeliveries.map (·.schedule.scheduleEntryId)).Nodup := by
  induction items generalizing drawn attemptIds scheduleIds redeliveries with
  | nil =>
    cases h
    exact ⟨.nil, by simp, List.nodup_nil, List.nodup_nil⟩
  | cons item items ih =>
    unfold redeliverAll at h
    split at h
    · cases h
    next template htemplate =>
    obtain ⟨attemptId, hdrawn, h⟩ := bind_ok h
    obtain ⟨r, hr, h⟩ := bind_ok h
    obtain ⟨_, hschedule, h⟩ := bind_ok h
    obtain ⟨later, hlater, h⟩ := bind_ok h
    cases pure_ok h
    have hfresh : attemptId ∉ attemptIds := by
      unfold freshRedeliveryId at hdrawn
      split at hdrawn
      · cases hdrawn
      · obtain ⟨_, hnew, hdrawn⟩ := bind_ok hdrawn
        cases pure_ok hdrawn
        exact require_ok hnew
    obtain rfl : r.attemptId = attemptId := (redeliveryFrom_identity hr).1
    obtain ⟨hmapped, hnew, hids, hentries⟩ := ih hlater
    refine ⟨.cons ⟨template, htemplate, hr⟩ hmapped, ?_, ?_, ?_⟩
    · intro other hother
      obtain rfl | hother := List.mem_cons.1 hother
      · exact ⟨hfresh, require_ok hschedule⟩
      · obtain ⟨hattempt, hentry⟩ := hnew other hother
        exact ⟨fun hmem => hattempt (List.mem_cons_of_mem _ hmem),
          fun hmem => hentry (List.mem_cons_of_mem _ hmem)⟩
    · rw [List.map_cons, List.nodup_cons]
      refine ⟨?_, hids⟩
      intro hmem
      obtain ⟨other, hother, hid⟩ := List.mem_map.1 hmem
      exact (hnew other hother).1 (hid ▸ List.mem_cons_self)
    · rw [List.map_cons, List.nodup_cons]
      refine ⟨?_, hentries⟩
      intro hmem
      obtain ⟨other, hother, hid⟩ := List.mem_map.1 hmem
      exact (hnew other hother).2 (hid ▸ List.mem_cons_self)

/-- Where nothing blocks the redelivery, every attempt has its own template. -/
theorem authorized_of_unblocked {ambiguous : List AttemptRecoveryItem}
    (h : redeliveryBlockReason bundle ambiguous = none) {item : AttemptRecoveryItem}
    (hitem : item ∈ ambiguous) : ∃ t ∈ bundle.templateFor item, t.Authorizes item := by
  unfold redeliveryBlockReason at h
  split at h
  · cases h
  have hreason := List.findSome?_eq_none_iff.1 h item hitem
  unfold itemBlockReason at hreason
  split at hreason
  · cases hreason
  split at hreason
  · cases hreason
  next t ht =>
  split at hreason
  · next hauthorizes => exact ⟨t, ht, hauthorizes⟩
  · cases hreason

end Redeliveries

section Cases

/-- How a plan treats the pending schedule: it holds all of it, it runs all of it where nothing is
unresolved, or it runs what waits for no unresolved attempt, with the redeliveries if there are any. -/
inductive Arranged (context : PolicyContext) (bundle : BundleRecoveryPolicy)
    (invocation : ResumeInvocationPolicy) (snapshot : PersistedScheduleSnapshot)
    (drawn : List (Option String)) (plan : PolicyPlan) : Prop where
  | held (disposition : plan.disposition ≠ .continueRun) (runnable : plan.runnableSchedule = [])
      (deferred : plan.deferredSchedule = context.pending) (redeliveries : plan.redeliveries = [])
  | whole (clear : context.ambiguous = []) (active : invocation.cancelRequested = false)
      (disposition : plan.disposition = .continueRun)
      (runnable : plan.runnableSchedule = context.pending) (deferred : plan.deferredSchedule = [])
      (redeliveries : plan.redeliveries = [])
  | linked (policy : invocation.onAmbiguous = some .operatorDecision)
      (active : invocation.cancelRequested = false) (disposition : plan.disposition = .continueRun)
      (decided : ∀ d ∈ invocation.operatorDecisions, d.verdict ≠ .stillUnknown)
      (runnable : plan.runnableSchedule = (partitionLinkedSchedule context).1)
      (deferred : plan.deferredSchedule = (partitionLinkedSchedule context).2)
      (redeliveries : plan.redeliveries = [])
  | redelivered (policy : invocation.onAmbiguous = some .redeliver)
      (active : invocation.cancelRequested = false) (disposition : plan.disposition = .continueRun)
      (unblocked : redeliveryBlockReason bundle context.ambiguous = none)
      (redeliveries : redeliverAll bundle drawn (context.recovery.attempts.map (·.attemptId))
        (snapshot.entries.map (·.scheduleEntryId) ++ snapshot.consumedEntryIds) context.ambiguous =
          .ok plan.redeliveries)
      (runnable : plan.runnableSchedule = ((partitionLinkedSchedule context).1 ++
        plan.redeliveries.map (·.schedule.item)).insertionSort ScheduleItem.Le)
      (deferred : plan.deferredSchedule = (partitionLinkedSchedule context).2)

theorem checked_ok {checked : PolicyPlan} (h : plan.checked = .ok checked) : plan = checked := by
  unfold PolicyPlan.checked at h
  iterate 11 obtain ⟨_, -, h⟩ := bind_ok h
  exact pure_ok h

/-- The plan is arranged, and its decisions are for the unresolved attempts in their order. -/
def Decides (context : PolicyContext) (bundle : BundleRecoveryPolicy)
    (invocation : ResumeInvocationPolicy) (snapshot : PersistedScheduleSnapshot)
    (drawn : List (Option String)) (plan : PolicyPlan) : Prop :=
  Arranged context bundle invocation snapshot drawn plan ∧
    plan.decisions.map (·.attemptId) = context.ambiguous.map (·.attemptId)

theorem decides_stop (requested : Option AmbiguityPolicy) (reason : String) :
    Decides context bundle invocation snapshot drawn (stopPlan context requested reason) :=
  ⟨.held (show ResumeDisposition.stopAmbiguous ≠ .continueRun by decide) rfl rfl rfl,
    stopPlan_decisions requested reason⟩

theorem decides_observe :
    Decides context bundle invocation snapshot drawn (observePlan context bundle) := by
  unfold observePlan
  split
  · exact decides_stop _ _
  · next rules hrules =>
    refine ⟨.held (show ResumeDisposition.awaitObservation ≠ .continueRun by decide) rfl rfl rfl, ?_⟩
    exact decided_ids (by intros; rfl) (selectRules_length hrules)

/-- A directive of a complete set is among those selected. -/
theorem mem_directives {ambiguous : List AttemptRecoveryItem} (h : invocation.Complete ambiguous)
    {d : OperatorDecisionDirective} (hd : d ∈ invocation.operatorDecisions) :
    d ∈ invocation.directives ambiguous := by
  obtain ⟨item, hitem, hid⟩ := List.mem_map.1 (h.1 d hd)
  refine List.mem_filterMap.2 ⟨item, hitem, ?_⟩
  exact (Table.find_eq_some (t := ⟨_, invocation.decisions_unique⟩)).2 ⟨hd, hid.symm⟩

theorem decides_operator (hpolicy : invocation.onAmbiguous = some .operatorDecision)
    (hactive : invocation.cancelRequested = false) :
    Decides context bundle invocation snapshot drawn (operatorPlan context invocation) := by
  unfold operatorPlan
  dsimp only
  split
  · exact decides_stop _ _
  next hcomplete =>
  rw [not_not] at hcomplete
  split
  · exact decides_stop _ _
  unfold decidedPlan
  have hids : (List.zipWith (operatorDecisionFor context) context.ambiguous
      (invocation.directives context.ambiguous)).map (·.attemptId) =
      context.ambiguous.map (·.attemptId) :=
    decided_ids (by intros; rfl) (directives_length hcomplete)
  dsimp only
  split
  · exact ⟨.held (show ResumeDisposition.stopAmbiguous ≠ .continueRun by decide) rfl rfl rfl, hids⟩
  · next hdecided =>
    refine ⟨.linked hpolicy hactive rfl ?_ rfl rfl rfl, hids⟩
    intro d hd hunknown
    exact hdecided ⟨d, mem_directives hcomplete hd, hunknown⟩

theorem decides_redelivery (hpolicy : invocation.onAmbiguous = some .redeliver)
    (hactive : invocation.cancelRequested = false)
    (h : redeliveryPlan context bundle snapshot drawn = .ok plan) :
    Decides context bundle invocation snapshot drawn plan := by
  unfold redeliveryPlan at h
  split at h
  · cases h
    exact decides_stop _ _
  next hunblocked =>
  obtain ⟨redeliveries, hredeliveries, h⟩ := bind_ok h
  obtain ⟨_, -, h⟩ := bind_ok h
  cases pure_ok h
  refine ⟨.redelivered hpolicy hactive rfl hunblocked hredeliveries rfl rfl, ?_⟩
  exact decided_ids (by intros; rfl) (redeliverAll_ok hredeliveries).1.length_eq

theorem choosePlan_decides (h : choosePlan context bundle invocation snapshot drawn = .ok plan) :
    Decides context bundle invocation snapshot drawn plan := by
  unfold choosePlan at h
  split at h
  · split at h
    · next hclear =>
      cases h
      exact ⟨.held (show ResumeDisposition.cancelled ≠ .continueRun by decide) rfl rfl rfl,
        by rw [hclear]; rfl⟩
    · cases h
      exact decides_stop _ _
  next hactive =>
  rw [Bool.not_eq_true] at hactive
  split at h
  · next hclear =>
    cases h
    exact ⟨.whole hclear hactive rfl rfl rfl rfl, by rw [hclear]; rfl⟩
  unfold policyPlan at h
  split at h
  · cases h
    exact decides_stop _ _
  · cases h
    exact decides_stop _ _
  · cases h
    exact decides_observe
  · next hpolicy =>
    cases h
    exact decides_operator hpolicy hactive
  · next hpolicy => exact decides_redelivery hpolicy hactive h

end Cases

section Schedule

/-- The runnable schedule without the redelivery items. -/
def PolicyPlan.ownSchedule (plan : PolicyPlan) : List ScheduleItem :=
  plan.runnableSchedule.filter (· ∉ plan.redeliveries.map (·.schedule.item))

theorem ownSchedule_of_none (h : plan.redeliveries = []) : plan.ownSchedule = plan.runnableSchedule := by
  rw [PolicyPlan.ownSchedule, h]
  exact List.filter_eq_self.2 (by simp)

/-- What the redeliveries are merged into comes out again. -/
theorem filter_merged {own added : List ScheduleItem} (h : ∀ e ∈ own, e ∉ added) :
    (((own ++ added).insertionSort ScheduleItem.Le).filter (· ∉ added)).Perm own := by
  refine ((List.perm_insertionSort ScheduleItem.Le (own ++ added)).filter _).trans (.of_eq ?_)
  rw [List.filter_append, List.filter_eq_self.2 (by simpa using h), List.filter_eq_nil_iff.2 (by simp),
    List.append_nil]

theorem partition_perm (context : PolicyContext) :
    ((partitionLinkedSchedule context).1 ++ (partitionLinkedSchedule context).2).Perm
      context.pending := by
  rw [partitionLinkedSchedule, List.partition_eq_filter_filter]
  exact List.filter_append_perm _ _

/-- The items of the plan's redeliveries are not of the snapshot. -/
theorem redelivered_apart {items : List AttemptRecoveryItem} {attemptIds : List String}
    {redeliveries : List RedeliveryAttemptPlan}
    (h : redeliverAll bundle drawn attemptIds
      (snapshot.entries.map (·.scheduleEntryId) ++ snapshot.consumedEntryIds) items =
        .ok redeliveries) {e : ScheduleItem} (he : e ∈ snapshot.open) :
    e ∉ redeliveries.map (·.schedule.item) := by
  intro hmem
  obtain ⟨r, hr, rfl⟩ := List.mem_map.1 hmem
  refine ((redeliverAll_ok h).2.1 r hr).2 (List.mem_append_left _ ?_)
  exact List.mem_map_of_mem (f := ScheduleItem.scheduleEntryId) (List.mem_filter.1 he).1

/-- The pending schedule is split, and both parts keep its order. -/
theorem Arranged.schedule (h : Arranged context bundle invocation snapshot drawn plan)
    (hopen : context.pending.Perm snapshot.open) (hsorted : context.pending.Pairwise ScheduleItem.Le) :
    (plan.ownSchedule ++ plan.deferredSchedule).Perm snapshot.open ∧
      plan.ownSchedule.Pairwise ScheduleItem.Le ∧ plan.deferredSchedule.Pairwise ScheduleItem.Le ∧
      plan.runnableSchedule.Pairwise ScheduleItem.Le := by
  have hparts : (partitionLinkedSchedule context).1.Pairwise ScheduleItem.Le ∧
      (partitionLinkedSchedule context).2.Pairwise ScheduleItem.Le := by
    rw [partitionLinkedSchedule, List.partition_eq_filter_filter]
    exact ⟨hsorted.sublist List.filter_sublist, hsorted.sublist List.filter_sublist⟩
  cases h with
  | held _ hrunnable hdeferred hnone =>
    rw [ownSchedule_of_none hnone, hrunnable, hdeferred]
    exact ⟨hopen, .nil, hsorted, .nil⟩
  | whole _ _ _ hrunnable hdeferred hnone =>
    rw [ownSchedule_of_none hnone, hrunnable, hdeferred, List.append_nil]
    exact ⟨hopen, hsorted, .nil, hsorted⟩
  | linked _ _ _ _ hrunnable hdeferred hnone =>
    rw [ownSchedule_of_none hnone, hrunnable, hdeferred]
    exact ⟨(partition_perm context).trans hopen, hparts.1, hparts.2, hparts.1⟩
  | redelivered _ _ _ _ hall hrunnable hdeferred =>
    have hapart : ∀ e ∈ (partitionLinkedSchedule context).1,
        e ∉ plan.redeliveries.map (·.schedule.item) := by
      intro e he
      refine redelivered_apart hall (hopen.mem_iff.1 ?_)
      rw [partitionLinkedSchedule, List.partition_eq_filter_filter] at he
      exact (List.mem_filter.1 he).1
    have hmerged : plan.runnableSchedule.Pairwise ScheduleItem.Le := by
      rw [hrunnable]
      exact List.pairwise_insertionSort _ _
    refine ⟨?_, hmerged.sublist List.filter_sublist, hdeferred ▸ hparts.2, hmerged⟩
    rw [PolicyPlan.ownSchedule, hrunnable, hdeferred]
    exact ((filter_merged hapart).append_right _).trans ((partition_perm context).trans hopen)

/-- Nothing pending that belongs to the delivery of an unresolved attempt is run. -/
theorem Arranged.unlinked (h : Arranged context bundle invocation snapshot drawn plan) {item : AttemptRecoveryItem}
    (hitem : item ∈ context.ambiguous) {e : ScheduleItem} (he : e ∈ snapshot.open)
    (hscope : e.scope = item.scope) : e ∉ plan.runnableSchedule := by
  have hpart : e ∉ (partitionLinkedSchedule context).1 := by
    rw [partitionLinkedSchedule, List.partition_eq_filter_filter]
    intro hmem
    have hfree := of_decide_eq_true (List.mem_filter.1 hmem).2
    rw [hscope] at hfree
    exact hfree (List.mem_map_of_mem hitem)
  cases h with
  | held _ hrunnable =>
    rw [hrunnable]
    exact List.not_mem_nil
  | whole hclear =>
    rw [hclear] at hitem
    cases hitem
  | linked _ _ _ _ hrunnable =>
    rw [hrunnable]
    exact hpart
  | redelivered _ _ _ _ hall hrunnable =>
    rw [hrunnable, (List.perm_insertionSort _ _).mem_iff, List.mem_append, not_or]
    exact ⟨hpart, redelivered_apart hall he⟩

end Schedule

section Law

/-- `r` sends the unresolved attempt `item` again, as its own template says and under new ids. -/
structure Redelivers (recovery : RecoveryPlan) (bundle : BundleRecoveryPolicy)
    (snapshot : PersistedScheduleSnapshot) (item : AttemptRecoveryItem) (r : RedeliveryAttemptPlan) :
    Prop where
  template : ∃ t ∈ bundle.redeliveryTemplates, t.Authorizes item ∧ r.attemptPlanId = t.attemptPlanId
  predecessor : r.predecessorAttemptId = item.attemptId
  ordinal : r.attemptOrdinal = item.attemptOrdinal + 1
  fresh_attempt : r.attemptId ∉ recovery.attempts.map (·.attemptId)
  fresh_schedule : r.schedule.scheduleEntryId ∉ snapshot.entries.map (·.scheduleEntryId)

/-- What a resume plan keeps. -/
structure ResumeLaw (recovery : RecoveryPlan) (bundle : BundleRecoveryPolicy)
    (invocation : ResumeInvocationPolicy) (snapshot : PersistedScheduleSnapshot)
    (plan : PolicyPlan) : Prop where
  complete : (plan.ownSchedule ++ plan.deferredSchedule).Perm snapshot.open
  disjoint : ∀ e ∈ plan.ownSchedule, e ∉ plan.deferredSchedule
  ordered : plan.ownSchedule.Pairwise ScheduleItem.Le ∧ plan.deferredSchedule.Pairwise ScheduleItem.Le ∧
    plan.runnableSchedule.Pairwise ScheduleItem.Le
  undecided : invocation.cancelRequested = true → recovery.unresolvedAmbiguousAttempts = [] →
    plan.decisions = []
  decided : ∀ item ∈ recovery.unresolvedAmbiguousAttempts,
    plan.decisions.countP (·.attemptId = item.attemptId) = 1
  unlinked : ∀ item ∈ recovery.unresolvedAmbiguousAttempts, ∀ e ∈ snapshot.open,
    e.scope = item.scope → e ∉ plan.runnableSchedule
  redelivered : plan.redeliveries ≠ [] →
    invocation.onAmbiguous = some .redeliver ∧ invocation.cancelRequested = false ∧
      List.Forall₂ (Redelivers recovery bundle snapshot) recovery.unresolvedAmbiguousAttempts
        plan.redeliveries ∧
      (plan.redeliveries.map (·.attemptId)).Nodup ∧
      (plan.redeliveries.map (·.schedule.scheduleEntryId)).Nodup
  cancelled : invocation.cancelRequested = true → plan.runnableSchedule = []
  stopped : recovery.unresolvedAmbiguousAttempts ≠ [] →
    invocation.onAmbiguous ∈ [none, some .stop, some .observe] → plan.runnableSchedule = []
  unknown : recovery.unresolvedAmbiguousAttempts ≠ [] →
    (∃ d ∈ invocation.operatorDecisions, d.verdict = .stillUnknown) → plan.runnableSchedule = []
  held : plan.disposition ≠ .continueRun → plan.runnableSchedule = []

theorem Arranged.redelivers {recovery : RecoveryPlan} {pending : List ScheduleItem}
    {timestamp : TransitionTimestamp}
    (h : Arranged ⟨recovery, recovery.unresolvedAmbiguousAttempts, pending, timestamp⟩ bundle
      invocation snapshot drawn plan) (hsome : plan.redeliveries ≠ []) :
    invocation.onAmbiguous = some .redeliver ∧ invocation.cancelRequested = false ∧
      List.Forall₂ (Redelivers recovery bundle snapshot) recovery.unresolvedAmbiguousAttempts
        plan.redeliveries ∧
      (plan.redeliveries.map (·.attemptId)).Nodup ∧
      (plan.redeliveries.map (·.schedule.scheduleEntryId)).Nodup := by
  cases h with
  | held _ _ _ hnone => exact absurd hnone hsome
  | whole _ _ _ _ _ hnone => exact absurd hnone hsome
  | linked _ _ _ _ _ _ hnone => exact absurd hnone hsome
  | redelivered hpolicy hactive _ hunblocked hall _ _ =>
    obtain ⟨hmapped, hnew, hids, hentries⟩ := redeliverAll_ok hall
    refine ⟨hpolicy, hactive, ?_, hids, hentries⟩
    have hfacts : List.Forall₂ (fun item r => (∃ t ∈ bundle.templateFor item,
        redeliveryFrom item t.toRedeliveryTemplate r.attemptId = .ok r) ∧ r ∈ plan.redeliveries)
        recovery.unresolvedAmbiguousAttempts plan.redeliveries :=
      (forall₂_imp_mem hmapped.flip fun r item hr h => ⟨h, hr⟩).flip
    refine forall₂_imp_mem hfacts ?_
    rintro item r hitem ⟨⟨t, ht, hfrom⟩, hr⟩
    obtain ⟨t', ht', hauthorizes⟩ := authorized_of_unblocked hunblocked hitem
    rw [Option.mem_def.1 ht] at ht'
    cases ht'
    obtain ⟨-, hordinal, hplan⟩ := redeliveryFrom_identity hfrom
    obtain ⟨hattempt, hentry⟩ := hnew r hr
    exact ⟨⟨t, List.mem_of_find?_eq_some ht, hauthorizes, hplan⟩, (redeliveryFrom_place hfrom).1,
      hordinal, hattempt, fun hmem => hentry (List.mem_append_left _ hmem)⟩

theorem Arranged.runnable_nil (h : Arranged context bundle invocation snapshot drawn plan)
    (hheld : invocation.cancelRequested = true ∨ plan.disposition ≠ .continueRun ∨
      context.ambiguous ≠ [] ∧ (invocation.onAmbiguous ∈ [none, some .stop, some .observe] ∨
        ∃ d ∈ invocation.operatorDecisions, d.verdict = .stillUnknown)) :
    plan.runnableSchedule = [] := by
  cases h with
  | held _ hrunnable => exact hrunnable
  | whole hclear hactive hcontinues =>
    obtain hcancel | hstop | ⟨hsome, -⟩ := hheld
    · rw [hactive] at hcancel
      cases hcancel
    · exact absurd hcontinues hstop
    · exact absurd hclear hsome
  | linked hpolicy hactive hcontinues hdecided =>
    obtain hcancel | hstop | ⟨-, hlisted | ⟨d, hd, hunknown⟩⟩ := hheld
    · rw [hactive] at hcancel
      cases hcancel
    · exact absurd hcontinues hstop
    · rw [hpolicy] at hlisted
      exact absurd hlisted (by decide)
    · exact absurd hunknown (hdecided d hd)
  | redelivered hpolicy hactive hcontinues =>
    obtain hcancel | hstop | ⟨-, hlisted | ⟨d, hd, -⟩⟩ := hheld
    · rw [hactive] at hcancel
      cases hcancel
    · exact absurd hcontinues hstop
    · rw [hpolicy] at hlisted
      exact absurd hlisted (by decide)
    · -- directives are accepted only with the policy that reads them
      have hexpected := invocation.decisions_expected (List.ne_nil_of_mem hd)
      rw [hpolicy] at hexpected
      cases hexpected

/-- A list of decisions over the unresolved attempts has one for each of them. -/
theorem decided_once {recovery : RecoveryPlan} {decisions : List RecoveryDecisionPlan}
    (h : decisions.map (·.attemptId) = recovery.unresolvedAmbiguousAttempts.map (·.attemptId))
    {item : AttemptRecoveryItem} (hitem : item ∈ recovery.unresolvedAmbiguousAttempts) :
    decisions.countP (·.attemptId = item.attemptId) = 1 := by
  have hunique : (recovery.unresolvedAmbiguousAttempts.map (·.attemptId)).Nodup :=
    recovery.unique.1.sublist (List.filter_sublist.map _)
  have hcount : decisions.countP (·.attemptId = item.attemptId) =
      (decisions.map (·.attemptId)).count item.attemptId := by
    rw [List.count, List.countP_map]
    refine List.countP_congr ?_
    intro d _
    simp
  rw [hcount, h]
  exact List.count_eq_one_of_mem hunique (List.mem_map_of_mem hitem)

end Law

section Samples

/-- The one attempt of its delivery, with an unknown outcome. -/
def lostItem : AttemptRecoveryItem where
  scenarioId := "scenario"
  eventId := "event"
  deliveryId := "delivery"
  attemptId := "attempt"
  scenarioOrdinal := 0
  stepOrdinal := 0
  deliveryOrdinal := 0
  attemptOrdinal := 1
  priorState := .unknownOutcome
  durableNoSendProof := .none
  action := .preserveUnknownOutcome
  ambiguity := .possibleReceiverEffect
  targetState := none
  predecessorAttemptId := none
  responseStaging := none

def recoveryOf (attempts : List AttemptRecoveryItem)
    (unique : (attempts.map (·.attemptId)).Nodup)
    (predecessors : validatePredecessors attempts [] attempts = .ok ())
    (sorted : attempts.Pairwise AttemptRecoveryItem.Le) : RecoveryPlan :=
  ⟨1, .paused, attempts, [], ⟨unique, List.nodup_nil⟩, predecessors, sorted, .nil⟩

def lostRecovery : RecoveryPlan := recoveryOf [lostItem] (by decide) rfl (by decide)

def clearRecovery : RecoveryPlan := recoveryOf [] (by decide) rfl (by decide)

/-- One entry of the lost attempt's delivery, and one of another. -/
def twoEntries : PersistedScheduleSnapshot where
  entries := [⟨"linked", "plan", 5, 0, 0, 0, 2, "a"⟩, ⟨"free", "other", 7, 0, 1, 1, 1, "b"⟩]
  consumedEntryIds := []
  bounded := by decide
  unique := by decide
  consumed_known := by decide

def redeliveringBundle : BundleRecoveryPolicy where
  redeliveryTemplates := [⟨⟨"plan", 6, "template"⟩, "scenario", "event", "delivery"⟩]
  observationRules := []
  bounded := by decide
  templates_unique := by decide
  rules_unique := by decide

def invoking (policy : AmbiguityPolicy) : ResumeInvocationPolicy where
  onAmbiguous := some policy
  noninteractive := true
  cancelRequested := false
  operatorDecisions := []
  bounded := by decide
  decisions_expected := by simp
  decisions_unique := by simp

end Samples

end WebhookConformance
