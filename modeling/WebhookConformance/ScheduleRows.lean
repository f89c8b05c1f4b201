import WebhookConformance.AttemptRows
import WebhookConformance.Bootstrap

/-! What a run keeps of the planned rows and of the schedule. -/
namespace WebhookConformance

open Checked Relation

variable {j j' : Journal} {op : TransitionOperation} {id : String}

section Planned

/-- A delivery but for its state. -/
def DeliveryRow.planned (d : DeliveryRow) : DeliveryRow := { d with state := .pending }

theorem updateProjection_scenarios (j : Journal) (c : TransitionCommand) (id : String) :
    ((updateProjection j c).scenarios.find id).map ScenarioRow.ordinal =
      (j.scenarios.find id).map ScenarioRow.ordinal := by
  unfold updateProjection
  split
  · rfl
  · cases c.newState <;> cases c.attemptOutcome <;> try rfl
    all_goals exact Table.map_find_modify (by intro; rfl) (by intro; rfl)

theorem updateProjection_deliveries (j : Journal) (c : TransitionCommand) (id : String) :
    ((updateProjection j c).deliveries.find id).map DeliveryRow.planned =
      (j.deliveries.find id).map DeliveryRow.planned := by
  unfold updateProjection
  split
  · rfl
  · cases c.newState <;> cases c.attemptOutcome <;> try rfl
    all_goals exact Table.map_find_modify (by intro; rfl) (by intro; rfl)

theorem step_planned (h : j.Step j') (id : String) :
    (j'.scenarios.find id).map ScenarioRow.ordinal = (j.scenarios.find id).map ScenarioRow.ordinal ∧
      (j'.deliveries.find id).map DeliveryRow.planned =
        (j.deliveries.find id).map DeliveryRow.planned := by
  cases h with
  | commit ha hw =>
    rw [hw.scenarios, hw.deliveries]
    exact ⟨updateProjection_scenarios _ _ _, updateProjection_deliveries _ _ _⟩
  | _ => exact ⟨rfl, rfl⟩

theorem evolves_planned (h : ReflTransGen Journal.Evolves j j') (id : String) :
    (j'.scenarios.find id).map ScenarioRow.ordinal = (j.scenarios.find id).map ScenarioRow.ordinal ∧
      (j'.deliveries.find id).map DeliveryRow.planned =
        (j.deliveries.find id).map DeliveryRow.planned := by
  refine evolves_invariant (P := fun u =>
    (u.scenarios.find id).map ScenarioRow.ordinal = (j.scenarios.find id).map ScenarioRow.ordinal ∧
      (u.deliveries.find id).map DeliveryRow.planned =
        (j.deliveries.find id).map DeliveryRow.planned) ?_ (fun _ hu => hu) h ⟨rfl, rfl⟩
  rintro u v ⟨hscenarios, hdeliveries⟩ hstep
  obtain ⟨hscenarios', hdeliveries'⟩ := step_planned hstep id
  exact ⟨hscenarios'.trans hscenarios, hdeliveries'.trans hdeliveries⟩

theorem map_planned {β : Type} {g : DeliveryRow → β} (hg : ∀ d, g d.planned = g d) :
    (j.deliveries.find id).map g = ((j.deliveries.find id).map DeliveryRow.planned).map g := by
  rw [Option.map_map]
  exact congrArg (Option.map · _) (funext fun d => (hg d).symm)

/-- Whether an entry comes right after an attempt is a matter of columns that stay. -/
theorem ScheduleRow.After.congr {entry entry' : ScheduleRow} {row row' : AttemptRow}
    (h : entry.After j row)
    (hscenarios : (j'.scenarios.find row.scenarioId).map ScenarioRow.ordinal =
      (j.scenarios.find row.scenarioId).map ScenarioRow.ordinal)
    (hdeliveries : (j'.deliveries.find row.deliveryId).map DeliveryRow.planned =
      (j.deliveries.find row.deliveryId).map DeliveryRow.planned)
    (hentry : { entry' with consumed := none } = { entry with consumed := none })
    (hrow : row'.fixed = row.fixed) : entry'.After j' row' := by
  obtain ⟨hscenario, htype, hscenarioOrdinal, hdelivery, hordinal⟩ := h
  have hs : row'.scenarioId = row.scenarioId := congrArg AttemptIdentity.scenarioId hrow
  have hd : row'.deliveryId = row.deliveryId := congrArg AttemptIdentity.deliveryId hrow
  have ho : row'.ordinal = row.ordinal := congrArg AttemptIdentity.ordinal hrow
  obtain ⟨-, e1, e2, -, -, e3, e4, e5, e6, -⟩ := ScheduleRow.mk.inj hentry
  unfold ScheduleRow.After
  rw [hs, hd, ho, e1, e2, e3, e4, e5, e6, hscenarios, map_planned (fun _ => rfl), hdeliveries,
    ← map_planned (fun _ => rfl)]
  exact ⟨hscenario, htype, hscenarioOrdinal, hdelivery, hordinal⟩

end Planned

section Schedule

theorem step_entry {entry : ScheduleRow} (h : j.Step j')
    (hentry : j.schedule.find id = some entry) :
    ∃ new, j'.schedule.find id = some new ∧
      ({ new with consumed := none } : ScheduleRow) = { entry with consumed := none } ∧
      (new.consumed = entry.consumed ∨ entry.consumed = none ∨
        ∃ consumedAt, new.consumed = some (consumedAt, j.run.ownerEpoch)) := by
  have hsame : ∀ {u : Journal}, u.schedule = j.schedule → ∃ new, u.schedule.find id = some new ∧
      ({ new with consumed := none } : ScheduleRow) = { entry with consumed := none } ∧
      (new.consumed = entry.consumed ∨ entry.consumed = none ∨
        ∃ consumedAt, new.consumed = some (consumedAt, j.run.ownerEpoch)) := by
    intro u hu
    rw [hu]
    exact ⟨entry, hentry, rfl, Or.inl rfl⟩
  cases h with
  | @commit op _ ha hw =>
    have hschedule := hw.schedule
    cases hretry : op.command.retrySchedule with
    | none =>
      rw [hretry] at hschedule
      exact hsame (Option.some.inj hschedule).symm
    | some r =>
      rw [hretry] at hschedule
      exact ⟨entry, Table.find_insert_of_some hschedule hentry, rfl, Or.inl rfl⟩
  | @consume claim found _ hfound hpending =>
    by_cases hid : id = claim.scheduleEntryId
    · refine ⟨{ entry with
          consumed := some (claim.transition.timestamp.wallTime, claim.transition.ownerEpoch) },
        (Table.find_modify (by intro; rfl)).trans ((if_pos hid).trans ?_), rfl, ?_⟩
      · rw [← hid, hentry]
        rfl
      · rw [hid, hfound] at hentry
        cases hentry
        exact Or.inr (Or.inl hpending)
    · exact ⟨entry, (Table.find_modify (by intro; rfl)).trans ((if_neg hid).trans hentry), rfl,
        Or.inl rfl⟩
  | @rebindSchedule rebound consumedAt _ hfound _ =>
    by_cases hid : id = rebound.scheduleEntryId
    · refine ⟨{ entry with consumed := some (consumedAt, j.run.ownerEpoch) },
        (Table.find_modify (by intro; rfl)).trans ((if_pos hid).trans ?_), rfl,
        Or.inr (Or.inr ⟨consumedAt, rfl⟩)⟩
      rw [← hid, hentry]
      rfl
    · exact ⟨entry, (Table.find_modify (by intro; rfl)).trans ((if_neg hid).trans hentry), rfl,
        Or.inl rfl⟩
  | redeliver _ _ _ _ hinsert =>
    exact ⟨entry, Table.find_insert_of_some hinsert hentry, rfl, Or.inl rfl⟩
  | _ => exact hsame rfl

/-- An entry stays in the schedule as it was planned. -/
theorem evolves_entry {entry : ScheduleRow} (h : ReflTransGen Journal.Evolves j j')
    (hentry : j.schedule.find id = some entry) :
    ∃ new, j'.schedule.find id = some new ∧
      ({ new with consumed := none } : ScheduleRow) = { entry with consumed := none } := by
  refine evolves_invariant (P := fun u => ∃ new, u.schedule.find id = some new ∧
    ({ new with consumed := none } : ScheduleRow) = { entry with consumed := none })
    ?_ (fun _ hu => hu) h ⟨entry, hentry, rfl⟩
  rintro u v ⟨mid, hmid, hplanned⟩ hstep
  obtain ⟨new, hnew, hnewPlanned, -⟩ := step_entry hstep hmid
  exact ⟨new, hnew, hnewPlanned.trans hplanned⟩

end Schedule

section New

/-- A row that was not there before is a fresh attempt of a planned delivery. -/
theorem step_attempt_new {row : AttemptRow} (h : j.Step j') (hnone : j.attempts.find id = none)
    (hrow : j'.attempts.find id = some row) : row.Fresh ∧
      (∃ d ∈ j.deliveries.find row.deliveryId, row.OwnedBy d) ∧ ∀ other ∈ j.attempts.rows,
        ¬ (other.deliveryId = row.deliveryId ∧ other.ordinal = row.ordinal) := by
  have hsame : j'.attempts.find id = none → row.Fresh ∧
      (∃ d ∈ j.deliveries.find row.deliveryId, row.OwnedBy d) ∧ ∀ other ∈ j.attempts.rows,
        ¬ (other.deliveryId = row.deliveryId ∧ other.ordinal = row.ordinal) := by
    intro h
    rw [h] at hrow
    cases hrow
  cases h with
  | commit ha hw =>
    apply hsame
    rw [hw.find_attempt ha, hnone]
    split <;> rfl
  | insertAttempt hfresh howned hunique hinsert =>
    dsimp only at hrow
    rw [Table.find_insert hinsert] at hrow
    split at hrow
    · cases hrow
      exact ⟨hfresh, howned, hunique⟩
    · rw [hnone] at hrow
      cases hrow
  | @rebindAttempt rebound hfound _ =>
    apply hsame
    refine (Table.find_modify (by intro; rfl)).trans ?_
    split
    · next hid =>
      rw [← hid, hnone]
      rfl
    · exact hnone
  | _ => exact hsame hnone

/-- One write adds at most one attempt. -/
theorem step_new_unique {id' : String} {row row' : AttemptRow} (h : j.Step j')
    (hnone : j.attempts.find id = none) (hnone' : j.attempts.find id' = none)
    (hrow : j'.attempts.find id = some row) (hrow' : j'.attempts.find id' = some row') : id = id' := by
  cases h with
  | commit ha hw =>
    rw [hw.find_attempt ha, hnone] at hrow
    split at hrow <;> cases hrow
  | insertAttempt _ _ _ hinsert =>
    dsimp only at hrow hrow'
    rw [Table.find_insert hinsert] at hrow hrow'
    split at hrow
    · next hid =>
      split at hrow'
      · next hid' => exact hid.trans hid'.symm
      · rw [hnone'] at hrow'
        cases hrow'
    · rw [hnone] at hrow
      cases hrow
  | @rebindAttempt rebound hfound _ =>
    have hold : some row.attemptId = (j.attempts.find id).map AttemptRow.attemptId := by
      rw [← Option.map_some, ← hrow]
      exact Table.map_find_modify (by intro; rfl) (by intro; rfl)
    rw [hnone] at hold
    cases hold
  | _ => cases hnone.symm.trans hrow

theorem TransitionCommand.terminalAttempt_eq_some {c : TransitionCommand} {s : AttemptState}
    (h : c.terminalAttempt = some s) : c.newState = .attempt s ∧ s ∈ terminalAttemptStates := by
  unfold TransitionCommand.terminalAttempt at h
  split at h
  · next t hnew =>
    split at h
    · next hmem =>
      cases h
      exact ⟨hnew, hmem⟩
    · cases h
  · cases h

/-- What the guard of a terminal attempt has seen. -/
theorem Accepted.terminal (ha : Accepted j op) {outcome : AttemptTerminalOutcome}
    (houtcome : op.command.attemptOutcome = some outcome) :
    ∃ s row, op.command.newState = .attempt s ∧ s ∈ terminalAttemptStates ∧
      j.attempts.find op.command.entityId = some row ∧
      outcome.classification ∈ classificationsByTerminalState s ∧
      ∀ r ∈ outcome.retrySchedule, s ∈ atomicRetryStates ∧ r.Follows j row := by
  have hterminal : op.command.terminalAttempt.isSome := ha.outcome_iff.2 (by rw [houtcome]; rfl)
  obtain ⟨s, hs⟩ := Option.isSome_iff_exists.1 hterminal
  obtain ⟨hnew, hmem⟩ := TransitionCommand.terminalAttempt_eq_some hs
  have hguards := ha.guards
  simp only [validateTransitionGuards, hnew] at hguards
  split at hguards
  · cases hguards
  next row hrow =>
  rw [if_pos hmem] at hguards
  obtain ⟨_, hclassified, hguards⟩ := bind_ok hguards
  obtain ⟨_, -, hretry⟩ := bind_ok hguards
  obtain ⟨o, ho, hclass⟩ := require_ok hclassified
  rw [houtcome] at ho
  cases ho
  exact ⟨s, row, hnew, hmem, hrow, hclass, require_ok hretry outcome houtcome⟩

theorem RetrySchedule.follows_iff {r : RetrySchedule} {row : AttemptRow} :
    r.Follows j row ↔ r.predecessorAttemptId = row.attemptId ∧ r.row.After j row := by
  constructor
  · rintro ⟨hprior, hscenario, htype, hordinal, hscenarioOrdinal, hplace⟩
    exact ⟨hprior, hscenario, htype, hscenarioOrdinal, hplace, hordinal⟩
  · rintro ⟨hprior, hscenario, htype, hscenarioOrdinal, hplace, hordinal⟩
    exact ⟨hprior, hscenario, htype, hordinal, hscenarioOrdinal, hplace⟩

/-- The row of an attempt that a transition has brought to its end. -/
theorem Written.terminal_row (hw : Written j op j') (ha : Accepted j op) {s : AttemptState}
    {row : AttemptRow} (hnew : op.command.newState = .attempt s) (hs : s ∈ terminalAttemptStates)
    (hrow : j.attempts.find op.command.entityId = some row) :
    j'.attempts.find op.command.entityId = some (op.rowAfter row) ∧ (op.rowAfter row).state = s ∧
      row.state.rank < 7 := by
  have hkey : op.command.key = ⟨.attempt, op.command.entityId⟩ := by
    rw [TransitionCommand.key, hnew]
    rfl
  have hstate : j'.state op.command.key = some op.command.newState := by
    rw [hw.state ha, if_pos rfl]
  have hfind : j'.attempts.find op.command.entityId = some (op.rowAfter row) := by
    rw [hw.find_attempt ha, if_pos hkey, hrow]
    rfl
  refine ⟨hfind, ?_, ?_⟩
  · rw [hkey, hnew] at hstate
    simp only [Journal.state, hfind, Option.map_some, Option.some.injEq,
      LifecycleState.attempt.injEq] at hstate
    exact hstate
  · obtain ⟨hnone, hinitial, -⟩ | ⟨old, hold, hj, hallowed⟩ := ha.edge_cases
    · rw [hkey, hnew] at hinitial
      cases hinitial
      exact absurd hs (by decide)
    · rw [hkey] at hj
      simp only [Journal.state, hrow, Option.map_some, Option.some.injEq] at hj
      subst hj
      rw [hnew] at hallowed
      have hlt := rank_lt_of_edge (row.state, s) (of_decide_eq_true hallowed)
      rwa [rank_terminal hs] at hlt

/-- A new entry comes right after an attempt that has just ended or that has no known outcome. -/
theorem step_entry_new {entry : ScheduleRow} (h : j.Step j') (hnone : j.schedule.find id = none)
    (hentry : j'.schedule.find id = some entry) :
    ∃ prior, j'.attempts.find prior.attemptId = some prior ∧ prior.state.rank = 7 ∧
      entry.After j' prior ∧ (prior.state = .unknownOutcome ∨
        ∃ old, j.attempts.find prior.attemptId = some old ∧ old.state.rank < 7) := by
  have hsame : ∀ {p : Prop}, j'.schedule.find id = none → p := by
    intro p h
    rw [h] at hentry
    cases hentry
  have hplanned := step_planned h
  cases h with
  | @commit op _ ha hw =>
    have hschedule := hw.schedule
    cases hretry : op.command.retrySchedule with
    | none =>
      rw [hretry] at hschedule
      apply hsame
      rw [← Option.some.inj hschedule]
      exact hnone
    | some r =>
      rw [hretry] at hschedule
      rw [Table.find_insert hschedule] at hentry
      split at hentry
      swap
      · rw [hnone] at hentry
        cases hentry
      cases hentry
      obtain ⟨outcome, houtcome, hr⟩ := Option.bind_eq_some_iff.1 hretry
      obtain ⟨s, row, hnew, hs, hrow, -, hfollows⟩ := ha.terminal houtcome
      obtain ⟨hfind, hstate, hlt⟩ := hw.terminal_row ha hnew hs hrow
      obtain ⟨hid, hfixed⟩ := rowAfter_fixed op row
      have hrowId : row.attemptId = op.command.entityId := (Table.find_eq_some.1 hrow).2
      have hprior : (op.rowAfter row).attemptId = op.command.entityId := hid.trans hrowId
      refine ⟨op.rowAfter row, by rw [hprior]; exact hfind, by rw [hstate]; exact rank_terminal hs,
        ?_, Or.inr ⟨row, by rw [hprior]; exact hrow, hlt⟩⟩
      exact (RetrySchedule.follows_iff.1 (hfollows r hr).2).2.congr (hplanned _).1 (hplanned _).2 rfl hfixed
  | consume _ hfound _ =>
    apply hsame
    refine (Table.find_modify (by intro; rfl)).trans ?_
    split
    · next hid =>
      rw [← hid, hnone]
      rfl
    · exact hnone
  | rebindSchedule hfound _ =>
    apply hsame
    refine (Table.find_modify (by intro; rfl)).trans ?_
    split
    · next hid =>
      rw [← hid, hnone]
      rfl
    · exact hnone
  | redeliver hpending hfound hunknown hafter hinsert =>
    dsimp only at hentry
    rw [Table.find_insert hinsert] at hentry
    split at hentry
    · cases hentry
      exact ⟨_, Table.find_of_mem hfound, by rw [hunknown]; rfl, hafter, Or.inl hunknown⟩
    · rw [hnone] at hentry
      cases hentry
  | _ => exact hsame hnone

end New

section Spaced

/-- The planned deliveries have their places to themselves, an attempt belongs to one of them under
its own ordinal, and past the first attempt an entry has an ended attempt before it. -/
structure Spaced (j : Journal) : Prop where
  placed : ∀ id id' d d', j.deliveries.find id = some d → j.deliveries.find id' = some d' →
    d.scenarioId = d'.scenarioId → d.ordinal = d'.ordinal → id = id'
  owned : ∀ id row, j.attempts.find id = some row →
    1 ≤ row.ordinal ∧ ∃ d ∈ j.deliveries.find row.deliveryId, row.OwnedBy d
  unique : ∀ id id' row row', j.attempts.find id = some row → j.attempts.find id' = some row' →
    row.deliveryId = row'.deliveryId → row.ordinal = row'.ordinal → id = id'
  spaced : ∀ id entry, j.schedule.find id = some entry → entry.attemptOrdinal ≤ 1 ∨
    ∃ prior, j.attempts.find prior.attemptId = some prior ∧ prior.state.rank = 7 ∧
      entry.After j prior

/-- No two attempts share the entry after them. -/
theorem Spaced.after_unique (h : Spaced j) {entry : ScheduleRow} {id' : String}
    {row row' : AttemptRow} (hrow : j.attempts.find id = some row)
    (hrow' : j.attempts.find id' = some row') (hafter : entry.After j row)
    (hafter' : entry.After j row') : id = id' := by
  obtain ⟨hscenario, -, -, hdelivery, hordinal⟩ := hafter
  obtain ⟨hscenario', -, -, hdelivery', hordinal'⟩ := hafter'
  obtain ⟨-, d, hd, howned⟩ := h.owned _ _ hrow
  obtain ⟨-, d', hd', howned'⟩ := h.owned _ _ hrow'
  rw [hd, Option.map_some, Option.some.injEq, Prod.mk.injEq] at hdelivery
  rw [hd', Option.map_some, Option.some.injEq, Prod.mk.injEq] at hdelivery'
  have hplace : row.deliveryId = row'.deliveryId := by
    refine h.placed _ _ d d' hd hd' ?_ (hdelivery.2.trans hdelivery'.2.symm)
    rw [howned.1, howned'.1, ← hscenario, hscenario']
  exact h.unique _ _ _ _ hrow hrow' hplace (by omega)

theorem planned_find {j j' : Journal} (h : (j'.deliveries.find id).map DeliveryRow.planned =
    (j.deliveries.find id).map DeliveryRow.planned) {d : DeliveryRow}
    (hd : j'.deliveries.find id = some d) :
    ∃ d', j.deliveries.find id = some d' ∧ d'.planned = d.planned := by
  rw [hd, Option.map_some] at h
  exact Option.map_eq_some_iff.1 h.symm

theorem planned_columns {d d' : DeliveryRow} (h : d.planned = d'.planned) :
    d.scenarioId = d'.scenarioId ∧ d.eventId = d'.eventId ∧ d.ordinal = d'.ordinal ∧
      d.stepOrdinal = d'.stepOrdinal := by
  obtain ⟨-, hscenario, hevent, hordinal, hstep, -⟩ := DeliveryRow.mk.inj h
  exact ⟨hscenario, hevent, hordinal, hstep⟩

theorem Spaced.bootstrap (plan : BootstrapPlan) : Spaced plan.journal := by
  refine ⟨?_, ?_, ?_, ?_⟩
  · intro id id' d d' hd hd' hscenario hordinal
    obtain ⟨hmem, rfl⟩ := Table.find_eq_some.1 hd
    obtain ⟨hmem', rfl⟩ := Table.find_eq_some.1 hd'
    have heq := List.inj_on_of_nodup_map plan.deliveries_placed hmem hmem'
      (Prod.ext hscenario hordinal)
    rw [heq]
  · intro id row hrow
    cases hrow
  · intro id id' row row' hrow
    cases hrow
  · intro id entry hentry
    exact Or.inl (plan.schedules_initial entry (Table.find_eq_some.1 hentry).1).1.le

/-- The row of an attempt before a write: it has moved on since, or it was not there. -/
theorem step_attempt_cases {row : AttemptRow} (h : j.Step j') (hrow : j'.attempts.find id = some row) :
    (∃ old, j.attempts.find id = some old ∧ old.Later row) ∨ j.attempts.find id = none := by
  cases hold : j.attempts.find id with
  | none => exact Or.inr rfl
  | some old =>
    obtain ⟨new, hnew, hlater⟩ := step_later h hold
    rw [hrow] at hnew
    cases hnew
    exact Or.inl ⟨old, rfl, hlater⟩

theorem Spaced.step_unique (hs : Spaced j) (h : j.Step j') {id' : String} {row row' : AttemptRow}
    (hrow : j'.attempts.find id = some row) (hrow' : j'.attempts.find id' = some row')
    (hdelivery : row.deliveryId = row'.deliveryId) (hordinal : row.ordinal = row'.ordinal)
    (hold : (j.attempts.find id).isSome) : id = id' := by
  obtain ⟨old, hold⟩ := Option.isSome_iff_exists.1 hold
  obtain ⟨new, hnew, hlater⟩ := step_later h hold
  rw [hrow] at hnew
  cases hnew
  have hd : row.deliveryId = old.deliveryId := congrArg AttemptIdentity.deliveryId hlater.fixed
  have ho : row.ordinal = old.ordinal := congrArg AttemptIdentity.ordinal hlater.fixed
  obtain ⟨old', hold', hlater'⟩ | hnone := step_attempt_cases h hrow'
  · have hd' : row'.deliveryId = old'.deliveryId := congrArg AttemptIdentity.deliveryId hlater'.fixed
    have ho' : row'.ordinal = old'.ordinal := congrArg AttemptIdentity.ordinal hlater'.fixed
    exact hs.unique _ _ _ _ hold hold' (hd ▸ hd' ▸ hdelivery) (ho ▸ ho' ▸ hordinal)
  · obtain ⟨-, -, hunique⟩ := step_attempt_new h hnone hrow'
    exact absurd ⟨hd.symm.trans hdelivery, ho.symm.trans hordinal⟩
      (hunique old (Table.find_eq_some.1 hold).1)

theorem Spaced.step (hs : Spaced j) (h : j.Step j') : Spaced j' := by
  have hplanned := step_planned h
  refine ⟨?_, ?_, ?_, ?_⟩
  · intro id id' d d' hd hd' hscenario hordinal
    obtain ⟨e, he, hed⟩ := planned_find (hplanned id).2 hd
    obtain ⟨e', he', hed'⟩ := planned_find (hplanned id').2 hd'
    obtain ⟨hs1, -, ho1, -⟩ := planned_columns hed
    obtain ⟨hs2, -, ho2, -⟩ := planned_columns hed'
    exact hs.placed id id' e e' he he' (by rw [hs1, hs2, hscenario]) (by rw [ho1, ho2, hordinal])
  · intro id row hrow
    -- the delivery of a row is still there, with its planned columns
    have hdelivery : ∀ {old : AttemptRow}, row.fixed = old.fixed →
        (∃ d ∈ j.deliveries.find old.deliveryId, old.OwnedBy d) →
        ∃ d ∈ j'.deliveries.find row.deliveryId, row.OwnedBy d := by
      rintro old hfixed ⟨d, hd, howned⟩
      have hid : row.deliveryId = old.deliveryId := congrArg AttemptIdentity.deliveryId hfixed
      obtain ⟨d', hd', hplanned'⟩ := planned_find (hplanned old.deliveryId).2.symm hd
      refine ⟨d', by rw [hid]; exact hd', ?_⟩
      obtain ⟨hscenario, hevent, -⟩ := planned_columns hplanned'
      exact ⟨hscenario.trans (howned.1.trans (congrArg AttemptIdentity.scenarioId hfixed).symm),
        hevent.trans (howned.2.trans (congrArg AttemptIdentity.eventId hfixed).symm)⟩
    obtain ⟨old, hold, hlater⟩ | hnone := step_attempt_cases h hrow
    · obtain ⟨hpos, howned⟩ := hs.owned id old hold
      have ho : row.ordinal = old.ordinal := congrArg AttemptIdentity.ordinal hlater.fixed
      exact ⟨ho ▸ hpos, hdelivery hlater.fixed howned⟩
    · obtain ⟨hfresh, howned, -⟩ := step_attempt_new h hnone hrow
      exact ⟨hfresh.ordinal, hdelivery rfl howned⟩
  · intro id id' row row' hrow hrow' hdelivery hordinal
    obtain ⟨old, hold, -⟩ | hnone := step_attempt_cases h hrow
    · exact hs.step_unique h hrow hrow' hdelivery hordinal (by rw [hold]; rfl)
    obtain ⟨old, hold, -⟩ | hnone' := step_attempt_cases h hrow'
    · exact (hs.step_unique h hrow' hrow hdelivery.symm hordinal.symm (by rw [hold]; rfl)).symm
    -- one write inserts at most one row
    exact step_new_unique h hnone hnone' hrow hrow'
  · intro id entry hentry
    cases hold : j.schedule.find id with
    | none =>
      obtain ⟨prior, hprior, hrank, hafter, -⟩ := step_entry_new h hold hentry
      exact Or.inr ⟨prior, hprior, hrank, hafter⟩
    | some old =>
      obtain ⟨new, hnew, hplan, -⟩ := step_entry h hold
      rw [hentry] at hnew
      cases hnew
      obtain hle | ⟨prior, hprior, hrank, hafter⟩ := hs.spaced id old hold
      · obtain ⟨-, -, -, -, -, -, -, -, hordinal, -⟩ := ScheduleRow.mk.inj hplan
        exact Or.inl (hordinal ▸ hle)
      · obtain ⟨new, hnew, hlater⟩ := step_later h hprior
        refine Or.inr ⟨new, ?_, ?_, ?_⟩
        · rw [hlater.attemptId]
          exact hnew
        · rw [(hlater.of_terminal hrank).1]
          exact hrank
        · exact hafter.congr (hplanned _).1 (hplanned _).2 hplan hlater.fixed

theorem Spaced.evolves (hs : Spaced j) (h : ReflTransGen Journal.Evolves j j') : Spaced j' :=
  evolves_invariant (fun _ _ hu hstep => hu.step hstep)
    (fun _ hu => ⟨hu.placed, hu.owned, hu.unique, hu.spaced⟩) h hs

end Spaced

end WebhookConformance
