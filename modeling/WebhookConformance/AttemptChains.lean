import WebhookConformance.Recovery
import WebhookConformance.Replay

/-! The attempts of one delivery: a chain in which each attempt continues the one before it. -/
namespace WebhookConformance

open Checked Relation

variable {j j' : Journal} {op : JournalOperation} {id : String} {row prior : AttemptRow}

section Links

/-- `row` continues `prior`: it names the ended attempt before it, and its schedule entry is there.
The condition of a retry names the same attempt. -/
structure Journal.Follows (j : Journal) (prior row : AttemptRow) : Prop where
  found : j.attempts.find prior.attemptId = some prior
  predecessor : row.predecessorAttemptId = some prior.attemptId
  delivery : prior.deliveryId = row.deliveryId
  ordinal : prior.ordinal + 1 = row.ordinal
  ended : prior.state ∈ retryPredecessorStates
  scheduled : ∃ entry ∈ j.schedule.rows, entry.After j prior ∧ entry.entityId = row.attemptPlanId ∧
    (prior.state = .unknownOutcome ∨ ∃ condition ∈ entry.condition,
      condition.predecessorAttemptId = prior.attemptId ∧ condition.nextAttemptOrdinal = row.ordinal)

/-- An attempt is the first of its delivery, or it continues another one. -/
def Journal.Links (j : Journal) (row : AttemptRow) : Prop :=
  (row.ordinal = 1 ∧ row.predecessorAttemptId = none) ∨ ∃ prior, j.Follows prior row

structure Chained (j : Journal) : Prop where
  spaced : Spaced j
  links : ∀ id row, j.attempts.find id = some row → j.Links row

theorem chained_bootstrap (plan : BootstrapPlan) : Chained plan.journal :=
  ⟨.bootstrap plan, by intro id row hrow; cases hrow⟩

/-- What a link rests on stays as it is over any run. -/
theorem Journal.Follows.evolves {row' : AttemptRow} (h : j.Follows prior row)
    (hrun : ReflTransGen Journal.Evolves j j') (hfixed : row'.fixed = row.fixed) :
    ∃ prior', j'.Follows prior' row' := by
  obtain ⟨hfound, hpredecessor, hdelivery, hordinal, hended, entry, hentry, hafter, hplan, hcondition⟩ := h
  obtain ⟨later, hlater, hprogress⟩ := evolves_later hrun hfound
  obtain ⟨hstate, -⟩ := hprogress.of_terminal (retryPredecessor_terminal hended)
  obtain ⟨new, hnew, hsame⟩ := evolves_entry hrun (Table.find_of_mem hentry)
  have hplanned := evolves_planned hrun
  have hid := hprogress.attemptId
  have hpriorOrdinal : later.ordinal = prior.ordinal := congrArg AttemptIdentity.ordinal hprogress.fixed
  have hrowOrdinal : row'.ordinal = row.ordinal := congrArg AttemptIdentity.ordinal hfixed
  obtain ⟨-, -, -, hentity, -, -, -, -, -, -, hconditions, -⟩ := ScheduleRow.mk.inj hsame
  refine ⟨later, by rw [hid]; exact hlater, ?_, ?_, by omega, by rw [hstate]; exact hended,
    new, (Table.find_eq_some.1 hnew).1,
    hafter.congr (hplanned _).1 (hplanned _).2 hsame hprogress.fixed, ?_, ?_⟩
  · rw [hid, ← hpredecessor]
    exact congrArg AttemptIdentity.predecessorAttemptId hfixed
  · exact (congrArg AttemptIdentity.deliveryId hprogress.fixed).trans
      (hdelivery.trans (congrArg AttemptIdentity.deliveryId hfixed).symm)
  · exact hentity.trans (hplan.trans (congrArg AttemptIdentity.attemptPlanId hfixed).symm)
  · rwa [hstate, hid, hrowOrdinal, show new.condition = entry.condition from hconditions]

theorem Journal.Links.evolves {row' : AttemptRow} (h : j.Links row)
    (hrun : ReflTransGen Journal.Evolves j j') (hfixed : row'.fixed = row.fixed) : j'.Links row' := by
  obtain ⟨hordinal, hnone⟩ | ⟨prior, hprior⟩ := h
  · exact Or.inl ⟨(congrArg AttemptIdentity.ordinal hfixed).trans hordinal,
      (congrArg AttemptIdentity.predecessorAttemptId hfixed).trans hnone⟩
  · exact Or.inr (hprior.evolves hrun hfixed)

/-- Only the attempts that a run adds have to be linked anew. -/
theorem Chained.evolves (hj : Chained j) (hrun : ReflTransGen Journal.Evolves j j')
    (hnew : ∀ id row, j.attempts.find id = none → j'.attempts.find id = some row → j'.Links row) :
    Chained j' := by
  refine ⟨hj.spaced.evolves hrun, ?_⟩
  intro id row hrow
  cases hold : j.attempts.find id with
  | none => exact hnew id row hold hrow
  | some old =>
    obtain ⟨new, hfound, hlater⟩ := evolves_later hrun hold
    rw [hrow] at hfound
    cases hfound
    exact (hj.links id old hold).evolves hrun hlater.fixed

end Links

section Absent

theorem applyTransition_absent {op : TransitionOperation} {committed : CommittedTransition}
    (h : applyTransition j op = .ok (j', committed)) (hid : j.attempts.find id = none) :
    j'.attempts.find id = none := by
  obtain ⟨_, -, -, rfl, -⟩ | ⟨ha, hw, -⟩ := applyTransition_ok h
  · exact hid
  · rw [hw.find_attempt ha, hid]
    split <;> rfl

/-- The operations that may add an attempt. -/
def JournalOperation.Adds : JournalOperation → Prop
  | .claim _ => True
  | .commitPolicy _ => True
  | _ => False

theorem execute_absent (h : j.execute op = .ok j') (hop : ¬ op.Adds) (hid : j.attempts.find id = none) :
    j'.attempts.find id = none := by
  cases op with
  | transition op => exact applyTransition_absent (map_fst_ok h).choose_spec hid
  | claim claim => exact absurd trivial hop
  | commitPolicy plan => exact absurd trivial hop
  | rebind attemptId expectedState ownerEpoch =>
    obtain ⟨-, schedule, rebound, rfl⟩ := rebindRecoverableAttempt_ok h
    refine (Table.find_modify (by intro; rfl)).trans ?_
    split
    · next heq => rw [← heq, hid, Option.map_none]
    · exact hid
  | beginSeries c =>
    obtain ⟨⟨initial, started⟩, h⟩ := map_fst_ok h
    obtain ⟨_, -, h⟩ := bind_ok h
    obtain ⟨inserted, hinserted, h⟩ := bind_ok h
    obtain ⟨⟨scheduled, _⟩, hinitial, h⟩ := bind_ok h
    obtain ⟨⟨running, _⟩, hrunning, h⟩ := bind_ok h
    cases pure_ok h
    rw [← insertSeries_attempts hinserted] at hid
    exact applyTransition_absent hrunning (applyTransition_absent hinitial hid)
  | appendSample c =>
    obtain ⟨series, inserted, hinserted, h⟩ := appendSample_ok h
    have hinsert : inserted.attempts.find id = none := by
      obtain rfl | ⟨samples, -, rfl⟩ := insertSample_ok hinserted <;> exact hid
    obtain rfl | ⟨t, committed, -, happly⟩ := h
    · exact hinsert
    · exact applyTransition_absent happly hinsert
  | appendEvaluation c =>
    obtain ⟨committed, h⟩ := map_fst_ok h
    obtain ⟨_, -, h⟩ := bind_ok h
    obtain ⟨appended, happended, h⟩ := bind_ok h
    refine applyTransition_absent h ?_
    obtain rfl | ⟨evaluations, -, rfl⟩ := appendEvaluationRow_ok happended <;> exact hid
  | finalizeRun request =>
    obtain ⟨⟨applied, _⟩, happly, h⟩ := bind_ok h
    obtain ⟨_, -, h⟩ := bind_ok h
    cases pure_ok h
    have happlied : applied.attempts.find id = none := applyTransition_absent happly hid
    exact happlied
  | advanceOwnerEpoch old new =>
    obtain ⟨rfl, -⟩ := advanceOwnerEpoch_ok h
    exact hid

end Absent

section Claims

variable {claim : AttemptScheduleClaim} {entry : ScheduleRow}

/-- The predecessor that a valid claim names is the ended attempt before the scheduled one. -/
theorem validClaim_prior (h : validateAttemptScheduleClaim j claim entry = .ok ()) :
    (claim.predecessorAttemptId = none ∧ entry.attemptOrdinal = 1) ∨
      ∃ prior, j.attempts.find prior.attemptId = some prior ∧
        claim.predecessorAttemptId = some prior.attemptId ∧ claim.Succeeds entry prior ∧
        ∃ condition ∈ entry.condition, condition.predecessorAttemptId = prior.attemptId ∧
          condition.nextAttemptOrdinal = entry.attemptOrdinal := by
  obtain ⟨_, -, h⟩ := bind_ok h
  obtain ⟨_, -, h⟩ := bind_ok h
  obtain ⟨_, -, h⟩ := bind_ok h
  unfold validateClaimedPredecessor at h
  split at h
  · next hnone => exact Or.inl ⟨hnone, (require_ok h).2⟩
  next predecessor hpredecessor =>
  unfold validateRetryPredecessor at h
  split at h
  · cases h
  next condition hcondition =>
  obtain ⟨_, -, h⟩ := bind_ok h
  obtain ⟨_, -, h⟩ := bind_ok h
  obtain ⟨_, hidentity, h⟩ := bind_ok h
  obtain ⟨_, hexists, h⟩ := bind_ok h
  obtain ⟨prior, hprior⟩ := Option.isSome_iff_exists.1 (require_ok hexists)
  obtain ⟨-, rfl⟩ := Table.find_eq_some.1 hprior
  exact Or.inr ⟨prior, hprior, hpredecessor, require_ok h prior hprior, condition, hcondition,
    require_ok hidentity⟩

theorem validClaim_place (h : validateAttemptScheduleClaim j claim entry = .ok ()) :
    entry.entityType = "attempt" ∧ claim.Places j entry := by
  obtain ⟨_, hsemantics, h⟩ := bind_ok h
  obtain ⟨_, -, h⟩ := bind_ok h
  obtain ⟨_, hplaces, -⟩ := bind_ok h
  exact ⟨(require_ok hsemantics).1, require_ok hplaces⟩

/-- The entry of a valid claim comes right after the predecessor that the claim names. -/
theorem validClaim_after (h : validateAttemptScheduleClaim j claim entry = .ok ())
    (hprior : claim.Succeeds entry prior) : entry.After j prior := by
  obtain ⟨htype, d, hd, s, hs, hscenario, -, hscenarioOrdinal, hstep, hordinal⟩ := validClaim_place h
  obtain ⟨hpriorScenario, -, hdelivery, hnext, -⟩ := hprior
  refine ⟨hpriorScenario.symm, htype, ?_, ?_, hnext.symm⟩
  · rw [hpriorScenario, ← hscenario, hs, Option.map_some, hscenarioOrdinal]
  · rw [hdelivery, hd, Option.map_some, hstep, hordinal]

/-- The row that a claim adds is the claimed one, but for its state. -/
theorem claim_new {committed : CommittedTransition} (h : claimAttemptSchedule j claim = .ok (j', committed))
    (hnone : j.attempts.find id = none) (hrow : j'.attempts.find id = some row) :
    ∃ entry, j.schedule.find claim.scheduleEntryId = some entry ∧
      validateAttemptScheduleClaim j claim entry = .ok () ∧
      row.fixed = (claimedRow claim entry).fixed := by
  obtain ⟨entry, -, hentry, hvalid, ⟨-, inserted, hinserted, happly⟩ | ⟨rfl, -⟩⟩ :=
    claimAttemptSchedule_ok h
  swap
  · rw [hnone] at hrow
    cases hrow
  refine ⟨entry, hentry, hvalid, ?_⟩
  cases hfresh : inserted.attempts.find id with
  | none =>
    rw [applyTransition_absent happly hfresh] at hrow
    cases hrow
  | some fresh =>
    obtain ⟨later, hlater, hprogress⟩ := evolves_later
      (ReflTransGen.mono (fun _ _ => Or.inl) _ _ (applyTransition_steps happly)) hfresh
    rw [hrow] at hlater
    cases hlater
    refine hprogress.fixed.trans ?_
    obtain ⟨rfl, -⟩ | ⟨-, hinserted⟩ := insertClaimedAttempt_ok hinserted
    · rw [show (consumeSchedule j claim).attempts.find id = none from hnone] at hfresh
      cases hfresh
    · obtain ⟨attempts, hattempts, rfl, -⟩ := insertAttempt_ok hinserted
      dsimp only at hfresh
      rw [Table.find_insert hattempts] at hfresh
      split at hfresh
      · cases hfresh
        rfl
      · rw [show (consumeSchedule j claim).attempts.find id = none from hnone] at hfresh
        cases hfresh

/-- What a claim adds is linked. -/
theorem claim_links {committed : CommittedTransition} (h : claimAttemptSchedule j claim = .ok (j', committed))
    (hnone : j.attempts.find id = none) (hrow : j'.attempts.find id = some row) : j'.Links row := by
  obtain ⟨entry, hentry, hvalid, hfixed⟩ := claim_new h hnone hrow
  have hlinks : j.Links (claimedRow claim entry) := by
    obtain ⟨hpredecessor, hordinal⟩ | ⟨prior, hfound, hpredecessor, hsucceeds, condition, hcondition⟩ :=
      validClaim_prior hvalid
    · exact Or.inl ⟨hordinal, hpredecessor⟩
    · have hafter := validClaim_after hvalid hsucceeds
      obtain ⟨-, -, hdelivery, hordinal, hended, -⟩ := hsucceeds
      exact Or.inr ⟨prior, hfound, hpredecessor, hdelivery, hordinal, hended, entry,
        (Table.find_eq_some.1 hentry).1, hafter, rfl, Or.inr ⟨condition, hcondition⟩⟩
  exact hlinks.evolves
    (ReflTransGen.mono (fun _ _ => Or.inl) _ _ (claimAttemptSchedule_steps h)) hfixed

/-- After a claim its attempt is there, as the claim describes it. -/
theorem claim_row {committed : CommittedTransition}
    (h : claimAttemptSchedule j claim = .ok (j', committed)) :
    ∃ entry row, j.schedule.find claim.scheduleEntryId = some entry ∧
      validateAttemptScheduleClaim j claim entry = .ok () ∧
      j'.attempts.find claim.attemptId = some row ∧ row.fixed = (claimedRow claim entry).fixed := by
  obtain ⟨entry, howner, hentry, hvalid, ⟨-, inserted, hinserted, happly⟩ |
    ⟨rfl, -, ⟨row, hrow, hidentity⟩, -⟩⟩ := claimAttemptSchedule_ok h
  · obtain ⟨-, -, row, hrow, hfixed, -⟩ := (claimed_inserted howner hentry hinserted).1.evolves
      (ReflTransGen.mono (fun _ _ => Or.inl) _ _ (applyTransition_steps happly))
    exact ⟨entry, row, hentry, hvalid, hrow, hfixed⟩
  · refine ⟨entry, row, hentry, hvalid, hrow, ?_⟩
    unfold AttemptRow.fixed
    rw [hidentity]

/-- Two claims of one entry name the same attempt. -/
theorem claim_same_attempt {u v : Journal} {claim' : AttemptScheduleClaim}
    {committed committed' : CommittedTransition}
    (h : claimAttemptSchedule j claim = .ok (j', committed))
    (hrun : ReflTransGen Journal.Evolves j' u)
    (h' : claimAttemptSchedule u claim' = .ok (v, committed')) (hspaced : Spaced v)
    (hentry : claim'.scheduleEntryId = claim.scheduleEntryId) :
    claim'.attemptId = claim.attemptId := by
  obtain ⟨entry, row, hfound, hvalid, hrow, hfixed⟩ := claim_row h
  obtain ⟨entry', row', hfound', hvalid', hrow', hfixed'⟩ := claim_row h'
  have hstart : ReflTransGen Journal.Evolves j u :=
    .trans (ReflTransGen.mono (fun _ _ => Or.inl) _ _ (claimAttemptSchedule_steps h)) hrun
  have hlast : ReflTransGen Journal.Evolves u v :=
    ReflTransGen.mono (fun _ _ => Or.inl) _ _ (claimAttemptSchedule_steps h')
  obtain ⟨new, hnew, hsame⟩ := evolves_entry hstart hfound
  rw [← hentry, hfound'] at hnew
  cases hnew
  obtain ⟨-, hscenario, -, -, -, -, -, hdelivery, hordinal, -⟩ := ScheduleRow.mk.inj hsame
  -- both claims were placed at the one delivery of the entry
  obtain ⟨-, d, hd, _, -, hdScenario, -, -, -, hdOrdinal⟩ := validClaim_place hvalid
  obtain ⟨-, d', hd', _, -, hdScenario', -, -, -, hdOrdinal'⟩ := validClaim_place hvalid'
  obtain ⟨e, he, hplanned⟩ := planned_find ((evolves_planned (hstart.trans hlast) _).2.symm) hd
  obtain ⟨e', he', hplanned'⟩ := planned_find ((evolves_planned hlast _).2.symm) hd'
  obtain ⟨hs, -, ho, -⟩ := planned_columns hplanned
  obtain ⟨hs', -, ho', -⟩ := planned_columns hplanned'
  have hplace : claim.deliveryId = claim'.deliveryId := by
    refine hspaced.placed _ _ e e' he he' ?_ ?_
    · rw [hs, hs', hdScenario, hdScenario', ← hscenario]
    · rw [ho, ho', hdOrdinal, hdOrdinal', ← hdelivery]
  obtain ⟨later, hlater, hprogress⟩ := evolves_later (hrun.trans hlast) hrow
  have hrowFixed := hprogress.fixed.trans hfixed
  refine hspaced.unique _ _ _ _ hrow' hlater ?_ ?_
  · exact (congrArg AttemptIdentity.deliveryId hfixed').trans
      (hplace.symm.trans (congrArg AttemptIdentity.deliveryId hrowFixed).symm)
  · exact (congrArg AttemptIdentity.ordinal hfixed').trans
      (hordinal.trans (congrArg AttemptIdentity.ordinal hrowFixed).symm)

end Claims

section Policies

variable {plan : ResumePolicyPlan}

/-- A redelivery that a policy commit has written. -/
def Redelivered (plan : ResumePolicyPlan) (j : Journal) (row : AttemptRow) : Prop :=
  ∃ r ∈ plan.redeliveries, row = r.row plan.ownerEpoch ∧
    j.schedule.find r.schedule.scheduleEntryId = some r.scheduleRow ∧
    ∃ prior, j.attempts.find r.predecessorAttemptId = some prior ∧ prior.state = .unknownOutcome ∧
      prior.scenarioId = r.scenarioId ∧ prior.deliveryId = r.deliveryId

theorem Redelivered.insert {u v : Journal} {r : RedeliveryAttemptPlan} (h : Redelivered plan u row)
    (hinsert : insertRedelivery plan.ownerEpoch u r = .ok v) : Redelivered plan v row := by
  obtain ⟨old, hmem, hrow, hentry, prior, hprior, hstate⟩ := h
  obtain ⟨_, -, hinsert⟩ := bind_ok hinsert
  obtain ⟨inserted, hinserted, hinsert⟩ := bind_ok hinsert
  obtain ⟨attempts, hattempts, rfl, -⟩ := insertAttempt_ok hinserted
  obtain ⟨schedule, rfl, hschedule, -⟩ := insertScheduleRow_ok hinsert
  exact ⟨old, hmem, hrow, Table.find_insert_of_some hschedule hentry, prior,
    Table.find_insert_of_some hattempts hprior, hstate⟩

theorem redelivered_insert {u v : Journal} {r : RedeliveryAttemptPlan} (hr : r ∈ plan.redeliveries)
    (hinsert : insertRedelivery plan.ownerEpoch u r = .ok v) (hrow : v.attempts.find id = some row) :
    u.attempts.find id = some row ∨ Redelivered plan v row := by
  obtain ⟨_, hprior, hinsert⟩ := bind_ok hinsert
  obtain ⟨prior, hfound, hscenario, hunknown⟩ := require_ok hprior
  obtain ⟨inserted, hinserted, hinsert⟩ := bind_ok hinsert
  obtain ⟨attempts, hattempts, rfl, -, hcontinues, -⟩ := insertAttempt_ok hinserted
  obtain ⟨schedule, rfl, hschedule, -⟩ := insertScheduleRow_ok hinsert
  dsimp only at hrow
  rw [Table.find_insert hattempts] at hrow
  split at hrow
  · cases hrow
    obtain ⟨found, hfound', -, -, hdelivery⟩ := hcontinues r.predecessorAttemptId rfl
    rw [hfound] at hfound'
    cases hfound'
    exact Or.inr ⟨r, hr, rfl, (Table.find_insert hschedule).trans (if_pos rfl), prior,
      Table.find_insert_of_some hattempts hfound, hunknown, hscenario, hdelivery⟩
  · exact Or.inl hrow

/-- The rows that a policy commit adds are its redeliveries. -/
theorem commitPolicy_new {applied : Bool} (h : commitPolicy j plan = .ok (j', applied))
    (hnone : j.attempts.find id = none) (hrow : j'.attempts.find id = some row) :
    Redelivered plan j' row := by
  obtain ⟨_, -, h⟩ := bind_ok h
  split at h
  swap
  · obtain ⟨_, -, h⟩ := bind_ok h
    obtain ⟨_, -, h⟩ := bind_ok h
    cases pure_ok h
    rw [hnone] at hrow
    cases hrow
  obtain ⟨decided, hdecided, h⟩ := bind_ok h
  obtain ⟨redelivered, hredelivered, h⟩ := bind_ok h
  cases pure_ok h
  have hattempts : decided.attempts = j.attempts := by
    refine runAll_invariant (P := fun u => u.attempts = j.attempts) ?_ hdecided rfl
    intro u d v _ hinsert hu
    obtain ⟨decisions, -, hinsert⟩ := bind_ok hinsert
    cases pure_ok hinsert
    exact hu
  have hall : ∀ row, j'.attempts.find id = some row → Redelivered plan j' row := by
    refine runAll_invariant
      (P := fun u => ∀ row, u.attempts.find id = some row → Redelivered plan u row) ?_ hredelivered ?_
    · intro u r v hr hinsert hu row hrow
      obtain hold | hnew := redelivered_insert hr hinsert hrow
      · exact (hu row hold).insert hinsert
      · exact hnew
    · intro row hrow
      rw [hattempts, hnone] at hrow
      cases hrow
  exact hall row hrow

/-- A redelivery that the policy schedules right after its predecessor is linked. -/
theorem commitPolicy_links {applied : Bool} (hissued : JournalOperation.Issued j (.commitPolicy plan))
    (h : commitPolicy j plan = .ok (j', applied)) (hnone : j.attempts.find id = none)
    (hrow : j'.attempts.find id = some row) : j'.Links row := by
  obtain ⟨r, hr, rfl, hentry, prior, hprior, hunknown, hscenario, hdelivery⟩ :=
    commitPolicy_new h hnone hrow
  have hrun : ReflTransGen Journal.Evolves j j' :=
    ReflTransGen.mono (fun _ _ => Or.inl) _ _ (commitPolicy_steps hissued h)
  obtain ⟨-, hpriorId⟩ := Table.find_eq_some.1 hprior
  have hafter : r.scheduleRow.After j' prior := by
    cases hold : j.attempts.find r.predecessorAttemptId with
    | none =>
      -- a predecessor of the same commit would still be scheduled
      obtain ⟨other, -, rfl, -⟩ := commitPolicy_new h hold hprior
      cases hunknown
    | some old =>
      obtain ⟨later, hlater, hprogress⟩ := evolves_later hrun hold
      rw [hprior] at hlater
      cases hlater
      have hplanned := evolves_planned hrun
      obtain ⟨-, -, hplace⟩ := (hissued r hr old hold).congr (hplanned _).1 (hplanned _).2 rfl
        hprogress.fixed
      exact ⟨hscenario.symm, rfl, hplace⟩
  have hordinal : r.attemptOrdinal = prior.ordinal + 1 := by
    rw [← r.schedule_identity.2]
    exact hafter.2.2.2.2
  refine Or.inr ⟨prior, by rw [hpriorId]; exact hprior, congrArg some hpriorId.symm, hdelivery,
    hordinal.symm, by rw [hunknown]; decide, r.scheduleRow, (Table.find_eq_some.1 hentry).1, hafter,
    r.schedule_identity.1, Or.inl hunknown⟩

theorem execute_chained (hj : Chained j) (hissued : op.Issued j) (h : j.execute op = .ok j') :
    Chained j' := by
  have hrun : ReflTransGen Journal.Evolves j j' := by
    obtain hsteps | ⟨-, rfl⟩ := execute_steps hissued h
    · exact ReflTransGen.mono (fun _ _ => Or.inl) _ _ hsteps
    · exact .single (Or.inr rfl)
  refine hj.evolves hrun ?_
  intro id row hnone hrow
  by_cases hadds : op.Adds
  · cases op with
    | claim claim => exact claim_links (map_fst_ok h).choose_spec hnone hrow
    | commitPolicy plan => exact commitPolicy_links hissued (map_fst_ok h).choose_spec hnone hrow
    | _ => exact False.elim hadds
  · rw [execute_absent h hadds hnone] at hrow
    cases hrow

theorem Chained.claim {claim : AttemptScheduleClaim} {committed : CommittedTransition}
    (hj : Chained j) (h : claimAttemptSchedule j claim = .ok (j', committed)) : Chained j' := by
  have hexecute : j.execute (.claim claim) = .ok j' := by
    rw [Journal.execute, h]
    rfl
  have hissued : JournalOperation.Issued j (.claim claim) := trivial
  exact execute_chained hj hissued hexecute

end Policies

section Deliveries

def Journal.attemptsOf (j : Journal) (deliveryId : String) : List AttemptRow :=
  j.attempts.rows.filter (·.deliveryId = deliveryId)

/-- The attempt has ended with a retry in the schedule, whose condition names it. -/
def Journal.RetryCommitted (j : Journal) (a : AttemptRow) : Prop :=
  a.state ∈ atomicRetryStates ∧ ∃ entry ∈ j.schedule.rows, entry.After j a ∧
    ∃ condition ∈ entry.condition, condition.predecessorAttemptId = a.attemptId

/-- The outcome of the attempt is unknown, and its redelivery is prepared and in the schedule. -/
def Journal.RedeliveryCommitted (j : Journal) (a : AttemptRow) : Prop :=
  a.state = .unknownOutcome ∧ ∃ entry ∈ j.schedule.rows, entry.After j a ∧
    ∃ next ∈ j.attempts.rows, next.predecessorAttemptId = some a.attemptId ∧
      next.attemptPlanId = entry.entityId

structure DeliveryChain (j : Journal) (deliveryId : String) : Prop where
  ordinals : ((j.attemptsOf deliveryId).map AttemptRow.ordinal).Perm
    (List.range' 1 (j.attemptsOf deliveryId).length)
  first : ∀ a ∈ j.attemptsOf deliveryId, a.ordinal = 1 → a.predecessorAttemptId = none
  predecessor : ∀ a ∈ j.attemptsOf deliveryId, ∀ b ∈ j.attemptsOf deliveryId,
    b.ordinal = a.ordinal + 1 → b.predecessorAttemptId = some a.attemptId
  last : ∀ a ∈ j.attemptsOf deliveryId, a.state.terminal = false →
    ∀ b ∈ j.attemptsOf deliveryId, b ≠ a → b.ordinal < a.ordinal ∧ b.state.terminal = true
  continued : ∀ a ∈ j.attemptsOf deliveryId, ∀ b ∈ j.attemptsOf deliveryId,
    a.ordinal < b.ordinal → j.RetryCommitted a ∨ j.RedeliveryCommitted a

theorem mem_attemptsOf {a : AttemptRow} {deliveryId : String} :
    a ∈ j.attemptsOf deliveryId ↔
      j.attempts.find a.attemptId = some a ∧ a.deliveryId = deliveryId := by
  rw [Journal.attemptsOf, List.mem_filter, decide_eq_true_iff, Table.find_eq_some]
  exact and_congr_left fun _ => (and_iff_left rfl).symm

theorem perm_range_of_closed {l : List Nat} (hnodup : l.Nodup) (hpos : ∀ k ∈ l, 1 ≤ k)
    (hdown : ∀ k, 1 ≤ k → k + 1 ∈ l → k ∈ l) : l.Perm (List.range' 1 l.length) := by
  have hbelow : ∀ m k, 1 ≤ k → k + m ∈ l → k ∈ l := by
    intro m
    induction m with
    | zero => exact fun k _ hk => hk
    | succ m ih =>
      intro k hk hmem
      exact hdown k hk (ih (k + 1) (by omega) (by rwa [Nat.add_right_comm]))
  have hle : ∀ k ∈ l, k ≤ l.length := by
    intro k hk
    have hsub : List.range' 1 k ⊆ l := by
      intro i hi
      rw [List.mem_range'_1] at hi
      exact hbelow (k - i) i hi.1 (by rwa [Nat.add_sub_cancel' (by omega)])
    simpa using (List.subperm_of_subset List.nodup_range' hsub).length_le
  refine (List.subperm_of_subset hnodup ?_).perm_of_length_le (by simp)
  intro k hk
  have := hle k hk
  have := hpos k hk
  rw [List.mem_range'_1]
  omega

variable {deliveryId : String} {a b : AttemptRow}

theorem Chained.eq_of_ordinal (hj : Chained j) (ha : a ∈ j.attemptsOf deliveryId)
    (hb : b ∈ j.attemptsOf deliveryId) (h : a.ordinal = b.ordinal) : a = b := by
  rw [mem_attemptsOf] at ha hb
  have hid := hj.spaced.unique _ _ _ _ ha.1 hb.1 (ha.2.trans hb.2.symm) h
  have hfound := ha.1
  rw [hid, hb.1] at hfound
  exact (Option.some.inj hfound).symm

/-- An attempt past the first continues one of the same delivery. -/
theorem Chained.previous (hj : Chained j) (hb : b ∈ j.attemptsOf deliveryId) (h : 1 < b.ordinal) :
    ∃ a ∈ j.attemptsOf deliveryId, j.Follows a b := by
  obtain ⟨hfound, hdelivery⟩ := mem_attemptsOf.1 hb
  obtain ⟨hone, -⟩ | ⟨prior, hprior⟩ := hj.links _ b hfound
  · omega
  · exact ⟨prior, mem_attemptsOf.2 ⟨hprior.found, hprior.delivery.trans hdelivery⟩, hprior⟩

/-- An attempt with a later one is continued by the next. -/
theorem Chained.next (hj : Chained j) (ha : a ∈ j.attemptsOf deliveryId)
    (hb : b ∈ j.attemptsOf deliveryId) (h : a.ordinal < b.ordinal) :
    ∃ c ∈ j.attemptsOf deliveryId, j.Follows a c := by
  have hpos := (hj.spaced.owned _ a (mem_attemptsOf.1 ha).1).1
  obtain ⟨n, hn⟩ : ∃ n, b.ordinal = a.ordinal + 1 + n := ⟨b.ordinal - (a.ordinal + 1), by omega⟩
  clear h
  induction n generalizing b with
  | zero =>
    obtain ⟨prior, hprior, hfollows⟩ := hj.previous hb (by omega)
    have hordinal := hfollows.ordinal
    rw [hj.eq_of_ordinal hprior ha (by omega)] at hfollows
    exact ⟨b, hb, hfollows⟩
  | succ n ih =>
    obtain ⟨prior, hprior, hfollows⟩ := hj.previous hb (by omega)
    have hordinal := hfollows.ordinal
    exact ih hprior (by omega)

theorem Journal.Follows.committed (h : j.Follows a b) (hb : b ∈ j.attempts.rows) :
    j.RetryCommitted a ∨ j.RedeliveryCommitted a := by
  obtain ⟨entry, hentry, hafter, hplan, hcondition⟩ := h.scheduled
  by_cases hunknown : a.state = .unknownOutcome
  · exact Or.inr ⟨hunknown, entry, hentry, hafter, b, hb, h.predecessor, hplan.symm⟩
  · obtain hunknown' | ⟨condition, hmem, hnames, -⟩ := hcondition
    · exact absurd hunknown' hunknown
    · refine Or.inl ⟨?_, entry, hentry, hafter, condition, hmem, hnames⟩
      have hended := h.ended
      revert hended hunknown
      cases a.state <;> decide

theorem retryPredecessor_ended {s : AttemptState} (h : s ∈ retryPredecessorStates) :
    s.terminal = true := by
  revert s
  decide

theorem Chained.delivery (hj : Chained j) (deliveryId : String) : DeliveryChain j deliveryId := by
  have hpos : ∀ a ∈ j.attemptsOf deliveryId, 1 ≤ a.ordinal := by
    intro a ha
    exact (hj.spaced.owned _ a (mem_attemptsOf.1 ha).1).1
  refine ⟨?_, ?_, ?_, ?_, ?_⟩
  · rw [← List.length_map AttemptRow.ordinal]
    refine perm_range_of_closed ?_ ?_ ?_
    · refine List.Nodup.map_on (fun a ha b hb h => hj.eq_of_ordinal ha hb h) ?_
      exact (List.Nodup.of_map AttemptRow.attemptId j.attempts.nodup).filter _
    · intro k hk
      obtain ⟨a, ha, rfl⟩ := List.mem_map.1 hk
      exact hpos a ha
    · intro k hk hnext
      obtain ⟨b, hb, hordinal⟩ := List.mem_map.1 hnext
      obtain ⟨a, ha, hfollows⟩ := hj.previous hb (by omega)
      exact List.mem_map.2 ⟨a, ha, by have := hfollows.ordinal; omega⟩
  · intro a ha hone
    obtain ⟨-, hnone⟩ | ⟨prior, hprior⟩ := hj.links _ a (mem_attemptsOf.1 ha).1
    · exact hnone
    · have hordinal := hprior.ordinal
      have := (hj.spaced.owned _ prior hprior.found).1
      omega
  · intro a ha b hb hordinal
    have ha1 := hpos a ha
    obtain ⟨prior, hprior, hfollows⟩ := hj.previous hb (by omega)
    have hnext := hfollows.ordinal
    rw [hj.eq_of_ordinal ha hprior (by omega)]
    exact hfollows.predecessor
  · intro a ha hopen b hb hne
    have hlt : ∀ c ∈ j.attemptsOf deliveryId, ¬ a.ordinal < c.ordinal := by
      intro c hc hlt
      obtain ⟨next, -, hfollows⟩ := hj.next ha hc hlt
      rw [retryPredecessor_ended hfollows.ended] at hopen
      cases hopen
    have hordinal : b.ordinal < a.ordinal := by
      have := hlt b hb
      have : b.ordinal ≠ a.ordinal := fun h => hne (hj.eq_of_ordinal hb ha h)
      omega
    obtain ⟨next, -, hfollows⟩ := hj.next hb ha hordinal
    exact ⟨hordinal, retryPredecessor_ended hfollows.ended⟩
  · intro a ha b hb hlt
    obtain ⟨next, hnext, hfollows⟩ := hj.next ha hb hlt
    exact hfollows.committed (List.mem_filter.1 hnext).1

/-- No two attempts have a schedule entry in common. -/
theorem Chained.schedules_disjoint {entry : ScheduleRow} (hj : Chained j) (ha : a ∈ j.attempts.rows)
    (hb : b ∈ j.attempts.rows) (hentry : entry ∈ schedulesOf j a) (hentry' : entry ∈ schedulesOf j b) :
    a = b := by
  have hfound := Table.find_of_mem ha
  have hfound' := Table.find_of_mem hb
  obtain ⟨-, hentry⟩ := List.mem_filter.1 hentry
  obtain ⟨-, hentry'⟩ := List.mem_filter.1 hentry'
  obtain ⟨hscenario, -, -, hplace, hordinal⟩ := of_decide_eq_true hentry
  obtain ⟨hscenario', -, -, hplace', hordinal'⟩ := of_decide_eq_true hentry'
  obtain ⟨-, d, hd, howned⟩ := hj.spaced.owned _ a hfound
  obtain ⟨-, d', hd', howned'⟩ := hj.spaced.owned _ b hfound'
  rw [hd, Option.map_some, Option.some.injEq] at hplace
  rw [hd', Option.map_some, Option.some.injEq] at hplace'
  have hdelivery : a.deliveryId = b.deliveryId := by
    refine hj.spaced.placed _ _ d d' hd hd' ?_ (hplace.trans hplace'.symm)
    rw [howned.1, howned'.1, ← hscenario, hscenario']
  exact hj.eq_of_ordinal (mem_attemptsOf.2 ⟨hfound, hdelivery⟩) (mem_attemptsOf.2 ⟨hfound', rfl⟩)
    (hordinal.symm.trans hordinal')

end Deliveries

section Runs

/-- Every policy of the run is committed with redeliveries right after their predecessors. -/
def RunIssued : Journal → List JournalOperation → Prop
  | _, [] => True
  | j, op :: ops => op.Issued j ∧ RunIssued (j.transact op) ops

theorem transactAll_chained (hj : Chained j) {ops : List JournalOperation} (h : RunIssued j ops) :
    Chained (j.transactAll ops) := by
  induction ops generalizing j with
  | nil => exact hj
  | cons op ops ih =>
    obtain ⟨hissued, h⟩ := h
    refine ih ?_ h
    unfold Journal.transact
    cases hexecute : j.execute op with
    | error e => exact hj
    | ok next => exact execute_chained hj hissued hexecute

theorem transactAll_evolves {ops : List JournalOperation} (h : RunIssued j ops) :
    ReflTransGen Journal.Evolves j (j.transactAll ops) := by
  induction ops generalizing j with
  | nil => exact .refl
  | cons op ops ih =>
    obtain ⟨hissued, h⟩ := h
    refine .trans ?_ (ih h)
    unfold Journal.transact
    cases hexecute : j.execute op with
    | error e => exact .refl
    | ok next =>
      obtain hsteps | ⟨-, hadvanced⟩ := execute_steps hissued hexecute
      · exact ReflTransGen.mono (fun _ _ => Or.inl) _ _ hsteps
      · exact .single (Or.inr hadvanced)

theorem runIssued_append {before after : List JournalOperation} :
    RunIssued j (before ++ after) ↔ RunIssued j before ∧ RunIssued (j.transactAll before) after := by
  induction before generalizing j with
  | nil => exact (and_iff_right trivial).symm
  | cons op before ih => exact (and_congr_right fun _ => ih).trans and_assoc.symm

/-- The law of the attempts over a run of transactions: the attempts of each delivery are a chain,
and no schedule entry is shared by two attempts, neither in the rows nor by the claims. -/
structure AttemptLaw (j : Journal) (ops : List JournalOperation) : Prop where
  chains : ∀ deliveryId, DeliveryChain (j.transactAll ops) deliveryId
  matched : ∀ a ∈ (j.transactAll ops).attempts.rows, ∀ b ∈ (j.transactAll ops).attempts.rows,
    ∀ entry ∈ schedulesOf (j.transactAll ops) a, entry ∈ schedulesOf (j.transactAll ops) b → a = b
  claimed : ∀ before claim mid claim' after,
    ops = before ++ .claim claim :: (mid ++ .claim claim' :: after) →
    (claimAttemptSchedule (j.transactAll before) claim).isOk →
    (claimAttemptSchedule (j.transactAll (before ++ .claim claim :: mid)) claim').isOk →
    claim'.scheduleEntryId = claim.scheduleEntryId → claim'.attemptId = claim.attemptId

theorem transact_claim {claim : AttemptScheduleClaim} {committed : CommittedTransition}
    (h : claimAttemptSchedule j claim = .ok (j', committed)) : j.transact (.claim claim) = j' := by
  simp only [Journal.transact, Journal.execute, h]
  rfl

/-- A run never loses an attempt or rewrites what it is, and leaves an ended one as it ended. -/
theorem attempt_row_persists {before after : List JournalOperation} (h : RunIssued j (before ++ after))
    (hrow : (j.transactAll before).attempts.find id = some row) :
    ∃ new, (j.transactAll (before ++ after)).attempts.find id = some new ∧ row.Later new ∧
      (row.state ∈ terminalAttemptStates → new.state = row.state ∧ new.outcome = row.outcome ∧
        new.terminalRecordedAt = row.terminalRecordedAt) := by
  obtain ⟨new, hnew, hlater⟩ := evolves_later (transactAll_evolves (runIssued_append.1 h).2) hrow
  refine ⟨new, by rwa [Journal.transactAll, List.foldl_append], hlater, fun hterminal => ?_⟩
  obtain ⟨hstate, houtcome, hrecorded, -⟩ := hlater.of_terminal (rank_terminal hterminal)
  exact ⟨hstate, houtcome, hrecorded⟩

end Runs

section Redelivered

instance (entry : ScheduleRow) (j : Journal) (row : AttemptRow) : Decidable (entry.After j row) :=
  inferInstanceAs (Decidable (_ ∧ _))

/-- The one attempt ends without a known outcome. -/
def loseResponse : TransitionOperation where
  command := attemptCommand .awaitingResponse .unknownOutcome "unknown_outcome" (some ⟨.ambiguous, none⟩)
  phaseEvidence := some ⟨.awaitingResponse, none, none⟩
  responseStaging := none
  transportEvidence := some { acceptedEvidence with
    state := .unknownOutcome
    classification := .ambiguous
    response := none
    error := some ⟨"read_timeout", "no response", some "awaiting_response"⟩ }

/-- A redelivery of the one attempt under an ordinal of its own. -/
def redeliverAs (ordinal : Nat) : RedeliveryAttemptPlan where
  scenarioId := "scenario"
  eventId := "event"
  deliveryId := "delivery"
  predecessorAttemptId := "attempt"
  attemptId := "redelivery"
  attemptPlanId := "plan"
  attemptOrdinal := ordinal
  schedule := ⟨"resume.redelivery.redelivery", "scenario", "attempt", "plan", 0, 0, 0, 0, ordinal,
    "tie.redelivery", some (redeliveryCondition "redelivery" "attempt" ordinal),
    "resume.redelivery.schedule.redelivery", none⟩
  distinct := by decide
  schedule_identity := ⟨rfl, rfl⟩

def redeliveryRun (ordinal : Nat) : List JournalOperation :=
  awaitResponse ++ [.transition loseResponse, .commitPolicy ⟨0, [], [redeliverAs ordinal]⟩]

def lostRun : List JournalOperation := awaitResponse ++ [.transition loseResponse]

theorem lost_attempt_persists :
    ∃ new, (singlePlan.journal.transactAll (lostRun ++ [.advanceOwnerEpoch 0 1])).attempts.find
        "attempt" = some new ∧ new.state = .unknownOutcome := by
  have hlost : ((singlePlan.journal.transactAll lostRun).attempts.find "attempt").map
      AttemptRow.state = some .unknownOutcome := by decide +kernel
  obtain ⟨row, hrow, hstate⟩ := Option.map_eq_some_iff.1 hlost
  have hissued : RunIssued singlePlan.journal (lostRun ++ [.advanceOwnerEpoch 0 1]) :=
    ⟨trivial, trivial, trivial, trivial, trivial, trivial, trivial, trivial⟩
  obtain ⟨new, hnew, -, hended⟩ := attempt_row_persists hissued hrow
  exact ⟨new, hnew, (hended (by rw [hstate]; decide)).1.trans hstate⟩

end Redelivered

end WebhookConformance
