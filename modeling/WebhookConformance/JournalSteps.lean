import WebhookConformance.Operations
import WebhookConformance.TransitionSpec

/-! The operations of the journal as sequences of single writes. -/
namespace WebhookConformance

open Checked Relation

variable {j j' : Journal}

/-- The schedule row of the attempt after `row`, as `_derived_next_attempt_schedule_exists` finds
it. -/
def ScheduleRow.After (entry : ScheduleRow) (j : Journal) (row : AttemptRow) : Prop :=
  entry.scenarioId = row.scenarioId ∧ entry.entityType = "attempt" ∧
    (j.scenarios.find row.scenarioId).map ScenarioRow.ordinal = some entry.scenarioOrdinal ∧
    (j.deliveries.find row.deliveryId).map (fun d => (d.stepOrdinal, d.ordinal)) =
      some (entry.stepOrdinal, entry.deliveryOrdinal) ∧
    entry.attemptOrdinal = row.ordinal + 1

/-- An attempt as it is prepared or claimed. -/
structure AttemptRow.Fresh (row : AttemptRow) : Prop where
  ordinal : 1 ≤ row.ordinal
  state : row.state = .scheduled
  outcome : row.outcome = none
  terminalRecordedAt : row.terminalRecordedAt = none

/-- One write of a transaction, with what the transaction has checked before it. Only
`_AdvanceOwnerEpoch` writes the owner epoch, and it is not among these. -/
inductive Journal.Step (j : Journal) : Journal → Prop where
  | commit {op : TransitionOperation} {j' : Journal} (accepted : Accepted j op)
      (written : Written j op j') : Step j j'
  | consume {claim : AttemptScheduleClaim} {entry : ScheduleRow}
      (owner : j.run.ownerEpoch = claim.transition.ownerEpoch)
      (found : j.schedule.find claim.scheduleEntryId = some entry)
      (pending : entry.consumed = none) : Step j (consumeSchedule j claim)
  | insertAttempt {row : AttemptRow} {attempts : Table AttemptRow AttemptRow.attemptId}
      (fresh : row.Fresh) (owned : ∃ d ∈ j.deliveries.find row.deliveryId, row.OwnedBy d)
      (unique : ∀ other ∈ j.attempts.rows,
        ¬ (other.deliveryId = row.deliveryId ∧ other.ordinal = row.ordinal))
      (inserted : j.attempts.insert row = some attempts) : Step j { j with attempts }
  | rebindSchedule {entry : ScheduleRow} {consumedAt : String} {consumedEpoch : Nat}
      (found : j.schedule.find entry.scheduleEntryId = some entry)
      (consumed : entry.consumed = some (consumedAt, consumedEpoch)) :
      Step j { j with
        schedule := j.schedule.modify entry.scheduleEntryId
          (fun r => { r with consumed := some (consumedAt, j.run.ownerEpoch) }) fun _ => rfl }
  | rebindAttempt {row : AttemptRow} (found : j.attempts.find row.attemptId = some row)
      (recoverable : row.state = .scheduled ∨ row.state = .claimed) :
      Step j { j with
        attempts := j.attempts.modify row.attemptId
          (fun r => { r with ownerEpoch := j.run.ownerEpoch }) fun _ => rfl }
  | insertSeries {row : SeriesRow} {series : Table SeriesRow SeriesRow.observationId}
      (fresh : row.state = .scheduled) (planned : (j.scenarios.find row.scenarioId).isSome)
      (inserted : j.series.insert row = some series) :
      Step j { j with series }
  | insertSample {record : SampleRow} {samples : Table SampleRow SampleRow.sampleId}
      (inserted : j.samples.insert record = some samples) : Step j { j with samples }
  | insertEvaluation {evaluation : EvaluationRow}
      {evaluations : Table EvaluationRow EvaluationRow.evaluationId}
      (inserted : j.evaluations.insert evaluation = some evaluations) : Step j { j with evaluations }
  | complete (terminal : Option (ResultCategory × String)) :
      Step j { j with run := { j.run with terminal } }
  | insertDecision {row : DecisionRow} {decisions : Table DecisionRow fun r => r.plan.decisionId}
      (inserted : j.decisions.insert row = some decisions) : Step j { j with decisions }
  | redeliver {entry : ScheduleRow} {schedule : Table ScheduleRow ScheduleRow.scheduleEntryId}
      {prior : AttemptRow} (pending : entry.consumed = none) (found : prior ∈ j.attempts.rows)
      (unknown : prior.state = .unknownOutcome) (after : entry.After j prior)
      (inserted : j.schedule.insert entry = some schedule) : Step j { j with schedule }

/-- Every redelivery of a plan is scheduled right after its predecessor, as `_redelivery_from` makes
it; the other operations are free. -/
def JournalOperation.Issued (j : Journal) : JournalOperation → Prop
  | .commitPolicy plan => ∀ r ∈ plan.redeliveries, ∀ prior ∈ j.attempts.find r.predecessorAttemptId,
      r.schedule.After j prior
  | _ => True

/-- One successful operation. -/
def Journal.Operates (j j' : Journal) : Prop := ∃ op : JournalOperation, op.Issued j ∧ j.execute op = .ok j'

section Steps

theorem applyTransition_steps {op : TransitionOperation} {committed : CommittedTransition}
    (h : applyTransition j op = .ok (j', committed)) : ReflTransGen Journal.Step j j' := by
  obtain ⟨_, -, -, rfl, -⟩ | ⟨haccepted, hwritten, -⟩ := applyTransition_ok h
  · exact .refl
  · exact .single (.commit haccepted hwritten)

theorem insertAttempt_ok {row : AttemptRow} (h : insertAttempt j row = .ok j') :
    ∃ attempts, j.attempts.insert row = some attempts ∧ j' = { j with attempts } ∧
      (∃ d ∈ j.deliveries.find row.deliveryId, row.OwnedBy d) ∧
      (∀ id ∈ row.predecessorAttemptId, ∃ prior ∈ j.attempts.find id, row.Continues prior) ∧
      ∀ other ∈ j.attempts.rows,
        ¬ (other.deliveryId = row.deliveryId ∧ other.ordinal = row.ordinal) := by
  obtain ⟨_, howned, h⟩ := bind_ok h
  obtain ⟨_, hprior, h⟩ := bind_ok h
  obtain ⟨_, hunique, h⟩ := bind_ok h
  obtain ⟨attempts, hinsert, h⟩ := bind_ok h
  exact ⟨attempts, insertRow_ok hinsert, (pure_ok h).symm, require_ok howned, require_ok hprior,
    require_ok hunique⟩

theorem insertAttempt_step {row : AttemptRow} (hfresh : row.Fresh)
    (h : insertAttempt j row = .ok j') : j.Step j' := by
  obtain ⟨attempts, hinsert, rfl, howned, -, hunique⟩ := insertAttempt_ok h
  exact .insertAttempt hfresh howned hunique hinsert

/-- A claim is for the first attempt, or for one after its predecessor. -/
theorem claimed_ordinal {claim : AttemptScheduleClaim} {entry : ScheduleRow}
    (h : validateAttemptScheduleClaim j claim entry = .ok ()) : 1 ≤ entry.attemptOrdinal := by
  obtain ⟨_, -, h⟩ := bind_ok h
  obtain ⟨_, -, h⟩ := bind_ok h
  obtain ⟨_, -, h⟩ := bind_ok h
  unfold validateClaimedPredecessor at h
  split at h
  · exact (require_ok h).2.ge
  · unfold validateRetryPredecessor at h
    split at h
    · cases h
    · obtain ⟨_, hordinal, -⟩ := bind_ok h
      exact require_ok hordinal

/-- The attempt of a claim was prepared, or it is inserted now. -/
theorem insertClaimedAttempt_ok {claim : AttemptScheduleClaim} {entry : ScheduleRow}
    (h : insertClaimedAttempt j claim entry = .ok j') :
    (j' = j ∧ ∃ prepared, j.attempts.find claim.attemptId = some prepared ∧
        prepared.identity = (claimedRow claim entry).identity ∧ prepared.state = .scheduled) ∨
      j.attempts.find claim.attemptId = none ∧
        insertAttempt j (claimedRow claim entry) = .ok j' := by
  unfold insertClaimedAttempt at h
  split at h
  · next prepared hprepared =>
    obtain ⟨_, hidentity, h⟩ := bind_ok h
    exact Or.inl ⟨(pure_ok h).symm, prepared, hprepared, require_ok hidentity⟩
  · next hnone => exact Or.inr ⟨hnone, h⟩

theorem verifiedClaimTransition_ok {claim : AttemptScheduleClaim} {existing : TransitionRecord}
    (h : verifiedClaimTransition j claim = .ok existing) :
    existing ∈ j.transitions ∧ existing.key = claim.transition.key := by
  unfold verifiedClaimTransition at h
  split at h
  · cases h
  next found hfind =>
  obtain ⟨_, hclaims, h⟩ := bind_ok h
  cases pure_ok h
  exact ⟨List.mem_of_find?_eq_some hfind, congrArg TransitionRecord.key (require_ok hclaims).1⟩

/-- A claim consumes its pending entry, or it repeats an earlier one. -/
theorem claimAttemptSchedule_ok {claim : AttemptScheduleClaim} {committed : CommittedTransition}
    (h : claimAttemptSchedule j claim = .ok (j', committed)) :
    ∃ entry, j.run.ownerEpoch = claim.transition.ownerEpoch ∧
      j.schedule.find claim.scheduleEntryId = some entry ∧
      validateAttemptScheduleClaim j claim entry = .ok () ∧
      ((entry.consumed = none ∧ ∃ inserted,
          insertClaimedAttempt (consumeSchedule j claim) claim entry = .ok inserted ∧
          applyTransition inserted claim.transition.plain = .ok (j', committed)) ∨
        (j' = j ∧ committed.idempotentReplay = true ∧
          (∃ row, j.attempts.find claim.attemptId = some row ∧
            row.identity = (claimedRow claim entry).identity) ∧
          ∃ existing ∈ j.transitions, existing.key = claim.transition.key)) := by
  obtain ⟨_, howner, h⟩ := bind_ok h
  split at h
  · cases h
  next entry hentry =>
  obtain ⟨_, hvalid, h⟩ := bind_ok h
  refine ⟨entry, require_ok howner, hentry, hvalid, ?_⟩
  split at h
  · next hpending =>
    obtain ⟨inserted, hinserted, happly⟩ := bind_ok h
    exact Or.inl ⟨hpending, inserted, hinserted, happly⟩
  · obtain ⟨_, -, h⟩ := bind_ok h
    obtain ⟨_, hrow, h⟩ := bind_ok h
    obtain ⟨existing, hexisting, h⟩ := bind_ok h
    cases pure_ok h
    exact Or.inr ⟨rfl, rfl, require_ok hrow, existing, verifiedClaimTransition_ok hexisting⟩

theorem claimAttemptSchedule_steps {claim : AttemptScheduleClaim} {committed : CommittedTransition}
    (h : claimAttemptSchedule j claim = .ok (j', committed)) : ReflTransGen Journal.Step j j' := by
  obtain ⟨entry, howner, hentry, hvalid, ⟨hpending, inserted, hinserted, happly⟩ | ⟨rfl, -⟩⟩ :=
    claimAttemptSchedule_ok h
  · refine .head (.consume howner hentry hpending) ?_
    refine .trans ?_ (applyTransition_steps happly)
    obtain ⟨rfl, -⟩ | ⟨-, hinserted⟩ := insertClaimedAttempt_ok hinserted
    · exact .refl
    · exact .single (insertAttempt_step ⟨claimed_ordinal hvalid, rfl, rfl, rfl⟩ hinserted)
  · exact .refl

theorem rebindEntry_step {row : AttemptRow} {entry : ScheduleRow} {ownerEpoch : Nat}
    (howner : j.run.ownerEpoch = ownerEpoch) (hentry : entry ∈ j.schedule.rows)
    (h : rebindEntry j row entry ownerEpoch = .ok j') :
    (j' = j ∨ j.Step j') ∧ ∃ schedule, j' = { j with schedule } := by
  unfold rebindEntry at h
  split at h
  · obtain ⟨_, -, h⟩ := bind_ok h
    cases pure_ok h
    exact ⟨Or.inl rfl, j.schedule, rfl⟩
  · unfold rebindSchedule at h
    split at h
    · cases h
    next consumedAt consumedEpoch hconsumed =>
    obtain ⟨_, -, h⟩ := bind_ok h
    cases pure_ok h
    subst howner
    exact ⟨Or.inr (.rebindSchedule (Table.find_of_mem hentry) hconsumed), _, rfl⟩

/-- A rebind writes owner epochs only: of the attempt, and of its consumed schedule entry. -/
theorem rebindRecoverableAttempt_ok {attemptId : String} {expectedState : AttemptState}
    {ownerEpoch : Nat} (h : rebindRecoverableAttempt j attemptId expectedState ownerEpoch = .ok j') :
    ReflTransGen Journal.Step j j' ∧ ∃ schedule row, j' = { j with
      schedule
      attempts := j.attempts.modify row (fun r => { r with ownerEpoch }) fun _ => rfl } := by
  obtain ⟨_, hexpected, h⟩ := bind_ok h
  obtain ⟨_, howner, h⟩ := bind_ok h
  split at h
  · cases h
  next row hrow =>
  unfold rebindRow at h
  split at h
  swap
  · cases h
  next entry hentries =>
  obtain ⟨_, hstate, h⟩ := bind_ok h
  obtain ⟨_, -, h⟩ := bind_ok h
  obtain ⟨rebound, hrebound, h⟩ := bind_ok h
  cases pure_ok h
  have hentry : entry ∈ j.schedule.rows := by
    have hmem : entry ∈ schedulesOf j row := by rw [hentries]; exact List.mem_singleton_self entry
    exact (List.mem_filter.1 hmem).1
  obtain ⟨hstep, schedule, rfl⟩ := rebindEntry_step (require_ok howner) hentry hrebound
  have hfound : j.attempts.find row.attemptId = some row :=
    Table.find_of_mem (Table.find_eq_some.1 hrow).1
  have hrecoverable := require_ok hexpected
  rw [← require_ok hstate] at hrecoverable
  have hlast : ({ j with schedule } : Journal).Step { j with
      schedule
      attempts := j.attempts.modify row.attemptId (fun r => { r with ownerEpoch }) fun _ => rfl } := by
    obtain rfl := require_ok howner
    exact .rebindAttempt hfound hrecoverable
  refine ⟨?_, schedule, row.attemptId, rfl⟩
  obtain heq | hstep := hstep
  · rw [heq] at hlast
    exact .single hlast
  · exact .head hstep (.single hlast)

/-- A series is new, for a planned scenario, or it repeats the stored one. -/
theorem insertSeries_ok {c : ObservationSeriesCommand} (h : insertSeries j c = .ok j') :
    (j.series.find c.observationId = none ∧ (j.scenarios.find c.scenarioId).isSome ∧
      ∃ series, j.series.insert c.row = some series ∧ j' = { j with series }) ∨ j' = j := by
  unfold insertSeries at h
  split at h
  · next hnone =>
    obtain ⟨_, -, h⟩ := bind_ok h
    obtain ⟨_, hplanned, h⟩ := bind_ok h
    obtain ⟨series, hseries, h⟩ := bind_ok h
    cases pure_ok h
    exact Or.inl ⟨hnone, require_ok hplanned, series, insertRow_ok hseries, rfl⟩
  · obtain ⟨_, -, h⟩ := bind_ok h
    exact Or.inr (pure_ok h).symm

theorem insertSeries_steps {c : ObservationSeriesCommand} (h : insertSeries j c = .ok j') :
    ReflTransGen Journal.Step j j' := by
  obtain ⟨-, hplanned, series, hinsert, rfl⟩ | rfl := insertSeries_ok h
  · exact .single (.insertSeries rfl hplanned hinsert)
  · exact .refl

theorem beginSeries_steps {c : ObservationSeriesCommand} {committed : CommittedTransition × CommittedTransition}
    (h : beginSeries j c = .ok (j', committed)) : ReflTransGen Journal.Step j j' := by
  obtain ⟨_, -, h⟩ := bind_ok h
  obtain ⟨inserted, hinserted, h⟩ := bind_ok h
  obtain ⟨⟨scheduled, initial⟩, hinitial, h⟩ := bind_ok h
  obtain ⟨⟨running, started⟩, hrunning, h⟩ := bind_ok h
  cases pure_ok h
  exact (insertSeries_steps hinserted).trans
    ((applyTransition_steps hinitial).trans (applyTransition_steps hrunning))

theorem insertSample_ok {record : SampleRow} {series : SeriesRow}
    (h : insertSample j record series = .ok j') :
    j' = j ∨ ∃ samples, j.samples.insert record = some samples ∧ j' = { j with samples } := by
  unfold insertSample at h
  split at h
  · obtain ⟨_, -, h⟩ := bind_ok h
    obtain ⟨_, -, h⟩ := bind_ok h
    obtain ⟨samples, hsamples, h⟩ := bind_ok h
    exact Or.inr ⟨samples, insertRow_ok hsamples, (pure_ok h).symm⟩
  · obtain ⟨_, -, h⟩ := bind_ok h
    exact Or.inl (pure_ok h).symm
  · cases h

/-- The two writes of a sample: its row, and the end of its series. -/
theorem appendSample_ok {c : ObservationSampleCommand} (h : appendSample j c = .ok j') :
    ∃ series inserted, insertSample j c.record series = .ok inserted ∧
      (j' = inserted ∨ ∃ t committed, c.terminalTransition = some t ∧
        applyTransition inserted (TransitionCommand.plain t) = .ok (j', committed)) := by
  obtain ⟨_, -, h⟩ := bind_ok h
  split at h
  · cases h
  next series _ =>
  obtain ⟨_, -, h⟩ := bind_ok h
  obtain ⟨inserted, hinserted, h⟩ := bind_ok h
  refine ⟨series, inserted, hinserted, ?_⟩
  cases hterminal : c.terminalTransition with
  | none =>
    rw [hterminal] at h
    cases h
    exact Or.inl rfl
  | some t =>
    rw [hterminal] at h
    obtain ⟨⟨applied, committed⟩, happly, h⟩ := bind_ok h
    cases pure_ok h
    exact Or.inr ⟨t, committed, rfl, happly⟩

theorem appendSample_steps {c : ObservationSampleCommand} (h : appendSample j c = .ok j') :
    ReflTransGen Journal.Step j j' := by
  obtain ⟨series, inserted, hinserted, h⟩ := appendSample_ok h
  have hinsert : ReflTransGen Journal.Step j inserted := by
    obtain rfl | ⟨samples, hsamples, rfl⟩ := insertSample_ok hinserted
    · exact .refl
    · exact .single (.insertSample hsamples)
  obtain rfl | ⟨t, committed, -, happly⟩ := h
  · exact hinsert
  · exact hinsert.trans (applyTransition_steps happly)

theorem appendEvaluationRow_ok {evaluation : EvaluationRow}
    (h : appendEvaluationRow j evaluation = .ok j') :
    j' = j ∨ ∃ evaluations, j.evaluations.insert evaluation = some evaluations ∧
      j' = { j with evaluations } := by
  unfold appendEvaluationRow at h
  split at h
  · obtain ⟨_, -, h⟩ := bind_ok h
    obtain ⟨_, -, h⟩ := bind_ok h
    obtain ⟨_, -, h⟩ := bind_ok h
    obtain ⟨evaluations, hevaluations, h⟩ := bind_ok h
    exact Or.inr ⟨evaluations, insertRow_ok hevaluations, (pure_ok h).symm⟩
  · obtain ⟨_, -, h⟩ := bind_ok h
    obtain ⟨_, -, h⟩ := bind_ok h
    exact Or.inl (pure_ok h).symm
  · cases h

theorem appendEvaluation_steps {c : AssertionEvaluationCommand} {committed : CommittedTransition}
    (h : appendEvaluation j c = .ok (j', committed)) : ReflTransGen Journal.Step j j' := by
  obtain ⟨_, -, h⟩ := bind_ok h
  obtain ⟨appended, happended, h⟩ := bind_ok h
  refine .trans ?_ (applyTransition_steps h)
  obtain rfl | ⟨evaluations, hevaluations, rfl⟩ := appendEvaluationRow_ok happended
  · exact .refl
  · exact .single (.insertEvaluation hevaluations)

theorem finalizeRun_steps {request : FullRunCompletionRequest} (h : finalizeRun j request = .ok j') :
    ReflTransGen Journal.Step j j' := by
  obtain ⟨⟨applied, _⟩, happly, h⟩ := bind_ok h
  obtain ⟨_, -, h⟩ := bind_ok h
  cases pure_ok h
  exact .tail (applyTransition_steps happly) (.complete _)

/-- `_AdvanceOwnerEpoch` writes nothing but the next epoch. -/
def Journal.advanced (j : Journal) : Journal :=
  { j with run := { j.run with ownerEpoch := j.run.ownerEpoch + 1 } }

theorem advanceOwnerEpoch_ok {old new : Nat} (h : advanceOwnerEpoch j old new = .ok j') :
    j' = j.advanced ∧ old = j.run.ownerEpoch ∧ new = old + 1 := by
  obtain ⟨_, hnew, h⟩ := bind_ok h
  obtain ⟨_, hold, h⟩ := bind_ok h
  cases pure_ok h
  obtain rfl := require_ok hold
  obtain rfl := require_ok hnew
  exact ⟨rfl, rfl, rfl⟩

/-- The journal of a policy commit on its way: it has gained decisions, prepared attempts and their
schedule. -/
structure Prepared (j u : Journal) : Prop where
  steps : ReflTransGen Journal.Step j u
  scenarios : u.scenarios = j.scenarios
  deliveries : u.deliveries = j.deliveries
  attempts : ∀ id a, u.attempts.find id = some a → j.attempts.find id = some a ∨ a.state = .scheduled

theorem Prepared.refl : Prepared j j := ⟨.refl, rfl, rfl, fun _ _ h => Or.inl h⟩

theorem insertDecision_prepared {u v : Journal} {plan : RecoveryDecisionPlan} (hu : Prepared j u)
    (h : insertDecision u plan = .ok v) : Prepared j v := by
  obtain ⟨decisions, hdecisions, h⟩ := bind_ok h
  cases pure_ok h
  exact ⟨hu.steps.tail (.insertDecision (insertRow_ok hdecisions)), hu.scenarios, hu.deliveries,
    hu.attempts⟩

theorem insertRedelivery_prepared {u v : Journal} {epoch : Nat} {r : RedeliveryAttemptPlan}
    (hu : Prepared j u)
    (hissued : ∀ prior ∈ j.attempts.find r.predecessorAttemptId, r.schedule.After j prior)
    (h : insertRedelivery epoch u r = .ok v) : Prepared j v := by
  obtain ⟨_, hprior, h⟩ := bind_ok h
  obtain ⟨inserted, hinserted, h⟩ := bind_ok h
  obtain ⟨prior, hfound, hscenario, hunknown⟩ := require_ok hprior
  obtain ⟨schedule, rfl, hschedule, -⟩ := insertScheduleRow_ok h
  have hafter : r.schedule.After j prior := by
    obtain hj | hscheduled := hu.attempts _ _ hfound
    · exact hissued prior hj
    · rw [hunknown] at hscheduled
      cases hscheduled
  have hordinal : 1 ≤ r.attemptOrdinal := by
    rw [← r.schedule_identity.2, hafter.2.2.2.2]
    exact Nat.le_add_left 1 _
  have hstep : u.Step inserted := insertAttempt_step ⟨hordinal, rfl, rfl, rfl⟩ hinserted
  obtain ⟨attempts, hattempts, rfl, -⟩ := insertAttempt_ok hinserted
  have hfind := fun id => Table.find_insert (k := id) hattempts
  have hold : prior ∈ attempts.rows := by
    rw [(Table.insert_some hattempts).1]
    exact List.mem_append_left _ (Table.find_eq_some.1 hfound).1
  refine ⟨(hu.steps.tail hstep).tail (.redeliver rfl hold hunknown ?_ hschedule),
    hu.scenarios, hu.deliveries, ?_⟩
  · obtain ⟨-, -, hplace⟩ := hafter
    refine ⟨hscenario.symm, rfl, ?_⟩
    dsimp only
    rwa [hu.scenarios, hu.deliveries]
  · intro id a ha
    dsimp only at ha
    rw [hfind] at ha
    split at ha
    · cases ha
      exact Or.inr rfl
    · exact hu.attempts id a ha

theorem commitPolicy_steps {plan : ResumePolicyPlan} {applied : Bool}
    (hissued : JournalOperation.Issued j (.commitPolicy plan))
    (h : commitPolicy j plan = .ok (j', applied)) : ReflTransGen Journal.Step j j' := by
  obtain ⟨_, -, h⟩ := bind_ok h
  split at h
  · obtain ⟨decided, hdecided, h⟩ := bind_ok h
    obtain ⟨redelivered, hredelivered, h⟩ := bind_ok h
    cases pure_ok h
    have hprepared : Prepared j decided :=
      runAll_invariant (fun _ _ _ _ hstep hu => insertDecision_prepared hu hstep) hdecided .refl
    have hall : Prepared j j' :=
      runAll_invariant (fun _ r _ hr hstep hu => insertRedelivery_prepared hu (hissued r hr) hstep)
        hredelivered hprepared
    exact hall.steps
  · obtain ⟨_, -, h⟩ := bind_ok h
    obtain ⟨_, -, h⟩ := bind_ok h
    cases pure_ok h
    exact .refl

theorem map_fst_ok {ε α β : Type} {x : Except ε (α × β)} {a : α} (h : Prod.fst <$> x = .ok a) :
    ∃ b, x = .ok (a, b) := by
  cases x with
  | error e => cases h
  | ok p =>
    cases h
    exact ⟨p.2, rfl⟩

/-- Every operation is a sequence of single writes, or it advances the owner epoch. -/
theorem execute_steps {op : JournalOperation} (hissued : op.Issued j) (h : j.execute op = .ok j') :
    ReflTransGen Journal.Step j j' ∨
      op = .advanceOwnerEpoch j.run.ownerEpoch (j.run.ownerEpoch + 1) ∧ j' = j.advanced := by
  cases op with
  | transition op => exact Or.inl (applyTransition_steps (map_fst_ok h).choose_spec)
  | claim claim => exact Or.inl (claimAttemptSchedule_steps (map_fst_ok h).choose_spec)
  | rebind attemptId expectedState ownerEpoch => exact Or.inl (rebindRecoverableAttempt_ok h).1
  | beginSeries command => exact Or.inl (beginSeries_steps (map_fst_ok h).choose_spec)
  | appendSample command => exact Or.inl (appendSample_steps h)
  | appendEvaluation command => exact Or.inl (appendEvaluation_steps (map_fst_ok h).choose_spec)
  | finalizeRun request => exact Or.inl (finalizeRun_steps h)
  | advanceOwnerEpoch old new =>
    obtain ⟨hj, rfl, rfl⟩ := advanceOwnerEpoch_ok h
    exact Or.inr ⟨rfl, hj⟩
  | commitPolicy plan => exact Or.inl (commitPolicy_steps hissued (map_fst_ok h).choose_spec)

/-- One write of a run: of a transaction, or of the owner epoch. -/
def Journal.Evolves (j j' : Journal) : Prop := j.Step j' ∨ j' = j.advanced

/-- A run of operations is a run of single writes. -/
theorem operations_evolve (h : ReflTransGen Journal.Operates j j') :
    ReflTransGen Journal.Evolves j j' := by
  induction h with
  | refl => exact .refl
  | tail _ hop ih =>
    obtain ⟨op, hissued, hop⟩ := hop
    obtain hwrites | ⟨-, hadvanced⟩ := execute_steps hissued hop
    · exact ih.trans (ReflTransGen.mono (fun _ _ => Or.inl) _ _ hwrites)
    · exact ih.tail (Or.inr hadvanced)

/-- What every write keeps, every run keeps. -/
theorem evolves_invariant {P : Journal → Prop} (hstep : ∀ j j', P j → j.Step j' → P j')
    (hadvance : ∀ j : Journal, P j → P j.advanced)
    (h : ReflTransGen Journal.Evolves j j') (hj : P j) : P j' := by
  induction h with
  | refl => exact hj
  | tail _ hwrite ih =>
    obtain hwrite | rfl := hwrite
    · exact hstep _ _ ih hwrite
    · exact hadvance _ ih

end Steps

end WebhookConformance
