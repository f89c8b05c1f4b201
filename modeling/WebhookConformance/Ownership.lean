import WebhookConformance.Bootstrap
import WebhookConformance.JournalSteps

/-! The owner epoch of a run: what guards it and what it guards. -/
namespace WebhookConformance

open Checked Relation

variable {j j' : Journal} {op : JournalOperation}

/-- The epoch that an operation was issued under. -/
def JournalOperation.ownerEpoch : JournalOperation → Nat
  | .transition op => op.command.ownerEpoch
  | .claim c => c.transition.ownerEpoch
  | .rebind _ _ ownerEpoch => ownerEpoch
  | .beginSeries c => c.initialTransition.ownerEpoch
  | .appendSample c => c.ownerEpoch
  | .appendEvaluation c => c.terminalTransition.ownerEpoch
  | .finalizeRun r => r.ownerEpoch
  | .advanceOwnerEpoch previousOwnerEpoch _ => previousOwnerEpoch
  | .commitPolicy plan => plan.ownerEpoch

/-- `JournalService.execute`: an error rolls the transaction back. -/
def Journal.transact (j : Journal) (op : JournalOperation) : Journal :=
  match j.execute op with
  | .ok j' => j'
  | .error _ => j

def Journal.transactAll (j : Journal) (ops : List JournalOperation) : Journal :=
  ops.foldl Journal.transact j

section Owner

theorem applyTransition_owner {op : TransitionOperation} {committed : CommittedTransition}
    (h : applyTransition j op = .ok (j', committed)) : op.command.ownerEpoch = j.run.ownerEpoch := by
  obtain ⟨_, -, h⟩ := bind_ok h
  obtain ⟨_, -, h⟩ := bind_ok h
  obtain ⟨_, -, h⟩ := bind_ok h
  obtain ⟨_, howner, -⟩ := bind_ok h
  exact (require_ok howner).symm

/-- An operation of another epoch than the stored one does not succeed. -/
theorem execute_owner (h : j.execute op = .ok j') : op.ownerEpoch = j.run.ownerEpoch := by
  cases op with
  | transition op => exact applyTransition_owner (map_fst_ok h).choose_spec
  | claim claim =>
    obtain ⟨_, h⟩ := map_fst_ok h
    obtain ⟨_, howner, -⟩ := bind_ok h
    exact (require_ok howner).symm
  | rebind attemptId expectedState ownerEpoch =>
    obtain ⟨_, -, h⟩ := bind_ok h
    obtain ⟨_, howner, -⟩ := bind_ok h
    exact (require_ok howner).symm
  | beginSeries command =>
    obtain ⟨_, h⟩ := map_fst_ok h
    obtain ⟨_, howner, -⟩ := bind_ok h
    exact (require_ok howner).symm
  | appendSample command =>
    obtain ⟨_, howner, -⟩ := bind_ok h
    exact (require_ok howner).symm
  | appendEvaluation command =>
    obtain ⟨_, h⟩ := map_fst_ok h
    obtain ⟨_, howner, -⟩ := bind_ok h
    exact (require_ok howner).symm
  | finalizeRun request =>
    obtain ⟨⟨applied, _⟩, happly, -⟩ := bind_ok h
    exact request.completion_edge.2.2.symm.trans (applyTransition_owner happly)
  | advanceOwnerEpoch old new => exact (advanceOwnerEpoch_ok h).2.1
  | commitPolicy plan =>
    obtain ⟨_, h⟩ := map_fst_ok h
    obtain ⟨_, howner, -⟩ := bind_ok h
    exact (require_ok howner).symm

end Owner

section Epoch

theorem step_epoch (h : j.Step j') : j'.run.ownerEpoch = j.run.ownerEpoch := by
  cases h with
  | commit _ hwritten => exact hwritten.run_frame.1
  | _ => rfl

theorem steps_epoch (h : ReflTransGen Journal.Step j j') :
    j'.run.ownerEpoch = j.run.ownerEpoch := by
  induction h with
  | refl => rfl
  | tail _ hstep ih => exact (step_epoch hstep).trans ih

theorem insertRedelivery_run {epoch : Nat} {r : RedeliveryAttemptPlan}
    (h : insertRedelivery epoch j r = .ok j') : j'.run = j.run := by
  obtain ⟨_, -, h⟩ := bind_ok h
  obtain ⟨inserted, hinserted, h⟩ := bind_ok h
  obtain ⟨attempts, -, rfl, -⟩ := insertAttempt_ok hinserted
  obtain ⟨schedule, rfl, -⟩ := insertScheduleRow_ok h
  rfl

/-- A policy commit of any plan leaves the run's row alone. -/
theorem commitPolicy_run {plan : ResumePolicyPlan} {applied : Bool}
    (h : commitPolicy j plan = .ok (j', applied)) : j'.run = j.run := by
  obtain ⟨_, -, h⟩ := bind_ok h
  split at h
  · obtain ⟨decided, hdecided, h⟩ := bind_ok h
    obtain ⟨redelivered, hredelivered, h⟩ := bind_ok h
    cases pure_ok h
    have hdecisions : decided.run = j.run := by
      refine runAll_invariant (P := fun u => u.run = j.run) ?_ hdecided rfl
      intro u plan v _ hstep hu
      obtain ⟨decisions, -, hstep⟩ := bind_ok hstep
      cases pure_ok hstep
      exact hu
    refine runAll_invariant (P := fun u => u.run = j.run) ?_ hredelivered hdecisions
    intro u r v _ hstep hu
    exact (insertRedelivery_run hstep).trans hu
  · obtain ⟨_, -, h⟩ := bind_ok h
    obtain ⟨_, -, h⟩ := bind_ok h
    cases pure_ok h
    rfl

/-- The epoch stays, or `_AdvanceOwnerEpoch` moves it by one. -/
theorem execute_epoch (h : j.execute op = .ok j') :
    j'.run.ownerEpoch = j.run.ownerEpoch ∨
      op = .advanceOwnerEpoch j.run.ownerEpoch (j.run.ownerEpoch + 1) ∧
        j'.run.ownerEpoch = j.run.ownerEpoch + 1 := by
  cases op with
  | commitPolicy plan => exact Or.inl (congrArg _ (commitPolicy_run (map_fst_ok h).choose_spec))
  | _ =>
    obtain hsteps | ⟨hop, rfl⟩ := execute_steps (by trivial) h
    · exact Or.inl (steps_epoch hsteps)
    · exact Or.inr ⟨hop, rfl⟩

theorem transact_stale (h : op.ownerEpoch ≠ j.run.ownerEpoch) :
    (∃ e, j.execute op = .error e) ∧ j.transact op = j := by
  cases hexecute : j.execute op with
  | error e => exact ⟨⟨e, rfl⟩, by rw [Journal.transact, hexecute]⟩
  | ok j' => exact absurd (execute_owner hexecute) h

theorem transact_epoch (j : Journal) (op : JournalOperation) :
    (j.transact op).run.ownerEpoch = j.run.ownerEpoch ∨
      op = .advanceOwnerEpoch j.run.ownerEpoch (j.run.ownerEpoch + 1) ∧
        (j.transact op).run.ownerEpoch = j.run.ownerEpoch + 1 := by
  unfold Journal.transact
  cases hexecute : j.execute op with
  | error e => exact Or.inl rfl
  | ok j' => exact execute_epoch hexecute

theorem transactAll_epoch_le (j : Journal) (ops : List JournalOperation) :
    j.run.ownerEpoch ≤ (j.transactAll ops).run.ownerEpoch := by
  induction ops generalizing j with
  | nil => exact le_rfl
  | cons op ops ih =>
    refine le_trans ?_ (ih (j.transact op))
    obtain heq | ⟨-, heq⟩ := transact_epoch j op <;> omega

/-- From any journal and after any transactions, failed ones among them: the next one leaves the
epoch or advances it by one; an operation of another epoch raises and changes nothing; and one of
an earlier epoch will never change anything again. -/
theorem stale_epoch_never_commits (j : Journal) (ops : List JournalOperation) :
    (∀ op, ((j.transactAll ops).transact op).run.ownerEpoch = (j.transactAll ops).run.ownerEpoch ∨
      op = .advanceOwnerEpoch (j.transactAll ops).run.ownerEpoch
          ((j.transactAll ops).run.ownerEpoch + 1) ∧
        ((j.transactAll ops).transact op).run.ownerEpoch =
          (j.transactAll ops).run.ownerEpoch + 1) ∧
    (∀ op, op.ownerEpoch ≠ (j.transactAll ops).run.ownerEpoch →
      (∃ e, (j.transactAll ops).execute op = .error e) ∧
        (j.transactAll ops).transact op = j.transactAll ops) ∧
    ∀ op later, op.ownerEpoch < (j.transactAll ops).run.ownerEpoch →
      ((j.transactAll ops).transactAll later).transact op = (j.transactAll ops).transactAll later := by
  refine ⟨transact_epoch _, fun op => transact_stale, ?_⟩
  intro op later hstale
  have hle := transactAll_epoch_le (j.transactAll ops) later
  exact (transact_stale (by omega)).2

theorem claim_after_takeover_refused :
    (singlePlan.journal.transactAll [.advanceOwnerEpoch 0 1]).transact (.claim singleClaim) =
      singlePlan.journal.transactAll [.advanceOwnerEpoch 0 1] :=
  ((stale_epoch_never_commits singlePlan.journal [.advanceOwnerEpoch 0 1]).2.1
    (.claim singleClaim) (by decide +kernel)).2

end Epoch

end WebhookConformance
