import WebhookConformance.Histories
import WebhookConformance.Replay

/-! What the journal holds about an attempt besides its row: the staged response and the final
record, over every sequence of transactions. -/
namespace WebhookConformance

open Checked Relation

variable {j j' : Journal} {op : TransitionOperation} {id : String} {row : AttemptRow}

section Runs

/-- What every write keeps, and the redeliveries of any policy, an operation keeps. -/
theorem execute_invariant {P : Journal → Prop} (hstep : ∀ j j', P j → j.Step j' → P j')
    (hadvance : ∀ j : Journal, P j → P j.advanced)
    (hredeliver : ∀ j j' epoch r, P j → insertRedelivery epoch j r = .ok j' → P j')
    {o : JournalOperation} (h : j.execute o = .ok j') (hj : P j) : P j' := by
  cases o with
  | commitPolicy plan =>
    obtain ⟨applied, h⟩ := map_fst_ok h
    obtain ⟨_, -, h⟩ := bind_ok h
    split at h
    · obtain ⟨decided, hdecided, h⟩ := bind_ok h
      obtain ⟨redelivered, hredelivered, h⟩ := bind_ok h
      cases pure_ok h
      have hd : P decided := by
        refine runAll_invariant ?_ hdecided hj
        intro u plan v _ hinsert hu
        obtain ⟨decisions, hdecisions, hinsert⟩ := bind_ok hinsert
        cases pure_ok hinsert
        exact hstep _ _ hu (.insertDecision (insertRow_ok hdecisions))
      exact runAll_invariant (fun u r v _ hinsert hu => hredeliver u v _ r hu hinsert) hredelivered hd
    · obtain ⟨_, -, h⟩ := bind_ok h
      obtain ⟨_, -, h⟩ := bind_ok h
      cases pure_ok h
      exact hj
  | _ =>
    obtain hsteps | ⟨-, rfl⟩ := execute_steps (by trivial) h
    · exact evolves_invariant hstep hadvance (ReflTransGen.mono (fun _ _ => Or.inl) _ _ hsteps) hj
    · exact hadvance _ hj

theorem transactAll_invariant {P : Journal → Prop} (hstep : ∀ j j', P j → j.Step j' → P j')
    (hadvance : ∀ j : Journal, P j → P j.advanced)
    (hredeliver : ∀ j j' epoch r, P j → insertRedelivery epoch j r = .ok j' → P j')
    (hj : P j) (ops : List JournalOperation) : P (j.transactAll ops) := by
  induction ops generalizing j with
  | nil => exact hj
  | cons o ops ih =>
    refine ih ?_
    unfold Journal.transact
    cases h : j.execute o with
    | error e => exact hj
    | ok j' => exact execute_invariant hstep hadvance hredeliver h hj

end Runs

section Evidence

theorem terminal_iff (s : AttemptState) : s.terminal = true ↔ s ∈ terminalAttemptStates := by
  cases s <;> decide

/-- The columns of an attempt that its evidence stands by. -/
structure AttemptEnding where
  state : AttemptState
  outcome : Option AttemptClassification
  recordedAt : Option String

def Journal.ending (j : Journal) (id : String) : Option AttemptEnding :=
  (j.attempts.find id).map fun row => ⟨row.state, row.outcome, row.terminalRecordedAt⟩

/-- The staged response and the final record of an attempt stand by its state. -/
structure Evidenced (j : Journal) (id : String) : Prop where
  staged : (j.staging.find id).isSome ↔ ∃ e ∈ j.ending id, e.state = .responseObserved
  recorded : j.recordsOf id ≠ [] ↔ ∃ e ∈ j.ending id, e.state.terminal = true
  single : (j.recordsOf id).length ≤ 1
  outcome : ∀ e ∈ j.ending id, e.outcome.isSome ↔ e.state.terminal = true
  recordedAt : ∀ e ∈ j.ending id, e.recordedAt.isSome ↔ e.state.terminal = true

theorem Evidenced.frame (h : Evidenced j id) (hrow : j'.ending id = j.ending id)
    (hstaging : j'.staging.find id = j.staging.find id) (hrecords : j'.recordsOf id = j.recordsOf id) :
    Evidenced j' id := by
  obtain ⟨hstaged, hrecorded, hsingle, houtcome, hrecordedAt⟩ := h
  rw [← hrow, ← hstaging] at hstaged
  rw [← hrow, ← hrecords] at hrecorded
  rw [← hrecords] at hsingle
  rw [← hrow] at houtcome hrecordedAt
  exact ⟨hstaged, hrecorded, hsingle, houtcome, hrecordedAt⟩

/-- A fresh attempt has no evidence, and there was none before it. -/
theorem Evidenced.fresh (h : Evidenced j id) (hnone : j.attempts.find id = none)
    (hfresh : j'.ending id = some ⟨.scheduled, none, none⟩)
    (hstaging : j'.staging = j.staging) (hrecords : j'.attemptRecords = j.attemptRecords) :
    Evidenced j' id := by
  have hending : j.ending id = none := by rw [Journal.ending, hnone]; rfl
  have hstaged : ¬ (j.staging.find id).isSome := by simp [h.staged, hending]
  have hrecorded : j.recordsOf id = [] := by
    by_contra hne
    simpa [hending] using h.recorded.1 hne
  have hrecords' : j'.recordsOf id = [] := by
    rw [← hrecorded, Journal.recordsOf, hrecords]
    rfl
  refine ⟨?_, ?_, ?_, ?_, ?_⟩
  · rw [hstaging, hfresh]
    simpa using hstaged
  · rw [hrecords', hfresh]
    simp [show AttemptState.terminal .scheduled = false by decide]
  · simp [hrecords']
  · simp [hfresh, show AttemptState.terminal .scheduled = false by decide]
  · simp [hfresh, show AttemptState.terminal .scheduled = false by decide]

theorem evidenced_insert {attempts : Table AttemptRow AttemptRow.attemptId}
    (hfresh : row.state = .scheduled ∧ row.outcome = none ∧ row.terminalRecordedAt = none)
    (hinsert : j.attempts.insert row = some attempts) (hj : ∀ id, Evidenced j id) (id : String) :
    Evidenced { j with attempts } id := by
  by_cases hid : id = row.attemptId
  · subst hid
    refine (hj row.attemptId).fresh (Table.insert_some hinsert).2 ?_ rfl rfl
    rw [Journal.ending, Table.find_insert hinsert, if_pos rfl, Option.map_some, hfresh.1,
      hfresh.2.1, hfresh.2.2]
  · refine (hj id).frame ?_ rfl rfl
    rw [Journal.ending, Table.find_insert hinsert, if_neg hid]
    rfl

end Evidence

section Commit

/-- A transition carries transport evidence exactly if it ends an attempt. -/
theorem Accepted.transport_iff (ha : Accepted j op) :
    op.transportEvidence.isSome ↔ op.command.terminalAttempt.isSome := by
  obtain ⟨_, hpresence, -⟩ := bind_ok ha.transportPresence
  exact (require_ok hpresence).symm

theorem Accepted.staging_iff (ha : Accepted j op) :
    op.responseStaging.isSome ↔ op.command.observesResponse := by
  obtain ⟨_, hpresence, -⟩ := bind_ok ha.stagingPresence
  exact (require_ok hpresence).symm

theorem terminalAttempt_isSome {c : TransitionCommand} {s : AttemptState}
    (hnew : c.newState = .attempt s) : c.terminalAttempt.isSome ↔ s.terminal = true := by
  rw [terminal_iff, TransitionCommand.terminalAttempt, hnew]
  dsimp only
  split <;> simp_all

/-- The ending of an attempt after a transition of it that follows an edge. -/
def TransitionCommand.endingAfter (c : TransitionCommand) (s : AttemptState) (row : AttemptRow) :
    AttemptEnding :=
  ⟨s, (c.attemptOutcome.map AttemptTerminalOutcome.classification).or row.outcome,
    (c.attemptOutcome.map fun _ => c.timestamp.wallTime).or row.terminalRecordedAt⟩

theorem Written.ending_self (hw : Written j op j') (ha : Accepted j op)
    (hkey : op.command.key = ⟨.attempt, id⟩) (hrow : j.attempts.find id = some row) :
    (op.command.expectedState = none ∧ op.command.newState = .attempt .scheduled ∧
        j'.ending id = j.ending id) ∨
      ∃ s, op.command.expectedState = some (.attempt row.state) ∧ op.command.newState = .attempt s ∧
        (row.state, s) ∈ attemptEdges ∧ j'.ending id = some (op.command.endingAfter s row) := by
  have hfind : j'.attempts.find id = some (op.rowAfter row) := by
    rw [hw.find_attempt ha, if_pos hkey, hrow]
    rfl
  obtain hnone | ⟨s, hold, hnew, hedge⟩ := ha.attempt_edge hkey hrow
  · left
    have hinitial : op.command.newState = .attempt .scheduled := by
      obtain ⟨-, hinitial, -⟩ | ⟨old, hold, -⟩ := ha.edge_cases
      · rw [hinitial, hkey]
        rfl
      · rw [hnone] at hold
        cases hold
    refine ⟨hnone, hinitial, ?_⟩
    rw [Journal.ending, Journal.ending, hfind, hrow, TransitionOperation.rowAfter,
      TransitionCommand.rowAfter, hnone]
    cases op.phaseEvidence <;> rfl
  · right
    refine ⟨s, hold, hnew, hedge, ?_⟩
    rw [Journal.ending, hfind, TransitionOperation.rowAfter, TransitionCommand.rowAfter, hold, hnew]
    unfold TransitionCommand.endingAfter
    cases op.command.attemptOutcome <;> cases op.phaseEvidence <;> rfl

theorem edge_to_observed : ∀ e ∈ attemptEdges, e.2 = .responseObserved → e.1 = .awaitingResponse := by
  decide

theorem edge_from_open : ∀ e ∈ attemptEdges, e.1.terminal = false := by decide

variable {s : AttemptState}

/-- The staged response after a transition that follows an edge. -/
theorem Written.staged_self (hw : Written j op j') (ha : Accepted j op) (h : Evidenced j id)
    (hid : op.command.entityId = id) (hrow : j.attempts.find id = some row)
    (hold : op.command.expectedState = some (.attempt row.state))
    (hnew : op.command.newState = .attempt s) (hedge : (row.state, s) ∈ attemptEdges) :
    (j'.staging.find id).isSome ↔ s = .responseObserved := by
  obtain ⟨staged, hstaged, hafter⟩ := hw.staging
  by_cases hs : s = .responseObserved
  · -- the response is staged now, and a response is not reduced by being observed
    have hawaiting : row.state = .awaitingResponse := edge_to_observed _ hedge hs
    have hobserves : op.command.observesResponse :=
      ⟨by rw [hold, hawaiting], by rw [hnew, hs]⟩
    obtain ⟨staging, hstaging⟩ := Option.isSome_iff_exists.1 (ha.staging_iff.2 hobserves)
    have hreduces : ¬ op.command.reducesResponse := by
      rintro ⟨hexpected, -⟩
      rw [hobserves.1] at hexpected
      cases hexpected
    rw [hstaging] at hstaged
    have hattempt := (ha.staging_attempt hstaging).2
    rw [hafter, if_neg hreduces, Table.find_insert hstaged, hattempt, if_pos hid.symm]
    simp [hs]
  · have hnone : op.responseStaging = none := by
      rw [← Option.not_isSome_iff_eq_none, ha.staging_iff]
      rintro ⟨-, hobserved⟩
      rw [hnew] at hobserved
      cases hobserved
      exact hs rfl
    rw [hnone] at hstaged
    cases hstaged
    refine iff_of_false ?_ hs
    by_cases hobserved : row.state = .responseObserved
    · have hterminal := edge_of_observed _ hedge hobserved
      have hreduces : op.command.reducesResponse :=
        ⟨by rw [hold, hobserved], (terminalAttempt_isSome hnew).2 ((terminal_iff s).2 hterminal)⟩
      rw [hafter, if_pos hreduces, Table.find_erase, if_pos hid.symm]
      simp
    · have hempty : j.staging.find id = none := by
        rw [← Option.not_isSome_iff_eq_none, h.staged, Journal.ending, hrow]
        simpa using hobserved
      rw [hafter]
      split
      · rw [Table.find_erase, hempty]
        split <;> simp
      · simp [hempty]

theorem Evidenced.commit_self (h : Evidenced j id) (ha : Accepted j op) (hw : Written j op j')
    (hkey : op.command.key = ⟨.attempt, id⟩) (hrow : j.attempts.find id = some row) :
    Evidenced j' id := by
  have hid : op.command.entityId = id := congrArg EntityKey.entityId hkey
  obtain ⟨hnone, hnew, hending⟩ | ⟨s, hold, hnew, hedge, hending⟩ := hw.ending_self ha hkey hrow
  · -- the record of the initial state writes no evidence
    have htransport : op.transportEvidence = none := by
      rw [← Option.not_isSome_iff_eq_none, ha.transport_iff, terminalAttempt_isSome hnew]
      decide
    have hstaging : op.responseStaging = none := by
      rw [← Option.not_isSome_iff_eq_none, ha.staging_iff, TransitionCommand.observesResponse, hnone]
      simp
    obtain ⟨staged, hstaged, hafter⟩ := hw.staging
    rw [hstaging] at hstaged
    cases hstaged
    refine h.frame hending ?_ ?_
    · rw [hafter, if_neg]
      simp [TransitionCommand.reducesResponse, hnone]
    · rw [hw.recordsOf ha, htransport]
      simp
  · have hopen : row.state.terminal = false := edge_from_open _ hedge
    have hold_ending : j.ending id = some ⟨row.state, row.outcome, row.terminalRecordedAt⟩ := by
      rw [Journal.ending, hrow]
      rfl
    have hempty : j.recordsOf id = [] := by
      by_contra hne
      simpa [hold_ending, hopen] using h.recorded.1 hne
    have hrecords : j'.recordsOf id =
        (op.transportEvidence.map (attemptRecordOf j op.command)).toList := by
      rw [hw.recordsOf ha, hempty, List.nil_append, if_pos hid.symm]
    have hterminal := terminalAttempt_isSome hnew
    have houtcome : row.outcome = none := by
      simpa [hopen] using h.outcome _ (Option.mem_def.2 hold_ending)
    have hrecordedAt : row.terminalRecordedAt = none := by
      simpa [hopen] using h.recordedAt _ (Option.mem_def.2 hold_ending)
    refine ⟨?_, ?_, ?_, ?_, ?_⟩
    · rw [hw.staged_self ha h hid hrow hold hnew hedge, hending]
      simp [TransitionCommand.endingAfter]
    · have hsome : j'.recordsOf id ≠ [] ↔ op.transportEvidence.isSome := by
        rw [hrecords]
        cases op.transportEvidence <;> simp
      rw [hsome, ha.transport_iff, hterminal, hending]
      simp [TransitionCommand.endingAfter]
    · rw [hrecords]
      cases op.transportEvidence <;> simp
    · intro e he
      rw [hending] at he
      cases he
      simp only [TransitionCommand.endingAfter, houtcome, Option.or_none, Option.isSome_map]
      rw [← ha.outcome_iff, hterminal]
    · intro e he
      rw [hending] at he
      cases he
      simp only [TransitionCommand.endingAfter, hrecordedAt, Option.or_none, Option.isSome_map]
      rw [← ha.outcome_iff, hterminal]

theorem Evidenced.commit_other (h : Evidenced j id) (ha : Accepted j op) (hw : Written j op j')
    (hkey : op.command.key ≠ ⟨.attempt, id⟩) : Evidenced j' id := by
  refine h.frame ?_ (hw.staging_other ha hkey) ?_
  · rw [Journal.ending, hw.find_attempt ha, if_neg hkey]
    rfl
  · rw [hw.recordsOf ha]
    split
    · next hid =>
      -- only a transition of an attempt carries transport evidence
      have hnone : op.transportEvidence = none := by
        rw [← Option.not_isSome_iff_eq_none, ha.transport_iff]
        intro hterminal
        obtain ⟨s, hs⟩ := Option.isSome_iff_exists.1 hterminal
        apply hkey
        rw [TransitionCommand.key, (TransitionCommand.terminalAttempt_eq_some hs).1, hid]
        rfl
      rw [hnone]
      simp
    · simp

theorem Evidenced.commit (h : Evidenced j id) (ha : Accepted j op) (hw : Written j op j') :
    Evidenced j' id := by
  by_cases hkey : op.command.key = ⟨.attempt, id⟩
  · obtain ⟨s, hstate, -⟩ := ha.edge
    rw [hkey] at hstate
    obtain ⟨row, hrow, -⟩ := Option.map_eq_some_iff.1 hstate
    exact h.commit_self ha hw hkey hrow
  · exact h.commit_other ha hw hkey

end Commit

section Reachable

theorem evidenced_step (h : ∀ id, Evidenced j id) (hstep : j.Step j') (id : String) :
    Evidenced j' id := by
  cases hstep with
  | commit ha hw => exact (h id).commit ha hw
  | insertAttempt hfresh _ _ hinsert =>
    exact evidenced_insert ⟨hfresh.state, hfresh.outcome, hfresh.terminalRecordedAt⟩ hinsert h id
  | rebindAttempt =>
    exact (h id).frame (Table.map_find_modify (by intro; rfl) (by intro; rfl)) rfl rfl
  | _ => exact (h id).frame rfl rfl rfl

theorem evidenced_redelivery {epoch : Nat} {r : RedeliveryAttemptPlan} (h : ∀ id, Evidenced j id)
    (hredeliver : insertRedelivery epoch j r = .ok j') (id : String) : Evidenced j' id := by
  obtain ⟨_, -, hredeliver⟩ := bind_ok hredeliver
  obtain ⟨inserted, hinserted, hredeliver⟩ := bind_ok hredeliver
  obtain ⟨attempts, hinsert, rfl, -⟩ := insertAttempt_ok hinserted
  obtain ⟨schedule, rfl, -⟩ := insertScheduleRow_ok hredeliver
  exact (evidenced_insert ⟨rfl, rfl, rfl⟩ hinsert h id).frame rfl rfl rfl

theorem evidenced_bootstrap (plan : BootstrapPlan) (id : String) : Evidenced plan.journal id := by
  have hnone : plan.journal.ending id = none := rfl
  have hrecords : plan.journal.recordsOf id = [] := rfl
  have hstaging : plan.journal.staging.find id = none := rfl
  refine ⟨?_, ?_, ?_, ?_, ?_⟩ <;> simp [hnone, hrecords, hstaging]

/-- In every journal of a run, failed transactions among those before it: an attempt has a staged
response exactly in `response_observed`, and one final record, an outcome and an end exactly if it
is terminal. -/
theorem attempt_evidence (plan : BootstrapPlan) (ops : List JournalOperation) :
    ∀ row ∈ (plan.journal.transactAll ops).attempts.rows,
      (((plan.journal.transactAll ops).staging.find row.attemptId).isSome ↔
        row.state = .responseObserved) ∧
      ((plan.journal.transactAll ops).recordsOf row.attemptId ≠ [] ↔ row.state.terminal = true) ∧
      ((plan.journal.transactAll ops).recordsOf row.attemptId).length ≤ 1 ∧
      (row.outcome.isSome ↔ row.state.terminal = true) ∧
      (row.terminalRecordedAt.isSome ↔ row.state.terminal = true) := by
  have hall : ∀ id, Evidenced (plan.journal.transactAll ops) id :=
    transactAll_invariant (P := fun j => ∀ id, Evidenced j id)
      (fun _ _ h hstep => evidenced_step h hstep) (fun _ h id => (h id).frame rfl rfl rfl)
      (fun _ _ _ _ h hredeliver => evidenced_redelivery h hredeliver) (evidenced_bootstrap plan) ops
  intro row hrow
  have hending : (plan.journal.transactAll ops).ending row.attemptId =
      some ⟨row.state, row.outcome, row.terminalRecordedAt⟩ := by
    rw [Journal.ending, Table.find_of_mem hrow]
    rfl
  have h := hall row.attemptId
  refine ⟨?_, ?_, h.single, h.outcome _ hending, h.recordedAt _ hending⟩
  · rw [h.staged, hending]
    simp
  · rw [h.recorded, hending]
    simp

/-- The attempt of a run that has claimed it has no outcome and no end. -/
theorem claimed_attempt_open :
    ∃ row ∈ (singlePlan.journal.transactAll (activateFullRun singlePlan (fun _ => ⟨"t", none⟩) ++
      [.claim singleClaim])).attempts.rows, row.state = .claimed ∧ row.outcome = none ∧
        row.terminalRecordedAt = none := by
  have hclaimed : ∃ row ∈ (singlePlan.journal.transactAll (activateFullRun singlePlan
      (fun _ => ⟨"t", none⟩) ++ [.claim singleClaim])).attempts.rows, row.state = .claimed := by
    decide +kernel
  obtain ⟨row, hrow, hstate⟩ := hclaimed
  obtain ⟨-, -, -, houtcome, hrecorded⟩ := attempt_evidence singlePlan _ row hrow
  have hopen : AttemptState.claimed.terminal = false := by decide
  rw [hstate, hopen] at houtcome hrecorded
  exact ⟨row, hrow, hstate, by simpa using houtcome, by simpa using hrecorded⟩

end Reachable

end WebhookConformance
