import WebhookConformance.Transition

/-! What a successful transition has checked and written. -/
namespace WebhookConformance

open Checked

variable {j j' : Journal} {c : TransitionCommand} {op : TransitionOperation} {key : EntityKey}

section Frames

theorem insertRow_ok {α κ : Type} [DecidableEq κ] {f : α → κ} {t u : Table α f} {row : α}
    (h : insertRow t row = .ok u) : t.insert row = some u := by
  unfold insertRow at h
  split at h
  · cases h
  · next hinsert =>
    cases h
    exact hinsert

theorem insertTransition_ok (h : insertTransition j c = .ok j') :
    j' = { j with transitions := j.transitions ++
      [recordFromCommand c (nextSequence (j.transitions.map TransitionRecord.sequence))] } := by
  obtain ⟨_, -, h⟩ := bind_ok h
  exact (pure_ok h).symm

theorem persistAttemptPhaseEvidence_ok {evidence : Option AttemptPhaseEvidenceCommand}
    (h : persistAttemptPhaseEvidence j c evidence = .ok j') :
    j' = { j with attempts := evidence.elim j.attempts fun e =>
        j.attempts.modify c.entityId (·.withPhase e) fun _ => rfl } ∧
      ∀ e, evidence = some e → validatePhaseEdge c e = .ok () ∧
        ∃ row ∈ j.attempts.find c.entityId, row.Compatible e := by
  cases evidence with
  | none =>
    cases h
    exact ⟨rfl, nofun⟩
  | some e =>
    obtain ⟨_, hedge, h⟩ := bind_ok h
    obtain ⟨_, hdigests, h⟩ := bind_ok h
    refine ⟨(pure_ok h).symm, ?_⟩
    intro e' he
    cases he
    exact ⟨hedge, require_ok hdigests⟩

theorem persistAttemptResponseStaging_ok {staging : Option AttemptResponseStagingCommand}
    (h : persistAttemptResponseStaging j c staging = .ok j') :
    ∃ staged, j' = { j with staging := staged } ∧
      staging.elim (some j.staging) (fun s => j.staging.insert s.row) = some staged := by
  cases staging with
  | none =>
    cases h
    exact ⟨j.staging, rfl, rfl⟩
  | some s =>
    obtain ⟨_, -, h⟩ := bind_ok h
    obtain ⟨_, -, h⟩ := bind_ok h
    obtain ⟨staged, hstaged, h⟩ := bind_ok h
    exact ⟨staged, (pure_ok h).symm, insertRow_ok hstaged⟩

/-- The final record of an attempt under the next sequence number. -/
def attemptRecordOf (j : Journal) (c : TransitionCommand)
    (evidence : AttemptTransportEvidenceCommand) : AttemptRecord :=
  ⟨evidence, nextSequence (j.attemptRecords.rows.map AttemptRecord.sequence), c.timestamp,
    c.logicalTimeNs⟩

theorem insertAttemptRecord_ok {evidence : Option AttemptTransportEvidenceCommand}
    (h : insertAttemptRecord j c evidence = .ok j') :
    ∃ records, j' = { j with attemptRecords := records } ∧
      evidence.elim (some j.attemptRecords)
        (fun e => j.attemptRecords.insert (attemptRecordOf j c e)) = some records := by
  cases evidence with
  | none =>
    cases h
    exact ⟨j.attemptRecords, rfl, rfl⟩
  | some e =>
    obtain ⟨_, -, h⟩ := bind_ok h
    obtain ⟨records, hrecords, h⟩ := bind_ok h
    exact ⟨records, (pure_ok h).symm, insertRow_ok hrecords⟩

theorem insertScheduleRow_ok {row : ScheduleRow} (h : insertScheduleRow j row = .ok j') :
    ∃ schedule, j' = { j with schedule } ∧ j.schedule.insert row = some schedule ∧
      ∀ other ∈ j.schedule.rows, other.idempotencyKey ≠ row.idempotencyKey := by
  obtain ⟨_, hkey, h⟩ := bind_ok h
  obtain ⟨schedule, hschedule, h⟩ := bind_ok h
  exact ⟨schedule, (pure_ok h).symm, insertRow_ok hschedule, require_ok hkey⟩

/-- The retry schedule that a command stores with its outcome. -/
def TransitionCommand.retrySchedule (c : TransitionCommand) : Option RetrySchedule :=
  c.attemptOutcome.bind AttemptTerminalOutcome.retrySchedule

theorem insertRetrySchedule_ok (h : insertRetrySchedule j c = .ok j') :
    ∃ schedule, j' = { j with schedule } ∧
      c.retrySchedule.elim (some j.schedule) (fun r => j.schedule.insert r.row) = some schedule ∧
      ∀ r, c.retrySchedule = some r →
        ∀ other ∈ j.schedule.rows, other.idempotencyKey ≠ r.idempotencyKey := by
  unfold insertRetrySchedule at h
  split at h
  · next hnone =>
    cases h
    refine ⟨j.schedule, rfl, by rw [TransitionCommand.retrySchedule, hnone]; rfl, ?_⟩
    intro r hr
    rw [TransitionCommand.retrySchedule, hnone] at hr
    cases hr
  · next r hr =>
    obtain ⟨schedule, rfl, hinsert, hfresh⟩ := insertScheduleRow_ok h
    refine ⟨schedule, rfl, by rw [TransitionCommand.retrySchedule, hr]; exact hinsert, ?_⟩
    intro r' hr'
    rw [TransitionCommand.retrySchedule, hr] at hr'
    cases hr'
    exact hfresh

theorem consumeAttemptResponseStaging_ok (h : consumeAttemptResponseStaging j c = .ok j') :
    j' = { j with staging := if c.reducesResponse then j.staging.erase c.entityId else j.staging } := by
  unfold consumeAttemptResponseStaging at h
  split at h
  · next hreduces =>
    obtain ⟨_, -, h⟩ := bind_ok h
    rw [if_pos hreduces, ← pure_ok h]
  · next hreduces =>
    cases h
    rw [if_neg hreduces]

end Frames

theorem requireEntity_ok {s : LifecycleState} (h : requireEntity j c = .ok s) :
    j.state c.key = some s := by
  unfold requireEntity at h
  split at h
  · cases h
  · next hstate =>
    cases h
    exact hstate

/-- What a transition writes, table by table. -/
structure Written (j : Journal) (op : TransitionOperation) (j' : Journal) : Prop where
  run : j'.run = (updateProjection j op.command).run
  scenarios : j'.scenarios = (updateProjection j op.command).scenarios
  deliveries : j'.deliveries = (updateProjection j op.command).deliveries
  attempts : j'.attempts = op.phaseEvidence.elim (updateProjection j op.command).attempts fun e =>
    (updateProjection j op.command).attempts.modify op.command.entityId (·.withPhase e) fun _ => rfl
  series : j'.series = (updateProjection j op.command).series
  assertions : j'.assertions = (updateProjection j op.command).assertions
  transitions : j'.transitions = j.transitions ++
    [recordFromCommand op.command (nextSequence (j.transitions.map TransitionRecord.sequence))]
  staging : ∃ staged,
    op.responseStaging.elim (some j.staging) (fun s => j.staging.insert s.row) = some staged ∧
      j'.staging = if op.command.reducesResponse then staged.erase op.command.entityId else staged
  attemptRecords : op.transportEvidence.elim (some j.attemptRecords)
    (fun e => j.attemptRecords.insert (attemptRecordOf j op.command e)) = some j'.attemptRecords
  schedule : op.command.retrySchedule.elim (some j.schedule)
    (fun r => j.schedule.insert r.row) = some j'.schedule
  samples : j'.samples = j.samples
  evaluations : j'.evaluations = j.evaluations
  decisions : j'.decisions = j.decisions
  phase : ∀ e, op.phaseEvidence = some e → validatePhaseEdge op.command e = .ok () ∧
    ∃ row ∈ (updateProjection j op.command).attempts.find op.command.entityId, row.Compatible e

/-- The tables that `updateProjection` leaves alone. -/
theorem updateProjection_frame (j : Journal) (c : TransitionCommand) :
    (updateProjection j c).schedule = j.schedule ∧
      (updateProjection j c).transitions = j.transitions ∧
      (updateProjection j c).staging = j.staging ∧
      (updateProjection j c).attemptRecords = j.attemptRecords ∧
      (updateProjection j c).samples = j.samples ∧
      (updateProjection j c).evaluations = j.evaluations ∧
      (updateProjection j c).decisions = j.decisions := by
  unfold updateProjection
  split
  · simp
  · cases c.newState <;> cases c.attemptOutcome <;> simp [Journal.setState]

theorem updateProjection_transitions (j : Journal) (c : TransitionCommand)
    (records : List TransitionRecord) :
    updateProjection { j with transitions := records } c =
      { updateProjection j c with transitions := records } := by
  unfold updateProjection
  split
  · rfl
  · cases c.newState <;> cases c.attemptOutcome <;> rfl

/-- The writes after the projection, on any journal. -/
theorem writeEvidence_ok {u phased staged recorded scheduled : Journal}
    (hphase : persistAttemptPhaseEvidence u op.command op.phaseEvidence = .ok phased)
    (hstaging : persistAttemptResponseStaging phased op.command op.responseStaging = .ok staged)
    (hrecord : insertAttemptRecord staged op.command op.transportEvidence = .ok recorded)
    (hschedule : insertRetrySchedule recorded op.command = .ok scheduled)
    (hconsume : consumeAttemptResponseStaging scheduled op.command = .ok j') :
    ∃ rows records schedule,
      op.responseStaging.elim (some u.staging) (fun s => u.staging.insert s.row) = some rows ∧
      op.transportEvidence.elim (some u.attemptRecords)
        (fun e => u.attemptRecords.insert (attemptRecordOf u op.command e)) = some records ∧
      op.command.retrySchedule.elim (some u.schedule) (fun r => u.schedule.insert r.row) =
        some schedule ∧
      j' = { u with
        attempts := op.phaseEvidence.elim u.attempts fun e =>
          u.attempts.modify op.command.entityId (·.withPhase e) fun _ => rfl
        staging := if op.command.reducesResponse then rows.erase op.command.entityId else rows
        attemptRecords := records
        schedule } := by
  obtain ⟨rfl, -⟩ := persistAttemptPhaseEvidence_ok hphase
  obtain ⟨rows, rfl, hrows⟩ := persistAttemptResponseStaging_ok hstaging
  obtain ⟨records, rfl, hrecords⟩ := insertAttemptRecord_ok hrecord
  obtain ⟨schedule, rfl, hrow, -⟩ := insertRetrySchedule_ok hschedule
  exact ⟨rows, records, schedule, hrows, hrecords, hrow, consumeAttemptResponseStaging_ok hconsume⟩

theorem writeTransition_ok (h : writeTransition j op = .ok j') : Written j op j' := by
  obtain ⟨appended, happend, h⟩ := bind_ok h
  obtain ⟨phased, hphase, h⟩ := bind_ok h
  obtain ⟨staged, hstaging, h⟩ := bind_ok h
  obtain ⟨recorded, hrecord, h⟩ := bind_ok h
  obtain ⟨scheduled, hschedule, h⟩ := bind_ok h
  rw [insertTransition_ok happend, updateProjection_transitions] at hphase
  obtain ⟨rows, records, schedule, hrows, hrecords, hrow, rfl⟩ :=
    writeEvidence_ok hphase hstaging hrecord hschedule h
  obtain ⟨fschedule, -, fstaging, frecords, fsamples, fevaluations, fdecisions⟩ :=
    updateProjection_frame j op.command
  simp only [fstaging] at hrows
  simp only [attemptRecordOf, frecords] at hrecords
  simp only [fschedule] at hrow
  exact {
    run := rfl
    scenarios := rfl
    deliveries := rfl
    attempts := rfl
    series := rfl
    assertions := rfl
    transitions := rfl
    staging := ⟨rows, hrows, rfl⟩
    attemptRecords := hrecords
    schedule := hrow
    samples := fsamples
    evaluations := fevaluations
    decisions := fdecisions
    phase := (persistAttemptPhaseEvidence_ok hphase).2 }

/-- Everything that a new transition has passed. -/
structure Accepted (j : Journal) (op : TransitionOperation) : Prop where
  scope : validatePayloadScope op.command = .ok ()
  stagingPresence : validateResponseStagingPresence op.command op.responseStaging = .ok ()
  transportPresence : validateTransportEvidencePresence op.command op.transportEvidence = .ok ()
  owner : j.run.ownerEpoch = op.command.ownerEpoch
  freshKey : ∀ r ∈ j.transitions, r.idempotencyKey ≠ op.command.idempotencyKey
  freshId : ∀ r ∈ j.transitions, r.transitionId ≠ op.command.transitionId
  edge : ∃ s, j.state op.command.key = some s ∧ validateProjectionAndEdge j op.command s = .ok ()
  guards : validateTransitionGuards j op.command = .ok ()
  transport : validateTransportIdentity j op = .ok ()
  reduction : validateTerminalResponseStaging j op.command op.transportEvidence = .ok ()

/-- A transition was committed before and is verified, or it is accepted and written. -/
theorem applyTransition_ok {committed : CommittedTransition}
    (h : applyTransition j op = .ok (j', committed)) :
    (∃ existing, j.transitions.find? (·.idempotencyKey = op.command.idempotencyKey) = some existing ∧
        existing.Repeats op.command ∧ j' = j ∧ committed = ⟨existing, true⟩) ∨
      (Accepted j op ∧ Written j op j' ∧ committed = ⟨recordFromCommand op.command
        (nextSequence (j.transitions.map TransitionRecord.sequence)), false⟩) := by
  obtain ⟨_, hscope, h⟩ := bind_ok h
  obtain ⟨_, hstaging, h⟩ := bind_ok h
  obtain ⟨_, hpresence, h⟩ := bind_ok h
  obtain ⟨_, howner, h⟩ := bind_ok h
  split at h
  · next existing hfind =>
    left
    obtain ⟨_, hreplay, h⟩ := bind_ok h
    obtain ⟨_, -, h⟩ := bind_ok h
    obtain ⟨_, -, h⟩ := bind_ok h
    obtain ⟨_, -, h⟩ := bind_ok h
    obtain ⟨_, hrepeats, -⟩ := bind_ok hreplay
    cases pure_ok h
    exact ⟨existing, hfind, require_ok hrepeats, rfl, rfl⟩
  · next hfind =>
    right
    obtain ⟨_, hvalid, h⟩ := bind_ok h
    obtain ⟨written, hwritten, h⟩ := bind_ok h
    cases pure_ok h
    obtain ⟨_, hid, hvalid⟩ := bind_ok hvalid
    obtain ⟨state, hstate, hvalid⟩ := bind_ok hvalid
    obtain ⟨_, hedge, hvalid⟩ := bind_ok hvalid
    obtain ⟨_, hguards, hvalid⟩ := bind_ok hvalid
    obtain ⟨_, htransport, hreduction⟩ := bind_ok hvalid
    refine ⟨?_, writeTransition_ok hwritten, rfl⟩
    exact {
      scope := hscope
      stagingPresence := hstaging
      transportPresence := hpresence
      owner := require_ok howner
      freshKey := by simpa using hfind
      freshId := require_ok hid
      edge := ⟨state, requireEntity_ok hstate, hedge⟩
      guards := hguards
      transport := htransport
      reduction := hreduction }

section Edge

theorem history_entries (j : Journal) (key : EntityKey) :
    Ledger.history (j.transitions.map TransitionRecord.entry) key =
      (j.history key).map TransitionRecord.entry := by
  simp only [Ledger.history, Journal.history, List.filter_map]
  rfl

/-- An accepted transition records the initial state, or it follows an edge from the stored one. -/
theorem Accepted.edge_cases (h : Accepted j op) :
    (op.command.expectedState = none ∧ op.command.newState = initialState op.command.key.entityType ∧
        j.state op.command.key = some op.command.newState ∧ j.history op.command.key = []) ∨
      ∃ old, op.command.expectedState = some old ∧ j.state op.command.key = some old ∧
        transitionAllowed old op.command.newState = true := by
  obtain ⟨s, hstate, hedge⟩ := h.edge
  unfold validateProjectionAndEdge at hedge
  split at hedge
  · next hnone =>
    obtain ⟨_, hinitial, hempty⟩ := bind_ok hedge
    obtain ⟨hnew, rfl⟩ := require_ok hinitial
    exact Or.inl ⟨hnone, hnew, hstate, require_ok hempty⟩
  · next old hold =>
    obtain ⟨_, hsame, hallowed⟩ := bind_ok hedge
    obtain rfl := require_ok hsame
    exact Or.inr ⟨s, hold, hstate, require_ok hallowed⟩

/-- The record of an accepted transition may follow the stored state, unless it is the first. -/
theorem Accepted.check (h : Accepted j op) (hfirst : op.command.expectedState ≠ none) :
    Ledger.check stateMachine op.command.key (j.state op.command.key) op.command.expectedState
      op.command.newState = .ok () := by
  obtain ⟨hnone, -⟩ | ⟨old, hold, hstate, hallowed⟩ := h.edge_cases
  · exact absurd hnone hfirst
  · rw [hstate, hold]
    exact if_pos ⟨rfl, hallowed⟩

end Edge

section States

theorem find_modify_state {α κ σ : Type} [DecidableEq κ] {f : α → κ} {t : Table α f} {k k' : κ}
    {g : α → α} {hg : ∀ r, f (g r) = f r} {state : α → σ} {s : σ} (hs : ∀ r, state (g r) = s)
    (hrow : ((t.find k).map state).isSome) :
    ((t.modify k g hg).find k').map state = if k' = k then some s else (t.find k').map state := by
  rw [Table.find_modify hg]
  by_cases hk : k' = k
  · obtain ⟨r, hr⟩ := Option.isSome_iff_exists.1 (by simpa using hrow)
    simp [hk, hr, hs]
  · simp [hk]

theorem setState_state {entityId : String} {s : LifecycleState}
    (hrow : (j.state ⟨s.entityType, entityId⟩).isSome) :
    (j.setState entityId s).state key =
      if key = ⟨s.entityType, entityId⟩ then some s else j.state key := by
  obtain ⟨type, id⟩ := key
  cases s <;> cases type <;>
    simp only [Journal.state, Journal.setState, LifecycleState.entityType, EntityKey.mk.injEq,
      reduceCtorEq, false_and, true_and, if_false] at hrow ⊢
  case run.run =>
    split_ifs at hrow ⊢ <;> simp_all
  all_goals first | exact find_modify_state (fun _ => rfl) hrow | rfl

/-- Attempt rows may differ as long as their states do not. -/
theorem state_congr {u : Journal} (hrun : j.run = u.run) (hscenarios : j.scenarios = u.scenarios)
    (hdeliveries : j.deliveries = u.deliveries) (hseries : j.series = u.series)
    (hassertions : j.assertions = u.assertions)
    (hattempts : ∀ id, (j.attempts.find id).map (fun r => LifecycleState.attempt r.state) =
      (u.attempts.find id).map fun r => .attempt r.state) :
    j.state key = u.state key := by
  simp only [Journal.state, hrun, hscenarios, hdeliveries, hseries, hassertions, hattempts]

theorem updateProjection_state (h : Accepted j op) :
    (updateProjection j op.command).state key =
      if key = op.command.key then some op.command.newState else j.state key := by
  unfold updateProjection
  obtain ⟨hnone, -, hstate, -⟩ | ⟨old, hold, hstate, -⟩ := h.edge_cases
  · simp only [hnone]
    split
    · next hkey => rw [hkey, hstate]
    · rfl
  · have hmoved : (j.setState op.command.entityId op.command.newState).state key =
        if key = op.command.key then some op.command.newState else j.state key :=
      setState_state (Option.isSome_iff_exists.2 ⟨old, hstate⟩)
    simp only [hold]
    split
    · exact hmoved
    · refine Eq.trans ?_ hmoved
      exact state_congr rfl rfl rfl rfl rfl fun _ => Table.map_find_modify (by intro; rfl) (by intro; rfl)

/-- A transition moves its own entity and no other. -/
theorem Written.state (hw : Written j op j') (ha : Accepted j op) :
    j'.state key = if key = op.command.key then some op.command.newState else j.state key := by
  rw [← updateProjection_state ha]
  refine state_congr hw.run hw.scenarios hw.deliveries hw.series hw.assertions ?_
  intro id
  rw [hw.attempts]
  cases op.phaseEvidence with
  | none => rfl
  | some e => exact Table.map_find_modify (by intro; rfl) (by intro; rfl)

theorem Written.run_frame (hw : Written j op j') :
    j'.run.ownerEpoch = j.run.ownerEpoch ∧ j'.run.runId = j.run.runId ∧
      j'.run.terminal = j.run.terminal := by
  rw [hw.run]
  unfold updateProjection
  split
  · exact ⟨rfl, rfl, rfl⟩
  · cases op.command.newState <;> cases op.command.attemptOutcome <;>
      exact ⟨rfl, rfl, rfl⟩

end States

end WebhookConformance
