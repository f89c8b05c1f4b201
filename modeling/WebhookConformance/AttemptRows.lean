import WebhookConformance.JournalSteps

/-! How the row of an attempt changes over a run. -/
namespace WebhookConformance

open Checked Relation

variable {j j' : Journal} {op : TransitionOperation} {id : String}

/-- A measure that every edge raises. -/
def AttemptState.rank : AttemptState → Nat
  | .scheduled => 0
  | .claimed => 1
  | .preSendCommitted => 2
  | .connecting => 3
  | .sending => 4
  | .awaitingResponse => 5
  | .responseObserved => 6
  | .notSent | .succeeded | .rejected | .transportFailed | .unknownOutcome | .cancelled => 7

theorem rank_lt_of_edge : ∀ e ∈ attemptEdges, e.1.rank < e.2.rank := by decide

theorem rank_le (s : AttemptState) : s.rank ≤ 7 := by cases s <;> decide

theorem rank_terminal {s : AttemptState} (h : s ∈ terminalAttemptStates) : s.rank = 7 := by
  revert s
  decide

section Commit

theorem Accepted.outcome_iff (h : Accepted j op) :
    op.command.terminalAttempt.isSome ↔ op.command.attemptOutcome.isSome := by
  have hscope := h.scope
  obtain ⟨_, -, hscope⟩ := bind_ok hscope
  obtain ⟨_, -, hscope⟩ := bind_ok hscope
  obtain ⟨_, -, hscope⟩ := bind_ok hscope
  obtain ⟨_, houtcome, -⟩ := bind_ok hscope
  exact require_ok houtcome

theorem validatePhaseEdge_ok {c : TransitionCommand} {e : AttemptPhaseEvidenceCommand}
    (h : validatePhaseEdge c e = .ok ()) : ∃ old new, c.expectedState = some (.attempt old) ∧
      c.newState = .attempt new ∧ (old, new) ∈ phaseEdges e.phase := by
  unfold validatePhaseEdge at h
  split at h
  · next old new hold hnew =>
    obtain ⟨_, hedge, -⟩ := bind_ok h
    exact ⟨old, new, hold, hnew, require_ok hedge⟩
  · cases h

/-- The state and outcome of an attempt's row after a transition of it. -/
def TransitionCommand.rowAfter (c : TransitionCommand) (row : AttemptRow) : AttemptRow :=
  match c.expectedState, c.newState with
  | some _, .attempt s =>
    match c.attemptOutcome with
    | none => { row with state := s }
    | some outcome => { row with
        state := s
        outcome := some outcome.classification
        terminalRecordedAt := some c.timestamp.wallTime }
  | _, _ => row

def TransitionOperation.rowAfter (op : TransitionOperation) (row : AttemptRow) : AttemptRow :=
  op.phaseEvidence.elim (op.command.rowAfter row) (op.command.rowAfter row).withPhase

/-- A transition of another entity has neither an outcome nor phase evidence. -/
theorem Accepted.attempt_only (ha : Accepted j op) (hw : Written j op j')
    (htype : op.command.key.entityType ≠ .attempt) :
    op.command.attemptOutcome = none ∧ op.phaseEvidence = none := by
  constructor
  · rw [← Option.not_isSome_iff_eq_none, ← ha.outcome_iff]
    unfold TransitionCommand.terminalAttempt
    split
    · next s hs => exact absurd (by rw [TransitionCommand.key, hs]; rfl) htype
    · simp
  · cases hphase : op.phaseEvidence with
    | none => rfl
    | some e =>
      obtain ⟨_, new, -, hnew, -⟩ := validatePhaseEdge_ok (hw.phase e hphase).1
      exact absurd (by rw [TransitionCommand.key, hnew]; rfl) htype

theorem updateProjection_attempts_other {c : TransitionCommand} (htype : c.key.entityType ≠ .attempt)
    (houtcome : c.attemptOutcome = none) : (updateProjection j c).attempts = j.attempts := by
  unfold updateProjection
  split
  · rfl
  · simp only [houtcome]
    cases hnew : c.newState with
    | attempt s => exact absurd (by rw [TransitionCommand.key, hnew]; rfl) htype
    | _ => rfl

theorem updateProjection_find {c : TransitionCommand} {s : AttemptState}
    (hnew : c.newState = .attempt s) (id : String) :
    (updateProjection j c).attempts.find id =
      if id = c.entityId then (j.attempts.find c.entityId).map c.rowAfter
      else j.attempts.find id := by
  unfold updateProjection TransitionCommand.rowAfter
  cases c.expectedState with
  | none =>
    dsimp only
    split
    · next hid => rw [hid, Option.map_id']
    · rfl
  | some _ =>
    dsimp only
    rw [hnew]
    cases c.attemptOutcome with
    | none => exact Table.find_modify (by intro; rfl)
    | some outcome =>
      refine (Table.find_modify (by intro; rfl)).trans ?_
      split
      · refine (congrArg _ (Table.find_modify (by intro; rfl))).trans ?_
        rw [if_pos rfl, Option.map_map]
        rfl
      · next hid => exact (Table.find_modify (by intro; rfl)).trans (if_neg hid)

/-- A transition writes the row of its own attempt and no other. -/
theorem Written.find_attempt (hw : Written j op j') (ha : Accepted j op) (id : String) :
    j'.attempts.find id =
      if op.command.key = ⟨.attempt, id⟩ then (j.attempts.find id).map op.rowAfter
      else j.attempts.find id := by
  by_cases htype : op.command.key.entityType = .attempt
  · obtain ⟨s, hnew⟩ : ∃ s, op.command.newState = .attempt s := by
      unfold TransitionCommand.key at htype
      cases hnew : op.command.newState with
      | attempt s => exact ⟨s, rfl⟩
      | _ =>
        rw [hnew] at htype
        cases htype
    have hkey : op.command.key = ⟨.attempt, id⟩ ↔ id = op.command.entityId := by
      rw [TransitionCommand.key, hnew, EntityKey.mk.injEq]
      exact ⟨fun h => h.2.symm, fun h => ⟨rfl, h.symm⟩⟩
    have hattempts := hw.attempts
    cases hphase : op.phaseEvidence with
    | none =>
      have hrow : op.rowAfter = op.command.rowAfter := by
        funext row
        rw [TransitionOperation.rowAfter, hphase, Option.elim_none]
      rw [hphase, Option.elim_none] at hattempts
      simp only [hkey, hattempts, hrow, updateProjection_find hnew]
      split
      · next hid => rw [hid]
      · rfl
    | some e =>
      have hrow : op.rowAfter = fun row => (op.command.rowAfter row).withPhase e := by
        funext row
        rw [TransitionOperation.rowAfter, hphase, Option.elim_some]
      rw [hphase, Option.elim_some] at hattempts
      rw [hattempts]
      refine (Table.find_modify (by intro; rfl)).trans ?_
      simp only [hkey, hrow, updateProjection_find hnew, if_true, Option.map_map]
      split
      · next hid => rw [hid]; rfl
      · rfl
  · obtain ⟨houtcome, hphase⟩ := ha.attempt_only hw htype
    have hkey : op.command.key ≠ ⟨.attempt, id⟩ := by
      intro h
      rw [h] at htype
      exact htype rfl
    rw [if_neg hkey, hw.attempts, hphase, Option.elim_none, updateProjection_attempts_other htype houtcome]

end Commit

section Later

/-- The columns of an attempt that no operation writes again. -/
def AttemptRow.fixed (row : AttemptRow) : AttemptIdentity := { row.identity with ownerEpoch := 0 }

theorem identity_of_fixed {row row' : AttemptRow} (h : row.fixed = row'.fixed)
    (howner : row.ownerEpoch = row'.ownerEpoch) : row.identity = row'.identity :=
  calc row.identity = { row.fixed with ownerEpoch := row.ownerEpoch } := rfl
    _ = { row'.fixed with ownerEpoch := row'.ownerEpoch } := by rw [h, howner]
    _ = row'.identity := rfl

/-- What the row of an attempt may become: its state rises, or it is what it was but for its
owner. -/
structure AttemptRow.Later (old new : AttemptRow) : Prop where
  attemptId : new.attemptId = old.attemptId
  fixed : new.fixed = old.fixed
  blobHash : ∀ d, old.requestBlobHash = some d → new.requestBlobHash = some d
  headersHash : ∀ d, old.requestHeadersHash = some d → new.requestHeadersHash = some d
  progress : (new.state = old.state ∧ new.outcome = old.outcome ∧
      new.terminalRecordedAt = old.terminalRecordedAt ∧ new.phase = old.phase) ∨
    old.state.rank < new.state.rank

variable {row old mid new : AttemptRow}

theorem AttemptRow.Later.refl (row : AttemptRow) : row.Later row :=
  ⟨rfl, rfl, fun _ => id, fun _ => id, Or.inl ⟨rfl, rfl, rfl, rfl⟩⟩

theorem AttemptRow.Later.trans (h : old.Later mid) (h' : mid.Later new) : old.Later new := by
  refine ⟨h'.attemptId.trans h.attemptId, h'.fixed.trans h.fixed,
    fun d hd => h'.blobHash d (h.blobHash d hd), fun d hd => h'.headersHash d (h.headersHash d hd), ?_⟩
  obtain ⟨hs, ho, ht, hp⟩ | hlt := h.progress
  · obtain ⟨hs', ho', ht', hp'⟩ | hlt' := h'.progress
    · exact Or.inl ⟨hs'.trans hs, ho'.trans ho, ht'.trans ht, hp'.trans hp⟩
    · exact Or.inr (hs ▸ hlt')
  · obtain ⟨hs', -⟩ | hlt' := h'.progress
    · exact Or.inr (hs' ▸ hlt)
    · exact Or.inr (hlt.trans hlt')

/-- A terminal attempt keeps its state and outcome. -/
theorem AttemptRow.Later.of_terminal (h : old.Later new) (hold : old.state.rank = 7) :
    new.state = old.state ∧ new.outcome = old.outcome ∧
      new.terminalRecordedAt = old.terminalRecordedAt ∧ new.phase = old.phase := by
  obtain hsame | hlt := h.progress
  · exact hsame
  · have := rank_le new.state
    omega

theorem or_of_compatible {stored supplied : Option String} {d : String}
    (h : compatibleDigest stored supplied) (hd : stored = some d) : supplied.or stored = some d := by
  obtain hnone | heq | hnone := h
  · rw [hnone] at hd
    cases hd
  · rw [← heq, hd]
    rfl
  · rw [hnone, hd]
    rfl

theorem rowAfter_fixed (op : TransitionOperation) (row : AttemptRow) :
    (op.rowAfter row).attemptId = row.attemptId ∧ (op.rowAfter row).fixed = row.fixed := by
  unfold TransitionOperation.rowAfter TransitionCommand.rowAfter
  split
  · cases op.command.attemptOutcome <;> cases op.phaseEvidence <;> exact ⟨rfl, rfl⟩
  · cases op.phaseEvidence <;> exact ⟨rfl, rfl⟩

theorem command_rowAfter_digests (c : TransitionCommand) (row : AttemptRow) :
    (c.rowAfter row).requestBlobHash = row.requestBlobHash ∧
      (c.rowAfter row).requestHeadersHash = row.requestHeadersHash := by
  unfold TransitionCommand.rowAfter
  split
  · cases c.attemptOutcome <;> exact ⟨rfl, rfl⟩
  · exact ⟨rfl, rfl⟩

/-- The edge that an accepted transition of an attempt follows; the record of its initial state
changes nothing. -/
theorem Accepted.attempt_edge (ha : Accepted j op) (hkey : op.command.key = ⟨.attempt, id⟩)
    (hrow : j.attempts.find id = some row) :
    op.command.expectedState = none ∨ ∃ s, op.command.expectedState = some (.attempt row.state) ∧
      op.command.newState = .attempt s ∧ (row.state, s) ∈ attemptEdges := by
  obtain ⟨hnone, -⟩ | ⟨old, hold, hstate, hallowed⟩ := ha.edge_cases
  · exact Or.inl hnone
  · right
    have hj : j.state op.command.key = some (.attempt row.state) := by
      simp only [hkey, Journal.state, hrow, Option.map_some]
    rw [hj] at hstate
    cases hstate
    cases hnew : op.command.newState with
    | attempt s =>
      rw [hnew] at hallowed
      exact ⟨s, hold, rfl, of_decide_eq_true hallowed⟩
    | _ =>
      rw [hnew] at hallowed
      cases hallowed

theorem rowAfter_progress (ha : Accepted j op) (hw : Written j op j')
    (hkey : op.command.key = ⟨.attempt, id⟩) (hrow : j.attempts.find id = some row) :
    op.rowAfter row = row ∨ row.state.rank < (op.rowAfter row).state.rank := by
  obtain hnone | ⟨s, hold, hnew, hedge⟩ := ha.attempt_edge hkey hrow
  · left
    have hphase : op.phaseEvidence = none := by
      cases hphase : op.phaseEvidence with
      | none => rfl
      | some e =>
        obtain ⟨old, -, hold, -⟩ := validatePhaseEdge_ok (hw.phase e hphase).1
        rw [hnone] at hold
        cases hold
    rw [TransitionOperation.rowAfter, hphase, Option.elim_none, TransitionCommand.rowAfter, hnone]
  · right
    have hstate : (op.rowAfter row).state = s := by
      unfold TransitionOperation.rowAfter TransitionCommand.rowAfter
      rw [hold, hnew]
      cases op.command.attemptOutcome <;> cases op.phaseEvidence <;> rfl
    rw [hstate]
    exact rank_lt_of_edge _ hedge

theorem rowAfter_digests (hw : Written j op j')
    (hkey : op.command.key = ⟨.attempt, id⟩) (hrow : j.attempts.find id = some row) (d : String) :
    (row.requestBlobHash = some d → (op.rowAfter row).requestBlobHash = some d) ∧
      (row.requestHeadersHash = some d → (op.rowAfter row).requestHeadersHash = some d) := by
  obtain ⟨hblob, hheaders⟩ := command_rowAfter_digests op.command row
  unfold TransitionOperation.rowAfter
  cases hphase : op.phaseEvidence with
  | none =>
    rw [Option.elim_none, hblob, hheaders]
    exact ⟨fun hd => hd, fun hd => hd⟩
  | some e =>
    obtain ⟨hedge, moved, hmoved, hcompatible⟩ := hw.phase e hphase
    obtain ⟨_, new, -, hnew, -⟩ := validatePhaseEdge_ok hedge
    have hid : op.command.entityId = id := congrArg EntityKey.entityId hkey
    rw [updateProjection_find hnew, if_pos rfl, hid, hrow] at hmoved
    cases hmoved
    rw [Option.elim_some]
    constructor
    · intro hd
      exact or_of_compatible hcompatible.1 (hblob.trans hd)
    · intro hd
      exact or_of_compatible hcompatible.2 (hheaders.trans hd)

theorem rowAfter_later (ha : Accepted j op) (hw : Written j op j')
    (hkey : op.command.key = ⟨.attempt, id⟩) (hrow : j.attempts.find id = some row) :
    row.Later (op.rowAfter row) := by
  obtain heq | hlt := rowAfter_progress ha hw hkey hrow
  · rw [heq]
    exact .refl row
  · obtain ⟨hid, hfixed⟩ := rowAfter_fixed op row
    exact ⟨hid, hfixed, fun d => (rowAfter_digests hw hkey hrow d).1,
      fun d => (rowAfter_digests hw hkey hrow d).2, Or.inr hlt⟩

theorem step_later (h : j.Step j') (hrow : j.attempts.find id = some row) :
    ∃ new, j'.attempts.find id = some new ∧ row.Later new := by
  cases h with
  | commit ha hw =>
    rw [hw.find_attempt ha]
    split
    · next hkey =>
      rw [hrow]
      exact ⟨_, rfl, rowAfter_later ha hw hkey hrow⟩
    · exact ⟨row, hrow, .refl row⟩
  | insertAttempt _ _ _ hinsert => exact ⟨row, Table.find_insert_of_some hinsert hrow, .refl row⟩
  | @rebindAttempt rebound hfound _ =>
    by_cases hid : id = rebound.attemptId
    · refine ⟨{ row with ownerEpoch := j.run.ownerEpoch }, ?_, ?_⟩
      · refine (Table.find_modify (by intro; rfl)).trans ?_
        rw [if_pos hid, ← hid, hrow]
        rfl
      · exact ⟨rfl, rfl, fun _ hd => hd, fun _ hd => hd, Or.inl ⟨rfl, rfl, rfl, rfl⟩⟩
    · exact ⟨row, (Table.find_modify (by intro; rfl)).trans ((if_neg hid).trans hrow), .refl row⟩
  | _ => exact ⟨row, hrow, .refl row⟩

/-- Over any run an attempt's row only moves on. -/
theorem evolves_later (h : ReflTransGen Journal.Evolves j j')
    (hrow : j.attempts.find id = some row) : ∃ new, j'.attempts.find id = some new ∧ row.Later new := by
  refine evolves_invariant (P := fun u => ∃ new, u.attempts.find id = some new ∧ row.Later new)
    ?_ (fun _ hu => hu) h ⟨row, hrow, .refl row⟩
  rintro u v ⟨mid, hmid, hlater⟩ hstep
  obtain ⟨new, hnew, hlater'⟩ := step_later hstep hmid
  exact ⟨new, hnew, hlater.trans hlater'⟩

end Later

end WebhookConformance
