import WebhookConformance.Audit
import WebhookConformance.Ownership
import WebhookConformance.ScheduleRows

/-! Applying a committed command again: what its verification finds in every later journal. -/
namespace WebhookConformance

open Checked Relation

variable {j j' u : Journal} {op : TransitionOperation} {id : String}

section Records

theorem step_records (h : j.Step j') : j.transitions ⊆ j'.transitions := by
  cases h with
  | commit ha hw =>
    rw [hw.transitions]
    exact List.subset_append_left _ _
  | _ => exact List.Subset.refl _

theorem step_chronicle (h : j.Step j') (hc : Chronicle j.transitions) : Chronicle j'.transitions := by
  cases h with
  | commit ha hw => exact hc.snoc ha hw
  | _ => exact hc

theorem evolves_chronicle (h : ReflTransGen Journal.Evolves j j')
    (hc : Chronicle j.transitions) : Chronicle j'.transitions :=
  evolves_invariant (P := fun v => Chronicle v.transitions)
    (fun _ _ hu hstep => step_chronicle hstep hu) (fun _ hu => hu) h hc

theorem evolves_record {r : TransitionRecord} (h : ReflTransGen Journal.Evolves j j')
    (hr : r ∈ j.transitions) : r ∈ j'.transitions :=
  evolves_invariant (P := fun v => r ∈ v.transitions)
    (fun _ _ hu hstep => step_records hstep hu) (fun _ hu => hu) h hr

/-- A stored record is the one that its idempotency key finds. -/
theorem find_record {records : List TransitionRecord} {r : TransitionRecord} (hc : Chronicle records)
    (hr : r ∈ records) : records.find? (·.idempotencyKey = r.idempotencyKey) = some r := by
  cases hfind : records.find? (·.idempotencyKey = r.idempotencyKey) with
  | none => exact absurd (decide_eq_true rfl) (List.find?_eq_none.1 hfind r hr)
  | some other =>
    have hkey : other.idempotencyKey = r.idempotencyKey := by simpa using List.find?_some hfind
    rw [List.inj_on_of_nodup_map hc.keys (List.mem_of_find?_eq_some hfind) hr hkey]

end Records

section Outcome

/-- The entry after an attempt that has ended without a retry was never scheduled. -/
theorem no_next_entry {row : AttemptRow} (hs : Spaced j) (hrow : j.attempts.find id = some row)
    (hrank : row.state.rank < 7) {eid : String} {entry : ScheduleRow}
    (hentry : j.schedule.find eid = some entry) : ¬ entry.After j row := by
  intro hafter
  obtain hle | ⟨prior, hprior, hterminal, hafter'⟩ := hs.spaced eid entry hentry
  · have hpos := (hs.owned id row hrow).1
    have := hafter.2.2.2.2
    omega
  · obtain rfl := hs.after_unique hrow hprior hafter hafter'
    rw [hrow] at hprior
    cases hprior
    omega

/-- The attempt `id` has ended, and no entry comes after it. -/
def EndedLast (id : String) (old : AttemptRow) (v : Journal) : Prop :=
  Spaced v ∧ ∃ row, v.attempts.find id = some row ∧ old.Later row ∧
    ∀ eid entry, v.schedule.find eid = some entry → ¬ entry.After v row

theorem EndedLast.step {old : AttemptRow} (hrank : old.state.rank = 7)
    (hstate : old.state ≠ .unknownOutcome) (h : EndedLast id old j) (hstep : j.Step j') :
    EndedLast id old j' := by
  obtain ⟨hs, row, hrow, hlater, hlast⟩ := h
  obtain ⟨new, hnew, hlater'⟩ := step_later hstep hrow
  have hs' := hs.step hstep
  refine ⟨hs', new, hnew, hlater.trans hlater', ?_⟩
  have hsame := hlater.of_terminal hrank
  intro eid entry hentry hafter
  cases hold : j.schedule.find eid with
  | none =>
    obtain ⟨prior, hprior, -, hafter', hcause⟩ := step_entry_new hstep hold hentry
    have hid := hs'.after_unique hnew hprior hafter hafter'
    rw [← hid, hnew] at hprior
    cases hprior
    obtain hunknown | ⟨before, hbefore, hlt⟩ := hcause
    · rw [((hlater.trans hlater').of_terminal hrank).1] at hunknown
      exact hstate hunknown
    · rw [← hid, hrow] at hbefore
      cases hbefore
      rw [hsame.1, hrank] at hlt
      exact lt_irrefl _ hlt
  | some before =>
    obtain ⟨after, hafterEntry, hplan, -⟩ := step_entry hstep hold
    rw [hentry] at hafterEntry
    cases hafterEntry
    have hplanned := step_planned hstep
    exact hlast eid before hold (hafter.congr (hplanned _).1.symm (hplanned _).2.symm hplan.symm
      hlater'.fixed.symm)

theorem EndedLast.evolves {old : AttemptRow} (hrank : old.state.rank = 7)
    (hstate : old.state ≠ .unknownOutcome) (h : EndedLast id old j)
    (hops : ReflTransGen Journal.Evolves j j') : EndedLast id old j' := by
  refine evolves_invariant (fun _ _ hu hstep => hu.step hrank hstate hstep) ?_ hops h
  rintro v ⟨hs, row, hrow⟩
  exact ⟨⟨hs.placed, hs.owned, hs.unique, hs.spaced⟩, row, hrow⟩

/-- The row of an attempt after a terminal transition of it. -/
theorem Written.outcome_row (hw : Written j op j') (ha : Accepted j op)
    {outcome : AttemptTerminalOutcome} (houtcome : op.command.attemptOutcome = some outcome) :
    ∃ s row row', op.command.newState = .attempt s ∧ s ∈ terminalAttemptStates ∧
      j.attempts.find op.command.entityId = some row ∧ row.state.rank < 7 ∧
      j'.attempts.find op.command.entityId = some row' ∧ row.Later row' ∧ row'.state = s ∧
      row'.outcome = some outcome.classification ∧
      row'.terminalRecordedAt = some op.command.timestamp.wallTime ∧
      ∀ r ∈ outcome.retrySchedule, s ∈ atomicRetryStates ∧ r.Follows j row := by
  obtain ⟨s, row, hnew, hs, hrow, -, hretry⟩ := ha.terminal houtcome
  obtain ⟨hfind, hstate, hrank⟩ := hw.terminal_row ha hnew hs hrow
  have hkey : op.command.key = ⟨.attempt, op.command.entityId⟩ := by
    rw [TransitionCommand.key, hnew]
    rfl
  obtain ⟨old, hold⟩ : ∃ old, op.command.expectedState = some old := by
    obtain ⟨hnone, hinitial, -⟩ | ⟨old, hold, -⟩ := ha.edge_cases
    · rw [hkey, hnew] at hinitial
      cases hinitial
      exact absurd hs (by decide)
    · exact ⟨old, hold⟩
  have hrowAfter : (op.rowAfter row).outcome = some outcome.classification ∧
      (op.rowAfter row).terminalRecordedAt = some op.command.timestamp.wallTime := by
    unfold TransitionOperation.rowAfter TransitionCommand.rowAfter
    rw [hold, hnew, houtcome]
    cases op.phaseEvidence <;> exact ⟨rfl, rfl⟩
  exact ⟨s, row, op.rowAfter row, hnew, hs, hrow, hrank, hfind, rowAfter_later ha hw hkey hrow,
    hstate, hrowAfter.1, hrowAfter.2, hretry⟩

/-- After a terminal transition without a retry, no entry comes next. -/
theorem Written.ended_last (hw : Written j op j') (ha : Accepted j op) (hs : Spaced j)
    {row row' : AttemptRow} (hretry : op.command.retrySchedule = none)
    (hrow : j.attempts.find op.command.entityId = some row) (hrank : row.state.rank < 7)
    (hrow' : j'.attempts.find op.command.entityId = some row') (hlater : row.Later row') :
    EndedLast op.command.entityId row' j' := by
  have hplanned := step_planned (.commit ha hw)
  refine ⟨hs.step (.commit ha hw), row', hrow', .refl row', ?_⟩
  intro eid entry hentry hafter
  have hschedule := hw.schedule
  rw [hretry] at hschedule
  rw [← Option.some.inj hschedule] at hentry
  exact no_next_entry hs hrow hrank hentry
    (hafter.congr (hplanned _).1.symm (hplanned _).2.symm rfl hlater.fixed.symm)

/-- The outcome of a terminal transition is found again. -/
theorem outcome_verified (ha : Accepted j op) (hw : Written j op j') (hs : Spaced j)
    {outcome : AttemptTerminalOutcome} (houtcome : op.command.attemptOutcome = some outcome)
    (hu : ReflTransGen Journal.Evolves j' u) (n : Nat) :
    verifyExistingAttemptOutcome u op.command (recordFromCommand op.command n) outcome = .ok () := by
  obtain ⟨s, row, row', hnew, hterminal, hrow, hrank, hrow', hlater, hstate, hclass, hrecorded,
    hretry⟩ := hw.outcome_row ha houtcome
  obtain ⟨final, hfinal, hlater'⟩ := evolves_later hu hrow'
  have hrank' : row'.state.rank = 7 := by rw [hstate, rank_terminal hterminal]
  obtain ⟨hfinalState, hfinalClass, hfinalRecorded, -⟩ := hlater'.of_terminal hrank'
  have hplanned := evolves_planned (.head (Or.inl (.commit ha hw)) hu)
  unfold verifyExistingAttemptOutcome
  rw [hfinal]
  refine bind_of (require_of ⟨?_, hfinalClass.trans hclass, hfinalRecorded.trans hrecorded⟩)
    (bind_of (require_of ?_) ?_)
  · rw [hfinalState, hstate, ← hnew]
    rfl
  · intro o ho r hr
    rw [houtcome] at ho
    cases ho
    obtain ⟨hatomic, hfollows⟩ := hretry r hr
    obtain ⟨hprior, hafter⟩ := RetrySchedule.follows_iff.1 hfollows
    refine ⟨by rw [hfinalState, hstate]; exact hatomic, RetrySchedule.follows_iff.2 ⟨?_, ?_⟩⟩
    · rw [hprior, hlater'.attemptId, hlater.attemptId]
    · exact hafter.congr (hplanned _).1 (hplanned _).2 rfl (hlater.trans hlater').fixed
  · unfold verifyRetryOutcome
    have hcommand : op.command.retrySchedule = outcome.retrySchedule := by
      rw [TransitionCommand.retrySchedule, houtcome]
      rfl
    cases hr : outcome.retrySchedule with
    | none =>
      refine require_of fun hatomic => ?_
      have hknown : row'.state ≠ .unknownOutcome := by
        rw [← hfinalState]
        rintro heq
        rw [heq] at hatomic
        exact absurd hatomic (by decide)
      obtain ⟨-, last, hlast, -, hnone⟩ := (hw.ended_last ha hs (hcommand.trans hr) hrow hrank hrow'
        hlater).evolves hrank' hknown hu
      rw [hfinal] at hlast
      cases hlast
      rintro ⟨entry, hentry, hafter⟩
      exact hnone _ entry (Table.find_of_mem hentry) hafter
    | some r =>
      have hschedule := hw.schedule
      rw [hcommand, hr] at hschedule
      have hinserted : j'.schedule.find r.scheduleEntryId = some _ :=
        (Table.find_insert hschedule).trans (if_pos rfl)
      obtain ⟨entry, hentry, hplan⟩ := evolves_entry hu hinserted
      refine require_of ⟨entry, (Table.find_eq_some.1 hentry).1, ?_, hplan⟩
      exact congrArg ScheduleRow.idempotencyKey hplan

end Outcome

section Phase

/-- The phase evidence of a transition is found again. -/
theorem phase_verified (ha : Accepted j op) (hw : Written j op j')
    (hu : ReflTransGen Journal.Evolves j' u) :
    verifyAttemptPhaseEvidence u op.command op.phaseEvidence = .ok () := by
  cases hphase : op.phaseEvidence with
  | none => rfl
  | some e =>
    obtain ⟨hedge, moved, hmoved, -⟩ := hw.phase e hphase
    obtain ⟨old, new, hold, hnew, -⟩ := validatePhaseEdge_ok hedge
    rw [updateProjection_find hnew, if_pos rfl] at hmoved
    obtain ⟨row, hrow, -⟩ := Option.map_eq_some_iff.1 hmoved
    have hkey : op.command.key = ⟨.attempt, op.command.entityId⟩ := by
      rw [TransitionCommand.key, hnew]
      rfl
    have hrow' : j'.attempts.find op.command.entityId = some (op.rowAfter row) := by
      rw [hw.find_attempt ha, if_pos hkey, hrow]
      rfl
    have hafter : op.rowAfter row = (op.command.rowAfter row).withPhase e := by
      rw [TransitionOperation.rowAfter, hphase, Option.elim_some]
    obtain ⟨final, hfinal, hlater⟩ := evolves_later hu hrow'
    unfold verifyAttemptPhaseEvidence
    rw [hfinal]
    refine bind_of hedge (require_of ⟨?_, ?_, ?_⟩)
    · intro hstate
      have hsame : final.state = (op.rowAfter row).state := by
        have hstate' : (op.command.rowAfter row).state = new := by
          rw [TransitionCommand.rowAfter, hold, hnew]
          cases op.command.attemptOutcome <;> rfl
        rw [hafter]
        rw [hnew, LifecycleState.attempt.injEq] at hstate
        exact hstate.symm.trans hstate'.symm
      obtain ⟨-, -, -, hphase'⟩ | hlt := hlater.progress
      · rw [hphase', hafter]
        rfl
      · rw [hsame] at hlt
        exact absurd hlt (lt_irrefl _)
    · intro hsome
      obtain ⟨d, hd⟩ := Option.isSome_iff_exists.1 hsome
      rw [hd]
      apply hlater.blobHash
      rw [hafter, AttemptRow.withPhase, hd]
      rfl
    · intro hsome
      obtain ⟨d, hd⟩ := Option.isSome_iff_exists.1 hsome
      rw [hd]
      apply hlater.headersHash
      rw [hafter, AttemptRow.withPhase, hd]
      rfl

end Phase

section Transport

/-- The final records of an attempt. -/
def Journal.recordsOf (j : Journal) (id : String) : List AttemptRecord :=
  j.attemptRecords.rows.filter (·.evidence.attemptId = id)

/-- Transport evidence names the attempt of its command. -/
theorem Accepted.evidence_attempt (ha : Accepted j op) {e : AttemptTransportEvidenceCommand}
    (he : op.transportEvidence = some e) : e.attemptId = op.command.entityId := by
  have hpresence := ha.transportPresence
  obtain ⟨_, -, hpresence⟩ := bind_ok hpresence
  obtain ⟨_, -, hpresence⟩ := bind_ok hpresence
  obtain ⟨_, hid, -⟩ := bind_ok hpresence
  exact require_ok hid e he

/-- A transition with transport evidence writes the first final record of its attempt. -/
theorem Accepted.no_record (ha : Accepted j op) {e : AttemptTransportEvidenceCommand}
    (he : op.transportEvidence = some e) : j.recordsOf op.command.entityId = [] := by
  have htransport := ha.transport
  rw [validateTransportIdentity, he] at htransport
  dsimp only at htransport
  unfold validateTransportEvidenceIdentity at htransport
  split at htransport
  · cases htransport
  obtain ⟨_, -, htransport⟩ := bind_ok htransport
  obtain ⟨_, hfresh, -⟩ := bind_ok htransport
  refine List.filter_eq_nil_iff.2 ?_
  intro r hr
  simpa using require_ok hfresh r hr

theorem Written.recordsOf (hw : Written j op j') (ha : Accepted j op) (id : String) :
    j'.recordsOf id = j.recordsOf id ++ if id = op.command.entityId then
      (op.transportEvidence.map (attemptRecordOf j op.command)).toList else [] := by
  have hrecords := hw.attemptRecords
  unfold Journal.recordsOf
  cases he : op.transportEvidence with
  | none =>
    rw [he] at hrecords
    rw [← Option.some.inj hrecords]
    split <;> simp
  | some e =>
    rw [he] at hrecords
    have hid := ha.evidence_attempt he
    rw [(Table.insert_some hrecords).1, List.filter_append]
    congr 1
    by_cases h : id = op.command.entityId
    · rw [if_pos h]
      exact List.filter_cons_of_pos (by simpa [attemptRecordOf, hid] using h.symm)
    · rw [if_neg h]
      exact List.filter_cons_of_neg (by simpa [attemptRecordOf, hid] using Ne.symm h)

/-- An attempt has at most one final record, which stays. -/
theorem step_recordsOf {r : AttemptRecord} (h : j.Step j') (hr : j.recordsOf id = [r]) :
    j'.recordsOf id = [r] := by
  cases h with
  | @commit op _ ha hw =>
    rw [hw.recordsOf ha, hr]
    split
    · next hid =>
      cases he : op.transportEvidence with
      | none => rfl
      | some e =>
        have hnil := ha.no_record he
        rw [← hid, hr] at hnil
        cases hnil
    · rfl
  | _ => exact hr

/-- The transport evidence of a terminal transition is found again. -/
theorem transport_verified (ha : Accepted j op) (hw : Written j op j')
    (hu : ReflTransGen Journal.Evolves j' u) (n : Nat) :
    verifyExistingAttemptRecord u op.command (recordFromCommand op.command n)
      op.transportEvidence = .ok () := by
  cases he : op.transportEvidence with
  | none => rfl
  | some e =>
    have hrecord : j'.recordsOf op.command.entityId = [attemptRecordOf j op.command e] := by
      rw [hw.recordsOf ha, ha.no_record he, if_pos rfl, he]
      rfl
    have hfinal : u.recordsOf op.command.entityId = [attemptRecordOf j op.command e] :=
      evolves_invariant (fun _ _ hv hstep => step_recordsOf hstep hv) (fun _ hv => hv) hu hrecord
    unfold Journal.recordsOf at hfinal
    unfold verifyExistingAttemptRecord
    rw [hfinal]
    exact require_of rfl

end Transport

section Staging

/-- The staged response of an attempt is there until the attempt is reduced, and gone for good
after that. -/
def Staged (id : String) (row : ResponseStagingRow) (v : Journal) : Prop :=
  ∃ a, v.attempts.find id = some a ∧
    (a.state = .responseObserved ∧ v.staging.find id = some row ∨
      a.state.rank = 7 ∧ v.staging.find id = none)

/-- A response is staged for the attempt of the command that observes it. -/
theorem Accepted.staging_attempt (ha : Accepted j op) {s : AttemptResponseStagingCommand}
    (hs : op.responseStaging = some s) :
    op.command.observesResponse ∧ s.row.evidence.attemptId = op.command.entityId := by
  have hpresence := ha.stagingPresence
  obtain ⟨_, hobserves, hid⟩ := bind_ok hpresence
  exact ⟨(require_ok hobserves).2 (by rw [hs]; rfl), require_ok hid s hs⟩

/-- A transition leaves the staged responses of the other attempts alone. -/
theorem Written.staging_other (hw : Written j op j') (ha : Accepted j op)
    (hkey : op.command.key ≠ ⟨.attempt, id⟩) : j'.staging.find id = j.staging.find id := by
  obtain ⟨staged, hstaged, hafter⟩ := hw.staging
  have hother : ∀ s, op.command.newState = .attempt s → id ≠ op.command.entityId := by
    intro s hnew hid
    apply hkey
    rw [TransitionCommand.key, hnew, hid]
    rfl
  have hinserted : staged.find id = j.staging.find id := by
    cases hs : op.responseStaging with
    | none =>
      rw [hs] at hstaged
      rw [← Option.some.inj hstaged]
    | some s =>
      obtain ⟨hobserves, hid⟩ := ha.staging_attempt hs
      rw [hs] at hstaged
      rw [Table.find_insert hstaged, hid, if_neg (hother _ hobserves.2)]
  rw [hafter]
  split
  · next hreduces =>
    obtain ⟨s, hs⟩ := Option.isSome_iff_exists.1 hreduces.2
    rw [Table.find_erase, if_neg (hother s (TransitionCommand.terminalAttempt_eq_some hs).1)]
    exact hinserted
  · exact hinserted

/-- A response leads to a terminal state. -/
theorem edge_of_observed : ∀ e ∈ attemptEdges, e.1 = .responseObserved → e.2 ∈ terminalAttemptStates := by
  decide

theorem Staged.step {row : ResponseStagingRow} (h : Staged id row j) (hstep : j.Step j') :
    Staged id row j' := by
  obtain ⟨a, ha, hstaged⟩ := h
  obtain ⟨b, hb, -⟩ := step_later hstep ha
  refine ⟨b, hb, ?_⟩
  -- as long as neither the state nor the staging table changes
  have hsame : b.state = a.state → j'.staging.find id = j.staging.find id →
      b.state = .responseObserved ∧ j'.staging.find id = some row ∨
        b.state.rank = 7 ∧ j'.staging.find id = none := by
    intro hstate hfind
    rw [hstate, hfind]
    exact hstaged
  cases hstep with
  | @commit op _ haccept hw =>
    by_cases hkey : op.command.key = ⟨.attempt, id⟩
    · have hid : op.command.entityId = id := congrArg EntityKey.entityId hkey
      have hobserved : op.command.expectedState ≠ none := by
        intro hnone
        obtain ⟨-, hinitial, hstate, -⟩ | ⟨old, hold, -⟩ := haccept.edge_cases
        · rw [hinitial, hkey] at hstate
          simp only [Journal.state, ha, Option.map_some, initialState, Option.some.injEq,
            LifecycleState.attempt.injEq] at hstate
          obtain ⟨hs, -⟩ | ⟨hs, -⟩ := hstaged <;> rw [hstate] at hs <;> cases hs
        · rw [hnone] at hold
          cases hold
      obtain hnone | ⟨s, hexpected, hnew, hedge⟩ := haccept.attempt_edge hkey ha
      · exact absurd hnone hobserved
      have hlt := rank_lt_of_edge _ hedge
      have hle := rank_le s
      obtain ⟨hstate, hfind⟩ | ⟨hrank, -⟩ := hstaged
      · have hterminal := edge_of_observed _ hedge hstate
        have hreduces : op.command.reducesResponse := by
          refine ⟨by rw [hexpected, hstate], ?_⟩
          rw [TransitionCommand.terminalAttempt, hnew]
          dsimp only
          rw [if_pos hterminal]
          rfl
        rw [← hid] at ha
        obtain ⟨hrow, hstate', -⟩ := hw.terminal_row haccept hnew hterminal ha
        rw [hid, hb] at hrow
        cases hrow
        refine Or.inr ⟨by rw [hstate']; exact rank_terminal hterminal, ?_⟩
        obtain ⟨staged, -, hafter⟩ := hw.staging
        rw [hafter, if_pos hreduces, Table.find_erase, if_pos hid.symm]
      · dsimp only at hlt
        omega
    · refine hsame ?_ (hw.staging_other haccept hkey)
      rw [hw.find_attempt haccept, if_neg hkey, ha] at hb
      cases hb
      rfl
  | insertAttempt _ _ _ hinsert =>
    cases (Table.find_insert_of_some hinsert ha).symm.trans hb
    exact hsame rfl rfl
  | rebindAttempt =>
    refine hsame (Option.some.inj ?_) rfl
    rw [← Option.map_some, ← hb, ← Option.map_some (f := AttemptRow.state), ← ha]
    exact Table.map_find_modify (by intro; rfl) (by intro; rfl)
  | _ =>
    cases ha.symm.trans hb
    exact hsame rfl rfl

/-- The staged response is found again exactly as long as it has not been reduced. -/
theorem staging_verified_iff (ha : Accepted j op) (hw : Written j op j')
    (hu : ReflTransGen Journal.Evolves j' u) :
    verifyAttemptResponseStaging u op.command op.responseStaging = .ok () ↔
      (op.responseStaging.isSome → u.state op.command.key = some (.attempt .responseObserved)) := by
  cases hs : op.responseStaging with
  | none => simp [verifyAttemptResponseStaging]
  | some s =>
    obtain ⟨hobserves, hid⟩ := ha.staging_attempt hs
    have hkey : op.command.key = ⟨.attempt, op.command.entityId⟩ := by
      rw [TransitionCommand.key, hobserves.2]
      rfl
    have hreduces : ¬ op.command.reducesResponse := by
      rintro ⟨hexpected, -⟩
      rw [hobserves.1] at hexpected
      cases hexpected
    have hstaged : Staged op.command.entityId s.row j' := by
      have hstate : j'.state op.command.key = some op.command.newState :=
        (hw.state ha).trans (if_pos rfl)
      rw [hkey, hobserves.2] at hstate
      obtain ⟨a, hfind, hstate⟩ := Option.map_eq_some_iff.1 hstate
      rw [LifecycleState.attempt.injEq] at hstate
      refine ⟨a, hfind, Or.inl ⟨hstate, ?_⟩⟩
      obtain ⟨staged, hstaged, hafter⟩ := hw.staging
      rw [hs] at hstaged
      rw [hafter, if_neg hreduces, Table.find_insert hstaged, if_pos hid.symm]
    obtain ⟨a, hfind, hfinal⟩ : Staged op.command.entityId s.row u :=
      evolves_invariant (fun _ _ hv hstep => hv.step hstep) (fun _ hv => hv) hu hstaged
    have hpresence := ha.stagingPresence
    rw [hs] at hpresence
    rw [hkey]
    simp only [Option.isSome_some, forall_const, Journal.state, hfind, Option.map_some,
      Option.some.injEq, LifecycleState.attempt.injEq]
    constructor
    · intro h
      obtain ⟨_, -, h⟩ := bind_ok h
      obtain ⟨hstate, -⟩ | ⟨-, hnone⟩ := hfinal
      · exact hstate
      · rw [hnone] at h
        cases require_ok h
    · intro hstate
      refine bind_of hpresence (require_of ?_)
      obtain ⟨-, hfind⟩ | ⟨hrank, -⟩ := hfinal
      · exact hfind
      · rw [hstate] at hrank
        cases hrank

end Staging

section Transitions

/-- The record that an accepted transition has written. -/
def Journal.recordFor (j : Journal) (op : TransitionOperation) : TransitionRecord :=
  recordFromCommand op.command (nextSequence (j.transitions.map TransitionRecord.sequence))

theorem Written.find_later (hw : Written j op j') (ha : Accepted j op) (hc : Chronicle j.transitions)
    (hu : ReflTransGen Journal.Evolves j' u) :
    u.transitions.find? (·.idempotencyKey = op.command.idempotencyKey) = some (j.recordFor op) := by
  have hmem : j.recordFor op ∈ j'.transitions := by
    rw [hw.transitions]
    exact List.mem_append_right _ (List.mem_singleton_self _)
  exact find_record (evolves_chronicle hu (hc.snoc ha hw)) (evolves_record hu hmem)

/-- Of all that the verification of a replay compares, only the staged response may be gone. -/
theorem replay_iff (ha : Accepted j op) (hw : Written j op j') (hc : Chronicle j.transitions)
    (hs : Spaced j) (hu : ReflTransGen Journal.Evolves j' u)
    (howner : u.run.ownerEpoch = op.command.ownerEpoch) :
    applyTransition u op = .ok (u, ⟨j.recordFor op, true⟩) ↔
      (op.responseStaging.isSome → u.state op.command.key = some (.attempt .responseObserved)) := by
  have hfind := hw.find_later ha hc hu
  rw [← staging_verified_iff ha hw hu]
  constructor
  · intro h
    obtain ⟨_, -, h⟩ := bind_ok h
    obtain ⟨_, -, h⟩ := bind_ok h
    obtain ⟨_, -, h⟩ := bind_ok h
    obtain ⟨_, -, h⟩ := bind_ok h
    rw [hfind] at h
    obtain ⟨_, -, h⟩ := bind_ok h
    obtain ⟨_, -, h⟩ := bind_ok h
    obtain ⟨_, hstaging, -⟩ := bind_ok h
    exact hstaging
  · intro hstaging
    refine bind_of ha.scope (bind_of ha.stagingPresence (bind_of ha.transportPresence
      (bind_of (require_of howner) ?_)))
    rw [hfind]
    have hsemantics : verifyIdempotentReplay u op.command (j.recordFor op) = .ok () := by
      refine bind_of (require_of rfl) ?_
      cases houtcome : op.command.attemptOutcome with
      | none => rfl
      | some outcome => exact outcome_verified ha hw hs houtcome hu _
    exact bind_of hsemantics (bind_of (phase_verified ha hw hu)
      (bind_of hstaging (bind_of (transport_verified ha hw hu _) rfl)))

end Transitions

section Claims

variable {claim : AttemptScheduleClaim} {entry : ScheduleRow}

/-- What is left of a committed claim: its entry stays consumed and its attempt claimed, by the
claiming owner as long as that is the current one. -/
structure Claimed (claim : AttemptScheduleClaim) (entry : ScheduleRow) (v : Journal) : Prop where
  epoch : claim.transition.ownerEpoch ≤ v.run.ownerEpoch
  consumed : ∃ e at' epoch, v.schedule.find claim.scheduleEntryId = some e ∧
    ({ e with consumed := none } : ScheduleRow) = { entry with consumed := none } ∧
    e.consumed = some (at', epoch) ∧
    (v.run.ownerEpoch = claim.transition.ownerEpoch → epoch = claim.transition.ownerEpoch)
  attempt : ∃ row, v.attempts.find claim.attemptId = some row ∧
    row.fixed = (claimedRow claim entry).fixed ∧
    (v.run.ownerEpoch = claim.transition.ownerEpoch → row.ownerEpoch = claim.transition.ownerEpoch)

theorem step_owner {row new : AttemptRow} (h : j.Step j') (hrow : j.attempts.find id = some row)
    (hnew : j'.attempts.find id = some new) :
    new.ownerEpoch = row.ownerEpoch ∨ new.ownerEpoch = j.run.ownerEpoch := by
  cases h with
  | @commit op _ ha hw =>
    left
    rw [hw.find_attempt ha, hrow] at hnew
    split at hnew
    · cases hnew
      unfold TransitionOperation.rowAfter TransitionCommand.rowAfter
      split
      · cases op.command.attemptOutcome <;> cases op.phaseEvidence <;> rfl
      · cases op.phaseEvidence <;> rfl
    · cases hnew
      rfl
  | insertAttempt _ _ _ hinsert =>
    cases (Table.find_insert_of_some hinsert hrow).symm.trans hnew
    exact Or.inl rfl
  | rebindAttempt =>
    have hfind := (Table.find_modify (by intro; rfl)).symm.trans hnew
    split at hfind
    · next hid =>
      rw [← hid, hrow] at hfind
      cases hfind
      exact Or.inr rfl
    · cases hrow.symm.trans hfind
      exact Or.inl rfl
  | _ =>
    cases hrow.symm.trans hnew
    exact Or.inl rfl

theorem Claimed.step (h : Claimed claim entry j) (hstep : j.Step j') : Claimed claim entry j' := by
  have hepoch := step_epoch hstep
  refine ⟨hepoch ▸ h.epoch, ?_, ?_⟩
  · obtain ⟨e, at', epoch, hfind, hplan, hconsumed, howner⟩ := h.consumed
    obtain ⟨e', hfind', hplan', hsame | hnone | ⟨at'', hrebound⟩⟩ := step_entry hstep hfind
    · exact ⟨e', at', epoch, hfind', hplan'.trans hplan, hsame.trans hconsumed, hepoch ▸ howner⟩
    · rw [hconsumed] at hnone
      cases hnone
    · exact ⟨e', at'', _, hfind', hplan'.trans hplan, hrebound, fun heq => hepoch ▸ heq⟩
  · obtain ⟨row, hfind, hfixed, howner⟩ := h.attempt
    obtain ⟨row', hfind', hlater⟩ := step_later hstep hfind
    refine ⟨row', hfind', hlater.fixed.trans hfixed, ?_⟩
    intro heq
    obtain hsame | hrebound := step_owner hstep hfind hfind'
    · rw [hsame]
      exact howner (hepoch ▸ heq)
    · rw [hrebound, ← hepoch]
      exact heq

theorem Claimed.evolves (h : Claimed claim entry j) (hu : ReflTransGen Journal.Evolves j u) :
    Claimed claim entry u := by
  refine evolves_invariant (fun _ _ hv hstep => hv.step hstep) ?_ hu h
  intro v hv
  have hpast : v.advanced.run.ownerEpoch ≠ claim.transition.ownerEpoch :=
    (Nat.lt_succ_of_le hv.epoch).ne'
  obtain ⟨e, at', epoch, hfind, hplan, hconsumed, -⟩ := hv.consumed
  obtain ⟨row, hrow, hfixed, -⟩ := hv.attempt
  exact ⟨hv.epoch.trans (Nat.le_succ _),
    ⟨e, at', epoch, hfind, hplan, hconsumed, fun heq => absurd heq hpast⟩,
    ⟨row, hrow, hfixed, fun heq => absurd heq hpast⟩⟩

theorem retryPredecessor_terminal {s : AttemptState} (h : s ∈ retryPredecessorStates) : s.rank = 7 := by
  revert s
  decide

/-- A claim that was valid once is valid in every later journal. -/
theorem claim_revalidated {e : ScheduleRow} (h : validateAttemptScheduleClaim j claim entry = .ok ())
    (hu : ReflTransGen Journal.Evolves j u)
    (hplan : ({ e with consumed := none } : ScheduleRow) = { entry with consumed := none }) :
    validateAttemptScheduleClaim u claim e = .ok () := by
  obtain ⟨consumed, rfl⟩ : ∃ consumed, e = { entry with consumed } :=
    ⟨e.consumed, congrArg (fun r : ScheduleRow => { r with consumed := e.consumed }) hplan⟩
  have hplanned := evolves_planned hu
  obtain ⟨_, hsemantics, h⟩ := bind_ok h
  obtain ⟨_, hdelivery, h⟩ := bind_ok h
  obtain ⟨_, hplaces, hprior⟩ := bind_ok h
  refine bind_of (require_of (require_ok hsemantics)) (bind_of (require_of ?_)
    (bind_of (require_of ?_) ?_))
  · obtain ⟨d, hd⟩ := Option.isSome_iff_exists.1 (require_ok hdelivery)
    obtain ⟨d', hd', -⟩ := planned_find (hplanned _).2.symm hd
    exact Option.isSome_iff_exists.2 ⟨d', hd'⟩
  · obtain ⟨d, hd, s, hs, hscenario, hevent, hscenarioOrdinal, hstep, hordinal⟩ := require_ok hplaces
    obtain ⟨d', hd', hcolumns⟩ := planned_find (hplanned _).2.symm hd
    obtain ⟨e1, e2, e3, e4⟩ := planned_columns hcolumns
    have hscenarios := (hplanned d.scenarioId).1
    rw [hs, Option.map_some] at hscenarios
    obtain ⟨s', hs', hs''⟩ := Option.map_eq_some_iff.1 hscenarios
    exact ⟨d', hd', s', by rw [e1]; exact hs', e1.trans hscenario, e2.trans hevent,
      hs''.trans hscenarioOrdinal, e4.trans hstep, e3.trans hordinal⟩
  · unfold validateClaimedPredecessor at hprior ⊢
    cases hpredecessor : claim.predecessorAttemptId with
    | none =>
      rw [hpredecessor] at hprior
      exact hprior
    | some predecessor =>
      rw [hpredecessor] at hprior
      dsimp only at hprior ⊢
      unfold validateRetryPredecessor at hprior ⊢
      dsimp only
      cases hcondition : entry.condition with
      | none =>
        rw [hcondition] at hprior
        cases hprior
      | some condition =>
        rw [hcondition] at hprior
        obtain ⟨_, hpos, hprior⟩ := bind_ok hprior
        obtain ⟨_, hdistinct, hprior⟩ := bind_ok hprior
        obtain ⟨_, hidentity, hprior⟩ := bind_ok hprior
        obtain ⟨_, hexists, hprior⟩ := bind_ok hprior
        obtain ⟨prior, hfound⟩ := Option.isSome_iff_exists.1 (require_ok hexists)
        obtain ⟨later, hlater, hprogress⟩ := evolves_later hu hfound
        refine bind_of hpos (bind_of hdistinct (bind_of hidentity (bind_of
          (require_of (Option.isSome_iff_exists.2 ⟨later, hlater⟩)) (require_of ?_))))
        intro final hfinal
        rw [hlater] at hfinal
        cases hfinal
        obtain ⟨hscenario, hevent, hdelivery, hordinal, hstate, houtcome, hrecorded⟩ :=
          require_ok hprior prior hfound
        obtain ⟨e1, e2, e3, -⟩ := hprogress.of_terminal (retryPredecessor_terminal hstate)
        have hfixed := hprogress.fixed
        refine ⟨(congrArg AttemptIdentity.scenarioId hfixed).trans hscenario,
          (congrArg AttemptIdentity.eventId hfixed).trans hevent,
          (congrArg AttemptIdentity.deliveryId hfixed).trans hdelivery, ?_, e1 ▸ hstate,
          e2 ▸ houtcome, e3 ▸ hrecorded⟩
        have ho : later.ordinal = prior.ordinal := congrArg AttemptIdentity.ordinal hfixed
        rw [ho]
        exact hordinal

/-- The journal of a claim between its writes: the entry is consumed and the attempt there. -/
theorem claimed_inserted (howner : j.run.ownerEpoch = claim.transition.ownerEpoch)
    (hentry : j.schedule.find claim.scheduleEntryId = some entry)
    (h : insertClaimedAttempt (consumeSchedule j claim) claim entry = .ok j') :
    Claimed claim entry j' ∧ j'.transitions = j.transitions := by
  have hconsumed : (consumeSchedule j claim).schedule.find claim.scheduleEntryId =
      some { entry with
        consumed := some (claim.transition.timestamp.wallTime, claim.transition.ownerEpoch) } := by
    refine (Table.find_modify (by intro; rfl)).trans ?_
    rw [if_pos rfl, hentry]
    rfl
  obtain ⟨rfl, prepared, hprepared, hidentity, -⟩ | ⟨-, hinserted⟩ := insertClaimedAttempt_ok h
  · refine ⟨⟨howner.ge, ⟨_, _, _, hconsumed, rfl, rfl, fun _ => rfl⟩, prepared, hprepared, ?_, ?_⟩, rfl⟩
    · unfold AttemptRow.fixed
      rw [hidentity]
    · exact fun _ => congrArg AttemptIdentity.ownerEpoch hidentity
  · obtain ⟨attempts, hattempts, rfl, -⟩ := insertAttempt_ok hinserted
    exact ⟨⟨howner.ge, ⟨_, _, _, hconsumed, rfl, rfl, fun _ => rfl⟩, _,
      (Table.find_insert hattempts).trans (if_pos rfl), rfl, fun _ => rfl⟩, rfl⟩

/-- A committed claim is found again in every later journal of its owner. -/
theorem claim_replayed {record : TransitionRecord} (hc : Chronicle j.transitions)
    (h : claimAttemptSchedule j claim = .ok (j', ⟨record, false⟩))
    (hu : ReflTransGen Journal.Evolves j' u)
    (hcurrent : u.run.ownerEpoch = claim.transition.ownerEpoch) :
    claimAttemptSchedule u claim = .ok (u, ⟨record, true⟩) := by
  obtain ⟨entry, howner, hentry, hvalid, ⟨-, inserted, hinserted, happly⟩ | ⟨-, hreplay, -⟩⟩ :=
    claimAttemptSchedule_ok h
  swap
  · cases hreplay
  obtain ⟨existing, -, -, -, hcommitted⟩ | ⟨ha, hw, hcommitted⟩ := applyTransition_ok happly
  · cases hcommitted
  cases hcommitted
  obtain ⟨hclaimed, htransitions⟩ := claimed_inserted howner hentry hinserted
  obtain ⟨-, ⟨e, consumedAt, epoch, hfind, hplan, hconsumed, hepoch⟩, row, hrow, hfixed, hrowEpoch⟩ :=
    (hclaimed.step (.commit ha hw)).evolves hu
  have hwrites : ReflTransGen Journal.Evolves j u :=
    .trans (ReflTransGen.mono (fun _ _ => Or.inl) _ _ (claimAttemptSchedule_steps h)) hu
  have hrecord := hw.find_later ha (htransitions ▸ hc) hu
  refine bind_of (require_of hcurrent) ?_
  rw [hfind]
  refine bind_of (claim_revalidated hvalid hwrites hplan) ?_
  rw [hconsumed]
  have hclaimedRow : row.identity = (claimedRow claim e).identity := by
    obtain ⟨consumed, rfl⟩ : ∃ consumed, e = { entry with consumed } :=
      ⟨e.consumed, congrArg (fun r : ScheduleRow => { r with consumed := e.consumed }) hplan⟩
    exact identity_of_fixed hfixed (hrowEpoch hcurrent)
  refine bind_of (require_of (hepoch hcurrent)) (bind_of (require_of ⟨row, hrow, hclaimedRow⟩) ?_)
  have hverified : verifiedClaimTransition u claim =
      .ok (inserted.recordFor claim.transition.plain) := by
    unfold verifiedClaimTransition
    rw [show u.transitions.find? (·.idempotencyKey = claim.transition.idempotencyKey) = _ from hrecord]
    exact bind_of (require_of ⟨rfl, le_rfl⟩) rfl
  exact bind_of hverified rfl

end Claims

section Observed

/-- A transition of the attempt of the single plan. -/
def attemptCommand (old new : AttemptState) (tag : String) (outcome : Option AttemptTerminalOutcome) :
    TransitionCommand where
  transitionId := "attempt." ++ tag ++ ".attempt"
  entityId := "attempt"
  expectedState := some (.attempt old)
  newState := .attempt new
  triggerCategory := tag
  timestamp := ⟨"t", none⟩
  ownerEpoch := 0
  idempotencyKey := "attempt." ++ tag ++ ".attempt"
  causalReference := none
  logicalTimeNs := some 0
  deliverySatisfaction := none
  attemptOutcome := outcome
  expected_typed := by rintro _ ⟨⟩; rfl

def phaseOperation (old new : AttemptState) (tag : String) (phase : AttemptPhaseEvidence) :
    TransitionOperation :=
  ⟨attemptCommand old new tag none, some ⟨phase, some "body", some "headers"⟩, none, none⟩

def acceptedEvidence : AttemptTransportEvidenceCommand where
  recordId := "record"
  scenarioId := "scenario"
  eventId := "event"
  deliveryId := "delivery"
  attemptId := "attempt"
  state := .acknowledged
  classification := .receiverAccepted
  request := some ⟨"https://receiver.test/hook", "sha256:body", 2, ["content-type"]⟩
  response := some ⟨200, some "sha256:response", 0, false⟩
  error := none
  responseHeadersElapsedNs := none

def observeResponse : TransitionOperation :=
  { phaseOperation .awaitingResponse .responseObserved "response_observed" .responseObserved with
    responseStaging := some ⟨.succeeded, ⟨.receiverAccepted, none⟩, acceptedEvidence⟩ }

def reduceResponse : TransitionOperation where
  command := attemptCommand .responseObserved .succeeded "succeeded" (some ⟨.receiverAccepted, none⟩)
  phaseEvidence := none
  responseStaging := none
  transportEvidence := some acceptedEvidence

/-- The one attempt up to the wait for its response. -/
def awaitResponse : List JournalOperation :=
  [.claim singleClaim,
   .transition (phaseOperation .claimed .preSendCommitted "pre_send" .controlledPreTransport),
   .transition (phaseOperation .preSendCommitted .connecting "connecting" .connectionAttemptStarted),
   .transition (phaseOperation .connecting .sending "sending" .requestSendStarted),
   .transition (phaseOperation .sending .awaitingResponse "awaiting" .awaitingResponse)]

/-- A transition of the delivery of the single plan. -/
def deliveryOperation (old new : DeliveryState) (tag : String) : TransitionOperation where
  command :=
    { transitionId := "delivery." ++ tag ++ ".delivery"
      entityId := "delivery"
      expectedState := some (.delivery old)
      newState := .delivery new
      triggerCategory := tag
      timestamp := ⟨"t", none⟩
      ownerEpoch := 0
      idempotencyKey := "delivery." ++ tag ++ ".delivery"
      causalReference := none
      logicalTimeNs := none
      deliverySatisfaction := none
      attemptOutcome := none
      expected_typed := by rintro _ ⟨⟩; rfl }
  phaseEvidence := none
  responseStaging := none
  transportEvidence := none

end Observed

end WebhookConformance
