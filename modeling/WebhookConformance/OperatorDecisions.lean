import WebhookConformance.ResumePlans
import WebhookConformance.ScannedRuns

/-! What a committed operator decision changes for later resumes: the attempts that they report as
unresolved, and the verdicts from which they continue. -/
namespace WebhookConformance

open Checked

section Continuation

/-- `FullAttemptResult`, by the members that the verdicts of a resume read. -/
structure FullAttemptResult where
  evidence : AttemptTransportEvidenceCommand
  sequence : Nat
  terminalState : AttemptState
  attemptOrdinal : Nat
  deriving DecidableEq, Repr

/-- `_attempt_results` of the report snapshot: each final record with the columns of its attempt. -/
def attemptResults (j : Journal) : List FullAttemptResult :=
  j.attemptRecords.rows.filterMap fun r =>
    (j.attempts.find r.evidence.attemptId).map fun row => ⟨r.evidence, r.sequence, row.state, row.ordinal⟩

def deliveryStateForAttempt : AttemptState → Option DeliveryState
  | .succeeded => some .satisfied
  | .unknownOutcome => some .ambiguous
  | .cancelled => some .cancelled
  | .notSent | .rejected | .transportFailed => some .exhausted
  | _ => none

/-- An entry of `_PendingScheduleOperation`: not consumed yet, or consumed under the present owner for
an attempt that is still claimed. -/
def ScheduleRow.Pending (entry : ScheduleRow) (j : Journal) : Prop :=
  entry.consumed = none ∨
    (∃ c ∈ entry.consumed, c.2 = j.run.ownerEpoch) ∧
      ∃ d ∈ j.deliveries.rows, d.scenarioId = entry.scenarioId ∧ d.ordinal = entry.deliveryOrdinal ∧
        ∃ row ∈ j.attempts.rows, row.scenarioId = entry.scenarioId ∧ row.deliveryId = d.deliveryId ∧
          row.attemptPlanId = entry.entityId ∧ row.ordinal = entry.attemptOrdinal ∧ row.state = .claimed

instance (entry : ScheduleRow) (j : Journal) : Decidable (entry.Pending j) :=
  inferInstanceAs (Decidable (_ ∨ _))

/-- A pending entry is of this delivery. -/
def DeliveryRow.Scheduled (d : DeliveryRow) (j : Journal) : Prop :=
  ∃ entry ∈ j.schedule.rows, entry.Pending j ∧ entry.scenarioId = d.scenarioId ∧
    entry.deliveryOrdinal = d.ordinal

instance (d : DeliveryRow) (j : Journal) : Decidable (d.Scheduled j) :=
  inferInstanceAs (Decidable (∃ entry ∈ j.schedule.rows, _))

variable (j : Journal)

def candidates (deliveryId : String) : List FullAttemptResult :=
  (attemptResults j).filter (·.evidence.deliveryId = deliveryId)

def latestAttempt (deliveryId : String) : Option FullAttemptResult :=
  (candidates j deliveryId).argmax fun item => toLex (item.attemptOrdinal, item.sequence)

/-- The states in which a delivery must have physical evidence. -/
def terminalDeliveryStates : List DeliveryState := [.satisfied, .exhausted, .ambiguous, .cancelled]

/-- One turn of the loop of `_existing_delivery_verdicts`. -/
def existingDeliveryVerdict (d : DeliveryRow) : Except String (Option TerminalVerdict) :=
  if d.state = .skipped then .ok (some (terminalVerdict .unsupported))
  else
    match latestAttempt j d.deliveryId with
    | none =>
      if d.state ∈ terminalDeliveryStates then .error "terminal delivery lacks physical attempt evidence"
      else .ok none
    | some latest =>
      if d.state = .active ∧ ¬ d.Scheduled j then
        .ok (if latest.terminalState = .unknownOutcome then
          some (classifyAttemptVerdict latest.evidence.classification) else none)
      else if d.state ∉ terminalDeliveryStates then .ok none
      else
        match deliveryStateForAttempt latest.terminalState with
        | none => .error "delivery cannot reduce from a nonterminal attempt state"
        | some target =>
          if target ≠ d.state then .error "terminal delivery state differs from its latest attempt"
          else .ok (some (classifyAttemptVerdict latest.evidence.classification))

/-- `_existing_delivery_verdicts`; `planned` are the deliveries of the verified manifest. -/
def existingDeliveryVerdicts (planned : List String) :
    Except String (List (String × Option TerminalVerdict)) := do
  require (planned ⊆ j.deliveries.rows.map DeliveryRow.deliveryId ∧
      j.deliveries.rows.map DeliveryRow.deliveryId ⊆ planned)
    "resume journal deliveries differ from the verified manifest"
  j.deliveries.rows.mapM fun d => do return (d.deliveryId, ← existingDeliveryVerdict j d)

end Continuation

section Recorded

variable {j j' : Journal} {id : String}

/-- The final record of an attempt repeats its outcome. -/
def RepeatsOutcome (j : Journal) (id : String) : Prop :=
  ∀ r ∈ j.recordsOf id, ∃ e ∈ j.ending id, e.outcome = some r.evidence.classification

theorem Accepted.evidence_classification {op : TransitionOperation} (ha : Accepted j op)
    {evidence : AttemptTransportEvidenceCommand} (he : op.transportEvidence = some evidence) :
    op.command.attemptOutcome.map AttemptTerminalOutcome.classification =
      some evidence.classification := by
  obtain ⟨_, -, h⟩ := bind_ok ha.transportPresence
  obtain ⟨_, houtcome, h⟩ := bind_ok h
  obtain ⟨_, -, h⟩ := bind_ok h
  obtain ⟨_, hclass, -⟩ := bind_ok h
  obtain ⟨outcome, hsome⟩ := Option.isSome_iff_exists.1 (require_ok houtcome (by rw [he]; rfl))
  rw [hsome, Option.map_some, require_ok hclass evidence he outcome hsome]

theorem repeatsOutcome_commit {op : TransitionOperation} (h : RepeatsOutcome j id) (hev : Evidenced j id)
    (ha : Accepted j op) (hw : Written j op j') : RepeatsOutcome j' id := by
  intro r hr
  rw [hw.recordsOf ha, List.mem_append] at hr
  obtain hr | hr := hr
  · -- an attempt with a record is terminal and does not move any more
    obtain ⟨e, he, hterminal⟩ := hev.recorded.1 (List.ne_nil_of_mem hr)
    have hsame : j'.ending id = j.ending id := by
      by_cases hkey : op.command.key = ⟨.attempt, id⟩
      · obtain ⟨row, hrow, rfl⟩ := Option.map_eq_some_iff.1 he
        obtain ⟨-, -, hending⟩ | ⟨s, -, -, hedge, -⟩ := hw.ending_self ha hkey hrow
        · exact hending
        · dsimp only at hterminal
          rw [edge_from_open _ hedge] at hterminal
          cases hterminal
      · rw [Journal.ending, hw.find_attempt ha, if_neg hkey]
        rfl
    rw [hsame]
    exact h r hr
  · split at hr
    · next hid =>
      obtain ⟨evidence, hevidence, rfl⟩ := Option.map_eq_some_iff.1 (Option.mem_toList.1 hr)
      obtain ⟨s, hs⟩ := Option.isSome_iff_exists.1 (ha.transport_iff.1 (by rw [hevidence]; rfl))
      have hnew := (TransitionCommand.terminalAttempt_eq_some hs).1
      have hkey : op.command.key = ⟨.attempt, id⟩ := by
        rw [TransitionCommand.key, hnew, hid]
        rfl
      obtain ⟨old, hstate, -⟩ := ha.edge
      rw [hkey] at hstate
      obtain ⟨row, hrow, -⟩ := Option.map_eq_some_iff.1 hstate
      obtain ⟨-, hinitial, -⟩ | ⟨s', -, -, -, hending⟩ := hw.ending_self ha hkey hrow
      · have hopen := (terminalAttempt_isSome hinitial).1 (by rw [hs]; rfl)
        exact absurd hopen (by decide)
      · refine ⟨_, hending, ?_⟩
        dsimp only [TransitionCommand.endingAfter]
        rw [ha.evidence_classification hevidence]
        rfl
    · cases hr

theorem repeatsOutcome_step (hev : ∀ id, Evidenced j id) (h : ∀ id, RepeatsOutcome j id) (hstep : j.Step j')
    (id : String) : RepeatsOutcome j' id := by
  cases hstep with
  | commit ha hw => exact repeatsOutcome_commit (h id) (hev id) ha hw
  | @insertAttempt new attempts hfresh _ _ hinsert =>
    intro r hr
    obtain ⟨e, he, houtcome⟩ := h id r hr
    obtain ⟨row, hrow, rfl⟩ := Option.map_eq_some_iff.1 he
    have hother : id ≠ new.attemptId := by
      rintro rfl
      rw [(Table.insert_some hinsert).2] at hrow
      cases hrow
    refine ⟨_, ?_, houtcome⟩
    rw [Journal.ending, Table.find_insert hinsert, if_neg hother, hrow]
    rfl
  | @rebindAttempt old hfound hrecoverable =>
    have hsame : Journal.ending { j with
        attempts := j.attempts.modify old.attemptId
          (fun r => { r with ownerEpoch := j.run.ownerEpoch }) fun _ => rfl } id = j.ending id :=
      Table.map_find_modify (by intro; rfl) (by intro; rfl)
    intro r hr
    rw [hsame]
    exact h id r hr
  | _ => exact h id

theorem repeatsOutcome_run (plan : BootstrapPlan) (ops : List JournalOperation)
    (h : RunIssued plan.journal ops) (id : String) : RepeatsOutcome (plan.journal.transactAll ops) id := by
  have hall := evolves_invariant (P := fun u => (∀ id, Evidenced u id) ∧ ∀ id, RepeatsOutcome u id)
    (fun u v hu hstep => ⟨evidenced_step hu.1 hstep, repeatsOutcome_step hu.1 hu.2 hstep⟩)
    (fun u hu => ⟨fun id => (hu.1 id).frame rfl rfl rfl, hu.2⟩) (transactAll_evolves h)
    ⟨evidenced_bootstrap plan, fun id r hr => by cases hr⟩
  exact hall.2 id

end Recorded

section Verdict

variable {j : Journal} {d : DeliveryRow}

/-- The classification of a finished attempt is one of its state. -/
theorem result_classified (hj : Scannable j) (hrecorded : ∀ id, RepeatsOutcome j id)
    {item : FullAttemptResult} (h : item ∈ attemptResults j) :
    item.evidence.classification ∈ classificationsByTerminalState item.terminalState := by
  obtain ⟨r, hr, hitem⟩ := List.mem_filterMap.1 h
  obtain ⟨row, hrow, rfl⟩ := Option.map_eq_some_iff.1 hitem
  have hof : r ∈ j.recordsOf r.evidence.attemptId := by
    simp [Journal.recordsOf, hr]
  obtain ⟨e, he, houtcome⟩ := hrecorded _ r hof
  have hclass := hj.classified _ e he _ houtcome
  rw [Journal.ending, hrow] at he
  cases he
  exact hclass

theorem attemptResult_ambiguous_iff (s : AttemptState) (c : AttemptClassification)
    (h : c ∈ classificationsByTerminalState s) : attemptResult c = .ambiguous ↔ s = .unknownOutcome := by
  revert h
  cases s <;> cases c <;> decide

/-- The delivery is ambiguous, or active with nothing scheduled for it, and its latest finished attempt
has no known outcome. -/
def DeliveryRow.LeftAmbiguous (d : DeliveryRow) (j : Journal) : Prop :=
  (d.state = .ambiguous ∨ d.state = .active ∧ ¬ d.Scheduled j) ∧
    ∃ latest ∈ latestAttempt j d.deliveryId, latest.terminalState = .unknownOutcome

theorem latestAttempt_mem {latest : FullAttemptResult} {id : String}
    (h : latestAttempt j id = some latest) : latest ∈ attemptResults j :=
  (List.mem_filter.1 (List.argmax_mem (Option.mem_def.2 h))).1

theorem deliveryStateForAttempt_ambiguous (s : AttemptState) :
    deliveryStateForAttempt s = some .ambiguous ↔ s = .unknownOutcome := by
  cases s <;> decide

/-- A resume starts with an ambiguous verdict exactly of the deliveries that were left so. -/
theorem ambiguous_verdict_iff (hj : Scannable j) (hrecorded : ∀ id, RepeatsOutcome j id) :
    (∃ v, existingDeliveryVerdict j d = .ok (some v) ∧ v.category = .ambiguous) ↔ d.LeftAmbiguous j := by
  unfold existingDeliveryVerdict DeliveryRow.LeftAmbiguous
  by_cases hskipped : d.state = .skipped
  · simp [hskipped, terminalVerdict]
  rw [if_neg hskipped]
  cases hlatest : latestAttempt j d.deliveryId with
  | none =>
    dsimp only
    split <;> simp
  | some latest =>
    have hclass := attemptResult_ambiguous_iff _ _
      (result_classified hj hrecorded (latestAttempt_mem hlatest))
    have hcategory : (classifyAttemptVerdict latest.evidence.classification).category = .ambiguous ↔
      latest.terminalState = .unknownOutcome := hclass
    simp only [Option.mem_some_iff, exists_eq_left']
    by_cases hidle : d.state = .active ∧ ¬ d.Scheduled j
    · rw [if_pos hidle]
      by_cases hunknown : latest.terminalState = .unknownOutcome
      · rw [if_pos hunknown]
        exact iff_of_true ⟨_, rfl, hcategory.2 hunknown⟩ ⟨Or.inr hidle, hunknown⟩
      · simp [hunknown]
    · rw [if_neg hidle]
      by_cases hterminal : d.state ∈ terminalDeliveryStates
      · rw [if_neg (not_not.2 hterminal)]
        cases htarget : deliveryStateForAttempt latest.terminalState with
        | none =>
          have hknown : latest.terminalState ≠ .unknownOutcome := by
            intro h
            rw [h] at htarget
            cases htarget
          simp [hknown]
        | some target =>
          have htarget' := deliveryStateForAttempt_ambiguous latest.terminalState
          rw [htarget, Option.some_inj] at htarget'
          by_cases hsame : target = d.state
          · rw [hsame] at htarget'
            simp [hsame, hcategory, hidle, htarget']
          · have hother : ¬ (d.state = .ambiguous ∧ latest.terminalState = .unknownOutcome) := by
              rintro ⟨hstate, hunknown⟩
              exact hsame ((htarget'.2 hunknown).trans hstate.symm)
            simpa [hsame, hidle] using hother
      · have hstate : d.state ≠ .ambiguous := by
          intro h
          rw [h] at hterminal
          exact hterminal (by decide)
        simp [hterminal, hidle, hstate]

end Verdict

section Decided

/-- An operator has decided about the attempt, whose outcome was unknown, and the decision is
stored. -/
structure DecidedByOperator (j : Journal) (row : AttemptRow) : Prop where
  stored : row ∈ j.attempts.rows
  unknown : row.state = .unknownOutcome
  decided : ∃ decision ∈ j.decisions.rows, decision.plan.attemptId = row.attemptId ∧
    decision.plan.decision ∈ [RecoveryDecisionKind.operatorProcessed, .operatorNotProcessed]

/-- The attempt is not asked about again. -/
structure Resolved (j : Journal) (row : AttemptRow) : Prop where
  previewed : ∀ ids, loadAmbiguousAttemptIds j = .ok ids → row.attemptId ∉ ids
  scanned : ∀ ownerEpoch plan, scan j ownerEpoch = .ok plan →
    row.attemptId ∉ plan.unresolvedAmbiguousAttempts.map (·.attemptId)
  reduced : ∀ d ∈ j.deliveries.find row.deliveryId, ∀ v,
    existingDeliveryVerdict j d = .ok (some v) → v.category ≠ .ambiguous

def unresolvedRows (j : Journal) : List AttemptRow :=
  j.attempts.rows.filter fun row => row.Last j ∧ row.PossiblySent

variable {j : Journal} {row : AttemptRow}

theorem loadAmbiguousAttemptIds_ok_iff {ids : List String} : loadAmbiguousAttemptIds j = .ok ids ↔
    (unresolvedRows j).length ≤ maxRecoveryItems ∧
      ids = ((unresolvedRows j).map (·.attemptId)).insertionSort (· ≤ ·) := by
  have hlength : (((unresolvedRows j).map (·.attemptId)).insertionSort (· ≤ ·)).length =
      (unresolvedRows j).length := by
    rw [List.length_insertionSort, List.length_map]
  have hbound : ((((unresolvedRows j).map (·.attemptId)).insertionSort (· ≤ ·)).take
      (maxRecoveryItems + 1)).length ≤ maxRecoveryItems ↔
        (unresolvedRows j).length ≤ maxRecoveryItems := by
    rw [List.length_take, hlength]
    omega
  constructor
  · intro h
    obtain ⟨_, hlimit, h⟩ := bind_ok h
    cases pure_ok h
    have hlimit := hbound.1 (require_ok hlimit)
    exact ⟨hlimit, List.take_of_length_le (hlength.trans_le (hlimit.trans (Nat.le_succ _)))⟩
  · rintro ⟨hlimit, rfl⟩
    refine bind_of (require_of (hbound.2 hlimit)) ?_
    exact congrArg Except.ok (List.take_of_length_le (hlength.trans_le (hlimit.trans (Nat.le_succ _))))

theorem mem_previewed_iff (hrow : row ∈ j.attempts.rows) :
    row.attemptId ∈ ((unresolvedRows j).map (·.attemptId)).insertionSort (· ≤ ·) ↔
      row.Last j ∧ row.PossiblySent := by
  rw [List.mem_insertionSort, List.mem_map]
  constructor
  · rintro ⟨other, hother, hid⟩
    obtain ⟨hmem, hkept⟩ := List.mem_filter.1 hother
    obtain rfl : other = row := Option.some.inj
      ((Table.find_of_mem hmem).symm.trans ((congrArg _ hid).trans (Table.find_of_mem hrow)))
    exact of_decide_eq_true hkept
  · intro hkept
    exact ⟨row, List.mem_filter.2 ⟨hrow, decide_eq_true hkept⟩, rfl⟩

end Decided

section Sample

/-- The response of the one attempt is lost, and a new owner resumes the run. -/
def resumedRun : List JournalOperation :=
  [.transition (deliveryOperation .pending .eligible "eligible"),
   .transition (deliveryOperation .eligible .active "active")] ++ awaitResponse ++
  [.transition loseResponse, .advanceOwnerEpoch 0 1]

def processedDirective : OperatorDecisionDirective where
  attemptId := "attempt"
  verdict := .processed
  reason := "seen in the receiver's log"
  operatorIdentityFingerprint := "sha256:operator"
  operatorInputDigest := "sha256:input"
  evidence := [("log", "sha256:log")]
  signedPolicyVerified := true
  evidence_valid := by decide

def deciding : ResumeInvocationPolicy where
  onAmbiguous := some .operatorDecision
  noninteractive := true
  cancelRequested := false
  operatorDecisions := [processedDirective]
  bounded := by decide
  decisions_expected := by simp
  decisions_unique := by simp

/-- The one entry is consumed. -/
def consumedEntry : PersistedScheduleSnapshot where
  entries := [⟨"entry", "plan", 0, 0, 0, 0, 1, "initial.plan"⟩]
  consumedEntryIds := ["entry"]
  bounded := by decide
  unique := by decide
  consumed_known := by decide

/-- The plan that the operator's decision gives. -/
def processedPlan : ResumePolicyPlan :=
  ⟨1, [⟨"resume.1.operator_decision.attempt", "scenario", "attempt", .operatorDecision,
    .operatorProcessed, "seen in the receiver's log", "t", [("log", "sha256:log")],
    some "sha256:operator", some "sha256:input"⟩], []⟩

def decidedRun : List JournalOperation := resumedRun ++ [.commitPolicy processedPlan]

theorem decidedRun_issued : RunIssued singlePlan.journal decidedRun :=
  ⟨trivial, trivial, trivial, trivial, trivial, trivial, trivial, trivial, trivial,
    fun _ h => absurd h List.not_mem_nil, trivial⟩

theorem processedPlan_built :
    (scan (singlePlan.journal.transactAll resumedRun) 1 >>= fun recovery =>
      (buildPlan redeliveringBundle deciding consumedEntry [] recovery ⟨"t", some 1⟩).map
        PolicyPlan.toResumePolicyPlan) = .ok processedPlan := by
  decide +kernel

theorem attempt_decided : ∃ row, DecidedByOperator (singlePlan.journal.transactAll decidedRun) row ∧
    row.attemptId = "attempt" ∧ row.Last (singlePlan.journal.transactAll decidedRun) := by
  have hstored : ∃ row ∈ (singlePlan.journal.transactAll decidedRun).attempts.rows,
      row.state = .unknownOutcome ∧ row.attemptId = "attempt" ∧
        row.Last (singlePlan.journal.transactAll decidedRun) := by decide +kernel
  have hdecision : ∃ decision ∈ (singlePlan.journal.transactAll decidedRun).decisions.rows,
      decision.plan.attemptId = "attempt" ∧ decision.plan.decision ∈
        [RecoveryDecisionKind.operatorProcessed, .operatorNotProcessed] := by decide +kernel
  obtain ⟨row, hrow, hunknown, hid, hlast⟩ := hstored
  rw [← hid] at hdecision
  exact ⟨row, ⟨hrow, hunknown, hdecision⟩, hid, hlast⟩

end Sample

end WebhookConformance
