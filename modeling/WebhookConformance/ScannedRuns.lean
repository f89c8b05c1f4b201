import WebhookConformance.AttemptChains
import WebhookConformance.AttemptEvidence
import WebhookConformance.RecoveryScan

/-! Every journal that a run can leave behind can be scanned. -/
namespace WebhookConformance

open Checked Relation

variable {j j' : Journal} {id : String} {row : AttemptRow} {item : AttemptRecoveryItem}

section Invariant

/-- What the scan relies on. -/
structure Scannable (j : Journal) : Prop where
  chained : Chained j
  evidenced : ∀ id, Evidenced j id
  classified : ∀ id, ∀ e ∈ j.ending id, ∀ o ∈ e.outcome, o ∈ classificationsByTerminalState e.state
  planned : ∀ id d, j.deliveries.find id = some d → (j.scenarios.find d.scenarioId).isSome
  watched : ∀ id s, j.series.find id = some s → (j.scenarios.find s.scenarioId).isSome

theorem step_scenario (h : j.Step j') (hid : (j.scenarios.find id).isSome) :
    (j'.scenarios.find id).isSome := by
  rw [← Option.isSome_map (f := ScenarioRow.ordinal), (step_planned h id).1, Option.isSome_map]
  exact hid

theorem planned_step (hj : ∀ id d, j.deliveries.find id = some d → (j.scenarios.find d.scenarioId).isSome)
    (h : j.Step j') (id : String) (d : DeliveryRow) (hd : j'.deliveries.find id = some d) :
    (j'.scenarios.find d.scenarioId).isSome := by
  obtain ⟨old, hold, hplanned⟩ := planned_find (step_planned h id).2 hd
  rw [← (planned_columns hplanned).1]
  exact step_scenario h (hj id old hold)

theorem updateProjection_series (j : Journal) (c : TransitionCommand) (id : String) :
    ((updateProjection j c).series.find id).map SeriesRow.scenarioId =
      (j.series.find id).map SeriesRow.scenarioId := by
  unfold updateProjection
  split
  · rfl
  · cases c.newState <;> cases c.attemptOutcome <;> try rfl
    all_goals exact Table.map_find_modify (by intro; rfl) (by intro; rfl)

/-- A series is one from before with its scenario, or it is new and its scenario is planned. -/
theorem step_series (h : j.Step j') {s : SeriesRow} (hs : j'.series.find id = some s) :
    (∃ old, j.series.find id = some old ∧ old.scenarioId = s.scenarioId) ∨
      (j.scenarios.find s.scenarioId).isSome := by
  have hsame : (j'.series.find id).map SeriesRow.scenarioId =
      (j.series.find id).map SeriesRow.scenarioId →
      ∃ old, j.series.find id = some old ∧ old.scenarioId = s.scenarioId := by
    intro heq
    rw [hs, Option.map_some] at heq
    exact Option.map_eq_some_iff.1 heq.symm
  cases h with
  | commit ha hw =>
    refine Or.inl (hsame ?_)
    rw [hw.series]
    exact updateProjection_series _ _ _
  | @insertSeries new series hfresh hplanned hinsert =>
    dsimp only at hs
    rw [Table.find_insert hinsert] at hs
    split at hs
    · cases hs
      exact Or.inr hplanned
    · exact Or.inl ⟨s, hs, rfl⟩
  | _ => exact Or.inl (hsame rfl)

theorem watched_step (hj : ∀ id s, j.series.find id = some s → (j.scenarios.find s.scenarioId).isSome)
    (h : j.Step j') (id : String) (s : SeriesRow) (hs : j'.series.find id = some s) :
    (j'.scenarios.find s.scenarioId).isSome := by
  obtain ⟨old, hold, hscenario⟩ | hplanned := step_series h hs
  · rw [← hscenario]
    exact step_scenario h (hj id old hold)
  · exact step_scenario h hplanned

theorem classified_commit {op : TransitionOperation}
    (hj : ∀ e ∈ j.ending id, ∀ o ∈ e.outcome, o ∈ classificationsByTerminalState e.state)
    (hev : Evidenced j id) (ha : Accepted j op) (hw : Written j op j') :
    ∀ e ∈ j'.ending id, ∀ o ∈ e.outcome, o ∈ classificationsByTerminalState e.state := by
  by_cases hkey : op.command.key = ⟨.attempt, id⟩
  · obtain ⟨old, hstate, -⟩ := ha.edge
    rw [hkey] at hstate
    obtain ⟨row, hrow, -⟩ := Option.map_eq_some_iff.1 hstate
    obtain ⟨-, -, hending⟩ | ⟨s, -, hnew, hedge, hending⟩ := hw.ending_self ha hkey hrow
    · rw [hending]
      exact hj
    · -- an attempt that still moves has no outcome yet
      have hnone : row.outcome = none := by
        have hold : j.ending id = some ⟨row.state, row.outcome, row.terminalRecordedAt⟩ := by
          rw [Journal.ending, hrow]
          rfl
        simpa [edge_from_open _ hedge] using hev.outcome _ (Option.mem_def.2 hold)
      rw [hending]
      rintro e ⟨⟩ o ho
      simp only [TransitionCommand.endingAfter, hnone, Option.or_none, Option.mem_def] at ho ⊢
      obtain ⟨outcome, houtcome, rfl⟩ := Option.map_eq_some_iff.1 ho
      obtain ⟨s', -, hnew', -, -, hclass, -⟩ := ha.terminal houtcome
      rw [hnew] at hnew'
      cases hnew'
      exact hclass
  · have hsame : j'.ending id = j.ending id := by
      rw [Journal.ending, hw.find_attempt ha, if_neg hkey]
      rfl
    rw [hsame]
    exact hj

theorem classified_step (hev : ∀ id, Evidenced j id)
    (hj : ∀ id, ∀ e ∈ j.ending id, ∀ o ∈ e.outcome, o ∈ classificationsByTerminalState e.state)
    (h : j.Step j') (id : String) :
    ∀ e ∈ j'.ending id, ∀ o ∈ e.outcome, o ∈ classificationsByTerminalState e.state := by
  cases h with
  | commit ha hw => exact classified_commit (hj id) (hev id) ha hw
  | @insertAttempt new attempts hfresh _ _ hinsert =>
    intro e he
    rw [Journal.ending, Table.find_insert hinsert] at he
    split at he
    · cases he
      simp [hfresh.outcome]
    · exact hj id e he
  | @rebindAttempt old hfound hrecoverable =>
    have hsame : Journal.ending { j with
        attempts := j.attempts.modify old.attemptId
          (fun r => { r with ownerEpoch := j.run.ownerEpoch }) fun _ => rfl } id = j.ending id :=
      Table.map_find_modify (by intro; rfl) (by intro; rfl)
    rw [hsame]
    exact hj id
  | _ => exact hj id

/-- Every journal of a run whose policies are committed as they are built. -/
theorem scannable_run (plan : BootstrapPlan) (ops : List JournalOperation)
    (h : RunIssued plan.journal ops) : Scannable (plan.journal.transactAll ops) := by
  have hrun := transactAll_evolves h
  have hclassified := evolves_invariant
    (P := fun u => (∀ id, Evidenced u id) ∧
      ∀ id, ∀ e ∈ u.ending id, ∀ o ∈ e.outcome, o ∈ classificationsByTerminalState e.state)
    (fun u v hu hstep => ⟨evidenced_step hu.1 hstep, classified_step hu.1 hu.2 hstep⟩)
    (fun u hu => ⟨fun id => (hu.1 id).frame rfl rfl rfl, hu.2⟩) hrun
    ⟨evidenced_bootstrap plan, fun id e he => by cases he⟩
  have hplanned := evolves_invariant
    (P := fun u => ∀ id d, u.deliveries.find id = some d → (u.scenarios.find d.scenarioId).isSome)
    (fun u v hu hstep => planned_step hu hstep) (fun u hu => hu) hrun
    (fun id d hd => by
      have hscoped := plan.deliveries_scoped d (Table.find_eq_some.1 hd).1
      obtain ⟨s, hs, hid⟩ := List.mem_map.1 hscoped
      exact Option.isSome_iff_exists.2 ⟨s, Table.find_eq_some.2 ⟨hs, hid⟩⟩)
  have hwatched := evolves_invariant
    (P := fun u => ∀ id s, u.series.find id = some s → (u.scenarios.find s.scenarioId).isSome)
    (fun u v hu hstep => watched_step hu hstep) (fun u hu => hu) hrun (fun id s hs => by cases hs)
  exact ⟨transactAll_chained (chained_bootstrap plan) h, hclassified.1, hclassified.2, hplanned,
    hwatched⟩

end Invariant

section Total

theorem Scannable.loads (h : Scannable j) (hrow : row ∈ j.attempts.rows) :
    ∃ loaded, loadAttemptRow j row = some loaded := by
  obtain ⟨-, d, hd, howned⟩ := h.chained.spaced.owned _ _ (Table.find_of_mem hrow)
  obtain ⟨s, hs⟩ := Option.isSome_iff_exists.1 (h.planned _ _ hd)
  rw [howned.1] at hs
  refine ⟨⟨row, s.ordinal, d.stepOrdinal, d.ordinal⟩, ?_⟩
  refine Option.bind_eq_some_iff.2 ⟨s, hs, Option.bind_eq_some_iff.2 ⟨d, hd, ?_⟩⟩
  exact if_pos howned

theorem Scannable.projection (h : Scannable j) (hrow : row ∈ j.attempts.rows) :
    validateAttemptProjection row = .ok () := by
  have hending : j.ending row.attemptId = some ⟨row.state, row.outcome, row.terminalRecordedAt⟩ := by
    rw [Journal.ending, Table.find_of_mem hrow]
    rfl
  have hev := h.evidenced row.attemptId
  have houtcome := hev.outcome _ hending
  have hrecordedAt := hev.recordedAt _ hending
  rw [terminal_iff] at houtcome hrecordedAt
  unfold validateAttemptProjection
  split
  · next hterminal =>
    exact bind_of (require_of ⟨houtcome.2 hterminal, hrecordedAt.2 hterminal⟩)
      (require_of (h.classified _ _ hending))
  · next hopen =>
    refine require_of ⟨?_, ?_⟩
    · rw [← Option.not_isSome_iff_eq_none, houtcome]
      exact hopen
    · rw [← Option.not_isSome_iff_eq_none, hrecordedAt]
      exact hopen

/-- The classification of a state passes the checks of an item. -/
theorem classify_coherent (state : AttemptState) (proof : DurableNoSendProof) :
    let decision := classifyAttemptState state proof
    decision.2.2 = attemptActionTargets decision.1 ∧
      state ∈ attemptActionPriorStates decision.1 ∧
      decision.2.1 = attemptActionAmbiguity decision.1 ∧
      (decision.1 = .reduceDurableResponse ↔ state = .responseObserved) ∧
      (if decision.1 = .terminateNotSent then proof else .none) =
        if decision.1 ≠ .terminateNotSent then .none
        else if state = .preSendCommitted then .controlledPreTransport
        else .noConnectionEstablished := by
  cases state <;> cases proof <;> decide

theorem recoveryTarget_of {action : AttemptRecoveryAction} {target : Option AttemptState}
    {staging : Option AttemptResponseStagingCommand}
    (h : action = .reduceDurableResponse ↔ staging.isSome) :
    recoveryTarget action target staging =
      .ok (if action = .reduceDurableResponse then staging.map (·.terminalState) else target) := by
  cases staging with
  | none =>
    have hne : action ≠ .reduceDurableResponse := by simpa using h
    rw [if_neg hne]
    cases action <;> first | rfl | exact absurd rfl hne
  | some s =>
    obtain rfl := h.2 rfl
    rfl

theorem attemptItem_of {loaded : LoadedAttempt} {staging : Option AttemptResponseStagingCommand}
    (hprojection : validateAttemptProjection loaded.row = .ok ())
    (hstaged : staging.isSome ↔ loaded.row.state = .responseObserved) :
    ∃ item, attemptItem loaded staging = .ok item := by
  obtain ⟨htarget, hprior, hambiguity, hreduces, hproof⟩ :=
    classify_coherent loaded.row.state (durableNoSendProof loaded.row.phase)
  have hiff := hreduces.trans hstaged.symm
  refine ⟨_, bind_of hprojection (bind_of (recoveryTarget_of hiff) (bind_of (a := ()) ?_ rfl))⟩
  refine bind_of (a := ()) ?_ (bind_of (require_of hprior) (bind_of (require_of hambiguity)
    (require_of hproof)))
  unfold validateActionTarget
  by_cases hreduce : (classifyAttemptState loaded.row.state
      (durableNoSendProof loaded.row.phase)).1 = .reduceDurableResponse
  · obtain ⟨s, hs⟩ := Option.isSome_iff_exists.1 (hiff.1 hreduce)
    simp only [hreduce, hs, if_true, Option.map_some]
    exact require_of trivial
  · have hnone : staging = none := by
      rw [← Option.not_isSome_iff_eq_none, ← hiff]
      exact hreduce
    simp only [hreduce, if_false]
    exact bind_of (require_of htarget) (require_of hnone)

theorem Scannable.items (h : Scannable j) (hrow : row ∈ j.attempts.rows) :
    ∃ loaded item, loadAttemptRow j row = some loaded ∧
      attemptItem loaded (stagedResponse j row.attemptId) = .ok item := by
  obtain ⟨loaded, hloaded⟩ := h.loads hrow
  obtain ⟨rfl, -⟩ := loadAttemptRow_ok hloaded
  have hstaged : (stagedResponse j loaded.row.attemptId).isSome ↔
      loaded.row.state = .responseObserved := by
    rw [stagedResponse, Option.isSome_map, (h.evidenced _).staged, Journal.ending,
      Table.find_of_mem hrow]
    simp
  obtain ⟨item, hitem⟩ := attemptItem_of (h.projection hrow) hstaged
  exact ⟨loaded, item, hloaded, hitem⟩

theorem validatePredecessors_of {attempts : List AttemptRecoveryItem} {seen : List String}
    {rest : List AttemptRecoveryItem}
    (hprior : ∀ item ∈ rest, ∀ p ∈ item.predecessorAttemptId,
      ∃ prior, attempts.find? (·.attemptId = p) = some prior ∧ item.Continues prior)
    (hseen : ∀ p ∈ rest.filterMap (·.predecessorAttemptId), p ∉ seen)
    (hnodup : (rest.filterMap (·.predecessorAttemptId)).Nodup) :
    validatePredecessors attempts seen rest = .ok () := by
  induction rest generalizing seen with
  | nil => rfl
  | cons item rest ih =>
    have hrest := fun item hitem => hprior item (List.mem_cons_of_mem _ hitem)
    unfold validatePredecessors
    cases hp : item.predecessorAttemptId with
    | none =>
      rw [List.filterMap_cons_none hp] at hseen hnodup
      exact ih hrest hseen hnodup
    | some p =>
      obtain ⟨prior, hfind, hcontinues⟩ := hprior item List.mem_cons_self p hp
      rw [List.filterMap_cons_some hp] at hseen hnodup
      obtain ⟨hnew, hnodup⟩ := List.nodup_cons.1 hnodup
      dsimp only
      rw [hfind]
      refine bind_of (require_of (hseen p List.mem_cons_self)) (bind_of (require_of hcontinues)
        (ih hrest ?_ hnodup))
      intro q hq
      rw [List.mem_cons, not_or]
      refine ⟨?_, hseen q (List.mem_cons_of_mem _ hq)⟩
      rintro rfl
      exact hnew hq

theorem Scannable.continues (h : Scannable j) {prior : AttemptRow} {earlier : AttemptRecoveryItem}
    (hrow : row ∈ j.attempts.rows) (hfollows : j.Follows prior row) (hof : ItemOf j row item)
    (hofEarlier : ItemOf j prior earlier) : item.Continues earlier := by
  obtain ⟨hscenario, hevent, hdelivery, hordinal, hplace, hstep⟩ := hof.place
  obtain ⟨hscenario', hevent', hdelivery', hordinal', hplace', hstep'⟩ := hofEarlier.place
  obtain ⟨-, d, hd, howned⟩ := h.chained.spaced.owned _ _ (Table.find_of_mem hrow)
  obtain ⟨-, d', hd', howned'⟩ := h.chained.spaced.owned _ _ hfollows.found
  have hsame := hfollows.delivery
  rw [hsame, Option.mem_def.1 hd] at hd'
  obtain rfl := Option.some.inj hd'
  have hscenarios : prior.scenarioId = row.scenarioId := howned'.1.symm.trans howned.1
  have hevents : prior.eventId = row.eventId := howned'.2.symm.trans howned.2
  rw [hscenarios, hplace] at hplace'
  rw [hsame, hstep] at hstep'
  obtain ⟨hsteps, hordinals⟩ := Prod.mk.inj (Option.some.inj hstep')
  have hnext := hfollows.ordinal
  exact ⟨by rw [hscenario, hscenario', hscenarios], by rw [hevent, hevent', hevents],
    by rw [hdelivery, hdelivery', hsame], Option.some.inj hplace', hsteps, hordinals, by omega⟩

/-- The items of the journal's attempts, in any order, are linked as the attempts are. -/
theorem Scannable.predecessors (h : Scannable j) {items : List AttemptRecoveryItem}
    (hitems : ∀ row ∈ j.attempts.rows, ∃ item ∈ items, ItemOf j row item)
    (hrows : ∀ item ∈ items, ∃ row ∈ j.attempts.rows, ItemOf j row item)
    (hunique : (items.map (·.attemptId)).Nodup) :
    validatePredecessors items [] items = .ok () := by
  have hlinked : ∀ item ∈ items, ∀ p ∈ item.predecessorAttemptId, ∃ row ∈ j.attempts.rows,
      ItemOf j row item ∧ ∃ prior, j.Follows prior row ∧ prior.attemptId = p := by
    intro item hitem p hp
    obtain ⟨row, hrow, hof⟩ := hrows item hitem
    rw [hof.facts.predecessor] at hp
    obtain ⟨-, hnone⟩ | ⟨prior, hfollows⟩ := h.chained.links _ _ (Table.find_of_mem hrow)
    · rw [hnone] at hp
      cases hp
    · rw [hfollows.predecessor] at hp
      exact ⟨row, hrow, hof, prior, hfollows, Option.some.inj hp⟩
  refine validatePredecessors_of ?_ (fun _ _ => List.not_mem_nil) ?_
  · intro item hitem p hp
    obtain ⟨row, hrow, hof, prior, hfollows, rfl⟩ := hlinked item hitem p hp
    obtain ⟨earlier, hearlier, hofEarlier⟩ := hitems prior (Table.find_eq_some.1 hfollows.found).1
    refine ⟨earlier, ?_, h.continues hrow hfollows hof hofEarlier⟩
    exact Table.find_eq_some (t := ⟨items, hunique⟩).2 ⟨hearlier, hofEarlier.attemptId⟩
  · rw [List.Nodup, List.pairwise_filterMap]
    refine List.Pairwise.imp_of_mem ?_ (List.Nodup.of_map _ hunique)
    intro a b ha hb hne p hp p' hp' heq
    subst heq
    obtain ⟨row, hrow, hof, prior, hfollows, rfl⟩ := hlinked a ha p hp
    obtain ⟨row', hrow', hof', prior', hfollows', hid⟩ := hlinked b hb prior.attemptId hp'
    obtain rfl : prior = prior' := by
      have hfound := hfollows'.found
      rw [hid, hfollows.found] at hfound
      exact Option.some.inj hfound
    have hsame : row.attemptId = row'.attemptId :=
      h.chained.spaced.unique _ _ _ _ (Table.find_of_mem hrow) (Table.find_of_mem hrow')
        (hfollows.delivery.symm.trans hfollows'.delivery)
        (hfollows.ordinal.symm.trans hfollows'.ordinal)
    apply hne
    refine List.inj_on_of_nodup_map hunique ha hb ?_
    rw [hof.attemptId, hof'.attemptId, hsame]

theorem Scannable.scanRows (h : Scannable j)
    (hlimit : j.attempts.rows.length + j.series.rows.length ≤ maxRecoveryItems) :
    ∃ rows observations, scanRows j = .ok (rows, observations) := by
  have hattempts := List.perm_insertionSort (fun a b : AttemptRow => a.attemptId ≤ b.attemptId)
    j.attempts.rows
  have hseries := List.perm_insertionSort (fun a b : SeriesRow => a.observationId ≤ b.observationId)
    j.series.rows
  refine ⟨_, _, bind_of (require_of hlimit) (bind_of (require_of ?_) rfl)⟩
  rw [List.filterMap_length_eq_length.2, List.filterMap_length_eq_length.2, hattempts.length_eq,
    hseries.length_eq]
  · intro s hs
    rw [loadObservationRow, Option.isSome_map]
    exact h.watched _ s (Table.find_of_mem (hseries.mem_iff.1 hs))
  · intro row hrow
    obtain ⟨loaded, hloaded⟩ := h.loads (hattempts.mem_iff.1 hrow)
    rw [hloaded]
    rfl

theorem Scannable.scanItems (h : Scannable j) {rows : List LoadedAttempt}
    {observations : List ObservationRecoveryItem}
    (hrows : WebhookConformance.scanRows j = .ok (rows, observations)) :
    ∃ items, scanItems j rows = .ok items := by
  obtain ⟨-, hperm, hloads, -⟩ := scanRows_ok hrows
  have hall : ∀ loaded ∈ rows, ∃ item, attemptItem loaded (stagedResponse j loaded.row.attemptId) = .ok item := by
    intro loaded hloaded
    have hrow : loaded.row ∈ j.attempts.rows :=
      hperm.mem_iff.1 (List.mem_map_of_mem (f := (·.row)) hloaded)
    obtain ⟨loaded', item, hload', hitem⟩ := h.items hrow
    rw [hloads loaded hloaded] at hload'
    cases hload'
    exact ⟨item, hitem⟩
  obtain ⟨items, hitems⟩ := mapM_exists hall
  exact ⟨_, bind_of (mapError_ok_iff.2 hitems) rfl⟩

/-- A staged response belongs to an attempt, and its item carries it. -/
theorem Scannable.staging_bound (h : Scannable j) {items : List AttemptRecoveryItem}
    (hitems : ∀ row ∈ j.attempts.rows, ∃ item ∈ items, ItemOf j row item) {s : ResponseStagingRow}
    (hs : s ∈ j.staging.rows) :
    ∃ item ∈ items, item.attemptId = s.evidence.attemptId ∧ item.responseStaging.isSome := by
  have hfind : j.staging.find s.evidence.attemptId = some s := Table.find_of_mem hs
  obtain ⟨e, he, -⟩ := (h.evidenced _).staged.1 (by rw [hfind]; rfl)
  obtain ⟨row, hrow, -⟩ := Option.map_eq_some_iff.1 he
  obtain ⟨hmem, hid⟩ := Table.find_eq_some.1 hrow
  obtain ⟨item, hitem, hof⟩ := hitems row hmem
  refine ⟨item, hitem, hof.attemptId.trans hid, ?_⟩
  rw [hof.facts.staging, stagedResponse, hid, hfind]
  rfl

theorem RecoveryPlan.make_of {ownerEpoch : Nat} {runState : RunState}
    {attempts : List AttemptRecoveryItem} {observations : List ObservationRecoveryItem}
    (hunique : (attempts.map (·.attemptId)).Nodup ∧ (observations.map (·.observationId)).Nodup)
    (hpredecessors : validatePredecessors attempts [] attempts = .ok ())
    (hattempts : attempts.Pairwise AttemptRecoveryItem.Le)
    (hobservations : observations.Pairwise ObservationRecoveryItem.Le) :
    ∃ plan, RecoveryPlan.make ownerEpoch runState attempts observations = .ok plan := by
  unfold RecoveryPlan.make
  rw [dif_pos hunique]
  split
  · next e he => cases he.symm.trans hpredecessors
  · rw [dif_pos hattempts, dif_pos hobservations]
    exact ⟨_, rfl⟩

theorem Scannable.scan (h : Scannable j)
    (hlimit : j.attempts.rows.length + j.series.rows.length ≤ maxRecoveryItems) :
    ∃ plan, scan j j.run.ownerEpoch = .ok plan := by
  obtain ⟨rows, observations, hrows⟩ := h.scanRows hlimit
  obtain ⟨items, hitems⟩ := h.scanItems hrows
  obtain ⟨hleft, hright⟩ := scanned_iff hrows hitems
  obtain ⟨-, hperm, -, hseries, -⟩ := scanRows_ok hrows
  obtain ⟨hids, hsorted, -⟩ := scanItems_ok hitems
  have hunique : (items.map (·.attemptId)).Nodup := by
    refine hids.nodup_iff.2 ?_
    have hrowIds := hperm.map AttemptRow.attemptId
    rw [List.map_map] at hrowIds
    exact hrowIds.nodup_iff.2 j.attempts.nodup
  have hobservations := List.perm_insertionSort ObservationRecoveryItem.Le observations
  obtain ⟨plan, hplan⟩ := @RecoveryPlan.make_of j.run.ownerEpoch j.run.state _ _
    ⟨hunique, (hobservations.map _).nodup_iff.2 (hseries.nodup_iff.2 j.series.nodup)⟩
    (h.predecessors hleft hright hunique) hsorted (List.pairwise_insertionSort _ _)
  exact ⟨plan, bind_of hrows (bind_of (require_of rfl) (bind_of hitems
    (bind_of (require_of fun s hs => h.staging_bound hleft hs) hplan)))⟩

/-- In every journal of a run, whatever the state of the run: the scan returns a plan unless the
inventory is over its limit, and the preflight of the same journal returns exactly the attempts that
the plan has as unresolved. -/
theorem preview_agrees (bootstrap : BootstrapPlan) (ops : List JournalOperation)
    (h : RunIssued bootstrap.journal ops) :
    ((∃ plan, WebhookConformance.scan (bootstrap.journal.transactAll ops)
          (bootstrap.journal.transactAll ops).run.ownerEpoch = .ok plan) ↔
        (bootstrap.journal.transactAll ops).attempts.rows.length +
          (bootstrap.journal.transactAll ops).series.rows.length ≤ maxRecoveryItems) ∧
      ∀ ownerEpoch plan, WebhookConformance.scan (bootstrap.journal.transactAll ops) ownerEpoch = .ok plan →
        ∃ ids, loadAmbiguousAttemptIds (bootstrap.journal.transactAll ops) = .ok ids ∧
          ∀ id, id ∈ ids ↔ id ∈ plan.unresolvedAmbiguousAttempts.map (·.attemptId) := by
  refine ⟨⟨?_, (scannable_run bootstrap ops h).scan⟩, fun _ _ hscan => scan_previewed hscan⟩
  rintro ⟨plan, hplan⟩
  exact (scan_ok hplan).2.2.1

theorem lost_response_previewed :
    ∃ plan, scan (singlePlan.journal.transactAll (awaitResponse ++ [.transition loseResponse])) 0 =
        .ok plan ∧
      loadAmbiguousAttemptIds
        (singlePlan.journal.transactAll (awaitResponse ++ [.transition loseResponse])) =
          .ok ["attempt"] ∧
      ∀ id, id ∈ ["attempt"] ↔ id ∈ plan.unresolvedAmbiguousAttempts.map (·.attemptId) := by
  have hissued : RunIssued singlePlan.journal (awaitResponse ++ [.transition loseResponse]) :=
    ⟨trivial, trivial, trivial, trivial, trivial, trivial, trivial⟩
  have hepoch : (singlePlan.journal.transactAll
      (awaitResponse ++ [.transition loseResponse])).run.ownerEpoch = 0 := by decide +kernel
  have hids : loadAmbiguousAttemptIds (singlePlan.journal.transactAll
      (awaitResponse ++ [.transition loseResponse])) = .ok ["attempt"] := by decide +kernel
  obtain ⟨⟨-, htotal⟩, hagree⟩ :=
    preview_agrees singlePlan (awaitResponse ++ [.transition loseResponse]) hissued
  obtain ⟨plan, hplan⟩ := htotal (by decide +kernel)
  rw [hepoch] at hplan
  obtain ⟨ids, hloaded, hsame⟩ := hagree 0 plan hplan
  rw [hids] at hloaded
  cases hloaded
  exact ⟨plan, hplan, hids, hsame⟩

end Total

end WebhookConformance
