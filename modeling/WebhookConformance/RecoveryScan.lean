import Mathlib.Data.List.Sort
import Mathlib.Data.Prod.Lex
import Mathlib.Data.String.Basic
import WebhookConformance.Recovery

/-! The recovery scan of a whole run, and the preview of its ambiguities that the preflight reads
before anything is owned. -/
namespace WebhookConformance

open Checked TransitionErrorKind

section Items

inductive ObservationRecoveryAction where
  | resumeScheduled
  | terminateInterruptedError
  | preserveTerminal
  deriving DecidableEq, Repr

/-- `classify_observation_state`. -/
def classifyObservationState : ObservationState → ObservationRecoveryAction × Option ObservationState
  | .scheduled => (.resumeScheduled, none)
  | .running => (.terminateInterruptedError, some .error)
  | _ => (.preserveTerminal, none)

/-- The proof is the check of `ObservationRecoveryItem.__post_init__`: the action and the target are
those of the state. -/
structure ObservationRecoveryItem where
  scenarioId : String
  observationId : String
  scenarioOrdinal : Nat
  priorState : ObservationState
  action : ObservationRecoveryAction
  targetState : Option ObservationState
  coherent : (action, targetState) = classifyObservationState priorState
  deriving DecidableEq, Repr

/-- `_observation_item`. -/
def observationItem (row : SeriesRow) (scenarioOrdinal : Nat) : ObservationRecoveryItem where
  scenarioId := row.scenarioId
  observationId := row.observationId
  scenarioOrdinal
  priorState := row.state
  action := (classifyObservationState row.state).1
  targetState := (classifyObservationState row.state).2
  coherent := rfl

abbrev AttemptKey := Nat ×ₗ Nat ×ₗ Nat ×ₗ Nat ×ₗ String

def AttemptRecoveryItem.deterministicKey (item : AttemptRecoveryItem) : AttemptKey :=
  toLex (item.scenarioOrdinal, toLex (item.stepOrdinal, toLex (item.deliveryOrdinal,
    toLex (item.attemptOrdinal, item.attemptId))))

def AttemptRecoveryItem.Le (a b : AttemptRecoveryItem) : Prop := a.deterministicKey ≤ b.deterministicKey

instance : DecidableRel AttemptRecoveryItem.Le := fun a b =>
  inferInstanceAs (Decidable (a.deterministicKey ≤ b.deterministicKey))

instance : Std.Total AttemptRecoveryItem.Le := ⟨fun a b => le_total a.deterministicKey b.deterministicKey⟩

instance : IsTrans AttemptRecoveryItem AttemptRecoveryItem.Le := ⟨fun _ _ _ => le_trans⟩

def ObservationRecoveryItem.deterministicKey (item : ObservationRecoveryItem) : Nat ×ₗ String :=
  toLex (item.scenarioOrdinal, item.observationId)

def ObservationRecoveryItem.Le (a b : ObservationRecoveryItem) : Prop :=
  a.deterministicKey ≤ b.deterministicKey

instance : DecidableRel ObservationRecoveryItem.Le := fun a b =>
  inferInstanceAs (Decidable (a.deterministicKey ≤ b.deterministicKey))

instance : Std.Total ObservationRecoveryItem.Le :=
  ⟨fun a b => le_total a.deterministicKey b.deterministicKey⟩

instance : IsTrans ObservationRecoveryItem ObservationRecoveryItem.Le := ⟨fun _ _ _ => le_trans⟩

end Items

section Plans

/-- The coordinates of an attempt are those of its predecessor, one ordinal later. -/
def AttemptRecoveryItem.Continues (item prior : AttemptRecoveryItem) : Prop :=
  item.scenarioId = prior.scenarioId ∧ item.eventId = prior.eventId ∧
    item.deliveryId = prior.deliveryId ∧ item.scenarioOrdinal = prior.scenarioOrdinal ∧
    item.stepOrdinal = prior.stepOrdinal ∧ item.deliveryOrdinal = prior.deliveryOrdinal ∧
    item.attemptOrdinal = prior.attemptOrdinal + 1

instance (item prior : AttemptRecoveryItem) : Decidable (item.Continues prior) :=
  inferInstanceAs (Decidable (_ ∧ _))

/-- The loop of `_validate_attempt_predecessors`, with the predecessors seen so far. -/
def validatePredecessors (attempts : List AttemptRecoveryItem) :
    List String → List AttemptRecoveryItem → Except RecoveryError Unit
  | _, [] => .ok ()
  | seen, item :: rest =>
    match item.predecessorAttemptId with
    | none => validatePredecessors attempts seen rest
    | some predecessorId =>
      match attempts.find? (·.attemptId = predecessorId) with
      | none => .error (invalidValue "recovery attempt predecessor is absent")
      | some predecessor => do
        require (predecessorId ∉ seen)
          (invalidValue "recovery attempt history branches from one predecessor")
        require (item.Continues predecessor)
          (invalidValue "recovery attempt predecessor coordinates disagree")
        validatePredecessors attempts (predecessorId :: seen) rest

/-- The proofs are the checks of `RecoveryPlan.__post_init__`. -/
structure RecoveryPlan where
  ownerEpoch : Nat
  runState : RunState
  attempts : List AttemptRecoveryItem
  observations : List ObservationRecoveryItem
  unique : (attempts.map (·.attemptId)).Nodup ∧ (observations.map (·.observationId)).Nodup
  predecessors : validatePredecessors attempts [] attempts = .ok ()
  attempts_sorted : attempts.Pairwise AttemptRecoveryItem.Le
  observations_sorted : observations.Pairwise ObservationRecoveryItem.Le

def RecoveryPlan.make (ownerEpoch : Nat) (runState : RunState) (attempts : List AttemptRecoveryItem)
    (observations : List ObservationRecoveryItem) : Except RecoveryError RecoveryPlan :=
  if unique : (attempts.map (·.attemptId)).Nodup ∧ (observations.map (·.observationId)).Nodup then
    match predecessors : validatePredecessors attempts [] attempts with
    | .error e => .error e
    | .ok () =>
      if attempts_sorted : attempts.Pairwise AttemptRecoveryItem.Le then
        if observations_sorted : observations.Pairwise ObservationRecoveryItem.Le then
          .ok { ownerEpoch, runState, attempts, observations, unique, predecessors, attempts_sorted,
                observations_sorted }
        else .error (invalidValue "observation recovery inventory is not deterministically ordered")
      else .error (invalidValue "attempt recovery inventory is not deterministically ordered")
  else .error (invalidValue "recovery inventory contains duplicate identities")

/-- The ambiguous attempts that no later attempt continues. -/
def RecoveryPlan.unresolvedAmbiguousAttempts (plan : RecoveryPlan) : List AttemptRecoveryItem :=
  plan.attempts.filter fun item =>
    item.ambiguity ≠ .none ∧ item.attemptId ∉ plan.attempts.filterMap (·.predecessorAttemptId)

theorem RecoveryPlan.make_ok {ownerEpoch : Nat} {runState : RunState}
    {attempts : List AttemptRecoveryItem} {observations : List ObservationRecoveryItem}
    {plan : RecoveryPlan} (h : RecoveryPlan.make ownerEpoch runState attempts observations = .ok plan) :
    plan.ownerEpoch = ownerEpoch ∧ plan.runState = runState ∧ plan.attempts = attempts ∧
      plan.observations = observations := by
  unfold RecoveryPlan.make at h
  split at h
  · split at h
    · cases h
    · split at h
      · split at h
        · cases h
          exact ⟨rfl, rfl, rfl, rfl⟩
        · cases h
      · cases h
  · cases h

end Plans

section Scan

def maxRecoveryItems : Nat := 100000

/-- `_response_staging`. -/
def ResponseStagingRow.command (row : ResponseStagingRow) : AttemptResponseStagingCommand where
  terminalState := row.terminalState
  terminalOutcome :=
    { classification := row.classification
      retrySchedule := row.retry.map fun r =>
        { scheduleEntryId := r.scheduleEntryId
          scenarioId := row.evidence.scenarioId
          entityType := "attempt"
          entityId := r.entityId
          logicalTimeNs := r.logicalTimeNs
          scenarioOrdinal := r.scenarioOrdinal
          stepOrdinal := r.stepOrdinal
          deliveryOrdinal := r.deliveryOrdinal
          attemptOrdinal := r.attemptOrdinal
          deterministicTieKey := r.deterministicTieKey
          idempotencyKey := r.idempotencyKey
          predecessorAttemptId := row.evidence.attemptId
          condition := r.condition } }
  transportEvidence := row.evidence

variable (j : Journal)

/-- A row of `_load_observation_rows`. -/
def loadObservationRow (row : SeriesRow) : Option ObservationRecoveryItem :=
  (j.scenarios.find row.scenarioId).map fun s => observationItem row s.ordinal

/-- `_ScanOperation.execute`: the rows that the joins find, in the order of their ids. -/
def scanRows : Except RecoveryError (List LoadedAttempt × List ObservationRecoveryItem) := do
  let total := j.attempts.rows.length + j.series.rows.length
  require (total ≤ maxRecoveryItems)
    ⟨.resourceLimit, "recovery inventory exceeds the bounded item limit"⟩
  let attempts := (j.attempts.rows.insertionSort (·.attemptId ≤ ·.attemptId)).filterMap
    (loadAttemptRow j)
  let observations := (j.series.rows.insertionSort (·.observationId ≤ ·.observationId)).filterMap
    (loadObservationRow j)
  require (attempts.length + observations.length = total)
    (recoveryIntegrity "recovery inventory changed during its transaction")
  return (attempts, observations)

/-- The staged response of an attempt. -/
def stagedResponse (attemptId : String) : Option AttemptResponseStagingCommand :=
  (j.staging.find attemptId).map ResponseStagingRow.command

/-- A rejected value is reported as damaged evidence; the scanner's own errors stay. -/
def RecoveryError.reported (e : RecoveryError) : RecoveryError :=
  if e.kind = .value then recoveryIntegrity "durable response staging contains invalid evidence"
  else e

def scanItems (rows : List LoadedAttempt) : Except RecoveryError (List AttemptRecoveryItem) := do
  let items ← (rows.mapM fun loaded => attemptItem loaded (stagedResponse j loaded.row.attemptId)).mapError
    RecoveryError.reported
  return items.insertionSort AttemptRecoveryItem.Le

/-- `RecoveryScanner.scan` by a fresh owner. -/
def scan (ownerEpoch : Nat) : Except RecoveryError RecoveryPlan := do
  let (rows, observations) ← scanRows j
  require (j.run.ownerEpoch = ownerEpoch)
    ⟨.ownerEpoch, "journal owner epoch differs from the fresh recovery owner"⟩
  let attempts ← scanItems j rows
  require (∀ s ∈ j.staging.rows, ∃ item ∈ attempts,
      item.attemptId = s.evidence.attemptId ∧ item.responseStaging.isSome)
    (recoveryIntegrity "durable response staging is not bound to response-observed attempts")
  RecoveryPlan.make ownerEpoch j.run.state attempts
    (observations.insertionSort ObservationRecoveryItem.Le)

variable {j : Journal} {ownerEpoch : Nat} {plan : RecoveryPlan} {row : AttemptRow}
  {item : AttemptRecoveryItem}

/-- `item` is what the scan makes of the attempt `row`. -/
def ItemOf (j : Journal) (row : AttemptRow) (item : AttemptRecoveryItem) : Prop :=
  ∃ loaded, loadAttemptRow j row = some loaded ∧
    attemptItem loaded (stagedResponse j row.attemptId) = .ok item

theorem ItemOf.attemptId (h : ItemOf j row item) : item.attemptId = row.attemptId := by
  obtain ⟨loaded, hloaded, hitem⟩ := h
  rw [(attemptItem_place hitem).1, (loadAttemptRow_ok hloaded).1]

/-- An item has the coordinates of its attempt. -/
theorem ItemOf.place (h : ItemOf j row item) :
    item.scenarioId = row.scenarioId ∧ item.eventId = row.eventId ∧
      item.deliveryId = row.deliveryId ∧ item.attemptOrdinal = row.ordinal ∧
      (j.scenarios.find row.scenarioId).map ScenarioRow.ordinal = some item.scenarioOrdinal ∧
      (j.deliveries.find row.deliveryId).map (fun d => (d.stepOrdinal, d.ordinal)) =
        some (item.stepOrdinal, item.deliveryOrdinal) := by
  obtain ⟨loaded, hloaded, hitem⟩ := h
  obtain ⟨rfl, hscenario, hdelivery⟩ := loadAttemptRow_ok hloaded
  obtain ⟨_, -, hitem⟩ := bind_ok hitem
  obtain ⟨target, -, hitem⟩ := bind_ok hitem
  obtain ⟨_, -, hitem⟩ := bind_ok hitem
  cases pure_ok hitem
  exact ⟨rfl, rfl, rfl, rfl, hscenario, hdelivery⟩

/-- What an item says about its attempt: the classification of the row, and the staged response. -/
structure ItemFacts (j : Journal) (row : AttemptRow) (item : AttemptRecoveryItem) : Prop where
  predecessor : item.predecessorAttemptId = row.predecessorAttemptId
  prior : item.priorState = row.state
  action : item.action = (classifyAttemptState row.state (durableNoSendProof row.phase)).1
  ambiguity : item.ambiguity = (classifyAttemptState row.state (durableNoSendProof row.phase)).2.1
  staging : item.responseStaging = stagedResponse j row.attemptId
  target : recoveryTarget item.action
    (classifyAttemptState row.state (durableNoSendProof row.phase)).2.2 item.responseStaging =
      .ok item.targetState

theorem ItemOf.facts (h : ItemOf j row item) : ItemFacts j row item := by
  obtain ⟨loaded, hloaded, hitem⟩ := h
  obtain ⟨rfl, -, -⟩ := loadAttemptRow_ok hloaded
  obtain ⟨_, -, hitem⟩ := bind_ok hitem
  obtain ⟨target, htarget, hitem⟩ := bind_ok hitem
  obtain ⟨_, -, hitem⟩ := bind_ok hitem
  cases pure_ok hitem
  exact ⟨rfl, rfl, rfl, rfl, rfl, htarget⟩

/-- Nothing of the inventory is lost in the joins. -/
theorem filterMap_join {α β : Type} {xs : List α} {f : α → Option β} {g : β → α}
    (hfull : (xs.filterMap f).length = xs.length) (hg : ∀ x y, f x = some y → g y = x) :
    (xs.filterMap f).map g = xs := by
  have hsome := List.filterMap_length_eq_length.1 hfull
  rw [List.map_filterMap]
  refine (List.filterMap_congr ?_).trans List.filterMap_some
  intro x hx
  obtain ⟨y, hy⟩ := Option.isSome_iff_exists.1 (hsome x hx)
  rw [hy, Option.map_some, hg x y hy]

theorem scanRows_ok {rows : List LoadedAttempt} {observations : List ObservationRecoveryItem}
    (h : scanRows j = .ok (rows, observations)) :
    j.attempts.rows.length + j.series.rows.length ≤ maxRecoveryItems ∧
      (rows.map (·.row)).Perm j.attempts.rows ∧
      (∀ loaded ∈ rows, loadAttemptRow j loaded.row = some loaded) ∧
      (observations.map (·.observationId)).Perm (j.series.rows.map (·.observationId)) ∧
      ∀ item, item ∈ observations ↔ ∃ row ∈ j.series.rows, loadObservationRow j row = some item := by
  obtain ⟨_, hlimit, h⟩ := bind_ok h
  obtain ⟨_, hlength, h⟩ := bind_ok h
  cases pure_ok h
  have hattempts := List.perm_insertionSort (fun a b : AttemptRow => a.attemptId ≤ b.attemptId)
    j.attempts.rows
  have hseries := List.perm_insertionSort (fun a b : SeriesRow => a.observationId ≤ b.observationId)
    j.series.rows
  have hrows := List.length_filterMap_le (loadAttemptRow j)
    (j.attempts.rows.insertionSort (·.attemptId ≤ ·.attemptId))
  have hitems := List.length_filterMap_le (loadObservationRow j)
    (j.series.rows.insertionSort (·.observationId ≤ ·.observationId))
  have htotal := require_ok hlength
  have hsame := hattempts.length_eq
  have hsame' := hseries.length_eq
  refine ⟨require_ok hlimit, ?_, ?_, ?_, ?_⟩
  · have hfull : ((j.attempts.rows.insertionSort (·.attemptId ≤ ·.attemptId)).filterMap
        (loadAttemptRow j)).length =
        (j.attempts.rows.insertionSort (·.attemptId ≤ ·.attemptId)).length := by omega
    rw [filterMap_join hfull fun row loaded hloaded => (loadAttemptRow_ok hloaded).1]
    exact hattempts
  · intro loaded hloaded
    obtain ⟨row, -, hload⟩ := List.mem_filterMap.1 hloaded
    rw [(loadAttemptRow_ok hload).1]
    exact hload
  · refine .trans (.of_eq ?_) (hseries.map _)
    have hfull : ((j.series.rows.insertionSort (·.observationId ≤ ·.observationId)).filterMap
        (loadObservationRow j)).length =
        (j.series.rows.insertionSort (·.observationId ≤ ·.observationId)).length := by omega
    have hsome := List.filterMap_length_eq_length.1 hfull
    rw [List.map_filterMap, ← List.filterMap_eq_map]
    refine List.filterMap_congr ?_
    intro row hrow
    obtain ⟨item, hitem⟩ := Option.isSome_iff_exists.1 (hsome row hrow)
    rw [hitem]
    obtain ⟨s, -, rfl⟩ := Option.map_eq_some_iff.1 hitem
    rfl
  · intro item
    simp only [List.mem_filterMap, hseries.mem_iff]

theorem scanItems_ok {rows : List LoadedAttempt} {items : List AttemptRecoveryItem}
    (h : scanItems j rows = .ok items) :
    (items.map (·.attemptId)).Perm (rows.map (·.row.attemptId)) ∧
      items.Pairwise AttemptRecoveryItem.Le ∧
      (∀ loaded ∈ rows, ∃ item ∈ items,
        attemptItem loaded (stagedResponse j loaded.row.attemptId) = .ok item) ∧
      ∀ item ∈ items, ∃ loaded ∈ rows,
        attemptItem loaded (stagedResponse j loaded.row.attemptId) = .ok item := by
  obtain ⟨unsorted, hunsorted, h⟩ := bind_ok h
  cases pure_ok h
  have hmapped := mapM_ok_iff.1 (mapError_ok_iff.1 hunsorted)
  have hperm := List.perm_insertionSort AttemptRecoveryItem.Le unsorted
  refine ⟨(hperm.map _).trans (.of_eq ?_), List.pairwise_insertionSort _ _, ?_, ?_⟩
  · rw [← List.forall₂_eq_eq_eq, List.forall₂_map_left_iff, List.forall₂_map_right_iff]
    exact hmapped.flip.imp fun item loaded hok => (attemptItem_place hok).1
  · intro loaded hloaded
    obtain ⟨item, hitem, hok⟩ := exists_of_mem_left hmapped hloaded
    exact ⟨item, hperm.mem_iff.2 hitem, hok⟩
  · intro item hitem
    obtain ⟨loaded, hloaded, hok⟩ := exists_of_mem_right hmapped (hperm.mem_iff.1 hitem)
    exact ⟨loaded, hloaded, hok⟩

/-- The rows of the journal and the items of its scan, in both directions. -/
theorem scanned_iff {rows : List LoadedAttempt} {observations : List ObservationRecoveryItem}
    {items : List AttemptRecoveryItem} (hrows : scanRows j = .ok (rows, observations))
    (hitems : scanItems j rows = .ok items) :
    (∀ row ∈ j.attempts.rows, ∃ item ∈ items, ItemOf j row item) ∧
      ∀ item ∈ items, ∃ row ∈ j.attempts.rows, ItemOf j row item := by
  obtain ⟨-, hperm, hloads, -⟩ := scanRows_ok hrows
  obtain ⟨-, -, hleft, hright⟩ := scanItems_ok hitems
  constructor
  · intro row hrow
    obtain ⟨loaded, hloaded, rfl⟩ := List.mem_map.1 (hperm.mem_iff.2 hrow)
    obtain ⟨item, hitem, hok⟩ := hleft loaded hloaded
    exact ⟨item, hitem, loaded, hloads loaded hloaded, hok⟩
  · intro item hitem
    obtain ⟨loaded, hloaded, hok⟩ := hright item hitem
    exact ⟨loaded.row, hperm.mem_iff.1 (List.mem_map_of_mem hloaded), loaded, hloads loaded hloaded, hok⟩

/-- What a scan says: it is of the current epoch, and it has one item for every attempt. -/
theorem scan_ok (h : scan j ownerEpoch = .ok plan) :
    j.run.ownerEpoch = ownerEpoch ∧ plan.ownerEpoch = ownerEpoch ∧
      j.attempts.rows.length + j.series.rows.length ≤ maxRecoveryItems ∧
      (∀ row ∈ j.attempts.rows, ∃ item ∈ plan.attempts, ItemOf j row item) ∧
      (∀ item ∈ plan.attempts, ∃ row ∈ j.attempts.rows, ItemOf j row item) ∧
      ∀ item, item ∈ plan.observations ↔
        ∃ row ∈ j.series.rows, loadObservationRow j row = some item := by
  obtain ⟨⟨rows, observations⟩, hrows, h⟩ := bind_ok h
  obtain ⟨_, howner, h⟩ := bind_ok h
  obtain ⟨items, hitems, h⟩ := bind_ok h
  obtain ⟨_, -, h⟩ := bind_ok h
  obtain ⟨hepoch, -, hattempts, hobservations⟩ := RecoveryPlan.make_ok h
  obtain ⟨hlimit, -, -, -, hseries⟩ := scanRows_ok hrows
  obtain ⟨hleft, hright⟩ := scanned_iff hrows hitems
  rw [hattempts, hobservations]
  refine ⟨require_ok howner, hepoch, hlimit, hleft, hright, ?_⟩
  · intro item
    rw [(List.perm_insertionSort ObservationRecoveryItem.Le observations).mem_iff]
    exact hseries item

end Scan

section Preview

/-- The states and phases that the preflight reads as a possible send. -/
def AttemptRow.PossiblySent (row : AttemptRow) : Prop :=
  row.state ∈ [.sending, .awaitingResponse, .unknownOutcome] ∨
    row.state = .preSendCommitted ∧ row.phase ≠ some .controlledPreTransport ∨
    row.state = .connecting ∧ row.phase ≠ some .noConnectionEstablished

instance (row : AttemptRow) : Decidable row.PossiblySent := inferInstanceAs (Decidable (_ ∨ _))

/-- No attempt continues this one. -/
def AttemptRow.Last (row : AttemptRow) (j : Journal) : Prop :=
  ∀ successor ∈ j.attempts.rows, successor.predecessorAttemptId ≠ some row.attemptId

instance (row : AttemptRow) (j : Journal) : Decidable (row.Last j) :=
  inferInstanceAs (Decidable (∀ successor ∈ _, _))

/-- `_load_ambiguous_attempt_ids`; the query stops after one row too many. -/
def loadAmbiguousAttemptIds (j : Journal) : Except JournalError (List String) := do
  let ids := (((j.attempts.rows.filter fun row => row.Last j ∧ row.PossiblySent).map
    (·.attemptId)).insertionSort (· ≤ ·)).take (maxRecoveryItems + 1)
  require (ids.length ≤ maxRecoveryItems)
    ⟨projectionIntegrity, "ambiguous attempt inventory exceeds the policy item limit"⟩
  return ids

variable {j : Journal} {ownerEpoch : Nat} {plan : RecoveryPlan} {row : AttemptRow}
  {item : AttemptRecoveryItem}

/-- The query of the preflight and the classification of the scan mean the same rows. -/
theorem possiblySent_iff (row : AttemptRow) : row.PossiblySent ↔
    (classifyAttemptState row.state (durableNoSendProof row.phase)).2.1 ≠ .none := by
  unfold AttemptRow.PossiblySent
  obtain hphase | ⟨phase, hphase⟩ : row.phase = none ∨ ∃ phase, row.phase = some phase := by
    cases row.phase with
    | none => exact Or.inl rfl
    | some phase => exact Or.inr ⟨phase, rfl⟩
  · rw [hphase]
    cases row.state <;> decide
  · rw [hphase]
    cases row.state <;> cases phase <;> decide

/-- The predecessors of the items are those of the rows. -/
theorem last_iff (h : scan j ownerEpoch = .ok plan) (row : AttemptRow) :
    row.Last j ↔ row.attemptId ∉ plan.attempts.filterMap (·.predecessorAttemptId) := by
  obtain ⟨-, -, -, hitems, hrows, -⟩ := scan_ok h
  simp only [AttemptRow.Last, List.mem_filterMap, not_exists, not_and]
  constructor
  · intro hlast item hitem
    obtain ⟨successor, hsuccessor, hof⟩ := hrows item hitem
    rw [hof.facts.predecessor]
    exact hlast successor hsuccessor
  · intro hlast successor hsuccessor
    obtain ⟨item, hitem, hof⟩ := hitems successor hsuccessor
    rw [← hof.facts.predecessor]
    exact hlast item hitem

theorem mem_unresolved_iff (h : scan j ownerEpoch = .ok plan) (id : String) :
    id ∈ plan.unresolvedAmbiguousAttempts.map (·.attemptId) ↔
      ∃ row ∈ j.attempts.rows, row.Last j ∧ row.PossiblySent ∧ row.attemptId = id := by
  obtain ⟨-, -, -, hitems, hrows, -⟩ := scan_ok h
  simp only [RecoveryPlan.unresolvedAmbiguousAttempts, List.mem_map, List.mem_filter,
    decide_eq_true_eq]
  constructor
  · rintro ⟨item, ⟨hitem, hambiguous, hlast⟩, rfl⟩
    obtain ⟨row, hrow, hof⟩ := hrows item hitem
    rw [hof.attemptId] at hlast
    rw [hof.facts.ambiguity] at hambiguous
    exact ⟨row, hrow, (last_iff h row).2 hlast, (possiblySent_iff row).2 hambiguous,
      hof.attemptId.symm⟩
  · rintro ⟨row, hrow, hlast, hsent, rfl⟩
    obtain ⟨item, hitem, hof⟩ := hitems row hrow
    refine ⟨item, ⟨hitem, ?_, ?_⟩, hof.attemptId⟩
    · rw [hof.facts.ambiguity]
      exact (possiblySent_iff row).1 hsent
    · rw [hof.attemptId]
      exact (last_iff h row).1 hlast

/-- Where the scan of a journal returns a plan, the preflight of the same journal returns the
attempts that are unresolved in it. -/
theorem scan_previewed (h : scan j ownerEpoch = .ok plan) : ∃ ids, loadAmbiguousAttemptIds j = .ok ids ∧
      ∀ id, id ∈ ids ↔ id ∈ plan.unresolvedAmbiguousAttempts.map (·.attemptId) := by
  obtain ⟨-, -, hlimit, -⟩ := scan_ok h
  have hperm := List.perm_insertionSort (· ≤ ·)
    ((j.attempts.rows.filter fun row => row.Last j ∧ row.PossiblySent).map (·.attemptId))
  have hlength : (((j.attempts.rows.filter fun row => row.Last j ∧ row.PossiblySent).map
      (·.attemptId)).insertionSort (· ≤ ·)).length ≤ maxRecoveryItems := by
    rw [hperm.length_eq, List.length_map]
    exact (List.length_filter_le _ _).trans ((Nat.le_add_right _ _).trans hlimit)
  have htake := List.take_of_length_le (hlength.trans (Nat.le_succ _))
  refine ⟨_, bind_of (require_of ?_) rfl, ?_⟩
  · rw [htake]
    exact hlength
  · intro id
    rw [htake, hperm.mem_iff, mem_unresolved_iff h]
    simp [and_assoc]

end Preview

end WebhookConformance
