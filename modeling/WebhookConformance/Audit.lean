import Mathlib.Data.List.Dedup
import WebhookConformance.Bootstrap
import WebhookConformance.JournalSteps

/-! The projection audit: replay of the stored transitions against the stored projections. -/
namespace WebhookConformance

open Checked Relation

section Model

def maxReplayTransitions : Nat := 100000

/-- `_load_projection_inventory`. -/
def Journal.inventory (j : Journal) : List (EntityKey × LifecycleState) :=
  (⟨.run, j.run.runId⟩, .run j.run.state) ::
    j.scenarios.rows.map (fun r => (⟨.scenario, r.scenarioId⟩, .scenario r.state)) ++
    j.deliveries.rows.map (fun r => (⟨.delivery, r.deliveryId⟩, .delivery r.state)) ++
    j.attempts.rows.map (fun r => (⟨.attempt, r.attemptId⟩, .attempt r.state)) ++
    j.series.rows.map (fun r => (⟨.observation, r.observationId⟩, .observation r.state)) ++
    j.assertions.rows.map (fun r => (⟨.assertion, r.assertionId⟩, .assertion r.state))

def integrity (message : String) : JournalError := ⟨.projectionIntegrity, message⟩

def loadProjectionInventory (j : Journal) : Except JournalError (List (EntityKey × LifecycleState)) := do
  require (j.inventory.length ≤ maxReplayTransitions)
    (integrity "projection inventory exceeds the bounded replay limit")
  return j.inventory

def loadTransitionHistory (j : Journal) : Except JournalError (List TransitionRecord) := do
  require (j.transitions.length ≤ maxReplayTransitions)
    (integrity "transition history exceeds the bounded replay limit")
  return j.transitions

def replayError : Ledger.Fault → JournalError
  | .notInitial =>
    integrity "transition history does not begin at the authoritative initial state"
  | .illegalEdge => integrity "transition history contains an illegal or discontinuous edge"

/-- The loop state of `replay_transition_records`. -/
structure ReplayState where
  priorSequence : Nat
  transitionIds : List String
  idempotencyKeys : List String
  current : AList fun _ : EntityKey => LifecycleState

def replayRecord (s : ReplayState) (r : TransitionRecord) : Except JournalError ReplayState := do
  require (s.priorSequence < r.sequence)
    (integrity "transition replay sequence is not strictly increasing")
  require (r.transitionId ∉ s.transitionIds)
    (integrity "transition replay contains a duplicate transition ID")
  require (r.idempotencyKey ∉ s.idempotencyKeys)
    (integrity "transition replay contains a duplicate idempotency key")
  let current ← (Ledger.advance stateMachine s.current r.entry).mapError replayError
  return ⟨r.sequence, r.transitionId :: s.transitionIds, r.idempotencyKey :: s.idempotencyKeys, current⟩

def replayTransitionRecords (records : List TransitionRecord) :
    Except JournalError (AList fun _ : EntityKey => LifecycleState) := do
  require (records.length ≤ maxReplayTransitions)
    (integrity "transition replay exceeds the bounded inventory limit")
  let final ← runAll replayRecord ⟨0, [], [], ∅⟩ records
  return final.current

/-- `compare_projection_inventories`: the identities whose two states differ. -/
def compareProjectionInventories (projected : List (EntityKey × LifecycleState))
    (replayed : AList fun _ : EntityKey => LifecycleState) : List EntityKey :=
  (projected.map Prod.fst ++ replayed.keys).dedup.filter fun key =>
    (projected.find? (·.1 = key)).map Prod.snd ≠ replayed.lookup key

/-- `_ProjectionAuditOperation.execute`, by the mismatches it reports. -/
def auditProjections (j : Journal) : Except JournalError (List EntityKey) := do
  let projected ← loadProjectionInventory j
  let history ← loadTransitionHistory j
  let replayed ← replayTransitionRecords history
  return compareProjectionInventories projected replayed

end Model

section Inventory

variable {j : Journal} {key : EntityKey}

theorem mem_inventory {s : LifecycleState} : (key, s) ∈ j.inventory ↔ j.state key = some s := by
  obtain ⟨type, id⟩ := key
  simp only [Journal.inventory, Journal.state, List.cons_append, List.mem_cons, List.mem_append,
    List.mem_map, Prod.mk.injEq, EntityKey.mk.injEq]
  cases type <;> simp only [reduceCtorEq, false_and, and_false, exists_false, or_false, false_or,
    true_and, Option.map_eq_some_iff, Table.find_eq_some, and_assoc]
  case run =>
    constructor
    · rintro ⟨rfl, rfl⟩
      simp
    · intro h
      split at h
      · next hid => exact ⟨hid, (Option.some.inj h).symm⟩
      · cases h

theorem find_inventory : (j.inventory.find? (·.1 = key)).map Prod.snd = j.state key := by
  cases hfind : j.inventory.find? (·.1 = key) with
  | none =>
    rw [List.find?_eq_none] at hfind
    cases hstate : j.state key with
    | none => rfl
    | some s => exact absurd (decide_eq_true rfl) (hfind (key, s) (mem_inventory.2 hstate))
  | some entry =>
    have hkey : entry.1 = key := by simpa using List.find?_some hfind
    have hmem : (entry.1, entry.2) ∈ j.inventory := List.mem_of_find?_eq_some hfind
    rw [mem_inventory, hkey] at hmem
    exact hmem.symm

theorem compareProjectionInventories_eq_nil {replayed : AList fun _ : EntityKey => LifecycleState} :
    compareProjectionInventories j.inventory replayed = [] ↔
      ∀ key, j.state key = replayed.lookup key := by
  simp only [compareProjectionInventories, List.filter_eq_nil_iff, List.mem_dedup, List.mem_append,
    find_inventory, decide_eq_true_eq, not_not]
  constructor
  · intro h key
    cases hstate : j.state key with
    | some s =>
      rw [← hstate]
      exact h key (Or.inl (List.mem_map_of_mem (mem_inventory.2 hstate)))
    | none =>
      cases hlookup : replayed.lookup key with
      | none => rfl
      | some s =>
        have hkey : key ∈ replayed.keys := AList.mem_keys.1 (AList.lookup_isSome.1 (by simp [hlookup]))
        rw [← hstate, ← hlookup]
        exact h key (Or.inr hkey)
  · intro h key _
    exact h key

end Inventory

section Replay

/-- What the journal's own counters and uniqueness checks make of its history. -/
structure Chronicle (records : List TransitionRecord) : Prop where
  sequences : records.Pairwise fun a b => a.sequence < b.sequence
  positive : ∀ r ∈ records, 0 < r.sequence
  ids : (records.map TransitionRecord.transitionId).Nodup
  keys : (records.map TransitionRecord.idempotencyKey).Nodup

variable {s t : ReplayState} {r : TransitionRecord} {records : List TransitionRecord}
  {final : AList fun _ : EntityKey => LifecycleState}

theorem mapError_ok {ε δ α : Type} {f : ε → δ} {x : Except ε α} {a : α} :
    x.mapError f = .ok a ↔ x = .ok a := by
  cases x <;> simp [Except.mapError]

theorem advance_of_replayRecord (h : replayRecord s r = .ok t) :
    Ledger.advance stateMachine s.current r.entry = .ok t.current := by
  obtain ⟨_, -, h⟩ := bind_ok h
  obtain ⟨_, -, h⟩ := bind_ok h
  obtain ⟨_, -, h⟩ := bind_ok h
  obtain ⟨current, hcurrent, h⟩ := bind_ok h
  cases pure_ok h
  exact mapError_ok.1 hcurrent

theorem advance_of_replay (h : runAll replayRecord s records = .ok t) :
    runAll (Ledger.advance stateMachine) s.current (records.map TransitionRecord.entry) =
      .ok t.current := by
  induction records generalizing s with
  | nil =>
    cases h
    rfl
  | cons r records ih =>
    obtain ⟨u, hu, h⟩ := bind_ok h
    rw [List.map_cons, runAll, advance_of_replayRecord hu]
    exact ih h

/-- A chronicle that the state machines accept replays. -/
theorem replay_of_advance (hprior : ∀ r ∈ records, s.priorSequence < r.sequence)
    (hids : ∀ r ∈ records, r.transitionId ∉ s.transitionIds)
    (hkeys : ∀ r ∈ records, r.idempotencyKey ∉ s.idempotencyKeys) (hc : Chronicle records)
    (h : runAll (Ledger.advance stateMachine) s.current (records.map TransitionRecord.entry) =
      .ok final) :
    ∃ t, runAll replayRecord s records = .ok t ∧ t.current = final := by
  induction records generalizing s with
  | nil =>
    cases h
    exact ⟨s, rfl, rfl⟩
  | cons r records ih =>
    obtain ⟨current, hcurrent, h⟩ := bind_ok h
    obtain ⟨hsequence, hsequences⟩ := List.pairwise_cons.1 hc.sequences
    obtain ⟨hid, hrestIds⟩ := List.nodup_cons.1 hc.ids
    obtain ⟨hkey, hrestKeys⟩ := List.nodup_cons.1 hc.keys
    have hstep : replayRecord s r = .ok ⟨r.sequence, r.transitionId :: s.transitionIds,
        r.idempotencyKey :: s.idempotencyKeys, current⟩ := by
      unfold replayRecord
      rw [require_of (hprior r List.mem_cons_self), require_of (hids r List.mem_cons_self),
        require_of (hkeys r List.mem_cons_self), hcurrent]
      rfl
    obtain ⟨t, ht, hfinal⟩ := ih (s := ⟨r.sequence, r.transitionId :: s.transitionIds,
        r.idempotencyKey :: s.idempotencyKeys, current⟩) hsequence
      (by
        intro other hother hmem
        obtain heq | hmem := List.mem_cons.1 hmem
        · exact hid (heq ▸ List.mem_map_of_mem hother)
        · exact hids other (List.mem_cons_of_mem r hother) hmem)
      (by
        intro other hother hmem
        obtain heq | hmem := List.mem_cons.1 hmem
        · exact hkey (heq ▸ List.mem_map_of_mem hother)
        · exact hkeys other (List.mem_cons_of_mem r hother) hmem)
      ⟨hsequences, fun other hother => hc.positive other (List.mem_cons_of_mem r hother), hrestIds,
        hrestKeys⟩ h
    refine ⟨t, ?_, hfinal⟩
    rw [runAll, hstep]
    exact ht

/-- The audit is clean exactly when each entity's own history leads to its projection. -/
theorem auditProjections_clean_iff {j : Journal} (hc : Chronicle j.transitions) :
    auditProjections j = .ok [] ↔ j.inventory.length ≤ maxReplayTransitions ∧
      j.transitions.length ≤ maxReplayTransitions ∧
      ∀ key, Ledger.follow stateMachine key none
        (Ledger.history (j.transitions.map TransitionRecord.entry) key) = .ok (j.state key) := by
  constructor
  · intro h
    obtain ⟨projected, hprojected, h⟩ := bind_ok h
    obtain ⟨_, hinventory, hprojected⟩ := bind_ok hprojected
    cases pure_ok hprojected
    obtain ⟨history, hhistory, h⟩ := bind_ok h
    obtain ⟨_, hlength, hhistory⟩ := bind_ok hhistory
    cases pure_ok hhistory
    obtain ⟨replayed, hreplayed, h⟩ := bind_ok h
    obtain ⟨_, -, hreplayed⟩ := bind_ok hreplayed
    obtain ⟨t, ht, hreplayed⟩ := bind_ok hreplayed
    cases pure_ok hreplayed
    refine ⟨require_ok hinventory, require_ok hlength, ?_⟩
    intro key
    rw [compareProjectionInventories_eq_nil.1 (pure_ok h) key]
    exact Ledger.follow_of_replay (advance_of_replay ht) key
  · rintro ⟨hinventory, hlength, hfollow⟩
    have hreplay : ∃ final, runAll (Ledger.advance stateMachine) ∅
        (j.transitions.map TransitionRecord.entry) = .ok final :=
      Ledger.replay_exists fun key => ⟨j.state key, hfollow key⟩
    obtain ⟨final, hfinal⟩ := hreplay
    obtain ⟨t, ht, rfl⟩ := replay_of_advance (s := ⟨0, [], [], ∅⟩) hc.positive
      (fun _ _ => List.not_mem_nil) (fun _ _ => List.not_mem_nil) hc hfinal
    have hcompare : compareProjectionInventories j.inventory t.current = [] := by
      refine compareProjectionInventories_eq_nil.2 ?_
      intro key
      have hkey := Ledger.follow_of_replay hfinal key
      rw [AList.lookup_empty, hfollow key] at hkey
      exact Except.ok.inj hkey
    rw [auditProjections, loadProjectionInventory, require_of hinventory, loadTransitionHistory,
      require_of hlength]
    show (replayTransitionRecords j.transitions >>= _) = _
    rw [replayTransitionRecords, require_of hlength]
    show ((runAll replayRecord _ _ >>= _) >>= _) = _
    rw [ht]
    exact congrArg Except.ok hcompare

end Replay

section Chronicle

theorem lt_nextSequence {sequences : List Nat} {n : Nat} (h : n ∈ sequences) :
    n < nextSequence sequences := by
  unfold nextSequence
  induction sequences with
  | nil => cases h
  | cons m sequences ih =>
    rw [List.foldr_cons]
    obtain rfl | h := List.mem_cons.1 h
    · omega
    · have := ih h
      omega

theorem chronicle_nil : Chronicle [] := ⟨.nil, by simp, List.nodup_nil, List.nodup_nil⟩

theorem Chronicle.snoc {j j' : Journal} {op : TransitionOperation} (h : Chronicle j.transitions)
    (ha : Accepted j op) (hw : Written j op j') : Chronicle j'.transitions := by
  rw [hw.transitions]
  refine ⟨?_, ?_, ?_, ?_⟩
  · refine List.pairwise_append.2 ⟨h.sequences, List.pairwise_singleton _ _, ?_⟩
    intro r hr new hnew
    rw [List.mem_singleton.1 hnew]
    exact lt_nextSequence (List.mem_map_of_mem hr)
  · intro r hr
    obtain hr | hr := List.mem_append.1 hr
    · exact h.positive r hr
    · rw [List.mem_singleton.1 hr]
      exact Nat.succ_pos _
  · rw [List.map_append, List.nodup_append]
    refine ⟨h.ids, List.nodup_singleton _, ?_⟩
    intro id hid new hnew
    obtain ⟨r, hr, rfl⟩ := List.mem_map.1 hid
    rw [List.mem_singleton.1 hnew]
    exact ha.freshId r hr
  · rw [List.map_append, List.nodup_append]
    refine ⟨h.keys, List.nodup_singleton _, ?_⟩
    intro id hid new hnew
    obtain ⟨r, hr, rfl⟩ := List.mem_map.1 hid
    rw [List.mem_singleton.1 hnew]
    exact ha.freshKey r hr

end Chronicle

section Recorded

/-- What the history of a journal explains: apart from the keys in `K`, which have no record yet,
every projection but that of an attempt is where its history leads from nothing; attempts have left
`scheduled` without a record of having been there. -/
structure Recorded (K : EntityKey → Prop) (j : Journal) : Prop where
  chronicle : Chronicle j.transitions
  explained : ∀ key, ¬ K key → key.entityType ≠ .attempt → Ledger.follow stateMachine key none
    (Ledger.history (j.transitions.map TransitionRecord.entry) key) = .ok (j.state key)
  moved : ∀ id, ¬ K ⟨.attempt, id⟩ → j.state ⟨.attempt, id⟩ ≠ some (.attempt .scheduled)
  known : ∀ r ∈ j.transitions, (j.state r.key).isSome ∧ ¬ K r.key ∧
    (r.key.entityType = .attempt → r.fromState ≠ none)

variable {K L : EntityKey → Prop} {j j' : Journal}

theorem Recorded.frame (h : Recorded K j) (hstate : ∀ key, j'.state key = j.state key)
    (htransitions : j'.transitions = j.transitions) : Recorded K j' := by
  refine ⟨?_, ?_, ?_, ?_⟩
  · rw [htransitions]
    exact h.chronicle
  · intro key
    rw [htransitions, hstate]
    exact h.explained key
  · intro id
    rw [hstate]
    exact h.moved id
  · intro r
    rw [htransitions, hstate]
    exact h.known r

theorem Recorded.congr (h : Recorded K j) (hiff : ∀ key, K key ↔ L key) : Recorded L j := by
  have hKL : K = L := funext fun key => propext (hiff key)
  exact hKL ▸ h

theorem no_edge_to_scheduled (s : LifecycleState) :
    transitionAllowed s (.attempt .scheduled) = false := by
  cases s with
  | attempt s => cases s <;> decide
  | _ => rfl

/-- A new transition of an attempt leaves `scheduled`, and names the state it leaves. -/
theorem Recorded.attempt_moves {op : TransitionOperation} (h : Recorded K j) (ha : Accepted j op)
    (htype : op.command.key.entityType = .attempt)
    (hpending : K op.command.key → op.command.expectedState ≠ none) :
    op.command.expectedState ≠ none ∧ op.command.newState ≠ .attempt .scheduled := by
  obtain ⟨hnone, hnew, hstate, -⟩ | ⟨old, hold, -, hallowed⟩ := ha.edge_cases
  · have hinitial : op.command.newState = .attempt .scheduled := by rw [hnew, htype]; rfl
    have hkey : op.command.key = ⟨.attempt, op.command.entityId⟩ := by
      rw [← htype]
      rfl
    by_cases hK : K op.command.key
    · exact absurd hnone (hpending hK)
    · rw [hkey] at hK hstate
      exact absurd (hinitial ▸ hstate) (h.moved _ hK)
  · refine ⟨by simp [hold], ?_⟩
    intro hnew
    rw [hnew, no_edge_to_scheduled] at hallowed
    cases hallowed

/-- The history of a key after a transition on it leads to the new state. -/
theorem Recorded.follow_committed {op : TransitionOperation} (h : Recorded K j) (ha : Accepted j op)
    (htype : op.command.key.entityType ≠ .attempt)
    (hpending : K op.command.key → op.command.expectedState = none) :
    Ledger.follow stateMachine op.command.key none
      (Ledger.history (j.transitions.map TransitionRecord.entry) op.command.key ++
        [⟨op.command.key, op.command.expectedState, op.command.newState⟩]) =
      .ok (some op.command.newState) := by
  obtain ⟨hnone, hnew, hstate, hempty⟩ | ⟨old, hold, -, -⟩ := ha.edge_cases
  · rw [history_entries, hempty, hnone, hnew]
    simp only [List.map_nil, List.nil_append, Ledger.follow, Ledger.check, stateMachine, and_self,
      if_true]
    rfl
  · have hK : ¬ K op.command.key := fun hK => by simp [hpending hK] at hold
    exact Ledger.follow_snoc (h.explained _ hK htype) (ha.check (by simp [hold]))

theorem Recorded.commit {op : TransitionOperation} (h : Recorded K j) (ha : Accepted j op)
    (hw : Written j op j')
    (hpending : K op.command.key →
      (op.command.expectedState = none ↔ op.command.key.entityType ≠ .attempt)) :
    Recorded (fun key => K key ∧ key ≠ op.command.key) j' := by
  have hentries : j'.transitions.map TransitionRecord.entry =
      j.transitions.map TransitionRecord.entry ++
        [⟨op.command.key, op.command.expectedState, op.command.newState⟩] := by
    rw [hw.transitions, List.map_append]
    rfl
  have hstate : ∀ key, j'.state key =
      if key = op.command.key then some op.command.newState else j.state key := fun _ => hw.state ha
  refine ⟨h.chronicle.snoc ha hw, ?_, ?_, ?_⟩
  · intro key hK htype
    rw [hentries, hstate]
    by_cases hkey : key = op.command.key
    · subst hkey
      rw [if_pos rfl, Ledger.history_append, Ledger.history_cons_self, Ledger.history_nil]
      exact h.follow_committed ha htype fun hK => (hpending hK).2 htype
    · rw [if_neg hkey, Ledger.history_snoc_other (Ne.symm hkey)]
      exact h.explained key (fun hk => hK ⟨hk, hkey⟩) htype
  · intro id hK
    rw [hstate]
    split
    · next hkey =>
      have htype : op.command.key.entityType = .attempt := by rw [← hkey]
      intro hnew
      exact (h.attempt_moves ha htype fun hk hnone => (hpending hk).1 hnone htype).2
        (Option.some.inj hnew)
    · next hkey => exact h.moved id fun hk => hK ⟨hk, hkey⟩
  · intro r hr
    rw [hw.transitions] at hr
    obtain hr | hr := List.mem_append.1 hr
    · obtain ⟨hsome, hK, hfrom⟩ := h.known r hr
      refine ⟨?_, fun hk => hK hk.1, hfrom⟩
      rw [hstate]
      split
      · rfl
      · exact hsome
    · obtain rfl := List.mem_singleton.1 hr
      refine ⟨?_, fun hk => hk.2 rfl, ?_⟩
      · rw [hstate]
        simp [recordFromCommand]
      · intro htype
        exact (h.attempt_moves ha htype fun hk hnone => (hpending hk).1 hnone htype).1

theorem Recorded.apply {op : TransitionOperation} {committed : CommittedTransition}
    (h : Recorded K j) (happly : applyTransition j op = .ok (j', committed))
    (hpending : K op.command.key →
      (op.command.expectedState = none ↔ op.command.key.entityType ≠ .attempt)) :
    Recorded (fun key => K key ∧ key ≠ op.command.key) j' := by
  obtain ⟨existing, hfind, hrepeats, rfl, -⟩ | ⟨ha, hw, -⟩ := applyTransition_ok happly
  · have hkey : op.command.key = existing.key := congrArg TransitionRecord.key hrepeats
    have hK := (h.known existing (List.mem_of_find?_eq_some hfind)).2.1
    refine h.congr ?_
    intro key
    refine ⟨fun hk => ⟨hk, ?_⟩, And.left⟩
    rintro rfl
    exact hK (hkey ▸ hk)
  · exact h.commit ha hw hpending

/-- With no row left unrecorded, any transition keeps it so. -/
theorem Recorded.apply_all {op : TransitionOperation} {committed : CommittedTransition}
    (h : Recorded (fun _ => False) j) (happly : applyTransition j op = .ok (j', committed)) :
    Recorded (fun _ => False) j' :=
  (h.apply happly False.elim).congr fun _ => ⟨And.left, False.elim⟩

/-- The transition that belongs to the one unrecorded row. -/
theorem Recorded.apply_pending {op : TransitionOperation} {committed : CommittedTransition}
    {key : EntityKey} (h : Recorded (fun k => k = key) j)
    (happly : applyTransition j op = .ok (j', committed)) (hkey : op.command.key = key)
    (hpending : op.command.expectedState = none ↔ key.entityType ≠ .attempt) :
    Recorded (fun _ => False) j' := by
  subst hkey
  refine (h.apply happly fun _ => hpending).congr ?_
  intro key
  exact ⟨fun hk => hk.2 hk.1, False.elim⟩

/-- A row inserted without a record. -/
theorem Recorded.insert {key : EntityKey} {s : LifecycleState} (h : Recorded (fun _ => False) j)
    (hfresh : j.state key = none)
    (hstate : ∀ k, j'.state k = if k = key then some s else j.state k)
    (htransitions : j'.transitions = j.transitions) : Recorded (fun k => k = key) j' := by
  refine ⟨?_, ?_, ?_, ?_⟩
  · rw [htransitions]
    exact h.chronicle
  · intro k hk htype
    rw [htransitions, hstate, if_neg hk]
    exact h.explained k not_false htype
  · intro id hk
    rw [hstate, if_neg hk]
    exact h.moved id not_false
  · intro r hr
    rw [htransitions] at hr
    obtain ⟨hsome, -, hfrom⟩ := h.known r hr
    have hne : r.key ≠ key := by
      rintro rfl
      rw [hfresh] at hsome
      cases hsome
    refine ⟨?_, hne, hfrom⟩
    rw [hstate, if_neg hne]
    exact hsome

theorem state_insertAttempt {row : AttemptRow} {attempts : Table AttemptRow AttemptRow.attemptId}
    (h : j.attempts.insert row = some attempts) (key : EntityKey) :
    ({ j with attempts } : Journal).state key =
      if key = ⟨.attempt, row.attemptId⟩ then some (.attempt row.state) else j.state key := by
  obtain ⟨type, id⟩ := key
  cases type <;> simp only [Journal.state, EntityKey.mk.injEq, reduceCtorEq, false_and, if_false,
    true_and]
  rw [Table.find_insert h]
  split <;> rfl

theorem state_insertSeries {row : SeriesRow} {series : Table SeriesRow SeriesRow.observationId}
    (h : j.series.insert row = some series) (key : EntityKey) :
    ({ j with series } : Journal).state key =
      if key = ⟨.observation, row.observationId⟩ then some (.observation row.state)
      else j.state key := by
  obtain ⟨type, id⟩ := key
  cases type <;> simp only [Journal.state, EntityKey.mk.injEq, reduceCtorEq, false_and, if_false,
    true_and]
  rw [Table.find_insert h]
  split <;> rfl

theorem Recorded.claim {claim : AttemptScheduleClaim} {committed : CommittedTransition}
    (h : Recorded (fun _ => False) j) (hclaim : claimAttemptSchedule j claim = .ok (j', committed)) :
    Recorded (fun _ => False) j' := by
  obtain ⟨entry, -, -, -, ⟨-, inserted, hinserted, happly⟩ | ⟨rfl, -⟩⟩ :=
    claimAttemptSchedule_ok hclaim
  swap
  · exact h
  obtain ⟨hid, hexpected, hnew, -⟩ := claim.claim_edge
  have hkey : claim.transition.key = ⟨.attempt, claim.attemptId⟩ := by
    rw [TransitionCommand.key, hnew, hid]
    rfl
  have hconsumed : Recorded (fun _ => False) (consumeSchedule j claim) :=
    h.frame (fun _ => rfl) rfl
  obtain ⟨-, prepared, hprepared, -, hscheduled⟩ | ⟨hnone, hinserted⟩ :=
    insertClaimedAttempt_ok hinserted
  · -- no attempt is left in `scheduled`, so the row cannot have been prepared before
    have hstate : (consumeSchedule j claim).state ⟨.attempt, claim.attemptId⟩ =
        some (.attempt .scheduled) := by
      simp only [Journal.state, hprepared, Option.map_some, hscheduled]
    exact absurd hstate (hconsumed.moved _ not_false)
  · obtain ⟨attempts, hattempts, rfl, -⟩ := insertAttempt_ok hinserted
    have hfresh : (consumeSchedule j claim).state ⟨.attempt, claim.attemptId⟩ = none := by
      simp only [Journal.state, hnone, Option.map_none]
    have hrow := hconsumed.insert hfresh (state_insertAttempt hattempts) rfl
    refine hrow.apply_pending happly hkey ?_
    simp [TransitionCommand.plain, hexpected]

theorem Recorded.beginSeries {c : ObservationSeriesCommand}
    {committed : CommittedTransition × CommittedTransition} (h : Recorded (fun _ => False) j)
    (hbegin : WebhookConformance.beginSeries j c = .ok (j', committed)) :
    Recorded (fun _ => False) j' := by
  obtain ⟨_, -, hbegin⟩ := bind_ok hbegin
  obtain ⟨inserted, hinserted, hbegin⟩ := bind_ok hbegin
  obtain ⟨⟨scheduled, initial⟩, hinitial, hbegin⟩ := bind_ok hbegin
  obtain ⟨⟨running, started⟩, hrunning, hbegin⟩ := bind_ok hbegin
  cases pure_ok hbegin
  refine Recorded.apply_all ?_ hrunning
  obtain ⟨hnone, -, series, hseries, rfl⟩ | rfl := insertSeries_ok hinserted
  · obtain ⟨hid, hexpected, hnew⟩ := c.initial_edge
    have hfresh : j.state ⟨.observation, c.observationId⟩ = none := by
      simp only [Journal.state, hnone, Option.map_none]
    have hrow := h.insert hfresh (state_insertSeries hseries) rfl
    refine hrow.apply_pending hinitial ?_ ?_
    · rw [TransitionCommand.plain, TransitionCommand.key, hnew, hid]
      rfl
    · simp [TransitionCommand.plain, hexpected]
  · exact h.apply_all hinitial

theorem state_rebound {schedule : Table ScheduleRow ScheduleRow.scheduleEntryId} {id : String}
    {ownerEpoch : Nat} (key : EntityKey) :
    ({ j with
      schedule
      attempts := j.attempts.modify id (fun r => { r with ownerEpoch }) fun _ => rfl } :
        Journal).state key = j.state key :=
  state_congr rfl rfl rfl rfl rfl fun _ => Table.map_find_modify (by intro; rfl) (by intro; rfl)

/-- Every operation but a policy commit leaves no row without its history. -/
theorem Recorded.execute {op : JournalOperation} (h : Recorded (fun _ => False) j)
    (hpolicy : ∀ plan, op ≠ .commitPolicy plan) (hexecute : j.execute op = .ok j') :
    Recorded (fun _ => False) j' := by
  cases op with
  | transition op =>
    obtain ⟨_, happly⟩ := map_fst_ok hexecute
    exact h.apply_all happly
  | claim claim =>
    obtain ⟨_, hclaim⟩ := map_fst_ok hexecute
    exact h.claim hclaim
  | rebind attemptId expectedState ownerEpoch =>
    obtain ⟨-, schedule, row, rfl⟩ := rebindRecoverableAttempt_ok hexecute
    exact h.frame state_rebound rfl
  | beginSeries command =>
    obtain ⟨_, hbegin⟩ := map_fst_ok hexecute
    exact h.beginSeries hbegin
  | appendSample command =>
    obtain ⟨series, inserted, hinserted, hterminal⟩ := appendSample_ok hexecute
    have hrow : Recorded (fun _ => False) inserted := by
      obtain rfl | ⟨samples, -, rfl⟩ := insertSample_ok hinserted
      · exact h
      · exact h.frame (fun _ => rfl) rfl
    obtain rfl | ⟨t, committed, -, happly⟩ := hterminal
    · exact hrow
    · exact hrow.apply_all happly
  | appendEvaluation command =>
    obtain ⟨_, happend⟩ := map_fst_ok hexecute
    obtain ⟨_, -, happend⟩ := bind_ok happend
    obtain ⟨appended, happended, happly⟩ := bind_ok happend
    refine Recorded.apply_all ?_ happly
    obtain rfl | ⟨evaluations, -, rfl⟩ := appendEvaluationRow_ok happended
    · exact h
    · exact h.frame (fun _ => rfl) rfl
  | finalizeRun request =>
    obtain ⟨⟨applied, _⟩, happly, hterminal⟩ := bind_ok hexecute
    obtain ⟨_, -, hterminal⟩ := bind_ok hterminal
    cases pure_ok hterminal
    exact (h.apply_all happly).frame (fun _ => rfl) rfl
  | advanceOwnerEpoch old new =>
    obtain ⟨rfl, -⟩ := advanceOwnerEpoch_ok hexecute
    exact h.frame (fun _ => rfl) rfl
  | commitPolicy plan => exact absurd rfl (hpolicy plan)

end Recorded

section Activation

variable {plan : BootstrapPlan} {clock : String → TransitionTimestamp} {j j' : Journal}

theorem recorded_bootstrap (plan : BootstrapPlan) :
    Recorded (fun key => (plan.journal.state key).isSome) plan.journal := by
  refine ⟨chronicle_nil, ?_, ?_, ?_⟩
  · intro key hrow _
    rw [Option.not_isSome_iff_eq_none.1 hrow]
    rfl
  · intro id _ hstate
    cases hstate
  · intro r hr
    cases hr

/-- Initial records, one after the other, leave fewer rows unrecorded. -/
theorem recorded_initial {K : EntityKey → Prop} {commands : List TransitionCommand}
    (h : Recorded K j) (hcommands : ∀ c ∈ commands, c.expectedState = none ∧
      c.key.entityType ≠ .attempt)
    (hrun : runAll Journal.execute j (commands.map fun c => .transition c.plain) = .ok j') :
    Recorded (fun key => K key ∧ ∀ c ∈ commands, key ≠ c.key) j' := by
  induction commands generalizing j K with
  | nil =>
    cases hrun
    exact h.congr fun key => by simp
  | cons c commands ih =>
    obtain ⟨u, hu, hrun⟩ := bind_ok hrun
    obtain ⟨_, happly⟩ := map_fst_ok hu
    obtain ⟨hnone, htype⟩ := hcommands c List.mem_cons_self
    have hc := h.apply happly fun _ => ⟨fun _ => htype, fun _ => hnone⟩
    refine (ih hc (fun c' hc' => hcommands c' (List.mem_cons_of_mem c hc')) hrun).congr ?_
    intro key
    simp [TransitionCommand.plain, and_assoc]

theorem initialCommand_key {tag : String} (key : EntityKey) :
    (initialCommand plan clock tag key).key = key := by
  obtain ⟨type, id⟩ := key
  cases type <;> rfl

theorem initialCommands_initial {c : TransitionCommand} (h : c ∈ initialCommands plan clock) :
    c.expectedState = none ∧ c.key.entityType ≠ .attempt := by
  obtain ⟨tag, key, rfl, htype⟩ : ∃ tag key, c = initialCommand plan clock tag key ∧
      key.entityType ≠ .attempt := by
    simp only [initialCommands, initialScenarioCommands, BootstrapPlan.deliveriesOf,
      BootstrapPlan.assertionsOf, List.mem_cons, List.mem_flatMap, List.mem_append, List.mem_map] at h
    obtain rfl | ⟨s, -, (rfl | ⟨_, ⟨d, -, rfl⟩, rfl⟩) | ⟨_, ⟨a, -, rfl⟩, rfl⟩⟩ := h
    · exact ⟨_, _, rfl, nofun⟩
    · exact ⟨_, _, rfl, nofun⟩
    · exact ⟨_, _, rfl, nofun⟩
    · exact ⟨_, _, rfl, nofun⟩
  rw [initialCommand_key]
  exact ⟨rfl, htype⟩

theorem mem_initialCommands {s : ScenarioRow} {c : TransitionCommand} (hs : s ∈ plan.scenarios.rows)
    (hc : c ∈ initialScenarioCommands plan clock s) : c ∈ initialCommands plan clock :=
  List.mem_cons_of_mem _ (List.mem_flatMap.2 ⟨s, hs, hc⟩)

theorem initialCommands_cover {key : EntityKey} (h : (plan.journal.state key).isSome) :
    ∃ c ∈ initialCommands plan clock, key = c.key := by
  obtain ⟨state, hstate⟩ := Option.isSome_iff_exists.1 h
  rw [← mem_inventory] at hstate
  simp only [Journal.inventory, BootstrapPlan.journal, List.cons_append, List.mem_cons,
    List.mem_append, List.mem_map, Prod.mk.injEq] at hstate
  obtain ⟨rfl, -⟩ | (((⟨s, hs, rfl, -⟩ | ⟨d, hd, rfl, -⟩) | ⟨a, ha, -⟩) | ⟨o, ho, -⟩) |
    ⟨a, ha, rfl, -⟩ := hstate
  · exact ⟨_, List.mem_cons_self, (initialCommand_key _).symm⟩
  · exact ⟨_, mem_initialCommands hs List.mem_cons_self, (initialCommand_key _).symm⟩
  · obtain ⟨s, hs, hscope⟩ := List.mem_map.1 (plan.deliveries_scoped d hd)
    refine ⟨initialCommand plan clock "delivery_initial" ⟨.delivery, d.deliveryId⟩,
      mem_initialCommands hs ?_, (initialCommand_key _).symm⟩
    refine List.mem_cons_of_mem _ (List.mem_append_left _ (List.mem_map_of_mem ?_))
    exact List.mem_map.2 ⟨d, List.mem_filter.2 ⟨hd, by simp [hscope]⟩, rfl⟩
  · cases ha
  · cases ho
  · obtain ⟨s, hs, hscope⟩ := List.mem_map.1 (plan.assertions_scoped a ha)
    refine ⟨initialCommand plan clock "assertion_initial" ⟨.assertion, a.assertionId⟩,
      mem_initialCommands hs ?_, (initialCommand_key _).symm⟩
    refine List.mem_cons_of_mem _ (List.mem_append_right _ (List.mem_map_of_mem ?_))
    exact List.mem_map.2 ⟨a, List.mem_filter.2 ⟨ha, by simp [hscope]⟩, rfl⟩

/-- After `_activate_full_run` every projection has its initial record. -/
theorem recorded_activated
    (h : runAll Journal.execute plan.journal (activateFullRun plan clock) = .ok j) :
    Recorded (fun _ => False) j := by
  rw [activateFullRun, List.map_append, runAll_append] at h
  obtain ⟨u, hu, h⟩ := bind_ok h
  have hinitial : Recorded (fun _ => False) u := by
    refine (recorded_initial (recorded_bootstrap plan) (fun _ => initialCommands_initial) hu).congr ?_
    intro key
    refine ⟨?_, False.elim⟩
    rintro ⟨hrow, hcover⟩
    obtain ⟨c, hc, hkey⟩ : ∃ c ∈ initialCommands plan clock, key = c.key :=
      initialCommands_cover hrow
    exact hcover c hc hkey
  refine runAll_invariant (P := Recorded fun _ => False) ?_ h hinitial
  intro s op t hop hstep hs
  obtain ⟨c, -, rfl⟩ := List.mem_map.1 hop
  exact hs.execute (by rintro plan ⟨⟩) hstep

end Activation

section Clean

variable {j j' : Journal}

theorem nodup_keys {α : Type} {f : α → String} (t : Table α f) (type : EntityType) :
    (t.rows.map fun r => (⟨type, f r⟩ : EntityKey)).Nodup := by
  have hmap : (t.rows.map fun r => (⟨type, f r⟩ : EntityKey)) = (t.rows.map f).map (EntityKey.mk type) :=
    List.map_map.symm
  rw [hmap]
  refine t.nodup.map ?_
  intro a b h
  exact (EntityKey.mk.inj h).2

theorem inventory_nodup (j : Journal) : (j.inventory.map Prod.fst).Nodup := by
  have hkeys : j.inventory.map Prod.fst = [⟨.run, j.run.runId⟩] ++
      (j.scenarios.rows.map fun r => ⟨.scenario, r.scenarioId⟩) ++
      (j.deliveries.rows.map fun r => ⟨.delivery, r.deliveryId⟩) ++
      (j.attempts.rows.map fun r => ⟨.attempt, r.attemptId⟩) ++
      (j.series.rows.map fun r => ⟨.observation, r.observationId⟩) ++
      (j.assertions.rows.map fun r => ⟨.assertion, r.assertionId⟩) := by
    simp [Journal.inventory, Function.comp_def]
  rw [hkeys]
  refine .append (.append (.append (.append (.append (List.nodup_singleton _)
    (nodup_keys _ _) ?_) (nodup_keys _ _) ?_) (nodup_keys _ _) ?_) (nodup_keys _ _) ?_)
    (nodup_keys _ _) ?_ <;> simp [List.disjoint_left] <;> aesop

/-- Every row has a record, so there are no more rows than records. -/
theorem inventory_length_le
    (h : ∀ key, Ledger.follow stateMachine key none
      (Ledger.history (j.transitions.map TransitionRecord.entry) key) = .ok (j.state key)) :
    j.inventory.length ≤ j.transitions.length := by
  have hsub : j.inventory.map Prod.fst ⊆ j.transitions.map TransitionRecord.key := by
    intro key hkey
    obtain ⟨⟨key, s⟩, hmem, rfl⟩ := List.mem_map.1 hkey
    have hfollow := h key
    rw [mem_inventory.1 hmem, history_entries] at hfollow
    cases hhistory : j.history key with
    | nil =>
      rw [hhistory] at hfollow
      cases hfollow
    | cons r records =>
      have hr : r ∈ j.history key := by rw [hhistory]; exact List.mem_cons_self
      obtain ⟨hmem, hkey⟩ := List.mem_filter.1 hr
      exact List.mem_map.2 ⟨r, hmem, by simpa using hkey⟩
  simpa using (List.subperm_of_subset (inventory_nodup j) hsub).length_le

/-- A journal whose history is recorded audits clean exactly when it has no attempts and its
history is within the limit. -/
theorem Recorded.audit_iff (h : Recorded (fun _ => False) j) :
    auditProjections j = .ok [] ↔
      j.attempts.rows = [] ∧ j.transitions.length ≤ maxReplayTransitions := by
  rw [auditProjections_clean_iff h.chronicle]
  constructor
  · rintro ⟨-, hlength, hfollow⟩
    refine ⟨?_, hlength⟩
    rw [List.eq_nil_iff_forall_not_mem]
    intro row hrow
    -- the first record of an attempt has a source, so its history does not begin at nothing
    have hkey := hfollow ⟨.attempt, row.attemptId⟩
    have hstate : j.state ⟨.attempt, row.attemptId⟩ = some (.attempt row.state) := by
      simp only [Journal.state, Table.find_of_mem hrow, Option.map_some]
    rw [hstate, history_entries] at hkey
    cases hhistory : j.history ⟨.attempt, row.attemptId⟩ with
    | nil =>
      rw [hhistory] at hkey
      cases hkey
    | cons r records =>
      have hr : r ∈ j.history ⟨.attempt, row.attemptId⟩ := by
        rw [hhistory]
        exact List.mem_cons_self
      obtain ⟨hmem, hrkey⟩ := List.mem_filter.1 hr
      have htype : r.key.entityType = .attempt := by rw [of_decide_eq_true hrkey]
      rw [hhistory] at hkey
      obtain ⟨_, hcheck, -⟩ := bind_ok hkey
      simp only [Ledger.check] at hcheck
      split at hcheck
      · next hfirst => exact (h.known r hmem).2.2 htype hfirst.1
      · cases hcheck
  · rintro ⟨hattempts, hlength⟩
    have hnone : ∀ id, j.state ⟨.attempt, id⟩ = none := by
      intro id
      simp only [Journal.state, Table.find, hattempts, List.find?_nil, Option.map_none]
    have hfollow : ∀ key, Ledger.follow stateMachine key none
        (Ledger.history (j.transitions.map TransitionRecord.entry) key) = .ok (j.state key) := by
      intro key
      by_cases htype : key.entityType = .attempt
      · obtain ⟨type, id⟩ := key
        obtain rfl : type = .attempt := htype
        have hempty : j.history ⟨.attempt, id⟩ = [] := by
          rw [List.eq_nil_iff_forall_not_mem]
          intro r hr
          obtain ⟨hmem, hkey⟩ := List.mem_filter.1 hr
          have hsome := (h.known r hmem).1
          rw [of_decide_eq_true hkey, hnone] at hsome
          cases hsome
        rw [history_entries, hempty, hnone]
        rfl
      · exact h.explained key not_false htype
    exact ⟨(inventory_length_le hfollow).trans hlength, hlength, hfollow⟩

end Clean

section Claims

variable {j j' : Journal}

theorem updateProjection_attempts_length (j : Journal) (c : TransitionCommand) :
    (updateProjection j c).attempts.rows.length = j.attempts.rows.length := by
  unfold updateProjection
  split
  · rfl
  · cases c.newState <;> cases c.attemptOutcome <;> simp [Journal.setState, Table.modify]

theorem applyTransition_attempts_length {op : TransitionOperation} {committed : CommittedTransition}
    (h : applyTransition j op = .ok (j', committed)) :
    j'.attempts.rows.length = j.attempts.rows.length := by
  obtain ⟨_, -, -, rfl, -⟩ | ⟨-, hw, -⟩ := applyTransition_ok h
  · rfl
  · rw [hw.attempts, ← updateProjection_attempts_length j op.command]
    cases op.phaseEvidence <;> simp [Table.modify]

theorem claim_attempts_pos {claim : AttemptScheduleClaim} {committed : CommittedTransition}
    (h : claimAttemptSchedule j claim = .ok (j', committed)) : 0 < j'.attempts.rows.length := by
  obtain ⟨entry, -, -, -, ⟨-, inserted, hinserted, happly⟩ | ⟨rfl, -, hrow, -⟩⟩ :=
    claimAttemptSchedule_ok h
  · rw [applyTransition_attempts_length happly]
    obtain ⟨rfl, prepared, hprepared, -⟩ | ⟨-, hinserted⟩ := insertClaimedAttempt_ok hinserted
    · exact List.length_pos_of_mem (Table.find_eq_some.1 hprepared).1
    · obtain ⟨attempts, hattempts, rfl, -⟩ := insertAttempt_ok hinserted
      simp [(Table.insert_some hattempts).1]
  · obtain ⟨row, hrow, -⟩ := hrow
    exact List.length_pos_of_mem (Table.find_eq_some.1 hrow).1

theorem insertSeries_attempts {c : ObservationSeriesCommand} (h : insertSeries j c = .ok j') :
    j'.attempts = j.attempts := by
  obtain ⟨-, -, series, -, rfl⟩ | rfl := insertSeries_ok h
  · rfl
  · rfl

/-- Only a claim or a policy commit adds an attempt. -/
theorem execute_attempts_length {op : JournalOperation} (hpolicy : ∀ plan, op ≠ .commitPolicy plan)
    (hclaim : ∀ c, op ≠ .claim c) (h : j.execute op = .ok j') :
    j'.attempts.rows.length = j.attempts.rows.length := by
  cases op with
  | transition op => exact applyTransition_attempts_length (map_fst_ok h).choose_spec
  | claim claim => exact absurd rfl (hclaim claim)
  | rebind attemptId expectedState ownerEpoch =>
    obtain ⟨-, schedule, row, rfl⟩ := rebindRecoverableAttempt_ok h
    simp [Table.modify]
  | beginSeries command =>
    obtain ⟨_, h⟩ := map_fst_ok h
    obtain ⟨_, -, h⟩ := bind_ok h
    obtain ⟨inserted, hinserted, h⟩ := bind_ok h
    obtain ⟨⟨scheduled, initial⟩, hinitial, h⟩ := bind_ok h
    obtain ⟨⟨running, started⟩, hrunning, h⟩ := bind_ok h
    cases pure_ok h
    rw [applyTransition_attempts_length hrunning, applyTransition_attempts_length hinitial,
      insertSeries_attempts hinserted]
  | appendSample command =>
    obtain ⟨series, inserted, hinserted, hterminal⟩ := appendSample_ok h
    have hrow : inserted.attempts = j.attempts := by
      obtain rfl | ⟨samples, -, rfl⟩ := insertSample_ok hinserted <;> rfl
    rw [← hrow]
    obtain rfl | ⟨t, committed, -, happly⟩ := hterminal
    · rfl
    · exact applyTransition_attempts_length happly
  | appendEvaluation command =>
    obtain ⟨_, h⟩ := map_fst_ok h
    obtain ⟨_, -, h⟩ := bind_ok h
    obtain ⟨appended, happended, happly⟩ := bind_ok h
    rw [applyTransition_attempts_length happly]
    obtain rfl | ⟨evaluations, -, rfl⟩ := appendEvaluationRow_ok happended <;> rfl
  | finalizeRun request =>
    obtain ⟨⟨applied, _⟩, happly, hterminal⟩ := bind_ok h
    obtain ⟨_, -, hterminal⟩ := bind_ok hterminal
    have hlength := applyTransition_attempts_length happly
    cases pure_ok hterminal
    exact hlength
  | advanceOwnerEpoch old new =>
    obtain ⟨rfl, -⟩ := advanceOwnerEpoch_ok h
    rfl
  | commitPolicy plan => exact absurd rfl (hpolicy plan)

/-- A run of operations has attempts at its end exactly when it had some or claimed one. -/
theorem attempts_eq_nil_iff {ops : List JournalOperation}
    (hpolicy : ∀ op ∈ ops, ∀ plan, op ≠ .commitPolicy plan)
    (h : runAll Journal.execute j ops = .ok j') :
    j'.attempts.rows = [] ↔ j.attempts.rows = [] ∧ ∀ op ∈ ops, ∀ c, op ≠ .claim c := by
  induction ops generalizing j with
  | nil =>
    cases h
    simp
  | cons op ops ih =>
    obtain ⟨u, hu, h⟩ := bind_ok h
    rw [ih (fun op hop => hpolicy op (List.mem_cons_of_mem _ hop)) h]
    by_cases hclaim : ∃ c, op = .claim c
    · obtain ⟨c, rfl⟩ := hclaim
      obtain ⟨_, hu⟩ := map_fst_ok hu
      have hpos := claim_attempts_pos hu
      constructor
      · rintro ⟨hnil, -⟩
        simp [hnil] at hpos
      · rintro ⟨-, hnone⟩
        exact absurd rfl (hnone _ List.mem_cons_self c)
    · have hop : ∀ c, op ≠ .claim c := fun c hc => hclaim ⟨c, hc⟩
      have hlength := execute_attempts_length (hpolicy op List.mem_cons_self) hop hu
      have hnil : u.attempts.rows = [] ↔ j.attempts.rows = [] := by
        rw [← List.length_eq_zero_iff, hlength, List.length_eq_zero_iff]
      rw [hnil, List.forall_mem_cons]
      constructor
      · rintro ⟨hj, hrest⟩
        exact ⟨hj, hop, hrest⟩
      · rintro ⟨hj, -, hrest⟩
        exact ⟨hj, hrest⟩

/-- After the activation of a bootstrapped run and any operations of it, the audit is clean exactly
when no schedule was claimed and the history is within the replay limit. -/
theorem audit_clean_iff_unclaimed {plan : BootstrapPlan} {clock : String → TransitionTimestamp}
    {ops : List JournalOperation}
    (hactivate : runAll Journal.execute plan.journal (activateFullRun plan clock) = .ok j)
    (hops : runAll Journal.execute j ops = .ok j')
    (hpolicy : ∀ op ∈ ops, ∀ policy, op ≠ .commitPolicy policy) :
    auditProjections j' = .ok [] ↔
      (∀ op ∈ ops, ∀ c, op ≠ .claim c) ∧ j'.transitions.length ≤ maxReplayTransitions := by
  have hrecorded : Recorded (fun _ => False) j' := by
    refine runAll_invariant (P := Recorded fun _ => False) ?_ hops (recorded_activated hactivate)
    intro s op t hop hstep hs
    exact hs.execute (hpolicy op hop) hstep
  have hactivation : ∀ op ∈ activateFullRun plan clock,
      (∀ policy, op ≠ .commitPolicy policy) ∧ ∀ c, op ≠ .claim c := by
    intro op hop
    obtain ⟨c, -, rfl⟩ := List.mem_map.1 hop
    exact ⟨by rintro policy ⟨⟩, by rintro c ⟨⟩⟩
  have hempty : j.attempts.rows = [] :=
    (attempts_eq_nil_iff (fun op hop => (hactivation op hop).1) hactivate).2
      ⟨rfl, fun op hop => (hactivation op hop).2⟩
  rw [hrecorded.audit_iff, attempts_eq_nil_iff hpolicy hops]
  constructor
  · rintro ⟨⟨-, hclaims⟩, hlength⟩
    exact ⟨hclaims, hlength⟩
  · rintro ⟨hclaims, hlength⟩
    exact ⟨⟨hempty, hclaims⟩, hlength⟩

theorem single_run_audit_iff : ∃ j, runAll Journal.execute singlePlan.journal
      (activateFullRun singlePlan fun _ => ⟨"t", none⟩) = .ok j ∧
    (auditProjections j = .ok [] ↔
      (∀ op ∈ ([] : List JournalOperation), ∀ c, op ≠ .claim c) ∧
        j.transitions.length ≤ maxReplayTransitions) := by
  obtain ⟨j, hj⟩ := exists_of_isOk (x := runAll Journal.execute singlePlan.journal
    (activateFullRun singlePlan fun _ => ⟨"t", none⟩)) (by decide +kernel)
  exact ⟨j, hj, audit_clean_iff_unclaimed hj rfl (by simp)⟩

/-- The claim inserts the attempt without its initial record, and the replay stops there. -/
theorem claimed_run_fails_audit :
    (runAll Journal.execute singlePlan.journal
        (activateFullRun singlePlan (fun _ => ⟨"t", none⟩) ++ [.claim singleClaim]) >>=
      auditProjections) =
    .error ⟨.projectionIntegrity,
      "transition history does not begin at the authoritative initial state"⟩ := by
  decide +kernel

end Claims

end WebhookConformance
