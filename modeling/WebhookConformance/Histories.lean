import WebhookConformance.Audit
import WebhookConformance.Ownership

/-! The history of a run: what its records say about each entity after any sequence of
transactions, failed ones among them. -/
namespace WebhookConformance

open Checked Ledger

variable {j j' j'' : Journal} {key : EntityKey} {s : LifecycleState}

section Terminal

def LifecycleState.terminal : LifecycleState → Bool
  | .run s => s.terminal
  | .scenario s => s.terminal
  | .delivery s => s.terminal
  | .attempt s => s.terminal
  | .observation s => s.terminal
  | .assertion s => s.terminal

theorem no_edge_of_terminal (h : s.terminal = true) (t : LifecycleState) :
    transitionAllowed s t = false := by
  cases s <;> cases t <;> first | rfl | exact decide_eq_false (terminal_no_edge h)

theorem initialState_not_terminal (type : EntityType) : (initialState type).terminal = false := by
  cases type <;> decide

end Terminal

section Invariant

/-- A record follows an edge of its entity's machine, or says where the machine starts. -/
def TransitionRecord.FollowsEdge (r : TransitionRecord) : Prop :=
  match r.fromState with
  | none => r.toState = initialState r.key.entityType
  | some s => transitionAllowed s r.toState = true

def Journal.entries (j : Journal) (key : EntityKey) : List (Entry EntityKey LifecycleState) :=
  (j.history key).map TransitionRecord.entry

/-- What holds in every journal: the projection of an entity is where its records lead. They are
linked, but the first one may start at the initial state without a record of it. -/
structure Grounded (j : Journal) : Prop where
  sequences : j.transitions.map TransitionRecord.sequence = List.range' 1 j.transitions.length
  chronicle : Chronicle j.transitions
  edges : ∀ r ∈ j.transitions, r.FollowsEdge
  reached : ∀ key s, j.state key = some s →
    Ledger.reached (some (initialState key.entityType)) (j.entries key) = some s
  linked : ∀ key, Linked none (j.entries key) ∨
    Linked (some (initialState key.entityType)) (j.entries key)
  known : ∀ r ∈ j.transitions, (j.state r.key).isSome

/-- Every entity's records start with the one of its initial state. -/
def Rooted (j : Journal) : Prop := ∀ key, Linked none (j.entries key)

/-- Terminal entities stay as they are. -/
def Settled (j j' : Journal) : Prop :=
  ∀ key s, j.state key = some s → s.terminal = true →
    j'.state key = some s ∧ j'.history key = j.history key

theorem Settled.refl (j : Journal) : Settled j j := fun _ _ hs _ => ⟨hs, rfl⟩

theorem Settled.trans (h : Settled j j') (h' : Settled j' j'') : Settled j j'' := by
  intro key s hs ht
  obtain ⟨hs', heq⟩ := h key s hs ht
  obtain ⟨hs'', heq'⟩ := h' key s hs' ht
  exact ⟨hs'', heq'.trans heq⟩

theorem nextSequence_range (n : Nat) : nextSequence (List.range' 1 n) = n + 1 := by
  have hle : ∀ xs : List Nat, (∀ x ∈ xs, x ≤ n) → xs.foldr max 0 ≤ n := by
    intro xs
    induction xs with
    | nil => simp
    | cons x xs ih =>
      intro h
      rw [List.foldr_cons]
      exact max_le (h x List.mem_cons_self) (ih fun y hy => h y (List.mem_cons_of_mem x hy))
  have hupper : nextSequence (List.range' 1 n) ≤ n + 1 := by
    refine Nat.succ_le_succ (hle _ fun x hx => ?_)
    have := List.mem_range'_1.1 hx
    omega
  cases n with
  | zero => rfl
  | succ n =>
    have hlast : n + 1 ∈ List.range' 1 (n + 1) := List.mem_range'_1.2 (by omega)
    have := lt_nextSequence hlast
    omega

/-- A bootstrapped run starts everywhere at the start. -/
theorem bootstrap_initial {plan : BootstrapPlan} (h : plan.journal.state key = some s) :
    s = initialState key.entityType := by
  obtain ⟨type, id⟩ := key
  cases type with
  | run =>
    simp only [Journal.state] at h
    split at h
    · exact (Option.some.inj h).symm
    · cases h
  | scenario =>
    obtain ⟨row, hrow, rfl⟩ := Option.map_eq_some_iff.1 h
    rw [plan.scenarios_pending row (Table.find_eq_some.1 hrow).1]
    rfl
  | delivery =>
    obtain ⟨row, hrow, rfl⟩ := Option.map_eq_some_iff.1 h
    rw [plan.deliveries_pending row (Table.find_eq_some.1 hrow).1]
    rfl
  | assertion =>
    obtain ⟨row, hrow, rfl⟩ := Option.map_eq_some_iff.1 h
    rw [plan.assertions_pending row (Table.find_eq_some.1 hrow).1]
    rfl
  | attempt => cases h
  | observation => cases h

theorem grounded_bootstrap (plan : BootstrapPlan) : Grounded plan.journal where
  sequences := rfl
  chronicle := chronicle_nil
  edges := by simp [BootstrapPlan.journal]
  reached key s hs := by rw [bootstrap_initial hs]; rfl
  linked _ := Or.inl trivial
  known := by simp [BootstrapPlan.journal]

end Invariant

section Commit

variable {op : TransitionOperation}

theorem Written.entries_self (hw : Written j op j') :
    j'.entries op.command.key = j.entries op.command.key ++
      [⟨op.command.key, op.command.expectedState, op.command.newState⟩] := by
  simp [Journal.entries, Journal.history, hw.transitions, recordFromCommand, TransitionRecord.entry]

theorem Written.history_other (hw : Written j op j') (hkey : key ≠ op.command.key) :
    j'.history key = j.history key := by
  simp [Journal.history, hw.transitions, recordFromCommand, Ne.symm hkey]

theorem entries_eq_nil : j.entries key = [] ↔ j.history key = [] := List.map_eq_nil_iff

/-- A transition starts where the records of its entity have led. -/
theorem Grounded.source (h : Grounded j) (ha : Accepted j op) {old : LifecycleState}
    (hold : op.command.expectedState = some old) :
    Ledger.reached (some (initialState op.command.key.entityType)) (j.entries op.command.key) =
      op.command.expectedState := by
  obtain ⟨hnone, -⟩ | ⟨old', hold', hstate, -⟩ := ha.edge_cases
  · rw [hold] at hnone
    cases hnone
  · rw [hold']
    exact h.reached _ _ hstate

theorem Grounded.commit (h : Grounded j) (ha : Accepted j op) (hw : Written j op j') :
    Grounded j' := by
  have hstate : ∀ key, j'.state key =
      if key = op.command.key then some op.command.newState else j.state key := fun _ => hw.state ha
  have hother : ∀ key, key ≠ op.command.key → j'.entries key = j.entries key := by
    intro key hkey
    rw [Journal.entries, hw.history_other hkey]
    rfl
  refine ⟨?_, h.chronicle.snoc ha hw, ?_, ?_, ?_, ?_⟩
  · rw [hw.transitions, List.map_append, h.sequences, nextSequence_range, List.length_append,
      List.length_singleton, List.range'_concat]
    simp [recordFromCommand, Nat.add_comm]
  · intro r hr
    rw [hw.transitions] at hr
    obtain hr | hr := List.mem_append.1 hr
    · exact h.edges r hr
    · obtain rfl := List.mem_singleton.1 hr
      obtain ⟨hnone, hnew, -⟩ | ⟨old, hold, -, hallowed⟩ := ha.edge_cases
      · simp only [TransitionRecord.FollowsEdge, recordFromCommand, hnone]
        exact hnew
      · simp only [TransitionRecord.FollowsEdge, recordFromCommand, hold]
        exact hallowed
  · intro key s hs
    rw [hstate] at hs
    split at hs
    · next hkey =>
      subst hkey
      rw [hw.entries_self, reached_snoc]
      exact hs
    · next hkey =>
      rw [hother key hkey]
      exact h.reached key s hs
  · intro key
    by_cases hkey : key = op.command.key
    · subst hkey
      rw [hw.entries_self, linked_snoc, linked_snoc]
      obtain ⟨hnone, -, -, hempty⟩ | ⟨old, hold, hstate, -⟩ := ha.edge_cases
      · rw [entries_eq_nil.2 hempty]
        exact Or.inl ⟨trivial, hnone⟩
      · have hsource := h.source ha hold
        by_cases hempty : j.entries op.command.key = []
        · refine Or.inr ⟨by rw [hempty]; trivial, hsource.symm⟩
        · refine (h.linked op.command.key).imp (fun hl => ⟨hl, ?_⟩) fun hl => ⟨hl, hsource.symm⟩
          rw [reached_of_ne_nil none _ hempty]
          exact hsource.symm
    · rw [hother key hkey]
      exact h.linked key
  · intro r hr
    rw [hstate]
    split
    · rfl
    · next hkey =>
      rw [hw.transitions] at hr
      obtain hr | hr := List.mem_append.1 hr
      · exact h.known r hr
      · rw [List.mem_singleton.1 hr] at hkey
        exact absurd rfl hkey

/-- The first record of an entity decides whether its history is rooted. -/
theorem rooted_commit_iff (h : Grounded j) (ha : Accepted j op) (hw : Written j op j') :
    Rooted j' ↔
      Rooted j ∧ (op.command.expectedState = none ∨ j.history op.command.key ≠ []) := by
  have hother : ∀ key, key ≠ op.command.key → (Linked none (j'.entries key) ↔
      Linked none (j.entries key)) := by
    intro key hkey
    rw [Journal.entries, hw.history_other hkey]
    rfl
  have hself : Linked none (j'.entries op.command.key) ↔ Linked none (j.entries op.command.key) ∧
      (op.command.expectedState = none ∨ j.history op.command.key ≠ []) := by
    rw [hw.entries_self, linked_snoc, Ne, ← entries_eq_nil]
    refine and_congr_right fun _ => ?_
    by_cases hempty : j.entries op.command.key = []
    · simp [hempty, Ledger.reached]
    · obtain ⟨-, -, -, hnil⟩ | ⟨old, hold, -⟩ := ha.edge_cases
      · exact absurd (entries_eq_nil.2 hnil) hempty
      · rw [reached_of_ne_nil none _ hempty, h.source ha hold]
        simp [hempty]
  constructor
  · intro hroot
    refine ⟨fun key => ?_, (hself.1 (hroot _)).2⟩
    by_cases hkey : key = op.command.key
    · rw [hkey]
      exact (hself.1 (hroot _)).1
    · exact (hother key hkey).1 (hroot key)
  · rintro ⟨hroot, hopens⟩ key
    by_cases hkey : key = op.command.key
    · rw [hkey]
      exact hself.2 ⟨hroot _, hopens⟩
    · exact (hother key hkey).2 (hroot key)

theorem settled_commit (ha : Accepted j op) (hw : Written j op j') : Settled j j' := by
  intro key s hs hterminal
  have hkey : key ≠ op.command.key := by
    rintro rfl
    obtain ⟨-, hnew, hstate, -⟩ | ⟨old, -, hstate, hallowed⟩ := ha.edge_cases
    · rw [hstate] at hs
      cases hs
      rw [hnew, initialState_not_terminal] at hterminal
      cases hterminal
    · rw [hstate] at hs
      cases hs
      rw [no_edge_of_terminal hterminal] at hallowed
      cases hallowed
  refine ⟨?_, hw.history_other hkey⟩
  rw [hw.state ha, if_neg hkey]
  exact hs

end Commit

section Quiet

/-- A write without a record: entities keep their states, new ones start at the start. -/
structure Journal.Quiet (j j' : Journal) : Prop where
  transitions : j'.transitions = j.transitions
  kept : ∀ key s, j.state key = some s → j'.state key = some s
  added : ∀ key s, j'.state key = some s →
    j.state key = some s ∨ j.state key = none ∧ s = initialState key.entityType

theorem Journal.Quiet.frame (hstate : ∀ key, j'.state key = j.state key)
    (htransitions : j'.transitions = j.transitions) : j.Quiet j' where
  transitions := htransitions
  kept key _ hs := (hstate key).trans hs
  added key _ hs := Or.inl ((hstate key).symm.trans hs)

theorem Journal.Quiet.insert {k : EntityKey} (hfresh : j.state k = none)
    (hstate : ∀ key, j'.state key =
      if key = k then some (initialState k.entityType) else j.state key)
    (htransitions : j'.transitions = j.transitions) : j.Quiet j' where
  transitions := htransitions
  kept key s hs := by
    rw [hstate, if_neg]
    · exact hs
    · rintro rfl
      rw [hfresh] at hs
      cases hs
  added key s hs := by
    rw [hstate] at hs
    split at hs
    · next hkey =>
      subst hkey
      exact Or.inr ⟨hfresh, (Option.some.inj hs).symm⟩
    · exact Or.inl hs

theorem Journal.Quiet.trans (h : j.Quiet j') (h' : j'.Quiet j'') : j.Quiet j'' where
  transitions := h'.transitions.trans h.transitions
  kept key s hs := h'.kept key s (h.kept key s hs)
  added key s hs := by
    obtain hs' | ⟨hnone, rfl⟩ := h'.added key s hs
    · exact h.added key s hs'
    · refine Or.inr ⟨?_, rfl⟩
      cases hold : j.state key with
      | none => rfl
      | some old =>
        rw [h.kept key old hold] at hnone
        cases hnone

theorem Journal.Quiet.history (h : j.Quiet j') (key : EntityKey) : j'.history key = j.history key := by
  rw [Journal.history, h.transitions]
  rfl

theorem Journal.Quiet.entries (h : j.Quiet j') (key : EntityKey) :
    j'.entries key = j.entries key := by
  rw [Journal.entries, h.history]
  rfl

theorem history_eq_nil_of_unknown (h : Grounded j) (hnone : j.state key = none) :
    j.history key = [] := by
  refine List.filter_eq_nil_iff.2 fun r hr hkey => ?_
  have hsome := h.known r hr
  rw [of_decide_eq_true hkey, hnone] at hsome
  cases hsome

theorem Grounded.quiet (h : Grounded j) (hq : j.Quiet j') : Grounded j' where
  sequences := by rw [hq.transitions]; exact h.sequences
  chronicle := by rw [hq.transitions]; exact h.chronicle
  edges := by rw [hq.transitions]; exact h.edges
  reached key s hs := by
    rw [hq.entries]
    obtain hs | ⟨hnone, rfl⟩ := hq.added key s hs
    · exact h.reached key s hs
    · rw [entries_eq_nil.2 (history_eq_nil_of_unknown h hnone)]
      rfl
  linked key := by rw [hq.entries]; exact h.linked key
  known r hr := by
    rw [hq.transitions] at hr
    obtain ⟨s, hs⟩ := Option.isSome_iff_exists.1 (h.known r hr)
    exact Option.isSome_iff_exists.2 ⟨s, hq.kept _ s hs⟩

theorem quiet_insertAttempt {row : AttemptRow} (hrow : row.state = .scheduled)
    (h : insertAttempt j row = .ok j') : j.Quiet j' := by
  obtain ⟨attempts, hattempts, rfl, -⟩ := insertAttempt_ok h
  refine .insert (k := ⟨.attempt, row.attemptId⟩) ?_ ?_ rfl
  · simp only [Journal.state, (Table.insert_some hattempts).2, Option.map_none]
  · intro key
    rw [state_insertAttempt hattempts, hrow]
    rfl

theorem quiet_insertSeries {c : ObservationSeriesCommand} (h : insertSeries j c = .ok j') :
    j.Quiet j' := by
  obtain ⟨hnone, -, series, hseries, rfl⟩ | rfl := insertSeries_ok h
  · refine .insert (k := ⟨.observation, c.observationId⟩) ?_ (state_insertSeries hseries) rfl
    simp only [Journal.state, hnone, Option.map_none]
  · exact .frame (fun _ => rfl) rfl

theorem quiet_insertRedelivery {epoch : Nat} {r : RedeliveryAttemptPlan}
    (h : insertRedelivery epoch j r = .ok j') : j.Quiet j' := by
  obtain ⟨_, -, h⟩ := bind_ok h
  obtain ⟨inserted, hinserted, h⟩ := bind_ok h
  obtain ⟨schedule, rfl, -⟩ := insertScheduleRow_ok h
  exact (quiet_insertAttempt rfl hinserted).trans (.frame (fun _ => rfl) rfl)

/-- A policy commit of any plan writes no record. -/
theorem quiet_commitPolicy {plan : ResumePolicyPlan} {applied : Bool}
    (h : commitPolicy j plan = .ok (j', applied)) : j.Quiet j' := by
  obtain ⟨_, -, h⟩ := bind_ok h
  split at h
  · obtain ⟨decided, hdecided, h⟩ := bind_ok h
    obtain ⟨redelivered, hredelivered, h⟩ := bind_ok h
    cases pure_ok h
    have hdecisions : j.Quiet decided := by
      refine runAll_invariant (P := j.Quiet) ?_ hdecided (.frame (fun _ => rfl) rfl)
      intro u plan v _ hstep hu
      obtain ⟨decisions, -, hstep⟩ := bind_ok hstep
      cases pure_ok hstep
      exact hu.trans (.frame (fun _ => rfl) rfl)
    refine runAll_invariant (P := j.Quiet) ?_ hredelivered hdecisions
    intro u r v _ hstep hu
    exact hu.trans (quiet_insertRedelivery hstep)
  · obtain ⟨_, -, h⟩ := bind_ok h
    obtain ⟨_, -, h⟩ := bind_ok h
    cases pure_ok h
    exact .frame (fun _ => rfl) rfl

end Quiet

section Operations

/-- One stretch of a run: it keeps the invariant and the terminal entities, and the history stays
rooted exactly under `opens`. -/
structure Lawful (j : Journal) (opens : Prop) (j' : Journal) : Prop where
  grounded : Grounded j'
  rooted : Rooted j' ↔ Rooted j ∧ opens
  settled : Settled j j'

variable {opens opens' : Prop}

theorem Lawful.trans (h : Lawful j opens j') (h' : Lawful j' opens' j'') :
    Lawful j (opens ∧ opens') j'' where
  grounded := h'.grounded
  rooted := by rw [h'.rooted, h.rooted, and_assoc]
  settled := h.settled.trans h'.settled

theorem Lawful.congr (h : Lawful j opens j') (hiff : opens ↔ opens') : Lawful j opens' j' := by
  rwa [propext hiff] at h

theorem Grounded.lawful (h : Grounded j) : Lawful j True j := ⟨h, by simp, .refl j⟩

theorem Lawful.quiet (h : Grounded j) (hq : j.Quiet j') : Lawful j True j' where
  grounded := h.quiet hq
  rooted := by simp only [Rooted, hq.entries, and_true]
  settled key s hs _ := ⟨hq.kept key s hs, hq.history key⟩

theorem history_ne_nil {r : TransitionRecord} (hr : r ∈ j.transitions) (hkey : r.key = key) :
    j.history key ≠ [] :=
  List.ne_nil_of_mem (List.mem_filter.2 ⟨hr, decide_eq_true hkey⟩)

variable {op : TransitionOperation} {committed : CommittedTransition}

theorem Lawful.apply (h : Grounded j) (happly : applyTransition j op = .ok (j', committed)) :
    Lawful j (op.command.expectedState = none ∨ j.history op.command.key ≠ []) j' := by
  obtain ⟨existing, hfind, hrepeats, rfl, -⟩ | ⟨ha, hw, -⟩ := applyTransition_ok happly
  · have hkey : existing.key = op.command.key := (congrArg TransitionRecord.key hrepeats).symm
    refine h.lawful.congr (iff_of_true trivial (Or.inr ?_))
    exact history_ne_nil (List.mem_of_find?_eq_some hfind) hkey
  · exact ⟨h.commit ha hw, rooted_commit_iff h ha hw, settled_commit ha hw⟩

theorem applyTransition_recorded (happly : applyTransition j op = .ok (j', committed)) :
    j'.history op.command.key ≠ [] := by
  obtain ⟨existing, hfind, hrepeats, rfl, -⟩ | ⟨-, hw, -⟩ := applyTransition_ok happly
  · exact history_ne_nil (List.mem_of_find?_eq_some hfind)
      (congrArg TransitionRecord.key hrepeats).symm
  · refine history_ne_nil (r := recordFromCommand op.command
      (nextSequence (j.transitions.map TransitionRecord.sequence))) ?_ rfl
    rw [hw.transitions]
    exact List.mem_append_right _ (List.mem_singleton_self _)

/-- An entity that has left its initial state has a record. -/
theorem Lawful.apply_moved (h : Grounded j) (happly : applyTransition j op = .ok (j', committed))
    (hexpected : op.command.expectedState = some s)
    (hmoved : s ≠ initialState op.command.key.entityType) : Lawful j True j' := by
  refine (Lawful.apply h happly).congr (iff_of_true (Or.inr ?_) trivial)
  obtain ⟨existing, hfind, hrepeats, rfl, -⟩ | ⟨ha, -, -⟩ := applyTransition_ok happly
  · exact history_ne_nil (List.mem_of_find?_eq_some hfind)
      (congrArg TransitionRecord.key hrepeats).symm
  · intro hempty
    have hsource := h.source ha hexpected
    rw [entries_eq_nil.2 hempty, hexpected] at hsource
    exact hmoved (Option.some.inj hsource).symm

/-- The entity has a record before anything but its initial record is committed for it. -/
def JournalOperation.Opens (j : Journal) : JournalOperation → Prop
  | .transition op => op.command.expectedState = none ∨ j.history op.command.key ≠ []
  | .claim c => j.history c.transition.key ≠ []
  | _ => True

theorem Lawful.claim {claim : AttemptScheduleClaim} (h : Grounded j)
    (hclaim : claimAttemptSchedule j claim = .ok (j', committed)) :
    Lawful j (j.history claim.transition.key ≠ []) j' := by
  obtain ⟨entry, -, -, -, ⟨-, inserted, hinserted, happly⟩ | ⟨rfl, -, -, existing, hmem, hkey⟩⟩ :=
    claimAttemptSchedule_ok hclaim
  swap
  · exact h.lawful.congr (iff_of_true trivial (history_ne_nil hmem hkey))
  have hconsumed : j.Quiet (consumeSchedule j claim) := .frame (fun _ => rfl) rfl
  have hquiet : j.Quiet inserted := by
    obtain ⟨rfl, -⟩ | ⟨-, hinserted⟩ := insertClaimedAttempt_ok hinserted
    · exact hconsumed
    · exact hconsumed.trans (quiet_insertAttempt rfl hinserted)
  have hfirst := Lawful.quiet h hquiet
  refine (hfirst.trans (Lawful.apply hfirst.grounded happly)).congr ?_
  have hexpected : claim.transition.plain.command.expectedState = some (.attempt .scheduled) :=
    claim.claim_edge.2.1
  rw [hexpected, hquiet.history]
  simp [TransitionCommand.plain]

theorem Lawful.beginSeries {c : ObservationSeriesCommand}
    {committed : CommittedTransition × CommittedTransition} (h : Grounded j)
    (hbegin : WebhookConformance.beginSeries j c = .ok (j', committed)) : Lawful j True j' := by
  obtain ⟨_, -, hbegin⟩ := bind_ok hbegin
  obtain ⟨inserted, hinserted, hbegin⟩ := bind_ok hbegin
  obtain ⟨⟨scheduled, initial⟩, hinitial, hbegin⟩ := bind_ok hbegin
  obtain ⟨⟨running, started⟩, hrunning, hbegin⟩ := bind_ok hbegin
  cases pure_ok hbegin
  have hfirst := Lawful.quiet h (quiet_insertSeries hinserted)
  have hsecond := hfirst.trans (Lawful.apply hfirst.grounded hinitial)
  have hthird := hsecond.trans (Lawful.apply hsecond.grounded hrunning)
  refine hthird.congr (iff_of_true ⟨⟨trivial, Or.inl c.initial_edge.2.1⟩, Or.inr ?_⟩ trivial)
  have hkey : c.runningTransition.plain.command.key = c.initialTransition.plain.command.key := by
    simp only [TransitionCommand.plain, TransitionCommand.key, c.initial_edge.1, c.running_edge.1,
      c.initial_edge.2.2, c.running_edge.2.2.1]
    rfl
  rw [hkey]
  exact applyTransition_recorded hinitial

theorem execute_lawful {op : JournalOperation} (h : Grounded j) (hexecute : j.execute op = .ok j') :
    Lawful j (op.Opens j) j' := by
  cases op with
  | transition op =>
    obtain ⟨_, happly⟩ := map_fst_ok hexecute
    exact Lawful.apply h happly
  | claim claim =>
    obtain ⟨_, hclaim⟩ := map_fst_ok hexecute
    exact Lawful.claim h hclaim
  | rebind attemptId expectedState ownerEpoch =>
    obtain ⟨-, schedule, row, rfl⟩ := rebindRecoverableAttempt_ok hexecute
    exact Lawful.quiet h (.frame state_rebound rfl)
  | beginSeries command =>
    obtain ⟨_, hbegin⟩ := map_fst_ok hexecute
    exact Lawful.beginSeries h hbegin
  | appendSample command =>
    obtain ⟨series, inserted, hinserted, hterminal⟩ := appendSample_ok hexecute
    have hrow : Lawful j True inserted := by
      obtain rfl | ⟨samples, -, rfl⟩ := insertSample_ok hinserted
      · exact h.lawful
      · exact Lawful.quiet h (.frame (fun _ => rfl) rfl)
    obtain rfl | ⟨t, committed, ht, happly⟩ := hterminal
    · exact hrow
    · obtain ⟨-, hexpected, -, -, s, -, hnew⟩ := command.terminal_edge t ht
      refine (hrow.trans (Lawful.apply_moved hrow.grounded happly hexpected ?_)).congr
        (iff_of_true ⟨trivial, trivial⟩ trivial)
      simp [TransitionCommand.plain, TransitionCommand.key, hnew, LifecycleState.entityType,
        initialState]
  | appendEvaluation command =>
    obtain ⟨_, happend⟩ := map_fst_ok hexecute
    obtain ⟨_, -, happend⟩ := bind_ok happend
    obtain ⟨appended, happended, happly⟩ := bind_ok happend
    have hrow : Lawful j True appended := by
      obtain rfl | ⟨evaluations, -, rfl⟩ := appendEvaluationRow_ok happended
      · exact h.lawful
      · exact Lawful.quiet h (.frame (fun _ => rfl) rfl)
    obtain ⟨s, -, hnew⟩ := command.terminal_state
    refine (hrow.trans (Lawful.apply_moved hrow.grounded happly command.terminal_edge.2.1
      ?_)).congr (iff_of_true ⟨trivial, trivial⟩ trivial)
    simp [TransitionCommand.plain, TransitionCommand.key, hnew, LifecycleState.entityType,
      initialState]
  | finalizeRun request =>
    obtain ⟨⟨applied, _⟩, happly, hterminal⟩ := bind_ok hexecute
    obtain ⟨_, -, hterminal⟩ := bind_ok hterminal
    cases pure_ok hterminal
    have happlied : Lawful j True applied := by
      refine Lawful.apply_moved h happly request.completion_edge.1 ?_
      simp [TransitionCommand.plain, TransitionCommand.key, request.completion_edge.2.1,
        LifecycleState.entityType, initialState]
    refine (happlied.trans (Lawful.quiet happlied.grounded ?_)).congr
      (iff_of_true ⟨trivial, trivial⟩ trivial)
    exact .frame (fun _ => rfl) rfl
  | advanceOwnerEpoch old new =>
    obtain ⟨rfl, -⟩ := advanceOwnerEpoch_ok hexecute
    exact Lawful.quiet h (.frame (fun _ => rfl) rfl)
  | commitPolicy plan =>
    obtain ⟨_, hcommit⟩ := map_fst_ok hexecute
    exact Lawful.quiet h (quiet_commitPolicy hcommit)

end Operations

section Runs

variable {ops : List JournalOperation}

/-- Every operation of the run that is not rolled back opens on a record. -/
def OpensRecorded : Journal → List JournalOperation → Prop
  | _, [] => True
  | j, op :: ops => ((∃ j', j.execute op = .ok j') → op.Opens j) ∧ OpensRecorded (j.transact op) ops

theorem transact_lawful (h : Grounded j) (op : JournalOperation) :
    Lawful j ((∃ j', j.execute op = .ok j') → op.Opens j) (j.transact op) := by
  unfold Journal.transact
  cases hexecute : j.execute op with
  | error e => exact h.lawful.congr (by simp)
  | ok j' => exact (execute_lawful h hexecute).congr (by simp)

theorem transactAll_lawful (h : Grounded j) (ops : List JournalOperation) :
    Lawful j (OpensRecorded j ops) (j.transactAll ops) := by
  induction ops generalizing j with
  | nil => exact h.lawful
  | cons op ops ih =>
    have hop := transact_lawful h op
    exact hop.trans (ih hop.grounded)

/-- The records of a run are numbered in commit order under unique ids and keys, each follows an
edge from where the records of its entity had led, and terminal entities are not touched again. -/
structure LedgerLaw (j : Journal) (ops : List JournalOperation) : Prop where
  sequences : (j.transactAll ops).transitions.map TransitionRecord.sequence =
    List.range' 1 (j.transactAll ops).transitions.length
  ids : ((j.transactAll ops).transitions.map TransitionRecord.transitionId).Nodup
  keys : ((j.transactAll ops).transitions.map TransitionRecord.idempotencyKey).Nodup
  linked : ∀ key, Linked none (((j.transactAll ops).history key).map TransitionRecord.entry)
  edges : ∀ r ∈ (j.transactAll ops).transitions, r.FollowsEdge
  terminal : ∀ before after, ops = before ++ after →
    Settled (j.transactAll before) (j.transactAll ops)

/-- The law holds of a run exactly if every entity gets its initial record first. -/
theorem ledger_law_iff (plan : BootstrapPlan) (ops : List JournalOperation) :
    LedgerLaw plan.journal ops ↔ OpensRecorded plan.journal ops := by
  have hplan := grounded_bootstrap plan
  have hrun := transactAll_lawful hplan ops
  have hstart : Rooted plan.journal := fun _ => trivial
  have hrooted : Rooted (plan.journal.transactAll ops) ↔ OpensRecorded plan.journal ops :=
    hrun.rooted.trans (and_iff_right hstart)
  constructor
  · intro hlaw
    exact hrooted.1 hlaw.linked
  · intro hopens
    refine ⟨hrun.grounded.sequences, hrun.grounded.chronicle.ids, hrun.grounded.chronicle.keys,
      hrooted.2 hopens, hrun.grounded.edges, ?_⟩
    rintro before after rfl
    have hbefore := (transactAll_lawful hplan before).grounded
    have hafter := (transactAll_lawful hbefore after).settled
    rwa [Journal.transactAll, Journal.transactAll, ← List.foldl_append] at hafter

/-- The first record of a claimed attempt says where it came from, and nothing says how it got
there. -/
theorem claimed_attempt_unrooted : ¬ LedgerLaw singlePlan.journal
    (activateFullRun singlePlan (fun _ => ⟨"t", none⟩) ++ [.claim singleClaim]) := by
  intro hlaw
  have hlinked := hlaw.linked ⟨.attempt, "attempt"⟩
  have hhistory : ((singlePlan.journal.transactAll (activateFullRun singlePlan
      (fun _ => ⟨"t", none⟩) ++ [.claim singleClaim])).history ⟨.attempt, "attempt"⟩).map
      TransitionRecord.entry =
      [⟨⟨.attempt, "attempt"⟩, some (.attempt .scheduled), .attempt .claimed⟩] := by
    decide +kernel
  rw [hhistory] at hlinked
  cases hlinked.1

end Runs

end WebhookConformance
