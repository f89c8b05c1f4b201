import WebhookConformance.Library.Checked
import Mathlib.Data.List.AList

/-! Append-only ledgers of state changes: what a log says about each key, and its replay into a
table of current states. -/
namespace Ledger

/-- The state machines behind the keys of a ledger. -/
structure Machine (κ σ : Type) where
  initial : κ → σ
  allows : κ → σ → σ → Bool

/-- One change of the state of a key; a change without a source is its first. -/
structure Entry (κ σ : Type) where
  key : κ
  source : Option σ
  target : σ
  deriving DecidableEq

inductive Fault where
  | notInitial
  | illegalEdge
  deriving DecidableEq, Repr

variable {κ σ : Type} {log : List (Entry κ σ)} {key : κ}

section History

variable [DecidableEq κ]

def history (log : List (Entry κ σ)) (key : κ) : List (Entry κ σ) := log.filter (·.key = key)

@[simp] theorem history_nil : history ([] : List (Entry κ σ)) key = [] := rfl

theorem history_cons_self {e : Entry κ σ} : history (e :: log) e.key = e :: history log e.key := by
  simp [history]

theorem history_cons_other {e : Entry κ σ} (h : e.key ≠ key) :
    history (e :: log) key = history log key := by
  simp [history, h]

theorem history_append (log rest : List (Entry κ σ)) :
    history (log ++ rest) key = history log key ++ history rest key :=
  List.filter_append _ _

theorem history_snoc_other {e : Entry κ σ} (h : e.key ≠ key) :
    history (log ++ [e]) key = history log key := by
  rw [history_append, history_cons_other h, history_nil, List.append_nil]

end History

section Follow

variable [DecidableEq σ] (m : Machine κ σ)

/-- May this change follow in a key whose current state is `current`? -/
def check (key : κ) (current source : Option σ) (target : σ) : Except Fault Unit :=
  match current with
  | none => if source = none ∧ target = m.initial key then .ok () else .error .notInitial
  | some s => if source = some s ∧ m.allows key s target = true then .ok () else .error .illegalEdge

/-- The state that a key's own entries lead to from `current`, if each may follow. -/
def follow (key : κ) (current : Option σ) : List (Entry κ σ) → Except Fault (Option σ)
  | [] => .ok current
  | e :: rest => do
    check m key current e.source e.target
    follow key (some e.target) rest

variable {m} {current state : Option σ}

theorem follow_append (xs ys : List (Entry κ σ)) (current : Option σ) :
    follow m key current (xs ++ ys) = follow m key current xs >>= fun s => follow m key s ys := by
  induction xs generalizing current with
  | nil => rfl
  | cons e xs ih =>
    simp only [List.cons_append, follow]
    cases check m key current e.source e.target with
    | error fault => rfl
    | ok _ => exact ih _

/-- A log extended by an entry that may follow leads to the entry's target. -/
theorem follow_snoc {e : Entry κ σ} (h : follow m key current log = .ok state)
    (hcheck : check m key state e.source e.target = .ok ()) :
    follow m key current (log ++ [e]) = .ok (some e.target) := by
  rw [follow_append, h]
  show (follow m key state [e]) = _
  simp only [follow, hcheck]
  rfl

end Follow

section Linked

/-- Each entry starts where the one before it has led, the first one at `prior`. -/
def Linked : Option σ → List (Entry κ σ) → Prop
  | _, [] => True
  | prior, e :: rest => e.source = prior ∧ Linked (some e.target) rest

/-- Where the entries have led from `prior`. -/
def reached : Option σ → List (Entry κ σ) → Option σ
  | prior, [] => prior
  | _, e :: rest => reached (some e.target) rest

theorem reached_snoc (prior : Option σ) (log : List (Entry κ σ)) (e : Entry κ σ) :
    reached prior (log ++ [e]) = some e.target := by
  induction log generalizing prior with
  | nil => rfl
  | cons _ _ ih => exact ih _

theorem reached_of_ne_nil (prior prior' : Option σ) (h : log ≠ []) :
    reached prior log = reached prior' log := by
  cases log with
  | nil => exact absurd rfl h
  | cons _ _ => rfl

theorem linked_snoc {prior : Option σ} {e : Entry κ σ} :
    Linked prior (log ++ [e]) ↔ Linked prior log ∧ e.source = reached prior log := by
  induction log generalizing prior with
  | nil => simp [Linked, reached]
  | cons first rest ih => simp only [List.cons_append, Linked, reached, ih, and_assoc]

end Linked

section Replay

variable [DecidableEq κ] [DecidableEq σ] (m : Machine κ σ)

def advance (table : AList fun _ : κ => σ) (e : Entry κ σ) : Except Fault (AList fun _ : κ => σ) := do
  check m e.key (table.lookup e.key) e.source e.target
  return table.insert e.key e.target

variable {m} {table final : AList fun _ : κ => σ}

/-- A successful replay has followed each key on its own. -/
theorem follow_of_replay (h : Checked.runAll (advance m) table log = .ok final) (key : κ) :
    follow m key (table.lookup key) (history log key) = .ok (final.lookup key) := by
  induction log generalizing table with
  | nil =>
    cases h
    rfl
  | cons e log ih =>
    obtain ⟨next, hnext, h⟩ := Checked.bind_ok h
    obtain ⟨_, hcheck, hinsert⟩ := Checked.bind_ok hnext
    cases hinsert
    have hrest := ih h
    by_cases hk : e.key = key
    · subst hk
      rw [AList.lookup_insert] at hrest
      rw [history_cons_self, follow, hcheck]
      exact hrest
    · rw [AList.lookup_insert_ne (Ne.symm hk)] at hrest
      rw [history_cons_other hk]
      exact hrest

/-- Keys do not interfere: a log replays as soon as each key's own entries can be followed. -/
theorem replay_exists
    (h : ∀ key, ∃ state, follow m key (table.lookup key) (history log key) = .ok state) :
    ∃ final, Checked.runAll (advance m) table log = .ok final := by
  induction log generalizing table with
  | nil => exact ⟨table, rfl⟩
  | cons e log ih =>
    obtain ⟨state, hstate⟩ := h e.key
    rw [history_cons_self] at hstate
    obtain ⟨_, hcheck, hrest⟩ := Checked.bind_ok hstate
    have hadvance : advance m table e = .ok (table.insert e.key e.target) := by
      rw [advance, hcheck]
      rfl
    have hkeys : ∀ key, ∃ state,
        follow m key ((table.insert e.key e.target).lookup key) (history log key) = .ok state := by
      intro key
      by_cases hk : e.key = key
      · subst hk
        rw [AList.lookup_insert]
        exact ⟨state, hrest⟩
      · rw [AList.lookup_insert_ne (Ne.symm hk)]
        have hkey := h key
        rwa [history_cons_other hk] at hkey
    obtain ⟨final, hfinal⟩ := ih hkeys
    refine ⟨final, ?_⟩
    rw [Checked.runAll, hadvance]
    exact hfinal

end Replay

end Ledger
