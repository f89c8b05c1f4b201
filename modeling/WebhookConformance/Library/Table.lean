import Mathlib.Data.List.Nodup

/-! Tables of rows under a primary key. -/

/-- Rows in the order of their insertion, no two of them under one key. -/
structure Table (α : Type) {κ : Type} (key : α → κ) where
  rows : List α
  nodup : (rows.map key).Nodup
  deriving DecidableEq

namespace Table

variable {α κ : Type} {key : α → κ} [DecidableEq κ] {t u : Table α key} {k k' : κ} {r : α}

def empty : Table α key := ⟨[], List.nodup_nil⟩

def find (t : Table α key) (k : κ) : Option α := t.rows.find? fun r => key r = k

/-- Change the row under a key, if there is one, but not its key. -/
def modify (t : Table α key) (k : κ) (f : α → α) (hf : ∀ r, key (f r) = key r) : Table α key where
  rows := t.rows.map fun r => if key r = k then f r else r
  nodup := by
    have hkey : key ∘ (fun r => if key r = k then f r else r) = key := by
      funext r
      simp only [Function.comp_apply]
      split
      · exact hf r
      · rfl
    rw [List.map_map, hkey]
    exact t.nodup

/-- Append a row, unless its key is taken. -/
def insert (t : Table α key) (r : α) : Option (Table α key) :=
  if h : key r ∈ t.rows.map key then none
  else some ⟨t.rows ++ [r], by
    rw [List.map_append, List.map_singleton, List.nodup_append]
    refine ⟨t.nodup, List.nodup_singleton _, ?_⟩
    rintro a ha b hb rfl
    exact h (List.mem_singleton.1 hb ▸ ha)⟩

def erase (t : Table α key) (k : κ) : Table α key where
  rows := t.rows.filter fun r => key r ≠ k
  nodup := (t.nodup.sublist (List.filter_sublist.map key))

theorem find_eq_some : t.find k = some r ↔ r ∈ t.rows ∧ key r = k := by
  constructor
  · intro h
    exact ⟨List.mem_of_find?_eq_some h, by simpa using List.find?_some h⟩
  · rintro ⟨hmem, rfl⟩
    cases hf : t.find (key r) with
    | none => simpa using List.find?_eq_none.1 hf r hmem
    | some other =>
      have hkey : key other = key r := by simpa using List.find?_some hf
      rw [List.inj_on_of_nodup_map t.nodup (List.mem_of_find?_eq_some hf) hmem hkey]

theorem find_eq_none : t.find k = none ↔ ∀ r ∈ t.rows, key r ≠ k := by
  simp [find]

theorem find_of_mem (h : r ∈ t.rows) : t.find (key r) = some r := find_eq_some.2 ⟨h, rfl⟩

theorem find_modify {f : α → α} (hf : ∀ r, key (f r) = key r) :
    (t.modify k f hf).find k' = if k' = k then (t.find k).map f else t.find k' := by
  have hkey : ∀ r, key (if key r = k then f r else r) = key r := by
    intro r
    split
    · exact hf r
    · rfl
  simp only [find, modify, List.find?_map, Function.comp_def, hkey]
  by_cases hk : k' = k
  · subst hk
    rw [if_pos rfl]
    cases hfind : t.rows.find? (fun r => decide (key r = k')) with
    | none => rfl
    | some r => simp [show key r = k' by simpa using List.find?_some hfind]
  · rw [if_neg hk]
    cases hfind : t.rows.find? (fun r => decide (key r = k')) with
    | none => rfl
    | some r =>
      have hr : key r = k' := by simpa using List.find?_some hfind
      simp [hr, hk]

/-- What a change of rows leaves alone can be read off the table as before. -/
theorem map_find_modify {β : Type} {f : α → α} {g : α → β} (hf : ∀ r, key (f r) = key r)
    (hg : ∀ r, g (f r) = g r) : ((t.modify k f hf).find k').map g = (t.find k').map g := by
  rw [find_modify hf]
  split
  · next hk =>
    subst hk
    simp [Function.comp_def, hg]
  · rfl

theorem insert_some (h : t.insert r = some u) : u.rows = t.rows ++ [r] ∧ t.find (key r) = none := by
  unfold insert at h
  split at h
  · cases h
  · next hfresh =>
    cases h
    refine ⟨rfl, find_eq_none.2 ?_⟩
    intro other hmem he
    exact hfresh (he ▸ List.mem_map_of_mem hmem)

theorem find_insert (h : t.insert r = some u) :
    u.find k = if k = key r then some r else t.find k := by
  obtain ⟨hrows, hfresh⟩ := insert_some h
  have hu : u.find k = (t.find k).or (if key r = k then some r else none) := by
    simp only [find, hrows, List.find?_append, List.find?_singleton, decide_eq_true_eq]
  rw [hu]
  by_cases hk : k = key r
  · subst hk
    simp [hfresh]
  · simp [hk, Ne.symm hk]

theorem find_insert_of_some {old : α} (h : t.insert r = some u) (hold : t.find k = some old) :
    u.find k = some old := by
  rw [find_insert h]
  split
  · next hk =>
    rw [hk, (insert_some h).2] at hold
    cases hold
  · exact hold

theorem find_erase : (t.erase k).find k' = if k' = k then none else t.find k' := by
  by_cases hk : k' = k
  · subst hk
    rw [if_pos rfl, find_eq_none]
    intro r hr
    simpa using (List.mem_filter.1 hr).2
  · rw [if_neg hk]
    cases hfind : t.find k' with
    | none =>
      rw [find_eq_none] at hfind ⊢
      exact fun r hr => hfind r (List.mem_filter.1 hr).1
    | some r =>
      obtain ⟨hmem, rfl⟩ := find_eq_some.1 hfind
      exact find_eq_some.2 ⟨List.mem_filter.2 ⟨hmem, by simpa using hk⟩, rfl⟩

end Table
