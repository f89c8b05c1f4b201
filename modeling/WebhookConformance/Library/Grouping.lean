import Mathlib.Data.List.Nodup
import Mathlib.Data.List.Induction

/-! Grouping a list by a key in order of first appearance, as an insertion-ordered map of lists
does. -/
namespace Grouping

variable {κ α : Type} [DecidableEq κ]

def insertGroup (k : κ) (a : α) : List (κ × List α) → List (κ × List α)
  | [] => [(k, [a])]
  | (k', as) :: rest =>
    if k' = k then (k', as ++ [a]) :: rest else (k', as) :: insertGroup k a rest

def groupInOrder (key : α → κ) (xs : List α) : List (κ × List α) :=
  xs.foldl (fun groups a => insertGroup (key a) a groups) []

theorem mem_keys_insertGroup {k k' : κ} {a : α} {groups : List (κ × List α)} :
    k' ∈ (insertGroup k a groups).map Prod.fst ↔ k' = k ∨ k' ∈ groups.map Prod.fst := by
  induction groups with
  | nil => simp [insertGroup]
  | cons g groups ih =>
    simp only [insertGroup]
    split
    · rename_i he
      subst he
      simp
    · simp only [List.map_cons, List.mem_cons, ih]
      tauto

theorem nodup_keys_insertGroup {k : κ} {a : α} {groups : List (κ × List α)}
    (h : (groups.map Prod.fst).Nodup) : ((insertGroup k a groups).map Prod.fst).Nodup := by
  induction groups with
  | nil => simp [insertGroup]
  | cons g groups ih =>
    rw [List.map_cons, List.nodup_cons] at h
    obtain ⟨hn, h⟩ := h
    simp only [insertGroup]
    split
    · exact List.nodup_cons.mpr ⟨hn, h⟩
    · rename_i hne
      refine List.nodup_cons.mpr ⟨?_, ih h⟩
      rw [mem_keys_insertGroup]
      rintro (he | he)
      · exact hne he
      · exact hn he

/-- A group after one insertion: extended at its own key, new at a fresh one, else as it was. -/
theorem mem_insertGroup {k k' : κ} {a : α} {as : List α} {groups : List (κ × List α)}
    (hnd : (groups.map Prod.fst).Nodup) :
    (k', as) ∈ insertGroup k a groups ↔
      (k' ≠ k ∧ (k', as) ∈ groups) ∨
      (k' = k ∧ ((∃ bs, (k, bs) ∈ groups ∧ as = bs ++ [a]) ∨
        (k ∉ groups.map Prod.fst ∧ as = [a]))) := by
  induction groups with
  | nil => simp [insertGroup]
  | cons g groups ih =>
    rw [List.map_cons, List.nodup_cons] at hnd
    obtain ⟨hn, hnd⟩ := hnd
    obtain ⟨j, js⟩ := g
    have hfresh : ∀ bs, (j, bs) ∉ groups := fun bs hb => hn (List.mem_map.mpr ⟨_, hb, rfl⟩)
    simp only [insertGroup]
    split
    · rename_i he
      subst he
      by_cases hk : k' = j
      · subst hk
        simp [hfresh]
      · simp [hk]
    · rename_i hne
      simp only [List.mem_cons, ih hnd, Prod.mk.injEq, List.map_cons, not_or]
      have hne' : ¬ k = j := fun h => hne h.symm
      by_cases hk : k' = k
      · subst hk
        simp [hne']
      · simp [hk]

theorem foldl_keys_nodup (key : α → κ) (xs : List α) {groups : List (κ × List α)}
    (h : (groups.map Prod.fst).Nodup) :
    ((xs.foldl (fun gs a => insertGroup (key a) a gs) groups).map Prod.fst).Nodup := by
  induction xs generalizing groups with
  | nil => exact h
  | cons x xs ih => exact ih (nodup_keys_insertGroup h)

theorem groupInOrder_keys_nodup (key : α → κ) (xs : List α) :
    ((groupInOrder key xs).map Prod.fst).Nodup :=
  foldl_keys_nodup key xs (by simp)

/-- Each group holds exactly the elements with its key, in their own order. -/
theorem mem_groupInOrder {key : α → κ} {xs : List α} {k : κ} {as : List α} :
    (k, as) ∈ groupInOrder key xs ↔ as = xs.filter (key · = k) ∧ as ≠ [] := by
  induction xs using List.reverseRecOn generalizing k as with
  | nil =>
    simp only [groupInOrder, List.foldl_nil, List.not_mem_nil, List.filter_nil, false_iff]
    exact fun h => h.2 h.1
  | append_singleton xs x ih =>
    have hstep : groupInOrder key (xs ++ [x]) =
        insertGroup (key x) x (groupInOrder key xs) := by
      simp [groupInOrder]
    rw [hstep, mem_insertGroup (groupInOrder_keys_nodup key xs), List.filter_append]
    by_cases hk : k = key x
    · subst hk
      have hkeys : key x ∈ (groupInOrder key xs).map Prod.fst ↔
          xs.filter (key · = key x) ≠ [] := by
        constructor
        · intro hm
          obtain ⟨⟨k, bs⟩, hb, rfl⟩ := List.mem_map.mp hm
          exact (ih.mp hb).1 ▸ (ih.mp hb).2
        · intro hne
          exact List.mem_map.mpr ⟨(_, _), ih.mpr ⟨rfl, hne⟩, rfl⟩
      simp only [ne_eq, not_true, false_and, true_and, false_or, List.filter_cons, decide_true,
        if_true, List.filter_nil, hkeys, not_not]
      constructor
      · rintro (⟨bs, hb, rfl⟩ | ⟨hn, rfl⟩)
        · obtain ⟨rfl, -⟩ := ih.mp hb
          simp
        · simp [hn]
      · rintro ⟨rfl, -⟩
        by_cases hn : xs.filter (key · = key x) = []
        · exact Or.inr ⟨hn, by simp [hn]⟩
        · exact Or.inl ⟨_, ih.mpr ⟨rfl, hn⟩, rfl⟩
    · have hk' : ¬ key x = k := fun h => hk h.symm
      simp [hk, hk', ih]

/-- Every element lies in the group of its key. -/
theorem exists_group {key : α → κ} {xs : List α} {x : α} (hx : x ∈ xs) :
    (key x, xs.filter (key · = key x)) ∈ groupInOrder key xs := by
  refine mem_groupInOrder.mpr ⟨rfl, ?_⟩
  exact List.ne_nil_of_mem (List.mem_filter.mpr ⟨hx, by simp⟩)

end Grouping
