import Mathlib.Data.List.Nodup
import Mathlib.Data.List.Induction

/-! Insertion-ordered dictionaries as association lists: assignment keeps the place of a key that
is there and puts a new one last. -/
namespace Assoc

variable {κ β : Type} [DecidableEq κ]

def assign (key : κ) (value : β) : List (κ × β) → List (κ × β)
  | [] => [(key, value)]
  | (k, v) :: rest => if k = key then (k, value) :: rest else (k, v) :: assign key value rest

variable {key other : κ} {value : β} {entries : List (κ × β)}

theorem assign_nil : assign key value [] = [(key, value)] := rfl

theorem assign_cons {k : κ} {v : β} : assign key value ((k, v) :: entries) =
    if k = key then (k, value) :: entries else (k, v) :: assign key value entries := rfl

@[simp] theorem lookup_assign_self : (assign key value entries).lookup key = some value := by
  induction entries with
  | nil => simp [assign_nil]
  | cons e entries ih =>
    obtain ⟨k, v⟩ := e
    simp only [assign_cons]
    split
    · rename_i he
      simp [he]
    · rename_i hne
      rw [List.lookup_cons, beq_false_of_ne (Ne.symm hne)]
      exact ih

theorem lookup_assign_of_ne (h : other ≠ key) :
    (assign key value entries).lookup other = entries.lookup other := by
  induction entries with
  | nil => simp [assign_nil, h]
  | cons e entries ih =>
    obtain ⟨k, v⟩ := e
    simp only [assign_cons]
    split
    · rename_i he
      subst he
      rw [List.lookup_cons, List.lookup_cons, beq_false_of_ne h]
    · rw [List.lookup_cons, List.lookup_cons, ih]

theorem map_fst_assign :
    (assign key value entries).map Prod.fst =
      if key ∈ entries.map Prod.fst then entries.map Prod.fst
      else entries.map Prod.fst ++ [key] := by
  induction entries with
  | nil => simp [assign_nil]
  | cons e entries ih =>
    obtain ⟨k, v⟩ := e
    simp only [assign_cons]
    split
    · rename_i he
      subst he
      simp
    · rename_i hne
      simp only [List.map_cons, ih, List.mem_cons, Ne.symm hne, false_or]
      split <;> simp

theorem nodup_assign (h : (entries.map Prod.fst).Nodup) :
    ((assign key value entries).map Prod.fst).Nodup := by
  rw [map_fst_assign]
  split
  · exact h
  · rename_i hnew
    exact List.nodup_append.mpr ⟨h, List.nodup_singleton key, by
      intro a ha b hb
      rw [List.mem_singleton.mp hb]
      rintro rfl
      exact hnew ha⟩

/-- What an entry after an assignment is. -/
theorem mem_assign (h : (entries.map Prod.fst).Nodup) {e : κ × β} :
    e ∈ assign key value entries ↔ e = (key, value) ∨ (e.1 ≠ key ∧ e ∈ entries) := by
  induction entries with
  | nil => simp [assign_nil]
  | cons d entries ih =>
    obtain ⟨k, v⟩ := d
    rw [List.map_cons, List.nodup_cons] at h
    obtain ⟨hk, h⟩ := h
    simp only [assign_cons]
    split
    · rename_i he
      subst he
      have hother : ∀ e ∈ entries, e.1 ≠ k := by
        intro e he heq
        exact hk (List.mem_map.mpr ⟨e, he, heq⟩)
      simp only [List.mem_cons]
      constructor
      · rintro (rfl | he)
        · exact Or.inl rfl
        · exact Or.inr ⟨hother e he, Or.inr he⟩
      · rintro (rfl | ⟨hne, rfl | he⟩)
        · exact Or.inl rfl
        · exact absurd rfl hne
        · exact Or.inr he
    · rename_i hne
      simp only [List.mem_cons, ih h]
      constructor
      · rintro (rfl | rfl | ⟨he, hm⟩)
        · exact Or.inr ⟨hne, Or.inl rfl⟩
        · exact Or.inl rfl
        · exact Or.inr ⟨he, Or.inr hm⟩
      · rintro (rfl | ⟨he, rfl | hm⟩)
        · exact Or.inr (Or.inl rfl)
        · exact Or.inl rfl
        · exact Or.inr (Or.inr ⟨he, hm⟩)

theorem mem_of_lookup (h : entries.lookup key = some value) : (key, value) ∈ entries := by
  obtain ⟨before, after, rfl, -⟩ := List.lookup_eq_some_iff.mp h
  simp

/-- With unique keys, membership is lookup. -/
theorem lookup_eq_some_iff (h : (entries.map Prod.fst).Nodup) :
    entries.lookup key = some value ↔ (key, value) ∈ entries := by
  refine ⟨mem_of_lookup, fun hmem => ?_⟩
  obtain ⟨before, after, rfl⟩ := List.append_of_mem hmem
  rw [List.map_append, List.nodup_append] at h
  refine List.lookup_eq_some_iff.mpr ⟨before, after, rfl, fun e he => ?_⟩
  have hne := h.2.2 e.1 (List.mem_map_of_mem he) key (by simp)
  simpa using Ne.symm hne

theorem mem_keys_assign : other ∈ (assign key value entries).map Prod.fst ↔
    other = key ∨ other ∈ entries.map Prod.fst := by
  rw [map_fst_assign]
  split
  · rename_i hkey
    exact ⟨Or.inr, fun h => h.elim (fun he => he ▸ hkey) id⟩
  · rw [List.mem_append, List.mem_singleton, or_comm]

/-- After a run of assignments a key holds the value of some assignment to it, if there was one. -/
theorem lookup_foldl_assign {α : Type} {k : α → κ} {v : α → β} {xs : List α} {x : α}
    (hx : x ∈ xs) :
    ∃ y ∈ xs, k y = k x ∧
      (xs.foldl (fun r a => assign (k a) (v a) r) entries).lookup (k x) = some (v y) := by
  induction xs using List.reverseRecOn with
  | nil => cases hx
  | append_singleton xs a ih =>
    rw [List.foldl_append, List.foldl_cons, List.foldl_nil]
    by_cases ha : k a = k x
    · exact ⟨a, by simp, ha, by rw [← ha, lookup_assign_self]⟩
    · rw [lookup_assign_of_ne (Ne.symm ha)]
      rcases List.mem_append.mp hx with hx | hx
      · obtain ⟨y, hy, hkey, hl⟩ := ih hx
        exact ⟨y, List.mem_append_left _ hy, hkey, hl⟩
      · exact absurd (congrArg k (List.mem_singleton.mp hx).symm) ha

end Assoc
