import Mathlib.Data.List.Basic

/-! Length-prefixed frames: a sequence of parts, each behind a code of fixed width for its length,
can be taken apart again. -/
namespace Framing

variable {α : Type}

/-- A code of fixed width that tells the lengths up to a bound apart. -/
structure LengthCode (α : Type) where
  write : Nat → List α
  width : Nat
  bound : Nat
  width_pos : 0 < width
  length_write : ∀ n, (write n).length = width
  write_inj : ∀ m n, m ≤ bound → n ≤ bound → write m = write n → m = n

variable (code : LengthCode α)

def frame (part : List α) : List α := code.write part.length ++ part

variable {code} {part other : List α} {parts others : List (List α)}

theorem frame_ne_nil : frame code part ≠ [] := by
  intro h
  have hlength := congrArg List.length (List.append_eq_nil_iff.1 h).1
  rw [code.length_write] at hlength
  have := code.width_pos
  simp only [List.length_nil] at hlength
  omega

/-- The first frame of a text ends where its length says. -/
theorem frame_append_inj {rest tail : List α} (hpart : part.length ≤ code.bound)
    (hother : other.length ≤ code.bound)
    (h : frame code part ++ rest = frame code other ++ tail) : part = other ∧ rest = tail := by
  unfold frame at h
  rw [List.append_assoc, List.append_assoc] at h
  obtain ⟨hcode, hbody⟩ :=
    List.append_inj h ((code.length_write _).trans (code.length_write _).symm)
  exact List.append_inj hbody (code.write_inj _ _ hpart hother hcode)

theorem frames_injective (hparts : ∀ p ∈ parts, p.length ≤ code.bound)
    (hothers : ∀ p ∈ others, p.length ≤ code.bound)
    (h : parts.flatMap (frame code) = others.flatMap (frame code)) : parts = others := by
  induction parts generalizing others with
  | nil =>
    cases others with
    | nil => rfl
    | cons q others =>
      rw [List.flatMap_nil, List.flatMap_cons] at h
      exact absurd (List.append_eq_nil_iff.1 h.symm).1 frame_ne_nil
  | cons p parts ih =>
    cases others with
    | nil =>
      rw [List.flatMap_nil, List.flatMap_cons] at h
      exact absurd (List.append_eq_nil_iff.1 h).1 frame_ne_nil
    | cons q others =>
      rw [List.flatMap_cons, List.flatMap_cons] at h
      obtain ⟨rfl, hrest⟩ := frame_append_inj (hparts p (by simp)) (hothers q (by simp)) h
      rw [ih (fun r hr => hparts r (List.mem_cons_of_mem p hr))
        (fun r hr => hothers r (List.mem_cons_of_mem p hr)) hrest]

/-- A frame behind a tag of its own. -/
def taggedFrame (code : LengthCode α) (part : α × List α) : List α := part.1 :: frame code part.2

theorem length_le_taggedFrames {parts : List (α × List α)} {p : α × List α} (h : p ∈ parts) :
    p.2.length ≤ (parts.flatMap (taggedFrame code)).length := by
  have hframe : p.2.length ≤ (taggedFrame code p).length := by
    rw [taggedFrame, frame, List.length_cons, List.length_append]
    omega
  rw [List.flatMap_def]
  exact Nat.le_trans hframe (List.sublist_flatten_of_mem (List.mem_map_of_mem h)).length_le

theorem taggedFrames_injective {parts others : List (α × List α)}
    (hparts : ∀ p ∈ parts, p.2.length ≤ code.bound)
    (hothers : ∀ p ∈ others, p.2.length ≤ code.bound)
    (h : parts.flatMap (taggedFrame code) = others.flatMap (taggedFrame code)) :
    parts = others := by
  induction parts generalizing others with
  | nil =>
    cases others with
    | nil => rfl
    | cons q others => cases h
  | cons p parts ih =>
    cases others with
    | nil => cases h
    | cons q others =>
      obtain ⟨htag, hrest⟩ := List.cons.inj h
      obtain ⟨hpart, hrest⟩ := frame_append_inj (hparts p (by simp)) (hothers q (by simp)) hrest
      rw [Prod.ext htag hpart, ih (fun r hr => hparts r (List.mem_cons_of_mem p hr))
        (fun r hr => hothers r (List.mem_cons_of_mem q hr)) hrest]

end Framing
