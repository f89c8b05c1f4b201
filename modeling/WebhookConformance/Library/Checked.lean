import Mathlib.Data.List.Forall2

/-! Peeling checked computations: what a successful `Except` run says about its parts. -/
namespace Checked

instance decidableEqExcept {ε α : Type} [DecidableEq ε] [DecidableEq α] :
    DecidableEq (Except ε α)
  | .error a, .error b => decidable_of_iff (a = b) (by simp)
  | .ok a, .ok b => decidable_of_iff (a = b) (by simp)
  | .error _, .ok _ => isFalse nofun
  | .ok _, .error _ => isFalse nofun

/-- A check of every element of a list is decided on those elements alone, also where their type
is finite. -/
instance (priority := high) decidableForallMem {α : Type} (l : List α) (p : α → Prop)
    [DecidablePred p] : Decidable (∀ x ∈ l, p x) := List.decidableBAll p l

instance (priority := high) decidableExistsMem {α : Type} (l : List α) (p : α → Prop)
    [DecidablePred p] : Decidable (∃ x ∈ l, p x) := List.decidableBEx p l

variable {ε α β σ : Type}

theorem bind_ok {x : Except ε α} {f : α → Except ε β} {b : β} (h : x >>= f = .ok b) :
    ∃ a, x = .ok a ∧ f a = .ok b := by
  cases x with
  | error e => cases h
  | ok a => exact ⟨a, rfl, h⟩

theorem bind_of {x : Except ε α} {f : α → Except ε β} {a : α} {b : β} (hx : x = .ok a)
    (hf : f a = .ok b) : x >>= f = .ok b := by
  rw [hx]
  exact hf

theorem pure_ok {a b : α} (h : (pure a : Except ε α) = .ok b) : a = b := by
  cases h
  rfl

theorem map_ok {x : Except ε α} {f : α → β} {b : β} (h : x.map f = .ok b) :
    ∃ a, x = .ok a ∧ f a = b := by
  cases x with
  | error e => cases h
  | ok a => exact ⟨a, rfl, Except.ok.inj h⟩

theorem mapError_ok_iff {ε' : Type} {x : Except ε α} {f : ε → ε'} {a : α} :
    x.mapError f = .ok a ↔ x = .ok a := by
  cases x with
  | error e => exact ⟨nofun, nofun⟩
  | ok b =>
    constructor
    · intro h
      cases h
      rfl
    · intro h
      cases h
      rfl

/-- Two continuations that agree on the values the computation can have. -/
theorem bind_congr_ok {x : Except ε α} {f g : α → Except ε β} (h : ∀ a, x = .ok a → f a = g a) :
    x >>= f = x >>= g := by
  cases x with
  | error e => rfl
  | ok a => exact h a rfl

/-- Go on only under a condition. -/
def require (p : Prop) [Decidable p] (e : ε) : Except ε Unit := if p then .ok () else .error e

theorem require_ok {p : Prop} [Decidable p] {e : ε} {u : Unit} (h : require p e = .ok u) : p := by
  unfold require at h
  split at h
  · assumption
  · cases h

theorem require_of {p : Prop} [Decidable p] {e : ε} (h : p) : require p e = .ok () := if_pos h

theorem bind_ok_iff {x : Except ε α} {f : α → Except ε β} {b : β} :
    x >>= f = .ok b ↔ ∃ a, x = .ok a ∧ f a = .ok b := by
  constructor
  · exact bind_ok
  · rintro ⟨a, hx, hf⟩
    exact bind_of hx hf

theorem require_ok_iff {p : Prop} [Decidable p] {e : ε} {u : Unit} :
    require p e = .ok u ↔ p := by
  constructor
  · exact require_ok
  · exact require_of

theorem require_bind_ok {p : Prop} [Decidable p] {e : ε} {x : Except ε β} {b : β} :
    (do require p e; x) = .ok b ↔ p ∧ x = .ok b := by
  rw [bind_ok_iff]
  constructor
  · rintro ⟨u, hp, hx⟩
    exact ⟨require_ok hp, hx⟩
  · rintro ⟨hp, hx⟩
    exact ⟨(), require_of hp, hx⟩

theorem exists_of_isOk {x : Except ε α} (h : x.isOk = true) : ∃ a, x = .ok a := by
  cases x with
  | error e => cases h
  | ok a => exact ⟨a, rfl⟩

/-- Whatever error the computation ends with has the property. -/
def Raises (P : ε → Prop) (x : Except ε α) : Prop := ∀ e, x = .error e → P e

section Raises

variable {P : ε → Prop}

theorem raises_ok {a : α} : Raises P (.ok a : Except ε α) := by
  intro e h
  cases h

theorem raises_error {e : ε} : Raises P (.error e : Except ε α) ↔ P e := by
  constructor
  · intro h
    exact h e rfl
  · intro h e' he
    cases he
    exact h

theorem raises_bind {x : Except ε α} {f : α → Except ε β} :
    Raises P (x >>= f) ↔ Raises P x ∧ ∀ a, x = .ok a → Raises P (f a) := by
  cases x with
  | error e =>
    refine ⟨fun h => ⟨fun e' he => h e' ?_, fun a ha => by cases ha⟩, fun h e' he => h.1 e' ?_⟩
    · cases he
      rfl
    · cases he
      rfl
  | ok a =>
    refine ⟨fun h => ⟨raises_ok, fun b hb => ?_⟩, fun h => h.2 a rfl⟩
    cases hb
    exact h

theorem raises_ite {p : Prop} [Decidable p] {x y : Except ε α} (hx : p → Raises P x)
    (hy : ¬ p → Raises P y) : Raises P (if p then x else y) := by
  split
  · exact hx ‹_›
  · exact hy ‹_›

theorem raises_require {p : Prop} [Decidable p] {e : ε} (h : ¬ p → P e) :
    Raises P (require p e) :=
  raises_ite (fun _ => raises_ok) fun hp => raises_error.2 (h hp)

theorem raises_mapM {f : α → Except ε β} {xs : List α} (h : ∀ x ∈ xs, Raises P (f x)) :
    Raises P (xs.mapM f) := by
  induction xs with
  | nil => exact raises_ok
  | cons x xs ih =>
    rw [List.mapM_cons, raises_bind]
    refine ⟨h x (by simp), fun y _ => ?_⟩
    rw [raises_bind]
    exact ⟨ih fun z hz => h z (List.mem_cons_of_mem x hz), fun ys _ => raises_ok⟩

end Raises

/-- A checked map succeeds exactly when each element does. -/
theorem mapM_ok_iff {f : α → Except ε β} {xs : List α} {ys : List β} :
    xs.mapM f = .ok ys ↔ List.Forall₂ (fun x y => f x = .ok y) xs ys := by
  induction xs generalizing ys with
  | nil =>
    rw [List.mapM_nil, List.forall₂_nil_left_iff]
    exact ⟨fun h => (pure_ok h).symm, fun h => h ▸ rfl⟩
  | cons x xs ih =>
    rw [List.mapM_cons]
    constructor
    · intro h
      obtain ⟨y, hy, h⟩ := bind_ok h
      obtain ⟨zs, hzs, h⟩ := bind_ok h
      cases pure_ok h
      exact .cons hy (ih.mp hzs)
    · intro h
      cases h with
      | cons hy hzs =>
        rw [hy, ih.mpr hzs]
        rfl

theorem forM_ok_iff {f : α → Except ε Unit} {xs : List α} :
    xs.forM f = .ok () ↔ ∀ x ∈ xs, f x = .ok () := by
  induction xs with
  | nil => exact ⟨fun _ => nofun, fun _ => rfl⟩
  | cons x xs ih =>
    rw [List.forall_mem_cons, ← ih]
    constructor
    · intro h
      obtain ⟨u, hx, h⟩ := bind_ok h
      exact ⟨hx, h⟩
    · rintro ⟨hx, h⟩
      exact bind_of hx h

theorem exists_getElem?_right {R : α → β → Prop} {xs : List α} {ys : List β}
    (h : List.Forall₂ R xs ys) {n : Nat} {y : β} (hy : ys[n]? = some y) :
    ∃ x, xs[n]? = some x ∧ R x y := by
  induction h generalizing n with
  | nil => simp at hy
  | @cons a _ _ _ hr _ ih =>
    cases n with
    | zero =>
      cases hy
      exact ⟨a, rfl, hr⟩
    | succ n => exact ih (by simpa using hy)

theorem exists_of_mem_right {R : α → β → Prop} {xs : List α} {ys : List β}
    (h : List.Forall₂ R xs ys) {y : β} (hy : y ∈ ys) : ∃ x ∈ xs, R x y := by
  obtain ⟨n, hn⟩ := List.getElem?_of_mem hy
  obtain ⟨x, hx, hr⟩ := exists_getElem?_right h hn
  exact ⟨x, List.mem_of_getElem? hx, hr⟩

theorem forall₂_imp_mem {R S : α → β → Prop} {xs : List α} {ys : List β}
    (h : List.Forall₂ R xs ys) (himp : ∀ x y, x ∈ xs → R x y → S x y) : List.Forall₂ S xs ys := by
  induction h with
  | nil => exact .nil
  | cons hr _ ih =>
    exact .cons (himp _ _ (by simp) hr) (ih fun x y hx => himp x y (List.mem_cons_of_mem _ hx))

theorem exists_of_mem_left {R : α → β → Prop} {xs : List α} {ys : List β}
    (h : List.Forall₂ R xs ys) {x : α} (hx : x ∈ xs) : ∃ y ∈ ys, R x y :=
  exists_of_mem_right h.flip hx

/-- A relation between two lists carries what holds between the elements of the first over. -/
theorem pairwise_of_forall₂ {R : α → β → Prop} {P : α → α → Prop} {Q : β → β → Prop}
    {xs : List α} {ys : List β} (h : List.Forall₂ R xs ys) (hp : xs.Pairwise P)
    (himp : ∀ x x' y y', R x y → R x' y' → P x x' → Q y y') : ys.Pairwise Q := by
  induction h with
  | nil => exact .nil
  | cons hr hrest ih =>
    rw [List.pairwise_cons] at hp ⊢
    refine ⟨?_, ih hp.2⟩
    intro y' hy'
    obtain ⟨x', hx', hr'⟩ := exists_of_mem_right hrest hy'
    exact himp _ _ _ _ hr hr' (hp.1 x' hx')

theorem mapM_exists {f : α → Except ε β} {xs : List α} (h : ∀ x ∈ xs, ∃ y, f x = .ok y) :
    ∃ ys, xs.mapM f = .ok ys := by
  induction xs with
  | nil => exact ⟨[], rfl⟩
  | cons x xs ih =>
    obtain ⟨y, hy⟩ := h x (by simp)
    obtain ⟨ys, hys⟩ := ih fun z hz => h z (List.mem_cons_of_mem x hz)
    exact ⟨y :: ys, mapM_ok_iff.mpr (.cons hy (mapM_ok_iff.mp hys))⟩

/-- A function with a known result on the arguments it takes. -/
theorem mapM_known_iff {f : α → Except ε β} {known : α → β} {good : α → Prop} {xs : List α}
    {ys : List β} (h : ∀ x ∈ xs, ∀ y, f x = .ok y ↔ good x ∧ y = known x) :
    xs.mapM f = .ok ys ↔ (∀ x ∈ xs, good x) ∧ ys = xs.map known := by
  rw [mapM_ok_iff]
  induction xs generalizing ys with
  | nil => simp
  | cons x xs ih =>
    have htail := fun ys => @ih ys fun z hz => h z (List.mem_cons_of_mem x hz)
    rw [List.forall₂_cons_left_iff, List.forall_mem_cons, List.map_cons]
    constructor
    · rintro ⟨y, zs, hy, hzs, rfl⟩
      obtain ⟨hgood, rfl⟩ := (h x (by simp) y).1 hy
      obtain ⟨hall, rfl⟩ := (htail zs).1 hzs
      exact ⟨⟨hgood, hall⟩, rfl⟩
    · rintro ⟨⟨hgood, hall⟩, rfl⟩
      exact ⟨known x, xs.map known, (h x (by simp) _).2 ⟨hgood, rfl⟩,
        (htail _).2 ⟨hall, rfl⟩, rfl⟩

/-- Run a step function over a list, stopping at the first error. -/
def runAll (step : σ → α → Except ε σ) : σ → List α → Except ε σ
  | s, [] => .ok s
  | s, a :: as => step s a >>= fun t => runAll step t as

variable {step : σ → α → Except ε σ} {s t : σ} {as : List α}

@[simp] theorem runAll_nil : runAll step s [] = .ok s := rfl

theorem runAll_append (as bs : List α) :
    runAll step s (as ++ bs) = runAll step s as >>= fun t => runAll step t bs := by
  induction as generalizing s with
  | nil => rfl
  | cons a as ih =>
    simp only [List.cons_append, runAll]
    cases step s a with
    | error e => rfl
    | ok u => exact ih

/-- What every step preserves, every run preserves. -/
theorem runAll_invariant {P : σ → Prop}
    (hstep : ∀ s a t, a ∈ as → step s a = .ok t → P s → P t)
    (h : runAll step s as = .ok t) (hs : P s) : P t := by
  induction as generalizing s with
  | nil =>
    cases h
    exact hs
  | cons a as ih =>
    obtain ⟨u, hu, h⟩ := bind_ok h
    have hinv := hstep s a u (by simp) hu hs
    exact ih (fun s b t hb => hstep s b t (List.mem_cons_of_mem a hb)) h hinv

end Checked
