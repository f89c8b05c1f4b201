import Mathlib.Logic.Basic

/-! Programs over a state that return, raise or are cancelled, and rules of pre- and postconditions
for them. The state survives an exception and a cancellation. -/

/-- How a program ends. -/
inductive Program.Exit (ε α : Type) where
  | returned (value : α)
  | raised (error : ε)
  | cancelled
  deriving DecidableEq, Repr

def Program (σ ε α : Type) : Type := σ → Program.Exit ε α × σ

namespace Program

variable {σ ε ε' α β : Type}

/-- The value that was returned, if one was. -/
def Exit.toOption : Exit ε α → Option α
  | .returned a => some a
  | _ => none

theorem Exit.toOption_eq_some {x : Exit ε α} {a : α} : x.toOption = some a ↔ x = .returned a := by
  cases x <;> simp [toOption]

def bind (x : Program σ ε α) (f : α → Program σ ε β) : Program σ ε β := fun s =>
  match x s with
  | (.returned a, s') => f a s'
  | (.raised e, s') => (.raised e, s')
  | (.cancelled, s') => (.cancelled, s')

instance : Monad (Program σ ε) where
  pure a := fun s => (.returned a, s)
  bind := bind

def raise (e : ε) : Program σ ε α := fun s => (.raised e, s)

def update (f : σ → σ) : Program σ ε Unit := fun s => (.returned (), f s)

/-- `try … except`: the handler sees the state that the exception left. -/
def handle (x : Program σ ε α) (h : ε → Program σ ε' α) : Program σ ε' α := fun s =>
  match x s with
  | (.returned a, s') => (.returned a, s')
  | (.raised e, s') => h e s'
  | (.cancelled, s') => (.cancelled, s')

/-- `try … finally`, for a clean-up that neither raises nor is cancelled. -/
def cleanUp (x : Program σ ε α) (f : σ → σ) : Program σ ε α := fun s => ((x s).1, f (x s).2)

/-- A deadline around a program: its cancellation ends here. -/
def onCancelled (x : Program σ ε α) (h : Program σ ε α) : Program σ ε α := fun s =>
  match x s with
  | (.returned a, s') => (.returned a, s')
  | (.raised e, s') => (.raised e, s')
  | (.cancelled, s') => h s'

/-- From a state with the first property the program ends with the second one. -/
def Triple (P : σ → Prop) (x : Program σ ε α) (Q : Exit ε α → σ → Prop) : Prop :=
  ∀ s, P s → Q (x s).1 (x s).2

namespace Triple

variable {P P' : σ → Prop} {Q : Exit ε α → σ → Prop} {R : Exit ε β → σ → Prop}
  {x : Program σ ε α}

theorem weaken {Q' : Exit ε α → σ → Prop} (h : Triple P x Q) (hP : ∀ s, P' s → P s)
    (hQ : ∀ o s, Q o s → Q' o s) : Triple P' x Q' := by
  intro s hs
  exact hQ _ _ (h s (hP s hs))

theorem pure {a : α} (h : ∀ s, P s → Q (.returned a) s) :
    Triple P (Pure.pure a : Program σ ε α) Q := h

theorem raise {e : ε} (h : ∀ s, P s → Q (.raised e) s) : Triple P (Program.raise e) Q := h

theorem update {f : σ → σ} {R : Exit ε Unit → σ → Prop} (h : ∀ s, P s → R (.returned ()) (f s)) :
    Triple P (Program.update f) R := h

theorem bind {f : α → Program σ ε β} (hx : Triple P x Q)
    (hf : ∀ a, Triple (Q (.returned a)) (f a) R) (hraised : ∀ e s, Q (.raised e) s → R (.raised e) s)
    (hcancelled : ∀ s, Q .cancelled s → R .cancelled s) : Triple P (x >>= f) R := by
  intro s hs
  have h := hx s hs
  change R (Program.bind x f s).1 (Program.bind x f s).2
  unfold Program.bind
  split
  · next hrun =>
    rw [hrun] at h
    exact hf _ _ h
  · next hrun =>
    rw [hrun] at h
    exact hraised _ _ h
  · next hrun =>
    rw [hrun] at h
    exact hcancelled _ h

theorem handle {h : ε → Program σ ε' α} {R : Exit ε' α → σ → Prop} (hx : Triple P x Q)
    (hh : ∀ e, Triple (Q (.raised e)) (h e) R)
    (hreturned : ∀ a s, Q (.returned a) s → R (.returned a) s)
    (hcancelled : ∀ s, Q .cancelled s → R .cancelled s) : Triple P (Program.handle x h) R := by
  intro s hs
  have hq := hx s hs
  unfold Program.handle
  split
  · next hrun =>
    rw [hrun] at hq
    exact hreturned _ _ hq
  · next hrun =>
    rw [hrun] at hq
    exact hh _ _ hq
  · next hrun =>
    rw [hrun] at hq
    exact hcancelled _ hq

theorem cleanUp {f : σ → σ} {R : Exit ε α → σ → Prop} (hx : Triple P x Q)
    (h : ∀ o s, Q o s → R o (f s)) : Triple P (Program.cleanUp x f) R := by
  intro s hs
  exact h _ _ (hx s hs)

theorem onCancelled {h : Program σ ε α} {R : Exit ε α → σ → Prop} (hx : Triple P x Q)
    (hh : Triple (Q .cancelled) h R) (hreturned : ∀ a s, Q (.returned a) s → R (.returned a) s)
    (hraised : ∀ e s, Q (.raised e) s → R (.raised e) s) :
    Triple P (Program.onCancelled x h) R := by
  intro s hs
  have hq := hx s hs
  unfold Program.onCancelled
  split
  · next hrun =>
    rw [hrun] at hq
    exact hreturned _ _ hq
  · next hrun =>
    rw [hrun] at hq
    exact hraised _ _ hq
  · next hrun =>
    rw [hrun] at hq
    exact hh _ hq

end Triple

/-- A program that keeps a property of the state however it ends, and whose errors and values are
of a kind. -/
def Yields (I : σ → Prop) (E : ε → Prop) (V : α → Prop) (x : Program σ ε α) : Prop :=
  Triple I x fun exit s => I s ∧ match exit with
    | .returned a => V a
    | .raised e => E e
    | .cancelled => True

namespace Yields

variable {I : σ → Prop} {E : ε → Prop} {E' : ε' → Prop} {V : α → Prop} {V' : β → Prop}
  {x y : Program σ ε α}

theorem pure {a : α} (ha : V a) : Yields I E V (Pure.pure a : Program σ ε α) :=
  Triple.pure fun _ h => ⟨h, ha⟩

theorem raise {e : ε} (he : E e) : Yields I E V (Program.raise e : Program σ ε α) :=
  Triple.raise fun _ h => ⟨h, he⟩

theorem bind {f : α → Program σ ε β} (hx : Yields I E V x)
    (hf : ∀ a, V a → Yields I E V' (f a)) : Yields I E V' (x >>= f) :=
  Triple.bind hx (fun a s hs => hf a hs.2 s hs.1) (fun _ _ h => h) fun _ h => h

theorem handle {h : ε → Program σ ε' α} (hx : Yields I E V x)
    (hh : ∀ e, E e → Yields I E' V (h e)) : Yields I E' V (Program.handle x h) :=
  Triple.handle hx (fun e s hs => hh e hs.2 s hs.1) (fun _ _ h => h) fun _ h => h

theorem ite {p : Prop} [Decidable p] (hx : p → Yields I E V x) (hy : ¬ p → Yields I E V y) :
    Yields I E V (if p then x else y) := by
  split
  · exact hx ‹_›
  · exact hy ‹_›

end Yields

/-- A program that keeps a property of the state, however it ends. -/
def Keeps (I : σ → Prop) (x : Program σ ε α) : Prop := Triple I x fun _ => I

namespace Keeps

variable {I : σ → Prop} {x y : Program σ ε α}

theorem yields : Keeps I x ↔ Yields I (fun _ => True) (fun _ => True) x := by
  constructor
  · intro h s hs
    refine ⟨h s hs, ?_⟩
    split <;> trivial
  · intro h s hs
    exact (h s hs).1

theorem pure {a : α} : Keeps I (Pure.pure a : Program σ ε α) := yields.2 (.pure trivial)

theorem bind {f : α → Program σ ε β} (hx : Keeps I x) (hf : ∀ a, Keeps I (f a)) :
    Keeps I (x >>= f) :=
  yields.2 ((yields.1 hx).bind fun a _ => yields.1 (hf a))

end Keeps

theorem Yields.keeps {I : σ → Prop} {E : ε → Prop} {V : α → Prop} {x : Program σ ε α}
    (h : Yields I E V x) : Keeps I x := fun s hs => (h s hs).1

end Program
