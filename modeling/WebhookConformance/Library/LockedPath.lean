import Mathlib.Tactic.Common

/-! One path of a directory, the files that are or were at it, and the advisory locks on them. Several
agents, each with one descriptor at a time, create, lock and unlink the file. -/

/-- A file is known by its number, which is given again to a new file once the old one is neither at
the path nor open. -/
structure LockedPath (Agent Content : Type) where
  path : Option Nat
  content : Nat → Content
  opened : Agent → Option Nat
  lockedBy : Nat → Option Agent

namespace LockedPath

section Operations

variable {Agent Content : Type} (d : LockedPath Agent Content)

def InUse (i : Nat) : Prop := d.path = some i ∨ ∃ a, d.opened a = some i

def lock (a : Agent) (i : Nat) : LockedPath Agent Content :=
  { d with lockedBy := Function.update d.lockedBy i (some a) }

def unlock (i : Nat) : LockedPath Agent Content :=
  { d with lockedBy := Function.update d.lockedBy i none }

def write (i : Nat) (c : Content) : LockedPath Agent Content :=
  { d with content := Function.update d.content i c }

def unlink : LockedPath Agent Content := { d with path := none }

/-- Descriptors are closed, and the locks go with them. -/
def close (closed : Agent → Bool) : LockedPath Agent Content :=
  { d with
    opened := fun a => if closed a then none else d.opened a
    lockedBy := fun i => (d.lockedBy i).filter (!closed ·) }

variable {d} {i j : Nat} {c : Content}

theorem write_content : (d.write i c).content i = c := Function.update_self ..

theorem write_content_ne (h : j ≠ i) : (d.write i c).content j = d.content j := Function.update_of_ne h ..

variable [DecidableEq Agent] (d)

def openFile (a : Agent) (i : Nat) : LockedPath Agent Content :=
  { d with opened := Function.update d.opened a (some i) }

def create (a : Agent) (i : Nat) (empty : Content) : LockedPath Agent Content :=
  { d with
    path := some i
    content := Function.update d.content i empty
    opened := Function.update d.opened a (some i) }

variable {d}

theorem create_content {a : Agent} : (d.create a i c).content i = c := Function.update_self ..

theorem create_content_ne {a : Agent} (h : j ≠ i) : (d.create a i c).content j = d.content j :=
  Function.update_of_ne h ..

end Operations

/-- What an agent relies on: its descriptor, the file that it has locked, the file that it counts on to
stay at the path, and the file that it may rewrite although it has not put it there. -/
structure View where
  descriptor : Option Nat
  lock : Option Nat
  claim : Option Nat
  approved : Option Nat
  deriving DecidableEq, Repr

/-- Locks are held through descriptors; a claimed file is at the path; nobody else claims it, or may
rewrite it. -/
structure Coherent {Agent Content : Type} (d : LockedPath Agent Content) (view : Agent → View) : Prop where
  opened : ∀ a, d.opened a = (view a).descriptor
  locked : ∀ a i, d.lockedBy i = some a ↔ (view a).lock = some i
  through : ∀ a i, (view a).lock = some i → (view a).descriptor = some i
  under : ∀ a i, (view a).approved = some i → (view a).lock = some i
  linked : ∀ a i, (view a).claim = some i → d.path = some i
  alone : ∀ a b i, (view a).claim = some i → (view b).claim = some i → a = b
  apart : ∀ a b i, (view a).approved = some i → (view b).claim ≠ some i

section Coherence

variable {Agent Content : Type} {d d' : LockedPath Agent Content} {view : Agent → View} {a b : Agent} {i : Nat}
  {v : View}

theorem Coherent.lock_unique (h : Coherent d view) (ha : (view a).lock = some i)
    (hb : (view b).lock = some i) : a = b := by
  have hla := (h.locked a i).2 ha
  have hlb := (h.locked b i).2 hb
  exact Option.some.inj (hla.symm.trans hlb)

theorem Coherent.in_use (h : Coherent d view) (ha : (view a).lock = some i ∨ (view a).claim = some i) :
    d.InUse i := by
  obtain ha | ha := ha
  · exact Or.inr ⟨a, (h.opened a).trans (h.through a i ha)⟩
  · exact Or.inl (h.linked a i ha)

/-- An agent that has locked a file, and claims it or may rewrite it, has it for itself. -/
theorem Coherent.sole (h : Coherent d view) (hlock : (view a).lock = some i)
    (hright : (view a).claim = some i ∨ (view a).approved = some i)
    (hb : (view b).lock = some i ∨ (view b).claim = some i) : a = b := by
  obtain hb | hb := hb
  · exact h.lock_unique hlock hb
  obtain ha | ha := hright
  · exact h.alone a b i ha hb
  · exact absurd hb (h.apart a b i ha)

/-- The rights of an agent over the files do not grow. -/
structure View.Keeps (v old : View) : Prop where
  claim : v.claim = none ∨ v.claim = old.claim
  approved : v.approved = none ∨ v.approved = old.approved

theorem View.Keeps.claimed {old : View} (h : v.Keeps old) (hv : v.claim = some i) : old.claim = some i := by
  obtain hnone | hsame := h.claim
  · rw [hnone] at hv
    cases hv
  · exact hsame.symm.trans hv

theorem View.Keeps.allowed {old : View} (h : v.Keeps old) (hv : v.approved = some i) :
    old.approved = some i := by
  obtain hnone | hsame := h.approved
  · rw [hnone] at hv
    cases hv
  · exact hsame.symm.trans hv

theorem Coherent.write (h : Coherent d view) (i : Nat) (c : Content) : Coherent (d.write i c) view :=
  { h with }

/-- Descriptors are closed by agents that may rewrite nothing any more, and claim nothing new. -/
theorem Coherent.close (h : Coherent d view) {closed : Agent → Bool} {view' : Agent → View}
    (hsame : ∀ a, closed a = false → view' a = view a)
    (hclosed : ∀ a, closed a = true → (view' a).descriptor = none ∧ (view' a).lock = none ∧
      (view' a).Keeps (view a) ∧ (view' a).approved = none) : Coherent (d.close closed) view' := by
  have hclaim : ∀ a i, (view' a).claim = some i → (view a).claim = some i := by
    intro a i ha
    cases hc : closed a with
    | false => rwa [hsame a hc] at ha
    | true => exact (hclosed a hc).2.2.1.claimed ha
  have happroved : ∀ a i, (view' a).approved = some i → closed a = false ∧ (view a).approved = some i := by
    intro a i ha
    cases hc : closed a with
    | false => exact ⟨rfl, by rwa [hsame a hc] at ha⟩
    | true =>
      rw [(hclosed a hc).2.2.2] at ha
      cases ha
  have hlock : ∀ a i, (view' a).lock = some i ↔ closed a = false ∧ (view a).lock = some i := by
    intro a i
    cases hc : closed a with
    | false => simp [hsame a hc]
    | true => simp [(hclosed a hc).2.1]
  refine ⟨?_, ?_, ?_, ?_, ?_, ?_, ?_⟩
  · intro a
    show (if closed a then none else d.opened a) = _
    cases hc : closed a with
    | false => simp [hsame a hc, h.opened a]
    | true => simp [(hclosed a hc).1]
  · intro a i
    show (d.lockedBy i).filter (!closed ·) = some a ↔ _
    rw [hlock, Option.filter_eq_some_iff, h.locked a i]
    simp [and_comm]
  · intro a i ha
    obtain ⟨hc, ha⟩ := (hlock a i).1 ha
    rw [hsame a hc]
    exact h.through a i ha
  · intro a i ha
    obtain ⟨hc, ha⟩ := happroved a i ha
    exact (hlock a i).2 ⟨hc, h.under a i ha⟩
  · intro a i ha
    exact h.linked a i (hclaim a i ha)
  · intro a b i ha hb
    exact h.alone a b i (hclaim a i ha) (hclaim b i hb)
  · intro a b i ha hb
    exact h.apart a b i (happroved a i ha).2 (hclaim b i hb)

variable [DecidableEq Agent]

/-- What is to be seen to when one agent acts: that its new view is right, and that it takes nothing
from the others. -/
structure Acts (d d' : LockedPath Agent Content) (view : Agent → View) (a : Agent) (v : View) : Prop where
  opened : d'.opened a = v.descriptor
  locked : ∀ i, d'.lockedBy i = some a ↔ v.lock = some i
  through : ∀ i, v.lock = some i → v.descriptor = some i
  under : ∀ i, v.approved = some i → v.lock = some i
  linked : ∀ i, v.claim = some i → d'.path = some i
  apart : ∀ i, v.approved = some i → v.claim ≠ some i
  othersOpened : ∀ b, b ≠ a → d'.opened b = d.opened b
  othersLocked : ∀ b, b ≠ a → ∀ i, d'.lockedBy i = some b ↔ d.lockedBy i = some b
  othersLinked : ∀ b, b ≠ a → ∀ i, (view b).claim = some i → d'.path = some i
  othersAlone : ∀ b, b ≠ a → ∀ i, v.claim = some i → (view b).claim ≠ some i
  othersFree : ∀ b, b ≠ a → ∀ i, v.approved = some i → (view b).claim ≠ some i
  othersApart : ∀ b, b ≠ a → ∀ i, (view b).approved = some i → v.claim ≠ some i

theorem Coherent.act (h : Coherent d view) (hacts : Acts d d' view a v) :
    Coherent d' (Function.update view a v) where
  opened := (Function.forall_update_iff view fun b v => d'.opened b = v.descriptor).2
    ⟨hacts.opened, fun b hb => (hacts.othersOpened b hb).trans (h.opened b)⟩
  locked := (Function.forall_update_iff view fun b v => ∀ i, d'.lockedBy i = some b ↔ v.lock = some i).2
    ⟨hacts.locked, fun b hb i => (hacts.othersLocked b hb i).trans (h.locked b i)⟩
  through := (Function.forall_update_iff view fun _ v => ∀ i, v.lock = some i → v.descriptor = some i).2
    ⟨hacts.through, fun b _ => h.through b⟩
  under := (Function.forall_update_iff view fun _ v => ∀ i, v.approved = some i → v.lock = some i).2
    ⟨hacts.under, fun b _ => h.under b⟩
  linked := (Function.forall_update_iff view fun _ v => ∀ i, v.claim = some i → d'.path = some i).2
    ⟨hacts.linked, hacts.othersLinked⟩
  alone := by
    intro b c i hb hc
    by_cases hba : b = a
    · by_cases hca : c = a
      · exact hba.trans hca.symm
      · subst hba
        rw [Function.update_self] at hb
        rw [Function.update_of_ne hca] at hc
        exact absurd hc (hacts.othersAlone c hca i hb)
    · rw [Function.update_of_ne hba] at hb
      by_cases hca : c = a
      · subst hca
        rw [Function.update_self] at hc
        exact absurd hb (hacts.othersAlone b hba i hc)
      · rw [Function.update_of_ne hca] at hc
        exact h.alone b c i hb hc
  apart := by
    intro b c i hb
    by_cases hba : b = a
    · subst hba
      rw [Function.update_self] at hb
      by_cases hca : c = b
      · subst hca
        rw [Function.update_self]
        exact hacts.apart i hb
      · rw [Function.update_of_ne hca]
        exact hacts.othersFree c hca i hb
    · rw [Function.update_of_ne hba] at hb
      by_cases hca : c = a
      · subst hca
        rw [Function.update_self]
        exact hacts.othersApart b hba i hb
      · rw [Function.update_of_ne hca]
        exact h.apart b c i hb

/-- An agent that keeps its rights keeps out of the way of the others. -/
theorem Coherent.acts (h : Coherent d view) (hkeeps : v.Keeps (view a))
    (hopened : d'.opened a = v.descriptor) (hlocked : ∀ i, d'.lockedBy i = some a ↔ v.lock = some i)
    (hthrough : ∀ i, v.lock = some i → v.descriptor = some i)
    (hunder : ∀ i, v.approved = some i → v.lock = some i)
    (hpath : d'.path = d.path) (hothers : ∀ b, b ≠ a → d'.opened b = d.opened b)
    (hothers' : ∀ b, b ≠ a → ∀ i, d'.lockedBy i = some b ↔ d.lockedBy i = some b) :
    Coherent d' (Function.update view a v) := by
  refine h.act ⟨hopened, hlocked, hthrough, hunder, ?_, ?_, hothers, hothers', ?_, ?_, ?_, ?_⟩
  · intro i hi
    rw [hpath]
    exact h.linked a i (hkeeps.claimed hi)
  · intro i hi hc
    exact h.apart a a i (hkeeps.allowed hi) (hkeeps.claimed hc)
  · intro b _ i hi
    rw [hpath]
    exact h.linked b i hi
  · intro b hb i hi hc
    exact hb (h.alone b a i hc (hkeeps.claimed hi))
  · intro b _ i hi
    exact h.apart a b i (hkeeps.allowed hi)
  · intro b _ i hi hc
    exact h.apart b a i hi (hkeeps.claimed hc)

theorem Coherent.stay (h : Coherent d view) (hkeeps : v.Keeps (view a))
    (hdescriptor : v.descriptor = (view a).descriptor) (hlock : v.lock = (view a).lock) :
    Coherent d (Function.update view a v) := by
  refine h.acts hkeeps ((h.opened a).trans hdescriptor.symm) ?_ ?_ ?_ rfl (fun _ _ => rfl) fun _ _ _ => Iff.rfl
  · intro i
    rw [hlock]
    exact h.locked a i
  · intro i hi
    rw [hdescriptor]
    exact h.through a i (hlock ▸ hi)
  · intro i hi
    rw [hlock]
    exact h.under a i (hkeeps.allowed hi)

/-- What an agent may rewrite and has found at the path, it may claim. -/
theorem Coherent.claims (h : Coherent d view) (happroved : (view a).approved = some i) (hpath : d.path = some i)
    (hv : v = ⟨(view a).descriptor, (view a).lock, some i, none⟩) : Coherent d (Function.update view a v) := by
  subst hv
  refine h.act ⟨h.opened a, h.locked a, h.through a, nofun, ?_, nofun, fun _ _ => rfl, fun _ _ _ => Iff.rfl,
    fun b _ => h.linked b, ?_, nofun, ?_⟩
  · rintro j ⟨⟩
    exact hpath
  · rintro b _ j ⟨⟩
    exact h.apart a b i happroved
  · rintro b hb j hj ⟨⟩
    exact hb (h.lock_unique (h.under b i hj) (h.under a i happroved))

/-- What an agent has locked and nobody claims, it may be allowed to rewrite. -/
theorem Coherent.approve (h : Coherent d view) (hlocked : (view a).lock = some i)
    (hfree : ∀ b, (view b).claim ≠ some i) (hv : v = ⟨(view a).descriptor, some i, none, some i⟩) :
    Coherent d (Function.update view a v) := by
  subst hv
  refine h.act ⟨h.opened a, ?_, ?_, fun _ hj => hj, nofun, nofun, fun _ _ => rfl, fun _ _ _ => Iff.rfl,
    fun b _ => h.linked b, nofun, ?_, nofun⟩
  · rw [← hlocked]
    exact h.locked a
  · rw [← hlocked]
    exact h.through a
  · rintro b _ j ⟨⟩
    exact hfree b

theorem Coherent.openFile (h : Coherent d view) (hclosed : (view a).descriptor = none)
    (hv : v = ⟨some i, none, none, none⟩) : Coherent (d.openFile a i) (Function.update view a v) := by
  subst hv
  refine h.acts ⟨Or.inl rfl, Or.inl rfl⟩ (Function.update_self ..) ?_ nofun nofun rfl ?_ fun _ _ _ => Iff.rfl
  · intro j
    refine iff_of_false ?_ nofun
    intro hj
    have hdescriptor := h.through a j ((h.locked a j).1 hj)
    rw [hclosed] at hdescriptor
    cases hdescriptor
  · intro b hb
    exact Function.update_of_ne hb ..

theorem Coherent.lock (h : Coherent d view) (hopen : (view a).descriptor = some i)
    (hfree : d.lockedBy i = none) (hkeeps : v.Keeps (view a)) (hdescriptor : v.descriptor = some i)
    (hlock : v.lock = some i) (happroved : v.approved = none) :
    Coherent (d.lock a i) (Function.update view a v) := by
  have hnone : (view a).lock = none := by
    cases hold : (view a).lock with
    | none => rfl
    | some j =>
      have hj := h.through a j hold
      rw [hopen] at hj
      cases hj
      rw [(h.locked a i).2 hold] at hfree
      cases hfree
  refine h.acts hkeeps ?_ ?_ ?_ ?_ rfl (fun _ _ => rfl) ?_
  · exact ((h.opened a).trans hopen).trans hdescriptor.symm
  · intro j
    rw [hlock]
    show Function.update d.lockedBy i (some a) j = some a ↔ _
    by_cases hj : j = i
    · subst hj
      simp
    · rw [Function.update_of_ne hj]
      refine iff_of_false ?_ ?_
      · intro hl
        have hold := (h.locked a j).1 hl
        rw [hnone] at hold
        cases hold
      · intro hl
        exact hj (Option.some.inj hl).symm
  · intro j hj
    rw [hlock] at hj
    rw [hdescriptor, hj]
  · rw [happroved]
    exact nofun
  · intro b hb j
    show Function.update d.lockedBy i (some a) j = some b ↔ _
    by_cases hj : j = i
    · subst hj
      rw [Function.update_self, hfree]
      refine iff_of_false ?_ nofun
      intro hl
      exact hb (Option.some.inj hl).symm
    · rw [Function.update_of_ne hj]

theorem Coherent.unlock (h : Coherent d view) (hlocked : (view a).lock = some i) (hkeeps : v.Keeps (view a))
    (hdescriptor : v.descriptor = (view a).descriptor) (hlock : v.lock = none) (happroved : v.approved = none) :
    Coherent (d.unlock i) (Function.update view a v) := by
  refine h.acts hkeeps ((h.opened a).trans hdescriptor.symm) ?_ ?_ ?_ rfl (fun _ _ => rfl) ?_
  · intro j
    rw [hlock]
    refine iff_of_false ?_ nofun
    show ¬ Function.update d.lockedBy i none j = some a
    by_cases hj : j = i
    · subst hj
      rw [Function.update_self]
      exact nofun
    · rw [Function.update_of_ne hj]
      intro hl
      have hold := (h.locked a j).1 hl
      rw [hlocked] at hold
      exact hj (Option.some.inj hold).symm
  · rw [hlock]
    exact nofun
  · rw [happroved]
    exact nofun
  · intro b hb j
    show Function.update d.lockedBy i none j = some b ↔ _
    by_cases hj : j = i
    · subst hj
      rw [Function.update_self, (h.locked a j).2 hlocked]
      refine iff_of_false nofun ?_
      intro hl
      exact hb (Option.some.inj hl).symm
    · rw [Function.update_of_ne hj]

/-- A file that is created at the free path belongs to the one who creates it. -/
theorem Coherent.create (h : Coherent d view) {empty : Content} (hpath : d.path = none) (hunused : ¬ d.InUse i)
    (hclosed : (view a).descriptor = none) (hv : v = ⟨some i, none, some i, none⟩) :
    Coherent (d.create a i empty) (Function.update view a v) := by
  subst hv
  have hnobody : ∀ b j, (view b).claim ≠ some j := by
    intro b j hb
    have hlinked := h.linked b j hb
    rw [hpath] at hlinked
    cases hlinked
  refine h.act ⟨Function.update_self .., ?_, nofun, nofun, ?_, nofun, ?_, fun _ _ _ => Iff.rfl, ?_, ?_, nofun, ?_⟩
  · intro j
    refine iff_of_false ?_ nofun
    intro hj
    have hdescriptor := h.through a j ((h.locked a j).1 hj)
    rw [hclosed] at hdescriptor
    cases hdescriptor
  · intro j hj
    exact hj
  · intro b hb
    exact Function.update_of_ne hb ..
  · intro b _ j hj
    exact absurd hj (hnobody b j)
  · intro b _ j _
    exact hnobody b j
  · intro b _ j hj hc
    cases hc
    exact hunused (h.in_use (Or.inl (h.under b i hj)))

/-- A file is unlinked by the one who claims it. -/
theorem Coherent.unlink (h : Coherent d view) (hclaimed : (view a).claim = some i)
    (hv : v = ⟨(view a).descriptor, (view a).lock, none, none⟩) :
    Coherent d.unlink (Function.update view a v) := by
  subst hv
  refine h.act ⟨h.opened a, h.locked a, h.through a, nofun, nofun, nofun, fun _ _ => rfl, fun _ _ _ => Iff.rfl,
    ?_, nofun, nofun, nofun⟩
  intro b hb j hj
  cases (h.linked b j hj).symm.trans (h.linked a i hclaimed)
  exact absurd (h.alone b a i hj hclaimed) hb

end Coherence

end LockedPath
