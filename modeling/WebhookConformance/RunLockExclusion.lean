import WebhookConformance.RunLockSessions

/-! The lock of a run directory has one owner, however many processes go for it and wherever they
crash. -/
namespace WebhookConformance

open LockedPath

section Views

def LockPhase.view : LockPhase → View
  | .idle | .creating | .inspecting | .opening | .withdrawn _ => ⟨none, none, none, none⟩
  | .created i | .locking i | .closing i _ => ⟨some i, none, some i, none⟩
  | .opened i | .comparing i | .tryingLock i | .abortClosing i | .releaseClose i | .leaked i false =>
    ⟨some i, none, none, none⟩
  | .reading i | .deciding i _ | .abortUnlocking i | .releaseSync i | .releaseUnlock i | .leaked i true =>
    ⟨some i, some i, none, none⟩
  | .truncating i none | .rewriting i none _ | .flushing i none | .verifying i none | .syncing i | .held i _
  | .releaseStat i | .releaseUnlink i | .unlocking i _ => ⟨some i, some i, some i, none⟩
  | .truncating i (some _) | .rewriting i (some _) _ | .flushing i (some _) | .verifying i (some _) =>
    ⟨some i, some i, none, some i⟩
  | .stating i _ | .unlinking i _ => ⟨none, none, some i, none⟩

def LockWorld.view (w : LockWorld) (k : Nat) : View := (w.sessions k).phase.view

variable {w : LockWorld} {k : Nat} {phase : LockPhase}

theorem view_setPhase : (w.setPhase k phase).view = Function.update w.view k phase.view := by
  funext j
  by_cases hj : j = k
  · subst hj
    simp [LockWorld.view, LockWorld.setPhase]
  · simp [LockWorld.view, LockWorld.setPhase, hj]

/-- An error gives no rights, and keeps the descriptor and the lock. -/
theorem raised_view {old : LockPhase} (h : old.raised = some phase) :
    phase.view.Keeps old.view ∧ phase.view.descriptor = old.view.descriptor ∧
      phase.view.lock = old.view.lock := by
  unfold LockPhase.raised at h
  split at h <;> cases h <;> first | exact ⟨⟨Or.inl rfl, Or.inl rfl⟩, rfl, rfl⟩ | exact ⟨⟨Or.inr rfl, Or.inl rfl⟩, rfl, rfl⟩

/-- Looking gives no rights either, but for the last look of a takeover. -/
theorem looks_view {old : LockPhase} {files : LockedPath Nat Bytes} (h : old.looks files = some phase) :
    (phase.view.Keeps old.view ∧ phase.view.descriptor = old.view.descriptor ∧
        phase.view.lock = old.view.lock) ∨
      ∃ i event, old = .verifying i (some event) ∧ phase = .held i (some event) ∧ files.path = some i := by
  unfold LockPhase.looks at h
  split at h
  case h_9 i event =>
    split at h
    · next hpath =>
      cases h
      exact Or.inr ⟨i, event, rfl, rfl, hpath⟩
    · cases h
      exact Or.inl ⟨⟨Or.inl rfl, Or.inl rfl⟩, rfl, rfl⟩
  case h_7 i event =>
    cases h
    refine Or.inl ?_
    cases event with
    | none => exact ⟨⟨Or.inr rfl, Or.inl rfl⟩, rfl, rfl⟩
    | some event => exact ⟨⟨Or.inl rfl, Or.inr rfl⟩, rfl, rfl⟩
  all_goals
    refine Or.inl ?_
    try split at h
    all_goals
      cases h
      try first
        | exact ⟨⟨Or.inl rfl, Or.inl rfl⟩, rfl, rfl⟩
        | exact ⟨⟨Or.inr rfl, Or.inl rfl⟩, rfl, rfl⟩

theorem locks_view {old : LockPhase} {i : Nat} (h : old.locks = some (i, phase)) :
    phase.view.Keeps old.view ∧ old.view.descriptor = some i ∧ phase.view.descriptor = some i ∧
      phase.view.lock = some i ∧ phase.view.approved = none := by
  unfold LockPhase.locks at h
  split at h <;> cases h <;>
    first | exact ⟨⟨Or.inl rfl, Or.inl rfl⟩, rfl, rfl, rfl, rfl⟩ | exact ⟨⟨Or.inr rfl, Or.inl rfl⟩, rfl, rfl, rfl, rfl⟩

theorem unlocks_view {old : LockPhase} {i : Nat} (h : old.unlocks = some (i, phase)) :
    phase.view.Keeps old.view ∧ old.view.lock = some i ∧ phase.view.descriptor = old.view.descriptor ∧
      phase.view.lock = none ∧ phase.view.approved = none := by
  unfold LockPhase.unlocks at h
  split at h <;> cases h <;>
    first | exact ⟨⟨Or.inl rfl, Or.inl rfl⟩, rfl, rfl, rfl, rfl⟩ | exact ⟨⟨Or.inr rfl, Or.inl rfl⟩, rfl, rfl, rfl, rfl⟩

theorem closes_view {old : LockPhase} (h : old.closes = some phase) :
    phase.view.descriptor = none ∧ phase.view.lock = none ∧ phase.view.Keeps old.view ∧
      phase.view.approved = none := by
  unfold LockPhase.closes at h
  split at h <;> cases h <;>
    first | exact ⟨rfl, rfl, ⟨Or.inl rfl, Or.inl rfl⟩, rfl⟩ | exact ⟨rfl, rfl, ⟨Or.inr rfl, Or.inl rfl⟩, rfl⟩

theorem unlinks_view {old : LockPhase} (h : old.unlinks = some phase) :
    ∃ i, old.view.claim = some i ∧ phase.view = ⟨old.view.descriptor, old.view.lock, none, none⟩ := by
  unfold LockPhase.unlinks at h
  split at h <;> cases h <;> exact ⟨_, rfl, rfl⟩

end Views

section Annotations

/-- The takeover replaces an owner by the session, whose epoch is the next. -/
def LockSession.Decided (s : LockSession) (event : RunLockTakeoverEvent) : Prop :=
  event.newOwner = s.requested ∧ s.requested.ownerEpoch = event.previousOwner.ownerEpoch + 1

/-- What was written to the file before the session writes. -/
def LockSession.Before (s : LockSession) (written : List RunLockMetadata) :
    Option RunLockTakeoverEvent → Prop
  | none => written = []
  | some event => s.Decided event ∧ written.head? = some event.previousOwner

/-- What was written to the file, the session's own metadata last. -/
def LockSession.After (s : LockSession) (written : List RunLockMetadata)
    (event : Option RunLockTakeoverEvent) : Prop :=
  ∃ rest, written = s.requested :: rest ∧ s.Before rest event

/-- What a session knows of its file in each phase. -/
def LockWorld.Annotated (w : LockWorld) (s : LockSession) : Prop :=
  match s.phase with
  | .created i | .locking i => w.files.content i = [] ∧ w.written i = []
  | .truncating i none => w.files.content i = [] ∧ s.Before (w.written i) none
  | .truncating i (some event) => s.Before (w.written i) (some event)
  | .rewriting i event rest =>
    rest ≠ [] ∧ w.files.content i ++ rest = s.payload ∧ s.Before (w.written i) event
  | .flushing i event | .verifying i event | .held i event =>
    w.files.content i = s.payload ∧ s.After (w.written i) event
  | .syncing i => w.files.content i = s.payload ∧ s.After (w.written i) none
  | .releaseStat i | .releaseUnlink i => w.files.content i = s.payload
  | .unlocking i _ | .closing i _ | .stating i _ | .unlinking i _ => w.files.content i <+: s.payload
  | .deciding i raw => w.files.content i = raw
  | .releaseSync i | .releaseUnlock i | .releaseClose i => w.files.path ≠ some i
  | _ => True

variable {w w' : LockWorld} {s : LockSession}

/-- What a session knows it knows of files that it has locked, claims or has open. -/
theorem LockWorld.Annotated.frame (h : w.Annotated s)
    (hcontent : ∀ i, s.phase.view.lock = some i ∨ s.phase.view.claim = some i →
      w'.files.content i = w.files.content i ∧ w'.written i = w.written i)
    (hpath : ∀ i, s.phase.view.descriptor = some i → w'.files.path = some i → w.files.path = some i) :
    w'.Annotated s := by
  obtain ⟨process, requested, takeOver, phase⟩ := s
  cases phase with
  | idle | creating | inspecting | opening | opened | comparing | tryingLock | reading | abortUnlocking
  | abortClosing | withdrawn | leaked => trivial
  | created i | locking i | closing i of | stating i of | unlinking i of =>
    obtain ⟨hc, hw⟩ := hcontent i (Or.inr rfl)
    simp only [LockWorld.Annotated] at h ⊢
    first | rw [hc, hw] | rw [hc]
    exact h
  | truncating i event =>
    cases event with
    | none =>
      obtain ⟨hc, hw⟩ := hcontent i (Or.inl rfl)
      simp only [LockWorld.Annotated] at h ⊢
      rw [hc, hw]
      exact h
    | some event =>
      obtain ⟨-, hw⟩ := hcontent i (Or.inl rfl)
      simp only [LockWorld.Annotated] at h ⊢
      rw [hw]
      exact h
  | rewriting i event rest =>
    obtain ⟨hc, hw⟩ := hcontent i (by cases event <;> exact Or.inl rfl)
    simp only [LockWorld.Annotated] at h ⊢
    rw [hc, hw]
    exact h
  | flushing i event | verifying i event =>
    obtain ⟨hc, hw⟩ := hcontent i (by cases event <;> exact Or.inl rfl)
    simp only [LockWorld.Annotated] at h ⊢
    rw [hc, hw]
    exact h
  | syncing i | held i event =>
    obtain ⟨hc, hw⟩ := hcontent i (Or.inl rfl)
    simp only [LockWorld.Annotated] at h ⊢
    rw [hc, hw]
    exact h
  | deciding i raw | releaseStat i | releaseUnlink i | unlocking i of =>
    obtain ⟨hc, -⟩ := hcontent i (Or.inl rfl)
    simp only [LockWorld.Annotated] at h ⊢
    rw [hc]
    exact h
  | releaseSync i | releaseUnlock i | releaseClose i =>
    intro hlinked
    exact h (hpath i rfl hlinked)

theorem content_of_claim {i : Nat} (h : w.Annotated s) (hclaim : s.phase.view.claim = some i) :
    w.files.content i <+: s.payload := by
  obtain ⟨process, requested, takeOver, phase⟩ := s
  cases phase with
  | idle | creating | inspecting | opening | opened | comparing | tryingLock | reading | abortUnlocking
  | abortClosing | withdrawn | deciding | releaseSync | releaseUnlock | releaseClose => cases hclaim
  | leaked i locked => cases locked <;> cases hclaim
  | created j | locking j =>
    cases hclaim
    rw [h.1]
    exact List.nil_prefix
  | truncating j event =>
    cases event with
    | some event => cases hclaim
    | none =>
      cases hclaim
      rw [h.1]
      exact List.nil_prefix
  | rewriting j event rest =>
    cases event with
    | some event => cases hclaim
    | none =>
      cases hclaim
      exact ⟨rest, h.2.1⟩
  | flushing j event | verifying j event =>
    cases event with
    | some event => cases hclaim
    | none =>
      cases hclaim
      exact h.1 ▸ List.prefix_rfl
  | syncing j | held j event =>
    cases hclaim
    exact h.1 ▸ List.prefix_rfl
  | releaseStat j | releaseUnlink j =>
    cases hclaim
    exact h ▸ List.prefix_rfl
  | unlocking j of | closing j of | stating j of | unlinking j of =>
    cases hclaim
    exact h

/-- What a session knows after it has looked. -/
theorem annotated_looks {phase : LockPhase} (h : w.Annotated s) (hlook : s.phase.looks w.files = some phase) :
    w.Annotated { s with phase } := by
  have hclaimed := @content_of_claim w s
  obtain ⟨process, requested, takeOver, old⟩ := s
  cases old with
  | idle | opening | tryingLock | deciding | abortUnlocking | abortClosing | locking | truncating | rewriting
  | held | releaseUnlink | releaseUnlock | releaseClose | unlocking | closing | unlinking | leaked => cases hlook
  | creating | withdrawn =>
    cases hlook
    trivial
  | created i =>
    simp only [LockPhase.looks] at hlook
    split at hlook
    · cases hlook
      exact h
    · cases hlook
      exact hclaimed h rfl
  | inspecting | opened i | comparing i =>
    simp only [LockPhase.looks] at hlook
    split at hlook <;> cases hlook <;> trivial
  | reading i =>
    simp only [LockPhase.looks] at hlook
    split at hlook
    · cases hlook
      exact rfl
    · cases hlook
      trivial
  | flushing i event =>
    cases hlook
    exact h
  | syncing i =>
    cases hlook
    exact h
  | verifying i event =>
    cases event with
    | none =>
      simp only [LockPhase.looks] at hlook
      split at hlook
      · cases hlook
        exact h
      · cases hlook
        exact hclaimed h rfl
    | some event =>
      simp only [LockPhase.looks] at hlook
      split at hlook
      · cases hlook
        exact h
      · cases hlook
        trivial
  | releaseStat i =>
    simp only [LockPhase.looks] at hlook
    split at hlook
    · cases hlook
      exact h
    · next hpath =>
      cases hlook
      exact hpath
  | releaseSync i =>
    cases hlook
    exact h
  | stating i of =>
    simp only [LockPhase.looks] at hlook
    split at hlook
    · cases hlook
      exact h
    · cases hlook
      trivial

/-- What a session knows after an error. -/
theorem annotated_raised {phase : LockPhase} (h : w.Annotated s) (hraised : s.phase.raised = some phase) :
    w.Annotated { s with phase } := by
  have hclaimed := @content_of_claim w s
  obtain ⟨process, requested, takeOver, old⟩ := s
  cases old with
  | idle | held | releaseClose | abortClosing | withdrawn | leaked => cases hraised
  | creating | inspecting | opening | opened | comparing | tryingLock | reading | deciding | releaseStat
  | releaseUnlink | releaseSync | releaseUnlock | unlocking | abortUnlocking | closing | stating | unlinking =>
    cases hraised
    trivial
  | created i | locking i | syncing i =>
    cases hraised
    exact hclaimed h rfl
  | truncating i event | rewriting i event rest | flushing i event | verifying i event =>
    cases event with
    | none =>
      cases hraised
      exact hclaimed h rfl
    | some event =>
      cases hraised
      trivial

end Annotations

section Invariant

variable {casefold : String → String} {host : Host} {platform : Platform} {w w' : LockWorld} {k : Nat}
  {phase : LockPhase} {files : LockedPath Nat Bytes} {written : Nat → List RunLockMetadata}

/-- A session at work belongs to a live process, which its metadata names. -/
structure LockSession.Named (casefold : String → String) (host : Host) (alive : Nat → Bool) (s : LockSession) :
    Prop where
  live : alive s.process = true
  valid : s.requested.Valid casefold
  pid : s.requested.pid = host.pid s.process
  fingerprint : s.requested.processStartFingerprint = host.startFingerprint s.process

def EpochsAdvance (written : List RunLockMetadata) : Prop :=
  written.IsChain fun new old => new.ownerEpoch = old.ownerEpoch + 1

/-- What was written in full is what is read. -/
def WrittenInFull (casefold : String → String) (content : Bytes) (written : List RunLockMetadata) : Prop :=
  ∀ m, decodeMetadata casefold content = .ok m → written.head? = some m

structure LockInv (casefold : String → String) (host : Host) (w : LockWorld) : Prop where
  coherent : Coherent w.files w.view
  annotated : ∀ k, w.Annotated (w.sessions k)
  named : ∀ k, (w.sessions k).phase ≠ .idle → (w.sessions k).Named casefold host w.alive
  recorded : ∀ i, WrittenInFull casefold (w.files.content i) (w.written i)
  advance : ∀ i, EpochsAdvance (w.written i)

theorem LockInv.knows (h : LockInv casefold host w) (hphase : (w.sessions k).phase = phase) :
    w.Annotated { w.sessions k with phase } :=
  hphase ▸ h.annotated k

theorem busy_of_phase (hphase : (w.sessions k).phase = phase) (hne : phase ≠ .idle) :
    (w.sessions k).phase ≠ .idle :=
  hphase ▸ hne

/-- The world after a session has gone on. -/
def LockWorld.next (w : LockWorld) (k : Nat) (phase : LockPhase) (files : LockedPath Nat Bytes)
    (written : Nat → List RunLockMetadata) : LockWorld :=
  { (w.setPhase k phase).setFiles files with written }

/-- What is to be seen to when a session goes on. -/
theorem LockInv.act (h : LockInv casefold host w) (hbusy : (w.sessions k).phase ≠ .idle)
    (hcoherent : Coherent files (Function.update w.view k phase.view))
    (hself : (w.next k phase files written).Annotated { w.sessions k with phase })
    (hcontent : ∀ j, j ≠ k → ∀ i, (w.view j).lock = some i ∨ (w.view j).claim = some i →
      files.content i = w.files.content i ∧ written i = w.written i)
    (hpath : ∀ j, j ≠ k → ∀ i, (w.view j).descriptor = some i → files.path = some i → w.files.path = some i)
    (hrecorded : ∀ i, WrittenInFull casefold (files.content i) (written i))
    (hadvance : ∀ i, EpochsAdvance (written i)) : LockInv casefold host (w.next k phase files written) := by
  refine ⟨?_, ?_, ?_, hrecorded, hadvance⟩
  · exact view_setPhase ▸ hcoherent
  · intro j
    by_cases hj : j = k
    · subst hj
      rw [show (w.next j phase files written).sessions j = { w.sessions j with phase } from
        Function.update_self ..]
      exact hself
    · rw [show (w.next k phase files written).sessions j = w.sessions j from Function.update_of_ne hj ..]
      exact (h.annotated j).frame (hcontent j hj) (hpath j hj)
  · intro j hidle
    by_cases hj : j = k
    · subst hj
      rw [show (w.next j phase files written).sessions j = { w.sessions j with phase } from
        Function.update_self ..]
      exact { h.named j hbusy with }
    · rw [show (w.next k phase files written).sessions j = w.sessions j from Function.update_of_ne hj ..]
        at hidle ⊢
      exact h.named j hidle

/-- A session that writes nothing and puts no file at the path. -/
theorem LockInv.goes (h : LockInv casefold host w) (hbusy : (w.sessions k).phase ≠ .idle)
    (hcoherent : Coherent files (Function.update w.view k phase.view))
    (hself : (w.next k phase files w.written).Annotated { w.sessions k with phase })
    (hcontent : files.content = w.files.content)
    (hpath : ∀ i, files.path = some i → w.files.path = some i) :
    LockInv casefold host (w.next k phase files w.written) := by
  refine h.act hbusy hcoherent hself ?_ (fun _ _ i _ => hpath i) ?_ h.advance
  · intro j _ i _
    exact ⟨congrFun hcontent i, rfl⟩
  · intro i
    rw [hcontent]
    exact h.recorded i

/-- A session that only goes to another phase. -/
theorem LockInv.move (h : LockInv casefold host w) (hbusy : (w.sessions k).phase ≠ .idle)
    (hcoherent : Coherent w.files (Function.update w.view k phase.view))
    (hself : w.Annotated { w.sessions k with phase }) : LockInv casefold host (w.setPhase k phase) :=
  h.goes hbusy hcoherent (hself.frame (fun _ _ => ⟨rfl, rfl⟩) fun _ _ hi => hi) rfl fun _ hi => hi

theorem busy_of {α : Type} {f : LockPhase → Option α} {old : LockPhase} {x : α} (hidle : f .idle = none)
    (h : f old = some x) : old ≠ .idle := by
  rintro rfl
  rw [hidle] at h
  cases h

theorem LockInv.look (h : LockInv casefold host w) (hlook : (w.sessions k).phase.looks w.files = some phase) :
    LockInv casefold host (w.setPhase k phase) := by
  have hbusy := busy_of (f := fun phase => phase.looks w.files) rfl hlook
  refine h.move hbusy ?_ (annotated_looks (h.annotated k) hlook)
  obtain ⟨hkeeps, hdescriptor, hlock⟩ | ⟨i, event, hold, rfl, hpath⟩ := looks_view hlook
  · exact h.coherent.stay hkeeps hdescriptor hlock
  · have hview : w.view k = ⟨some i, some i, none, some i⟩ := by rw [LockWorld.view, hold]; rfl
    exact h.coherent.claims (by rw [hview]) hpath (by rw [hview]; rfl)

theorem LockInv.raise (h : LockInv casefold host w) (hraised : (w.sessions k).phase.raised = some phase) :
    LockInv casefold host (w.setPhase k phase) := by
  have hbusy := busy_of (f := LockPhase.raised) rfl hraised
  obtain ⟨hkeeps, hdescriptor, hlock⟩ := raised_view hraised
  exact h.move hbusy (h.coherent.stay hkeeps hdescriptor hlock) (annotated_raised (h.annotated k) hraised)

theorem LockInv.lock {i : Nat} (h : LockInv casefold host w)
    (hlocks : (w.sessions k).phase.locks = some (i, phase)) (hfree : w.files.lockedBy i = none) :
    LockInv casefold host ((w.setPhase k phase).setFiles (w.files.lock k i)) := by
  have hbusy := busy_of (f := LockPhase.locks) rfl hlocks
  obtain ⟨hkeeps, hopen, hdescriptor, hlock, happroved⟩ := locks_view hlocks
  refine h.goes hbusy (h.coherent.lock hopen hfree hkeeps hdescriptor hlock happroved) ?_ rfl fun _ hi => hi
  unfold LockPhase.locks at hlocks
  split at hlocks
  · next j hphase =>
    cases hlocks
    exact h.knows hphase
  · cases hlocks
    trivial
  · cases hlocks

theorem LockInv.unlock {i : Nat} (h : LockInv casefold host w)
    (hunlocks : (w.sessions k).phase.unlocks = some (i, phase)) :
    LockInv casefold host ((w.setPhase k phase).setFiles (w.files.unlock i)) := by
  have hbusy := busy_of (f := LockPhase.unlocks) rfl hunlocks
  obtain ⟨hkeeps, hlocked, hdescriptor, hlock, happroved⟩ := unlocks_view hunlocks
  refine h.goes hbusy (h.coherent.unlock hlocked hkeeps hdescriptor hlock happroved) ?_ rfl fun _ hi => hi
  unfold LockPhase.unlocks at hunlocks
  split at hunlocks
  · cases hunlocks
    trivial
  · next hphase =>
    cases hunlocks
    exact h.knows hphase
  · next hphase =>
    cases hunlocks
    exact h.knows hphase
  · cases hunlocks

theorem LockInv.close (h : LockInv casefold host w) (hcloses : (w.sessions k).phase.closes = some phase) :
    LockInv casefold host ((w.setPhase k phase).setFiles (w.files.close fun a => a = k)) := by
  have hbusy := busy_of (f := LockPhase.closes) rfl hcloses
  refine h.goes hbusy (h.coherent.close ?_ ?_) ?_ rfl fun _ hi => hi
  · intro j hj
    exact Function.update_of_ne (of_decide_eq_false hj) ..
  · intro j hj
    obtain rfl := of_decide_eq_true hj
    rw [Function.update_self]
    exact closes_view hcloses
  unfold LockPhase.closes at hcloses
  split at hcloses
  · cases hcloses
    trivial
  · cases hcloses
    trivial
  · next hphase =>
    cases hcloses
    exact h.knows hphase
  · cases hcloses

theorem LockInv.unlink (h : LockInv casefold host w) (hunlinks : (w.sessions k).phase.unlinks = some phase) :
    LockInv casefold host ((w.setPhase k phase).setFiles w.files.unlink) := by
  have hbusy := busy_of (f := LockPhase.unlinks) rfl hunlinks
  obtain ⟨i, hclaimed, hview⟩ := unlinks_view hunlinks
  refine h.goes hbusy (h.coherent.unlink hclaimed hview) ?_ rfl nofun
  unfold LockPhase.unlinks at hunlinks
  split at hunlinks
  · cases hunlinks
    exact nofun
  · cases hunlinks
    trivial
  · cases hunlinks

theorem LockInv.openFile {i : Nat} (h : LockInv casefold host w) (hphase : (w.sessions k).phase = .opening) :
    LockInv casefold host ((w.setPhase k (.opened i)).setFiles (w.files.openFile k i)) := by
  have hbusy := busy_of_phase hphase nofun
  have hview : w.view k = ⟨none, none, none, none⟩ := by
    rw [LockWorld.view, hphase]
    rfl
  refine h.goes hbusy (h.coherent.openFile ?_ rfl) trivial rfl fun _ hi => hi
  rw [hview]

/-- Metadata that is read from a prefix of an encoding is what was encoded. -/
theorem decodeMetadata_prefix {m previous : RunLockMetadata} {raw : Bytes} (hvalid : m.Valid casefold)
    (h : raw <+: asciiBytes (lockText m)) (hdecode : decodeMetadata casefold raw = .ok previous) :
    previous = m := by
  obtain ⟨rest, hrest⟩ := h
  by_cases hnil : rest = []
  · rw [hnil, List.append_nil] at hrest
    rw [hrest, decodeMetadata_encode hvalid] at hdecode
    exact (Except.ok.inj hdecode).symm
  · obtain ⟨e, he⟩ := @decodeMetadata_torn casefold m raw rest hnil hrest.symm
    rw [he] at hdecode
    cases hdecode

/-- The owner that is replaced is dead, so that nobody counts on the file. -/
theorem LockInv.unclaimed {i : Nat} {raw : Bytes} {inspect : Nat → ProcessProbe} {event : RunLockTakeoverEvent}
    (h : LockInv casefold host w) (hphase : (w.sessions k).phase = .deciding i raw)
    (hhonest : host.Honest w.alive inspect)
    (hgranted : acquireExistingLock casefold raw (w.sessions k).requested (w.sessions k).takeOver inspect =
      .ok event) (j : Nat) : (w.view j).claim ≠ some i := by
  intro hclaim
  obtain ⟨previous, reason, -, hdecode, hstale, -⟩ := acquireExistingLock_ok hgranted
  have hraw : w.files.content i = raw := h.knows hphase
  have hbusy : (w.sessions j).phase ≠ .idle := by
    intro hidle
    rw [LockWorld.view, hidle] at hclaim
    cases hclaim
  have hnamed := h.named j hbusy
  have hprefix := content_of_claim (h.annotated j) hclaim
  rw [hraw] at hprefix
  obtain rfl := decodeMetadata_prefix hnamed.valid hprefix hdecode
  unfold classifyStaleOwner at hstale
  split at hstale
  · cases hstale
  rw [hnamed.pid, hnamed.fingerprint] at hstale
  obtain hprobe | hprobe := hhonest _ hnamed.live
  · rw [hprobe] at hstale
    cases hstale
  · rw [hprobe] at hstale
    dsimp only at hstale
    rw [if_neg (not_not.2 rfl)] at hstale
    cases hstale

theorem LockInv.decide {i : Nat} {raw : Bytes} {inspect : Nat → ProcessProbe} {event : RunLockTakeoverEvent}
    (h : LockInv casefold host w) (hphase : (w.sessions k).phase = .deciding i raw)
    (hhonest : host.Honest w.alive inspect)
    (hgranted : acquireExistingLock casefold raw (w.sessions k).requested (w.sessions k).takeOver inspect =
      .ok event) : LockInv casefold host (w.setPhase k (.truncating i (some event))) := by
  have hbusy := busy_of_phase hphase nofun
  have hview : w.view k = ⟨some i, some i, none, none⟩ := by
    rw [LockWorld.view, hphase]
    rfl
  refine h.move hbusy (h.coherent.approve (by rw [hview]) (h.unclaimed hphase hhonest hgranted) ?_) ?_
  · rw [hview]
    rfl
  · obtain ⟨previous, reason, rfl, hdecode, -, hepoch⟩ := acquireExistingLock_ok hgranted
    have hraw : w.files.content i = raw := h.knows hphase
    rw [← hraw] at hdecode
    exact ⟨⟨rfl, hepoch⟩, h.recorded i previous hdecode⟩

/-- A session writes to the file that it has for itself. -/
theorem LockInv.writes {i : Nat} {content : Bytes} {entries : List RunLockMetadata}
    (h : LockInv casefold host w) (hlock : (w.view k).lock = some i)
    (hright : (w.view k).claim = some i ∨ (w.view k).approved = some i) (hview : phase.view = w.view k)
    (hself : (w.next k phase (w.files.write i content) (Function.update w.written i entries)).Annotated
      { w.sessions k with phase })
    (hrecorded : WrittenInFull casefold content entries) (hadvance : EpochsAdvance entries) :
    LockInv casefold host
      (w.next k phase (w.files.write i content) (Function.update w.written i entries)) := by
  have hbusy : (w.sessions k).phase ≠ .idle := by
    intro hidle
    rw [LockWorld.view, hidle] at hlock
    cases hlock
  refine h.act hbusy ?_ hself ?_ (fun _ _ _ _ hi => hi) ?_ ?_
  · rw [hview, Function.update_eq_self]
    exact h.coherent.write i content
  · intro j hj i' hi'
    have hne : i' ≠ i := by
      rintro rfl
      exact hj (h.coherent.sole hlock hright hi').symm
    exact ⟨write_content_ne hne, Function.update_of_ne hne ..⟩
  · intro i'
    by_cases hi : i' = i
    · subst hi
      rw [Function.update_self, write_content]
      exact hrecorded
    · rw [Function.update_of_ne hi, write_content_ne hi]
      exact h.recorded i'
  · intro i'
    by_cases hi : i' = i
    · subst hi
      rw [Function.update_self]
      exact hadvance
    · rw [Function.update_of_ne hi]
      exact h.advance i'

theorem rewriting_view {i : Nat} {event : Option RunLockTakeoverEvent} {rest : Bytes} :
    ((LockPhase.truncating i event).view = (LockPhase.rewriting i event rest).view ∧
      (LockPhase.flushing i event).view = (LockPhase.rewriting i event rest).view) ∧
      (LockPhase.rewriting i event rest).view.lock = some i ∧
      ((LockPhase.rewriting i event rest).view.claim = some i ∨
        (LockPhase.rewriting i event rest).view.approved = some i) := by
  cases event with
  | none => exact ⟨⟨rfl, rfl⟩, rfl, Or.inl rfl⟩
  | some event => exact ⟨⟨rfl, rfl⟩, rfl, Or.inr rfl⟩

theorem recorded_torn {m : RunLockMetadata} {content rest : Bytes} {entries : List RunLockMetadata}
    (hrest : rest ≠ []) (h : content ++ rest = asciiBytes (lockText m)) :
    WrittenInFull casefold content entries := by
  intro r hr
  obtain ⟨e, he⟩ := @decodeMetadata_torn casefold m content rest hrest h.symm
  rw [he] at hr
  cases hr

theorem payload_ne_nil (s : LockSession) : s.payload ≠ [] := by
  simp [LockSession.payload, asciiBytes, lockText]

theorem LockInv.truncate {i : Nat} {event : Option RunLockTakeoverEvent} (h : LockInv casefold host w)
    (hphase : (w.sessions k).phase = .truncating i event) :
    LockInv casefold host
      ((w.setPhase k (.rewriting i event (w.sessions k).payload)).setFiles (w.files.write i [])) := by
  obtain ⟨⟨hview, -⟩, hlock, hright⟩ := @rewriting_view i event (w.sessions k).payload
  have hself : w.view k = (LockPhase.rewriting i event (w.sessions k).payload).view := by
    rw [LockWorld.view, hphase, hview]
  have hbefore : (w.sessions k).Before (w.written i) event := by
    have hknown := h.knows hphase
    cases event with
    | none => exact hknown.2
    | some event => exact hknown
  have hwritten := @LockInv.writes _ _ w k (.rewriting i event (w.sessions k).payload) i [] (w.written i) h
    (by rw [hself, hlock]) (by rw [hself]; exact hright) hself.symm ?_
    (recorded_torn (payload_ne_nil (w.sessions k)) rfl) (h.advance i)
  · rw [Function.update_eq_self] at hwritten
    exact hwritten
  · rw [Function.update_eq_self]
    refine ⟨payload_ne_nil _, ?_, hbefore⟩
    exact congrArg (· ++ (w.sessions k).payload) write_content

theorem LockInv.write {i n : Nat} {event : Option RunLockTakeoverEvent} {rest : Bytes}
    (h : LockInv casefold host w) (hphase : (w.sessions k).phase = .rewriting i event rest)
    (hpart : n < rest.length) :
    LockInv casefold host
      ((w.setPhase k (.rewriting i event (rest.drop n))).setFiles
        (w.files.write i (w.files.content i ++ rest.take n))) := by
  obtain ⟨⟨hold, -⟩, hlock, hright⟩ := @rewriting_view i event rest
  obtain ⟨⟨hnew, -⟩, -, -⟩ := @rewriting_view i event (rest.drop n)
  have hself : w.view k = (LockPhase.rewriting i event rest).view := by rw [LockWorld.view, hphase]
  obtain ⟨-, hcontent, hbefore⟩ := h.knows hphase
  have hrest : rest.drop n ≠ [] := by
    rw [Ne, List.drop_eq_nil_iff]
    omega
  have hjoined : (w.files.content i ++ rest.take n) ++ rest.drop n = (w.sessions k).payload := by
    rw [List.append_assoc, List.take_append_drop]
    exact hcontent
  have hwritten := @LockInv.writes _ _ w k (.rewriting i event (rest.drop n)) i
    (w.files.content i ++ rest.take n) (w.written i) h (by rw [hself, hlock]) (by rw [hself]; exact hright)
    (by rw [hself, ← hold, hnew]) ?_ (recorded_torn hrest hjoined) (h.advance i)
  · rw [Function.update_eq_self] at hwritten
    exact hwritten
  · rw [Function.update_eq_self]
    refine ⟨hrest, ?_, hbefore⟩
    exact (congrArg (· ++ rest.drop n) write_content).trans hjoined

theorem advance_cons {s : LockSession} {entries : List RunLockMetadata} {event : Option RunLockTakeoverEvent}
    (h : EpochsAdvance entries) (hbefore : s.Before entries event) : EpochsAdvance (s.requested :: entries) := by
  cases entries with
  | nil => exact List.IsChain.singleton _
  | cons last earlier =>
    refine List.IsChain.cons_cons ?_ h
    cases event with
    | none => cases hbefore
    | some event =>
      obtain ⟨⟨-, hepoch⟩, hlast⟩ := hbefore
      rw [hepoch, Option.some.inj hlast]

theorem LockInv.writeLast {i : Nat} {event : Option RunLockTakeoverEvent} {rest : Bytes}
    (h : LockInv casefold host w) (hphase : (w.sessions k).phase = .rewriting i event rest) :
    LockInv casefold host
      { (w.setPhase k (.flushing i event)).setFiles (w.files.write i (w.files.content i ++ rest)) with
        written := Function.update w.written i ((w.sessions k).requested :: w.written i) } := by
  obtain ⟨⟨-, hview⟩, hlock, hright⟩ := @rewriting_view i event rest
  have hself : w.view k = (LockPhase.rewriting i event rest).view := by rw [LockWorld.view, hphase]
  have hnamed := h.named k (busy_of_phase hphase nofun)
  obtain ⟨-, hcontent, hbefore⟩ := h.knows hphase
  refine @LockInv.writes _ _ w k (.flushing i event) i (w.files.content i ++ rest)
    ((w.sessions k).requested :: w.written i) h (by rw [hself, hlock]) (by rw [hself]; exact hright)
    (by rw [hself, hview]) ?_ ?_ (advance_cons (h.advance i) hbefore)
  · refine ⟨(Function.update_self ..).trans hcontent, w.written i, Function.update_self .., hbefore⟩
  · intro m hm
    rw [hcontent, LockSession.payload, decodeMetadata_encode hnamed.valid] at hm
    exact congrArg some (Except.ok.inj hm)

theorem LockInv.create {i : Nat} (h : LockInv casefold host w) (hphase : (w.sessions k).phase = .creating)
    (hfree : w.files.path = none) (hunused : ¬ w.files.InUse i) :
    LockInv casefold host
      { (w.setPhase k (.created i)).setFiles (w.files.create k i []) with
        written := Function.update w.written i [] } := by
  have hbusy := busy_of_phase hphase nofun
  have hview : w.view k = ⟨none, none, none, none⟩ := by
    rw [LockWorld.view, hphase]
    rfl
  refine h.act hbusy (h.coherent.create hfree hunused (by rw [hview]) rfl)
    ⟨Function.update_self .., Function.update_self ..⟩ ?_ ?_ ?_ ?_
  · intro j _ i' hi'
    have hne : i' ≠ i := by
      rintro rfl
      exact hunused (h.coherent.in_use hi')
    exact ⟨Function.update_of_ne hne .., Function.update_of_ne hne ..⟩
  · intro j _ i' hopen hpath
    cases hpath
    exact absurd (Or.inr ⟨j, (h.coherent.opened j).trans hopen⟩) hunused
  · intro i'
    by_cases hi : i' = i
    · subst hi
      rw [create_content]
      intro m hm
      cases hm
    · rw [Function.update_of_ne hi, create_content_ne hi]
      exact h.recorded i'
  · intro i'
    by_cases hi : i' = i
    · subst hi
      rw [Function.update_self]
      exact List.IsChain.nil
    · rw [Function.update_of_ne hi]
      exact h.advance i'

theorem LockInv.acquire {p : Nat} {requested : RunLockMetadata} {takeOver : Bool} (h : LockInv casefold host w)
    (hidle : (w.sessions k).phase = .idle)
    (hnamed : (LockSession.mk p requested takeOver .creating).Named casefold host w.alive) :
    LockInv casefold host
      { w with sessions := Function.update w.sessions k ⟨p, requested, takeOver, .creating⟩ } := by
  have hview : (LockWorld.view
      { w with sessions := Function.update w.sessions k ⟨p, requested, takeOver, .creating⟩ }) = w.view := by
    funext j
    by_cases hj : j = k
    · subst hj
      simp [LockWorld.view, hidle, LockPhase.view]
    · simp [LockWorld.view, hj]
  refine ⟨hview ▸ h.coherent, ?_, ?_, h.recorded, h.advance⟩
  · refine (Function.forall_update_iff w.sessions fun _ s => LockWorld.Annotated
      { w with sessions := Function.update w.sessions k ⟨p, requested, takeOver, .creating⟩ } s).2 ⟨trivial, ?_⟩
    intro j _
    exact (h.annotated j).frame (fun _ _ => ⟨rfl, rfl⟩) fun _ _ hi => hi
  · exact (Function.forall_update_iff w.sessions fun _ s =>
      s.phase ≠ .idle → s.Named casefold host w.alive).2 ⟨fun _ => hnamed, fun j _ => h.named j⟩

theorem LockInv.start {p : Nat} (h : LockInv casefold host w) :
    LockInv casefold host { w with alive := Function.update w.alive p true } := by
  refine { h with named := ?_, annotated := ?_ }
  · intro j
    exact (h.annotated j).frame (fun _ _ => ⟨rfl, rfl⟩) fun _ _ hi => hi
  · intro j hj
    refine { h.named j hj with live := ?_ }
    by_cases hp : (w.sessions j).process = p
    · rw [hp]
      exact Function.update_self ..
    · exact (Function.update_of_ne hp ..).trans (h.named j hj).live

theorem LockInv.crash {p : Nat} (h : LockInv casefold host w) :
    LockInv casefold host
      { w with
        files := w.files.close fun k => (w.sessions k).process = p
        sessions := fun k =>
          if (w.sessions k).process = p then { w.sessions k with phase := .idle } else w.sessions k
        alive := Function.update w.alive p false } := by
  refine ⟨h.coherent.close ?_ ?_, ?_, ?_, h.recorded, h.advance⟩
  · intro j hj
    simp only [LockWorld.view]
    rw [if_neg (of_decide_eq_false hj)]
  · intro j hj
    simp only [LockWorld.view]
    rw [if_pos (of_decide_eq_true hj)]
    exact ⟨rfl, rfl, ⟨Or.inl rfl, Or.inl rfl⟩, rfl⟩
  · intro j
    dsimp only
    split
    · trivial
    · exact (h.annotated j).frame (fun _ _ => ⟨rfl, rfl⟩) fun _ _ hi => hi
  · intro j hj
    dsimp only at hj ⊢
    split at hj
    · exact absurd rfl hj
    · next hp =>
      rw [if_neg hp]
      exact { h.named j hj with live := (Function.update_of_ne hp ..).trans (h.named j hj).live }

theorem lockInv_step {actor : Option Nat} (hstep : LockStep casefold host platform w actor w')
    (h : LockInv casefold host w) : LockInv casefold host w' := by
  cases hstep with
  | start => exact h.start
  | crash => exact h.crash
  | acquire hidle live checked pid fingerprint =>
    exact h.acquire hidle ⟨live, (postInit_ok.1 checked).2, pid, fingerprint⟩
  | create hphase free unused => exact h.create hphase free unused
  | look hlook => exact h.look hlook
  | raise hraised => exact h.raise hraised
  | goOn hphase =>
    refine h.move (busy_of_phase hphase nofun) ?_ trivial
    exact h.coherent.stay ⟨Or.inl rfl, Or.inl rfl⟩ (by rw [LockWorld.view, hphase]; rfl)
      (by rw [LockWorld.view, hphase]; rfl)
  | @tryAgain k i hphase =>
    have hview : w.view k = (LockPhase.stating i .release).view := by
      rw [LockWorld.view, hphase]
      rfl
    have hknown := h.knows hphase
    refine h.move (busy_of_phase hphase nofun) ?_ hknown
    exact h.coherent.stay ⟨Or.inr (by rw [hview]), Or.inl rfl⟩ (by rw [hview]) (by rw [hview])
  | openFile hphase _ => exact h.openFile hphase
  | lock hlocks free => exact h.lock hlocks free
  | decide hphase honest granted => exact h.decide hphase honest granted
  | truncate hphase => exact h.truncate hphase
  | write hphase _ part => exact h.write hphase part
  | writeLast hphase => exact h.writeLast hphase
  | @release k i event hphase =>
    have hview : w.view k = (platform.release i).view := by
      rw [LockWorld.view, hphase]
      cases platform <;> rfl
    have hknown := h.knows hphase
    refine h.move (busy_of_phase hphase nofun) ?_ ?_
    · exact h.coherent.stay ⟨Or.inr (by rw [hview]), Or.inr (by rw [hview])⟩ (by rw [hview]) (by rw [hview])
    · cases platform with
      | posix => exact hknown.1
      | windows => exact ⟨[], (List.append_nil _).trans hknown.1⟩
  | unlock hunlocks => exact h.unlock hunlocks
  | close hcloses => exact h.close hcloses
  | unlink hunlinks => exact h.unlink hunlinks

theorem lockInv_start (leftover : Option Bytes) : LockInv casefold host (.start casefold leftover) := by
  refine ⟨⟨fun _ => rfl, ?_, nofun, nofun, nofun, nofun, nofun⟩, fun _ => trivial, ?_, ?_, ?_⟩
  · intro a i
    exact iff_of_false nofun nofun
  · intro k hbusy
    exact absurd rfl hbusy
  · intro i m hm
    simp only [LockWorld.start] at hm ⊢
    rw [hm]
    rfl
  · intro i
    simp only [LockWorld.start]
    split
    · exact List.IsChain.singleton _
    · exact List.IsChain.nil

theorem lockInv_reachable {leftover : Option Bytes} (h : LockReachable casefold host platform leftover w) :
    LockInv casefold host w := by
  induction h with
  | start => exact lockInv_start leftover
  | step _ hstep ih => exact lockInv_step hstep ih

end Invariant

end WebhookConformance
