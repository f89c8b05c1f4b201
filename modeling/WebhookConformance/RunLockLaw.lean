import WebhookConformance.RunLockExclusion

/-! What the processes that go for the lock of a run directory can count on. -/
namespace WebhookConformance

open LockedPath

variable {casefold : String → String} {host : Host} {platform : Platform} {w w' : LockWorld} {k : Nat}

section Owner

theorem requireOwner_ok {runId : String} {ownerEpoch : Nat}
    (h : w.requireOwner casefold k runId ownerEpoch = .ok ()) :
    ∃ i, (w.sessions k).phase.guard = some (some i) ∧ w.files.path = some i := by
  unfold LockWorld.requireOwner at h
  split at h
  · cases h
  next descriptor hguard =>
  split at h
  · cases h
  split at h
  · cases h
  next i =>
  obtain ⟨_, hverify, _⟩ := Checked.bind_ok h
  unfold LockWorld.verifyDescriptorPathIdentity at hverify
  split at hverify
  · next hpath => exact ⟨i, hguard, hpath⟩
  · cases hverify

/-- A lock that is not closed, and whose file is at the path, is claimed. -/
theorem claim_of_guard {s : LockSession} {i : Nat} (h : w.Annotated s)
    (hguard : s.phase.guard = some (some i)) (hpath : w.files.path = some i) : s.phase.view.claim = some i := by
  obtain ⟨process, requested, takeOver, phase⟩ := s
  cases phase with
  | held | releaseStat | releaseUnlink =>
    cases hguard
    rfl
  | releaseSync | releaseUnlock | releaseClose =>
    cases hguard
    exact absurd hpath h
  | unlocking j of | closing j of =>
    cases of with
    | creation => cases hguard
    | release =>
      cases hguard
      rfl
  | stating j of | unlinking j of | withdrawn of => cases of <;> cases hguard
  | idle | creating | created | locking | inspecting | opening | opened | comparing | tryingLock | reading
  | deciding | abortUnlocking | abortClosing | truncating | rewriting | flushing | verifying | syncing | leaked =>
    cases hguard

theorem LockInv.owner (h : LockInv casefold host w) {i : Nat} {event : Option RunLockTakeoverEvent}
    (hheld : (w.sessions k).phase = .held i event) :
    w.requireOwner casefold k (w.sessions k).requested.runId (w.sessions k).requested.ownerEpoch = .ok () := by
  have hknown := h.annotated k
  unfold LockWorld.Annotated at hknown
  rw [hheld] at hknown
  have hpath : w.files.path = some i := h.coherent.linked k i (by rw [LockWorld.view, hheld]; rfl)
  have hvalid := (h.named k (by simp [hheld])).valid
  have hread : w.readMetadata casefold i = .ok (w.sessions k).requested := by
    rw [LockWorld.readMetadata, if_pos hpath, hknown.1, LockSession.payload, decodeMetadata_encode hvalid]
    rfl
  unfold LockWorld.requireOwner
  rw [hheld]
  dsimp only [LockPhase.guard]
  rw [if_neg (by simp), LockWorld.verifyDescriptorPathIdentity, if_pos hpath, hread]
  simp [bind, Except.bind, pure, Except.pure]

end Owner

section Law

/-- A session that holds the file at the path has locked it, and claims it or may rewrite it. -/
theorem view_of_holds {s : LockSession} {i : Nat} (h : w.Annotated s) (hholds : s.phase.holds = some i) :
    s.phase.view.lock = some i ∧
      (w.files.path = some i → s.phase.view.claim = some i ∨ s.phase.view.approved = some i) := by
  obtain ⟨process, requested, takeOver, phase⟩ := s
  cases phase with
  | truncating j event | rewriting j event rest | flushing j event | verifying j event =>
    cases hholds
    cases event with
    | none => exact ⟨rfl, fun _ => Or.inl rfl⟩
    | some event => exact ⟨rfl, fun _ => Or.inr rfl⟩
  | syncing | held | releaseStat | releaseUnlink | unlocking =>
    cases hholds
    exact ⟨rfl, fun _ => Or.inl rfl⟩
  | releaseSync | releaseUnlock =>
    cases hholds
    exact ⟨rfl, fun hpath => absurd hpath h⟩
  | idle | creating | created | locking | inspecting | opening | opened | comparing | tryingLock | reading
  | deciding | abortUnlocking | abortClosing | releaseClose | closing | stating | unlinking | withdrawn
  | leaked => cases hholds

/-- Nobody else unlinks a file that is held, or writes to it. -/
theorem LockInv.untouched {actor : Option Nat} (h : LockInv casefold host w)
    (hstep : LockStep casefold host platform w actor w') {i : Nat} (hactor : actor ≠ some k)
    (hholds : (w.sessions k).phase.holds = some i) :
    w'.files.content i = w.files.content i ∧ (w.files.path = some i → w'.files.path = some i) := by
  obtain ⟨hlock, hright⟩ := view_of_holds (h.annotated k) hholds
  have hwritten : ∀ {l j event rest}, actor = some l →
      w.view l = (LockPhase.rewriting j event rest).view → i ≠ j := by
    rintro l j event rest rfl hself rfl
    obtain ⟨-, hrlock, hrright⟩ := @rewriting_view i event rest
    have hsame := h.coherent.sole (by rw [hself, hrlock]) (by rw [hself]; exact hrright) (Or.inl hlock)
    exact hactor (congrArg some hsame)
  cases hstep with
  | start | crash | acquire | look | raise | goOn | tryAgain | openFile | lock | decide | release | unlock
  | close => exact ⟨rfl, id⟩
  | @create l j hphase free unused =>
    have hne : i ≠ j := by
      rintro rfl
      exact unused (h.coherent.in_use (Or.inl hlock))
    refine ⟨create_content_ne hne, fun hpath => ?_⟩
    rw [free] at hpath
    cases hpath
  | @truncate l j event hphase =>
    obtain ⟨⟨hview, -⟩, -, -⟩ := @rewriting_view j event []
    have hself : w.view l = (LockPhase.rewriting j event []).view := by rw [LockWorld.view, hphase, hview]
    exact ⟨write_content_ne (hwritten rfl hself), id⟩
  | @write l j n event rest hphase some_ part =>
    have hself : w.view l = (LockPhase.rewriting j event rest).view := by rw [LockWorld.view, hphase]
    exact ⟨write_content_ne (hwritten rfl hself), id⟩
  | @writeLast l j event rest hphase =>
    have hself : w.view l = (LockPhase.rewriting j event rest).view := by rw [LockWorld.view, hphase]
    exact ⟨write_content_ne (hwritten rfl hself), id⟩
  | @unlink l phase hunlinks =>
    refine ⟨rfl, fun hpath => ?_⟩
    obtain ⟨j, hclaim, -⟩ := unlinks_view hunlinks
    have hlinked := h.coherent.linked l j hclaim
    obtain rfl := Option.some.inj (hpath.symm.trans hlinked)
    have hsame := h.coherent.sole hlock (hright hpath) (Or.inr hclaim)
    exact absurd (congrArg some hsame.symm) hactor

/-- `single` and `live`: at most one session has a lock that `require_owner` accepts, and its process
lives; `owner`: it is accepted until it is released. `next` and `advance`: a takeover has written the
epoch after the one it has found. `untouched`: nobody else unlinks or overwrites a file that is held. -/
structure RunLockLaw (casefold : String → String) (host : Host) (platform : Platform) (w : LockWorld) : Prop where
  single : ∀ k k' runId runId' ownerEpoch ownerEpoch', w.requireOwner casefold k runId ownerEpoch = .ok () →
    w.requireOwner casefold k' runId' ownerEpoch' = .ok () → k = k'
  live : ∀ k runId ownerEpoch, w.requireOwner casefold k runId ownerEpoch = .ok () →
    w.alive (w.sessions k).process = true
  owner : ∀ k i event, (w.sessions k).phase = .held i event →
    w.requireOwner casefold k (w.sessions k).requested.runId (w.sessions k).requested.ownerEpoch = .ok ()
  next : ∀ k i event, (w.sessions k).phase = .held i (some event) →
    w.files.content i = asciiBytes (lockText (w.sessions k).requested) ∧
      (w.sessions k).requested.ownerEpoch = event.previousOwner.ownerEpoch + 1 ∧
      ∃ earlier, w.written i = (w.sessions k).requested :: event.previousOwner :: earlier
  advance : ∀ i, EpochsAdvance (w.written i)
  untouched : ∀ actor w', LockStep casefold host platform w actor w' → ∀ k i, actor ≠ some k →
    (w.sessions k).phase.holds = some i →
      w'.files.content i = w.files.content i ∧ (w.files.path = some i → w'.files.path = some i)

theorem run_lock_law {leftover : Option Bytes} (h : LockReachable casefold host platform leftover w) :
    RunLockLaw casefold host platform w where
  single := by
    intro k k' runId runId' ownerEpoch ownerEpoch' hk hk'
    have hinv := lockInv_reachable h
    obtain ⟨i, hguard, hpath⟩ := requireOwner_ok hk
    obtain ⟨i', hguard', hpath'⟩ := requireOwner_ok hk'
    obtain rfl := Option.some.inj (hpath.symm.trans hpath')
    exact hinv.coherent.alone k k' i (claim_of_guard (hinv.annotated k) hguard hpath)
      (claim_of_guard (hinv.annotated k') hguard' hpath)
  live := by
    intro k runId ownerEpoch hk
    obtain ⟨i, hguard, -⟩ := requireOwner_ok hk
    exact ((lockInv_reachable h).named k (busy_of (f := LockPhase.guard) rfl hguard)).live
  owner := by
    intro k i event hheld
    exact (lockInv_reachable h).owner hheld
  next := by
    intro k i event hheld
    have hknown := (lockInv_reachable h).annotated k
    unfold LockWorld.Annotated at hknown
    rw [hheld] at hknown
    obtain ⟨hcontent, rest, hwritten, ⟨-, hepoch⟩, hprevious⟩ := hknown
    refine ⟨hcontent, hepoch, rest.tail, ?_⟩
    rw [hwritten, List.eq_cons_of_mem_head? hprevious]
    rfl
  advance := (lockInv_reachable h).advance
  untouched := by
    intro actor w' hstep k i hactor hholds
    exact (lockInv_reachable h).untouched hstep hactor hholds

/-- Whatever writers crashed on it, a lock file reads as its last owner in full or not at all. -/
theorem lock_file_fenced {leftover : Option Bytes} (h : LockReachable casefold host platform leftover w)
    (i : Nat) : (w.written i).Pairwise (fun new old => old.ownerEpoch < new.ownerEpoch) ∧
      ∀ m, decodeMetadata casefold (w.files.content i) = .ok m → (w.written i).head? = some m := by
  have hinv := lockInv_reachable h
  refine ⟨?_, hinv.recorded i⟩
  refine @List.IsChain.pairwise _ _ _ ⟨fun h h' => h'.trans h⟩ ((hinv.advance i).imp ?_)
  intro new old hnext
  omega

/-- The owner that the run of a later process finds in the lock file, and the later process. -/
def staleOwner : RunLockMetadata := exampleProcess.metadata exampleRunId 0

def laterOwner : RunLockMetadata :=
  { staleOwner with pid := 5151, processStartFingerprint := "linux-start-ticks:200", ownerEpoch := 1 }

def laterHost : Host := ⟨fun _ => 5151, fun _ => "linux-start-ticks:200"⟩

def inspectLater (pid : Nat) : ProcessProbe := if pid = 4242 then .absent else .present "linux-start-ticks:200"

theorem staleOwner_valid : staleOwner.Valid asciiCasefold :=
  exampleProcess.metadata_valid (by decide) (Nat.zero_le _)

theorem staleOwner_codec :
    ∃ raw, encodeMetadata staleOwner = .ok raw ∧
      decodeMetadata asciiCasefold raw = .ok staleOwner ∧ encodeMetadata staleOwner = .ok raw ∧
      ∃ e, decodeMetadata asciiCasefold [] = .error e := by
  obtain ⟨raw, hraw, hdecode⟩ := metadata_codec.1 _ _ staleOwner_valid
  refine ⟨raw, hraw, hdecode, metadata_codec.2.1 _ _ _ hdecode, ?_⟩
  have hne : [] ≠ raw := by
    rintro rfl
    cases hdecode
  rcases metadata_codec.2.2 asciiCasefold raw [] staleOwner hraw hne with h | ⟨_, _, _, _, h⟩
  · exact h
  · cases h

theorem laterOwner_taken : ∃ w, LockReachable asciiCasefold laterHost .posix
      (some (asciiBytes (lockText staleOwner))) w ∧
    (w.sessions 0).phase = .held 0 (some ⟨staleOwner, laterOwner, .processAbsent⟩) := by
  have hvalid : laterOwner.postInit asciiCasefold = .ok laterOwner :=
    postInit_ok.2 ⟨rfl, { staleOwner_valid with
      pid := by decide, fingerprint := by decide, ownerEpoch := by decide }⟩
  have hhonest : ∀ alive, laterHost.Honest alive inspectLater := fun _ _ _ => Or.inr rfl
  have hgranted : acquireExistingLock asciiCasefold (asciiBytes (lockText staleOwner)) laterOwner true
      inspectLater = .ok ⟨staleOwner, laterOwner, .processAbsent⟩ :=
    acquireExistingLock_eq staleOwner_valid rfl rfl rfl
  have hstart : LockReachable asciiCasefold laterHost .posix (some (asciiBytes (lockText staleOwner))) _ := .start
  have hasked := (hstart.step (.start (p := 0))).step
    (@LockStep.acquire asciiCasefold laterHost .posix _ 0 0 laterOwner true rfl rfl hvalid rfl rfl)
  have hopened := ((hasked.step (.look (k := 0) rfl)).step (.look (k := 0) rfl)).step
    (.openFile (k := 0) (i := 0) rfl rfl)
  have hread := (((hopened.step (.look (k := 0) rfl)).step (.look (k := 0) rfl)).step
    (.lock (k := 0) (i := 0) rfl rfl)).step (.look (k := 0) rfl)
  have hwritten := ((hread.step (.decide (k := 0) (i := 0) rfl (hhonest _) hgranted)).step
    (.truncate (k := 0) rfl)).step (.writeLast (k := 0) rfl)
  exact ⟨_, (hwritten.step (.look (k := 0) rfl)).step (.look (k := 0) rfl), rfl⟩

theorem later_owner_is_sole : ∃ w, LockReachable asciiCasefold laterHost .posix
      (some (asciiBytes (lockText staleOwner))) w ∧
    (w.sessions 0).phase = .held 0 (some ⟨staleOwner, laterOwner, .processAbsent⟩) ∧
    RunLockLaw asciiCasefold laterHost .posix w := by
  obtain ⟨w, hreach, hheld⟩ := laterOwner_taken
  exact ⟨w, hreach, hheld, run_lock_law hreach⟩

theorem later_owner_fenced : ∃ w, LockReachable asciiCasefold laterHost .posix
      (some (asciiBytes (lockText staleOwner))) w ∧
    (w.written 0).Pairwise fun new old => old.ownerEpoch < new.ownerEpoch :=
  laterOwner_taken.imp fun _ h => ⟨h.1, (lock_file_fenced h.1 0).1⟩

end Law

end WebhookConformance
