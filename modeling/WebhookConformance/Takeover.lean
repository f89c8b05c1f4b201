import WebhookConformance.RunLock

/-! Runs, resumes and crashes on one run directory: the lock file and `runs.owner_epoch` as
`FullRunRunner.run` and `ResumeService._resume_workflow` change them. -/
namespace WebhookConformance

/-- A process that can name itself: what `acquire_run_lock` asks of its platform. -/
structure LocalProcess (casefold : String → String) where
  pid : Nat
  processStartFingerprint : String
  hostname : String
  wallTimestamp : String
  pid_range : 1 ≤ pid ∧ pid ≤ maxPid
  fingerprint_text : boundedText maxProcessFingerprintBytes processStartFingerprint = true
  hostname_text : boundedText maxHostnameBytes hostname = true
  hostname_canonical : normalizeHostname casefold hostname = .ok hostname
  timestamp_text : boundedText maxTimestampBytes wallTimestamp = true
  timestamp_utc : canonicalUtc wallTimestamp = true

def LocalProcess.metadata {casefold : String → String} (p : LocalProcess casefold) (runId : String)
    (ownerEpoch : Nat) : RunLockMetadata :=
  { runId, ownerEpoch, pid := p.pid, processStartFingerprint := p.processStartFingerprint,
    hostname := p.hostname, wallTimestamp := p.wallTimestamp }

/-- The part of the `runs` row and of its attempts that the preflight reads. -/
structure RunRow where
  ownerEpoch : Nat
  state : RunState
  containsAmbiguity : Bool
  deriving DecidableEq, Repr

/-- What survives a crash. -/
structure RunDirectory where
  lock : Option Bytes
  run : Option RunRow
  deriving DecidableEq, Repr

inductive ResumeError where
  | noRun
  | terminalRun
  | lock (error : RunLockError)
  | epoch
  deriving DecidableEq, Repr

/-- One resume invocation; `policy` says that `on_ambiguous` was given. -/
structure ResumeCall (casefold : String → String) where
  process : LocalProcess casefold
  inspect : Nat → ProcessProbe
  takeOver : Bool
  policy : Bool

def RunRow.resumable (row : RunRow) : Prop := row.state ∉ [.completed, .cancelled, .failed]

instance (row : RunRow) : Decidable row.resumable := by
  unfold RunRow.resumable
  infer_instance

variable {casefold : String → String} (runId : String)

/-- `_resume_workflow` up to the first change of the lock file: the preflight's row and the
grant, or nothing for a read-only result. -/
def acquireForResume (d : RunDirectory) (call : ResumeCall casefold) :
    Except ResumeError (Option (RunRow × LockGrant)) :=
  match d.run with
  | none => .error .noRun
  | some row =>
    if ¬ row.resumable then .error .terminalRun
    else if row.containsAmbiguity ∧ !call.policy then .ok none
    else
      match acquireRunLock casefold d.lock (call.process.metadata runId (row.ownerEpoch + 1))
        call.takeOver call.inspect with
      | .ok grant => .ok (some (row, grant))
      | .error e => .error (.lock e)

def advanceResumeOwnerEpoch (d : RunDirectory) (previousOwnerEpoch newOwnerEpoch : Nat) :
    Except ResumeError RunDirectory :=
  if newOwnerEpoch ≠ previousOwnerEpoch + 1 then .error .epoch
  else
    match d.run with
    | some row =>
      if row.ownerEpoch = previousOwnerEpoch then
        .ok { d with run := some { row with ownerEpoch := newOwnerEpoch } }
      else .error .epoch
    | none => .error .epoch

/-- A resume that nothing interrupts and whose preparation raises nothing, up to the commit of
the new owner epoch. -/
def resumeOwnership (d : RunDirectory) (call : ResumeCall casefold) :
    Except ResumeError (Option RunDirectory) := do
  match ← acquireForResume runId d call with
  | none => return none
  | some (row, grant) =>
    let next ← advanceResumeOwnerEpoch { d with lock := some grant.payload } row.ownerEpoch
      grant.owner.ownerEpoch
    return some next

/-- Who holds the lock, and for a resume the epoch its preflight read. -/
inductive Purpose where
  | run
  | resume (previousOwnerEpoch : Nat)
  deriving DecidableEq, Repr

/-- Where the one process at work stands; `rest` is what `_rewrite_locked_file` has still to
write after it truncated the file. -/
inductive Phase where
  | idle
  | rewriting (purpose : Purpose) (owner : RunLockMetadata) (rest : Bytes)
  | acquired (purpose : Purpose) (owner : RunLockMetadata)
  | owning (owner : RunLockMetadata)
  deriving DecidableEq, Repr

/-- `lastOwner` is no datum of the program: it is the process that held the lock last. -/
structure OwnerState where
  directory : RunDirectory
  phase : Phase
  lastOwner : Option RunLockMetadata
  deriving DecidableEq, Repr

/-- The file is created or truncated, and the operating-system lock is held. -/
def OwnerState.rewrite (s : OwnerState) (purpose : Purpose) (grant : LockGrant) : OwnerState :=
  { directory := { s.directory with lock := some [] }
    phase := .rewriting purpose grant.owner grant.payload
    lastOwner := some grant.owner }

def OwnerState.crash (s : OwnerState) : OwnerState := { s with phase := .idle }

inductive OwnerStep (casefold : String → String) (runId : String) : OwnerState → OwnerState → Prop
  | run {s : OwnerState} {p : LocalProcess casefold} {ownerEpoch : Nat} {grant : LockGrant}
      {inspect : Nat → ProcessProbe} (idle : s.phase = .idle) (fresh : s.directory = ⟨none, none⟩)
      (granted : acquireRunLock casefold none (p.metadata runId ownerEpoch) false inspect =
        .ok grant) : OwnerStep casefold runId s (s.rewrite .run grant)
  | resume {s : OwnerState} {call : ResumeCall casefold} {row : RunRow} {grant : LockGrant}
      (idle : s.phase = .idle)
      (granted : acquireForResume runId s.directory call = .ok (some (row, grant))) :
      OwnerStep casefold runId s (s.rewrite (.resume row.ownerEpoch) grant)
  | write {s : OwnerState} {purpose : Purpose} {owner : RunLockMetadata} {rest written : Bytes}
      {n : Nat} (at_ : s.phase = .rewriting purpose owner rest)
      (file : s.directory.lock = some written) (some_ : 0 < n) (bound : n ≤ rest.length) :
      OwnerStep casefold runId s
        { s with
          directory := { s.directory with lock := some (written ++ rest.take n) }
          phase := .rewriting purpose owner (rest.drop n) }
  | written {s : OwnerState} {purpose : Purpose} {owner : RunLockMetadata}
      (at_ : s.phase = .rewriting purpose owner []) :
      OwnerStep casefold runId s { s with phase := .acquired purpose owner }
  | bootstrap {s : OwnerState} {owner : RunLockMetadata} (at_ : s.phase = .acquired .run owner) :
      OwnerStep casefold runId s
        { s with
          directory := { s.directory with run := some ⟨owner.ownerEpoch, .planned, false⟩ }
          phase := .owning owner }
  | advance {s : OwnerState} {previous : Nat} {owner : RunLockMetadata} {d : RunDirectory}
      (at_ : s.phase = .acquired (.resume previous) owner)
      (advanced : advanceResumeOwnerEpoch s.directory previous owner.ownerEpoch = .ok d) :
      OwnerStep casefold runId s { s with directory := d, phase := .owning owner }
  | journal {s : OwnerState} {owner : RunLockMetadata} {row : RunRow} {state : RunState}
      {ambiguity : Bool} (at_ : s.phase = .owning owner) (stored : s.directory.run = some row) :
      OwnerStep casefold runId s
        { s with
          directory :=
            { s.directory with run := some ⟨row.ownerEpoch, state, ambiguity⟩ } }
  | release {s : OwnerState} {owner : RunLockMetadata}
      (at_ : s.phase = .owning owner ∨ ∃ purpose, s.phase = .acquired purpose owner) :
      OwnerStep casefold runId s
        { s with directory := { s.directory with lock := none }, phase := .idle }

/-- The states of all sequences of runs and resumes in which a crash happens only where
`crashes` allows it. -/
inductive OwnerReachable (casefold : String → String) (runId : String)
    (crashes : OwnerState → Prop) : OwnerState → Prop
  | start : OwnerReachable casefold runId crashes ⟨⟨none, none⟩, .idle, none⟩
  | step {s t : OwnerState} (h : OwnerReachable casefold runId crashes s)
      (step : OwnerStep casefold runId s t) : OwnerReachable casefold runId crashes t
  | crash {s : OwnerState} (h : OwnerReachable casefold runId crashes s) (allowed : crashes s) :
      OwnerReachable casefold runId crashes s.crash

variable {runId} {s t : OwnerState} {owner : RunLockMetadata} {call : ResumeCall casefold}

theorem LocalProcess.metadata_valid (p : LocalProcess casefold) {ownerEpoch : Nat}
    (hrun : isRunId runId = true) (hepoch : ownerEpoch ≤ maxOwnerEpoch) :
    (p.metadata runId ownerEpoch).Valid casefold :=
  ⟨hrun, p.pid_range, p.fingerprint_text, p.hostname_text, p.hostname_canonical, hepoch,
    p.timestamp_text, p.timestamp_utc⟩

theorem acquireExistingLock_ok {raw : Bytes} {requested : RunLockMetadata} {takeOver : Bool}
    {inspect : Nat → ProcessProbe} {event : RunLockTakeoverEvent}
    (h : acquireExistingLock casefold raw requested takeOver inspect = .ok event) :
    ∃ previous reason, event = ⟨previous, requested, reason⟩ ∧ decodeMetadata casefold raw = .ok previous ∧
      classifyStaleOwner previous requested.hostname inspect = .ok (some reason) ∧
      requested.ownerEpoch = previous.ownerEpoch + 1 := by
  unfold acquireExistingLock at h
  obtain ⟨previous, hdecode, h1⟩ := Checked.bind_ok h
  dsimp only at h1
  split at h1
  · cases h1
  obtain ⟨reason, hreason, h2⟩ := Checked.bind_ok h1
  cases reason with
  | none => cases h2
  | some reason =>
    dsimp only at h2
    split at h2
    · cases h2
    split at h2
    · cases h2
    · next hepoch =>
      cases h2
      exact ⟨previous, reason, rfl, hdecode, hreason, not_not.1 hepoch⟩

theorem acquireRunLock_ok {lock : Option Bytes} {requested : RunLockMetadata} {takeOver : Bool}
    {inspect : Nat → ProcessProbe} {grant : LockGrant}
    (h : acquireRunLock casefold lock requested takeOver inspect = .ok grant) :
    grant.owner = requested ∧ requested.Valid casefold ∧
      grant.payload = asciiBytes (lockText requested) ∧
      ∀ raw, lock = some raw → ∃ event,
        acquireExistingLock casefold raw requested takeOver inspect = .ok event := by
  unfold acquireRunLock at h
  obtain ⟨checked, hpost, h1⟩ := Checked.bind_ok h
  obtain ⟨rfl, hvalid⟩ := postInit_ok.1 hpost
  obtain ⟨event, hevent, h2⟩ := Checked.bind_ok h1
  obtain ⟨payload, hpayload, h3⟩ := Checked.bind_ok h2
  cases h3
  refine ⟨rfl, hvalid, Except.ok.inj (hpayload.symm.trans (encodeMetadata_ok hvalid)), ?_⟩
  rintro raw rfl
  cases hex : acquireExistingLock casefold raw checked takeOver inspect with
  | ok event => exact ⟨event, rfl⟩
  | error e =>
    rw [takeoverOf, hex] at hevent
    cases hevent

theorem acquireForResume_ok {d : RunDirectory} {row : RunRow} {grant : LockGrant}
    (h : acquireForResume runId d call = .ok (some (row, grant))) :
    d.run = some row ∧ row.resumable ∧
      acquireRunLock casefold d.lock (call.process.metadata runId (row.ownerEpoch + 1))
        call.takeOver call.inspect = .ok grant := by
  unfold acquireForResume at h
  split at h
  · cases h
  next row' hrow =>
  split at h
  · cases h
  next hresumable =>
  split at h
  · cases h
  split at h
  · next grant' hgrant =>
    cases h
    exact ⟨hrow, not_not.1 hresumable, hgrant⟩
  · cases h

theorem advanceResumeOwnerEpoch_eq {d : RunDirectory} {row : RunRow} (hrow : d.run = some row) :
    advanceResumeOwnerEpoch d row.ownerEpoch (row.ownerEpoch + 1) =
      .ok { d with run := some { row with ownerEpoch := row.ownerEpoch + 1 } } := by
  simp [advanceResumeOwnerEpoch, hrow]

/-- The lock file holds the encoding of its owner, less what is still to be written. -/
structure OwnedFile (casefold : String → String) (runId : String) (lock : Option Bytes)
    (lastOwner : Option RunLockMetadata) (owner : RunLockMetadata) (rest : Bytes) : Prop where
  valid : owner.Valid casefold
  run : owner.runId = runId
  last : lastOwner = some owner
  file : ∃ written, lock = some written ∧ asciiBytes (lockText owner) = written ++ rest

/-- The journal as the holder of the lock found it: a run has no row yet, a resume is one
epoch ahead of its row. -/
def Purpose.Before (d : RunDirectory) (owner : RunLockMetadata) : Purpose → Prop
  | .run => d.run = none
  | .resume previous => ∃ row, d.run = some row ∧ row.resumable ∧ row.ownerEpoch = previous ∧
      owner.ownerEpoch = previous + 1

/-- Lock epoch and journal epoch agree. -/
def Agree (casefold : String → String) (runId : String) (d : RunDirectory)
    (lastOwner : Option RunLockMetadata) (owner : RunLockMetadata) : Prop :=
  OwnedFile casefold runId d.lock lastOwner owner [] ∧
    ∃ row, d.run = some row ∧ row.ownerEpoch = owner.ownerEpoch

def PhaseInv (casefold : String → String) (runId : String) (s : OwnerState) : Prop :=
  match s.phase with
  | .idle => True
  | .rewriting purpose owner rest =>
    OwnedFile casefold runId s.directory.lock s.lastOwner owner rest ∧
      purpose.Before s.directory owner
  | .acquired purpose owner =>
    OwnedFile casefold runId s.directory.lock s.lastOwner owner [] ∧
      purpose.Before s.directory owner
  | .owning owner => Agree casefold runId s.directory s.lastOwner owner

theorem rewrite_owned {requested : RunLockMetadata} {lock : Option Bytes} {takeOver : Bool}
    {inspect : Nat → ProcessProbe} {grant : LockGrant}
    (h : acquireRunLock casefold lock requested takeOver inspect = .ok grant)
    (hrun : requested.runId = runId) :
    OwnedFile casefold runId (some []) (some grant.owner) grant.owner grant.payload := by
  obtain ⟨howner, hvalid, hpayload, _⟩ := acquireRunLock_ok h
  rw [howner, hpayload]
  exact ⟨hvalid, hrun, rfl, [], rfl, rfl⟩

theorem phaseInv_step (h : OwnerStep casefold runId s t) (hs : PhaseInv casefold runId s) :
    PhaseInv casefold runId t := by
  cases h with
  | run idle fresh granted =>
    refine ⟨rewrite_owned granted rfl, ?_⟩
    simp [Purpose.Before, OwnerState.rewrite, fresh]
  | resume idle granted =>
    obtain ⟨hrow, hresumable, hgrant⟩ := acquireForResume_ok granted
    refine ⟨rewrite_owned hgrant rfl, ?_⟩
    exact ⟨_, hrow, hresumable, rfl, congrArg RunLockMetadata.ownerEpoch (acquireRunLock_ok hgrant).1⟩
  | @write purpose owner rest written n at_ file some_ bound =>
    simp only [PhaseInv, at_] at hs
    obtain ⟨⟨hvalid, hrun, hlast, written', hfile, hsplit⟩, hbefore⟩ := hs
    obtain rfl : written = written' := Option.some.inj (file.symm.trans hfile)
    refine ⟨⟨hvalid, hrun, hlast, _, rfl, ?_⟩, ?_⟩
    · rw [hsplit, List.append_assoc, List.take_append_drop]
    · cases purpose with
      | run => exact hbefore
      | resume previous => exact hbefore
  | written at_ =>
    simp only [PhaseInv, at_] at hs
    exact hs
  | bootstrap at_ =>
    simp only [PhaseInv, at_] at hs
    exact ⟨hs.1, _, rfl, rfl⟩
  | advance at_ advanced =>
    simp only [PhaseInv, at_] at hs
    obtain ⟨hfile, row, hrow, _, rfl, hepoch⟩ := hs
    rw [hepoch, advanceResumeOwnerEpoch_eq hrow] at advanced
    cases advanced
    exact ⟨hfile, _, rfl, hepoch.symm⟩
  | journal at_ stored =>
    simp only [PhaseInv, at_] at hs ⊢
    obtain ⟨hfile, row, hrow, hepoch⟩ := hs
    obtain rfl := Option.some.inj (stored.symm.trans hrow)
    exact ⟨hfile, _, rfl, hepoch⟩
  | release at_ => trivial

theorem phaseInv_reachable {crashes : OwnerState → Prop}
    (h : OwnerReachable casefold runId crashes s) : PhaseInv casefold runId s := by
  induction h with
  | start => trivial
  | step _ hstep ih => exact phaseInv_step hstep ih
  | crash _ _ _ => trivial

/-- A resume that has begun to change the lock file and has not committed its owner epoch. -/
def InWindow (s : OwnerState) : Prop :=
  (∃ previous owner rest, s.phase = .rewriting (.resume previous) owner rest) ∨
    ∃ previous owner, s.phase = .acquired (.resume previous) owner

/-- What an idle directory looks like when no crash fell into that window. -/
def Quiet (casefold : String → String) (runId : String) (s : OwnerState) : Prop :=
  s.directory.lock = none ∨ s.directory.run = none ∨
    ∃ owner, Agree casefold runId s.directory s.lastOwner owner

theorem quiet_step (h : OwnerStep casefold runId s t) (ht : t.phase = .idle) :
    Quiet casefold runId t := by
  cases h with
  | release at_ => exact .inl rfl
  | journal at_ stored =>
    rw [at_] at ht
    cases ht
  | _ => cases ht

theorem quiet_crash (hs : PhaseInv casefold runId s) (hw : ¬ InWindow s)
    (hq : s.phase = .idle → Quiet casefold runId s) : Quiet casefold runId s.crash := by
  cases hphase : s.phase with
  | idle => exact hq hphase
  | rewriting purpose owner rest =>
    simp only [PhaseInv, hphase] at hs
    cases purpose with
    | run => exact .inr (.inl hs.2)
    | resume previous => exact absurd (.inl ⟨_, _, _, hphase⟩) hw
  | acquired purpose owner =>
    simp only [PhaseInv, hphase] at hs
    cases purpose with
    | run => exact .inr (.inl hs.2)
    | resume previous => exact absurd (.inr ⟨_, _, hphase⟩) hw
  | owning owner =>
    simp only [PhaseInv, hphase] at hs
    exact .inr (.inr ⟨owner, hs⟩)

theorem quiet_reachable (h : OwnerReachable casefold runId (fun s => ¬ InWindow s) s)
    (hidle : s.phase = .idle) : Quiet casefold runId s := by
  induction h with
  | start => exact .inl rfl
  | step _ hstep _ => exact quiet_step hstep hidle
  | crash h hallowed ih => exact quiet_crash (phaseInv_reachable h) hallowed ih

/-- The caller runs on the owner's host and its inspector shows that the owner is gone. -/
def ProvenAbsent (call : ResumeCall casefold) (owner : RunLockMetadata) : Prop :=
  owner.hostname = call.process.hostname ∧
    (call.inspect owner.pid = .absent ∨ ∃ fingerprint, call.inspect owner.pid =
      .present fingerprint ∧ fingerprint ≠ owner.processStartFingerprint)

/-- Every takeover of a resumable run whose last owner is proven absent gets the lock and
advances the owner epoch. -/
def TakeoverSucceeds (casefold : String → String) (runId : String) (s : OwnerState) : Prop :=
  ∀ (row : RunRow) (call : ResumeCall casefold), s.directory.run = some row → row.resumable →
    call.takeOver = true → (row.containsAmbiguity = true → call.policy = true) →
    (∀ owner, s.lastOwner = some owner → ProvenAbsent call owner) →
    ∃ d, resumeOwnership runId s.directory call = .ok (some d) ∧
      d.run = some { row with ownerEpoch := row.ownerEpoch + 1 }

theorem classifyStaleOwner_absent (h : ProvenAbsent call owner) :
    ∃ reason, classifyStaleOwner owner call.process.hostname call.inspect = .ok (some reason) := by
  obtain ⟨hhost, habsent | ⟨fingerprint, hpresent, hne⟩⟩ := h
  · exact ⟨.processAbsent, by simp [classifyStaleOwner, hhost, habsent]⟩
  · exact ⟨.pidReused, by simp [classifyStaleOwner, hhost, hpresent, hne]⟩

theorem acquireExistingLock_eq {requested : RunLockMetadata} {inspect : Nat → ProcessProbe}
    {reason : TakeoverReason} (hvalid : owner.Valid casefold) (hrun : owner.runId = requested.runId)
    (hepoch : requested.ownerEpoch = owner.ownerEpoch + 1)
    (hreason : classifyStaleOwner owner requested.hostname inspect = .ok (some reason)) :
    acquireExistingLock casefold (asciiBytes (lockText owner)) requested true inspect =
      .ok ⟨owner, requested, reason⟩ := by
  simp only [acquireExistingLock, decodeMetadata_encode hvalid, hrun, hepoch, hreason, bind,
    Except.bind, pure, Except.pure, ne_eq, not_true_eq_false, if_false, Bool.not_true,
    Bool.false_eq_true]

theorem acquireRunLock_agree {d : RunDirectory} {last : Option RunLockMetadata} {row : RunRow}
    (hid : isRunId runId = true) (hmax : row.ownerEpoch < maxOwnerEpoch) (hrow : d.run = some row)
    (hquiet : d.lock = none ∨ ∃ owner, Agree casefold runId d last owner)
    (habsent : ∀ owner, last = some owner → ProvenAbsent call owner) :
    ∃ grant, acquireRunLock casefold d.lock (call.process.metadata runId (row.ownerEpoch + 1)) true
      call.inspect = .ok grant := by
  have hvalid := call.process.metadata_valid hid (show row.ownerEpoch + 1 ≤ maxOwnerEpoch by omega)
  have hpost := postInit_ok.2 ⟨rfl, hvalid⟩
  obtain ⟨event, hevent⟩ : ∃ event, takeoverOf casefold d.lock
      (call.process.metadata runId (row.ownerEpoch + 1)) true call.inspect = .ok event := by
    rcases hquiet with hnone | ⟨owner, ⟨howner, hrun, hlast, written, hlock, hwritten⟩, row', hrow',
      hepoch⟩
    · exact ⟨none, by rw [hnone]; rfl⟩
    · obtain rfl := Option.some.inj (hrow.symm.trans hrow')
      obtain ⟨reason, hreason⟩ := classifyStaleOwner_absent (habsent owner hlast)
      rw [List.append_nil] at hwritten
      have hexisting : acquireExistingLock casefold (asciiBytes (lockText owner))
          (call.process.metadata runId (row.ownerEpoch + 1)) true call.inspect = .ok _ :=
        acquireExistingLock_eq howner hrun (congrArg (· + 1) hepoch) hreason
      refine ⟨some ⟨owner, call.process.metadata runId (row.ownerEpoch + 1), reason⟩, ?_⟩
      rw [hlock, takeoverOf, ← hwritten, hexisting]
      rfl
  refine ⟨⟨call.process.metadata runId (row.ownerEpoch + 1),
    asciiBytes (lockText (call.process.metadata runId (row.ownerEpoch + 1))), event⟩, ?_⟩
  simp only [acquireRunLock, hpost, hevent, encodeMetadata_ok hvalid, bind, Except.bind, pure,
    Except.pure]

theorem acquireForResume_of_quiet {row : RunRow} (hid : isRunId runId = true)
    (hq : Quiet casefold runId s) (hrow : s.directory.run = some row)
    (hmax : row.ownerEpoch < maxOwnerEpoch) (hresumable : row.resumable)
    (htake : call.takeOver = true) (hpolicy : row.containsAmbiguity = true → call.policy = true)
    (habsent : ∀ owner, s.lastOwner = some owner → ProvenAbsent call owner) :
    ∃ grant, acquireForResume runId s.directory call = .ok (some (row, grant)) := by
  have hquiet : s.directory.lock = none ∨
      ∃ owner, Agree casefold runId s.directory s.lastOwner owner := by
    rcases hq with hnone | hnone | hagree
    · exact .inl hnone
    · rw [hrow] at hnone
      cases hnone
    · exact .inr hagree
  have hpreview : ¬ (row.containsAmbiguity = true ∧ (!call.policy) = true) := by
    rintro ⟨ha, hp⟩
    rw [hpolicy ha] at hp
    cases hp
  obtain ⟨grant, hgrant⟩ := acquireRunLock_agree hid hmax hrow hquiet habsent
  refine ⟨grant, ?_⟩
  simp only [acquireForResume, hrow, not_not.2 hresumable, if_false, hpreview, htake, hgrant]

theorem takeoverSucceeds_of_quiet (hid : isRunId runId = true) (hq : Quiet casefold runId s)
    (hmax : ∀ row, s.directory.run = some row → row.ownerEpoch < maxOwnerEpoch) :
    TakeoverSucceeds casefold runId s := by
  intro row call hrow hresumable htake hpolicy habsent
  obtain ⟨grant, hacquire⟩ :=
    acquireForResume_of_quiet hid hq hrow (hmax row hrow) hresumable htake hpolicy habsent
  have hepoch : grant.owner.ownerEpoch = row.ownerEpoch + 1 :=
    congrArg RunLockMetadata.ownerEpoch (acquireRunLock_ok (acquireForResume_ok hacquire).2.2).1
  have hadvance := @advanceResumeOwnerEpoch_eq
    { s.directory with lock := some grant.payload } row hrow
  refine ⟨{ lock := some grant.payload,
            run := some { row with ownerEpoch := row.ownerEpoch + 1 } }, ?_, rfl⟩
  simp only [resumeOwnership, hacquire, hepoch, hadvance, bind, Except.bind, pure, Except.pure]

/-- After a crash in the window the lock file is torn, or its epoch is the one every later
resume asks for: no takeover is ever granted again. -/
theorem stuck_of_window (hs : PhaseInv casefold runId s) (hw : InWindow s)
    (call : ResumeCall casefold) (row : RunRow) (grant : LockGrant) :
    acquireForResume runId s.crash.directory call ≠ .ok (some (row, grant)) := by
  intro h
  obtain ⟨hrow, _, hgrant⟩ := acquireForResume_ok h
  obtain ⟨previous, owner, rest, hfile, hbefore⟩ : ∃ previous owner rest,
      OwnedFile casefold runId s.directory.lock s.lastOwner owner rest ∧
        (Purpose.resume previous).Before s.directory owner := by
    rcases hw with ⟨previous, owner, rest, hphase⟩ | ⟨previous, owner, hphase⟩
    · simp only [PhaseInv, hphase] at hs
      exact ⟨previous, owner, rest, hs⟩
    · simp only [PhaseInv, hphase] at hs
      exact ⟨previous, owner, [], hs⟩
  obtain ⟨hvalid, _, _, written, hlock, hwritten⟩ := hfile
  obtain ⟨_, _, _, hexisting⟩ := acquireRunLock_ok hgrant
  obtain ⟨event, hevent⟩ := hexisting written hlock
  obtain ⟨stored, -, -, hdecode, -, hepoch⟩ := acquireExistingLock_ok hevent
  by_cases hrest : rest = []
  · rw [hrest, List.append_nil] at hwritten
    rw [← hwritten, decodeMetadata_encode hvalid] at hdecode
    obtain ⟨row', hrow', _, hprevious, hnext⟩ := hbefore
    obtain rfl := Option.some.inj (hrow.symm.trans hrow')
    cases hdecode
    simp only [LocalProcess.metadata] at hepoch
    omega
  · obtain ⟨e, he⟩ := @decodeMetadata_torn casefold owner written rest hrest hwritten
    rw [he] at hdecode
    cases hdecode

theorem no_step_of_window (hs : PhaseInv casefold runId s) (hw : InWindow s) :
    ¬ OwnerStep casefold runId s.crash t := by
  intro h
  cases h with
  | run _ fresh _ =>
    -- the window belongs to a resume, so the run row is there
    have hnone : s.directory.run = none := congrArg RunDirectory.run fresh
    rcases hw with ⟨previous, owner, rest, hphase⟩ | ⟨previous, owner, hphase⟩
    all_goals
      simp only [PhaseInv, hphase, Purpose.Before] at hs
      obtain ⟨_, row, hrow, _⟩ := hs
      rw [hnone] at hrow
      cases hrow
  | resume _ granted => exact stuck_of_window hs hw _ _ _ granted
  | write at_ => cases at_
  | written at_ => cases at_
  | bootstrap at_ => cases at_
  | advance at_ => cases at_
  | journal at_ => cases at_
  | release at_ =>
    rcases at_ with h | ⟨_, h⟩
    · cases h
    · cases h

theorem no_grant_of_max {d : RunDirectory} {row : RunRow} (hrow : d.run = some row)
    (hmax : maxOwnerEpoch ≤ row.ownerEpoch) (next : RunDirectory) :
    resumeOwnership runId d call ≠ .ok (some next) := by
  intro h
  unfold resumeOwnership at h
  obtain ⟨acquired, hacquired, h1⟩ := Checked.bind_ok h
  cases acquired with
  | none => cases h1
  | some pair =>
    obtain ⟨row', grant⟩ := pair
    obtain ⟨hrow', _, hgrant⟩ := acquireForResume_ok hacquired
    obtain rfl := Option.some.inj (hrow.symm.trans hrow')
    have := (acquireRunLock_ok hgrant).2.1.ownerEpoch
    simp only [LocalProcess.metadata] at this
    omega

/-- The uninterrupted resume is a path of the step relation. -/
theorem resumeOwnership_steps {d : RunDirectory} (hidle : s.phase = .idle)
    (h : resumeOwnership runId s.directory call = .ok (some d)) :
    ∃ owner, Relation.ReflTransGen (OwnerStep casefold runId) s ⟨d, .owning owner, some owner⟩ := by
  unfold resumeOwnership at h
  obtain ⟨acquired, hacquired, h1⟩ := Checked.bind_ok h
  cases acquired with
  | none => cases h1
  | some pair =>
    obtain ⟨row, grant⟩ := pair
    obtain ⟨next, hadvance, h2⟩ := Checked.bind_ok h1
    cases h2
    obtain ⟨howner, _, hpayload, _⟩ := acquireRunLock_ok (acquireForResume_ok hacquired).2.2
    have hpos : 0 < grant.payload.length := by
      rw [hpayload]
      simp [asciiBytes, lockText]
    refine ⟨grant.owner, ?_⟩
    have hwrite : OwnerStep casefold runId (s.rewrite (.resume row.ownerEpoch) grant) _ :=
      .write rfl rfl hpos (Nat.le_refl _)
    rw [List.take_length, List.drop_length, List.nil_append] at hwrite
    refine .tail (.tail (.tail (.tail .refl (.resume hidle hacquired)) hwrite) (.written rfl)) ?_
    exact .advance rfl hadvance

def exampleRunId : String := "00000000-0000-4000-8000-000000000000"

/-- `str.casefold` on ASCII text. -/
def asciiCasefold (text : String) : String := String.ofList (text.toList.map Char.toLower)

def exampleProcess : LocalProcess asciiCasefold where
  pid := 4242
  processStartFingerprint := "linux-start-ticks:100"
  hostname := "runner"
  wallTimestamp := "2026-01-01T00:00:00.000000Z"
  pid_range := by decide
  fingerprint_text := by decide
  hostname_text := by decide
  hostname_canonical := by decide
  timestamp_text := by decide
  timestamp_utc := by decide

def exampleTakeover : ResumeCall asciiCasefold :=
  { process := exampleProcess, inspect := fun _ => .absent, takeOver := true, policy := false }

/-- The directory of a run that crashed right after its bootstrap. -/
def crashedRun : OwnerState :=
  { directory :=
      { lock := some (asciiBytes (lockText (exampleProcess.metadata exampleRunId 0)))
        run := some ⟨0, .planned, false⟩ }
    phase := .idle
    lastOwner := some (exampleProcess.metadata exampleRunId 0) }

theorem crashedRun_reachable {crashes : OwnerState → Prop}
    (h : ∀ s owner, s.phase = .owning owner → crashes s) :
    OwnerReachable asciiCasefold exampleRunId crashes crashedRun := by
  have hvalid := exampleProcess.metadata_valid (show isRunId exampleRunId = true by decide)
    (Nat.zero_le maxOwnerEpoch)
  have hgrant : acquireRunLock asciiCasefold none (exampleProcess.metadata exampleRunId 0) false
      (fun _ => .absent) = .ok ⟨exampleProcess.metadata exampleRunId 0,
        asciiBytes (lockText (exampleProcess.metadata exampleRunId 0)), none⟩ := by
    simp only [acquireRunLock, postInit_ok.2 ⟨rfl, hvalid⟩, takeoverOf, encodeMetadata_ok hvalid,
      bind, Except.bind, pure, Except.pure]
  have hpos : 0 < (asciiBytes (lockText (exampleProcess.metadata exampleRunId 0))).length := by
    simp [asciiBytes, lockText]
  have hstart : OwnerReachable asciiCasefold exampleRunId crashes ⟨⟨none, none⟩, .idle, none⟩ :=
    .start
  have hbegun := hstart.step (.run rfl rfl hgrant)
  have hwritten := hbegun.step (.write rfl rfl hpos (Nat.le_refl _))
  rw [List.take_length, List.drop_length, List.nil_append] at hwritten
  exact (hwritten.step (.written rfl)).step (.bootstrap rfl) |>.crash (h _ _ rfl)

end WebhookConformance
