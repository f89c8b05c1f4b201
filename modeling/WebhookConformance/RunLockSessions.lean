import WebhookConformance.Library.LockedPath
import WebhookConformance.Takeover

/-! Any number of processes that acquire, check and release the lock of one run directory at the same
time. One step is one call of the operating system; between two of them all others may go on, and
every call may fail. -/
namespace WebhookConformance

section Sessions

/-- What is given up by unlocking, closing and unlinking in this order: a creation that has failed, or
on Windows a lock that is released. -/
inductive Withdrawal where
  | creation
  | release
  deriving DecidableEq, Repr

/-- Where a thread stands that acquires and releases the lock. The number is that of the file, the
event that of the takeover if the file is not its own creation. -/
inductive LockPhase where
  | idle
  -- `_create_locked_file`
  | creating
  | created (i : Nat)
  | locking (i : Nat)
  -- `_acquire_existing_lock` up to its decision
  | inspecting
  | opening
  | opened (i : Nat)
  | comparing (i : Nat)
  | tryingLock (i : Nat)
  | reading (i : Nat)
  | deciding (i : Nat) (raw : Bytes)
  | abortUnlocking (i : Nat)
  | abortClosing (i : Nat)
  -- `_rewrite_locked_file` and what follows it
  | truncating (i : Nat) (event : Option RunLockTakeoverEvent)
  | rewriting (i : Nat) (event : Option RunLockTakeoverEvent) (rest : Bytes)
  | flushing (i : Nat) (event : Option RunLockTakeoverEvent)
  | verifying (i : Nat) (event : Option RunLockTakeoverEvent)
  | syncing (i : Nat)
  | held (i : Nat) (event : Option RunLockTakeoverEvent)
  -- `release` on POSIX
  | releaseStat (i : Nat)
  | releaseUnlink (i : Nat)
  | releaseSync (i : Nat)
  | releaseUnlock (i : Nat)
  | releaseClose (i : Nat)
  -- the other order
  | unlocking (i : Nat) (of : Withdrawal)
  | closing (i : Nat) (of : Withdrawal)
  | stating (i : Nat) (of : Withdrawal)
  | unlinking (i : Nat) (of : Withdrawal)
  | withdrawn (of : Withdrawal)
  -- an error has left the descriptor open
  | leaked (i : Nat) (locked : Bool)
  deriving DecidableEq, Repr

/-- Where an error of the operating system, a failed check or an interrupt leads from here. -/
def LockPhase.raised : LockPhase → Option LockPhase
  | .creating | .inspecting | .opening => some .idle
  | .created i | .locking i => some (.closing i .creation)
  | .opened i | .comparing i | .tryingLock i => some (.abortClosing i)
  | .reading i | .deciding i _ | .truncating i (some _) | .rewriting i (some _) _ | .flushing i (some _)
  | .verifying i (some _) => some (.abortUnlocking i)
  | .truncating i none | .rewriting i none _ | .flushing i none | .verifying i none | .syncing i =>
    some (.unlocking i .creation)
  | .releaseStat i | .releaseUnlink i | .releaseSync i | .releaseUnlock i | .unlocking i _
  | .abortUnlocking i => some (.leaked i true)
  | .closing i _ => some (.leaked i false)
  | .stating _ of | .unlinking _ of => some (.withdrawn of)
  | .idle | .held _ _ | .releaseClose _ | .abortClosing _ | .withdrawn _ | .leaked _ _ => none

/-- What a step finds that only looks at the path and at the file, and where it leads. A file is
linked once if it is at the path, and not at all otherwise. -/
def LockPhase.looks (files : LockedPath Nat Bytes) : LockPhase → Option LockPhase
  -- `FileExistsError`, or `PermissionError`
  | .creating => some .inspecting
  | .created i => if files.path = some i then some (.locking i) else some (.closing i .creation)
  | .inspecting => if files.path.isSome then some .opening else some .idle
  | .opened i => if files.path = some i then some (.comparing i) else some (.abortClosing i)
  | .comparing i => if files.path = some i then some (.tryingLock i) else some (.abortClosing i)
  | .reading i =>
    if files.path = some i then some (.deciding i (files.content i)) else some (.abortUnlocking i)
  | .flushing i event => some (.verifying i event)
  | .verifying i none => if files.path = some i then some (.syncing i) else some (.unlocking i .creation)
  | .verifying i (some event) =>
    if files.path = some i then some (.held i (some event)) else some (.abortUnlocking i)
  | .syncing i => some (.held i none)
  | .releaseStat i => if files.path = some i then some (.releaseUnlink i) else some (.releaseSync i)
  | .releaseSync i => some (.releaseUnlock i)
  | .stating i of => if files.path = some i then some (.unlinking i of) else some (.withdrawn of)
  | .withdrawn _ => some .idle
  | _ => none

/-- Where the lock is given back, and where that leads. -/
def LockPhase.unlocks : LockPhase → Option (Nat × LockPhase)
  | .abortUnlocking i => some (i, .abortClosing i)
  | .releaseUnlock i => some (i, .releaseClose i)
  | .unlocking i of => some (i, .closing i of)
  | _ => none

def LockPhase.closes : LockPhase → Option LockPhase
  | .abortClosing _ | .releaseClose _ => some .idle
  | .closing i of => some (.stating i of)
  | _ => none

def LockPhase.locks : LockPhase → Option (Nat × LockPhase)
  | .locking i => some (i, .truncating i none)
  | .tryingLock i => some (i, .reading i)
  | _ => none

def LockPhase.unlinks : LockPhase → Option LockPhase
  | .releaseUnlink i => some (.releaseSync i)
  | .unlinking _ of => some (.withdrawn of)
  | _ => none

inductive Platform where
  | posix
  | windows
  deriving DecidableEq, Repr

def Platform.release (i : Nat) : Platform → LockPhase
  | .posix => .releaseStat i
  | .windows => .unlocking i .release

structure LockSession where
  process : Nat
  requested : RunLockMetadata
  takeOver : Bool
  phase : LockPhase
  deriving DecidableEq, Repr

def LockSession.payload (s : LockSession) : Bytes := asciiBytes (lockText s.requested)

/-- `written` is no datum of the program: it is the metadata that was written to each file in full, the
last first. -/
structure LockWorld where
  files : LockedPath Nat Bytes
  sessions : Nat → LockSession
  alive : Nat → Bool
  written : Nat → List RunLockMetadata

def LockWorld.setPhase (w : LockWorld) (k : Nat) (phase : LockPhase) : LockWorld :=
  { w with sessions := Function.update w.sessions k { w.sessions k with phase } }

def LockWorld.setFiles (w : LockWorld) (files : LockedPath Nat Bytes) : LockWorld := { w with files }

/-- How the processes of the host are told apart. -/
structure Host where
  pid : Nat → Nat
  startFingerprint : Nat → String

/-- Inspection never reports a live process as dead. -/
def Host.Honest (host : Host) (alive : Nat → Bool) (inspect : Nat → ProcessProbe) : Prop :=
  ∀ p, alive p = true →
    inspect (host.pid p) = .unverifiable ∨ inspect (host.pid p) = .present (host.startFingerprint p)

variable (casefold : String → String) (host : Host) (platform : Platform)

/-- The step is labelled with the session that makes it. -/
inductive LockStep : LockWorld → Option Nat → LockWorld → Prop
  | start {w : LockWorld} {p : Nat} :
      LockStep w none { w with alive := Function.update w.alive p true }
  | crash {w : LockWorld} {p : Nat} :
      LockStep w none
        { w with
          files := w.files.close fun k => (w.sessions k).process = p
          sessions := fun k =>
            if (w.sessions k).process = p then { w.sessions k with phase := .idle } else w.sessions k
          alive := Function.update w.alive p false }
  | acquire {w : LockWorld} {k p : Nat} {requested : RunLockMetadata} {takeOver : Bool}
      (idle : (w.sessions k).phase = .idle) (live : w.alive p = true)
      (checked : requested.postInit casefold = .ok requested) (pid : requested.pid = host.pid p)
      (fingerprint : requested.processStartFingerprint = host.startFingerprint p) :
      LockStep w (some k)
        { w with sessions := Function.update w.sessions k ⟨p, requested, takeOver, .creating⟩ }
  | create {w : LockWorld} {k i : Nat} (at_ : (w.sessions k).phase = .creating) (free : w.files.path = none)
      (unused : ¬ w.files.InUse i) :
      LockStep w (some k)
        { (w.setPhase k (.created i)).setFiles (w.files.create k i []) with
          written := Function.update w.written i [] }
  | look {w : LockWorld} {k : Nat} {phase : LockPhase}
      (at_ : (w.sessions k).phase.looks w.files = some phase) : LockStep w (some k) (w.setPhase k phase)
  | raise {w : LockWorld} {k : Nat} {phase : LockPhase} (at_ : (w.sessions k).phase.raised = some phase) :
      LockStep w (some k) (w.setPhase k phase)
  -- the failed creation has raised `PermissionError`
  | goOn {w : LockWorld} {k : Nat} (at_ : (w.sessions k).phase = .withdrawn .creation) :
      LockStep w (some k) (w.setPhase k .inspecting)
  -- `_unlink_windows_released_lock` tries again
  | tryAgain {w : LockWorld} {k i : Nat} (at_ : (w.sessions k).phase = .unlinking i .release) :
      LockStep w (some k) (w.setPhase k (.stating i .release))
  | openFile {w : LockWorld} {k i : Nat} (at_ : (w.sessions k).phase = .opening) (found : w.files.path = some i) :
      LockStep w (some k) ((w.setPhase k (.opened i)).setFiles (w.files.openFile k i))
  | lock {w : LockWorld} {k i : Nat} {phase : LockPhase} (at_ : (w.sessions k).phase.locks = some (i, phase))
      (free : w.files.lockedBy i = none) :
      LockStep w (some k) ((w.setPhase k phase).setFiles (w.files.lock k i))
  | decide {w : LockWorld} {k i : Nat} {raw : Bytes} {inspect : Nat → ProcessProbe}
      {event : RunLockTakeoverEvent} (at_ : (w.sessions k).phase = .deciding i raw)
      (honest : host.Honest w.alive inspect)
      (granted : acquireExistingLock casefold raw (w.sessions k).requested (w.sessions k).takeOver inspect =
        .ok event) : LockStep w (some k) (w.setPhase k (.truncating i (some event)))
  | truncate {w : LockWorld} {k i : Nat} {event : Option RunLockTakeoverEvent}
      (at_ : (w.sessions k).phase = .truncating i event) :
      LockStep w (some k)
        ((w.setPhase k (.rewriting i event (w.sessions k).payload)).setFiles (w.files.write i []))
  | write {w : LockWorld} {k i n : Nat} {event : Option RunLockTakeoverEvent} {rest : Bytes}
      (at_ : (w.sessions k).phase = .rewriting i event rest) (some_ : 0 < n) (part : n < rest.length) :
      LockStep w (some k)
        ((w.setPhase k (.rewriting i event (rest.drop n))).setFiles
          (w.files.write i (w.files.content i ++ rest.take n)))
  | writeLast {w : LockWorld} {k i : Nat} {event : Option RunLockTakeoverEvent} {rest : Bytes}
      (at_ : (w.sessions k).phase = .rewriting i event rest) :
      LockStep w (some k)
        { (w.setPhase k (.flushing i event)).setFiles (w.files.write i (w.files.content i ++ rest)) with
          written := Function.update w.written i ((w.sessions k).requested :: w.written i) }
  | release {w : LockWorld} {k i : Nat} {event : Option RunLockTakeoverEvent}
      (at_ : (w.sessions k).phase = .held i event) :
      LockStep w (some k) (w.setPhase k (platform.release i))
  | unlock {w : LockWorld} {k i : Nat} {phase : LockPhase} (at_ : (w.sessions k).phase.unlocks = some (i, phase)) :
      LockStep w (some k) ((w.setPhase k phase).setFiles (w.files.unlock i))
  | close {w : LockWorld} {k : Nat} {phase : LockPhase} (at_ : (w.sessions k).phase.closes = some phase) :
      LockStep w (some k) ((w.setPhase k phase).setFiles (w.files.close fun a => a = k))
  | unlink {w : LockWorld} {k : Nat} {phase : LockPhase} (at_ : (w.sessions k).phase.unlinks = some phase) :
      LockStep w (some k) ((w.setPhase k phase).setFiles w.files.unlink)

def LockSession.unused : LockSession := ⟨0, ⟨"", 0, "", "", 0, ""⟩, false, .idle⟩

/-- No process runs, and there may be a lock file that an earlier one has left. -/
def LockWorld.start (leftover : Option Bytes) : LockWorld where
  files :=
    { path := leftover.map fun _ => 0
      content := fun _ => leftover.getD []
      opened := fun _ => none
      lockedBy := fun _ => none }
  sessions := fun _ => .unused
  alive := fun _ => false
  written := fun _ =>
    match decodeMetadata casefold (leftover.getD []) with
    | .ok m => [m]
    | .error _ => []

inductive LockReachable (leftover : Option Bytes) : LockWorld → Prop
  | start : LockReachable leftover (.start casefold leftover)
  | step {w w' : LockWorld} {actor : Option Nat} (h : LockReachable leftover w)
      (step : LockStep casefold host platform w actor w') : LockReachable leftover w'

end Sessions

section Guard

/-- The `RunLock` that the session has and has not closed: its descriptor, which may be gone. -/
def LockPhase.guard : LockPhase → Option (Option Nat)
  | .held i _ | .releaseStat i | .releaseUnlink i | .releaseSync i | .releaseUnlock i | .releaseClose i
  | .unlocking i .release | .closing i .release => some (some i)
  | .stating _ .release | .unlinking _ .release | .withdrawn .release => some none
  | _ => none

inductive RequireOwnerError where
  | released
  | badDescriptor
  | lock (error : RunLockError)
  deriving DecidableEq, Repr

variable (casefold : String → String) (w : LockWorld)

/-- `_verify_descriptor_path_identity`. -/
def LockWorld.verifyDescriptorPathIdentity (i : Nat) : Except RequireOwnerError Unit :=
  if w.files.path = some i then .ok () else .error (.lock .metadata)

/-- `_read_metadata`, which checks first that the file is still linked. -/
def LockWorld.readMetadata (i : Nat) : Except RequireOwnerError RunLockMetadata :=
  if w.files.path = some i then (decodeMetadata casefold (w.files.content i)).mapError .lock
  else .error (.lock .metadata)

/-- `RunLock.require_owner`, for the directory of the lock. -/
def LockWorld.requireOwner (k : Nat) (runId : String) (ownerEpoch : Nat) : Except RequireOwnerError Unit :=
  match (w.sessions k).phase.guard with
  | none => .error .released
  | some descriptor =>
    if (w.sessions k).requested.runId ≠ runId ∨ (w.sessions k).requested.ownerEpoch ≠ ownerEpoch then
      .error (.lock .epoch)
    else match descriptor with
      | none => .error .badDescriptor
      | some i => do
        w.verifyDescriptorPathIdentity i
        let m ← w.readMetadata casefold i
        if m ≠ (w.sessions k).requested then throw (.lock .metadata)

/-- The lock file that the session holds: it has locked the file, and has decided to own it or has not
yet given it back. -/
def LockPhase.holds : LockPhase → Option Nat
  | .truncating i _ | .rewriting i _ _ | .flushing i _ | .verifying i _ | .syncing i | .held i _
  | .releaseStat i | .releaseUnlink i | .releaseSync i | .releaseUnlock i | .unlocking i _ => some i
  | _ => none

end Guard

end WebhookConformance
