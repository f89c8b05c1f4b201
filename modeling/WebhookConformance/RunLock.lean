import WebhookConformance.Domain
import WebhookConformance.Identifiers
import WebhookConformance.Library.JsonText

/-! The run-directory ownership lock of `journal/run_lock.py`: its file format and the
decision to create it or to take it over. -/
namespace WebhookConformance

def maxLockBytes : Nat := 16384
def maxHostnameBytes : Nat := 255
def maxProcessFingerprintBytes : Nat := 512
def maxTimestampBytes : Nat := 64
def maxOwnerEpoch : Nat := 2 ^ 63 - 1
def maxPid : Nat := 2 ^ 32 - 1

/-- The classes of `RunLockError`. -/
inductive RunLockError where
  | active
  | takeoverRequired
  | ownerUnverifiable
  | metadata
  | epoch
  deriving DecidableEq, Repr

structure RunLockMetadata where
  runId : String
  pid : Nat
  processStartFingerprint : String
  hostname : String
  ownerEpoch : Nat
  wallTimestamp : String
  deriving DecidableEq, Repr

/-- `_RUN_ID`: a lowercase UUIDv4. -/
def isRunId (text : String) : Bool :=
  text.toList.length = 36 ∧ text.toList.zipIdx.all fun (c, i) =>
    if i = 8 ∨ i = 13 ∨ i = 18 ∨ i = 23 then c = '-'
    else if i = 14 then c = '4'
    else if i = 19 then c ∈ "89ab".toList
    else c ∈ "0123456789abcdef".toList

def boundedText (maximumBytes : Nat) (value : String) : Bool :=
  !value.isEmpty ∧ value.toList.all (fun c => 32 ≤ c.toNat ∧ c.toNat ≠ 127) ∧
    (utf8 value).length ≤ maximumBytes

/-- `_validate_wall_timestamp`: what `isoformat(timespec="microseconds")` writes for a UTC
datetime, with the offset spelled `Z`. -/
def canonicalUtc (value : String) : Bool :=
  match value.toList with
  | [y1, y2, y3, y4, '-', m1, m2, '-', d1, d2, 'T', h1, h2, ':', n1, n2, ':', s1, s2, '.',
      f1, f2, f3, f4, f5, f6, 'Z'] =>
    let number (ds : List Char) := Nat.ofDigitChars 10 ds 0
    let year := number [y1, y2, y3, y4]
    let month := number [m1, m2]
    [y1, y2, y3, y4, m1, m2, d1, d2, h1, h2, n1, n2, s1, s2, f1, f2, f3, f4, f5, f6].all
        Char.isDigit ∧ 1 ≤ year ∧ 1 ≤ month ∧ month ≤ 12 ∧
      1 ≤ number [d1, d2] ∧ number [d1, d2] ≤ daysInMonth year month ∧
      number [h1, h2] < 24 ∧ number [n1, n2] < 60 ∧ number [s1, s2] < 60
  | _ => false

section

-- `casefold` is `str.casefold`, of which only its value on the hostname at hand is used.
variable (casefold : String → String)

def normalizeHostname (value : String) : Except RunLockError String :=
  if !boundedText maxHostnameBytes value then .error .metadata
  else
    let stripped := String.ofList (value.toList.reverse.dropWhile (· = '.')).reverse
    if (casefold stripped).isEmpty then .error .metadata
    else .ok (casefold stripped)

/-- `RunLockMetadata.__post_init__`. -/
def RunLockMetadata.postInit (m : RunLockMetadata) : Except RunLockError RunLockMetadata :=
  if !isRunId m.runId then .error .metadata
  else if m.pid < 1 ∨ maxPid < m.pid then .error .metadata
  else if !boundedText maxProcessFingerprintBytes m.processStartFingerprint then .error .metadata
  else if !boundedText maxHostnameBytes m.hostname then .error .metadata
  else if normalizeHostname casefold m.hostname ≠ .ok m.hostname then .error .metadata
  else if maxOwnerEpoch < m.ownerEpoch then .error .metadata
  else if !(boundedText maxTimestampBytes m.wallTimestamp && canonicalUtc m.wallTimestamp) then
    .error .metadata
  else .ok m

def lockFormatVersion : Nat := 1

/-- The object `_encode_metadata` dumps, with its keys sorted. -/
def RunLockMetadata.object (m : RunLockMetadata) : JsonText.Object :=
  [("format_version".toList, .number lockFormatVersion),
    ("hostname".toList, .text m.hostname.toList),
    ("owner_epoch".toList, .number m.ownerEpoch),
    ("pid".toList, .number m.pid),
    ("process_start_fingerprint".toList, .text m.processStartFingerprint.toList),
    ("run_id".toList, .text m.runId.toList),
    ("wall_timestamp".toList, .text m.wallTimestamp.toList)]

def asciiBytes (text : List Char) : Bytes := text.map fun c => UInt8.ofNat c.toNat

def encodeMetadata (m : RunLockMetadata) : Except RunLockError Bytes :=
  let payload := asciiBytes (JsonText.writeObject m.object ++ ['\n'])
  if maxLockBytes < payload.length then .error .metadata else .ok payload

def lockKeys : List (List Char) :=
  ["format_version", "hostname", "owner_epoch", "pid", "process_start_fingerprint", "run_id",
    "wall_timestamp"].map String.toList

/-- The text of ASCII bytes; canonical metadata has no others. -/
def asciiText (raw : Bytes) : Option (List Char) :=
  if raw.all (· < 128) then some (raw.map fun b => Char.ofNat b.toNat) else none

def exactInteger (o : JsonText.Object) (key : String) : Except RunLockError Nat :=
  match o.lookup key.toList with
  | some (.number n) => .ok n
  | _ => .error .metadata

def exactString (o : JsonText.Object) (key : String) : Except RunLockError String :=
  match o.lookup key.toList with
  | some (.text s) => .ok (String.ofList s)
  | _ => .error .metadata

/-- `json.loads` with duplicate keys rejected, for a flat object and blanks after it. Other
texts are not the canonical encoding of any metadata and are rejected all the same. -/
def loadObject (text : List Char) : Except RunLockError JsonText.Object :=
  match JsonText.readObject text with
  | some (o, rest) =>
    if rest.all Char.isWhitespace ∧ (o.map Prod.fst).Nodup then .ok o else .error .metadata
  | none => .error .metadata

/-- The format version and the fields of a lock file, before they are checked. -/
def readFields (raw : Bytes) : Except RunLockError (Nat × RunLockMetadata) := do
  if raw.isEmpty ∨ maxLockBytes < raw.length then throw .metadata
  let some text := asciiText raw | throw .metadata
  let values ← loadObject text
  if ¬ ((∀ k ∈ values.map Prod.fst, k ∈ lockKeys) ∧ ∀ k ∈ lockKeys, k ∈ values.map Prod.fst) then
    throw .metadata
  let formatVersion ← exactInteger values "format_version"
  let hostname ← exactString values "hostname"
  let ownerEpoch ← exactInteger values "owner_epoch"
  let pid ← exactInteger values "pid"
  let processStartFingerprint ← exactString values "process_start_fingerprint"
  let runId ← exactString values "run_id"
  let wallTimestamp ← exactString values "wall_timestamp"
  return (formatVersion,
    { runId, pid, processStartFingerprint, hostname, ownerEpoch, wallTimestamp })

def decodeMetadata (raw : Bytes) : Except RunLockError RunLockMetadata := do
  let (formatVersion, fields) ← readFields raw
  let m ← fields.postInit casefold
  if formatVersion ≠ lockFormatVersion then throw .metadata
  if encodeMetadata m ≠ .ok raw then throw .metadata
  return m

/-- `ProcessProbe`; only a present process has a start fingerprint. -/
inductive ProcessProbe where
  | present (startFingerprint : String)
  | absent
  | unverifiable
  deriving DecidableEq, Repr

inductive TakeoverReason where
  | processAbsent
  | pidReused
  deriving DecidableEq, Repr

structure RunLockTakeoverEvent where
  previousOwner : RunLockMetadata
  newOwner : RunLockMetadata
  reason : TakeoverReason
  deriving DecidableEq, Repr

def classifyStaleOwner (owner : RunLockMetadata) (currentHostname : String)
    (inspect : Nat → ProcessProbe) : Except RunLockError (Option TakeoverReason) :=
  if owner.hostname ≠ currentHostname then .error .ownerUnverifiable
  else
    match inspect owner.pid with
    | .absent => .ok (some .processAbsent)
    | .unverifiable => .error .ownerUnverifiable
    | .present fingerprint =>
      if fingerprint ≠ owner.processStartFingerprint then .ok (some .pidReused) else .ok none

/-- `_acquire_existing_lock` up to the rewrite of the file, whose operating-system lock was
free. -/
def acquireExistingLock (raw : Bytes) (requested : RunLockMetadata) (takeOver : Bool)
    (inspect : Nat → ProcessProbe) : Except RunLockError RunLockTakeoverEvent := do
  let previous ← decodeMetadata casefold raw
  if previous.runId ≠ requested.runId then throw .metadata
  match ← classifyStaleOwner previous requested.hostname inspect with
  | none => throw .active
  | some reason =>
    if !takeOver then throw .takeoverRequired
    if requested.ownerEpoch ≠ previous.ownerEpoch + 1 then throw .epoch
    return { previousOwner := previous, newOwner := requested, reason }

/-- What `_rewrite_locked_file` is about to write, and why it may. -/
structure LockGrant where
  owner : RunLockMetadata
  payload : Bytes
  takeoverEvent : Option RunLockTakeoverEvent
  deriving DecidableEq, Repr

/-- Exclusive creation of an absent file needs no takeover. -/
def takeoverOf (lock : Option Bytes) (requested : RunLockMetadata) (takeOver : Bool)
    (inspect : Nat → ProcessProbe) : Except RunLockError (Option RunLockTakeoverEvent) :=
  match lock with
  | none => .ok none
  | some raw => some <$> acquireExistingLock casefold raw requested takeOver inspect

/-- `acquire_run_lock` up to the first change of the lock file. -/
def acquireRunLock (lock : Option Bytes) (requested : RunLockMetadata) (takeOver : Bool)
    (inspect : Nat → ProcessProbe) : Except RunLockError LockGrant := do
  let owner ← requested.postInit casefold
  let takeoverEvent ← takeoverOf casefold lock owner takeOver inspect
  let payload ← encodeMetadata owner
  return { owner, payload, takeoverEvent }

variable {casefold : String → String} {m : RunLockMetadata}

/-- The fields pass every check of `__post_init__`. -/
structure RunLockMetadata.Valid (casefold : String → String) (m : RunLockMetadata) : Prop where
  runId : isRunId m.runId = true
  pid : 1 ≤ m.pid ∧ m.pid ≤ maxPid
  fingerprint : boundedText maxProcessFingerprintBytes m.processStartFingerprint = true
  hostname : boundedText maxHostnameBytes m.hostname = true
  canonical : normalizeHostname casefold m.hostname = .ok m.hostname
  ownerEpoch : m.ownerEpoch ≤ maxOwnerEpoch
  timestamp : boundedText maxTimestampBytes m.wallTimestamp = true
  utc : canonicalUtc m.wallTimestamp = true

theorem postInit_ok {r : RunLockMetadata} :
    m.postInit casefold = .ok r ↔ r = m ∧ m.Valid casefold := by
  constructor
  · intro h
    unfold RunLockMetadata.postInit at h
    split at h
    · cases h
    split at h
    · cases h
    split at h
    · cases h
    split at h
    · cases h
    split at h
    · cases h
    split at h
    · cases h
    split at h
    · cases h
    next h1 h2 h3 h4 h5 h6 h7 =>
    cases h
    simp only [Bool.not_eq_true', Bool.not_eq_false, not_or, not_lt, ne_eq, Decidable.not_not,
      Bool.and_eq_true] at h1 h2 h3 h4 h5 h6 h7
    exact ⟨rfl, h1, h2, h3, h4, h5, h6, h7.1, h7.2⟩
  · rintro ⟨rfl, h⟩
    have hpid := h.pid
    simp only [RunLockMetadata.postInit, h.runId, h.fingerprint, h.hostname, h.canonical,
      h.timestamp, h.utc, Bool.not_true, Bool.false_eq_true, if_false, ne_eq, not_true_eq_false,
      Bool.and_self, if_neg (show ¬ (r.pid < 1 ∨ maxPid < r.pid) by omega),
      if_neg (Nat.not_lt.2 h.ownerEpoch)]

theorem boundedText_length {k : Nat} {s : String} (h : boundedText k s = true) :
    s.toList.length ≤ k := by
  have hk : (utf8 s).length ≤ k := by
    simp only [boundedText, decide_eq_true_eq] at h
    exact h.2.2
  have hl : s.toList.length ≤ (utf8 s).length := by
    unfold utf8
    induction s.toList with
    | nil => simp
    | cons c cs ih =>
      have := Char.utf8Size_pos c
      simp only [List.flatMap_cons, List.length_append, String.length_utf8EncodeChar,
        List.length_cons]
      omega
  exact hl.trans hk

def lockText (m : RunLockMetadata) : List Char := JsonText.writeObject m.object ++ ['\n']

/-- The checked fields bound the encoding, so the byte limit never rejects it. -/
theorem encodeMetadata_ok (h : m.Valid casefold) : encodeMetadata m = .ok (asciiBytes (lockText m)) := by
  have hnumbers : ∀ e ∈ m.object, ∀ n, e.2 = .number n → n < 10 ^ 20 := by
    have hp := h.pid.2
    have he := h.ownerEpoch
    unfold maxPid at hp
    unfold maxOwnerEpoch at he
    simp only [RunLockMetadata.object, List.mem_cons, List.not_mem_nil, or_false, forall_eq_or_imp,
      forall_eq, JsonText.Scalar.number.injEq, reduceCtorEq, IsEmpty.forall_iff, implies_true,
      forall_eq', lockFormatVersion, and_true, true_and]
    omega
  have hlen := JsonText.writeMembers_length_le (by omega) hnumbers
  have hhost := boundedText_length h.hostname
  have hprint := boundedText_length h.fingerprint
  have hstamp := boundedText_length h.timestamp
  have hrun : m.runId.toList.length = 36 := by
    have := h.runId
    simp only [isRunId, decide_eq_true_eq] at this
    exact this.1
  have hkeys : (m.object.map fun e => 12 * e.1.length + 4 + e.2.bound 20).sum =
      1068 + 12 * (m.hostname.toList.length + m.processStartFingerprint.toList.length +
        m.runId.toList.length + m.wallTimestamp.toList.length) := by
    have hl : lockKeys.map List.length = [14, 8, 11, 3, 25, 6, 14] := by decide
    simp only [lockKeys, List.map_cons, List.map_nil, List.cons.injEq, and_true] at hl
    simp only [RunLockMetadata.object, List.map_cons, List.map_nil, List.sum_cons, List.sum_nil,
      JsonText.Scalar.bound]
    omega
  have hmax : (asciiBytes (lockText m)).length ≤ maxLockBytes := by
    unfold maxHostnameBytes at hhost
    unfold maxProcessFingerprintBytes at hprint
    unfold maxTimestampBytes at hstamp
    simp only [asciiBytes, lockText, JsonText.writeObject, List.length_map, List.length_append,
      List.length_cons, List.length_nil, maxLockBytes]
    omega
  exact if_neg (Nat.not_lt.2 hmax)

theorem ascii_lockText (m : RunLockMetadata) : ∀ c ∈ lockText m, c.toNat < 128 := by
  intro c hc
  rcases List.mem_append.1 hc with hc | hc
  · have := (JsonText.printable_object m.object c hc).2
    omega
  · obtain rfl : c = '\n' := by simpa using hc
    decide

theorem asciiText_asciiBytes {text : List Char} (h : ∀ c ∈ text, c.toNat < 128) :
    asciiText (asciiBytes text) = some text := by
  have hall : (asciiBytes text).all (· < 128) = true := by
    simp only [asciiBytes, List.all_map, List.all_eq_true, Function.comp_apply, decide_eq_true_eq]
    intro c hc
    rw [UInt8.lt_iff_toNat_lt, UInt8.toNat_ofNat']
    have := h c hc
    simp only [UInt8.reduceToNat]
    omega
  have hback : (asciiBytes text).map (fun b => Char.ofNat b.toNat) = text := by
    rw [asciiBytes, List.map_map]
    conv_rhs => rw [← List.map_id text]
    apply List.map_congr_left
    intro c hc
    have := h c hc
    simp only [Function.comp_apply, UInt8.toNat_ofNat', id_eq]
    rw [Nat.mod_eq_of_lt (by omega), Char.ofNat_toNat]
  simp only [asciiText, hall, if_true, hback]

theorem loadObject_lockText (m : RunLockMetadata) : loadObject (lockText m) = .ok m.object := by
  have hne : m.object ≠ [] := by simp [RunLockMetadata.object]
  have hkeys : (m.object.map Prod.fst).Nodup := by
    have : lockKeys.Nodup := by decide
    exact this
  simp only [loadObject, lockText, JsonText.readObject_write hne ['\n']]
  rw [if_pos ⟨by decide, hkeys⟩]

theorem readFields_lockText (h : m.Valid casefold) :
    readFields (asciiBytes (lockText m)) = .ok (lockFormatVersion, m) := by
  have hlen : ¬ ((asciiBytes (lockText m)).isEmpty = true ∨
      maxLockBytes < (asciiBytes (lockText m)).length) := by
    have henc := encodeMetadata_ok h
    rintro (he | hl)
    · simp [asciiBytes, lockText] at he
    · rw [encodeMetadata, ← lockText, if_pos hl] at henc
      cases henc
  have hshape : (∀ k ∈ m.object.map Prod.fst, k ∈ lockKeys) ∧
      ∀ k ∈ lockKeys, k ∈ m.object.map Prod.fst := ⟨fun _ hk => hk, fun _ hk => hk⟩
  have hversion : exactInteger m.object "format_version" = .ok lockFormatVersion := rfl
  have hepoch : exactInteger m.object "owner_epoch" = .ok m.ownerEpoch := rfl
  have hpid : exactInteger m.object "pid" = .ok m.pid := rfl
  have hhost : exactString m.object "hostname" = .ok m.hostname :=
    congrArg Except.ok String.ofList_toList
  have hprint : exactString m.object "process_start_fingerprint" = .ok m.processStartFingerprint :=
    congrArg Except.ok String.ofList_toList
  have hrun : exactString m.object "run_id" = .ok m.runId :=
    congrArg Except.ok String.ofList_toList
  have hstamp : exactString m.object "wall_timestamp" = .ok m.wallTimestamp :=
    congrArg Except.ok String.ofList_toList
  unfold readFields
  simp only [hlen, if_false, asciiText_asciiBytes (ascii_lockText m), loadObject_lockText,
    hversion, hhost, hepoch, hpid, hprint, hrun, hstamp, bind, Except.bind, pure, Except.pure]
  exact if_neg (not_not_intro hshape)

/-- A valid lock file reads back as the metadata it was written from. -/
theorem decodeMetadata_encode (h : m.Valid casefold) :
    decodeMetadata casefold (asciiBytes (lockText m)) = .ok m := by
  have hpost : RunLockMetadata.postInit casefold m = .ok m := postInit_ok.2 ⟨rfl, h⟩
  simp only [decodeMetadata, readFields_lockText h, hpost, encodeMetadata_ok h, bind, Except.bind,
    pure, Except.pure, ne_eq, not_true_eq_false, if_false]

/-- Nothing but the canonical encoding of valid metadata is accepted. -/
theorem decodeMetadata_ok {raw : Bytes} (h : decodeMetadata casefold raw = .ok m) :
    m.Valid casefold ∧ raw = asciiBytes (lockText m) := by
  unfold decodeMetadata at h
  obtain ⟨⟨version, fields⟩, _, hfields⟩ := Checked.bind_ok h
  obtain ⟨checked, hpost, hchecked⟩ := Checked.bind_ok hfields
  obtain ⟨rfl, hvalid⟩ := postInit_ok.1 hpost
  dsimp only at hchecked
  split at hchecked
  · cases hchecked
  · split at hchecked
    · cases hchecked
    · next henc =>
      cases hchecked
      have heq := (encodeMetadata_ok hvalid).symm.trans (not_not.1 henc)
      exact ⟨hvalid, (Except.ok.inj heq).symm⟩

/-- The line feed ends the encoding and stands nowhere else in it. -/
theorem newline_last {i : Nat} (h : (asciiBytes (lockText m))[i]? = some 10) :
    i + 1 = (asciiBytes (lockText m)).length := by
  have hi : i < (JsonText.writeObject m.object).length + 1 := by
    have := (List.getElem?_eq_some_iff.1 h).1
    simpa [asciiBytes, lockText] using this
  by_contra hne
  have hlt : i < (JsonText.writeObject m.object).length := by
    simp only [asciiBytes, lockText, List.length_map, List.length_append, List.length_singleton]
      at hne
    omega
  obtain ⟨c, hc, hten⟩ : ∃ c, (JsonText.writeObject m.object)[i]? = some c ∧
      UInt8.ofNat c.toNat = 10 := by
    rw [asciiBytes, lockText, List.getElem?_map, List.getElem?_append_left hlt,
      Option.map_eq_some_iff] at h
    exact h
  obtain ⟨hlow, hhigh⟩ := JsonText.printable_object m.object c (List.mem_of_getElem? hc)
  have hmod : c.toNat % 256 = 10 := by
    have := congrArg UInt8.toNat hten
    simpa using this
  omega

/-- A torn lock file, down to an empty one, is not metadata. -/
theorem decodeMetadata_torn {written rest : Bytes} (hrest : rest ≠ [])
    (h : asciiBytes (lockText m) = written ++ rest) :
    ∃ e, decodeMetadata casefold written = .error e := by
  cases hd : decodeMetadata casefold written with
  | error e => exact ⟨e, rfl⟩
  | ok r =>
    obtain ⟨_, hr⟩ := decodeMetadata_ok hd
    -- `written` would end in the line feed of its own encoding, inside the longer one
    have hlast : written[written.length - 1]? = some 10 := by
      rw [hr]
      simp [asciiBytes, lockText]
    have hpos : 0 < written.length := by
      rw [hr]
      simp [asciiBytes, lockText]
    have hmid : (asciiBytes (lockText m))[written.length - 1]? = some 10 := by
      rw [h, List.getElem?_append_left (by omega), hlast]
    have hend := newline_last hmid
    rw [h, List.length_append] at hend
    have := List.length_pos_iff.2 hrest
    omega

/-- Encoding and decoding are inverse to each other, so a file that differs from a canonical
record is rejected or is the record of another owner. -/
theorem metadata_codec :
    (∀ casefold (m : RunLockMetadata), m.Valid casefold →
      ∃ raw, encodeMetadata m = .ok raw ∧ decodeMetadata casefold raw = .ok m) ∧
    (∀ casefold raw (m : RunLockMetadata), decodeMetadata casefold raw = .ok m →
      encodeMetadata m = .ok raw) ∧
    ∀ casefold raw edited (m : RunLockMetadata), encodeMetadata m = .ok raw → edited ≠ raw →
      (∃ e, decodeMetadata casefold edited = .error e) ∨
        ∃ other : RunLockMetadata, other ≠ m ∧ other.Valid casefold ∧
          encodeMetadata other = .ok edited ∧ decodeMetadata casefold edited = .ok other := by
  have hback : ∀ casefold raw (m : RunLockMetadata), decodeMetadata casefold raw = .ok m →
      encodeMetadata m = .ok raw := by
    intro casefold raw m h
    obtain ⟨hvalid, rfl⟩ := decodeMetadata_ok h
    exact encodeMetadata_ok hvalid
  refine ⟨fun casefold m h => ⟨_, encodeMetadata_ok h, decodeMetadata_encode h⟩, hback, ?_⟩
  intro casefold raw edited m hraw hne
  cases hdecode : decodeMetadata casefold edited with
  | error e => exact Or.inl ⟨e, rfl⟩
  | ok other =>
    have hedited := hback casefold edited other hdecode
    refine Or.inr ⟨other, ?_, (decodeMetadata_ok hdecode).1, hedited, rfl⟩
    rintro rfl
    exact hne (Except.ok.inj (hedited.symm.trans hraw))

end

end WebhookConformance
