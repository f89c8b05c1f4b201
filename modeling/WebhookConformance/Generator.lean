import Mathlib.Data.Nat.Size
import Mathlib.Algebra.Order.Ring.Int

/-! The stateless context generator of `determinism/generator.py`: uint32-framed contexts,
HMAC blocks, and unbiased bounded integers by rejection. -/
namespace WebhookConformance

abbrev Bytes := List UInt8

def uint32Max : Nat := 2 ^ 32 - 1
def uint64Max : Nat := 2 ^ 64 - 1
def int64Max : Nat := 2 ^ 63 - 1
def digestSize : Nat := 32

/-- `int.to_bytes(width, "big")` for a value that fits. -/
def toBytesBig : Nat → Nat → Bytes
  | 0, _ => []
  | width + 1, n => toBytesBig width (n / 256) ++ [UInt8.ofNat (n % 256)]

/-- `int.from_bytes(_, "big")`. -/
def fromBytesBig (bytes : Bytes) : Nat := bytes.foldl (fun n b => n * 256 + b.toNat) 0

def utf8 (text : String) : Bytes := text.toList.flatMap String.utf8EncodeChar

def messageDomainSeparator : Bytes := utf8 "wrch-prng-v1" ++ [0]

def validateContext (context : List String) : Except String (List String) :=
  if context.isEmpty then .error "context path must not be empty"
  else if context.any String.isEmpty then .error "context components must not be empty"
  else .ok context

def encodeComponent (component : String) : Except String Bytes :=
  let bytes := utf8 component
  if uint32Max < bytes.length then .error "context component exceeds uint32 byte length"
  else .ok (toBytesBig 4 bytes.length ++ bytes)

def encodeContext (context : List String) : Except String Bytes := do
  let components ← validateContext context
  let framed ← components.mapM encodeComponent
  return framed.flatten

/-- `hmacDigest` is `hmac.digest(key, message, "sha256")`, of which only the size is used. -/
structure ContextGenerator where
  hmacDigest : Bytes → Bytes → Bytes
  normalizedSeedHash : Bytes
  digest_length : ∀ key message, (hmacDigest key message).length = digestSize

namespace ContextGenerator

variable (g : ContextGenerator)

def block (encodedContext : Bytes) (counter : Nat) : Except String Bytes :=
  if uint64Max < counter then .error "counter exceeds uint64"
  else .ok (g.hmacDigest g.normalizedSeedHash
    (messageDomainSeparator ++ encodedContext ++ toBytesBig 8 counter))

def streamSlice (encodedContext : Bytes) (offset length : Nat) : Except String Bytes := do
  let firstBlock := offset / digestSize
  let blockCount := (offset + length + digestSize - 1) / digestSize - firstBlock
  if uint64Max < firstBlock ∨ uint64Max - firstBlock + 1 < blockCount then
    throw "rejection sampling exhausted the uint64 counter space"
  let blocks ← ((List.range blockCount).map (firstBlock + ·)).mapM (g.block encodedContext)
  return (blocks.flatten.drop (offset % digestSize)).take length

/-- The rejection loop. Every turn moves `offset` on by `width`, so the counter space ends it:
`2 ^ 69 + 1` turns cannot all be taken, and the last arm repeats that error. -/
def boundedIntLoop (encodedContext : Bytes) (lower : Int) (span width rejectionLimit : Nat) :
    Nat → Nat → Except String Int
  | 0, _ => .error "rejection sampling exhausted the uint64 counter space"
  | fuel + 1, offset =>
    match g.streamSlice encodedContext offset width with
    | .error e => .error e
    | .ok slice =>
      let candidate := fromBytesBig slice
      if candidate < rejectionLimit then .ok (lower + (candidate % span : Nat))
      else boundedIntLoop encodedContext lower span width rejectionLimit fuel (offset + width)

def boundedInt (context : List String) (lower upper : Int) : Except String Int :=
  if upper ≤ lower then .error "bounded range must satisfy lower < upper"
  else
    match encodeContext context with
    | .error e => .error e
    | .ok encoded =>
      let span := (upper - lower).toNat
      let width := max 1 ((Nat.size (span - 1) + 7) / 8)
      let sampleSpace := 2 ^ (width * 8)
      let rejectionLimit := sampleSpace - sampleSpace % span
      g.boundedIntLoop encoded lower span width rejectionLimit (2 ^ 69 + 1) 0

def signedRetryJitter (scenarioId plannedDeliveryId : String) (attemptOrdinal : Nat)
    (jitterPolicyVersion : String) (magnitudeBound : Nat) : Except String Int :=
  if scenarioId.isEmpty then .error "scenario_id must not be empty"
  else if plannedDeliveryId.isEmpty then .error "planned_delivery_id must not be empty"
  else if jitterPolicyVersion.isEmpty then .error "jitter_policy_version must not be empty"
  else if uint64Max < attemptOrdinal then .error "attempt_ordinal exceeds uint64"
  else if int64Max < magnitudeBound then
    .error "magnitude_bound exceeds signed int64 nanoseconds"
  else
    g.boundedInt
      ["retry-jitter", scenarioId, plannedDeliveryId, toString attemptOrdinal,
       jitterPolicyVersion]
      (-magnitudeBound) (magnitudeBound + 1)

variable {g}

theorem boundedIntLoop_range {encoded : Bytes} {lower : Int} {span width limit fuel offset : Nat}
    {v : Int} (hs : 0 < span)
    (h : g.boundedIntLoop encoded lower span width limit fuel offset = .ok v) :
    lower ≤ v ∧ v < lower + span := by
  induction fuel generalizing offset with
  | zero => simp [boundedIntLoop] at h
  | succ fuel ih =>
    unfold boundedIntLoop at h
    split at h
    · cases h
    · dsimp only at h
      split at h
      · cases h
        have := Nat.mod_lt (fromBytesBig ‹_›) hs
        constructor <;> omega
      · exact ih h

theorem boundedInt_range {context : List String} {lower upper v : Int}
    (h : g.boundedInt context lower upper = .ok v) : lower ≤ v ∧ v < upper := by
  unfold boundedInt at h
  split at h
  · cases h
  · rename_i hlt
    split at h
    · cases h
    · have hr := boundedIntLoop_range (by omega) h
      omega

/-- Jitter lies in `[-magnitude_bound, +magnitude_bound]`. -/
theorem signedRetryJitter_range {s d p : String} {n bound : Nat} {v : Int}
    (h : g.signedRetryJitter s d n p bound = .ok v) : -(bound : Int) ≤ v ∧ v ≤ bound := by
  unfold signedRetryJitter at h
  repeat' split at h
  all_goals try cases h
  have hr := boundedInt_range h
  omega

theorem streamSlice_one (g : ContextGenerator) (encoded : Bytes) :
    ∃ byte, g.streamSlice encoded 0 1 = .ok [byte] := by
  have hb : g.block encoded 0 = .ok (g.hmacDigest g.normalizedSeedHash
      (messageDomainSeparator ++ encoded ++ toBytesBig 8 0)) := by
    simp [block]
  obtain ⟨byte, rest, hd⟩ := List.exists_cons_of_length_pos (show 0 < (g.hmacDigest
    g.normalizedSeedHash (messageDomainSeparator ++ encoded ++ toBytesBig 8 0)).length by
      rw [g.digest_length]; decide)
  refine ⟨byte, ?_⟩
  simp only [streamSlice, digestSize, Nat.zero_div, bind, Except.bind]
  rw [if_neg (by simp [uint64Max])]
  rw [hd] at hb
  simp [hb, List.range_succ, pure, Except.pure, bind, Except.bind]

end ContextGenerator

@[simp] theorem toBytesBig_length (width n : Nat) : (toBytesBig width n).length = width := by
  induction width generalizing n with
  | zero => rfl
  | succ width ih => simp [toBytesBig, ih]

/-- A digest that evaluates quickly: the message modulo a prime, for concrete runs. -/
def modularDigest (message : Bytes) : Nat := fromBytesBig message % (2 ^ 256 - 189)

def modularGenerator : ContextGenerator where
  hmacDigest _ message := toBytesBig digestSize (modularDigest message)
  normalizedSeedHash := []
  digest_length _ _ := toBytesBig_length _ _

end WebhookConformance
