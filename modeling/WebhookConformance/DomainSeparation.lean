import WebhookConformance.Identifiers
import WebhookConformance.SignatureBinding
import WebhookConformance.Library.Framing
import Mathlib.Data.List.Induction
import Mathlib.Data.Set.Function

/-! The messages that the context generator gives to HMAC: which context and counter a message
comes from, and that the operations of the generator never share one. -/
namespace WebhookConformance

open Checked Framing

section Operations

def uuidEntropyContextRoot : String := "uuid-entropy-v1"
def ulidEntropyContextRoot : String := "ulid-entropy-v1"
def choiceContextRoot : String := "choice-index-v1"
def uuidEntropySize : Nat := 16
def ulidEntropySize : Nat := 10

namespace ContextGenerator

variable (g : ContextGenerator)

def choiceIndex (context : List String) (optionCount : Nat) : Except String Int := do
  require (optionCount ≠ 0) "option_count must be greater than zero"
  let components ← validateContext context
  g.boundedInt (choiceContextRoot :: components) 0 optionCount

def uuidEntropy (context : List String) : Except String Bytes := do
  let components ← validateContext context
  g.drawBytes (uuidEntropyContextRoot :: components) uuidEntropySize

def ulidEntropy (context : List String) : Except String Bytes := do
  let components ← validateContext context
  g.drawBytes (ulidEntropyContextRoot :: components) ulidEntropySize

end ContextGenerator

/-- What an operation of the generator draws for: the operation, the kind of a planned id, and the
components of its key. -/
inductive GeneratorKey where
  | plannedId (kind : PlannedIdKind) (naturalKey : List String)
  | choiceIndex (context : List String)
  | uuidEntropy (context : List String)
  | ulidEntropy (context : List String)
  | signedRetryJitter (scenarioId plannedDeliveryId : String) (attemptOrdinal : Nat)
      (jitterPolicyVersion : String)
  deriving DecidableEq, Repr

/-- The context tuple that the operation hands on. -/
def GeneratorKey.context : GeneratorKey → List String
  | .plannedId kind naturalKey => "planned-id-v1" :: kind.value :: naturalKey
  | .choiceIndex context => choiceContextRoot :: context
  | .uuidEntropy context => uuidEntropyContextRoot :: context
  | .ulidEntropy context => ulidEntropyContextRoot :: context
  | .signedRetryJitter scenarioId plannedDeliveryId attemptOrdinal jitterPolicyVersion =>
    ["retry-jitter", scenarioId, plannedDeliveryId, toString attemptOrdinal, jitterPolicyVersion]

/-- A call of the generator with all its arguments. -/
inductive GeneratorCall where
  | plannedId (kind : PlannedIdKind) (naturalKey : List String)
  | choiceIndex (context : List String) (optionCount : Nat)
  | uuidEntropy (context : List String)
  | ulidEntropy (context : List String)
  | signedRetryJitter (scenarioId plannedDeliveryId : String) (attemptOrdinal : Nat)
      (jitterPolicyVersion : String) (magnitudeBound : Nat)
  deriving DecidableEq, Repr

inductive GeneratorResult where
  | text (id : String)
  | integer (value : Int)
  | entropy (bytes : Bytes)
  deriving DecidableEq, Repr

namespace GeneratorCall

def key : GeneratorCall → GeneratorKey
  | .plannedId kind naturalKey => .plannedId kind naturalKey
  | .choiceIndex context _ => .choiceIndex context
  | .uuidEntropy context => .uuidEntropy context
  | .ulidEntropy context => .ulidEntropy context
  | .signedRetryJitter scenarioId plannedDeliveryId attemptOrdinal jitterPolicyVersion _ =>
    .signedRetryJitter scenarioId plannedDeliveryId attemptOrdinal jitterPolicyVersion

def run (g : ContextGenerator) : GeneratorCall → Except String GeneratorResult
  | .plannedId kind naturalKey => (WebhookConformance.plannedId g kind naturalKey).map .text
  | .choiceIndex context optionCount => (g.choiceIndex context optionCount).map .integer
  | .uuidEntropy context => (g.uuidEntropy context).map .entropy
  | .ulidEntropy context => (g.ulidEntropy context).map .entropy
  | .signedRetryJitter scenarioId plannedDeliveryId attemptOrdinal jitterPolicyVersion bound =>
    (g.signedRetryJitter scenarioId plannedDeliveryId attemptOrdinal jitterPolicyVersion
      bound).map .integer

end GeneratorCall

/-- The message of `_block` for a context tuple and a counter. -/
def blockMessage (context : List String) (counter : Nat) : Except String Bytes := do
  let encodedContext ← encodeContext context
  require (counter ≤ uint64Max) "counter exceeds uint64"
  return messageDomainSeparator ++ encodedContext ++ toBytesBig 8 counter

end Operations

section Encoding

theorem fromBytesBig_append (bytes : Bytes) (b : UInt8) :
    fromBytesBig (bytes ++ [b]) = fromBytesBig bytes * 256 + b.toNat := by
  unfold fromBytesBig
  rw [List.foldl_append]
  rfl

theorem fromBytesBig_toBytesBig {width n : Nat} (h : n < 256 ^ width) :
    fromBytesBig (toBytesBig width n) = n := by
  induction width generalizing n with
  | zero =>
    rw [pow_zero] at h
    have hzero : n = 0 := by omega
    rw [hzero]
    rfl
  | succ width ih =>
    have hdiv : n / 256 < 256 ^ width := by
      rw [Nat.div_lt_iff_lt_mul (by decide)]
      exact h
    have hbyte : (UInt8.ofNat (n % 256)).toNat = n % 256 := by
      rw [UInt8.toNat_ofNat']
      omega
    rw [toBytesBig, fromBytesBig_append, ih hdiv, hbyte]
    omega

theorem toBytesBig_fromBytesBig (word : Bytes) :
    toBytesBig word.length (fromBytesBig word) = word := by
  induction word using List.reverseRecOn with
  | nil => rfl
  | append_singleton word b ih =>
    have hb := b.toNat_lt
    rw [fromBytesBig_append, List.length_append, List.length_singleton, toBytesBig]
    rw [show (fromBytesBig word * 256 + b.toNat) / 256 = fromBytesBig word by omega, ih,
      show (fromBytesBig word * 256 + b.toNat) % 256 = b.toNat by omega, UInt8.ofNat_toNat]

theorem fromBytesBig_lt (word : Bytes) : fromBytesBig word < 256 ^ word.length := by
  induction word using List.reverseRecOn with
  | nil => decide
  | append_singleton word b ih =>
    have hb := b.toNat_lt
    rw [fromBytesBig_append, List.length_append, List.length_singleton, pow_succ]
    omega

theorem toBytesBig_injective {width m n : Nat} (hm : m < 256 ^ width) (hn : n < 256 ^ width)
    (h : toBytesBig width m = toBytesBig width n) : m = n := by
  have hread := congrArg fromBytesBig h
  rwa [fromBytesBig_toBytesBig hm, fromBytesBig_toBytesBig hn] at hread

/-- The uint32 length in front of a component. -/
def componentLength : LengthCode UInt8 where
  write := toBytesBig 4
  width := 4
  bound := uint32Max
  width_pos := by decide
  length_write := toBytesBig_length 4
  write_inj m n hm hn h := by
    have hpow : uint32Max < 256 ^ 4 := by decide
    exact toBytesBig_injective (hm.trans_lt hpow) (hn.trans_lt hpow) h

theorem encodeComponent_ok {component : String} {encoded : Bytes}
    (h : encodeComponent component = .ok encoded) :
    (utf8 component).length ≤ uint32Max ∧ encoded = frame componentLength (utf8 component) := by
  unfold encodeComponent at h
  dsimp only at h
  split at h
  · cases h
  · rename_i hlength
    cases h
    exact ⟨not_lt.1 hlength, rfl⟩

theorem validateContext_ok {context components : List String}
    (h : validateContext context = .ok components) : components = context := by
  unfold validateContext at h
  split at h
  · cases h
  · split at h
    · cases h
    · cases h
      rfl

theorem encodeComponents_ok {components : List String} {framed : List Bytes}
    (h : List.Forall₂ (fun c encoded => encodeComponent c = .ok encoded) components framed) :
    (∀ c ∈ components, (utf8 c).length ≤ uint32Max) ∧
      framed.flatten = (components.map utf8).flatMap (frame componentLength) := by
  induction h with
  | nil => exact ⟨nofun, rfl⟩
  | @cons c encoded components framed hc _ ih =>
    obtain ⟨hlength, rfl⟩ := encodeComponent_ok hc
    obtain ⟨hlengths, heq⟩ := ih
    refine ⟨List.forall_mem_cons.2 ⟨hlength, hlengths⟩, ?_⟩
    rw [List.flatten_cons, heq, List.map_cons, List.flatMap_cons]

theorem encodeContext_inv {context : List String} {encoded : Bytes}
    (h : encodeContext context = .ok encoded) :
    (∀ c ∈ context, (utf8 c).length ≤ uint32Max) ∧
      encoded = (context.map utf8).flatMap (frame componentLength) := by
  obtain ⟨components, hvalid, h⟩ := bind_ok h
  obtain ⟨framed, hframed, h⟩ := bind_ok h
  cases pure_ok h
  cases validateContext_ok hvalid
  exact encodeComponents_ok (mapM_ok_iff.1 hframed)

theorem encodeContext_injective {context other : List String} {encoded : Bytes}
    (hc : encodeContext context = .ok encoded) (ho : encodeContext other = .ok encoded) :
    context = other := by
  obtain ⟨hlengths, heq⟩ := encodeContext_inv hc
  obtain ⟨hlengths', heq'⟩ := encodeContext_inv ho
  have hparts := frames_injective (List.forall_mem_map.2 hlengths) (List.forall_mem_map.2 hlengths')
    (heq.symm.trans heq')
  exact (List.map_injective_iff.2 fun a b h => utf8_injective h) hparts

/-- The counter has a fixed width, so it cannot run into the context before it. -/
theorem blockMessage_injective {context other : List String} {counter turn : Nat} {message : Bytes}
    (hc : blockMessage context counter = .ok message) (ho : blockMessage other turn = .ok message) :
    context = other ∧ counter = turn := by
  obtain ⟨encoded, he, hc⟩ := bind_ok hc
  obtain ⟨encoded', he', ho⟩ := bind_ok ho
  obtain ⟨hcounter, hc⟩ := require_bind_ok.1 hc
  obtain ⟨hturn, ho⟩ := require_bind_ok.1 ho
  have heq := (pure_ok hc).trans (pure_ok ho).symm
  have hlength : (toBytesBig 8 counter).length = (toBytesBig 8 turn).length := by
    rw [toBytesBig_length, toBytesBig_length]
  obtain ⟨hfront, hback⟩ := List.append_inj' heq hlength
  have hpow : uint64Max < 256 ^ 8 := by decide
  cases List.append_cancel_left hfront
  exact ⟨encodeContext_injective he he',
    toBytesBig_injective (hcounter.trans_lt hpow) (hturn.trans_lt hpow) hback⟩

end Encoding

section Keys

theorem PlannedIdKind.value_injective {k l : PlannedIdKind} (h : k.value = l.value) : k = l := by
  revert h
  cases k <;> cases l <;> decide

theorem toString_nat_injective {m n : Nat} (h : toString m = toString n) : m = n :=
  Int.ofNat.inj (@toString_injective (.ofNat m) (.ofNat n) h)

/-- The first component names the operation; a planned id has its kind in the second. -/
theorem GeneratorKey.context_injective {k l : GeneratorKey} (h : k.context = l.context) : k = l := by
  cases k <;> cases l <;>
    simp only [GeneratorKey.context, choiceContextRoot, uuidEntropyContextRoot,
      ulidEntropyContextRoot, List.cons.injEq, String.reduceEq, false_and, true_and, and_true]
      at h
  case plannedId.plannedId =>
    obtain ⟨hkind, rfl⟩ := h
    rw [PlannedIdKind.value_injective hkind]
  case signedRetryJitter.signedRetryJitter =>
    obtain ⟨rfl, rfl, hordinal, rfl⟩ := h
    rw [toString_nat_injective hordinal]
  all_goals rw [h]

end Keys

section Reading

variable {g g' : ContextGenerator} {context : List String}

namespace ContextGenerator

/-- The digest of one message of the stream of a context. -/
def contextBlock (g : ContextGenerator) (context : List String) (counter : Nat) :
    Except String Bytes := do
  let encodedContext ← encodeContext context
  g.block encodedContext counter

/-- Every block is the digest of its message. -/
theorem contextBlock_eq (g : ContextGenerator) (context : List String) (counter : Nat) :
    g.contextBlock context counter =
      (blockMessage context counter).map (g.hmacDigest g.normalizedSeedHash) := by
  unfold contextBlock blockMessage
  cases encodeContext context with
  | error e => rfl
  | ok encoded =>
    change g.block encoded counter = Except.map _ (do require _ _; _)
    unfold block require
    by_cases hcounter : uint64Max < counter
    · rw [if_pos hcounter, if_neg (not_le.2 hcounter)]
      rfl
    · rw [if_neg hcounter, if_pos (not_lt.1 hcounter)]
      rfl

variable {encoded : Bytes}

theorem block_congr (h : ∀ counter, g.contextBlock context counter = g'.contextBlock context counter)
    (he : encodeContext context = .ok encoded) : g.block encoded = g'.block encoded := by
  funext counter
  have hcounter := h counter
  unfold contextBlock at hcounter
  rw [he] at hcounter
  exact hcounter

theorem boundedIntLoop_congr (h : g.block encoded = g'.block encoded) (lower : Int)
    (span width limit fuel offset : Nat) :
    g.boundedIntLoop encoded lower span width limit fuel offset =
      g'.boundedIntLoop encoded lower span width limit fuel offset := by
  have hslice : ∀ offset, g.streamSlice encoded offset width =
      g'.streamSlice encoded offset width := by
    intro offset
    unfold streamSlice
    rw [h]
  induction fuel generalizing offset with
  | zero => rfl
  | succ fuel ih =>
    unfold boundedIntLoop
    rw [hslice]
    cases g'.streamSlice encoded offset width with
    | error e => rfl
    | ok slice =>
      dsimp only
      rw [ih]

/-- Integers and bytes drawn for a context read the blocks of that context and no others. -/
theorem boundedInt_congr
    (h : ∀ counter, g.contextBlock context counter = g'.contextBlock context counter)
    (lower upper : Int) : g.boundedInt context lower upper = g'.boundedInt context lower upper := by
  unfold boundedInt
  cases he : encodeContext context with
  | error e => rfl
  | ok encoded =>
    dsimp only
    rw [boundedIntLoop_congr (block_congr h he)]

theorem drawBytes_congr
    (h : ∀ counter, g.contextBlock context counter = g'.contextBlock context counter)
    (length : Nat) : g.drawBytes context length = g'.drawBytes context length := by
  unfold drawBytes
  refine bind_congr_ok fun encoded he => ?_
  rw [block_congr h he]

end ContextGenerator

theorem validateNaturalKey_ok {key components : List String}
    (h : validateNaturalKey key = .ok components) : components = key := by
  unfold validateNaturalKey at h
  split at h
  · cases h
  · split at h
    · cases h
    · split at h
      · cases h
      · cases h
        rfl

/-- The result of a call depends on the blocks of its own key only. -/
theorem GeneratorCall.run_congr {call : GeneratorCall}
    (h : ∀ counter, g.contextBlock call.key.context counter =
      g'.contextBlock call.key.context counter) : call.run g = call.run g' := by
  cases call with
  | plannedId kind naturalKey =>
    unfold GeneratorCall.run WebhookConformance.plannedId
    refine congrArg (Except.map GeneratorResult.text) (bind_congr_ok fun components hvalid => ?_)
    cases validateNaturalKey_ok hvalid
    have hdraw : g.drawBytes ("planned-id-v1" :: kind.value :: naturalKey) 16 =
        g'.drawBytes ("planned-id-v1" :: kind.value :: naturalKey) 16 :=
      ContextGenerator.drawBytes_congr h 16
    rw [hdraw]
  | choiceIndex context optionCount =>
    unfold GeneratorCall.run ContextGenerator.choiceIndex
    refine congrArg (Except.map GeneratorResult.integer) (bind_congr_ok fun _ _ => ?_)
    refine bind_congr_ok fun components hvalid => ?_
    cases validateContext_ok hvalid
    exact ContextGenerator.boundedInt_congr h _ _
  | uuidEntropy context =>
    unfold GeneratorCall.run ContextGenerator.uuidEntropy
    refine congrArg (Except.map GeneratorResult.entropy) (bind_congr_ok fun components hvalid => ?_)
    cases validateContext_ok hvalid
    exact ContextGenerator.drawBytes_congr h _
  | ulidEntropy context =>
    unfold GeneratorCall.run ContextGenerator.ulidEntropy
    refine congrArg (Except.map GeneratorResult.entropy) (bind_congr_ok fun components hvalid => ?_)
    cases validateContext_ok hvalid
    exact ContextGenerator.drawBytes_congr h _
  | signedRetryJitter scenarioId plannedDeliveryId attemptOrdinal jitterPolicyVersion bound =>
    have hdraw : g.boundedInt ["retry-jitter", scenarioId, plannedDeliveryId,
          toString attemptOrdinal, jitterPolicyVersion] (-bound) (bound + 1) =
        g'.boundedInt ["retry-jitter", scenarioId, plannedDeliveryId,
          toString attemptOrdinal, jitterPolicyVersion] (-bound) (bound + 1) :=
      ContextGenerator.boundedInt_congr h _ _
    unfold GeneratorCall.run ContextGenerator.signedRetryJitter
    simp only [hdraw]

end Reading

section Separation

/-- A message names its context and its counter, and with them the call that reads it. With
digests that do not collide, calls with different keys have no block in common, and no call reads
any block but those of its own key. -/
theorem generator_messages_separated :
    (∀ context other counter turn message, blockMessage context counter = .ok message →
      blockMessage other turn = .ok message → context = other ∧ counter = turn) ∧
    (∀ (call other : GeneratorCall) counter turn message,
      blockMessage call.key.context counter = .ok message →
      blockMessage other.key.context turn = .ok message →
        call.key = other.key ∧ counter = turn) ∧
    (∀ (g : ContextGenerator) (messages : Set Bytes),
      Set.InjOn (g.hmacDigest g.normalizedSeedHash) messages →
      ∀ (call other : GeneratorCall) counter turn message message' digest,
        message ∈ messages → message' ∈ messages →
        blockMessage call.key.context counter = .ok message →
        blockMessage other.key.context turn = .ok message' →
        g.contextBlock call.key.context counter = .ok digest →
        g.contextBlock other.key.context turn = .ok digest →
          call.key = other.key ∧ counter = turn) ∧
    ∀ (g g' : ContextGenerator) (call : GeneratorCall),
      (∀ counter, g.contextBlock call.key.context counter =
        g'.contextBlock call.key.context counter) → call.run g = call.run g' := by
  have hcalls : ∀ (call other : GeneratorCall) counter turn message,
      blockMessage call.key.context counter = .ok message →
      blockMessage other.key.context turn = .ok message →
        call.key = other.key ∧ counter = turn := by
    intro call other counter turn message hcall hother
    obtain ⟨hcontext, hcounter⟩ := blockMessage_injective hcall hother
    exact ⟨GeneratorKey.context_injective hcontext, hcounter⟩
  refine ⟨fun _ _ _ _ _ => blockMessage_injective, hcalls, ?_, fun g g' call h => call.run_congr h⟩
  intro g messages hinj call other counter turn message message' digest hmem hmem' hcall hother
    hblock hblock'
  rw [ContextGenerator.contextBlock_eq, hcall] at hblock
  rw [ContextGenerator.contextBlock_eq, hother] at hblock'
  have hdigest := (Except.ok.inj hblock).trans (Except.ok.inj hblock').symm
  cases hinj hmem hmem' hdigest
  exact hcalls call other counter turn message hcall hother

def ordersCall : GeneratorCall := .plannedId .scenario ["orders"]

theorem ordersCall_separated :
    ∃ message digest, blockMessage ordersCall.key.context 0 = .ok message ∧
      modularGenerator.contextBlock ordersCall.key.context 0 = .ok digest ∧
      (ordersCall.key.context = ["planned-id-v1", "scenario", "orders"] ∧ 0 = 0) ∧
      (ordersCall.key = .plannedId .scenario ["orders"] ∧ 0 = 0) ∧
      (ordersCall.key = ordersCall.key ∧ 0 = 0) ∧
      ordersCall.run modularGenerator =
        ordersCall.run { modularGenerator with normalizedSeedHash := [1] } := by
  obtain ⟨hcontexts, hcalls, hdigests, hrun⟩ := generator_messages_separated
  obtain ⟨message, hmessage⟩ := exists_of_isOk
    (show (blockMessage ordersCall.key.context 0).isOk = true by decide)
  obtain ⟨digest, hdigest⟩ := exists_of_isOk
    (show (modularGenerator.contextBlock ordersCall.key.context 0).isOk = true by decide +kernel)
  refine ⟨message, digest, hmessage, hdigest, hcontexts _ _ _ _ message hmessage hmessage,
    hcalls ordersCall ordersCall _ _ message hmessage hmessage, ?_, hrun _ _ _ fun _ => rfl⟩
  exact hdigests modularGenerator {message} (Set.injOn_singleton _ message) ordersCall ordersCall
    0 0 message message digest rfl rfl hmessage hmessage hdigest hdigest

end Separation

end WebhookConformance
