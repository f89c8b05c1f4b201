import WebhookConformance.DomainSeparation
import Mathlib.Data.Set.Card

/-! The byte stream behind a context: a slice is a window of it, and the words that rejection
sampling accepts are spread evenly over the range. -/
namespace WebhookConformance

open Checked

section Words

/-- The word width that `bounded_int` chooses for a span. -/
def wordWidth (span : Nat) : Nat := max 1 ((Nat.size (span - 1) + 7) / 8)

/-- The first word value that `bounded_int` rejects. -/
def rejectionLimit (span : Nat) : Nat :=
  2 ^ (wordWidth span * 8) - 2 ^ (wordWidth span * 8) % span

/-- The words of the chosen width that `bounded_int` accepts and maps to a value. -/
def acceptedWords (lower upper value : Int) : Set Bytes :=
  {word | word.length = wordWidth (upper - lower).toNat ∧
    fromBytesBig word < rejectionLimit (upper - lower).toNat ∧
    lower + (fromBytesBig word % (upper - lower).toNat : Nat) = value}

variable {span : Nat}

theorem span_le_sampleSpace (hspan : 0 < span) : span ≤ 2 ^ (wordWidth span * 8) := by
  have hsize : span - 1 < 2 ^ Nat.size (span - 1) := Nat.lt_size_self (span - 1)
  have hwidth : Nat.size (span - 1) ≤ wordWidth span * 8 := by
    rw [wordWidth]
    omega
  have hpow : 2 ^ Nat.size (span - 1) ≤ 2 ^ (wordWidth span * 8) :=
    Nat.pow_le_pow_right (by decide) hwidth
  omega

theorem rejectionLimit_le : rejectionLimit span ≤ 256 ^ wordWidth span := by
  rw [show 256 = 2 ^ 8 by rfl, ← pow_mul, Nat.mul_comm 8]
  exact Nat.sub_le _ _

theorem rejectionLimit_eq : rejectionLimit span = span * (2 ^ (wordWidth span * 8) / span) := by
  have hdiv := Nat.div_add_mod (2 ^ (wordWidth span * 8)) span
  rw [rejectionLimit]
  omega

/-- How many whole copies of the range lie below the limit. -/
def wholeCopies (span : Nat) : Nat := 2 ^ (wordWidth span * 8) / span

theorem copy_lt {remainder copy : Nat} (hremainder : remainder < span)
    (hcopy : copy < wholeCopies span) : remainder + span * copy < rejectionLimit span := by
  have hnext : span * (copy + 1) ≤ span * wholeCopies span := Nat.mul_le_mul_left span hcopy
  rw [Nat.mul_add] at hnext
  rw [rejectionLimit_eq, ← wholeCopies]
  omega

/-- Each whole copy of the range below the limit has one word for the value. -/
theorem acceptedWords_eq {lower upper value : Int} (hlower : lower ≤ value)
    (hupper : value < upper) :
    acceptedWords lower upper value =
      (fun copy => toBytesBig (wordWidth (upper - lower).toNat)
        ((value - lower).toNat + (upper - lower).toNat * copy)) ''
        (Finset.range (wholeCopies (upper - lower).toNat)) := by
  generalize hspan : (upper - lower).toNat = span
  generalize hremainder : (value - lower).toNat = remainder
  have hlt : remainder < span := by omega
  ext word
  simp only [acceptedWords, hspan, Set.mem_setOf_eq, Set.mem_image, Finset.coe_range, Set.mem_Iio]
  constructor
  · rintro ⟨hlength, hlimit, hvalue⟩
    have hmod : fromBytesBig word % span = remainder := by omega
    refine ⟨fromBytesBig word / span, ?_, ?_⟩
    · rw [rejectionLimit_eq, Nat.mul_comm] at hlimit
      exact Nat.div_lt_of_lt_mul (Nat.mul_comm _ span ▸ hlimit)
    · rw [← hmod, Nat.mod_add_div, ← hlength, toBytesBig_fromBytesBig]
  · rintro ⟨copy, hcopy, rfl⟩
    have hlimit := copy_lt hlt hcopy
    rw [toBytesBig_length, fromBytesBig_toBytesBig (hlimit.trans_le rejectionLimit_le),
      Nat.add_mul_mod_self_left, Nat.mod_eq_of_lt hlt]
    exact ⟨rfl, hlimit, by omega⟩

theorem ncard_acceptedWords {lower upper value : Int} (hlower : lower ≤ value)
    (hupper : value < upper) :
    (acceptedWords lower upper value).ncard = wholeCopies (upper - lower).toNat := by
  rw [acceptedWords_eq hlower hupper, Set.ncard_image_of_injOn, Set.ncard_coe_finset,
    Finset.card_range]
  intro a ha b hb hab
  have hlt : (value - lower).toNat < (upper - lower).toNat := by omega
  have ha := (copy_lt hlt (Finset.mem_range.1 ha)).trans_le rejectionLimit_le
  have hb := (copy_lt hlt (Finset.mem_range.1 hb)).trans_le rejectionLimit_le
  have hequal := Nat.add_left_cancel (toBytesBig_injective ha hb hab)
  exact Nat.eq_of_mul_eq_mul_left (by omega) hequal

/-- Every value of a range has the same positive number of words. -/
theorem acceptedWords_even {lower upper : Int} (h : lower < upper) :
    ∃ share, 0 < share ∧ ∀ value, lower ≤ value → value < upper →
      (acceptedWords lower upper value).ncard = share := by
  have hspan : 0 < (upper - lower).toNat := by omega
  exact ⟨_, Nat.div_pos (span_le_sampleSpace hspan) hspan, fun _ => ncard_acceptedWords⟩

end Words

namespace ContextGenerator

section Stream

variable {g : ContextGenerator} {context : List String} {encoded : Bytes}

/-- The blocks of a context from one counter on. -/
def stream (g : ContextGenerator) (encoded : Bytes) (first count : Nat) : Bytes :=
  (List.range' first count).flatMap fun counter =>
    g.hmacDigest g.normalizedSeedHash (messageDomainSeparator ++ encoded ++ toBytesBig 8 counter)

theorem stream_add (first count more : Nat) :
    g.stream encoded first (count + more) =
      g.stream encoded first count ++ g.stream encoded (first + count) more := by
  rw [stream, ← List.range'_append_1, List.flatMap_append, stream, stream]

theorem stream_length (first count : Nat) :
    (g.stream encoded first count).length = digestSize * count := by
  induction count generalizing first with
  | zero => rfl
  | succ count ih =>
    rw [stream, List.range'_succ, List.flatMap_cons, List.length_append, g.digest_length, ← stream,
      ih, Nat.mul_succ, Nat.add_comm]

theorem mapM_block {counters : List Nat} (h : ∀ c ∈ counters, c ≤ uint64Max) :
    counters.mapM (g.block encoded) = .ok (counters.map fun counter =>
      g.hmacDigest g.normalizedSeedHash
        (messageDomainSeparator ++ encoded ++ toBytesBig 8 counter)) := by
  induction counters with
  | nil => rfl
  | cons c counters ih =>
    obtain ⟨hc, hrest⟩ := List.forall_mem_cons.1 h
    rw [List.mapM_cons, ih hrest, block, if_neg (by omega)]
    rfl

theorem drawBytes_eq {length : Nat} (hcontext : encodeContext context = .ok encoded) :
    g.drawBytes context length =
      if uint64Max + 1 < (length + digestSize - 1) / digestSize then
        .error "requested length exceeds the uint64 counter space"
      else
        .ok ((g.stream encoded 0 ((length + digestSize - 1) / digestSize)).take length) := by
  rw [drawBytes, hcontext]
  split
  · rename_i h
    simp only [bind, Except.bind, if_pos h]
    rfl
  · rename_i h
    have hcounters : ∀ c ∈ List.range ((length + digestSize - 1) / digestSize), c ≤ uint64Max := by
      intro c hc
      have hlt := List.mem_range.1 hc
      omega
    simp only [bind, Except.bind, if_neg h, mapM_block hcounters]
    rw [stream, List.flatMap_def, List.range_eq_range']
    rfl

theorem streamSlice_eq {offset length : Nat} :
    g.streamSlice encoded offset length =
      if uint64Max < offset / digestSize ∨ uint64Max - offset / digestSize + 1 <
          (offset + length + digestSize - 1) / digestSize - offset / digestSize then
        .error "rejection sampling exhausted the uint64 counter space"
      else
        .ok (((g.stream encoded (offset / digestSize)
          ((offset + length + digestSize - 1) / digestSize - offset / digestSize)).drop
            (offset % digestSize)).take length) := by
  rw [streamSlice]
  split
  · rename_i h
    simp only [bind, Except.bind, if_pos h]
    rfl
  · rename_i h
    have hcounters : ∀ c ∈ (List.range ((offset + length + digestSize - 1) / digestSize -
        offset / digestSize)).map (offset / digestSize + ·), c ≤ uint64Max := by
      intro c hc
      obtain ⟨i, hi, rfl⟩ := List.mem_map.1 hc
      have hlt := List.mem_range.1 hi
      omega
    simp only [bind, Except.bind, if_neg h, mapM_block hcounters]
    rw [stream, List.flatMap_def, List.range'_eq_map_range]
    rfl

/-- Dropping the blocks before a slice leaves the blocks that `_stream_slice` computes. -/
theorem drop_stream (offset count : Nat) :
    (g.stream encoded 0 (offset / digestSize + count)).drop offset =
      (g.stream encoded (offset / digestSize) count).drop (offset % digestSize) := by
  have hblocks := @stream_length g encoded 0 (offset / digestSize)
  have hoffset := Nat.div_add_mod offset digestSize
  rw [stream_add, Nat.zero_add, List.drop_append, List.drop_eq_nil_of_le (by omega),
    List.nil_append, show offset - _ = offset % digestSize by omega]

/-- A slice is the window of the drawn bytes. Only the empty slice at the very end of the counter
space is refused although the bytes before it can be drawn. -/
theorem streamSlice_window {offset length : Nat} {slice : Bytes}
    (hcontext : encodeContext context = .ok encoded) :
    g.streamSlice encoded offset length = .ok slice ↔
      (0 < length ∨ offset < 2 ^ 69) ∧ ∃ bytes, g.drawBytes context (offset + length) = .ok bytes ∧
        slice = (bytes.drop offset).take length := by
  obtain ⟨count, hcount⟩ : ∃ count,
      (offset + length + digestSize - 1) / digestSize = offset / digestSize + count :=
    Nat.exists_eq_add_of_le (Nat.div_le_div_right (by simp only [digestSize]; omega))
  rw [streamSlice_eq, drawBytes_eq hcontext, hcount, Nat.add_sub_cancel_left]
  have hmax : uint64Max = 2 ^ 64 - 1 := rfl
  have hsize : digestSize = 32 := rfl
  rw [hsize] at hcount ⊢
  by_cases hfits : uint64Max < offset / 32 ∨ uint64Max - offset / 32 + 1 < count
  · rw [if_pos hfits]
    constructor
    · rintro ⟨⟩
    · rintro ⟨hnonempty, bytes, hbytes, -⟩
      rw [if_pos (by omega)] at hbytes
      cases hbytes
  · have hwindow : ∀ bytes : Bytes, ((bytes.take (offset + length)).drop offset).take length =
        (bytes.drop offset).take length := by
      intro bytes
      rw [List.drop_take, Nat.add_sub_cancel_left, List.take_take, Nat.min_self]
    rw [if_neg hfits, if_neg (by omega)]
    constructor
    · intro hslice
      refine ⟨by omega, _, rfl, ?_⟩
      rw [hwindow, ← hsize, drop_stream]
      exact (Except.ok.inj hslice).symm
    · rintro ⟨-, bytes, hbytes, rfl⟩
      rw [← Except.ok.inj hbytes, hwindow, ← hsize, drop_stream]

/-- The empty slice at the end of the counter space: the bytes before it can be drawn, it
cannot. -/
theorem streamSlice_end_of_space (hcontext : encodeContext context = .ok encoded) :
    (∃ bytes, g.drawBytes context (2 ^ 69 + 0) = .ok bytes) ∧
      g.streamSlice encoded (2 ^ 69) 0 =
        .error "rejection sampling exhausted the uint64 counter space" := by
  rw [drawBytes_eq hcontext, if_neg (by decide), streamSlice_eq, if_pos (by decide)]
  exact ⟨⟨_, rfl⟩, rfl⟩

end Stream

section Draws

variable {g : ContextGenerator} {context : List String} {lower upper value : Int}

theorem boundedIntLoop_reads {encoded : Bytes} {span width limit fuel offset : Nat}
    (h : g.boundedIntLoop encoded lower span width limit fuel offset = .ok value) :
    ∃ turns word, g.streamSlice encoded (offset + turns * width) width = .ok word ∧
      fromBytesBig word < limit ∧ value = lower + (fromBytesBig word % span : Nat) ∧
      ∀ turn < turns, ∃ refused, g.streamSlice encoded (offset + turn * width) width = .ok refused ∧
        limit ≤ fromBytesBig refused := by
  induction fuel generalizing offset with
  | zero => cases h
  | succ fuel ih =>
    rw [boundedIntLoop] at h
    split at h
    · cases h
    · rename_i word hword
      dsimp only at h
      split at h
      · rename_i haccepted
        refine ⟨0, word, by rwa [Nat.zero_mul], haccepted, (Except.ok.inj h).symm, by simp⟩
      · rename_i hrefused
        obtain ⟨turns, found, hfound, haccepted, hvalue, hbefore⟩ := ih h
        have hshift : ∀ turn, offset + width + turn * width = offset + (turn + 1) * width := by
          intro turn
          rw [Nat.succ_mul]
          omega
        refine ⟨turns + 1, found, hshift turns ▸ hfound, haccepted, hvalue, ?_⟩
        intro turn hturn
        cases turn with
        | zero => exact ⟨word, by rwa [Nat.zero_mul], by omega⟩
        | succ turn => exact hshift turn ▸ hbefore turn (by omega)

theorem streamSlice_length {encoded slice : Bytes} {offset length : Nat}
    (h : g.streamSlice encoded offset length = .ok slice) : slice.length = length := by
  rw [streamSlice_eq] at h
  split at h
  · cases h
  · rw [← Except.ok.inj h, List.length_take, List.length_drop, stream_length]
    simp only [digestSize]
    omega

/-- The value comes from the first word below the limit, of the consecutive words of the stream. -/
def DrawnFrom (g : ContextGenerator) (context : List String) (lower upper value : Int) : Prop :=
  ∃ encoded turns word, encodeContext context = .ok encoded ∧
    g.streamSlice encoded (turns * wordWidth (upper - lower).toNat)
      (wordWidth (upper - lower).toNat) = .ok word ∧
    word ∈ acceptedWords lower upper value ∧
    ∀ turn < turns, ∃ refused, g.streamSlice encoded (turn * wordWidth (upper - lower).toNat)
      (wordWidth (upper - lower).toNat) = .ok refused ∧
      rejectionLimit (upper - lower).toNat ≤ fromBytesBig refused

theorem boundedInt_drawn (h : g.boundedInt context lower upper = .ok value) :
    g.DrawnFrom context lower upper value := by
  rw [boundedInt] at h
  split at h
  · cases h
  · split at h
    · cases h
    · rename_i encoded hencoded
      obtain ⟨turns, word, hword, haccepted, hvalue, hbefore⟩ := boundedIntLoop_reads h
      simp only [Nat.zero_add] at hword hbefore
      exact ⟨encoded, turns, word, hencoded, hword,
        ⟨streamSlice_length hword, haccepted, hvalue.symm⟩, hbefore⟩

theorem signedRetryJitter_ok {scenario delivery policy : String} {ordinal bound : Nat}
    (h : g.signedRetryJitter scenario delivery ordinal policy bound = .ok value) :
    g.boundedInt ["retry-jitter", scenario, delivery, toString ordinal, policy]
      (-bound) (bound + 1) = .ok value := by
  rw [signedRetryJitter] at h
  repeat' split at h
  all_goals first | exact h | cases h

/-- Bounded integers and jitter stay in their ranges, come from the first accepted word of one
stream, and every value of a range has the same number of words. -/
theorem bounded_draws (g : ContextGenerator) :
    (∀ context lower upper value, g.boundedInt context lower upper = .ok value →
      lower ≤ value ∧ value < upper ∧ g.DrawnFrom context lower upper value) ∧
    (∀ scenario delivery ordinal policy (bound : Nat) value,
      g.signedRetryJitter scenario delivery ordinal policy bound = .ok value →
        -(bound : Int) ≤ value ∧ value ≤ bound ∧
          g.DrawnFrom ["retry-jitter", scenario, delivery, toString ordinal, policy]
            (-bound) (bound + 1) value) ∧
    (∀ lower upper, lower < upper → ∃ share, 0 < share ∧ ∀ value, lower ≤ value → value < upper →
      (acceptedWords lower upper value).ncard = share) ∧
    (∀ context encoded offset length slice, encodeContext context = .ok encoded →
      (g.streamSlice encoded offset length = .ok slice ↔
        (0 < length ∨ offset < 2 ^ 69) ∧
          ∃ bytes, g.drawBytes context (offset + length) = .ok bytes ∧
            slice = (bytes.drop offset).take length)) := by
  refine ⟨?_, ?_, ?_, ?_⟩
  · intro context lower upper value h
    obtain ⟨hlower, hupper⟩ := boundedInt_range h
    exact ⟨hlower, hupper, boundedInt_drawn h⟩
  · intro scenario delivery ordinal policy bound value h
    obtain ⟨hlower, hupper⟩ := signedRetryJitter_range h
    exact ⟨hlower, hupper, boundedInt_drawn (signedRetryJitter_ok h)⟩
  · intro lower upper
    exact acceptedWords_even
  · intro context encoded offset length slice
    exact streamSlice_window

theorem sampleContext_encoded : ∃ encoded, encodeContext ["s"] = .ok encoded :=
  encodeContext_ok (by decide) (by simp only [List.forall_mem_singleton, KeyComponent]; decide)

theorem modular_draws :
    (modularGenerator.signedRetryJitter "s" "d" 0 "p" 0 = .ok 0 ∧
      modularGenerator.DrawnFrom ["retry-jitter", "s", "d", "0", "p"] (-(0 : Nat)) ((0 : Nat) + 1) 0) ∧
    (∃ share, 0 < share ∧ ∀ value, -3 ≤ value → value < 4 →
      (acceptedWords (-3) 4 value).ncard = share) ∧
    (∃ encoded bytes slice, encodeContext ["s"] = .ok encoded ∧
      modularGenerator.drawBytes ["s"] (30 + 8) = .ok bytes ∧
      modularGenerator.streamSlice encoded 30 8 = .ok slice ∧ slice = (bytes.drop 30).take 8) := by
  obtain ⟨hdraws, hjitter, heven, hwindow⟩ := bounded_draws modularGenerator
  refine ⟨?_, heven (-3) 4 (by decide), ?_⟩
  · have hzero : modularGenerator.signedRetryJitter "s" "d" 0 "p" 0 = .ok 0 := by
      apply signedRetryJitter_zero_ok <;> first | (unfold KeyComponent; decide) | decide
    exact ⟨hzero, (hjitter _ _ _ _ _ _ hzero).2.2⟩
  · obtain ⟨encoded, hencoded⟩ := sampleContext_encoded
    have hbytes := (@drawBytes_eq modularGenerator ["s"] encoded (30 + 8) hencoded).trans
      (if_neg (by decide))
    exact ⟨encoded, _, _, hencoded, hbytes, (hwindow _ _ 30 8 _ hencoded).2
      ⟨Or.inl (by decide), _, hbytes, rfl⟩, rfl⟩

/-- The bytes before the end of the counter space can be drawn; the empty slice at the end is
refused. -/
theorem modular_end_of_space :
    ∃ encoded bytes, encodeContext ["s"] = .ok encoded ∧
      modularGenerator.drawBytes ["s"] (2 ^ 69 + 0) = .ok bytes ∧
      modularGenerator.streamSlice encoded (2 ^ 69) 0 =
        .error "rejection sampling exhausted the uint64 counter space" := by
  obtain ⟨encoded, hencoded⟩ := sampleContext_encoded
  obtain ⟨⟨bytes, hbytes⟩, hslice⟩ := @streamSlice_end_of_space modularGenerator _ _ hencoded
  exact ⟨encoded, bytes, hencoded, hbytes, hslice⟩

end Draws

end ContextGenerator

end WebhookConformance
