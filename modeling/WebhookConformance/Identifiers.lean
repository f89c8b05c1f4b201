import WebhookConformance.Generator
import WebhookConformance.Library.Checked

/-! Replay-stable planned identifiers of `domain/identifiers.py`. -/
namespace WebhookConformance

inductive PlannedIdKind where
  | scenario
  | event
  | delivery
  | attemptPlan
  | observation
  | assertion
  deriving DecidableEq, Repr

def PlannedIdKind.value : PlannedIdKind → String
  | .scenario => "scenario"
  | .event => "event"
  | .delivery => "delivery"
  | .attemptPlan => "attempt_plan"
  | .observation => "observation"
  | .assertion => "assertion"

def crockfordAlphabet : List Char := "0123456789ABCDEFGHJKMNPQRSTVWXYZ".toList

/-- The low `n` base-32 digits of an integer, most significant first. -/
def crockfordDigits : Nat → Nat → List Char
  | 0, _ => []
  | n + 1, v => crockfordDigits n (v / 32) ++ [crockfordAlphabet.getD (v % 32) '0']

def encodeCrockfordUlid (value : Bytes) : Except String String :=
  if value.length ≠ 16 then .error "ULID payload must be exactly 16 bytes"
  else .ok (String.ofList (crockfordDigits 26 (fromBytesBig value)))

def validateNaturalKey (key : List String) : Except String (List String) :=
  if key.isEmpty then .error "natural_key must not be empty"
  else if key.any String.isEmpty then .error "natural_key components must not be empty"
  else if key.any fun c => 4096 < (utf8 c).length then
    .error "natural_key component exceeds the 4096-byte boundary"
  else .ok key

def ContextGenerator.drawBytes (g : ContextGenerator) (context : List String) (length : Nat) :
    Except String Bytes := do
  let encoded ← encodeContext context
  let blockCount := (length + digestSize - 1) / digestSize
  if uint64Max + 1 < blockCount then
    throw "requested length exceeds the uint64 counter space"
  let blocks ← (List.range blockCount).mapM (g.block encoded)
  return blocks.flatten.take length

def plannedId (g : ContextGenerator) (kind : PlannedIdKind) (naturalKey : List String) :
    Except String String := do
  let components ← validateNaturalKey naturalKey
  let raw ← g.drawBytes ("planned-id-v1" :: kind.value :: components) 16
  let ulid ← encodeCrockfordUlid raw
  return kind.value ++ "_" ++ ulid

theorem utf8_length_le (text : String) : (utf8 text).length ≤ 4 * text.toList.length := by
  unfold utf8
  induction text.toList with
  | nil => simp
  | cons c cs ih =>
    have := Char.utf8Size_le_four c
    simp only [List.flatMap_cons, List.length_append, String.length_utf8EncodeChar,
      List.length_cons]
    omega

@[simp] theorem crockfordDigits_length (n v : Nat) : (crockfordDigits n v).length = n := by
  induction n generalizing v with
  | zero => rfl
  | succ n ih => simp [crockfordDigits, ih]

/-- A natural-key component that `_validate_natural_key` takes. -/
def KeyComponent (text : String) : Prop := text.isEmpty = false ∧ (utf8 text).length ≤ 4096

section PlannedId

variable {g : ContextGenerator} {kind : PlannedIdKind} {key : List String}

theorem encodeContext_ok {context : List String} (hne : context ≠ [])
    (hc : ∀ c ∈ context, KeyComponent c) : ∃ encoded, encodeContext context = .ok encoded := by
  have hv : validateContext context = .ok context := by
    unfold validateContext
    rw [if_neg (by simpa using hne), if_neg]
    intro ha
    obtain ⟨c, hm, he⟩ := List.any_eq_true.mp ha
    simp [(hc c hm).1] at he
  have hm : ∀ cs : List String, (∀ c ∈ cs, KeyComponent c) →
      ∃ framed, cs.mapM encodeComponent = .ok framed := by
    intro cs hcs
    induction cs with
    | nil => exact ⟨[], rfl⟩
    | cons c cs ih =>
      obtain ⟨framed, hf⟩ := ih fun d hd => hcs d (List.mem_cons_of_mem c hd)
      have hl := (hcs c (by simp)).2
      have he : encodeComponent c = .ok (toBytesBig 4 (utf8 c).length ++ utf8 c) := by
        simp only [encodeComponent]
        rw [if_neg]
        simp only [uint32Max]
        omega
      exact ⟨_, by rw [List.mapM_cons, he, hf]; rfl⟩
  obtain ⟨framed, hf⟩ := hm context hc
  exact ⟨framed.flatten, by simp only [encodeContext, hv, bind, Except.bind, hf]; rfl⟩

theorem drawBytes_ulid {context : List String} (hne : context ≠ [])
    (hc : ∀ c ∈ context, KeyComponent c) :
    ∃ raw, g.drawBytes context 16 = .ok raw ∧ raw.length = 16 := by
  obtain ⟨encoded, he⟩ := encodeContext_ok hne hc
  have hb : g.block encoded 0 = .ok (g.hmacDigest g.normalizedSeedHash
      (messageDomainSeparator ++ encoded ++ toBytesBig 8 0)) := by
    simp [ContextGenerator.block]
  refine ⟨_, by
    simp only [ContextGenerator.drawBytes, he, bind, Except.bind, digestSize,
      show (16 + 32 - 1) / 32 = 1 by rfl, List.range_one, List.mapM_cons, hb]
    rw [if_neg (by simp [uint64Max])]
    rfl, ?_⟩
  simp [g.digest_length, digestSize]

theorem plannedId_exists (hne : key ≠ []) (hc : ∀ c ∈ key, KeyComponent c) :
    ∃ id, plannedId g kind key = .ok id := by
  have hv : validateNaturalKey key = .ok key := by
    unfold validateNaturalKey
    rw [if_neg (by simpa using hne), if_neg, if_neg]
    · intro ha
      obtain ⟨c, hm, hl⟩ := List.any_eq_true.mp ha
      have := (hc c hm).2
      simp only [decide_eq_true_eq] at hl
      omega
    · intro ha
      obtain ⟨c, hm, he⟩ := List.any_eq_true.mp ha
      simp [(hc c hm).1] at he
  have hctx : ∀ c ∈ "planned-id-v1" :: kind.value :: key, KeyComponent c := by
    intro c hm
    simp only [List.mem_cons] at hm
    rcases hm with rfl | rfl | hm
    · unfold KeyComponent
      decide
    · unfold KeyComponent
      cases kind <;> decide
    · exact hc c hm
  obtain ⟨raw, hr, hl⟩ := drawBytes_ulid (g := g) (by simp) hctx
  exact ⟨_, by
    simp only [plannedId, hv, hr, bind, Except.bind, encodeCrockfordUlid, hl, ne_eq, not_true,
      if_false]
    rfl⟩

theorem encodeCrockfordUlid_length {value : Bytes} {ulid : String}
    (h : encodeCrockfordUlid value = .ok ulid) : ulid.toList.length = 26 := by
  unfold encodeCrockfordUlid at h
  split at h
  · cases h
  · rw [← Except.ok.inj h, String.toList_ofList, crockfordDigits_length]

/-- Planned identifiers are themselves good natural-key components. -/
theorem plannedId_component {id : String} (h : plannedId g kind key = .ok id) :
    KeyComponent id := by
  obtain ⟨components, -, h⟩ := Checked.bind_ok h
  obtain ⟨raw, -, h⟩ := Checked.bind_ok h
  obtain ⟨ulid, hu, h⟩ := Checked.bind_ok h
  cases Checked.pure_ok h
  have hl := encodeCrockfordUlid_length hu
  have hk : kind.value.toList.length ≤ 12 := by cases kind <;> decide
  have hu1 : "_".toList.length = 1 := by decide
  have hlen : (kind.value ++ "_" ++ ulid).toList.length =
      kind.value.toList.length + 1 + 26 := by
    rw [String.toList_append, String.toList_append, List.length_append, List.length_append, hl,
      hu1]
  refine ⟨?_, (utf8_length_le _).trans (by omega)⟩
  by_contra he
  rw [Bool.not_eq_false] at he
  rw [String.isEmpty_iff.mp he] at hlen
  simp at hlen

/-- Drawing with a zero bound succeeds, so skipping the draw changes nothing. -/
theorem signedRetryJitter_zero_ok {s d p : String} {n : Nat} (hs : KeyComponent s)
    (hd : KeyComponent d) (hp : KeyComponent p) (hn : KeyComponent (toString n))
    (hu : n ≤ uint64Max) : g.signedRetryJitter s d n p 0 = .ok 0 := by
  obtain ⟨encoded, he⟩ := @encodeContext_ok ["retry-jitter", s, d, toString n, p] (by simp) (by
    intro c hc
    simp only [List.mem_cons, List.not_mem_nil, or_false] at hc
    rcases hc with rfl | rfl | rfl | rfl | rfl
    · unfold KeyComponent
      decide
    all_goals assumption)
  obtain ⟨byte, hb⟩ := g.streamSlice_one encoded
  have hlt : fromBytesBig [byte] < 256 := by
    simpa [fromBytesBig] using byte.toNat_lt
  simp only [ContextGenerator.signedRetryJitter, hs.1, hd.1, hp.1, Bool.false_eq_true, if_false,
    show ¬ uint64Max < n by omega, Nat.not_lt_zero, Nat.cast_zero, neg_zero, zero_add,
    ContextGenerator.boundedInt, he, show ¬ (1 : Int) ≤ 0 by omega]
  simp only [show ((1 : Int) - 0).toNat = 1 by rfl, Nat.sub_self, Nat.size_zero,
    show max 1 ((0 + 7) / 8) = 1 by rfl, Nat.mod_one, Nat.sub_zero, Nat.one_mul,
    ContextGenerator.boundedIntLoop, hb]
  rw [if_pos (by simpa using hlt)]
  simp

end PlannedId

def daysInMonth (year month : Nat) : Nat :=
  if month = 2 then
    if year % 4 = 0 ∧ (year % 100 ≠ 0 ∨ year % 400 = 0) then 29 else 28
  else if month ∈ [4, 6, 9, 11] then 30
  else 31

/-- The 26 characters of a 128-bit value. -/
def isCrockfordUlid (cs : List Char) : Bool :=
  decide (cs.length = 26) && cs.all (crockfordAlphabet.contains ·) &&
    (cs.take 1).all ("01234567".toList.contains ·)

/-- `validate_planned_id` with the expected kind does not raise. -/
def isPlannedId (kind : PlannedIdKind) (text : String) : Bool :=
  let leading := kind.value.toList ++ ['_']
  leading.isPrefixOf text.toList && isCrockfordUlid (text.toList.drop leading.length)

/-- `validate_fresh_id` with the kind of an attempt does not raise. -/
def isFreshAttemptId (text : String) : Bool :=
  "attempt_".toList.isPrefixOf text.toList && isCrockfordUlid (text.toList.drop 8)

end WebhookConformance
