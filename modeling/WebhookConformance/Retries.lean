import WebhookConformance.Domain
import WebhookConformance.Plan
import Mathlib.Data.List.Nodup

/-! Retry evaluation over manifest-fixed templates (`scheduler/retries.py`) and the plan check
of `recovery/bundle_policy.py`. -/
namespace WebhookConformance

def maxAttempts : Nat := 32

inductive RetryDisposition where
  | scheduled
  | ineligible
  | exhausted
  | ambiguousBlocked
  deriving DecidableEq, Repr

/-- The terminal fact retry policy consumes; the proofs are `_validate_relationships`. -/
structure ClassifiedPredecessor where
  attemptId : String
  attemptOrdinal : Nat
  classification : AttemptClassification
  predicate : Option RetryPredicate
  logicalTimeNs : Int
  statusCode : Option Nat
  ordinal_pos : 1 ≤ attemptOrdinal
  ambiguous_none : classification = .ambiguous → predicate = none ∧ statusCode = none
  status_rejected : predicate = some .retryableStatus →
    classification = .receiverRejected ∧ statusCode.isSome = true
  transport_environment : predicate = some .timedOut ∨ predicate = some .connectionFailed →
    classification = .environmentFailure ∧ statusCode = none

structure RetryDecision where
  disposition : RetryDisposition
  predecessorAttemptId : String
  predecessorAttemptOrdinal : Nat
  nextAttemptOrdinal : Option Nat
  attemptPlanId : Option String
  scheduleEntryId : Option String
  scheduleIdempotencyKey : Option String
  logicalDueNs : Option Int
  predicate : Option RetryPredicate
  template : Option AttemptTemplate
  deriving DecidableEq, Repr

def RetryDecision.shouldSchedule (d : RetryDecision) : Bool := d.disposition = .scheduled

def deriveSignedJitterNs (g : ContextGenerator) (scenarioId plannedDeliveryId : String)
    (attemptOrdinal magnitudeBoundNs : Nat) : Except String Int :=
  if attemptOrdinal < 1 ∨ maxSafeInteger < attemptOrdinal then
    .error "attempt ordinal must be a positive safe integer"
  else
    g.signedRetryJitter scenarioId plannedDeliveryId attemptOrdinal jitterPolicyVersion
      magnitudeBoundNs

/-- `(clamped_delay, signed_jitter)`. -/
def deriveRetryDelayNs (g : ContextGenerator) (scenarioId plannedDeliveryId : String)
    (attemptOrdinal baseDelayNs magnitudeBoundNs : Nat) : Except String (Int × Int) := do
  if int64Max < baseDelayNs then
    throw "base delay must be a nonnegative signed-int64 integer"
  let jitter ← deriveSignedJitterNs g scenarioId plannedDeliveryId attemptOrdinal
    magnitudeBoundNs
  let delay := max 0 ((baseDelayNs : Int) + jitter)
  if (maxSafeInteger : Int) < delay then
    throw "jittered retry delay exceeds the safe-integer boundary"
  return (delay, jitter)

def logicalTime (v : Int) (name : String) : Except String Unit :=
  if v < -(maxSafeInteger : Int) ∨ (maxSafeInteger : Int) < v then
    .error (name ++ " must be a signed safe integer")
  else .ok ()

/-- The pieces of a template condition, or nothing when one is empty, repeated or unknown. -/
def conditionPredicates (condition : List Char) : Except String (List RetryPredicate) :=
  let pieces := condition.splitOn '|'
  if pieces.any List.isEmpty ∨ ¬ pieces.Nodup then
    .error "retry template condition is empty or duplicated"
  else
    match pieces.mapM RetryPredicate.ofValue with
    | none => .error "retry template contains an unknown predicate"
    | some predicates => .ok predicates

def templatePredicates (template : AttemptTemplate) : Except String (List RetryPredicate) :=
  match template.conditionalOn with
  | none => .error "later attempt templates require a predecessor condition"
  | some condition => conditionPredicates condition

namespace Retries

/-- The template loop of `_validate_attempt_plan`, from the template after `previousTime`. -/
def checkTemplates : Nat → Option Int → List AttemptTemplate → Except String Unit
  | _, _, [] => .ok ()
  | index, previousTime, template :: rest => do
    if template.ordinal ≠ index then
      throw "attempt template ordinals must be contiguous"
    logicalTime template.notBeforeLogicalNs "attempt template logical time"
    if previousTime.any fun p => template.notBeforeLogicalNs < p then
      throw "attempt template logical times must be monotonic"
    if index = 1 ∧ template.conditionalOn ≠ none then
      throw "first attempt template cannot be conditional"
    if 1 < index then
      let _ ← templatePredicates template
    checkTemplates (index + 1) (some template.notBeforeLogicalNs) rest

def validateAttemptPlan (delivery : DeliveryPlan) : Except String Unit :=
  let n := delivery.attemptPlan.length
  if n < 1 ∨ maxAttempts < n then
    .error "attempt plan must contain between 1 and 32 templates"
  else checkTemplates 1 none delivery.attemptPlan

end Retries

namespace BundlePolicy

/-- `_retry_predicates`: the same reading of a condition, with `None` for every failure. -/
def retryPredicates (attempt : AttemptTemplate) : Option (List RetryPredicate) :=
  (templatePredicates attempt).toOption

def checkRetries : Int → List AttemptTemplate → Except String Unit
  | _, [] => .ok ()
  | previousDue, attempt :: rest => do
    if retryPredicates attempt = none then
      throw "manifest retry predicate is malformed"
    if attempt.notBeforeLogicalNs < previousDue then
      throw "manifest retry due times are not monotonic"
    checkRetries attempt.notBeforeLogicalNs rest

def validateAttemptPlan (delivery : DeliveryPlan) : Except String Unit :=
  match delivery.attemptPlan with
  | [] => .error "manifest attempt ordinals are not contiguous"
  | first :: rest => do
    if (first :: rest).map AttemptTemplate.ordinal ≠ List.range' 1 (rest.length + 1) then
      throw "manifest attempt ordinals are not contiguous"
    if first.conditionalOn ≠ none then
      throw "manifest initial attempt cannot be conditional"
    if first.notBeforeLogicalNs ≠ delivery.logicalTimeNs then
      throw "manifest initial attempt due time differs from its delivery"
    checkRetries first.notBeforeLogicalNs rest

end BundlePolicy

def terminalDecision (disposition : RetryDisposition) (p : ClassifiedPredecessor) :
    RetryDecision :=
  ⟨disposition, p.attemptId, p.attemptOrdinal, none, none, none, none, none, p.predicate, none⟩

section Evaluate

variable (g : ContextGenerator) (sha256Hex : String → String)

/-- `sha256Hex` is `hashlib.sha256(text.encode()).hexdigest()`. -/
def evaluateRetry (delivery : DeliveryPlan) (p : ClassifiedPredecessor) (scenarioId : String) :
    Except String RetryDecision := do
  Retries.validateAttemptPlan delivery
  let nextOrdinal := p.attemptOrdinal + 1
  if delivery.attemptPlan.length < nextOrdinal ∨ maxAttempts < nextOrdinal then
    return terminalDecision .exhausted p
  match delivery.attemptPlan[nextOrdinal - 1]? with
  | none => return terminalDecision .exhausted p
  | some template =>
    if template.ordinal ≠ nextOrdinal then
      throw "next template ordinal does not follow its predecessor"
    if p.classification = .ambiguous then
      return terminalDecision .ambiguousBlocked p
    let predicates ← templatePredicates template
    if p.predicate.all fun q => q ∉ predicates then
      return terminalDecision .ineligible p
    if template.notBeforeLogicalNs < p.logicalTimeNs then
      throw "retry logical time cannot precede its predecessor"
    logicalTime template.notBeforeLogicalNs "retry logical time"
    let attemptPlanId ← plannedId g .attemptPlan
      [scenarioId, delivery.deliveryId, toString nextOrdinal]
    let root := scenarioId ++ "|" ++ delivery.deliveryId ++ "|" ++ p.attemptId ++ "|" ++
      toString nextOrdinal
    return {
      disposition := .scheduled
      predecessorAttemptId := p.attemptId
      predecessorAttemptOrdinal := p.attemptOrdinal
      nextAttemptOrdinal := some nextOrdinal
      attemptPlanId := some attemptPlanId
      scheduleEntryId := some ("retry." ++ sha256Hex root)
      scheduleIdempotencyKey := some ("retry.schedule." ++ sha256Hex ("idempotency|" ++ root))
      logicalDueNs := some template.notBeforeLogicalNs
      predicate := p.predicate
      template := some template }

end Evaluate

@[simp] theorem RetryPredicate.ofValue_value (p : RetryPredicate) : ofValue p.value = some p := by
  cases p <;> decide

theorem RetryPredicate.value_injective : Function.Injective RetryPredicate.value := by
  intro p q h
  have := congrArg RetryPredicate.ofValue h
  simpa using this

theorem RetryPredicate.value_ne_nil (p : RetryPredicate) : p.value ≠ [] := by
  cases p <;> decide

theorem RetryPredicate.bar_not_mem_value (p : RetryPredicate) : '|' ∉ p.value := by
  cases p <;> decide

theorem mapM_ofValue (ps : List RetryPredicate) :
    (ps.map RetryPredicate.value).mapM RetryPredicate.ofValue = some ps := by
  induction ps with
  | nil => rfl
  | cons p ps ih => simp [ih]

/-- Joining the configured predicates and splitting the template condition is the identity. -/
theorem conditionPredicates_intercalate {ps : List RetryPredicate} (hne : ps ≠ [])
    (hnd : ps.Nodup) :
    conditionPredicates (['|'].intercalate (ps.map RetryPredicate.value)) = .ok ps := by
  have hsplit : (['|'].intercalate (ps.map RetryPredicate.value)).splitOn '|' =
      ps.map RetryPredicate.value := by
    apply List.splitOn_intercalate
    · intro l hl
      obtain ⟨p, -, rfl⟩ := List.mem_map.mp hl
      exact p.bar_not_mem_value
    · simpa using hne
  have hempty : (ps.map RetryPredicate.value).any List.isEmpty = false := by
    simp [RetryPredicate.value_ne_nil]
  have hnodup := List.Nodup.map RetryPredicate.value_injective hnd
  simp only [conditionPredicates, hsplit, hempty, hnodup, mapM_ofValue, not_true, or_false,
    Bool.false_eq_true, if_false]


section CompiledPlan

variable {draw : Nat → Except String Int} {ps : List RetryPredicate} {ordinal : Nat}
  {notBefore : Int} {delays : List Duration} {ts : List AttemptTemplate}

/-- No drawn jitter undercuts its backoff. -/
def JitterCovered (draw : Nat → Except String Int) (ordinal : Nat) (delays : List Duration) :
    Prop :=
  ∀ k delay v, delays[k]? = some delay → draw (ordinal + k + 1) = .ok v →
    0 ≤ (delay.nanoseconds : Int) + v

theorem JitterCovered.tail {delay : Duration}
    (h : JitterCovered draw ordinal (delay :: delays)) :
    JitterCovered draw (ordinal + 1) delays := by
  intro k d v hd hv
  exact h (k + 1) d v (by simpa using hd) (by rwa [show ordinal + (k + 1) = ordinal + 1 + k by omega])

/-- With covered jitter the next template is never before the last one. -/
theorem JitterCovered.le_head {delay : Duration} {t : AttemptTemplate}
    (h : JitterCovered draw ordinal (delay :: delays))
    (ht : ∃ v, draw (ordinal + 1) = .ok v ∧
      t.notBeforeLogicalNs = notBefore + delay.nanoseconds + v) :
    notBefore ≤ t.notBeforeLogicalNs := by
  obtain ⟨v, hv, ht⟩ := ht
  have := h 0 delay v rfl hv
  omega

theorem logicalTime_ok {v : Int} (name : String)
    (h : -(maxSafeInteger : Int) ≤ v ∧ v ≤ maxSafeInteger) : logicalTime v name = .ok () := by
  unfold logicalTime
  rw [if_neg (by omega)]

variable (hne : ps ≠ []) (hnd : ps.Nodup)
include hne hnd

theorem templatePredicates_ok {t : AttemptTemplate}
    (ht : t.conditionalOn = some (['|'].intercalate (ps.map RetryPredicate.value))) :
    templatePredicates t = .ok ps := by
  simp only [templatePredicates, ht]
  exact conditionPredicates_intercalate hne hnd

theorem Retries.checkTemplates_after
    (h : TemplatesAfter draw (['|'].intercalate (ps.map RetryPredicate.value)) ordinal notBefore
      delays ts)
    (ho : 1 ≤ ordinal) (hc : JitterCovered draw ordinal delays) :
    checkTemplates (ordinal + 1) (some notBefore) ts = .ok () := by
  induction delays generalizing ordinal notBefore ts with
  | nil =>
    cases ts with
    | nil => rfl
    | cons t ts => exact h.elim
  | cons delay delays ih =>
    cases ts with
    | nil => exact h.elim
    | cons t ts =>
      obtain ⟨hstep, hord, hcond, hsafe, hrest⟩ := h
      have hle := hc.le_head hstep
      have htail := ih hrest (by omega) hc.tail
      unfold checkTemplates
      simp only [hord, ne_eq, not_true, if_false, logicalTime_ok _ hsafe, Option.any_some,
        show ¬ t.notBeforeLogicalNs < notBefore by omega, decide_false,
        show ¬ ordinal + 1 = 1 by omega, false_and, show 1 < ordinal + 1 by omega, if_true,
        templatePredicates_ok hne hnd hcond, htail, Bool.false_eq_true]
      rfl

theorem BundlePolicy.checkRetries_after
    (h : TemplatesAfter draw (['|'].intercalate (ps.map RetryPredicate.value)) ordinal notBefore
      delays ts)
    (hc : JitterCovered draw ordinal delays) : checkRetries notBefore ts = .ok () := by
  induction delays generalizing ordinal notBefore ts with
  | nil =>
    cases ts with
    | nil => rfl
    | cons t ts => exact h.elim
  | cons delay delays ih =>
    cases ts with
    | nil => exact h.elim
    | cons t ts =>
      obtain ⟨hstep, -, hcond, -, hrest⟩ := h
      have hle := hc.le_head hstep
      have htail := ih hrest hc.tail
      unfold checkRetries
      simp only [retryPredicates, templatePredicates_ok hne hnd hcond, Except.toOption,
        reduceCtorEq, if_false, show ¬ t.notBeforeLogicalNs < notBefore by omega, htail]

end CompiledPlan

section CompiledDelivery

variable {g : ContextGenerator} {requestBlob : DeliverAction → String} {scenarioId : String}
  {source : DeliverAction × Int} {d : DeliveryPlan}

/-- The jitter draws of one delivery, at the bound its action configures. -/
def deliveryJitter (g : ContextGenerator) (scenarioId deliveryId : String)
    (retry : RetryConfig) : Nat → Except String Int :=
  templateJitter g scenarioId deliveryId retry.jitter.nanoseconds

/-- No drawn jitter of this delivery undercuts its backoff. -/
def DeliveryCovered (g : ContextGenerator) (scenarioId : String) (action : DeliverAction)
    (deliveryId : String) : Prop :=
  ∀ retry, action.retry = some retry →
    JitterCovered (deliveryJitter g scenarioId deliveryId retry) 1 retry.backoff

theorem retryOn_ne_nil {retry : RetryConfig} {delay : Duration} {delays : List Duration}
    (h : retry.backoff = delay :: delays) : retry.retryOn ≠ [] := by
  intro hn
  have hone := retry.retryOn_nil_iff.mp hn
  have hlen := retry.backoff_length
  rw [h, hone] at hlen
  simp at hlen

/-- Attempt ordinals are short decimal texts. -/
theorem ordinal_component {n : Nat} (h : n ≤ maxAttempts) : KeyComponent (toString n) := by
  have hall : ∀ m ≤ 32, (toString m : String).isEmpty = false ∧
      (utf8 (toString m)).length ≤ 4096 := by
    decide
  exact hall n h

/-- The compiled plan with all its facts, the later templates under their own retry policy. -/
theorem CompiledDelivery.templates (h : CompiledDelivery g requestBlob scenarioId source d) :
    ∃ first later, d.attemptPlan = first :: later ∧ first.ordinal = 1 ∧
      first.notBeforeLogicalNs = d.logicalTimeNs ∧ first.conditionalOn = none ∧
      (-(maxSafeInteger : Int) ≤ d.logicalTimeNs ∧ d.logicalTimeNs ≤ maxSafeInteger) ∧
      (source.1.retry = none → later = []) ∧
      ∀ retry, source.1.retry = some retry →
        TemplatesAfter (deliveryJitter g scenarioId d.deliveryId retry) retry.predicates 1
          d.logicalTimeNs retry.backoff later := by
  obtain ⟨first, later, hts, ho, ht, hc, hs, hnone, hsome⟩ := attemptTemplates_ok h.plan
  rw [← h.time] at ht hs hsome
  exact ⟨first, later, hts, ho, ht, hc, hs, hnone, hsome⟩

theorem CompiledDelivery.length_le (h : CompiledDelivery g requestBlob scenarioId source d) :
    1 ≤ d.attemptPlan.length ∧ d.attemptPlan.length ≤ maxAttempts := by
  obtain ⟨first, later, hts, -, -, -, -, hnone, hsome⟩ := h.templates
  have hmax : maxAttempts = 32 := rfl
  rw [hts, List.length_cons]
  cases hr : source.1.retry with
  | none => simp [hnone hr, hmax]
  | some retry =>
    have hlen := (hsome retry hr).length_eq
    have hb := retry.backoff_length
    have hm := retry.maxAttempts_range
    omega

theorem CompiledDelivery.later_checked (h : CompiledDelivery g requestBlob scenarioId source d)
    (hc : DeliveryCovered g scenarioId source.1 d.deliveryId) :
    ∃ first later, d.attemptPlan = first :: later ∧ first.ordinal = 1 ∧
      first.notBeforeLogicalNs = d.logicalTimeNs ∧ first.conditionalOn = none ∧
      (-(maxSafeInteger : Int) ≤ d.logicalTimeNs ∧ d.logicalTimeNs ≤ maxSafeInteger) ∧
      Retries.checkTemplates 2 (some d.logicalTimeNs) later = .ok () ∧
      BundlePolicy.checkRetries d.logicalTimeNs later = .ok () := by
  obtain ⟨first, later, hts, ho, ht, hn, hs, hnone, hsome⟩ := h.templates
  refine ⟨first, later, hts, ho, ht, hn, hs, ?_⟩
  cases hr : source.1.retry with
  | none =>
    rw [hnone hr]
    exact ⟨rfl, rfl⟩
  | some retry =>
    have hafter := hsome retry hr
    have hcov := hc retry hr
    cases hb : retry.backoff with
    | nil =>
      have hlen := hafter.length_eq
      rw [hb, List.length_nil, List.length_eq_zero_iff] at hlen
      rw [hlen]
      exact ⟨rfl, rfl⟩
    | cons delay delays =>
      have hne := retryOn_ne_nil hb
      exact ⟨Retries.checkTemplates_after hne retry.retryOn_nodup hafter le_rfl hcov,
        BundlePolicy.checkRetries_after hne retry.retryOn_nodup hafter hcov⟩

theorem Retries.validateAttemptPlan_compiled
    (h : CompiledDelivery g requestBlob scenarioId source d)
    (hc : DeliveryCovered g scenarioId source.1 d.deliveryId) :
    Retries.validateAttemptPlan d = .ok () := by
  obtain ⟨hlo, hhi⟩ := h.length_le
  obtain ⟨first, later, hts, ho, ht, hn, hs, hcheck, -⟩ := h.later_checked hc
  unfold Retries.validateAttemptPlan
  rw [if_neg (by omega), hts]
  unfold Retries.checkTemplates
  simp only [ho, ht, hn, ne_eq, not_true, if_false, logicalTime_ok _ hs, Option.any_none,
    Bool.false_eq_true, and_false, lt_irrefl, hcheck]
  rfl

theorem BundlePolicy.validateAttemptPlan_compiled
    (h : CompiledDelivery g requestBlob scenarioId source d)
    (hc : DeliveryCovered g scenarioId source.1 d.deliveryId) :
    BundlePolicy.validateAttemptPlan d = .ok () := by
  obtain ⟨first, later, hts, ho, ht, hn, -, -, hcheck⟩ := h.later_checked hc
  obtain ⟨first', later', hts', -, -, -, -, hnone, hsome⟩ := h.templates
  rw [hts] at hts'
  obtain ⟨rfl, rfl⟩ := List.cons.inj hts'
  have hord : later.map AttemptTemplate.ordinal = List.range' 2 later.length := by
    cases hr : source.1.retry with
    | none => simp [hnone hr]
    | some retry => exact (hsome retry hr).ordinals
  unfold BundlePolicy.validateAttemptPlan
  rw [hts]
  simp only [List.map_cons, ho, hord, List.range'_succ, ne_eq, not_true, if_false, hn, ht, hcheck]

/-- Consecutive compiled times, by attempt ordinal: the earlier one at `k`, the later after it. -/
theorem CompiledDelivery.le_next (h : CompiledDelivery g requestBlob scenarioId source d)
    (hc : DeliveryCovered g scenarioId source.1 d.deliveryId) {k : Nat}
    {t u : AttemptTemplate} (ht : d.attemptPlan[k]? = some t)
    (hu : d.attemptPlan[k + 1]? = some u) :
    t.notBeforeLogicalNs ≤ u.notBeforeLogicalNs := by
  obtain ⟨first, later, hts, -, hft, -, -, hnone, hsome⟩ := h.templates
  rw [hts] at ht hu
  have hu' : later[k]? = some u := by simpa using hu
  cases hr : source.1.retry with
  | none => simp [hnone hr] at hu'
  | some retry =>
    have hafter := hsome retry hr
    have hk : k < retry.backoff.length := by
      rw [← hafter.length_eq]
      exact (List.getElem?_eq_some_iff.mp hu').1
    have htimes : (d.logicalTimeNs :: later.map AttemptTemplate.notBeforeLogicalNs)[k]? =
        some t.notBeforeLogicalNs := by
      have := congrArg (Option.map AttemptTemplate.notBeforeLogicalNs) ht
      rwa [← List.getElem?_map, List.map_cons, hft] at this
    obtain ⟨v, hv, he⟩ := hafter.step (List.getElem?_eq_getElem hk) htimes
      (by rw [List.getElem?_map, hu']; rfl)
    have := hc retry hr k _ v (List.getElem?_eq_getElem hk) hv
    omega

/-- A compiled plan never makes retry evaluation raise, whatever attempt it follows. -/
theorem evaluateRetry_compiled {sha256Hex : String → String} {p : ClassifiedPredecessor}
    (h : CompiledDelivery g requestBlob scenarioId source d)
    (hc : DeliveryCovered g scenarioId source.1 d.deliveryId)
    (hs : KeyComponent scenarioId) {t : AttemptTemplate}
    (ht : d.attemptPlan[p.attemptOrdinal - 1]? = some t)
    (htime : p.logicalTimeNs = t.notBeforeLogicalNs) :
    ∃ decision, evaluateRetry g sha256Hex d p scenarioId = .ok decision := by
  have hpos := p.ordinal_pos
  have hlen := h.length_le
  simp only [evaluateRetry, Retries.validateAttemptPlan_compiled h hc, bind, Except.bind,
    Nat.add_sub_cancel]
  split
  · exact ⟨_, rfl⟩
  · rename_i hin
    cases hu : d.attemptPlan[p.attemptOrdinal]? with
    | none => exact ⟨_, rfl⟩
    | some u =>
      obtain ⟨first, later, hts, -, -, -, -, hnone, hsome⟩ := h.templates
      have hu' : later[p.attemptOrdinal - 1]? = some u := by
        rw [hts] at hu
        rwa [List.getElem?_cons, if_neg (by omega)] at hu
      cases hr : source.1.retry with
      | none => simp [hnone hr] at hu'
      | some retry =>
        have hafter := hsome retry hr
        obtain ⟨ho, hcond, hsafe⟩ := hafter.get hu'
        have hne : retry.retryOn ≠ [] := by
          intro hn
          have hone := retry.retryOn_nil_iff.mp hn
          have hl := hafter.length_eq
          rw [retry.backoff_length, hone, List.length_eq_zero_iff] at hl
          simp [hl] at hu'
        have hpred := templatePredicates_ok hne retry.retryOn_nodup hcond
        have hle : p.logicalTimeNs ≤ u.notBeforeLogicalNs := by
          rw [htime]
          exact h.le_next hc ht (by rwa [Nat.sub_add_cancel hpos])
        obtain ⟨id, hid⟩ := @plannedId_exists g .attemptPlan
          [scenarioId, d.deliveryId, toString (p.attemptOrdinal + 1)] (by simp) (by
            intro c hm
            simp only [List.mem_cons, List.not_mem_nil, or_false] at hm
            obtain ⟨key, hkey⟩ := h.identity
            rcases hm with rfl | rfl | rfl
            · exact hs
            · exact plannedId_component hkey
            · exact ordinal_component (by omega))
        dsimp only
        rw [if_neg (by omega)]
        split
        · exact ⟨_, rfl⟩
        · rw [hpred]
          dsimp only
          split
          · exact ⟨_, rfl⟩
          · rw [if_neg (by omega), logicalTime_ok _ hsafe, hid]
            exact ⟨_, rfl⟩

end CompiledDelivery

end WebhookConformance
