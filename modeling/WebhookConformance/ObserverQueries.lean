import WebhookConformance.Validation

/-! Observer queries and poll plans: `derive_observer_queries`, `_poll_plan` and
`_capability_requirements`, with the checks of the observer protocol and of
`ObservationPollPlan`. -/
namespace WebhookConformance

open Checked

section ProtocolJson

/-- `_validate_bounded_text`. -/
def validateBoundedText (fieldName : String) (maximum : Nat) (allowEmpty : Bool) (value : String) :
    Except String Unit :=
  if (!allowEmpty && value.isEmpty) || decide (maximum < value.length) then
    .error (fieldName ++ " exceeds its bounded length contract")
  else if value.toList.any fun c => decide (c.toNat < 32 ∨ c.toNat = 127) then
    .error (fieldName ++ " must not contain control characters")
  else .ok ()

def maxJsonDepth : Nat := 32

def maxJsonNodes : Nat := 10000

def maxJsonItems : Nat := 1000

def maxJsonStringLength : Nat := 4096

def maxJsonKeyLength : Nat := 256

/-- The counter and the depth check at the head of `_freeze_json_node`. -/
def enterNode (depth nodes : Nat) : Except String Nat :=
  if maxJsonNodes < nodes + 1 then
    .error "The observer protocol message exceeds its JSON node limit."
  else if maxJsonDepth < depth then
    .error "The observer protocol message exceeds its JSON nesting-depth limit."
  else .ok (nodes + 1)

/-- A leaf of `_freeze_json_node`, and what it asks besides. -/
def freezeLeaf (check : Except String Unit) (depth nodes : Nat) : Except String Nat := do
  let nodes ← enterNode depth nodes
  check
  return nodes

def checkProtocolInteger (n : Int) : Except String Unit :=
  require (-(maxSafeInteger : Int) ≤ n ∧ n ≤ maxSafeInteger)
    "observer JSON integer exceeds the I-JSON-safe range"

def checkProtocolText (s : String) : Except String Unit := do
  require (s.length ≤ maxJsonStringLength)
    "The observer protocol message exceeds its JSON string-length limit."
  validateBoundedText "observer JSON string" maxJsonStringLength true s

def checkProtocolKey (key : String) : Except String Unit := do
  require (key.length ≤ maxJsonKeyLength)
    "The observer protocol message exceeds its JSON key-length limit."
  validateBoundedText "observer JSON object key" maxJsonKeyLength false key

/-- `_freeze_json_node`: from the depth and the nodes counted so far to the nodes counted after
the value. -/
def freezeAlgebra : Json.Algebra (Nat → Nat → Except String Nat) where
  null := freezeLeaf (.ok ())
  bool _ := freezeLeaf (.ok ())
  number n := freezeLeaf (checkProtocolInteger n)
  float _ := freezeLeaf (.error "observer JSON does not permit floating-point values")
  text s := freezeLeaf (checkProtocolText s)
  array items := fun depth nodes => do
    let nodes ← enterNode depth nodes
    require (items.length ≤ maxJsonItems)
      "The observer protocol message exceeds its JSON array-item limit."
    items.foldlM (fun n item => item (depth + 1) n) nodes
  object members := fun depth nodes => do
    let nodes ← enterNode depth nodes
    require (members.length ≤ maxJsonItems)
      "The observer protocol message exceeds its JSON object-property limit."
    members.foldlM (fun n m => do checkProtocolKey m.1; m.2 (depth + 1) n) nodes

def freezeNode : Json → Nat → Nat → Except String Nat := Json.fold freezeAlgebra

/-- `_freeze_json`. -/
def freezeJson (v : Json) : Except String Unit := do
  let _ ← freezeNode v 1 0
  return ()

end ProtocolJson

section Queries

/-- A query as the observer protocol sends it. -/
structure WireQuery where
  key : String
  type : EvidenceValueType
  parameters : Json
  deriving DecidableEq

/-- The protocol model of a query; at most 128 parameters are already guaranteed. -/
def wireQuery (query : ConfigObserverQuery) (type : EvidenceValueType) :
    Except String WireQuery := do
  validateBoundedText "query key" maxJsonKeyLength false query.key
  freezeJson query.parameters.value
  return ⟨query.key, type, query.parameters.value⟩

/-- `previous == candidate`. -/
def WireQuery.sameContract (a b : WireQuery) : Bool :=
  a.key = b.key && a.type = b.type && a.parameters.looseEq b.parameters

/-- The evidence type a predicate is evaluated on. -/
def neededType (path : Option JsonPointer) (expected : TypedValue) : EvidenceValueType :=
  if path.isSome then .object else expected.valueType

def Predicate.neededType (p : Predicate) : EvidenceValueType :=
  WebhookConformance.neededType p.path p.expected

/-- `_query_type`: the first predicate of that key decides. There is one whenever the key is that
of a query of the assertion. -/
def queryType (check : ObserverCheck) (key : String) : EvidenceValueType :=
  match check with
  | .count _ _ _ _ => .integer
  | .existence _ _ => .boolean
  | .resourceField _ _ _ _ _ => .object
  | .orderedTransition _ _ _ _ _ => .array
  | .eventualState _ path _ expected _ => WebhookConformance.neededType path expected
  | .noPartialSideEffect predicates _ _ =>
    ((predicates.find? fun p => p.query.key = key).map Predicate.neededType).getD .object

def ObserverCheck.configured : ObserverCheck → List ConfigObserverQuery
  | .count _ query _ _ => [query]
  | .existence _ query => [query]
  | .resourceField query _ _ _ _ => [query]
  | .eventualState query _ _ _ _ => [query]
  | .orderedTransition query _ _ _ _ => [query]
  | .noPartialSideEffect predicates _ _ => predicates.map Predicate.query

/-- The loop of `derive_observer_queries`. -/
def mergeQueries (check : ObserverCheck) :
    List (String × WireQuery) → List ConfigObserverQuery → Except String (List (String × WireQuery))
  | result, [] => .ok result
  | result, query :: queries => do
    let candidate ← wireQuery query (queryType check query.key)
    require (∀ previous ∈ result.lookup query.key, previous.sameContract candidate = true)
      "duplicate observer query keys must have identical contracts"
    mergeQueries check (Assoc.assign query.key candidate result) queries

def deriveObserverQueries (check : ObserverCheck) : Except String (List WireQuery) := do
  let result ← mergeQueries check [] check.configured
  return result.map Prod.snd

/-- `_capability_requirements`: the last predicate of a key decides. -/
def capabilityRequirements (check : ObserverCheck) : List (String × EvidenceValueType) :=
  match check with
  | .noPartialSideEffect predicates _ _ =>
    predicates.foldl (fun result p => Assoc.assign p.query.key p.neededType result) []
  | check => check.configured.map fun query => (query.key, queryType check query.key)

end Queries

section PollPlan

/-- `_observer_id`. -/
def observerId (check : ObserverCheck) : Except String String :=
  match check.configured with
  | [] => .error "composite predicates must use one observer"
  | first :: rest => do
    require (∀ query ∈ rest, query.observer = first.observer)
      "composite predicates must use one observer"
    return first.observer.text

structure ObservationPollPlan where
  observerId : String
  queries : List WireQuery
  withinNs : Nat
  pollIntervalNs : Nat
  invocationTimeoutNs : Nat
  deriving DecidableEq

def positiveSafeInteger (fieldName : String) (value : Nat) : Except String Unit :=
  require (1 ≤ value ∧ value ≤ maxSafeInteger) (fieldName ++ " must be a positive I-JSON integer")

/-- The checks of `ObservationPollPlan` on the observer and on the bounds. -/
def ObservationPollPlan.validate (plan : ObservationPollPlan) :
    Except String ObservationPollPlan := do
  require ((1 ≤ plan.observerId.length ∧ plan.observerId.length ≤ 256) ∧
      ¬ plan.observerId.toList.any (fun c => decide (c ∈ ['\r', '\n', '\x00'])) = true)
    "observer_id must be bounded and line-safe"
  positiveSafeInteger "polling deadline" plan.withinNs
  positiveSafeInteger "observer invocation timeout" plan.invocationTimeoutNs
  positiveSafeInteger "polling interval" plan.pollIntervalNs
  require (minimumPollNanoseconds ≤ plan.pollIntervalNs)
    "polling interval must be at least 10 milliseconds"
  require (plan.pollIntervalNs ≤ plan.withinNs) "polling interval cannot exceed its deadline"
  return plan

/-- An observe request takes between one and 64 queries of distinct keys. -/
def observeRequest (queries : List WireQuery) : Except String (List WireQuery) := do
  require (queries.length ≤ 64) "Tuple should have at most 64 items after validation"
  require (queries ≠ []) "observe requests require sample_id, run_id, and at least one query"
  require (queries.map WireQuery.key).Nodup "observe query keys must be unique"
  return queries

/-- `_configured_invocation_timeouts`. -/
def ObserverConfig.invocationTimeout : ObserverConfig → Nat
  | .command timeout _ => timeout.nanoseconds
  | .http _ _ total _ _ _ => total.nanoseconds

/-- `_poll_plan`: an assertion without polling is observed within the invocation timeout. -/
def pollPlan (assertion : ObserverAssertion) (observerId : String) (queries : List WireQuery)
    (invocationTimeoutNs : Nat) : Except String ObservationPollPlan :=
  let withinNs := match assertion.polling with
    | none => max invocationTimeoutNs minimumPollNanoseconds
    | some polling => polling.within.nanoseconds
  let pollIntervalNs := match assertion.polling with
    | none => withinNs
    | some polling => polling.pollInterval.nanoseconds
  ObservationPollPlan.validate ⟨observerId, queries, withinNs, pollIntervalNs, invocationTimeoutNs⟩

/-- What `evaluate_scoped` and `_evaluate_planned_assertion` build before the first poll. -/
def planObservation (config : ProjectConfig) (assertion : ObserverAssertion) :
    Except String ObservationPollPlan := do
  let observerId ← observerId assertion.check
  match config.observers.get? observerId with
  | none => throw ("configured observer '" ++ observerId ++ "' is unavailable")
  | some observer =>
    let queries ← deriveObserverQueries assertion.check
    let queries ← observeRequest queries
    pollPlan assertion observerId queries observer.invocationTimeout

end PollPlan

section FreezeSpec

def PlainText (s : String) : Prop := ∀ c ∈ s.toList, 32 ≤ c.toNat ∧ c.toNat ≠ 127

instance (s : String) : Decidable (PlainText s) :=
  inferInstanceAs (Decidable (∀ c ∈ s.toList, _))

theorem validateBoundedText_ok_iff {fieldName value : String} {maximum : Nat} {allowEmpty : Bool} :
    validateBoundedText fieldName maximum allowEmpty value = .ok () ↔
      (allowEmpty = false → value ≠ "") ∧ value.length ≤ maximum ∧ PlainText value := by
  have hcontrol : (value.toList.any fun c => decide (c.toNat < 32 ∨ c.toNat = 127)) = true ↔
      ¬ PlainText value := by
    simp only [List.any_eq_true, decide_eq_true_eq, PlainText, not_forall, not_and_or]
    refine exists_congr fun c => ?_
    rw [exists_prop]
    refine and_congr_right fun _ => ?_
    omega
  unfold validateBoundedText
  split
  · rename_i hlength
    simp only [reduceCtorEq, false_iff]
    rintro ⟨hempty, hle, -⟩
    simp only [Bool.or_eq_true, Bool.and_eq_true, Bool.not_eq_true', decide_eq_true_eq] at hlength
    rcases hlength with ⟨hallow, he⟩ | hlt
    · exact hempty hallow (String.isEmpty_iff.mp he)
    · omega
  · rename_i hlength
    simp only [Bool.or_eq_true, Bool.and_eq_true, Bool.not_eq_true', decide_eq_true_eq, not_or,
      not_and, not_lt] at hlength
    split
    · rename_i hc
      simp only [reduceCtorEq, false_iff]
      exact fun h => hcontrol.mp hc h.2.2
    · rename_i hc
      rw [hcontrol, not_not] at hc
      refine iff_of_true rfl ⟨fun hallow he => hlength.1 hallow ?_, hlength.2, hc⟩
      exact String.isEmpty_iff.mpr he

/-- What `_freeze_json_node` asks of one value apart from the counter and the depth. -/
def ProtocolNode : Json → Prop
  | .null => True
  | .bool _ => True
  | .number n => -(maxSafeInteger : Int) ≤ n ∧ n ≤ maxSafeInteger
  | .float _ => False
  | .text s => s.length ≤ maxJsonStringLength ∧ PlainText s
  | .array items => items.length ≤ maxJsonItems
  | .object members => members.length ≤ maxJsonItems ∧
      ∀ m ∈ members, (m.1 ≠ "" ∧ m.1.length ≤ maxJsonKeyLength) ∧ PlainText m.1

theorem checkProtocolText_ok_iff {s : String} :
    checkProtocolText s = .ok () ↔ s.length ≤ maxJsonStringLength ∧ PlainText s := by
  unfold checkProtocolText
  rw [require_bind_ok, validateBoundedText_ok_iff]
  simp

theorem checkProtocolKey_ok_iff {key : String} :
    checkProtocolKey key = .ok () ↔ (key ≠ "" ∧ key.length ≤ maxJsonKeyLength) ∧ PlainText key := by
  unfold checkProtocolKey
  rw [require_bind_ok, validateBoundedText_ok_iff]
  tauto

theorem enterNode_ok_iff {depth nodes n : Nat} :
    enterNode depth nodes = .ok n ↔ n = nodes + 1 ∧ n ≤ maxJsonNodes ∧ depth ≤ maxJsonDepth := by
  unfold enterNode
  split
  · simp only [reduceCtorEq, false_iff]
    omega
  · split
    · simp only [reduceCtorEq, false_iff]
      omega
    · rw [Except.ok.injEq]
      omega

/-- A run that counts: each part adds its size while the total stays within the limit. -/
theorem foldlM_counts {α : Type} {f : α → Nat → Except String Nat} {size : α → Nat}
    {good : α → Prop} {limit : Nat} {parts : List α}
    (hf : ∀ a ∈ parts, ∀ n m, n ≤ limit →
      (f a n = .ok m ↔ m = n + size a ∧ m ≤ limit ∧ good a)) {n m : Nat} (hn : n ≤ limit) :
    parts.foldlM (fun n a => f a n) n = .ok m ↔
      m = n + (parts.map size).sum ∧ m ≤ limit ∧ ∀ a ∈ parts, good a := by
  induction parts generalizing n with
  | nil =>
    simp only [List.foldlM_nil, pure, Except.pure, Except.ok.injEq, List.map_nil, List.sum_nil,
      Nat.add_zero, List.not_mem_nil, false_implies, implies_true, and_true]
    omega
  | cons a parts ih =>
    have hrest := fun k hk => @ih (fun b hb => hf b (List.mem_cons_of_mem a hb)) k hk
    rw [List.foldlM_cons, bind_ok_iff, List.map_cons, List.sum_cons, List.forall_mem_cons]
    constructor
    · rintro ⟨k, hk, h⟩
      obtain ⟨rfl, hle, hgood⟩ := (hf a (by simp) n k hn).mp hk
      obtain ⟨rfl, hm, hall⟩ := (hrest _ hle).mp h
      exact ⟨by omega, hm, hgood, hall⟩
    · rintro ⟨rfl, hm, hgood, hall⟩
      have hle : n + size a ≤ limit := by omega
      exact ⟨n + size a, (hf a (by simp) n _ hn).mpr ⟨rfl, hle, hgood⟩,
        (hrest _ hle).mpr ⟨by omega, hm, hall⟩⟩

theorem freezeLeaf_ok_iff {check : Except String Unit} {depth nodes n : Nat} :
    freezeLeaf check depth nodes = .ok n ↔
      (n = nodes + 1 ∧ n ≤ maxJsonNodes ∧ depth ≤ maxJsonDepth) ∧ check = .ok () := by
  unfold freezeLeaf
  rw [bind_ok_iff]
  constructor
  · rintro ⟨k, hk, h⟩
    obtain ⟨u, hu, h⟩ := bind_ok h
    cases pure_ok h
    exact ⟨enterNode_ok_iff.mp hk, hu⟩
  · rintro ⟨hk, hc⟩
    exact ⟨n, enterNode_ok_iff.mpr hk, bind_of hc rfl⟩

theorem freezeLeaf_within {v : Json} {check : Except String Unit} {depth nodes n : Nat}
    (hchildren : v.children = []) (hnodes : v.nodes = 1)
    (hcheck : check = .ok () ↔ ProtocolNode v) :
    freezeLeaf check depth nodes = .ok n ↔ n = nodes + v.nodes ∧ n ≤ maxJsonNodes ∧
      ∀ w e, Json.Within v depth w e → e ≤ maxJsonDepth ∧ ProtocolNode w := by
  rw [freezeLeaf_ok_iff, Json.forall_within, hchildren, hnodes, hcheck]
  simp only [List.not_mem_nil, false_implies, implies_true, and_true]
  tauto

/-- An array or an object: the value itself, then its parts one after the other. -/
theorem freezeParts_ok_iff {α : Type} {parts : List α} {f : α → Nat → Except String Nat}
    {size : α → Nat} {good : α → Prop} {tooMany : String} {depth nodes n : Nat}
    (hf : ∀ a ∈ parts, ∀ n m, n ≤ maxJsonNodes →
      (f a n = .ok m ↔ m = n + size a ∧ m ≤ maxJsonNodes ∧ good a)) :
    (do
      let k ← enterNode depth nodes
      require (parts.length ≤ maxJsonItems) tooMany
      parts.foldlM (fun n a => f a n) k) = .ok n ↔
      n = nodes + ((parts.map size).sum + 1) ∧ n ≤ maxJsonNodes ∧ depth ≤ maxJsonDepth ∧
        parts.length ≤ maxJsonItems ∧ ∀ a ∈ parts, good a := by
  rw [bind_ok_iff]
  constructor
  · rintro ⟨k, hk, h⟩
    obtain ⟨rfl, hle, hdepth⟩ := enterNode_ok_iff.mp hk
    obtain ⟨hlen, h⟩ := require_bind_ok.mp h
    obtain ⟨rfl, hn, hgood⟩ := (foldlM_counts hf hle).mp h
    exact ⟨by omega, hn, hdepth, hlen, hgood⟩
  · rintro ⟨rfl, hn, hdepth, hlen, hgood⟩
    have hle : nodes + 1 ≤ maxJsonNodes := by omega
    exact ⟨nodes + 1, enterNode_ok_iff.mpr ⟨rfl, hle, hdepth⟩,
      require_bind_ok.mpr ⟨hlen, (foldlM_counts hf hle).mpr ⟨by omega, hn, hgood⟩⟩⟩

/-- The recursion counts every value once and passes exactly the values whose every part is a
protocol value within the depth. -/
theorem freezeNode_ok_iff {v : Json} {depth nodes n : Nat} (hn : nodes ≤ maxJsonNodes) :
    freezeNode v depth nodes = .ok n ↔
      n = nodes + v.nodes ∧ n ≤ maxJsonNodes ∧
        ∀ w e, Json.Within v depth w e → e ≤ maxJsonDepth ∧ ProtocolNode w := by
  induction v using Json.induct generalizing depth nodes n with
  | null => exact freezeLeaf_within rfl rfl (by simp [ProtocolNode])
  | bool b => exact freezeLeaf_within rfl rfl (by simp [ProtocolNode])
  | number k =>
    refine freezeLeaf_within rfl rfl ?_
    unfold checkProtocolInteger
    rw [require_ok_iff]
    rfl
  | float literal => exact freezeLeaf_within rfl rfl (by simp [ProtocolNode])
  | text s => exact freezeLeaf_within rfl rfl checkProtocolText_ok_iff
  | array items ih =>
    have hfold : freezeNode (.array items) depth nodes = (do
        let k ← enterNode depth nodes
        require (items.length ≤ maxJsonItems)
          "The observer protocol message exceeds its JSON array-item limit."
        items.foldlM (fun n v => freezeNode v (depth + 1) n) k) := by
      unfold freezeNode
      rw [Json.fold_array]
      simp only [freezeAlgebra, List.length_map, List.foldlM_map]
    rw [hfold, Json.forall_within, Json.nodes_array,
      freezeParts_ok_iff fun v hv a b ha => ih v hv ha]
    exact and_congr_right fun _ => and_congr_right fun _ => (and_assoc).symm
  | object members ih =>
    have hfold : freezeNode (.object members) depth nodes = (do
        let k ← enterNode depth nodes
        require (members.length ≤ maxJsonItems)
          "The observer protocol message exceeds its JSON object-property limit."
        members.foldlM (fun n m => do checkProtocolKey m.1; freezeNode m.2 (depth + 1) n) k) := by
      unfold freezeNode
      rw [Json.fold_object]
      simp only [freezeAlgebra, List.length_map, List.foldlM_map]
    have hmember : ∀ m ∈ members, ∀ a b, a ≤ maxJsonNodes →
        ((do checkProtocolKey m.1; freezeNode m.2 (depth + 1) a) = .ok b ↔
          b = a + m.2.nodes ∧ b ≤ maxJsonNodes ∧ ((m.1 ≠ "" ∧ m.1.length ≤ maxJsonKeyLength) ∧
            PlainText m.1) ∧ ∀ w e, Json.Within m.2 (depth + 1) w e →
              e ≤ maxJsonDepth ∧ ProtocolNode w) := by
      intro m hm a b ha
      rw [bind_ok_iff, ← checkProtocolKey_ok_iff]
      simp only [ih m hm ha]
      constructor
      · rintro ⟨⟨⟩, hkey, hb, hle, hall⟩
        exact ⟨hb, hle, hkey, hall⟩
      · rintro ⟨hb, hle, hkey, hall⟩
        exact ⟨(), hkey, hb, hle, hall⟩
    rw [hfold, Json.forall_within, Json.nodes_object, freezeParts_ok_iff hmember]
    refine and_congr_right fun _ => and_congr_right fun _ => ?_
    simp only [Json.children, List.forall_mem_map, ProtocolNode, forall_and]
    tauto

/-- What the protocol asks of a value beyond what the configuration asked already. -/
def SendableNode : Json → Prop
  | .text s => PlainText s
  | .object members => ∀ m ∈ members, m.1 ≠ "" ∧ PlainText m.1
  | _ => True

theorem protocolNode_iff {w : Json} {e : Nat} (h : checkCanonicalNode w e = .ok ()) :
    ProtocolNode w ↔ SendableNode w := by
  unfold checkCanonicalNode at h
  split at h
  · cases h
  · cases w with
    | null => exact Iff.rfl
    | bool b => exact Iff.rfl
    | number n =>
      simp only [ite_eq_left_iff, reduceCtorEq, imp_false, not_not] at h
      exact iff_of_true h trivial
    | float literal => cases h
    | text s =>
      simp only [gt_iff_lt, ite_eq_right_iff, reduceCtorEq, imp_false, not_lt] at h
      exact and_iff_right h
    | array items =>
      simp only [gt_iff_lt, ite_eq_right_iff, reduceCtorEq, imp_false, not_lt] at h
      exact iff_of_true h trivial
    | object members =>
      simp only at h
      split at h
      · cases h
      · rename_i hlen
        split at h
        · cases h
        · rename_i hkeys
          simp only [gt_iff_lt, List.any_eq_true, decide_eq_true_eq, not_exists, not_and,
            not_lt] at hkeys
          refine (and_iff_right (not_lt.mp hlen)).trans (forall₂_congr fun m hm => ?_)
          exact and_congr_left fun _ => and_iff_left (hkeys m hm)

/-- A JSON value that the observer protocol takes. -/
structure Sendable (v : Json) : Prop where
  depth : v.depth ≤ maxJsonDepth
  nodes : v.nodes ≤ maxJsonNodes
  plain : ∀ w e, Json.Within v 1 w e → SendableNode w

theorem freezeJson_ok_iff {v : CanonicalJson} :
    freezeJson v.value = .ok () ↔ Sendable v.value := by
  have hcanonical : ∀ w e, Json.Within v.value 1 w e → checkCanonicalNode w e = .ok () :=
    ((Json.walk_ok_iff fun vs => .refl vs).mp v.frozen).2 (v.value, 1) (by simp)
  have hfreeze : freezeJson v.value = .ok () ↔ ∃ n, freezeNode v.value 1 0 = .ok n := by
    unfold freezeJson
    rw [bind_ok_iff]
    exact exists_congr fun n => and_iff_left rfl
  simp only [hfreeze, freezeNode_ok_iff (Nat.zero_le _), forall_and, imp_and,
    Json.within_le_iff, Nat.zero_add]
  constructor
  · rintro ⟨n, rfl, hnodes, hdepth, hplain⟩
    exact ⟨by omega, hnodes, fun w e hw => (protocolNode_iff (hcanonical w e hw)).mp (hplain w e hw)⟩
  · rintro ⟨hdepth, hnodes, hplain⟩
    exact ⟨_, rfl, hnodes, by omega,
      fun w e hw => (protocolNode_iff (hcanonical w e hw)).mpr (hplain w e hw)⟩

end FreezeSpec

section QuerySpec

variable {check : ObserverCheck} {result final : List (String × WireQuery)}
  {queries : List ConfigObserverQuery}

def ConfigObserverQuery.Sendable (q : ConfigObserverQuery) : Prop :=
  PlainText q.key ∧ WebhookConformance.Sendable q.parameters.value

theorem wireQuery_ok_iff {q : ConfigObserverQuery} {t : EvidenceValueType} {w : WireQuery} :
    wireQuery q t = .ok w ↔ q.Sendable ∧ w = ⟨q.key, t, q.parameters.value⟩ := by
  have hkey : validateBoundedText "query key" maxJsonKeyLength false q.key = .ok () ↔
      PlainText q.key := by
    rw [validateBoundedText_ok_iff]
    refine ⟨fun h => h.2.2, fun h => ⟨fun _ he => ?_, q.key_length.2, h⟩⟩
    have := q.key_length.1
    rw [he] at this
    exact absurd this (by decide)
  unfold wireQuery
  rw [bind_ok_iff]
  simp only [bind_ok_iff, pure, Except.pure, Except.ok.injEq, ConfigObserverQuery.Sendable]
  constructor
  · rintro ⟨⟨⟩, hk, ⟨⟩, hp, rfl⟩
    exact ⟨⟨hkey.mp hk, freezeJson_ok_iff.mp hp⟩, rfl⟩
  · rintro ⟨⟨hk, hp⟩, rfl⟩
    exact ⟨(), hkey.mpr hk, (), freezeJson_ok_iff.mpr hp, rfl⟩

/-- Every entry of the dictionary stands under its own key with the type of that key. -/
structure Derived (check : ObserverCheck) (result : List (String × WireQuery)) : Prop where
  nodup : (result.map Prod.fst).Nodup
  entry : ∀ e ∈ result, e.2.key = e.1 ∧ e.2.type = queryType check e.1

theorem Derived.empty : Derived check [] := ⟨List.nodup_nil, by simp⟩

theorem Derived.assign (h : Derived check result) (key : String) (parameters : Json) :
    Derived check (Assoc.assign key ⟨key, queryType check key, parameters⟩ result) := by
  refine ⟨Assoc.nodup_assign h.nodup, fun e he => ?_⟩
  rcases (Assoc.mem_assign h.nodup).mp he with rfl | ⟨-, he⟩
  · exact ⟨rfl, rfl⟩
  · exact h.entry e he

theorem Derived.lookup (h : Derived check result) {key : String} {w : WireQuery}
    (hw : result.lookup key = some w) : w.key = key ∧ w.type = queryType check key :=
  h.entry (key, w) (Assoc.mem_of_lookup hw)

/-- Parameters that one dictionary entry can stand for. -/
def SameParameters (q r : ConfigObserverQuery) : Prop :=
  q.key = r.key → q.parameters.value.looseEq r.parameters.value = true

theorem Derived.sameContract (h : Derived check result) {q : ConfigObserverQuery} {w : WireQuery}
    (hw : result.lookup q.key = some w) :
    w.sameContract ⟨q.key, queryType check q.key, q.parameters.value⟩ = true ↔
      w.parameters.looseEq q.parameters.value = true := by
  obtain ⟨hkey, htype⟩ := h.lookup hw
  simp [WireQuery.sameContract, hkey, htype]

/-- The loop ends well exactly when every query can be sent and queries of one key have equal
parameters. Their types never differ: all are asked of the first predicate of the key. -/
theorem mergeQueries_ok_iff (h : Derived check result) :
    (∃ final, mergeQueries check result queries = .ok final) ↔
      (∀ q ∈ queries, q.Sendable) ∧
      (∀ q ∈ queries, ∀ w, result.lookup q.key = some w →
        w.parameters.looseEq q.parameters.value = true) ∧
      queries.Pairwise SameParameters := by
  induction queries generalizing result with
  | nil => simp [mergeQueries]
  | cons q queries ih =>
    have hstep : (∃ final, mergeQueries check result (q :: queries) = .ok final) ↔
        q.Sendable ∧ (∀ w, result.lookup q.key = some w →
          w.parameters.looseEq q.parameters.value = true) ∧
        ∃ final, mergeQueries check
          (Assoc.assign q.key ⟨q.key, queryType check q.key, q.parameters.value⟩ result) queries =
          .ok final := by
      simp only [mergeQueries, bind_ok_iff, wireQuery_ok_iff, require_ok_iff]
      constructor
      · rintro ⟨final, w, ⟨hq, rfl⟩, -, hsame, hfinal⟩
        exact ⟨hq, fun w hw => (h.sameContract hw).mp (hsame w hw), final, hfinal⟩
      · rintro ⟨hq, hsame, final, hfinal⟩
        exact ⟨final, _, ⟨hq, rfl⟩, (), fun w hw => (h.sameContract hw).mpr (hsame w hw), hfinal⟩
    rw [hstep, ih (h.assign _ _), List.forall_mem_cons, List.forall_mem_cons, List.pairwise_cons]
    constructor
    · rintro ⟨hq, hfirst, hsend, hlater, hpairs⟩
      have hagree : ∀ r ∈ queries, SameParameters q r := by
        intro r hr hkey
        refine hlater r hr ⟨q.key, queryType check q.key, q.parameters.value⟩ ?_
        rw [← hkey]
        exact Assoc.lookup_assign_self
      refine ⟨⟨hq, hsend⟩, ⟨hfirst, fun r hr w hw => ?_⟩, hagree, hpairs⟩
      by_cases hkey : r.key = q.key
      · have hqr := Json.looseEq_iff.mp (hagree r hr hkey.symm)
        have hwq := Json.looseEq_iff.mp (hfirst w (hkey ▸ hw))
        exact Json.looseEq_iff.mpr (hwq.trans hqr)
      · exact hlater r hr w ((Assoc.lookup_assign_of_ne hkey).trans hw)
    · rintro ⟨⟨hq, hsend⟩, ⟨hfirst, hlater⟩, hagree, hpairs⟩
      refine ⟨hq, hfirst, hsend, fun r hr w hw => ?_, hpairs⟩
      by_cases hkey : r.key = q.key
      · rw [hkey, Assoc.lookup_assign_self, Option.some.injEq] at hw
        subst hw
        exact hagree r hr hkey.symm
      · exact hlater r hr w ((Assoc.lookup_assign_of_ne hkey).symm.trans hw)

theorem mergeQueries_derived (h : Derived check result)
    (hm : mergeQueries check result queries = .ok final) :
    Derived check final ∧
      ∀ key, key ∈ final.map Prod.fst ↔
        key ∈ result.map Prod.fst ∨ key ∈ queries.map ConfigObserverQuery.key := by
  induction queries generalizing result with
  | nil =>
    cases hm
    exact ⟨h, by simp⟩
  | cons q queries ih =>
    obtain ⟨w, hw, hm⟩ := bind_ok hm
    obtain ⟨u, -, hm⟩ := bind_ok hm
    obtain ⟨-, rfl⟩ := wireQuery_ok_iff.mp hw
    obtain ⟨hd, hkeys⟩ := ih (h.assign _ _) hm
    refine ⟨hd, fun key => ?_⟩
    rw [hkeys, Assoc.mem_keys_assign, List.map_cons, List.mem_cons]
    tauto

/-- `derive_observer_queries` does not raise. -/
def Derivable (check : ObserverCheck) : Prop :=
  (∀ q ∈ check.configured, q.Sendable) ∧ check.configured.Pairwise SameParameters

theorem deriveObserverQueries_ok_iff :
    (∃ queries, deriveObserverQueries check = .ok queries) ↔ Derivable check := by
  have hmerge := @mergeQueries_ok_iff check [] check.configured .empty
  simp only [List.lookup_nil, reduceCtorEq, false_implies, implies_true, true_and] at hmerge
  rw [Derivable, ← hmerge]
  unfold deriveObserverQueries
  constructor
  · rintro ⟨queries, h⟩
    obtain ⟨final, hf, -⟩ := bind_ok h
    exact ⟨final, hf⟩
  · rintro ⟨final, hf⟩
    exact ⟨_, bind_of hf rfl⟩

/-- The derived queries: one for each configured key, of the type asked for it. -/
theorem deriveObserverQueries_spec {wire : List WireQuery}
    (h : deriveObserverQueries check = .ok wire) :
    (wire.map WireQuery.key).Nodup ∧
      (∀ key, key ∈ wire.map WireQuery.key ↔ key ∈ check.configured.map ConfigObserverQuery.key) ∧
      ∀ w ∈ wire, w.type = queryType check w.key := by
  obtain ⟨final, hf, h⟩ := bind_ok h
  cases pure_ok h
  obtain ⟨hd, hkeys⟩ := mergeQueries_derived .empty hf
  have hmap : (final.map Prod.snd).map WireQuery.key = final.map Prod.fst := by
    rw [List.map_map]
    exact List.map_congr_left fun e he => (hd.entry e he).1
  rw [hmap]
  refine ⟨hd.nodup, by simpa using hkeys, ?_⟩
  intro w hw
  obtain ⟨e, he, rfl⟩ := List.mem_map.mp hw
  rw [(hd.entry e he).2, (hd.entry e he).1]

end QuerySpec

end WebhookConformance
