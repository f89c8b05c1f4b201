import WebhookConformance.ObserverProtocol

/-! The evaluation of observer evidence: typed facts and their comparison, evidence predicates, and
the temporal assertions of `assertions/temporal.py`. -/
namespace WebhookConformance

open Checked

section Facts

/-- One typed comparison value. -/
structure StateAssertionFact where
  value : EvidenceValue
  sensitive : Bool
  deriving DecidableEq

def validatedFact (type : EvidenceValueType) (raw : Json) (sensitive : Bool) :
    Except String StateAssertionFact := do
  let value ← evidenceValue type raw
  return ⟨value, sensitive⟩

def expectedFact (expected : TypedValue) : Except String StateAssertionFact :=
  validatedFact expected.valueType expected.dumpValue false

def inferValueType : Json → Except String EvidenceValueType
  | .null => .ok .null
  | .bool _ => .ok .boolean
  | .number _ => .ok .integer
  | .text _ => .ok .string
  | .array _ => .ok .array
  | .object _ => .ok .object
  | .float _ => .error "observer object contains an unsupported field value"

/-- The value as the preferred type if it is one, else as the type its JSON form has. -/
def preferredFact (preferred inferred : EvidenceValueType) (raw : Json) (sensitive : Bool) :
    Except String StateAssertionFact :=
  match validatedFact preferred raw sensitive with
  | .ok fact => .ok fact
  | .error _ => validatedFact inferred raw sensitive

/-- `_actual_fact`. A decimal text too long for the protocol is an error, not a string. -/
def actualFact (raw : Json) (expectedType : EvidenceValueType) (sensitive : Bool) :
    Except String StateAssertionFact := do
  let inferred ← inferValueType raw
  match raw, expectedType with
  | .text s, .decimalString =>
    validatedFact (if (readDecimal asciiDigit s).isSome then .decimalString else .string) raw
      sensitive
  | .text _, .timestamp => preferredFact .timestamp inferred raw sensitive
  | .object _, .bytesDigest => preferredFact .bytesDigest inferred raw sensitive
  | _, _ => validatedFact inferred raw sensitive

def pointerToken : List Char → List Char
  | '~' :: '1' :: cs => '/' :: pointerToken cs
  | '~' :: '0' :: cs => '~' :: pointerToken cs
  | c :: cs => c :: pointerToken cs
  | [] => []

def pointerTokens (pointer : JsonPointer) : List String :=
  match pointer.text.toList with
  | [] => []
  | _ :: cs => (cs.splitOn '/').map fun token => String.ofList (pointerToken token)

def pointerStep (token : String) : Json → Option Json
  | .object members => members.lookup token
  | .array items =>
    match Json.readNatural token.toList with
    | some (index, []) => items[index]?
    | _ => none
  | _ => none

/-- `_resolve_json_pointer`. -/
def resolveJsonPointer (root : Json) (pointer : JsonPointer) : Option Json :=
  (pointerTokens pointer).foldlM (fun current token => pointerStep token current) root

end Facts

section Comparison

def Comparator.holds (comparator : Comparator) (order : Ordering) : Bool :=
  match comparator with
  | .eq => order = .eq
  | .ne => order ≠ .eq
  | .lt => order = .lt
  | .lte => order ≠ .gt
  | .gt => order = .gt
  | .gte => order ≠ .lt

/-- `Decimal` takes the text without rounding or clamping. -/
def DecimalValue.exact (d : DecimalValue) : Bool :=
  decide (-1999999999999999997 ≤ d.exponent ∧
    d.exponent + (Nat.toDigits 10 d.coefficient).length ≤ 1000000000000000000)

def decimalOf (s : String) : Option DecimalValue := (readDecimal pythonDigit s).filter (·.exact)

def DecimalValue.scaled (d : DecimalValue) (exponent : Int) : Int :=
  (if d.negative then -1 else 1) * d.coefficient * 10 ^ (d.exponent - exponent).toNat

def DecimalValue.order (left right : DecimalValue) : Ordering :=
  let exponent := min left.exponent right.exponent
  compare (left.scaled exponent) (right.scaled exponent)

/-- `_deep_exact_equal` on JSON values: no number equals a boolean, and keys have no order. -/
def deepExactEqual : Json → Json → Bool :=
  Json.fold
    { null := fun w => w = .null
      bool := fun b w => w = .bool b
      number := fun n w => w = .number n
      float := fun literal w => w = .float literal
      text := fun s w => w = .text s
      array := fun items w =>
        match w with
        | .array others =>
          decide (items.length = others.length) && (items.zip others).all fun p => p.1 p.2
        | _ => false
      object := fun members w =>
        match w with
        | .object others =>
          others.all (fun o => decide (o.1 ∈ members.map Prod.fst)) &&
            members.all fun m => (others.lookup m.1).any m.2
        | _ => false }

def exactComparison (comparator : Comparator) (equal : Bool) : Option Bool :=
  match comparator with
  | .eq => some equal
  | .ne => some (!equal)
  | _ => none

/-- `_compare_facts`; `none` is a comparator that the types do not support. -/
def compareFacts (actual expected : EvidenceValue) (comparator : Comparator) : Option Bool :=
  if actual.valueType ≠ expected.valueType then exactComparison comparator false
  else
    match actual, expected with
    | .integer left, .integer right => some (comparator.holds (compare left right))
    | .decimalString left, .decimalString right => do
      let left ← decimalOf left
      let right ← decimalOf right
      return comparator.holds (left.order right)
    | .bytesDigest left, .bytesDigest right => exactComparison comparator (left = right)
    | left, right => exactComparison comparator (deepExactEqual left.json right.json)

end Comparison

/-- The one item of a key, or what its absence or repetition means. -/
def selectEvidence {α : Type} (key : String) (evidence : List ObserverEvidence)
    (missing duplicate : α) (found : ObserverEvidence → α) : α :=
  match evidence.filter (·.key = key) with
  | [] => missing
  | [item] => found item
  | _ => duplicate

section Predicates

inductive EvidencePredicateCode where
  | predicateMatch
  | predicateMismatch
  | evidenceMissing
  | evidenceDuplicate
  | evidenceTypeMismatch
  | pointerMissing
  | comparatorUnsupported
  deriving DecidableEq, Repr

structure PredicateEvaluation where
  result : AssertionResult
  code : EvidencePredicateCode
  expected : StateAssertionFact
  actual : Option StateAssertionFact
  deriving DecidableEq

/-- `_predicate_actual`: the fact to compare, or the evaluation that ends here. -/
def predicateActual (p : Predicate) (item : ObserverEvidence) (expected : StateAssertionFact) :
    Except PredicateEvaluation StateAssertionFact :=
  let mismatch := ⟨.error, .evidenceTypeMismatch, expected, none⟩
  match p.path with
  | none => .ok ⟨item.value, item.sensitive⟩
  | some path =>
    match item.value with
    | .object members =>
      match resolveJsonPointer (.object members) path with
      | none =>
        .error ⟨if p.missingPointer = .fail then .fail else .error, .pointerMissing, expected, none⟩
      | some raw =>
        match actualFact raw expected.value.valueType item.sensitive with
        | .ok actual => .ok actual
        | .error _ => .error mismatch
    | _ => .error mismatch

def evaluateItem (p : Predicate) (expected : StateAssertionFact) (item : ObserverEvidence) :
    PredicateEvaluation :=
  match predicateActual p item expected with
  | .error evaluation => evaluation
  | .ok actual =>
    match compareFacts actual.value expected.value p.comparator with
    | none => ⟨.error, .comparatorUnsupported, expected, some actual⟩
    | some true => ⟨.pass, .predicateMatch, expected, some actual⟩
    | some false => ⟨.fail, .predicateMismatch, expected, some actual⟩

def evaluateEvidencePredicate (p : Predicate) (evidence : List ObserverEvidence) :
    Except String PredicateEvaluation := do
  let expected ← expectedFact p.expected
  return selectEvidence p.query.key evidence ⟨.error, .evidenceMissing, expected, none⟩
    ⟨.error, .evidenceDuplicate, expected, none⟩ (evaluateItem p expected)

end Predicates

section Temporal

inductive TemporalAssertionCode where
  | orderMatch
  | orderMismatch
  | evidenceMissing
  | evidenceDuplicate
  | evidenceTypeMismatch
  | eventualMatch
  | eventualMismatch
  | eventualDeadlineMismatch
  | eventualTimeoutError
  | predicateError
  | observerPending
  | observerUnsupported
  | observerError
  | pollResultInconsistent
  deriving DecidableEq, Repr

structure TemporalEvaluation where
  result : AssertionResult
  code : TemporalAssertionCode
  expected : StateAssertionFact
  actual : Option StateAssertionFact
  deriving DecidableEq

/-- A transition is a state name, or an object with a state and at most a timestamp besides. -/
def transitionState : Json → Option String
  | .text s => if s = "" then none else some s
  | .object members =>
    match members.lookup "state" with
    | some (.text s) =>
      if s ≠ "" ∧ (∀ m ∈ members, m.1 ∈ ["state", "timestamp"]) ∧
          ∀ t ∈ members.lookup "timestamp", (evidenceValue .timestamp t).isOk = true then some s
      else none
    | _ => none
  | _ => none

def containsContiguousSequence (actual expected : List String) : Bool :=
  decide (expected.length ≤ actual.length) &&
    (List.range (actual.length - expected.length + 1)).any fun index =>
      decide ((actual.drop index).take expected.length = expected)

def isOrderedSubsequence : List String → List String → Bool
  | [], _ => false
  | _ :: _, [] => true
  | state :: actual, next :: expected =>
    if state = next then expected.isEmpty || isOrderedSubsequence actual expected
    else isOrderedSubsequence actual (next :: expected)

def evaluateTransitions (states : List String) (allowIntermediate : Bool)
    (item : ObserverEvidence) : TemporalEvaluation :=
  let expected : StateAssertionFact := ⟨.array (states.map .text), false⟩
  match item.value with
  | .array items =>
    let actual := some ⟨.array items, item.sensitive⟩
    match items.mapM transitionState with
    | none => ⟨.error, .evidenceTypeMismatch, expected, actual⟩
    | some observed =>
      if (if allowIntermediate then isOrderedSubsequence observed states
          else containsContiguousSequence observed states) then
        ⟨.pass, .orderMatch, expected, actual⟩
      else ⟨.fail, .orderMismatch, expected, actual⟩
  | _ => ⟨.error, .evidenceTypeMismatch, expected, none⟩

def evaluateOrderedTransition (query : ConfigObserverQuery) (states : List String)
    (allowIntermediate : Bool) (evidence : List ObserverEvidence) : TemporalEvaluation :=
  let expected : StateAssertionFact := ⟨.array (states.map .text), false⟩
  selectEvidence query.key evidence ⟨.error, .evidenceMissing, expected, none⟩
    ⟨.error, .evidenceDuplicate, expected, none⟩ (evaluateTransitions states allowIntermediate)

inductive ObservationPollOutcome where
  | matched
  | mismatch
  | pending
  | unsupported
  | error
  | timedOut
  deriving DecidableEq, Repr

structure ObservationPollResult where
  outcome : ObservationPollOutcome
  finalState : ObservationState
  sampleIds : List String
  predicateMatched : Bool
  validEvidenceSeen : Bool
  deadlineElapsed : Bool
  lastResponse : Option ObserverResponse
  deriving DecidableEq

def ObservationPollOutcome.finalState : ObservationPollOutcome → ObservationState
  | .matched => .ok
  | .mismatch => .ok
  | .pending => .pending
  | .unsupported => .unsupported
  | .error => .error
  | .timedOut => .timedOut

/-- `_poll_result_consistent`. -/
def ObservationPollResult.consistent (r : ObservationPollResult) : Bool :=
  decide (r.finalState = r.outcome.finalState) &&
    match r.outcome with
    | .matched => r.predicateMatched && r.validEvidenceSeen && r.lastResponse.isSome
    | .mismatch => !r.predicateMatched && r.validEvidenceSeen && r.lastResponse.isSome
    | _ => !r.predicateMatched

/-- `_eventual_detail`: the predicate on the last response, if that was an answer. -/
def eventualDetail (p : Predicate) (response : Option ObserverResponse) :
    Except String (Option PredicateEvaluation) :=
  match response with
  | none => .ok none
  | some r =>
    if r.status = .ok then do
      let evaluation ← evaluateEvidencePredicate p r.evidence
      return some evaluation
    else .ok none

/-- The result and the code of a series, given what the predicate says of its last response. -/
def eventualResult (onUnsupported : OnUnsupported) (r : ObservationPollResult)
    (detail : Option AssertionResult) : AssertionResult × TemporalAssertionCode :=
  if r.consistent = false then (.error, .pollResultInconsistent)
  else
    match r.outcome with
    | .matched =>
      if detail = some .pass then (.pass, .eventualMatch) else (.error, .pollResultInconsistent)
    | .mismatch =>
      match detail with
      | none => (.error, .pollResultInconsistent)
      | some .error => (.error, .predicateError)
      | some .pass => (.error, .pollResultInconsistent)
      | some _ => (.fail, .eventualMismatch)
    | .timedOut =>
      if detail = some .pass then (.error, .pollResultInconsistent)
      else if detail = some .error then (.error, .predicateError)
      else if r.validEvidenceSeen && r.deadlineElapsed then (.fail, .eventualDeadlineMismatch)
      else (.error, .eventualTimeoutError)
    | .unsupported =>
      (if onUnsupported = .skip then .skipped else .error, .observerUnsupported)
    | .error => (.error, if detail = some .error then .predicateError else .observerError)
    | .pending => (.error, .observerPending)

def evaluateEventualState (p : Predicate) (onUnsupported : OnUnsupported)
    (r : ObservationPollResult) : Except String TemporalEvaluation := do
  let expected ← expectedFact p.expected
  let detail ← eventualDetail p r.lastResponse
  let reduced := eventualResult onUnsupported r (detail.map PredicateEvaluation.result)
  return ⟨reduced.1, reduced.2, expected, detail.bind PredicateEvaluation.actual⟩

end Temporal

end WebhookConformance
