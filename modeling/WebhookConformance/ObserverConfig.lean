import WebhookConformance.Library.Json
import WebhookConformance.Assertions

/-! Observer assertions as `config/models.py` accepts them: each type carries the checks its
pydantic model makes. -/
namespace WebhookConformance

section Scalars

def isProfileNameTail (c : Char) : Bool := c.isLower || c.isDigit || c = '_' || c = '-'

def isProfileName (s : String) : Bool :=
  match s.toList with
  | [] => false
  | c :: cs => c.isLower && decide (cs.length ≤ 63) && cs.all isProfileNameTail

/-- `ProfileName`: a lower-case letter and at most 63 more name characters. -/
structure ProfileName where
  text : String
  wellFormed : isProfileName text = true
  deriving DecidableEq

structure SafeInteger where
  value : Int
  range : -(maxSafeInteger : Int) ≤ value ∧ value ≤ maxSafeInteger
  deriving DecidableEq

inductive DurationUnit where
  | ns
  | us
  | ms
  | s
  | m
  | h
  deriving DecidableEq, Repr

def DurationUnit.multiplier : DurationUnit → Nat
  | .ns => 1
  | .us => 1000
  | .ms => 1000000
  | .s => 1000000000
  | .m => 60000000000
  | .h => 3600000000000

def DurationUnit.suffix : DurationUnit → String
  | .ns => "ns"
  | .us => "us"
  | .ms => "ms"
  | .s => "s"
  | .m => "m"
  | .h => "h"

/-- A duration as it is written, an integer with its unit. -/
structure WireDuration where
  count : Nat
  unit : DurationUnit
  le_max : count * unit.multiplier ≤ int64Max
  deriving DecidableEq

def WireDuration.nanoseconds (d : WireDuration) : Nat := d.count * d.unit.multiplier

def WireDuration.text (d : WireDuration) : String :=
  String.ofList (Nat.toDigits 10 d.count) ++ d.unit.suffix

/-- The rest of a pointer inside a reference token: each tilde starts an escape. -/
def pointerTail : List Char → Bool
  | [] => true
  | '~' :: c :: cs => (c = '0' || c = '1') && pointerTail cs
  | ['~'] => false
  | _ :: cs => pointerTail cs

def isJsonPointer (s : String) : Bool :=
  match s.toList with
  | [] => true
  | c :: cs => c = '/' && pointerTail cs

structure JsonPointer where
  text : String
  bounded : text.length ≤ 4096
  wellFormed : isJsonPointer text = true
  deriving DecidableEq

end Scalars

section CanonicalJson

def maxCanonicalNodes : Nat := 100000

def maxCanonicalDepth : Nat := 64

def maxCanonicalItems : Nat := 1000

/-- What `freeze_canonical_json` asks of one value at its depth. -/
def checkCanonicalNode (v : Json) (depth : Nat) : Except String Unit :=
  if depth > maxCanonicalDepth then .error "canonical JSON exceeds the depth limit"
  else
    match v with
    | .null => .ok ()
    | .bool _ => .ok ()
    | .number n =>
      if -(maxSafeInteger : Int) ≤ n ∧ n ≤ maxSafeInteger then .ok ()
      else .error "canonical JSON integer is outside the safe range"
    | .text s =>
      if s.length > 4096 then .error "canonical JSON string exceeds the length limit" else .ok ()
    | .array items =>
      if items.length > maxCanonicalItems then .error "canonical JSON array exceeds the item limit"
      else .ok ()
    | .object members =>
      if members.length > maxCanonicalItems then
        .error "canonical JSON object exceeds the property limit"
      else if members.any fun m => decide (m.1.length > 256) then
        .error "canonical JSON object key exceeds the length limit"
      else .ok ()
    | .float _ =>
      .error
        "canonical JSON permits only null, booleans, integers, strings, arrays, and objects"

def freezeCanonicalJson (v : Json) : Except String Unit :=
  Json.walk checkCanonicalNode "canonical JSON exceeds the node limit" id maxCanonicalNodes [(v, 1)]

/-- `CanonicalJsonValue`; the keys of a parsed object are distinct. -/
structure CanonicalJson where
  value : Json
  frozen : freezeCanonicalJson value = .ok ()
  unique : value.uniqueKeys = true
  deriving DecidableEq

end CanonicalJson

inductive EvidenceValueType where
  | null
  | boolean
  | integer
  | decimalString
  | string
  | bytesDigest
  | timestamp
  | array
  | object
  deriving DecidableEq, Repr

def EvidenceValueType.value : EvidenceValueType → String
  | .null => "null"
  | .boolean => "boolean"
  | .integer => "integer"
  | .decimalString => "decimal-string"
  | .string => "string"
  | .bytesDigest => "bytes-digest"
  | .timestamp => "timestamp"
  | .array => "array"
  | .object => "object"

/-- Matches a shape whose zeros stand for digits; what follows it. -/
def matchShape : List Char → List Char → Option (List Char)
  | [], cs => some cs
  | _ :: _, [] => none
  | p :: shape, c :: cs =>
    if (p = '0' && c.isDigit) || (p ≠ '0' && p = c) then matchShape shape cs else none

def isUtcTimestamp (s : String) : Bool :=
  match matchShape "0000-00-00T00:00:00".toList s.toList with
  | some ('.' :: rest) =>
    let digits := rest.takeWhile Char.isDigit
    decide (1 ≤ digits.length ∧ digits.length ≤ 9) && rest.dropWhile Char.isDigit = ['Z']
  | some rest => rest = ['Z']
  | none => false

def isSha256 (s : String) : Bool :=
  s.toList.take 7 = "sha256:".toList && decide (s.length = 71) &&
    (s.toList.drop 7).all fun c => c.isDigit || ('a' ≤ c && c ≤ 'f')

structure BytesDigestValue where
  sha256 : String
  byteLength : Nat
  mediaType : Option String
  sha256_shape : isSha256 sha256 = true
  byteLength_le : byteLength ≤ maxSafeInteger
  mediaType_length : ∀ m ∈ mediaType, 1 ≤ m.length ∧ m.length ≤ 255
  deriving DecidableEq

/-- A number literal of the JSON grammar and nothing after it. -/
def isDecimalString (s : String) : Bool :=
  match Json.readInt s.toList with
  | none => false
  | some (_, rest) => (Json.dropExponent (Json.dropFraction rest)).isEmpty

inductive TypedValue where
  | null
  | boolean (b : Bool)
  | integer (n : SafeInteger)
  | decimalString (s : String) (bounded : s.length ≤ 4096) (decimal : isDecimalString s = true)
  | string (s : String) (bounded : s.length ≤ 4096)
  | bytesDigest (digest : BytesDigestValue)
  | timestamp (s : String) (utc : isUtcTimestamp s = true)
  | array (items : List CanonicalJson) (bounded : items.length ≤ maxCanonicalItems)
  | object (value : CanonicalJson) (members : List (String × Json))
      (isObject : value.value = .object members)
  deriving DecidableEq

/-- The type tag that `_typed_value_type` reads off the wire form. -/
def TypedValue.valueType : TypedValue → EvidenceValueType
  | .null => .null
  | .boolean _ => .boolean
  | .integer _ => .integer
  | .decimalString _ _ _ => .decimalString
  | .string _ _ => .string
  | .bytesDigest _ => .bytesDigest
  | .timestamp _ _ => .timestamp
  | .array _ _ => .array
  | .object _ _ _ => .object

inductive Comparator where
  | eq
  | ne
  | lt
  | lte
  | gt
  | gte
  deriving DecidableEq, Repr

def Comparator.value : Comparator → String
  | .eq => "eq"
  | .ne => "ne"
  | .lt => "lt"
  | .lte => "lte"
  | .gt => "gt"
  | .gte => "gte"

inductive MissingPointer where
  | fail
  | error
  deriving DecidableEq, Repr

def MissingPointer.value : MissingPointer → String
  | .fail => "fail"
  | .error => "error"

inductive OnUnsupported where
  | unsupported
  | skip
  deriving DecidableEq, Repr

def OnUnsupported.value : OnUnsupported → String
  | .unsupported => "unsupported"
  | .skip => "skip"

/-- The query of an assertion; its parameters are an object of at most 128 properties. -/
structure ConfigObserverQuery where
  observer : ProfileName
  key : String
  parameters : CanonicalJson
  members : List (String × Json)
  key_length : 1 ≤ key.length ∧ key.length ≤ 256
  parameters_object : parameters.value = .object members
  parameters_le : members.length ≤ 128
  deriving DecidableEq

structure Predicate where
  name : ProfileName
  query : ConfigObserverQuery
  path : Option JsonPointer
  comparator : Comparator
  expected : TypedValue
  missingPointer : MissingPointer
  deriving DecidableEq

inductive CountKind where
  | processing
  | callback
  | journal
  deriving DecidableEq, Repr

inductive ExistenceKind where
  | present
  | absent
  deriving DecidableEq, Repr

/-- What an observer assertion compares. -/
inductive ObserverCheck where
  | count (kind : CountKind) (query : ConfigObserverQuery) (comparator : Comparator)
      (expected : SafeInteger)
  | existence (kind : ExistenceKind) (query : ConfigObserverQuery)
  | resourceField (query : ConfigObserverQuery) (path : JsonPointer) (comparator : Comparator)
      (expected : TypedValue) (missingPointer : MissingPointer)
  | eventualState (query : ConfigObserverQuery) (path : Option JsonPointer)
      (comparator : Comparator) (expected : TypedValue) (missingPointer : MissingPointer)
  | orderedTransition (query : ConfigObserverQuery) (states : List String)
      (allowIntermediate : Bool) (states_range : 2 ≤ states.length ∧ states.length ≤ 64)
      (states_bounded : ∀ s ∈ states, s.length ≤ 4096)
  | noPartialSideEffect (predicates : List Predicate)
      (predicates_range : 2 ≤ predicates.length ∧ predicates.length ≤ 64)
      (names_nodup : (predicates.map Predicate.name).Nodup)
  deriving DecidableEq

def ObserverCheck.isEventual : ObserverCheck → Bool
  | .eventualState _ _ _ _ _ => true
  | _ => false

def minimumPollNanoseconds : Nat := 10000000

/-- The physical bounds of a polling assertion. -/
structure Polling where
  within : WireDuration
  pollInterval : WireDuration
  within_pos : 1 ≤ within.nanoseconds
  interval_min : minimumPollNanoseconds ≤ pollInterval.nanoseconds
  interval_le : pollInterval.nanoseconds ≤ within.nanoseconds
  deriving DecidableEq

structure ObserverAssertion where
  id : ProfileName
  onUnsupported : OnUnsupported
  polling : Option Polling
  check : ObserverCheck
  polling_required : check.isEventual = true → polling.isSome = true
  deriving DecidableEq

end WebhookConformance
