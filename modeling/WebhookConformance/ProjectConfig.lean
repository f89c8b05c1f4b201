import WebhookConformance.SkipPolicy

/-! The project configuration of `config/models.py` as far as validation, compilation and
execution read it. -/
namespace WebhookConformance

section Texts

/-- `str.casefold` up to what the comparisons of this program can see: besides the ASCII capitals
only the long s and the Kelvin sign fold into ASCII letters one to one. -/
def casefoldChar (c : Char) : Char :=
  if c = '\u017f' then 's' else if c = '\u212a' then 'k' else c.toLower

def casefold (s : String) : String := String.ofList (s.toList.map casefoldChar)

/-- `str.isspace`. -/
def isPythonSpace (c : Char) : Bool :=
  let n := c.toNat
  (9 ≤ n && n ≤ 13) || (28 ≤ n && n ≤ 32) || n = 0x85 || n = 0xa0 || n = 0x1680 ||
    (0x2000 ≤ n && n ≤ 0x200a) || n = 0x2028 || n = 0x2029 || n = 0x202f || n = 0x205f ||
    n = 0x3000

def stripSpaces (cs : List Char) : List Char :=
  ((cs.dropWhile isPythonSpace).reverse.dropWhile isPythonSpace).reverse

/-- `_is_json_media_type`. -/
def isJsonMediaType (mediaType : String) : Bool :=
  let base := (stripSpaces (mediaType.toList.takeWhile (· ≠ ';'))).map casefoldChar
  base = "application/json".toList || "+json".toList.isSuffixOf base

structure NonEmptyText where
  text : String
  length_range : 1 ≤ text.length ∧ text.length ≤ 4096
  deriving DecidableEq

structure MediaType where
  text : String
  length_range : 1 ≤ text.length ∧ text.length ≤ 255
  deriving DecidableEq

def isHeaderToken (c : Char) : Bool :=
  c.isAlphanum || c ∈ "!#$%&'*+.^_`|~-".toList

def forbiddenHeaderNames : List String :=
  ["host", "content-length", "transfer-encoding", "connection", "proxy-authorization"]

structure ConfiguredHeaderName where
  text : String
  length_range : 1 ≤ text.length ∧ text.length ≤ 128
  token : text.toList.all isHeaderToken = true
  allowed : casefold text ∉ forbiddenHeaderNames
  deriving DecidableEq

/-- An insertion-ordered map with profile names as keys. -/
structure NamedMap (β : Type) where
  entries : List (ProfileName × β)
  keys_nodup : (entries.map Prod.fst).Nodup

/-- `NamedMap.__getitem__`: the first entry of that name. -/
def NamedMap.get? {β : Type} (m : NamedMap β) (key : String) : Option β :=
  (m.entries.find? fun e => e.1.text = key).map Prod.snd

end Texts

structure FixtureConfig where
  id : ProfileName
  mediaType : MediaType
  eventIdPointer : String
  eventTypePointer : String
  deriving DecidableEq

inductive SignerProfile where
  | genericHmacSha256
  | stripeV1
  | standardWebhooksHmac
  deriving DecidableEq, Repr

structure SignerConfig where
  profile : SignerProfile
  headerName : Option ConfiguredHeaderName
  deriving DecidableEq

/-- The timeouts of an observer; an HTTP observer has three. -/
inductive ObserverConfig where
  | command (timeout : Duration) (timeout_pos : 1 ≤ timeout.nanoseconds)
  | http (connect read total : Duration) (connect_pos : 1 ≤ connect.nanoseconds)
      (read_pos : 1 ≤ read.nanoseconds) (total_pos : 1 ≤ total.nanoseconds)
  deriving DecidableEq

structure LifecycleProfile where
  enabled : Bool
  readinessObserver : ProfileName
  deriving DecidableEq

structure LimitsConfig where
  maxEvents : Nat
  maxAttempts : Nat
  maxRequestBytes : Nat
  maxEvents_range : 1 ≤ maxEvents ∧ maxEvents ≤ 1000
  maxAttempts_range : 1 ≤ maxAttempts ∧ maxAttempts ≤ 5000
  maxRequestBytes_range : 1 ≤ maxRequestBytes ∧ maxRequestBytes ≤ 16777216
  deriving DecidableEq

section Mutations

/-- Stages of the mutation pipeline in execution order. -/
inductive MutationStage where
  | structural
  | rawPreSign
  | headerPreSign
  | signing
  | rawPostSign
  | headerPostSign
  deriving DecidableEq, Repr

def MutationStage.value : MutationStage → String
  | .structural => "structural"
  | .rawPreSign => "raw-pre-sign"
  | .headerPreSign => "header-pre-sign"
  | .signing => "signing"
  | .rawPostSign => "raw-post-sign"
  | .headerPostSign => "header-post-sign"

def MutationStage.rank : MutationStage → Nat
  | .structural => 0
  | .rawPreSign => 1
  | .headerPreSign => 2
  | .signing => 3
  | .rawPostSign => 4
  | .headerPostSign => 5

inductive MutationOperator where
  | removeJsonPointer
  | replaceJsonValue
  | replaceJsonType
  | addJsonField
  | changeEventIdField
  | changeEventTypeField
  | truncateBytes
  | invalidJson
  | contentTypeMismatch
  | alterAfterSigning
  | staleSignatureTimestamp
  | wrongSigningKey
  | missingSignature
  | malformedSignature
  | oversizedBody
  deriving DecidableEq, Repr

/-- The operator identifier without its version suffix. -/
def MutationOperator.stem : MutationOperator → String
  | .removeJsonPointer => "remove-json-pointer"
  | .replaceJsonValue => "replace-json-value"
  | .replaceJsonType => "replace-json-type"
  | .addJsonField => "add-json-field"
  | .changeEventIdField => "change-event-id-field"
  | .changeEventTypeField => "change-event-type-field"
  | .truncateBytes => "truncate-bytes"
  | .invalidJson => "invalid-json"
  | .contentTypeMismatch => "content-type-mismatch"
  | .alterAfterSigning => "alter-after-signing"
  | .staleSignatureTimestamp => "stale-signature-timestamp"
  | .wrongSigningKey => "wrong-signing-key"
  | .missingSignature => "missing-signature"
  | .malformedSignature => "malformed-signature"
  | .oversizedBody => "oversized-body"

def MutationOperator.id (o : MutationOperator) : String := o.stem ++ "-v1"

def MutationOperator.stage : MutationOperator → MutationStage
  | .removeJsonPointer => .structural
  | .replaceJsonValue => .structural
  | .replaceJsonType => .structural
  | .addJsonField => .structural
  | .changeEventIdField => .structural
  | .changeEventTypeField => .structural
  | .truncateBytes => .rawPreSign
  | .invalidJson => .rawPreSign
  | .contentTypeMismatch => .headerPreSign
  | .alterAfterSigning => .rawPostSign
  | .staleSignatureTimestamp => .signing
  | .wrongSigningKey => .signing
  | .missingSignature => .headerPostSign
  | .malformedSignature => .headerPostSign
  | .oversizedBody => .rawPreSign

inductive JsonTypeName where
  | null
  | boolean
  | integer
  | string
  | array
  | object
  deriving DecidableEq, Repr

inductive InvalidJsonCase where
  | truncatedObject
  | badEscape
  | trailingComma
  deriving DecidableEq, Repr

inductive MalformedSignatureCase where
  | invalidEncoding
  | missingComponent
  | invalidDelimiter
  | duplicateComponent
  deriving DecidableEq, Repr

def maxRawBytes : Nat := 16777216

inductive MutationConfig where
  | removeJsonPointer (pointer : JsonPointer) (ignoreMissing acceptPrior : Bool)
  | replaceJsonValue (pointer : JsonPointer) (value : CanonicalJson) (acceptPrior : Bool)
  | replaceJsonType (pointer : JsonPointer) (targetType : JsonTypeName) (acceptPrior : Bool)
  | addJsonField (pointer : JsonPointer) (name : NonEmptyText) (value : CanonicalJson)
      (overwrite acceptPrior : Bool)
  | changeEventIdField (value : NonEmptyText) (acceptPrior : Bool)
  | changeEventTypeField (value : NonEmptyText) (acceptPrior : Bool)
  | truncateBytes (length : Nat) (length_le : length ≤ maxRawBytes)
  | invalidJson (strategy : InvalidJsonCase)
  | contentTypeMismatch (mediaType : MediaType)
  | alterAfterSigning (offset xor : Nat) (offset_lt : offset < maxRawBytes)
      (xor_range : 1 ≤ xor ∧ xor ≤ 255)
  | staleSignatureTimestamp (age : Duration) (age_pos : 1 ≤ age.nanoseconds)
  | wrongSigningKey (context : NonEmptyText)
  | missingSignature
  | malformedSignature (case : MalformedSignatureCase)
  | oversizedBody (targetBytes : Nat) (target_range : 1 ≤ targetBytes ∧ targetBytes ≤ maxRawBytes)
  deriving DecidableEq

def MutationConfig.operator : MutationConfig → MutationOperator
  | .removeJsonPointer _ _ _ => .removeJsonPointer
  | .replaceJsonValue _ _ _ => .replaceJsonValue
  | .replaceJsonType _ _ _ => .replaceJsonType
  | .addJsonField _ _ _ _ _ => .addJsonField
  | .changeEventIdField _ _ => .changeEventIdField
  | .changeEventTypeField _ _ => .changeEventTypeField
  | .truncateBytes _ _ => .truncateBytes
  | .invalidJson _ => .invalidJson
  | .contentTypeMismatch _ => .contentTypeMismatch
  | .alterAfterSigning _ _ _ _ => .alterAfterSigning
  | .staleSignatureTimestamp _ _ => .staleSignatureTimestamp
  | .wrongSigningKey _ => .wrongSigningKey
  | .missingSignature => .missingSignature
  | .malformedSignature _ => .malformedSignature
  | .oversizedBody _ _ => .oversizedBody

end Mutations

/-- The one-fault vocabulary. -/
inductive FaultClass where
  | mutation (o : MutationOperator)
  | deliveryDuplicate
  | deliveryConcurrent
  | deliveryDependencyOrderReversal
  | retry (p : RetryPredicate)
  | lifecycleRestart
  deriving DecidableEq, Repr

def FaultClass.value : FaultClass → String
  | .mutation o => "mutation:" ++ o.id
  | .deliveryDuplicate => "delivery:duplicate"
  | .deliveryConcurrent => "delivery:concurrent"
  | .deliveryDependencyOrderReversal => "delivery:dependency-order-reversal"
  | .retry p => "retry:" ++ String.ofList p.value
  | .lifecycleRestart => "lifecycle:restart"

structure BaselineConfig where
  faultClass : FaultClass
  scenario : ProfileName
  deriving DecidableEq

structure EventConfig where
  id : ProfileName
  fixture : String
  dependsOn : Option (List String)
  dependsOn_nodup : ∀ names ∈ dependsOn, names.Nodup

/-- `depends_on or ()`. -/
def EventConfig.dependencies (e : EventConfig) : List String := e.dependsOn.getD []

def maxMutationsPerDelivery : Nat := 16

/-- A deliver action with the request it makes. -/
structure ConfiguredDelivery extends DeliverAction where
  signer : Option String
  mutations : List MutationConfig
  mutations_le : mutations.length ≤ maxMutationsPerDelivery

inductive StepConfig where
  | deliver (action : ConfiguredDelivery)
  | wait (duration : Duration)
  | barrier (name : String) (name_pos : 1 ≤ name.length)
  | observe (observer checkpoint : String)
  | restart (lifecycle : ProfileName)

/-- What the compiler reads of a step. -/
def StepConfig.toStep : StepConfig → ScenarioStep
  | .deliver action => .deliver action.toDeliverAction
  | .wait duration => .wait duration
  | .barrier name _ => .barrier name
  | .observe observer checkpoint => .observe observer checkpoint
  | .restart _ => .restart

structure ProjectScenario where
  id : ProfileName
  description : Option String
  events : List EventConfig
  steps : List StepConfig
  baselines : List BaselineConfig
  assertions : List ScenarioAssertion
  events_range : 1 ≤ events.length ∧ events.length ≤ 1000
  steps_range : 1 ≤ steps.length ∧ steps.length ≤ 10000
  baselines_le : baselines.length ≤ 64
  baselines_nodup : (baselines.map BaselineConfig.faultClass).Nodup
  assertions_range : 1 ≤ assertions.length ∧ assertions.length ≤ 256

def ProjectScenario.config (s : ProjectScenario) : ScenarioConfig :=
  ⟨s.id.text, s.steps.map StepConfig.toStep⟩

def StepConfig.isRestart : StepConfig → Bool
  | .restart _ => true
  | _ => false

structure ProjectConfig where
  fixtures : List FixtureConfig
  signers : NamedMap SignerConfig
  observers : NamedMap ObserverConfig
  lifecycles : NamedMap LifecycleProfile
  limits : LimitsConfig
  scenarios : List ProjectScenario
  fixtures_range : 1 ≤ fixtures.length ∧ fixtures.length ≤ 1000
  signers_range : 1 ≤ signers.entries.length ∧ signers.entries.length ≤ 32
  observers_le : observers.entries.length ≤ 16
  lifecycles_le : lifecycles.entries.length ≤ 16
  scenarios_range : 1 ≤ scenarios.length ∧ scenarios.length ≤ 256
  restart_structure : (∃ s ∈ scenarios, s.steps.any StepConfig.isRestart = true) →
    lifecycles.entries ≠ []

/-- The fixture an event names. -/
def ProjectConfig.fixture? (p : ProjectConfig) (name : String) : Option FixtureConfig :=
  p.fixtures.find? fun f => f.id.text = name

section Fixtures

def orderName : ProfileName := ⟨"order", by decide⟩

def orderFixture : FixtureConfig :=
  ⟨orderName, ⟨"application/json", by decide⟩, "/id", "/type"⟩

def deliverOrder : ConfiguredDelivery where
  event := "order"
  count := 1
  concurrencyGroup := none
  retry := none
  count_range := DeliverAction.one_copy
  signer := none
  mutations := []
  mutations_le := by decide

def orderAccepted : ScenarioAssertion :=
  .httpStatus ⟨"accepted", by decide⟩ ⟨[200], []⟩ ⟨"order", .allTerminal⟩

/-- A scenario on the order event alone. -/
def orderScenario (id : ProfileName) (steps : List StepConfig) (assertion : ScenarioAssertion)
    (hsteps : 1 ≤ steps.length ∧ steps.length ≤ 10000) : ProjectScenario where
  id := id
  description := none
  events := [⟨orderName, "order", none, by simp⟩]
  steps := steps
  baselines := []
  assertions := [assertion]
  events_range := by decide
  steps_range := hsteps
  baselines_le := by decide
  baselines_nodup := by decide
  assertions_range := ⟨by simp, by simp⟩

theorem orderLimits_range : 1 ≤ 1048576 ∧ 1048576 ≤ 16777216 := by decide

/-- A project of one scenario and one signer. -/
def orderProject (signer : SignerConfig) (observers : NamedMap ObserverConfig)
    (hobservers : observers.entries.length ≤ 16) (scenario : ProjectScenario)
    (hscenario : scenario.steps.any StepConfig.isRestart = false) : ProjectConfig where
  fixtures := [orderFixture]
  signers := ⟨[(⟨"primary", by decide⟩, signer)], by simp⟩
  observers := observers
  lifecycles := ⟨[], by decide⟩
  limits := ⟨10, 10, 1048576, by decide, by decide, orderLimits_range⟩
  scenarios := [scenario]
  fixtures_range := by decide
  signers_range := ⟨by simp, by simp⟩
  observers_le := hobservers
  lifecycles_le := by decide
  scenarios_range := ⟨by simp, by simp⟩
  restart_structure := by simpa using hscenario

def noObservers : NamedMap ObserverConfig := ⟨[], by decide⟩

theorem noObservers_le : noObservers.entries.length ≤ 16 := by decide

end Fixtures

end WebhookConformance
