import WebhookConformance.ProjectConfig
import WebhookConformance.Groups
import WebhookConformance.Library.Assoc

/-! The mutation and signer-header rules of `scenario/validate.py`: `_validate_mutations`,
`_validate_structural_write` and `_validate_signer_headers`. -/
namespace WebhookConformance

inductive DiagnosticCategory where
  | planningError
  | resourceLimit
  | conflictingMutation
  | mutationNotApplicable
  | invalidParameter
  deriving DecidableEq, Repr

structure SemanticDiagnostic extends Diagnostic where
  category : DiagnosticCategory
  safeDetails : List (String × Json)
  deriving DecidableEq

/-- `_Diagnostics.add` with its default category and details. -/
def Diagnostic.planning (d : Diagnostic) : SemanticDiagnostic := ⟨d, .planningError, []⟩

/-- One rule: its diagnostic when the condition is met. -/
def reportIf (condition : Bool) (d : SemanticDiagnostic) : List SemanticDiagnostic :=
  if condition then [d] else []

@[simp] theorem reportIf_eq_nil {condition : Bool} {d : SemanticDiagnostic} :
    reportIf condition d = [] ↔ condition = false := by
  cases condition <;> simp [reportIf]

section StructuralWrites

/-- Each write destroys what lies below its pointer. -/
structure StructuralWrite where
  pointer : String
  operator : MutationOperator
  acceptsPrior : Bool
  addOverwrite : Bool
  removeIgnoresMissing : Bool
  deriving DecidableEq, Repr

/-- `JsonPointer(value)` does not raise. -/
def validJsonPointer (value : String) : Bool := decide (value.length ≤ 4096) && isJsonPointer value

def escapePointerChar (c : Char) : List Char :=
  if c = '~' then ['~', '0'] else if c = '/' then ['~', '1'] else [c]

def joinJsonPointer (pointer name : String) : String :=
  pointer ++ "/" ++ String.ofList (name.toList.flatMap escapePointerChar)

def pointerContains (parent child : String) : Bool :=
  parent = child || parent = "" || (parent ++ "/").toList.isPrefixOf child.toList

/-- The pointer a structural mutation writes; the event fields need the fixture. -/
def MutationConfig.target (fixture : Option FixtureConfig) : MutationConfig → Option String
  | .removeJsonPointer pointer _ _ => some pointer.text
  | .replaceJsonValue pointer _ _ => some pointer.text
  | .replaceJsonType pointer _ _ => some pointer.text
  | .addJsonField pointer name _ _ _ => some (joinJsonPointer pointer.text name.text)
  | .changeEventIdField _ _ => fixture.map FixtureConfig.eventIdPointer
  | .changeEventTypeField _ _ => fixture.map FixtureConfig.eventTypePointer
  | _ => none

def MutationConfig.acceptsPrior : MutationConfig → Bool
  | .removeJsonPointer _ _ accept => accept
  | .replaceJsonValue _ _ accept => accept
  | .replaceJsonType _ _ accept => accept
  | .addJsonField _ _ _ _ accept => accept
  | .changeEventIdField _ accept => accept
  | .changeEventTypeField _ accept => accept
  | _ => false

def MutationConfig.addOverwrite : MutationConfig → Bool
  | .addJsonField _ _ _ overwrite _ => overwrite
  | _ => false

def MutationConfig.removeIgnoresMissing : MutationConfig → Bool
  | .removeJsonPointer _ ignore _ => ignore
  | _ => false

/-- `_structural_write` without its diagnostic. -/
def structuralWrite (fixture : Option FixtureConfig) (m : MutationConfig) :
    Option StructuralWrite :=
  ((m.target fixture).filter validJsonPointer).map fun pointer =>
    ⟨pointer, m.operator, m.acceptsPrior, m.addOverwrite, m.removeIgnoresMissing⟩

/-- The turn of `_validate_structural_write` for one earlier write. -/
def structuralConflict (write prior : StructuralWrite) (path : String) :
    Option SemanticDiagnostic :=
  let samePointer : Bool := write.pointer = prior.pointer
  let addCollision := samePointer && write.operator = .addJsonField && !write.addOverwrite
  let repeatedRemove := samePointer && write.operator = .removeJsonPointer &&
    prior.operator = .removeJsonPointer && !write.removeIgnoresMissing
  let details : List (String × Json) :=
    [("operator", .text write.operator.id), ("prior_operator", .text prior.operator.id)]
  if samePointer && (!write.acceptsPrior || addCollision || repeatedRemove) then
    some ⟨⟨if addCollision then "MUT_ADD_JSON_FIELD_COLLISION"
        else if repeatedRemove then "MUT_REMOVE_JSON_POINTER_CONFLICT"
        else "MUT_STRUCTURAL_POINTER_CONFLICT",
      "Structural mutations target the same JSON Pointer without an override.", path,
      "Remove one operation or enable every required explicit override."⟩,
      .conflictingMutation, details⟩
  else if !samePointer && (pointerContains prior.pointer write.pointer ||
      pointerContains write.pointer prior.pointer) && !write.acceptsPrior then
    some ⟨⟨"MUT_STRUCTURAL_DEPENDENCY_CONFLICT",
      "Structural mutation overwrites data required by another operation.", path,
      "Separate the mutations or explicitly accept the prior mutation."⟩,
      .conflictingMutation, details⟩
  else none

end StructuralWrites

section MutationScan

/-- What the rules of one delivery read besides its mutations. -/
structure MutationScope where
  maxRequestBytes : Nat
  scenarioIndex : Nat
  stepIndex : Nat
  description : Option String
  fixture : Option FixtureConfig
  signer : Option SignerConfig

def MutationScope.path (scope : MutationScope) (mutationIndex : Nat) (field : List PathPart) :
    String :=
  stepField scope.scenarioIndex scope.stepIndex
    ([.key "deliver", .key "mutations", .index mutationIndex] ++ field)

/-- The variables of the mutation loop. `alterOffsets` maps an offset to the mutation that
altered it last. -/
structure MutationScan where
  structuralWrites : List StructuralWrite
  invalidJson : Bool
  truncateLength : Option Nat
  signatureHeaderOperator : Option MutationOperator
  wrongKey : Bool
  staleTimestamp : Bool
  contentType : Bool
  oversized : Bool
  alterOffsets : List (Nat × Nat)
  rawBodyDestroyer : Option MutationOperator
  furthestStage : Option (MutationStage × MutationOperator)

def MutationScan.start : MutationScan :=
  ⟨[], false, none, none, false, false, false, false, [], none, none⟩

def stageOrderCode (o : MutationOperator) : String :=
  "MUT_" ++ String.ofList (o.stem.toList.map fun c => if c = '-' then '_' else c.toUpper) ++
    "_STAGE_ORDER"

/-- `_requires_signer_code`; its table has the members of `_SIGNER_REQUIRED_MUTATIONS`. -/
def requiresSignerCode : MutationOperator → Option String
  | .alterAfterSigning => some "MUT_ALTER_AFTER_SIGNING_REQUIRES_SIGNER"
  | .staleSignatureTimestamp => some "MUT_STALE_SIGNATURE_REQUIRES_SIGNER"
  | .wrongSigningKey => some "MUT_WRONG_SIGNING_KEY_REQUIRES_SIGNER"
  | .missingSignature => some "MUT_MISSING_SIGNATURE_REQUIRES_SIGNER"
  | .malformedSignature => some "MUT_MALFORMED_SIGNATURE_REQUIRES_SIGNER"
  | _ => none

section Rules

variable (scope : MutationScope) (index : Nat) (s : MutationScan)

def conflict (code message action : String) (details : List (String × Json)) :
    SemanticDiagnostic :=
  ⟨⟨code, message, scope.path index [], action⟩, .conflictingMutation, details⟩

/-- A conflict with an operator that stood before this one. -/
def priorConflict (code message action : String) (o prior : MutationOperator) :
    SemanticDiagnostic :=
  conflict scope index code message action
    [("operator", .text o.id), ("prior_operator", .text prior.id)]

def notApplicable (code message action : String) (o : MutationOperator) : SemanticDiagnostic :=
  ⟨⟨code, message, scope.path index [], action⟩, .mutationNotApplicable,
    [("operator", .text o.id)]⟩

/-- An operator that may stand only once, here for the second time. -/
def repeatedConflict (seen : Bool) (code message action : String) (o : MutationOperator) :
    List SemanticDiagnostic :=
  reportIf seen (conflict scope index code message action [("operator", .text o.id)])

def stageDiagnostics (o : MutationOperator) : List SemanticDiagnostic :=
  match s.furthestStage with
  | none => []
  | some (stage, prior) =>
    reportIf (decide (o.stage.rank < stage.rank))
      (conflict scope index (stageOrderCode o)
        "Mutation appears after an operator from a later pipeline stage."
        "Order mutations by their documented pipeline stages."
        [("operator", .text o.id), ("operator_stage", .text o.stage.value),
         ("prior_operator", .text prior.id), ("prior_stage", .text stage.value)])

def MutationScope.jsonFixture : Bool :=
  scope.fixture.all fun f => isJsonMediaType f.mediaType.text

def structuralDiagnostics (m : MutationConfig) : List SemanticDiagnostic :=
  reportIf (!scope.jsonFixture)
      (notApplicable scope index "MUT_STRUCTURAL_REQUIRES_JSON_FIXTURE"
        "Structural JSON mutation requires a JSON fixture."
        "Use a JSON media type or select a raw-byte mutation." m.operator) ++
    (if s.invalidJson then
      [priorConflict scope index "MUT_INVALID_JSON_BEFORE_STRUCTURAL"
        "Structural JSON mutation cannot follow invalid-json-v1."
        "Move structural JSON mutations before invalid-json-v1." m.operator .invalidJson]
    else s.rawBodyDestroyer.toList.map fun prior =>
      priorConflict scope index "MUT_RAW_BYTES_BEFORE_STRUCTURAL"
        "Structural JSON mutation cannot follow a destructive raw-byte mutation."
        "Place every structural mutation before raw-byte mutations." m.operator prior) ++
    reportIf ((m.target scope.fixture).any fun pointer => !validJsonPointer pointer)
      ⟨⟨"MUT_FIXTURE_POINTER_INVALID", "Mutation resolves through an invalid fixture JSON Pointer.",
        scope.path index [], "Configure a bounded RFC 6901 event pointer on the fixture."⟩,
        .invalidParameter, [("operator", .text m.operator.id)]⟩ ++
    ((structuralWrite scope.fixture m).bind fun write =>
      s.structuralWrites.findSome? fun prior =>
        structuralConflict write prior (scope.path index [])).toList

def invalidJsonDiagnostics : List SemanticDiagnostic :=
  reportIf (!scope.jsonFixture)
      (notApplicable scope index "MUT_INVALID_JSON_REQUIRES_JSON_FIXTURE"
        "invalid-json-v1 requires bytes declared as JSON."
        "Use a JSON media type or select another raw-byte mutation." .invalidJson) ++
    repeatedConflict scope index s.invalidJson "MUT_INVALID_JSON_CONFLICT"
      "invalid-json-v1 cannot be applied more than once to one delivery."
      "Keep exactly one invalid-json-v1 operation." .invalidJson ++
    reportIf s.truncateLength.isSome
      (priorConflict scope index "MUT_INVALID_JSON_AFTER_TRUNCATION"
        "invalid-json-v1 cannot consume bytes removed by prior truncation."
        "Apply invalid-json-v1 before truncate-bytes-v1 or separate them." .invalidJson
        .truncateBytes)

def oversizedDiagnostics (targetBytes : Nat) : List SemanticDiagnostic :=
  repeatedConflict scope index s.oversized "MUT_OVERSIZED_BODY_CONFLICT"
      "oversized-body-v1 cannot be applied more than once to one delivery."
      "Keep exactly one oversized-body-v1 operation." .oversizedBody ++
    reportIf (decide (scope.maxRequestBytes < targetBytes))
      ⟨⟨"MUT_OVERSIZED_BODY_EXCEEDS_REQUEST_LIMIT",
        "oversized-body-v1 target exceeds the configured request-byte limit.",
        scope.path index [.key "target_bytes"],
        "Lower target_bytes or raise max_request_bytes within its cap."⟩, .invalidParameter,
        [("operator", .text MutationOperator.oversizedBody.id),
         ("limit", .number scope.maxRequestBytes)]⟩ ++
    reportIf (s.truncateLength.any fun length => decide (length < targetBytes))
      (priorConflict scope index "MUT_OVERSIZED_BODY_AFTER_TRUNCATION"
        "oversized-body-v1 requires bytes removed by prior truncation."
        "Apply oversized-body-v1 before truncation or separate them." .oversizedBody
        .truncateBytes)

def requiresSignerDiagnostics (o : MutationOperator) : List SemanticDiagnostic :=
  (requiresSignerCode o).toList.flatMap fun code =>
    reportIf scope.signer.isNone
      (notApplicable scope index code "Mutation requires a resolved signer on the delivery."
        "Configure a signer for this delivery or remove the mutation." o)

def staleDiagnostics : List SemanticDiagnostic :=
  repeatedConflict scope index s.staleTimestamp "MUT_STALE_SIGNATURE_TIMESTAMP_CONFLICT"
      "stale-signature-timestamp-v1 cannot be applied more than once."
      "Keep exactly one stale-signature-timestamp-v1 operation." .staleSignatureTimestamp ++
    reportIf (scope.signer.any fun signer => signer.profile = .genericHmacSha256)
      (notApplicable scope index "MUT_STALE_SIGNATURE_TIMESTAMP_NOT_APPLICABLE"
        "stale-signature-timestamp-v1 requires a timestamped signer profile."
        "Use a timestamped signer or remove this mutation." .staleSignatureTimestamp)

def signatureHeaderDiagnostics (o : MutationOperator) : List SemanticDiagnostic :=
  s.signatureHeaderOperator.toList.map fun prior =>
    priorConflict scope index
      (if o = .missingSignature then "MUT_MISSING_SIGNATURE_CONFLICT"
        else "MUT_MALFORMED_SIGNATURE_CONFLICT")
      "Signature-header mutation conflicts with an earlier operation."
      "Keep only one signature-header mutation per delivery." o prior

/-- The checks of one kind of mutation, apart from its stage and its need of a signer. -/
def operatorDiagnostics (m : MutationConfig) : List SemanticDiagnostic :=
  match m with
  | .truncateBytes _ _ =>
    repeatedConflict scope index s.truncateLength.isSome "MUT_TRUNCATE_BYTES_CONFLICT"
      "truncate-bytes-v1 cannot be applied more than once to one delivery."
      "Keep exactly one truncate-bytes-v1 operation." .truncateBytes
  | .invalidJson _ => invalidJsonDiagnostics scope index s
  | .contentTypeMismatch _ =>
    repeatedConflict scope index s.contentType "MUT_CONTENT_TYPE_MISMATCH_CONFLICT"
      "Two content-type-mismatch-v1 operations target the same header."
      "Keep exactly one content-type-mismatch-v1 operation." .contentTypeMismatch
  | .alterAfterSigning offset _ _ _ =>
    repeatedConflict scope index (s.alterOffsets.lookup offset).isSome
      "MUT_ALTER_AFTER_SIGNING_RANGE_CONFLICT"
      "Two alter-after-signing-v1 operations target the same byte."
      "Use distinct offsets or keep one post-sign alteration." .alterAfterSigning
  | .staleSignatureTimestamp _ _ => staleDiagnostics scope index s
  | .wrongSigningKey _ =>
    repeatedConflict scope index s.wrongKey "MUT_WRONG_SIGNING_KEY_CONFLICT"
      "wrong-signing-key-v1 cannot be applied more than once."
      "Keep exactly one wrong-signing-key-v1 operation." .wrongSigningKey
  | .missingSignature => signatureHeaderDiagnostics scope index s .missingSignature
  | .malformedSignature _ => signatureHeaderDiagnostics scope index s .malformedSignature
  | .oversizedBody targetBytes _ => oversizedDiagnostics scope index s targetBytes
  | _ => structuralDiagnostics scope index s m

/-- The diagnostics of one turn. A mutation that needs a signer has no check of its own before
that one. -/
def mutationDiagnostics (m : MutationConfig) : List SemanticDiagnostic :=
  stageDiagnostics scope index s m.operator ++ requiresSignerDiagnostics scope index m.operator ++
    operatorDiagnostics scope index s m

def advanceStage (o : MutationOperator) : Option (MutationStage × MutationOperator) :=
  match s.furthestStage with
  | none => some (o.stage, o)
  | some (stage, prior) =>
    if stage.rank < o.stage.rank then some (o.stage, o) else some (stage, prior)

def scanMutation (fixture : Option FixtureConfig) (m : MutationConfig) : MutationScan :=
  let s := { s with furthestStage := advanceStage s m.operator }
  match m with
  | .truncateBytes length _ =>
    { s with truncateLength := some length, rawBodyDestroyer := some .truncateBytes }
  | .invalidJson _ => { s with invalidJson := true, rawBodyDestroyer := some .invalidJson }
  | .contentTypeMismatch _ => { s with contentType := true }
  | .alterAfterSigning offset _ _ _ =>
    { s with alterOffsets := Assoc.assign offset index s.alterOffsets }
  | .staleSignatureTimestamp _ _ => { s with staleTimestamp := true }
  | .wrongSigningKey _ => { s with wrongKey := true }
  | .missingSignature =>
    { s with signatureHeaderOperator := s.signatureHeaderOperator <|> some .missingSignature }
  | .malformedSignature _ =>
    { s with signatureHeaderOperator := s.signatureHeaderOperator <|> some .malformedSignature }
  | .oversizedBody _ _ => { s with oversized := true, rawBodyDestroyer := some .oversizedBody }
  | _ => { s with structuralWrites := s.structuralWrites ++ (structuralWrite fixture m).toList }

end Rules

def mutationsDiagnostics (scope : MutationScope) :
    Nat → MutationScan → List MutationConfig → List SemanticDiagnostic
  | _, _, [] => []
  | index, s, m :: ms =>
    mutationDiagnostics scope index s m ++
      mutationsDiagnostics scope (index + 1) (scanMutation index s scope.fixture m) ms

def scanMutations (fixture : Option FixtureConfig) :
    Nat → MutationScan → List MutationConfig → MutationScan
  | _, s, [] => s
  | index, s, m :: ms => scanMutations fixture (index + 1) (scanMutation index s fixture m) ms

/-- The checks after the loop. -/
def scanDiagnostics (scope : MutationScope) (s : MutationScan) : List SemanticDiagnostic :=
  (s.truncateLength.toList.flatMap fun length =>
    s.alterOffsets.flatMap fun alter =>
      reportIf (decide (length ≤ alter.1))
        (priorConflict scope alter.2 "MUT_ALTER_AFTER_TRUNCATION_RANGE"
          "Post-sign byte alteration lies outside the truncated body."
          "Choose an offset below the retained truncation length." .alterAfterSigning
          .truncateBytes)) ++
    reportIf (s.wrongKey && !s.alterOffsets.isEmpty && scope.description.all (· = ""))
      ⟨⟨"MUT_WRONG_KEY_ALTER_REQUIRES_PURPOSE",
        "Combined wrong-key and post-sign alteration requires a diagnostic purpose.",
        fieldPath [.key "scenarios", .index scope.scenarioIndex, .key "description"],
        "Add a description naming the diagnostic purpose."⟩, .conflictingMutation,
        [("operator", .text MutationOperator.wrongSigningKey.id),
         ("combined_operator", .text MutationOperator.alterAfterSigning.id)]⟩

def validateMutations (scope : MutationScope) (mutations : List MutationConfig) :
    List SemanticDiagnostic :=
  mutationsDiagnostics scope 0 .start mutations ++
    scanDiagnostics scope (scanMutations scope.fixture 0 .start mutations)

end MutationScan

section SignerHeaders

def harnessRequestHeaders : List String :=
  ["connection", "content-type", "host", "content-length", "proxy-authorization", "te", "trailer",
   "transfer-encoding", "upgrade", "user-agent"]

/-- `_owned_signer_headers`. -/
def ownedSignerHeaders (signer : SignerConfig) : List String :=
  let configured := signer.headerName.map fun name => casefold name.text
  match signer.profile with
  | .genericHmacSha256 => [configured.getD "x-webhook-signature"]
  | .stripeV1 => [configured.getD "stripe-signature"]
  | .standardWebhooksHmac =>
    ["webhook-id", "webhook-timestamp", configured.getD "webhook-signature"]

def validateSignerHeaders (signer : SignerConfig) (userHeaderNames : List String) (path : String) :
    List SemanticDiagnostic :=
  let headers := ownedSignerHeaders signer
  reportIf (decide (¬ headers.Nodup))
      (Diagnostic.planning ⟨"SIG_SIGNER_HEADER_INTERNAL_CONFLICT",
        "Signer profile declares the same owned header more than once.", path,
        "Choose a signature header distinct from the profile metadata headers."⟩) ++
    reportIf (headers.any fun h => decide (h ∈ userHeaderNames))
      ⟨⟨"SIG_SIGNER_HEADER_CONFLICT",
        "User-supplied value conflicts with a signer-owned signature header.", path,
        "Remove the user-supplied signature header value."⟩, .planningError,
        [("conflict_source", .text "planned-user-header")]⟩ ++
    reportIf (headers.any fun h => decide (h ∈ harnessRequestHeaders))
      (Diagnostic.planning ⟨"SIG_SIGNER_HEADER_RESERVED",
        "Signer-owned header conflicts with a harness-owned request header.", path,
        "Choose a dedicated signature header."⟩)

end SignerHeaders

end WebhookConformance
