import WebhookConformance.Mutations

/-! The mutation pipeline (`mutations/pipeline.py`): the preflight of a whole plan, one mutation
with the check of its declared effects, the one signature, and their order. -/
namespace WebhookConformance

open Checked ByteText

section Signers

/-- The part of the evidence that the pipeline compares with its own input. -/
structure SigningEvidence where
  adapterId : String
  adapterVersion : String
  logicalTimeNs : Int
  bodySha256 : String
  deriving DecidableEq, Repr

/-- The proofs are the checks of `_validate_result_headers` and of the headers themselves. -/
structure SigningResult where
  headers : List SignatureHeader
  evidence : SigningEvidence
  headers_valid : ∀ h ∈ headers, h.Valid
  headers_count : 1 ≤ headers.length ∧ headers.length ≤ maxSignerHeaders
  names_nodup : (headers.map SignatureHeader.name).Nodup

/-- The protocol `Signer` over a type of signer objects, equal when they are one object. -/
structure SignerProtocol (σ : Type) where
  adapterId : σ → String
  adapterVersion : σ → String
  ownedHeaders : σ → List String
  sign : σ → SigningInput → Except SignerError SigningResult

structure SignerConfigurationError where
  code : String
  message : String
  safeDetails : List (String × Json)
  deriving DecidableEq

def maxUserHeaders : Nat := 128

/-- `_validate_header_name` does not raise. -/
def isHeaderName (name : String) : Bool :=
  decide (1 ≤ name.length) && decide (name.length ≤ maxHeaderNameLength) &&
    name.toList.all isHeaderToken

/-- `_normalize_header_sequence`; the names within the limit are read before it is checked. -/
def normalizeHeaderSequence (values : List String) (fieldName : String) (maximum : Nat) :
    Except SignerConfigurationError (List String) := do
  let names ← (values.take maximum).mapM fun value =>
    if isHeaderName value then .ok (casefold value)
    else .error ⟨"SIG_SIGNER_HEADERS_INVALID",
      fieldName ++ " contains an invalid HTTP header name.", []⟩
  require (values.length ≤ maximum)
    ⟨"SIG_SIGNER_HEADERS_INVALID", fieldName ++ " exceeds its bounded item limit.", []⟩
  return names

/-- `validate_header_ownership`. -/
def validateHeaderOwnership (ownedHeaders userHeaderNames : List String) :
    Except SignerConfigurationError (List String) := do
  let owned ← normalizeHeaderSequence ownedHeaders "owned signer headers" maxSignerHeaders
  let users ← normalizeHeaderSequence userHeaderNames "user headers" maxUserHeaders
  require owned.Nodup
    ⟨"SIG_SIGNER_HEADER_INTERNAL_CONFLICT",
      "Signer profile declares the same owned header more than once.", []⟩
  require (∀ name ∈ owned, name ∉ users)
    ⟨"SIG_SIGNER_HEADER_CONFLICT",
      "User-supplied value conflicts with a signer-owned signature header.",
      [("conflict_source", .text "planned-user-header")]⟩
  require (∀ name ∈ owned, name ∉ harnessRequestHeaders)
    ⟨"SIG_SIGNER_HEADER_RESERVED",
      "Signer-owned header conflicts with a harness-owned request header.", []⟩
  return owned

/-- `[a-z][a-z0-9._-]{0,127}`. -/
def isSignerIdentifier (text : String) : Bool :=
  match text.toList with
  | [] => false
  | c :: cs => c.isLower && decide (cs.length ≤ 127) &&
      cs.all fun c => c.isLower || c.isDigit || c = '.' || c = '_' || c = '-'

/-- The identity and the headers of a signer; `_SignerSnapshot` without the object itself. -/
structure SignerSnapshot where
  adapterId : String
  adapterVersion : String
  ownedHeaders : List String
  deriving DecidableEq, Repr

def signerContractInvalid : MutationError :=
  ⟨.mutationNotApplicable, "MUT_SIGNER_CONTRACT_INVALID",
    "The selected signer has an invalid identity or header-ownership contract.", []⟩

/-- `_snapshot_signer`. -/
def SignerProtocol.snapshot {σ : Type} (signers : SignerProtocol σ) (signer : σ) :
    Except MutationError SignerSnapshot := do
  require (isSignerIdentifier (signers.adapterId signer) = true ∧
    isSignerIdentifier (signers.adapterVersion signer) = true) signerContractInvalid
  match validateHeaderOwnership (signers.ownedHeaders signer) [] with
  | .error _ => .error signerContractInvalid
  | .ok owned => .ok ⟨signers.adapterId signer, signers.adapterVersion signer, owned⟩

/-- `_reject_signer_input_collision`. -/
def rejectSignerInputCollision (snapshot : SignerSnapshot) (headers : List SignatureHeader) :
    Except MutationError Unit :=
  match validateHeaderOwnership snapshot.ownedHeaders (headers.map SignatureHeader.name) with
  | .error _ => .error ⟨.conflictingMutation, "MUT_SIGNER_HEADER_COLLISION",
      "A planned request header conflicts with signer-owned header space.", []⟩
  | .ok _ => .ok ()

end Signers

section Inputs

def maxMediaTypeLength : Nat := 256

def isMediaTypeChar (c : Char) : Bool := c.isAlphanum || c ∈ "!#$&^_.+-".toList

/-- What may follow the two names of a media type: `(?:[ \t]*;[^\r\n]*)?`. -/
def isMediaTypeTail (cs : List Char) : Bool :=
  match cs.dropWhile fun c => c = ' ' || c = '\t' with
  | ';' :: parameters => parameters.all fun c => c ≠ '\r' && c ≠ '\n'
  | _ => cs.isEmpty

/-- `_validate_media_type` does not raise. -/
def isRequestMediaType (text : String) : Bool :=
  decide (text.length ≤ maxMediaTypeLength) &&
    match text.toList.dropWhile isMediaTypeChar with
    | '/' :: rest =>
      !(text.toList.takeWhile isMediaTypeChar).isEmpty &&
        !(rest.takeWhile isMediaTypeChar).isEmpty &&
        isMediaTypeTail (rest.dropWhile isMediaTypeChar)
    | _ => false

/-- `_validate_event_id` does not raise. -/
def isEventId (eventId : String) : Bool :=
  decide (eventId ≠ "") && decide ((utf8 eventId).length ≤ maxEventIdBytes)

/-- `bytes.decode("utf-8")`. -/
def decodeUtf8 (bytes : Bytes) : Option String :=
  bytes.toByteArray.utf8Decode?.map fun chars => String.ofList chars.toList

theorem decodeUtf8_utf8 (text : String) : decodeUtf8 (utf8 text) = some text := by
  have hbytes : (utf8 text).toByteArray = text.toList.utf8Encode := rfl
  rw [decodeUtf8, hbytes, List.utf8Decode?_utf8Encode]
  simp

/-- `json.loads` accepts the decoded bytes. -/
def validJson (body : Bytes) : Bool :=
  (decodeUtf8 body).any fun text => (Json.read text.toList).isSome

end Inputs

section Contracts

def maxTotalHeaderBytes : Nat := 262144

/-- The proofs are the checks against the hard maxima. -/
structure MutationPipelineLimits where
  maxBodyBytes : Nat
  maxHeaders : Nat
  maxTotalHeaderBytes : Nat
  maxMutations : Nat
  body_range : 1 ≤ maxBodyBytes ∧ maxBodyBytes ≤ maxSigningBodyBytes
  headers_range : 1 ≤ maxHeaders ∧ maxHeaders ≤ maxMutationHeaders
  header_bytes_range : 1 ≤ maxTotalHeaderBytes ∧
    maxTotalHeaderBytes ≤ WebhookConformance.maxTotalHeaderBytes
  mutations_le : maxMutations ≤ maxMutationsPerDelivery
  deriving DecidableEq

/-- `MutationPipelineLimits()`. -/
def MutationPipelineLimits.standard : MutationPipelineLimits :=
  ⟨maxSigningBodyBytes, maxMutationHeaders, WebhookConformance.maxTotalHeaderBytes,
    maxMutationsPerDelivery, by decide, by decide, by decide, by decide⟩

/-- The arguments of `MutationPipeline.execute`. -/
structure PipelineRequest (σ : Type) where
  body : Bytes
  headers : List SignatureHeader
  eventId : String
  logicalTimeNs : Int
  mediaType : String
  signer : Option σ
  mutations : List RealizedMutation

structure MutationPipelineResult where
  body : Bytes
  headers : List SignatureHeader
  mutationEvidence : List MutationEvidence
  signingEvidence : Option SigningEvidence
  signedBodySha256 : Option String
  deliveredBodySha256 : String
  deriving DecidableEq

structure PreparedMutation (σ : Type) where
  realized : RealizedMutation
  registration : MutationRegistration σ

/-- The seed state stands for the prepared body, headers and signer. -/
structure PreparedPipeline (σ : Type) where
  mutations : List (PreparedMutation σ)
  state : MutationState σ
  signerSnapshot : Option SignerSnapshot

/-- The variables of the preflight loop. -/
structure PreflightScan (σ : Type) where
  prepared : List (PreparedMutation σ)
  furthest : Option (PreparedMutation σ)
  invalidJsonBy : Option (PreparedMutation σ)
  headerClaims : List (String × PreparedMutation σ)
  signatureAction : Option (PreparedMutation σ)
  structuralPresent : Bool

def PreflightScan.start {σ : Type} : PreflightScan σ := ⟨[], none, none, [], none, false⟩

inductive PipelineError where
  | mutation (error : MutationError)
  | signer (error : SignerError)
  /-- A plain `ValueError` with its message. -/
  | value (message : String)
  deriving DecidableEq

structure MutationPipeline (σ : Type) where
  sha256 : Sha256Hash
  signers : SignerProtocol σ
  registry : StaticMutationRegistry σ
  limits : MutationPipelineLimits

end Contracts

section Rules

variable {σ : Type} (scan : PreflightScan σ) (current : PreparedMutation σ)

def PreparedMutation.priorDetails (prior : PreparedMutation σ) : List (String × Json) :=
  [("prior_operator_id", .text prior.realized.operatorId),
    ("prior_operator_version", .number prior.realized.operatorVersion)]

def checkAfterInvalidJson : Except MutationError Unit :=
  match scan.invalidJsonBy with
  | none => .ok ()
  | some prior => require (current.realized.stage ≠ .structural)
      (current.realized.conflict "MUT_STRUCTURAL_AFTER_INVALID_JSON"
        "A structural JSON mutation cannot follow a JSON-invalidating operator."
        prior.priorDetails)

def checkStageOrder : Except MutationError Unit :=
  match scan.furthest with
  | none => .ok ()
  | some prior => require (prior.realized.stage.rank ≤ current.realized.stage.rank)
      (current.realized.conflict "MUT_PIPELINE_STAGE_ORDER"
        "A mutation appears after an operator from a later pipeline stage."
        [("operator_stage", .text current.realized.stage.value),
          ("prior_operator_id", .text prior.realized.operatorId),
          ("prior_stage", .text prior.realized.stage.value)])

def checkJsonMediaType (mediaType : String) : Except MutationError Unit :=
  require (current.registration.requiresValidJson = true → isJsonMediaType mediaType = true)
    (current.realized.notApplicable "MUT_STRUCTURAL_REQUIRES_JSON"
      "A structural mutation requires a JSON media type.")

/-- The operator works on what only a signer has. -/
def OperatorEffects.needsSigner (effects : OperatorEffects) : Bool :=
  effects.mayChangeSigningTime || effects.mayReplaceSigner ||
    effects.signatureHeaderAction ≠ .none

def checkSignerSelected (snapshot : Option SignerSnapshot) : Except MutationError Unit :=
  require (current.registration.needsSigner = true → snapshot.isSome = true)
    (current.realized.notApplicable "MUT_OPERATOR_REQUIRES_SIGNER"
      "The mutation operator requires a selected signer.")

/-- One turn of the loop over the static targets. -/
def claimHeader (claims : List (String × PreparedMutation σ)) (name : String) :
    Except MutationError (List (String × PreparedMutation σ)) :=
  match claims.lookup name with
  | some prior => .error (current.realized.conflict "MUT_HEADER_TARGET_CONFLICT"
      "Two mutation operators claim the same normalized header."
      (("header_name", .text name) :: prior.priorDetails))
  | none => .ok ((name, current) :: claims)

def SignerSnapshot.owned (snapshot : Option SignerSnapshot) : List String :=
  snapshot.elim [] SignerSnapshot.ownedHeaders

/-- `_preflight_header_effects`. -/
def preflightHeaderEffects (snapshot : Option SignerSnapshot)
    (claims : List (String × PreparedMutation σ)) :
    Except MutationError (List (String × PreparedMutation σ)) := do
  let registration := current.registration
  let owned := SignerSnapshot.owned snapshot
  require (registration.signatureHeaderAction = .none →
      ∀ name ∈ registration.staticTargets, name ∉ owned)
    (current.realized.conflict "MUT_SIGNER_HEADER_OWNERSHIP_CONFLICT"
      "A mutation targets a header exclusively owned by the signer." [])
  require (registration.signatureHeaderAction = .remove →
      ∀ name ∈ registration.writtenHeaders, name ∉ owned)
    (current.realized.conflict "MUT_SIGNATURE_HEADER_ACTION_CONFLICT"
      "A signature-removal operator also declares a signer-header write." [])
  runAll (claimHeader current) claims registration.staticTargets

def checkSignatureAction : Except MutationError Unit :=
  match scan.signatureAction with
  | none => .ok ()
  | some prior => require (current.registration.signatureHeaderAction = .none)
      (current.realized.conflict "MUT_SIGNATURE_HEADER_ACTION_CONFLICT"
        "Signature-header mutations conflict within one delivery." prior.priorDetails)

/-- The scan after a mutation that broke no rule. -/
def PreflightScan.next (claims : List (String × PreparedMutation σ)) : PreflightScan σ where
  prepared := scan.prepared ++ [current]
  furthest := match scan.furthest with
    | none => some current
    | some prior =>
      if prior.realized.stage.rank < current.realized.stage.rank then some current else some prior
  invalidJsonBy := if current.registration.invalidatesJson then some current else scan.invalidJsonBy
  headerClaims := claims
  signatureAction :=
    if current.registration.signatureHeaderAction ≠ .none then some current
    else scan.signatureAction
  structuralPresent := scan.structuralPresent || current.registration.requiresValidJson

end Rules

namespace MutationPipeline

variable {σ : Type} (p : MutationPipeline σ)

section Preflight

/-- One turn of the preflight loop. -/
def scanRealized (mediaType : String) (snapshot : Option SignerSnapshot) (scan : PreflightScan σ)
    (realized : RealizedMutation) : Except MutationError (PreflightScan σ) := do
  let registration ← p.registry.registration realized
  let current : PreparedMutation σ := ⟨realized, registration⟩
  checkAfterInvalidJson scan current
  checkStageOrder scan current
  checkJsonMediaType current mediaType
  checkSignerSelected current snapshot
  let claims ← preflightHeaderEffects current snapshot scan.headerClaims
  checkSignatureAction scan current
  return scan.next current claims

def headerBytes (headers : List SignatureHeader) : Nat :=
  (headers.map fun h => h.name.length + h.value.length).sum

/-- `_validate_header_resources`. -/
def validateHeaderResources (headers : List SignatureHeader) : Except MutationError Unit :=
  require (headerBytes headers ≤ p.limits.maxTotalHeaderBytes)
    (.resourceLimit "MUT_HEADER_BYTES_LIMIT"
      "Mutation headers exceed the configured aggregate byte limit.")

/-- `_bounded_headers`. -/
def boundedHeaders (headers : List SignatureHeader) : Except MutationError Unit := do
  require (headers.length ≤ p.limits.maxHeaders)
    (.resourceLimit "MUT_HEADER_COUNT_LIMIT" "Pipeline headers exceed the configured count limit.")
  require (∀ h ∈ headers, h.Valid)
    ⟨.invalidParameter, "MUT_HEADERS_INVALID", "Pipeline headers contain an invalid value.", []⟩

def pipelineInputInvalid : MutationError :=
  ⟨.invalidParameter, "MUT_PIPELINE_INPUT_INVALID", "The mutation pipeline input is invalid.", []⟩

/-- The state, the event id and the media type of a request. -/
def seedState (request : PipelineRequest σ) : Except MutationError (MutationState σ) :=
  match mutationState request.body request.headers request.logicalTimeNs request.signer with
  | .error _ => .error pipelineInputInvalid
  | .ok state => do
    require (isEventId request.eventId = true ∧ isRequestMediaType request.mediaType = true)
      pipelineInputInvalid
    return state

def selectSigner (request : PipelineRequest σ) : Except MutationError (Option SignerSnapshot) :=
  match request.signer with
  | none => .ok none
  | some signer => do
    let snapshot ← p.signers.snapshot signer
    rejectSignerInputCollision snapshot request.headers
    return some snapshot

/-- `_preflight`. -/
def preflight (request : PipelineRequest σ) : Except MutationError (PreparedPipeline σ) := do
  require (request.body.length ≤ p.limits.maxBodyBytes)
    (.resourceLimit "MUT_BODY_LIMIT"
      "The mutation pipeline input exceeds its configured body limit.")
  p.boundedHeaders request.headers
  require (request.mutations.length ≤ p.limits.maxMutations)
    (.resourceLimit "MUT_SEQUENCE_LIMIT"
      "Mutations exceed the configured operator-count limit.")
  let state ← seedState request
  p.validateHeaderResources request.headers
  let snapshot ← p.selectSigner request
  let scan ← runAll (p.scanRealized request.mediaType snapshot) .start request.mutations
  require (scan.structuralPresent = true → validJson request.body = true)
    ⟨.mutationNotApplicable, "MUT_STRUCTURAL_INPUT_INVALID_JSON",
      "A structural mutation requires valid UTF-8 JSON input.", []⟩
  return ⟨scan.prepared, state, snapshot⟩

end Preflight

section Application

/-- `_validate_state_resources`. -/
def validateStateResources (state : MutationState σ) : Except MutationError Unit := do
  require (state.body.length ≤ p.limits.maxBodyBytes)
    (.resourceLimit "MUT_BODY_LIMIT" "A mutation output exceeds the configured body limit.")
  require (state.headers.length ≤ p.limits.maxHeaders)
    (.resourceLimit "MUT_HEADER_COUNT_LIMIT"
      "A mutation output exceeds the configured header-count limit.")
  p.validateHeaderResources state.headers

/-- `_raise_undeclared_effect`. -/
def undeclaredEffect (realized : RealizedMutation) (effect : String) : MutationError :=
  realized.conflict "MUT_OPERATOR_UNDECLARED_EFFECT"
    "A mutation operator produced an effect outside its registered contract."
    [("effect", .text effect)]

/-- The part of a header list that an operator may not touch. -/
def untargeted (effects : OperatorEffects) (owned : List String) (headers : List SignatureHeader) :
    List SignatureHeader :=
  headers.filter fun h => h.name ∉ effects.targeted owned

/-- `_validate_header_effects`. -/
def validateHeaderEffects (before after : List SignatureHeader) (prepared : PreparedMutation σ)
    (snapshot : Option SignerSnapshot) : Except MutationError Unit := do
  let effects := prepared.registration.toOperatorEffects
  let owned := SignerSnapshot.owned snapshot
  require ((∀ h ∈ before, h.name ∉ after.map SignatureHeader.name →
        h.name ∈ effects.allowedRemoved owned) ∧
      ∀ h ∈ after, valueOf? before h.name ≠ some h.value →
        h.name ∈ effects.allowedWritten owned)
    (undeclaredEffect prepared.realized "headers")
  require (untargeted effects owned before = untargeted effects owned after)
    (undeclaredEffect prepared.realized "header_order")

variable [DecidableEq σ]

/-- The signer an operator puts in the place of another. -/
def validateReplacement (after : Option σ) (prepared : PreparedMutation σ)
    (snapshot : Option SignerSnapshot) : Except MutationError Unit :=
  match after, snapshot with
  | some signer, some expected => do
    let replacement ← p.signers.snapshot signer
    require (replacement = expected)
      (prepared.realized.conflict "MUT_REPLACEMENT_SIGNER_CONTRACT"
        "A replacement signer changed adapter identity or header ownership." [])
  | _, _ => .error (undeclaredEffect prepared.realized "signer")

/-- `_validate_declared_effects`. -/
def validateDeclaredEffects (before after : MutationState σ) (prepared : PreparedMutation σ)
    (snapshot : Option SignerSnapshot) : Except MutationError Unit := do
  let registration := prepared.registration
  require (before.body ≠ after.body → registration.changesBody = true)
    (undeclaredEffect prepared.realized "body")
  require (before.signingTimeNs ≠ after.signingTimeNs → registration.mayChangeSigningTime = true)
    (undeclaredEffect prepared.realized "signing_time")
  if before.signer ≠ after.signer then do
    require (registration.mayReplaceSigner = true) (undeclaredEffect prepared.realized "signer")
    p.validateReplacement after.signer prepared snapshot
  validateHeaderEffects before.headers after.headers prepared snapshot

/-- The operator itself; any exception of its own becomes a diagnostic. -/
def applyOperator (prepared : PreparedMutation σ) (input : MutationInput σ) :
    Except MutationError (MutationOutput σ) :=
  match prepared.registration.implementation input with
  | .ok output => .ok output
  | .error (.mutation error) => .error error
  | .error .other => .error (prepared.realized.notApplicable "MUT_OPERATOR_FAILED"
      "The mutation operator could not apply its realized parameters.")

def evidenceOf (realized : RealizedMutation) (before after : MutationState σ) : MutationEvidence :=
  ⟨realized.operatorId, realized.operatorVersion, realized.stage, realized.parametersSafe,
    p.sha256.text before.body, p.sha256.text after.body⟩

/-- `_apply_one`. -/
def applyOne (request : PipelineRequest σ) (snapshot : Option SignerSnapshot)
    (state : MutationState σ) (prepared : PreparedMutation σ) :
    Except MutationError (MutationState σ × MutationEvidence) := do
  let realized := prepared.realized
  require (prepared.registration.requiresValidJson = true → validJson state.body = true)
    (realized.notApplicable "MUT_STRUCTURAL_INPUT_INVALID_JSON"
      "A structural mutation received invalid UTF-8 JSON.")
  let output ← applyOperator prepared ⟨realized, state, request.eventId, request.mediaType⟩
  p.validateStateResources output
  p.validateDeclaredEffects state output prepared snapshot
  require (realized.stage = .structural → validJson output.body = true)
    (realized.notApplicable "MUT_STRUCTURAL_OUTPUT_INVALID_JSON"
      "A structural mutation produced invalid UTF-8 JSON.")
  return (output, p.evidenceOf realized state output)

end Application

section Signing

/-- The constructor of `SigningInput`; its error is the message of the `ValueError`. -/
def signingInput (body : Bytes) (eventId : String) (logicalTimeNs : Int) :
    Except String SigningInput :=
  if hbody : body.length ≤ maxSigningBodyBytes then
    if hid : (utf8 eventId).length ≤ maxEventIdBytes then
      if htime : -(int64Max + 1 : Int) ≤ logicalTimeNs ∧ logicalTimeNs ≤ int64Max then
        .ok ⟨body, eventId, logicalTimeNs, hbody, hid, htime⟩
      else .error "logical_time_ns must fit a signed 64-bit integer"
    else .error "event_id exceeds its bounded UTF-8 limit"
  else .error "signing body exceeds the 16777216-byte hard limit"

def signerConflict (code message : String) : MutationError :=
  ⟨.conflictingMutation, code, message, []⟩

/-- The call of `sign`; only a `SignerError` keeps its identity. -/
def callSigner (signer : σ) (input : SigningInput) : Except PipelineError SigningResult :=
  match p.signers.sign signer input with
  | .ok result => .ok result
  | .error error =>
    if error.kind = .signing then .error (.signer error)
    else .error (.mutation ⟨.mutationNotApplicable, "MUT_SIGNER_FAILED",
      "The selected signer could not sign the realized request.", []⟩)

/-- What a call of the signer leaves: the state with its headers, and the evidence. -/
structure Signature (σ : Type) where
  input : SigningInput
  state : MutationState σ
  evidence : SigningEvidence

/-- `_sign` of a state that has a signer. -/
def signWith (request : PipelineRequest σ) (snapshot : Option SignerSnapshot)
    (state : MutationState σ) (signer : σ) : Except PipelineError (Signature σ) := do
  let actual ← (p.signers.snapshot signer).mapError .mutation
  require (snapshot = some actual)
    (PipelineError.mutation (signerConflict "MUT_SIGNER_CONTRACT_CHANGED"
      "The selected signer changed identity or header ownership."))
  (rejectSignerInputCollision actual state.headers).mapError .mutation
  let input ← (signingInput state.body request.eventId state.signingTimeNs).mapError .value
  let result ← p.callSigner signer input
  require (result.evidence = ⟨actual.adapterId, actual.adapterVersion, state.signingTimeNs,
      p.sha256.text state.body⟩ ∧
      result.headers.map SignatureHeader.name = actual.ownedHeaders)
    (PipelineError.mutation (signerConflict "MUT_SIGNER_EVIDENCE_CONFLICT"
      "Signer output does not match the realized exact-byte input."))
  let candidate ← (mutationState state.body (state.headers ++ result.headers) state.signingTimeNs
    state.signer).mapError .value
  (p.validateStateResources candidate).mapError .mutation
  return ⟨input, candidate, result.evidence⟩

/-- `_sign`. -/
def sign (request : PipelineRequest σ) (snapshot : Option SignerSnapshot)
    (state : MutationState σ) : Except PipelineError (Option (Signature σ)) :=
  match state.signer with
  | none => do
    require (snapshot = none)
      (PipelineError.mutation (signerConflict "MUT_SIGNER_REMOVED"
        "A mutation removed the selected signer before signing."))
    return none
  | some signer => (p.signWith request snapshot state signer).map some

end Signing

section Execution

/-- What the pipeline asks of operators and signer. -/
inductive Call where
  | operator (realized : RealizedMutation)
  | signer (input : SigningInput)

/-- The variables of the execution loop, and the calls made so far. -/
structure Progress (σ : Type) where
  state : MutationState σ
  evidence : List MutationEvidence
  signingEvidence : Option SigningEvidence
  signedBodySha256 : Option String
  signerInvoked : Bool
  calls : List Call

def Progress.start (state : MutationState σ) : Progress σ := ⟨state, [], none, none, false, []⟩

/-- The call of `_sign` in the loop, or after it. -/
def invokeSigner (request : PipelineRequest σ) (snapshot : Option SignerSnapshot)
    (progress : Progress σ) : Except PipelineError (Progress σ) := do
  match ← p.sign request snapshot progress.state with
  | none => return { progress with signerInvoked := true }
  | some signature =>
    return { progress with
      state := signature.state
      signingEvidence := some signature.evidence
      signedBodySha256 := some (p.sha256.text progress.state.body)
      signerInvoked := true
      calls := progress.calls ++ [.signer signature.input] }

/-- The signer is due before the first mutation of a later stage. -/
def signerDue (progress : Progress σ) (stage : MutationStage) : Bool :=
  !progress.signerInvoked && decide (MutationStage.signing.rank < stage.rank)

def signIfDue (request : PipelineRequest σ) (snapshot : Option SignerSnapshot) (due : Bool)
    (progress : Progress σ) : Except PipelineError (Progress σ) :=
  if due then p.invokeSigner request snapshot progress else .ok progress

variable [DecidableEq σ]

def invokeOperator (request : PipelineRequest σ) (snapshot : Option SignerSnapshot)
    (progress : Progress σ) (prepared : PreparedMutation σ) :
    Except PipelineError (Progress σ) := do
  let (state, item) ← (p.applyOne request snapshot progress.state prepared).mapError .mutation
  return { progress with
    state := state
    evidence := progress.evidence ++ [item]
    calls := progress.calls ++ [.operator prepared.realized] }

/-- One turn of the loop of `execute`. -/
def turn (request : PipelineRequest σ) (snapshot : Option SignerSnapshot) (progress : Progress σ)
    (prepared : PreparedMutation σ) : Except PipelineError (Progress σ) := do
  let progress ←
    p.signIfDue request snapshot (signerDue progress prepared.realized.stage) progress
  p.invokeOperator request snapshot progress prepared

/-- `execute` up to its result. -/
def run (request : PipelineRequest σ) : Except PipelineError (Progress σ) := do
  let prepared ← (p.preflight request).mapError .mutation
  let progress ← runAll (p.turn request prepared.signerSnapshot) (.start prepared.state)
    prepared.mutations
  let progress ← p.signIfDue request prepared.signerSnapshot (!progress.signerInvoked) progress
  (p.validateStateResources progress.state).mapError .mutation
  return progress

def result (progress : Progress σ) : MutationPipelineResult :=
  ⟨progress.state.body, progress.state.headers, progress.evidence, progress.signingEvidence,
    progress.signedBodySha256, p.sha256.text progress.state.body⟩

/-- `MutationPipeline.execute`. -/
def execute (request : PipelineRequest σ) : Except PipelineError MutationPipelineResult :=
  (p.run request).map p.result

end Execution

end MutationPipeline

end WebhookConformance
