import WebhookConformance.SignatureFaults
import WebhookConformance.Validation

/-! From the configuration to the pipeline: `_lower_mutation` of the compiler and `_build_signers`
of the command line. -/
namespace WebhookConformance

open Checked ByteText

section Lowering

def JsonTypeName.value : JsonTypeName → String
  | .null => "null"
  | .boolean => "boolean"
  | .integer => "integer"
  | .string => "string"
  | .array => "array"
  | .object => "object"

def InvalidJsonCase.value : InvalidJsonCase → String
  | .truncatedObject => "truncated-object"
  | .badEscape => "bad-escape"
  | .trailingComma => "trailing-comma"

def MalformedSignatureCase.value : MalformedSignatureCase → String
  | .invalidEncoding => "invalid-encoding"
  | .missingComponent => "missing-component"
  | .invalidDelimiter => "invalid-delimiter"
  | .duplicateComponent => "duplicate-component"

/-- The fields of a mutation without its type, and the pointer that its fixture declares. -/
def MutationConfig.parameters (fixture : FixtureConfig) : MutationConfig → List (String × Json)
  | .removeJsonPointer pointer ignoreMissing acceptPrior =>
    [("pointer", .text pointer.text),
     ("if_missing", .text (if ignoreMissing then "ignore" else "error")),
     ("accept_prior_mutation", .bool acceptPrior)]
  | .replaceJsonValue pointer value acceptPrior =>
    [("pointer", .text pointer.text), ("value", value.value),
     ("accept_prior_mutation", .bool acceptPrior)]
  | .replaceJsonType pointer targetType acceptPrior =>
    [("pointer", .text pointer.text), ("target_type", .text targetType.value),
     ("accept_prior_mutation", .bool acceptPrior)]
  | .addJsonField pointer name value overwrite acceptPrior =>
    [("pointer", .text pointer.text), ("name", .text name.text), ("value", value.value),
     ("overwrite", .bool overwrite), ("accept_prior_mutation", .bool acceptPrior)]
  | .changeEventIdField value acceptPrior =>
    [("value", .text value.text), ("accept_prior_mutation", .bool acceptPrior),
     ("pointer", .text fixture.eventIdPointer)]
  | .changeEventTypeField value acceptPrior =>
    [("value", .text value.text), ("accept_prior_mutation", .bool acceptPrior),
     ("pointer", .text fixture.eventTypePointer)]
  | .truncateBytes length _ => [("length", .number length)]
  | .invalidJson strategy => [("strategy", .text strategy.value)]
  | .contentTypeMismatch mediaType => [("media_type", .text mediaType.text)]
  | .alterAfterSigning offset xor _ _ => [("offset", .number offset), ("xor", .number xor)]
  | .staleSignatureTimestamp age _ => [("age_ns", .number age.nanoseconds)]
  | .wrongSigningKey context => [("context", .text context.text)]
  | .missingSignature => []
  | .malformedSignature case => [("case", .text case.value)]
  | .oversizedBody targetBytes _ =>
    [("target_bytes", .number targetBytes), ("fill", .text "ascii-space")]

theorem MutationConfig.uniqueKeys_parameters (fixture : FixtureConfig) (m : MutationConfig) :
    (Json.object (m.parameters fixture)).uniqueKeys = true := by
  rw [Json.uniqueKeys_object]
  cases m with
  | replaceJsonValue pointer value acceptPrior =>
    refine ⟨by simp [parameters], ?_⟩
    simp only [parameters, List.forall_mem_cons]
    exact ⟨rfl, value.unique, rfl, fun _ h => absurd h List.not_mem_nil⟩
  | addJsonField pointer name value overwrite acceptPrior =>
    refine ⟨by simp [parameters], ?_⟩
    simp only [parameters, List.forall_mem_cons]
    exact ⟨rfl, rfl, value.unique, rfl, rfl, fun _ h => absurd h List.not_mem_nil⟩
  | _ =>
    refine ⟨by simp [parameters], ?_⟩
    simp [parameters, Json.uniqueKeys, Json.fold]

/-- `_lower_mutation`. -/
def lowerMutation (fixture : FixtureConfig) (m : MutationConfig) : RealizedMutation where
  operatorId := m.operator.id
  operatorVersion := 1
  stage := m.operator.stage
  parameters := m.parameters fixture
  parametersSafe := m.parameters fixture
  keys_unique := m.uniqueKeys_parameters fixture

end Lowering

section Signers

/-- The configured name, or that of the profile. -/
def SignerConfig.signatureHeader (config : SignerConfig) : String :=
  casefold ((config.headerName.map ConfiguredHeaderName.text).getD
    (match config.profile with
    | .genericHmacSha256 => "x-webhook-signature"
    | .stripeV1 => "stripe-signature"
    | .standardWebhooksHmac => "webhook-signature"))

/-- The settings that the command line asks for: no prefix, the template over the body, and hex. -/
def genericSettings (headerName : String) : GenericHmacSha256Settings where
  headerName := headerName
  leading := []
  template := genericHmacSha256Template
  timestampEncoding := .asciiDecimalNanoseconds
  outputEncoding := .hex
  leading_length := by decide
  leading_visible := fun _ h => absurd h List.not_mem_nil
  registered := by decide

theorem oneSecret (secret : Bytes) : [secret] ≠ [] ∧ [secret].length ≤ maxSigningSecrets :=
  ⟨List.cons_ne_nil _ _, by simp [maxSigningSecrets]⟩

/-- One turn of `_build_signers`; the settings validate the headers that they own. -/
def buildSigner (hmac : HmacSha256) (secret : Bytes) (config : SignerConfig) :
    Except SignerConfigurationError BuiltinSigner :=
  let name := config.signatureHeader
  match config.profile with
  | .genericHmacSha256 => do
    let _ ← validateHeaderOwnership [name] []
    return .generic ⟨hmac, genericSettings name, secret⟩
  | .stripeV1 => do
    let _ ← validateHeaderOwnership [name] []
    return .stripe ⟨hmac, name, [secret], oneSecret secret⟩
  | .standardWebhooksHmac => do
    let _ ← validateHeaderOwnership [webhookIdHeader, webhookTimestampHeader, name] []
    if free : name ≠ webhookIdHeader ∧ name ≠ webhookTimestampHeader then
      return .standard ⟨hmac, name, [secret], free, oneSecret secret⟩
    else .error ⟨"SIG_SIGNER_HEADER_INTERNAL_CONFLICT",
      "Signer profile declares the same owned header more than once.", []⟩

variable {hmac : HmacSha256} {secret : Bytes} {config : SignerConfig} {selected : BuiltinSigner}

theorem ascii_of_token {c : Char} (h : isHeaderToken c = true) : c.toNat < 128 := by
  rw [isHeaderToken, Bool.or_eq_true] at h
  obtain halpha | hmem := h
  · delta Char.isAlphanum Char.isAlpha Char.isUpper Char.isLower Char.isDigit at halpha
    simp only [Bool.or_eq_true, Bool.and_eq_true, decide_eq_true_eq, ge_iff_le,
      UInt32.le_iff_toNat_le] at halpha
    have hupper : 'Z'.val.toNat = 90 := rfl
    have hlower : 'z'.val.toNat = 122 := rfl
    have hdigit : '9'.val.toNat = 57 := rfl
    change c.val.toNat < 128
    omega
  · have hall : ∀ d ∈ "!#$%&'*+.^_`|~-".toList, d.toNat < 128 := by decide
    exact hall c (of_decide_eq_true hmem)

/-- A token folds to a token, once and for all. -/
theorem token_casefoldChar {c : Char} (h : isHeaderToken c = true) :
    isHeaderToken (casefoldChar c) = true ∧ casefoldChar (casefoldChar c) = casefoldChar c := by
  have hall : ∀ n < 128, isHeaderToken (Char.ofNat n) = true →
      isHeaderToken (casefoldChar (Char.ofNat n)) = true ∧
        casefoldChar (casefoldChar (Char.ofNat n)) = casefoldChar (Char.ofNat n) := by
    decide +kernel
  have hc := hall c.toNat (ascii_of_token h)
  rw [Char.ofNat_toNat] at hc
  exact hc h

theorem isHeaderName_casefold {name : String} (h : isHeaderName name = true) :
    isHeaderName (casefold name) = true ∧ casefold (casefold name) = casefold name := by
  rw [isHeaderName, Bool.and_eq_true, Bool.and_eq_true, List.all_eq_true] at h
  obtain ⟨⟨hlow, hhigh⟩, htoken⟩ := h
  have hlength : (casefold name).length = name.length := by
    rw [casefold, String.length_ofList, List.length_map, String.length_toList]
  constructor
  · rw [isHeaderName, hlength, hlow, hhigh, casefold, String.toList_ofList, List.all_map,
      Bool.true_and, Bool.true_and, List.all_eq_true]
    exact fun c hc => (token_casefoldChar (htoken c hc)).1
  · rw [casefold, casefold, String.toList_ofList, List.map_map]
    refine congrArg String.ofList (List.map_congr_left fun c hc => ?_)
    exact (token_casefoldChar (htoken c hc)).2

theorem SignerConfig.signatureHeader_name (config : SignerConfig) :
    isHeaderName config.signatureHeader = true ∧
      casefold config.signatureHeader = config.signatureHeader := by
  obtain ⟨profile, headerName⟩ := config
  cases headerName with
  | none => cases profile <;> decide
  | some name =>
    refine isHeaderName_casefold ?_
    obtain ⟨hlow, hhigh⟩ := name.length_range
    change isHeaderName name.text = true
    rw [isHeaderName, name.token, decide_eq_true hlow]
    exact Bool.and_eq_true_iff.2 ⟨decide_eq_true hhigh, rfl⟩

/-- The rules of the project know the headers of a signer. -/
theorem ownedSignerHeaders_eq (config : SignerConfig) :
    ownedSignerHeaders config = match config.profile with
      | .genericHmacSha256 | .stripeV1 => [config.signatureHeader]
      | .standardWebhooksHmac =>
        [webhookIdHeader, webhookTimestampHeader, config.signatureHeader] := by
  obtain ⟨profile, headerName⟩ := config
  cases headerName <;> cases profile <;> rfl

theorem ownedHeaders_buildSigner (h : buildSigner hmac secret config = .ok selected) :
    selected.ownedHeaders = ownedSignerHeaders config := by
  rw [ownedSignerHeaders_eq]
  unfold buildSigner at h
  cases hprofile : config.profile with
  | genericHmacSha256 =>
    rw [hprofile] at h
    obtain ⟨_, -, h⟩ := bind_ok h
    cases pure_ok h
    rfl
  | stripeV1 =>
    rw [hprofile] at h
    obtain ⟨_, -, h⟩ := bind_ok h
    cases pure_ok h
    rfl
  | standardWebhooksHmac =>
    rw [hprofile] at h
    obtain ⟨_, -, h⟩ := bind_ok h
    split at h
    · cases pure_ok h
      rfl
    · cases h

theorem ownedSignerHeaders_names (config : SignerConfig) :
    (ownedSignerHeaders config).length ≤ maxSignerHeaders ∧
      ∀ name ∈ ownedSignerHeaders config, isHeaderName name = true ∧ casefold name = name := by
  have hname := config.signatureHeader_name
  rw [ownedSignerHeaders_eq]
  split
  · exact ⟨show 1 ≤ 16 by decide, List.forall_mem_singleton.2 hname⟩
  · exact ⟨show 1 ≤ 16 by decide, List.forall_mem_singleton.2 hname⟩
  · refine ⟨show 3 ≤ 16 by decide, List.forall_mem_cons.2 ⟨by decide, List.forall_mem_cons.2 ⟨by decide, ?_⟩⟩⟩
    exact List.forall_mem_singleton.2 hname

theorem normalizeHeaderSequence_of {values : List String} {fieldName : String} {maximum : Nat}
    (hcount : values.length ≤ maximum)
    (hnames : ∀ name ∈ values, isHeaderName name = true ∧ casefold name = name) :
    normalizeHeaderSequence values fieldName maximum = .ok values := by
  have htake : values.take maximum = values := List.take_of_length_le hcount
  refine bind_of ?_ (bind_of (require_of hcount) rfl)
  rw [htake, mapM_ok_iff]
  refine List.forall₂_same.2 fun name hname => ?_
  rw [if_pos (hnames name hname).1, (hnames name hname).2]

/-- Headers that the project accepts are headers that a signer may own. -/
theorem validateHeaderOwnership_of {path : String} {names users : List String}
    (h : validateSignerHeaders config names path = [])
    (husers : users.length ≤ maxUserHeaders)
    (husersNames : ∀ name ∈ users, isHeaderName name = true ∧ casefold name = name)
    (hfree : ∀ name ∈ ownedSignerHeaders config, name ∉ users) :
    validateHeaderOwnership (ownedSignerHeaders config) users =
      .ok (ownedSignerHeaders config) := by
  simp only [validateSignerHeaders, List.append_eq_nil_iff, reportIf_eq_nil,
    decide_eq_false_iff_not, not_not, List.any_eq_false, decide_eq_true_eq] at h
  obtain ⟨⟨hnodup, -⟩, hreserved⟩ := h
  obtain ⟨hcount, hnames⟩ := ownedSignerHeaders_names config
  exact bind_of (normalizeHeaderSequence_of hcount hnames)
    (bind_of (normalizeHeaderSequence_of husers husersNames) (bind_of (require_of hnodup)
      (bind_of (require_of hfree) (bind_of (require_of hreserved) rfl))))

theorem buildSigner_exists {path : String} {names : List String}
    (h : validateSignerHeaders config names path = []) :
    ∃ selected, buildSigner hmac secret config = .ok selected := by
  have howned := @validateHeaderOwnership_of config path names [] h (Nat.zero_le _)
    (fun _ hname => absurd hname List.not_mem_nil) (fun _ _ => List.not_mem_nil)
  rw [ownedSignerHeaders_eq] at howned
  unfold buildSigner
  cases hprofile : config.profile with
  | genericHmacSha256 =>
    rw [hprofile] at howned
    exact ⟨_, bind_of howned rfl⟩
  | stripeV1 =>
    rw [hprofile] at howned
    exact ⟨_, bind_of howned rfl⟩
  | standardWebhooksHmac =>
    rw [hprofile] at howned
    obtain ⟨-, hnodup, -⟩ := validateHeaderOwnership_ok howned
    have hfree : config.signatureHeader ≠ webhookIdHeader ∧
        config.signatureHeader ≠ webhookTimestampHeader := by
      constructor
      · intro heq
        simp [heq] at hnodup
      · intro heq
        simp [heq] at hnodup
    refine ⟨.standard ⟨hmac, config.signatureHeader, [secret], hfree, oneSecret secret⟩,
      bind_of howned ?_⟩
    rw [dif_pos hfree]
    rfl

end Signers

end WebhookConformance
