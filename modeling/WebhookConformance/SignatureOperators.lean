import WebhookConformance.RawOperators
import WebhookConformance.SignatureVerification

/-! The signature-state operators (`mutations/signature_ops.py`): stale timestamps, wrong keys,
missing and malformed signatures, and the built-in signers as the pipeline sees them. -/
namespace WebhookConformance

open Checked ByteText

/-- Signers for which wrong test keys can be derived. `none` stands for the exceptions that
`WrongSigningKeyV1` turns into a diagnostic. -/
structure SignerFamily (σ : Type) extends SignerProtocol σ where
  wrongKeySigner : σ → Bytes → Option σ

section Operators

variable {σ : Type} (input : MutationInput σ)

def signatureParameters (required : List String) : Except OperatorError Unit :=
  checkParameters input "MUT_SIGNATURE_PARAMETERS_INVALID"
    "The realized signature mutation parameters do not match the operator contract." required []

/-- The selected signer, or the diagnostic that there is none. -/
def requireSigner (code message : String) : Except OperatorError σ :=
  match input.state.signer with
  | none => input.notApplicable code message
  | some signer => .ok signer

def ageParameter : Except OperatorError Int :=
  match input.parameter "age_ns" with
  | some (.number age) =>
    if 0 < age then .ok age
    else input.invalid "MUT_STALE_AGE_INVALID"
      "The stale-signature age must be a positive integer nanosecond value."
  | _ => input.invalid "MUT_STALE_AGE_INVALID"
      "The stale-signature age must be a positive integer nanosecond value."

/-- `StaleSignatureTimestampV1.apply`. -/
def staleSignatureTimestampV1 (signers : SignerProtocol σ) :
    Except OperatorError (MutationOutput σ) := do
  signatureParameters input ["age_ns"]
  let age ← ageParameter input
  let signer ← requireSigner input "MUT_STALE_SIGNER_REQUIRED"
    "stale-signature-timestamp-v1 requires a selected signer."
  require (signers.adapterId signer ≠ "generic-hmac-sha256")
    (.mutation (input.realized.notApplicable "MUT_STALE_SIGNER_NOT_TIMESTAMPED"
      "stale-signature-timestamp-v1 requires a timestamped signer profile."))
  let stale := input.state.signingTimeNs - age
  require (0 ≤ stale) (.mutation (input.realized.invalidParameter "MUT_STALE_TIMESTAMP_NEGATIVE"
    "The stale-signature age precedes the timestamp domain."))
  mutationOutput input.state.body input.state.headers stale input.state.signer

def maxWrongKeyContextLength : Nat := 4096

def contextParameter : Except OperatorError Bytes :=
  match input.parameter "context" with
  | some (.text context) =>
    if 1 ≤ context.length ∧ context.length ≤ maxWrongKeyContextLength ∧
        (utf8 context).length ≤ maxWrongKeyContextLength then .ok (utf8 context)
    else input.invalid "MUT_WRONG_KEY_CONTEXT_INVALID"
      "The wrong-key derivation context is invalid."
  | _ => input.invalid "MUT_WRONG_KEY_CONTEXT_INVALID"
      "The wrong-key derivation context is invalid."

/-- `WrongSigningKeyV1.apply`. -/
def wrongSigningKeyV1 (wrongKeySigner : σ → Bytes → Option σ) :
    Except OperatorError (MutationOutput σ) := do
  signatureParameters input ["context"]
  let context ← contextParameter input
  let signer ← requireSigner input "MUT_WRONG_KEY_SIGNER_REQUIRED"
    "wrong-signing-key-v1 requires a selected signer."
  match wrongKeySigner signer context with
  | none =>
    input.notApplicable "MUT_WRONG_KEY_SIGNER_UNSUPPORTED"
      "The selected signer cannot derive a deterministic wrong test key."
  | some replacement => return { input.state with signer := some replacement }

/-- `_owned_header_names`. -/
def ownedHeaderNames (signers : SignerProtocol σ) : Except OperatorError (List String) := do
  let signer ← requireSigner input "MUT_SIGNATURE_SIGNER_REQUIRED"
    "The signature-header mutation requires a selected signer."
  return signers.ownedHeaders signer

/-- `MissingSignatureV1.apply`. -/
def missingSignatureV1 (signers : SignerProtocol σ) : Except OperatorError (MutationOutput σ) := do
  signatureParameters input []
  let owned ← ownedHeaderNames input signers
  mutationOutput input.state.body (input.state.headers.filter fun h => h.name ∉ owned)
    input.state.signingTimeNs input.state.signer

/-- `_malformed_value` over the catalog of cases. -/
def malformedValues : List (String × String) :=
  [("invalid-encoding", "v1=!"), ("missing-component", "v1"), ("invalid-delimiter", "v1:00"),
    ("duplicate-component", "v1=00,v1=11")]

def malformedCase : Option Json → Option String
  | some (.text case) => malformedValues.lookup case
  | _ => none

/-- Every owned header with the value: those that are there in their place, the others after them
in the order of their names. -/
def replaceOwned (owned : List String) (value : String) (headers : List SignatureHeader) :
    List SignatureHeader :=
  headers.map (fun h => if h.name ∈ owned then ⟨h.name, value⟩ else h) ++
    ((owned.dedup.filter fun name => name ∉ headers.map SignatureHeader.name).insertionSort
      (· ≤ ·)).map fun name => ⟨name, value⟩

/-- `MalformedSignatureV1.apply`. -/
def malformedSignatureV1 (signers : SignerProtocol σ) :
    Except OperatorError (MutationOutput σ) := do
  signatureParameters input ["case"]
  match malformedCase (input.parameter "case") with
  | none =>
    input.invalid "MUT_MALFORMED_SIGNATURE_CASE_INVALID"
      "The malformed-signature catalog case is unknown."
  | some value =>
    let owned ← ownedHeaderNames input signers
    mutationOutput input.state.body (replaceOwned owned value input.state.headers)
      input.state.signingTimeNs input.state.signer

end Operators

section Outputs

variable {σ : Type} {input : MutationInput σ} {output : MutationOutput σ}
  {signers : SignerProtocol σ}

theorem requireSigner_ok {code message : String} {signer : σ}
    (h : requireSigner input code message = .ok signer) : input.state.signer = some signer := by
  unfold requireSigner at h
  split at h
  · cases h
  · rename_i found hfound
    cases h
    exact hfound

theorem wrongSigningKeyV1_ok {wrongKeySigner : σ → Bytes → Option σ}
    (h : wrongSigningKeyV1 input wrongKeySigner = .ok output) :
    ∃ context signer replacement, input.parameter "context" = some (.text context) ∧
      input.state.signer = some signer ∧
      wrongKeySigner signer (utf8 context) = some replacement ∧
      output = { input.state with signer := some replacement } := by
  obtain ⟨_, -, h⟩ := bind_ok h
  obtain ⟨context, hcontext, h⟩ := bind_ok h
  obtain ⟨signer, hsigner, h⟩ := bind_ok h
  unfold contextParameter at hcontext
  split at hcontext
  · rename_i text htext
    split at hcontext
    · cases hcontext
      split at h
      · cases h
      · rename_i replacement hreplacement
        exact ⟨text, signer, replacement, htext, requireSigner_ok hsigner, hreplacement,
          (pure_ok h).symm⟩
    · cases hcontext
  · cases hcontext

theorem ownedHeaderNames_ok {owned : List String} (h : ownedHeaderNames input signers = .ok owned) :
    ∃ signer, input.state.signer = some signer ∧ owned = signers.ownedHeaders signer := by
  obtain ⟨signer, hsigner, h⟩ := bind_ok h
  exact ⟨signer, requireSigner_ok hsigner, (pure_ok h).symm⟩

theorem missingSignatureV1_ok (h : missingSignatureV1 input signers = .ok output) :
    ∃ signer, input.state.signer = some signer ∧ output.body = input.state.body ∧
      output.headers =
        input.state.headers.filter fun h => h.name ∉ signers.ownedHeaders signer := by
  obtain ⟨_, -, h⟩ := bind_ok h
  obtain ⟨owned, howned, h⟩ := bind_ok h
  obtain ⟨signer, hsigner, rfl⟩ := ownedHeaderNames_ok howned
  obtain ⟨hbody, hheaders, -⟩ := mutationOutput_ok h
  exact ⟨signer, hsigner, hbody, hheaders⟩

theorem malformedCase_mem {parameter : Option Json} {value : String}
    (h : malformedCase parameter = some value) : value ∈ malformedValues.map Prod.snd := by
  unfold malformedCase at h
  split at h
  · rename_i case
    rw [List.lookup_eq_some_iff] at h
    obtain ⟨before, after, hsplit, -⟩ := h
    rw [hsplit]
    simp
  · cases h

theorem malformedSignatureV1_ok (h : malformedSignatureV1 input signers = .ok output) :
    ∃ signer, ∃ value ∈ malformedValues.map Prod.snd, input.state.signer = some signer ∧
      output.body = input.state.body ∧
      output.headers = replaceOwned (signers.ownedHeaders signer) value input.state.headers := by
  obtain ⟨_, -, h⟩ := bind_ok h
  split at h
  · cases h
  · rename_i value hvalue
    obtain ⟨owned, howned, h⟩ := bind_ok h
    obtain ⟨signer, hsigner, rfl⟩ := ownedHeaderNames_ok howned
    obtain ⟨hbody, hheaders, -⟩ := mutationOutput_ok h
    exact ⟨signer, value, malformedCase_mem hvalue, hsigner, hbody, hheaders⟩

end Outputs

section WrongKeys

variable (sha : Sha256Hash)

def secretFingerprintDomainSeparator : Bytes := utf8 "secret-fingerprint-v1" ++ [0]

def secretFingerprint (material : Bytes) : String :=
  sha.text (secretFingerprintDomainSeparator ++ material)

def wrongKeyDomain : Bytes := utf8 "wrch-wrong-signing-key-v1" ++ [0]

def wrongKey (context : Bytes) (index : Nat) : Bytes :=
  sha.digest (wrongKeyDomain ++ toBytesBig 4 index ++ context)

/-- A derived key as the secret of a generic or a Stripe signer. -/
def hexSecret (key : Bytes) : Bytes := utf8 (String.ofList (toHex key))

/-- A derived key as the secret of a Standard Webhooks signer. -/
def webhookSecret (key : Bytes) : Bytes := utf8 (String.ofList ("whsec_".toList ++ toBase64 key))

def wrongKeys (context : Bytes) (count : Nat) : List Bytes :=
  (List.range count).map (wrongKey sha context)

theorem length_wrongKeys (context : Bytes) (count : Nat) :
    (wrongKeys sha context count).length = count := by
  simp [wrongKeys]

theorem wrongSecrets_count {secrets : List Bytes} (encode : Bytes → Bytes) (context : Bytes)
    (h : secrets ≠ [] ∧ secrets.length ≤ maxSigningSecrets) :
    (wrongKeys sha context secrets.length).map encode ≠ [] ∧
      ((wrongKeys sha context secrets.length).map encode).length ≤ maxSigningSecrets := by
  rw [List.length_map, length_wrongKeys]
  refine ⟨?_, h.2⟩
  rw [ne_eq, ← List.length_eq_zero_iff, List.length_map, length_wrongKeys, List.length_eq_zero_iff]
  exact h.1

namespace BuiltinSigner

def adapterId : BuiltinSigner → String
  | .generic _ => "generic-hmac-sha256"
  | .stripe _ => "stripe-v1"
  | .standard _ => "standard-webhooks-hmac"

def ownedHeaders : BuiltinSigner → List String
  | .generic signer => [signer.settings.headerName]
  | .stripe signer => [signer.headerName]
  | .standard signer => [webhookIdHeader, webhookTimestampHeader, signer.headerName]

def secrets : BuiltinSigner → List Bytes
  | .generic signer => [signer.secret]
  | .stripe signer => signer.secrets
  | .standard signer => signer.secrets

/-- `_wrong_key_signer` before its check. -/
def withWrongKeys (context : Bytes) : BuiltinSigner → BuiltinSigner
  | .generic signer => .generic { signer with secret := hexSecret (wrongKey sha context 0) }
  | .stripe signer => .stripe { signer with
      secrets := (wrongKeys sha context signer.secrets.length).map hexSecret
      secrets_count := wrongSecrets_count sha hexSecret context signer.secrets_count }
  | .standard signer => .standard { signer with
      secrets := (wrongKeys sha context signer.secrets.length).map webhookSecret
      secrets_count := wrongSecrets_count sha webhookSecret context signer.secrets_count }

def fingerprints (signer : BuiltinSigner) : List String :=
  signer.secrets.map (secretFingerprint sha)

/-- `_require_distinct_wrong_keys` does not raise. -/
def DistinctWrongKeys (original replacement : BuiltinSigner) : Prop :=
  (replacement.fingerprints sha).Nodup ∧
    ∀ f ∈ original.fingerprints sha, f ∉ replacement.fingerprints sha

instance (original replacement : BuiltinSigner) :
    Decidable (original.DistinctWrongKeys sha replacement) :=
  inferInstanceAs (Decidable (_ ∧ _))

/-- A signing result out of the headers that a signer has made. -/
def signingResult (signer : BuiltinSigner) (input : SigningInput)
    (headers : List SignatureHeader) : Except SignerError SigningResult :=
  if valid : ∀ h ∈ headers, h.Valid then
    if count : 1 ≤ headers.length ∧ headers.length ≤ maxSignerHeaders then
      if nodup : (headers.map SignatureHeader.name).Nodup then
        .ok ⟨headers, ⟨signer.adapterId, "v1", input.logicalTimeNs, sha.text input.body⟩, valid,
          count, nodup⟩
      else .error ⟨.value, "signing result header names must be unique case-insensitively"⟩
    else .error ⟨.value, "signing result must contain between 1 and 16 headers"⟩
  else .error ⟨.value, "header name must be a bounded HTTP token"⟩

end BuiltinSigner

/-- A signer object of an execution: the contexts of the wrong keys it was derived with, the last
one first. The selected signer has none. -/
abbrev SignerRef := List Bytes

/-- The signer that an object is. -/
def signerOf (selected : BuiltinSigner) : SignerRef → BuiltinSigner
  | [] => selected
  | context :: ref => (signerOf selected ref).withWrongKeys sha context

/-- The built-in signers around a selected one. -/
def builtinFamily (selected : BuiltinSigner) : SignerFamily SignerRef where
  adapterId := fun ref => (signerOf sha selected ref).adapterId
  adapterVersion := fun _ => "v1"
  ownedHeaders := fun ref => (signerOf sha selected ref).ownedHeaders
  sign := fun ref input => do
    let headers ← (signerOf sha selected ref).sign input
    (signerOf sha selected ref).signingResult sha input headers
  wrongKeySigner := fun ref context =>
    if (signerOf sha selected ref).DistinctWrongKeys sha (signerOf sha selected (context :: ref))
    then some (context :: ref) else none

end WrongKeys

end WebhookConformance
