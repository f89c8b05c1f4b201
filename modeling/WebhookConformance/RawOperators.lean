import WebhookConformance.MutationPipeline

/-! The raw-body and content-header operators (`mutations/raw_ops.py`) and what the three families
of operators share. -/
namespace WebhookConformance

open Checked

def operatorVersion : Nat := 1

section Shared

variable {σ : Type} (input : MutationInput σ)

def MutationInput.invalid {α : Type} (code message : String) : Except OperatorError α :=
  .error (.mutation (input.realized.invalidParameter code message))

def MutationInput.notApplicable {α : Type} (code message : String) : Except OperatorError α :=
  .error (.mutation (input.realized.notApplicable code message))

/-- A realized parameter. -/
def MutationInput.parameter (name : String) : Option Json := input.realized.parameters.lookup name

/-- `_parameters`: the required names are there, and no others but the optional ones. -/
def checkParameters (code message : String) (required optional : List String) :
    Except OperatorError Unit :=
  require ((∀ m ∈ input.realized.parameters, m.1 ∈ required ++ optional) ∧
      ∀ name ∈ required, (input.parameter name).isSome = true)
    (.mutation (input.realized.invalidParameter code message))

/-- A new body in the place of the old one. -/
def MutationInput.withBody (body : Bytes) : MutationOutput σ := { input.state with body := body }

/-- `MutationOutput(...)`: a `ValueError` of its checks leaves the operator. -/
def mutationOutput (body : Bytes) (headers : List SignatureHeader) (signingTimeNs : Int)
    (signer : Option σ) : Except OperatorError (MutationOutput σ) :=
  (mutationState body headers signingTimeNs signer).mapError fun _ => .other

theorem mutationOutput_ok {body : Bytes} {headers : List SignatureHeader} {time : Int}
    {signer : Option σ} {output : MutationOutput σ}
    (h : mutationOutput body headers time signer = .ok output) :
    output.body = body ∧ output.headers = headers ∧ output.signingTimeNs = time ∧
      output.signer = signer :=
  mutationState_ok (mapError_ok_iff.1 h)

end Shared

section Operators

variable {σ : Type} (input : MutationInput σ)

def rawParameters (required : List String) : Except OperatorError Unit :=
  checkParameters input "MUT_RAW_PARAMETERS_INVALID"
    "The realized raw mutation parameters do not match the operator contract." required []

/-- `_integer`. -/
def integerParameter (name code : String) (minimum maximum : Int) : Except OperatorError Int :=
  match input.parameter name with
  | some (.number n) =>
    if minimum ≤ n ∧ n ≤ maximum then .ok n
    else input.invalid code "The realized integer parameter is outside its bounded range."
  | _ => input.invalid code "The realized integer parameter is outside its bounded range."

/-- The texts that `_text` takes. -/
def isHeaderText (text : String) : Bool :=
  decide (1 ≤ text.length) && decide (text.length ≤ 255) &&
    text.toList.all fun c => decide (32 ≤ c.toNat) && decide (c.toNat < 127)

/-- `_text`. -/
def textParameter (name code : String) : Except OperatorError String :=
  match input.parameter name with
  | some (.text text) =>
    if isHeaderText text then .ok text
    else input.invalid code "The realized text parameter is invalid."
  | _ => input.invalid code "The realized text parameter is invalid."

/-- `TruncateBytesV1.apply`. -/
def truncateBytesV1 : Except OperatorError (MutationOutput σ) := do
  rawParameters input ["length"]
  let retained ← integerParameter input "length" "MUT_TRUNCATE_LENGTH_INVALID" 0
    input.state.body.length
  return input.withBody (input.state.body.take retained.toNat)

/-- `_INVALID_JSON_BYTES`. -/
def invalidJsonBytes : List (String × Bytes) :=
  [("truncated-object", utf8 "\x7b\"_\":"), ("bad-escape", utf8 "\"\\x\""),
    ("trailing-comma", utf8 "\x7b\"_\":0,\x7d")]

/-- The bytes of a catalog case. -/
def invalidJsonCase : Option Json → Option Bytes
  | some (.text strategy) => invalidJsonBytes.lookup strategy
  | _ => none

/-- `InvalidJsonV1.apply`. -/
def invalidJsonV1 : Except OperatorError (MutationOutput σ) := do
  rawParameters input ["strategy"]
  match invalidJsonCase (input.parameter "strategy") with
  | none => input.invalid "MUT_INVALID_JSON_CASE_INVALID" "The invalid-json catalog case is unknown."
  | some bytes =>
    require (isJsonMediaType input.mediaType = true)
      (.mutation (input.realized.notApplicable "MUT_INVALID_JSON_MEDIA_TYPE"
        "invalid-json-v1 requires a declared JSON media type."))
    return input.withBody bytes

def contentTypeHeader : String := "content-type"

/-- `ContentTypeMismatchV1.apply`. -/
def contentTypeMismatchV1 : Except OperatorError (MutationOutput σ) := do
  rawParameters input ["media_type"]
  let mediaType ← textParameter input "media_type" "MUT_CONTENT_TYPE_INVALID"
  let headers := input.state.headers.filter fun h => h.name ≠ contentTypeHeader
  mutationOutput input.state.body (headers ++ [⟨contentTypeHeader, mediaType⟩])
    input.state.signingTimeNs input.state.signer

/-- `AlterAfterSigningV1.apply`. -/
def alterAfterSigningV1 : Except OperatorError (MutationOutput σ) := do
  rawParameters input ["offset", "xor"]
  let body := input.state.body
  let offset ← integerParameter input "offset" "MUT_ALTER_OFFSET_INVALID" 0
    (max 0 ((body.length : Int) - 1))
  require (body ≠ []) (.mutation (input.realized.notApplicable "MUT_ALTER_EMPTY_BODY"
    "alter-after-signing-v1 cannot alter an empty body."))
  let xor ← integerParameter input "xor" "MUT_ALTER_XOR_INVALID" 1 255
  return input.withBody (body.modify offset.toNat (· ^^^ UInt8.ofNat xor.toNat))

/-- `OversizedBodyV1.apply`. -/
def oversizedBodyV1 : Except OperatorError (MutationOutput σ) := do
  rawParameters input ["target_bytes", "fill"]
  let target ← integerParameter input "target_bytes" "MUT_OVERSIZED_TARGET_INVALID" 1
    maxSigningBodyBytes
  require (input.parameter "fill" = some (.text "ascii-space"))
    (.mutation (input.realized.invalidParameter "MUT_OVERSIZED_FILL_INVALID"
      "The oversized-body fill strategy is unknown."))
  require ((input.state.body.length : Int) < target)
    (.mutation (input.realized.notApplicable "MUT_OVERSIZED_TARGET_NOT_LARGER"
      "The oversized target must exceed the current body length."))
  return input.withBody
    (input.state.body ++ List.replicate (target.toNat - input.state.body.length) 32)

end Operators

section Outputs

variable {σ : Type} {input : MutationInput σ} {output : MutationOutput σ}

theorem integerParameter_ok {name code : String} {minimum maximum n : Int}
    (h : integerParameter input name code minimum maximum = .ok n) :
    input.parameter name = some (.number n) ∧ minimum ≤ n ∧ n ≤ maximum := by
  unfold integerParameter at h
  split at h
  · rename_i value hvalue
    split at h
    · rename_i hrange
      cases h
      exact ⟨hvalue, hrange⟩
    · cases h
  · cases h

/-- A byte that is there is changed. -/
theorem alterAfterSigningV1_ok (h : alterAfterSigningV1 input = .ok output) :
    output.body ≠ input.state.body ∧ output = input.withBody output.body := by
  obtain ⟨_, -, h⟩ := bind_ok h
  obtain ⟨offset, hoffset, h⟩ := bind_ok h
  obtain ⟨_, hbody, h⟩ := bind_ok h
  obtain ⟨xor, hxor, h⟩ := bind_ok h
  cases pure_ok h
  refine ⟨?_, rfl⟩
  obtain ⟨-, hlow, hhigh⟩ := integerParameter_ok hoffset
  obtain ⟨-, hlow', hhigh'⟩ := integerParameter_ok hxor
  have hpos := List.length_pos_iff.2 (require_ok hbody)
  have hlt : offset.toNat < input.state.body.length := by omega
  have hbyte : ∀ b : UInt8, ∀ n < 255, b ^^^ UInt8.ofNat (n + 1) ≠ b := by
    intro b n hn hsame
    have hzero : UInt8.ofNat (n + 1) = 0 := by
      rw [← UInt8.xor_right_inj (c := b), hsame, UInt8.xor_zero]
    have hvalue := congrArg UInt8.toNat hzero
    rw [UInt8.toNat_ofNat'] at hvalue
    change (n + 1) % 256 = 0 at hvalue
    omega
  intro hsame
  have hget := congrArg (fun bytes : Bytes => bytes[offset.toNat]?) hsame
  simp only [MutationInput.withBody, List.getElem?_modify_eq, List.getElem?_eq_getElem hlt,
    Option.map_eq_map, Option.map_some, Option.some.injEq] at hget
  refine hbyte input.state.body[offset.toNat] (xor.toNat - 1) (by omega) ?_
  rwa [show xor.toNat - 1 + 1 = xor.toNat by omega]

end Outputs

end WebhookConformance
