import WebhookConformance.Signatures

/-! The generic HMAC-SHA256 signer: signing-input templates and their registry, its settings and
its one header. -/
namespace WebhookConformance

open Checked ByteText

section Templates

inductive SigningInputToken where
  | timestamp
  | eventId
  | body
  deriving DecidableEq, Repr

inductive TimestampEncoding where
  | asciiDecimalNanoseconds
  | asciiDecimalSecondsFloor
  deriving DecidableEq, Repr

inductive TemplateFraming where
  | exactBodyV1
  | lengthPrefixedV1
  deriving DecidableEq, Repr

inductive TemplateComponent where
  | literal (bytes : Bytes)
  | token (token : SigningInputToken)
  deriving DecidableEq, Repr

structure CanonicalSigningTemplate where
  version : String
  components : List TemplateComponent
  framing : TemplateFraming
  deriving DecidableEq, Repr

def lengthPrefixedTemplateDomain : Bytes := utf8 "wrch-signing-input-frame-v1" ++ [0]

def encodeTimestamp (value : Int) : TimestampEncoding → Bytes
  | .asciiDecimalNanoseconds => utf8 (toString value)
  | .asciiDecimalSecondsFloor => utf8 (toString (value / nanosecondsPerSecond))

/-- The tag and the value of one component. -/
def TemplateComponent.frame (encoding : TimestampEncoding) (input : SigningInput) :
    TemplateComponent → UInt8 × Bytes
  | .literal bytes => (0, bytes)
  | .token .timestamp => (1, encodeTimestamp input.logicalTimeNs encoding)
  | .token .eventId => (2, utf8 input.eventId)
  | .token .body => (3, input.body)

def framed (frame : UInt8 × Bytes) : Bytes :=
  frame.1 :: (toBytesBig 8 frame.2.length ++ frame.2)

namespace CanonicalSigningTemplate

variable (template : CanonicalSigningTemplate) (encoding : TimestampEncoding)
  (input : SigningInput)

/-- Domain, version, number of components, and each component with its tag and its length. -/
def framedMessage : Bytes :=
  lengthPrefixedTemplateDomain ++ toBytesBig 2 (utf8 template.version).length ++
    utf8 template.version ++ toBytesBig 1 template.components.length ++
    template.components.flatMap fun component => framed (component.frame encoding input)

def render : Except SignerError Bytes :=
  match template.framing with
  | .exactBodyV1 => .ok input.body
  | .lengthPrefixedV1 => do
    require ((template.framedMessage encoding input).length ≤ maxSigningInputBytes)
      ⟨.value, "rendered signing input exceeds the bounded byte limit"⟩
    return template.framedMessage encoding input

end CanonicalSigningTemplate

structure SigningTemplateRegistration where
  template : CanonicalSigningTemplate
  timestampEncoding : TimestampEncoding
  deriving DecidableEq, Repr

def genericHmacSha256Template : CanonicalSigningTemplate :=
  ⟨"generic-hmac-sha256-body-v1", [.token .body], .exactBodyV1⟩

def framedComponents : List TemplateComponent :=
  [.token .timestamp, .token .eventId, .token .body]

def genericHmacSha256FramedNsTemplate : CanonicalSigningTemplate :=
  ⟨"generic-hmac-sha256-framed-ns-v1", framedComponents, .lengthPrefixedV1⟩

def genericHmacSha256FramedSecondsTemplate : CanonicalSigningTemplate :=
  ⟨"generic-hmac-sha256-framed-seconds-v1", framedComponents, .lengthPrefixedV1⟩

def genericHmacSha256TemplateRegistry : List SigningTemplateRegistration :=
  [⟨genericHmacSha256Template, .asciiDecimalNanoseconds⟩,
   ⟨genericHmacSha256FramedNsTemplate, .asciiDecimalNanoseconds⟩,
   ⟨genericHmacSha256FramedSecondsTemplate, .asciiDecimalSecondsFloor⟩]

end Templates

inductive SignatureEncoding where
  | hex
  | base64
  deriving DecidableEq, Repr

def maxSignaturePrefixLength : Nat := 128
def sha256HexCharacters : Nat := 2 * digestSize
def sha256Base64Characters : Nat := 44

def encodeDigest (digest : Bytes) : SignatureEncoding → List Char
  | .hex => toHex digest
  | .base64 => toBase64 digest

/-- The part of `_decode_header_value` after the prefix. -/
def decodeDigest (encoded : List Char) : SignatureEncoding → Option Bytes
  | .hex => if encoded.length = sha256HexCharacters then fromHex encoded else none
  | .base64 =>
    if encoded.length = sha256Base64Characters then
      (fromBase64 encoded).filter fun decoded =>
        decoded.length = digestSize ∧ toBase64 decoded = encoded
    else none

/-- The proofs are the checks of `GenericHmacSha256Settings.__post_init__`. -/
structure GenericHmacSha256Settings where
  headerName : String
  leading : List Char
  template : CanonicalSigningTemplate
  timestampEncoding : TimestampEncoding
  outputEncoding : SignatureEncoding
  leading_length : leading.length ≤ maxSignaturePrefixLength
  leading_visible : ∀ c ∈ leading, 33 ≤ c.toNat ∧ c.toNat < 127
  registered : ⟨template, timestampEncoding⟩ ∈ genericHmacSha256TemplateRegistry
  deriving DecidableEq

/-- `_decode_header_value`. -/
def GenericHmacSha256Settings.decodeHeaderValue (settings : GenericHmacSha256Settings)
    (value : String) : Option Bytes :=
  if settings.leading.isPrefixOf value.toList then
    decodeDigest (value.toList.drop settings.leading.length) settings.outputEncoding
  else none

structure GenericHmacSha256Signer where
  hmac : HmacSha256
  settings : GenericHmacSha256Settings
  secret : Bytes

namespace GenericHmacSha256Signer

variable (signer : GenericHmacSha256Signer)

def canonicalMessage (input : SigningInput) : Except SignerError Bytes :=
  signer.settings.template.render signer.settings.timestampEncoding input

def headerValue (digest : Bytes) : String :=
  String.ofList (signer.settings.leading ++ encodeDigest digest signer.settings.outputEncoding)

def sign (input : SigningInput) : Except SignerError (List SignatureHeader) := do
  let canonical ← signer.canonicalMessage input
  let header ← signatureHeader signer.settings.headerName
    (signer.headerValue (signer.hmac.digest signer.secret canonical))
  return [header]

def verify (input : SigningInput) (headers : List SignatureHeader) :
    Except SignerError VerificationResult := do
  let canonical ← signer.canonicalMessage input
  let matching ← matchingHeaders headers signer.settings.headerName
  match matching with
  | [] => return .refused .missingHeader VerificationReason.missingHeader_ne
  | [header] =>
    match signer.settings.decodeHeaderValue header.value with
    | none => return .refused .malformedHeader VerificationReason.malformedHeader_ne
    | some supplied =>
      return compareDigests [signer.hmac.digest signer.secret canonical] [supplied]
  | _ => return .refused .duplicateHeader VerificationReason.duplicateHeader_ne

end GenericHmacSha256Signer

end WebhookConformance
