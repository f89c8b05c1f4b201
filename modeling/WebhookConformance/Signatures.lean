import WebhookConformance.Generator
import WebhookConformance.Library.ByteText
import WebhookConformance.Library.Checked

/-! The Stripe v1 and Standard Webhooks signers: canonical messages, signature headers and their
verification. -/
namespace WebhookConformance

open Checked ByteText

def maxSigningBodyBytes : Nat := 16777216
def maxSigningInputBytes : Nat := maxSigningBodyBytes + 8192
def maxEventIdBytes : Nat := 4096
def maxSignerHeaders : Nat := 16
def maxHeaderValueLength : Nat := 8192
def maxSigningSecrets : Nat := 8
def maxStripeHeaderComponents : Nat := 32
def maxSignatureComponents : Nat := 16
def nanosecondsPerSecond : Int := 1000000000

/-- The proofs are the checks of `SigningInput.__post_init__`. -/
structure SigningInput where
  body : Bytes
  eventId : String
  logicalTimeNs : Int
  body_length : body.length ≤ maxSigningBodyBytes
  eventId_length : (utf8 eventId).length ≤ maxEventIdBytes
  time_range : -(int64Max + 1 : Int) ≤ logicalTimeNs ∧ logicalTimeNs ≤ int64Max

def SigningInput.seconds (input : SigningInput) : Int := input.logicalTimeNs / nanosecondsPerSecond

inductive SignerErrorKind where
  | value
  | signing
  deriving DecidableEq, Repr

structure SignerError where
  kind : SignerErrorKind
  message : String
  deriving DecidableEq, Repr

def SignerError.signing : SignerError := ⟨.signing, "The signer could not produce an HMAC digest."⟩

structure SignatureHeader where
  name : String
  value : String
  deriving DecidableEq, Repr

/-- The checks of a header's value; its name is one of the signer's own. -/
def signatureHeader (name value : String) : Except SignerError SignatureHeader := do
  require (value.toList.length ≤ maxHeaderValueLength)
    ⟨.value, "header value exceeds the bounded value limit"⟩
  require (∀ c ∈ value.toList, c.toNat < 128)
    ⟨.value, "signature header value must contain ASCII characters"⟩
  require (∀ c ∈ value.toList, 32 ≤ c.toNat ∧ c.toNat ≠ 127)
    ⟨.value, "signature header value must not contain control characters"⟩
  return ⟨name, value⟩

inductive VerificationReason where
  | valid
  | missingHeader
  | duplicateHeader
  | malformedHeader
  | signatureMismatch
  deriving DecidableEq, Repr

/-- The proof is the check that the flag and the reason agree. -/
structure VerificationResult where
  valid : Bool
  reason : VerificationReason
  valid_iff : valid = true ↔ reason = .valid
  deriving DecidableEq, Repr

def VerificationResult.refused (reason : VerificationReason) (h : reason ≠ .valid) :
    VerificationResult :=
  ⟨false, reason, iff_of_false Bool.false_ne_true h⟩

theorem VerificationReason.missingHeader_ne : VerificationReason.missingHeader ≠ .valid := by decide

theorem VerificationReason.duplicateHeader_ne : VerificationReason.duplicateHeader ≠ .valid := by
  decide

theorem VerificationReason.malformedHeader_ne : VerificationReason.malformedHeader ≠ .valid := by
  decide

/-- `hmac.digest(key, message, "sha256")`. -/
structure HmacSha256 where
  digest : Bytes → Bytes → Bytes
  digest_length : ∀ key message, (digest key message).length = digestSize

def matchingHeaders (headers : List SignatureHeader) (name : String) :
    Except SignerError (List SignatureHeader) := do
  require (headers.length ≤ maxSignerHeaders)
    ⟨.value, "verification headers exceed the bounded signer-header limit"⟩
  return headers.filter (·.name = name)

/-- Every supplied digest is compared with every expected one. -/
def compareDigests (expected supplied : List Bytes) : VerificationResult :=
  if h : expected.any (fun e => supplied.any fun s => e = s) = true then
    ⟨true, .valid, iff_of_true rfl rfl⟩
  else .refused .signatureMismatch (by decide)

section Integers

/-- `[1-9][0-9]{0,18}`. -/
def canonicalDigits : List Char → Bool
  | [] => false
  | d :: ds => d.isDigit && d != '0' && ds.all Char.isDigit && decide (ds.length ≤ 18)

def readDigits (digits : List Char) : Nat :=
  digits.foldl (fun n c => 10 * n + (c.toNat - '0'.toNat)) 0

def matchInteger : List Char → Option Int
  | ['0'] => some 0
  | '-' :: ds => if canonicalDigits ds then some (-(readDigits ds : Int)) else none
  | ds => if canonicalDigits ds then some (readDigits ds) else none

/-- The canonical text of an integer, as `_CANONICAL_INTEGER` and `str(int(value)) == value` take
it. -/
def canonicalInteger (text : List Char) : Option Int :=
  (matchInteger text).filter fun n => (toString n).toList = text

end Integers

section Stripe

/-- The message under a Stripe signature. -/
def stripeMessage (timestamp : Int) (body : Bytes) : Bytes :=
  utf8 (toString timestamp) ++ utf8 "." ++ body

def stripeCanonicalMessage (timestamp : Int) (body : Bytes) : Except SignerError Bytes := do
  require ((stripeMessage timestamp body).length ≤ maxSigningInputBytes)
    ⟨.value, "Stripe signing input exceeds the bounded byte limit"⟩
  return stripeMessage timestamp body

structure StripeV1Signer where
  hmac : HmacSha256
  headerName : String
  secrets : List Bytes
  secrets_count : secrets ≠ [] ∧ secrets.length ≤ maxSigningSecrets

namespace StripeV1Signer

variable (signer : StripeV1Signer)

def digests (canonical : Bytes) : List Bytes := signer.secrets.map (signer.hmac.digest · canonical)

def component (digest : Bytes) : List Char := "v1=".toList ++ toHex digest

/-- The value of the header: the timestamp and the signatures. -/
def headerValue (timestamp : Int) (signatures : List (List Char)) : String :=
  String.ofList ([','].intercalate (("t=" ++ toString timestamp).toList :: signatures))

def sign (input : SigningInput) : Except SignerError (List SignatureHeader) := do
  let canonical ← stripeCanonicalMessage input.seconds input.body
  let value := headerValue input.seconds ((signer.digests canonical).map component)
  require (value.toList.length ≤ maxHeaderValueLength) .signing
  let header ← signatureHeader signer.headerName value
  return [header]

/-- `[A-Za-z][A-Za-z0-9_-]{0,31}`. -/
def isScheme : List Char → Bool
  | [] => false
  | c :: cs => c.isAlpha && cs.all (fun c => c.isAlphanum || c = '_' || c = '-') &&
      decide (cs.length ≤ 31)

/-- One component of the header: a timestamp, a `v1` signature, or one of another scheme. -/
def readComponent (found : List Int × List Bytes) (component : List Char) :
    Option (List Int × List Bytes) :=
  match splitOn '=' component with
  | [scheme, encoded] =>
    if isScheme scheme = false ∨ encoded = [] then none
    else if scheme = ['t'] then do
      let timestamp ← canonicalInteger encoded
      return (found.1 ++ [timestamp], found.2)
    else if scheme = ['v', '1'] then
      if maxSigningSecrets ≤ found.2.length ∨ encoded.length ≠ 2 * digestSize then none
      else do
        let signature ← fromHex encoded
        return (found.1, found.2 ++ [signature])
    else if 2 * digestSize < encoded.length ∨ ∃ c ∈ encoded, c.toNat < 33 ∨ c.toNat = 127 then none
    else some found
  | _ => none

def parseHeader (value : String) : Option (Int × List Bytes) := do
  let components := splitOn ',' value.toList
  guard (value.toList ≠ [] ∧ 2 ≤ components.length ∧ components.length ≤ maxStripeHeaderComponents)
  let found ← components.foldlM readComponent ([], [])
  match found with
  | ([timestamp], signature :: signatures) => some (timestamp, signature :: signatures)
  | _ => none

def verify (input : SigningInput) (headers : List SignatureHeader) :
    Except SignerError VerificationResult := do
  let _ ← stripeCanonicalMessage input.seconds input.body
  let matching ← matchingHeaders headers signer.headerName
  match matching with
  | [] => return .refused .missingHeader VerificationReason.missingHeader_ne
  | [header] =>
    match parseHeader header.value with
    | none => return .refused .malformedHeader VerificationReason.malformedHeader_ne
    | some (timestamp, supplied) => do
      let canonical ← stripeCanonicalMessage timestamp input.body
      return compareDigests (signer.digests canonical) supplied
  | _ => return .refused .duplicateHeader VerificationReason.duplicateHeader_ne

end StripeV1Signer

end Stripe

section StandardWebhooks

def webhookIdHeader : String := "webhook-id"
def webhookTimestampHeader : String := "webhook-timestamp"

/-- The message under a Standard Webhooks signature. -/
def standardMessage (eventId : String) (timestamp : Int) (body : Bytes) : Bytes :=
  utf8 eventId ++ utf8 "." ++ utf8 (toString timestamp) ++ utf8 "." ++ body

def standardCanonicalMessage (eventId : String) (timestamp : Int) (body : Bytes) :
    Except SignerError Bytes := do
  require (eventId ≠ "") ⟨.value, "webhook ID must be a non-empty string"⟩
  require (∀ b ∈ utf8 eventId, 32 ≤ b.toNat ∧ b.toNat ≠ 127)
    ⟨.value, "webhook ID contains an invalid character"⟩
  require ((standardMessage eventId timestamp body).length ≤ maxSigningInputBytes)
    ⟨.value, "Standard Webhooks signing input exceeds the bounded byte limit"⟩
  return standardMessage eventId timestamp body

def secretText (bytes : Bytes) : List Char := bytes.map fun b => Char.ofNat b.toNat

/-- `_decode_secret`. -/
def decodeSecret (material : Bytes) : Option Bytes :=
  let text := secretText material
  let encoded := if "whsec_".toList.isPrefixOf text then text.drop 6 else text
  (fromBase64 encoded).filter fun decoded => decoded ≠ [] ∧ toBase64 decoded = encoded

/-- The proofs are the checks of the settings and of the signer's constructor. -/
structure StandardWebhooksSigner where
  hmac : HmacSha256
  headerName : String
  secrets : List Bytes
  headerName_free : headerName ≠ webhookIdHeader ∧ headerName ≠ webhookTimestampHeader
  secrets_count : secrets ≠ [] ∧ secrets.length ≤ maxSigningSecrets

namespace StandardWebhooksSigner

variable (signer : StandardWebhooksSigner)

def digests (canonical : Bytes) : Except SignerError (List Bytes) :=
  signer.secrets.mapM fun material =>
    match decodeSecret material with
    | none => .error .signing
    | some key => .ok (signer.hmac.digest key canonical)

def component (digest : Bytes) : List Char := "v1,".toList ++ toBase64 digest

def sign (input : SigningInput) : Except SignerError (List SignatureHeader) := do
  let canonical ← standardCanonicalMessage input.eventId input.seconds input.body
  let digests ← signer.digests canonical
  let signatures := String.ofList ([' '].intercalate (digests.map component))
  require (signatures.toList.length ≤ maxHeaderValueLength) .signing
  let id ← signatureHeader webhookIdHeader input.eventId
  let timestamp ← signatureHeader webhookTimestampHeader (toString input.seconds)
  let signature ← signatureHeader signer.headerName signatures
  return [id, timestamp, signature]

/-- `[A-Za-z0-9+/]{43}=`. -/
def isSignature (encoded : List Char) : Bool :=
  decide (encoded.length = 44) && encoded.dropLast.all (base64Alphabet.contains ·) &&
    encoded.getLast? == some '='

def readSignature : List Char → Option Bytes
  | 'v' :: '1' :: ',' :: encoded =>
    if isSignature encoded then (fromBase64 encoded).filter fun d => d.length = digestSize else none
  | _ => none

def parseSignatures (value : String) : Option (List Bytes) := do
  let components := splitOn ' ' value.toList
  guard (value.toList ≠ [] ∧ components.length ≤ maxSignatureComponents)
  components.mapM readSignature

/-- The verdict on three present headers. -/
def verifyHeaders (input : SigningInput) (eventId timestamp signatures : String) :
    Except SignerError VerificationResult :=
  match canonicalInteger timestamp.toList, parseSignatures signatures with
  | some timestamp, some supplied =>
    match standardCanonicalMessage eventId timestamp input.body with
    | .error _ => .ok (.refused .malformedHeader VerificationReason.malformedHeader_ne)
    | .ok canonical => do
      let expected ← signer.digests canonical
      return compareDigests expected supplied
  | _, _ => .ok (.refused .malformedHeader VerificationReason.malformedHeader_ne)

def verify (input : SigningInput) (headers : List SignatureHeader) :
    Except SignerError VerificationResult := do
  let _ ← standardCanonicalMessage input.eventId input.seconds input.body
  let ids ← matchingHeaders headers webhookIdHeader
  let timestamps ← matchingHeaders headers webhookTimestampHeader
  let signatures ← matchingHeaders headers signer.headerName
  match ids, timestamps, signatures with
  | [id], [timestamp], [signature] =>
    signer.verifyHeaders input id.value timestamp.value signature.value
  | _, _, _ =>
    if ids = [] ∨ timestamps = [] ∨ signatures = [] then return .refused .missingHeader VerificationReason.missingHeader_ne
    else return .refused .duplicateHeader VerificationReason.duplicateHeader_ne

end StandardWebhooksSigner

end StandardWebhooks

end WebhookConformance
