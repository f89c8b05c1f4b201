import WebhookConformance.Addresses

/-! Destination policies and the authorisation of resolved addresses (`network/policy.py`). A
policy and its destination are capabilities: each has its current fields and, in a registry of its
own, the fields it was minted with. -/
namespace WebhookConformance

open InternetAddress ByteText Checked

inductive PolicyErrorCode where
  | invalidHost
  | preflightConfigurationInvalid
  | addressInvalid
  | addressBlocked
  | addressProfileMismatch
  | addressSetInvalid
  deriving DecidableEq, Repr

structure DestinationPolicyError where
  code : PolicyErrorCode
  message : String
  deriving DecidableEq, Repr

inductive TargetProfile where
  | loopback
  | privateAllowlist
  | publicAuthorized
  deriving DecidableEq, Repr

section Hosts

/-- Unicode normalisation, case and the `idna` codec of the standard library. -/
structure HostCodec where
  nfc : String → String
  lower : String → String
  encode : String → Option String
  decode : String → Option String

def maxHostLength : Nat := 253

def invalidHost (message : String) : DestinationPolicyError := ⟨.invalidHost, message⟩

def validateHostText (value : List Char) : Except DestinationPolicyError Unit :=
  require (value ≠ [] ∧ value.length ≤ maxHostLength + 1 ∧ stripSpaces value = value ∧
      value.all (isControl · = false) ∧ ∀ c ∈ "/\\@#?%[]".toList, c ∉ value)
    (invalidHost "destination host is invalid")

def normalizeIpv6Literal (value : List Char) : Except DestinationPolicyError String :=
  match read value with
  | none => .error (invalidHost "destination IPv6 literal is invalid")
  | some parsed => do
    require (parsed.address.version = .v6) (invalidHost "destination host is invalid")
    return String.ofList parsed.write

/-- `(?:[0-9]+|0x[0-9a-f]+)`, whatever the case. -/
def isNumericLabel (label : List Char) : Bool :=
  match label with
  | '0' :: x :: digits =>
    (label.all decimalDigit) ||
      ((x = 'x' || x = 'X') && !digits.isEmpty && digits.all fun c => (hexDigitValue c).isSome)
  | _ => !label.isEmpty && label.all decimalDigit

def isLowerAlphanumeric (c : Char) : Bool := decimalDigit c || decide ('a' ≤ c ∧ c ≤ 'z')

/-- `[a-z0-9](?:[a-z0-9-]{0,61}[a-z0-9])?`. -/
def isAsciiLabel (label : List Char) : Bool :=
  decide (label.length ≤ 63) && label.all (fun c => isLowerAlphanumeric c || c = '-') &&
    label.head?.any isLowerAlphanumeric && label.getLast?.any isLowerAlphanumeric

def asciiLower (s : String) : String := casefold s

def validateIdnaRoundTrip (codec : HostCodec) (source asciiHost : String) :
    Except DestinationPolicyError Unit :=
  match codec.decode asciiHost with
  | none => .error (invalidHost "destination host has invalid IDNA encoding")
  | some decoded =>
    match codec.encode decoded with
    | none => .error (invalidHost "destination host has invalid IDNA encoding")
    | some encoded => do
      require (asciiLower encoded = asciiHost)
        (invalidHost "destination host IDNA encoding is ambiguous")
      require (source.toList.all (·.toNat < 128) ∨ codec.lower decoded = codec.lower source)
        (invalidHost "destination host IDNA mapping is ambiguous")

def normalizeDnsHostname (codec : HostCodec) (candidate : List Char) :
    Except DestinationPolicyError String := do
  let source := String.ofList candidate
  require (∃ label ∈ splitOn '.' candidate, isNumericLabel label = false)
    (invalidHost "ambiguous numeric destination host is forbidden")
  require (codec.nfc source = source) (invalidHost "destination host must use normalized Unicode")
  match codec.encode source with
  | none => .error (invalidHost "destination host has invalid IDNA encoding")
  | some encoded => do
    let asciiHost := asciiLower encoded
    require (asciiHost.toList.length ≤ maxHostLength) (invalidHost "destination host is too long")
    require (∀ label ∈ splitOn '.' asciiHost.toList, isAsciiLabel label)
      (invalidHost "destination host has an invalid label")
    validateIdnaRoundTrip codec source asciiHost
    return asciiHost

def withoutFinalDot (value : List Char) : List Char :=
  if value.getLast? = some '.' then value.dropLast else value

def normalizeHost (codec : HostCodec) (value : String) : Except DestinationPolicyError String := do
  validateHostText value.toList
  if ':' ∈ value.toList then normalizeIpv6Literal value.toList
  else do
    let candidate := withoutFinalDot value.toList
    require (candidate ≠ [] ∧ candidate.getLast? ≠ some '.')
      (invalidHost "destination host is invalid")
    match read candidate with
    | some parsed => do
      require (parsed.address.version = .v4) (invalidHost "destination host is invalid")
      return String.ofList parsed.write
    | none => normalizeDnsHostname codec candidate

end Hosts

section Policies

structure DestinationFields where
  scheme : String
  host : String
  port : Nat
  path : String
  query : String
  literalAddress : Option String
  deriving DecidableEq, Repr

/-- The canonical host and port. -/
def DestinationFields.authority (d : DestinationFields) : String :=
  (if ':' ∈ d.host.toList then "[" ++ d.host ++ "]" else d.host) ++ ":" ++ toString d.port

structure ParsedDestination extends DestinationFields where
  identity : Nat
  minted : Option DestinationFields
  deriving DecidableEq, Repr

structure PolicyBinding where
  destinationIdentity : Nat
  destination : DestinationFields
  targetProfile : TargetProfile
  allowedHosts : List String
  allowedPorts : List Nat
  publicChallengePath : String
  publicAuthorization : Option (String × Nat)
  deriving DecidableEq, Repr

structure DestinationPolicy where
  destination : ParsedDestination
  targetProfile : TargetProfile
  allowedHosts : List String
  allowedPorts : List Nat
  publicChallengePath : String
  minted : Option PolicyBinding
  deriving DecidableEq, Repr

/-- `_policy_binding` of the current fields. -/
def DestinationPolicy.binding (p : DestinationPolicy) (authorization : Option (String × Nat)) :
    Option PolicyBinding :=
  p.destination.minted.map fun d =>
    ⟨p.destination.identity, d, p.targetProfile, p.allowedHosts, p.allowedPorts,
      p.publicChallengePath, authorization⟩

def maxHttpPort : Nat := 65535

def defaultPorts : List (String × Nat) := [("http", 80), ("https", 443)]

def maxChallengePathLength : Nat := 2048

def ValidChallengePath (path : List Char) : Prop :=
  path ≠ [] ∧ path.length ≤ maxChallengePathLength ∧ path.head? = some '/' ∧
    ¬ ['/', '/'] <+: path ∧ '?' ∉ path ∧ '#' ∉ path ∧ '\\' ∉ path ∧
    path.all (isControl · = false)

instance (path : List Char) : Decidable (ValidChallengePath path) :=
  inferInstanceAs (Decidable (_ ∧ _))

variable (codec : HostCodec) (p : DestinationPolicy)

/-- The host and public-target gates of a profile. -/
def DestinationPolicy.ProfileGates (authorization : Option (String × Nat)) : TargetProfile → Prop
  | .loopback => authorization = none
  | .privateAllowlist => p.destination.host ∈ p.allowedHosts ∧ authorization = none
  | .publicAuthorized =>
    ValidChallengePath p.publicChallengePath.toList ∧ p.destination.scheme = "https" ∧
      p.destination.host ∈ p.allowedHosts ∧
      authorization = some (p.destination.host, p.destination.port)

instance (authorization : Option (String × Nat)) :
    ∀ profile, Decidable (p.ProfileGates authorization profile)
  | .loopback => inferInstanceAs (Decidable (_ = _))
  | .privateAllowlist => inferInstanceAs (Decidable (_ ∧ _))
  | .publicAuthorized => inferInstanceAs (Decidable (_ ∧ _))

def DestinationPolicy.Gates (authorization : Option (String × Nat)) : Prop :=
  p.destination.port ∈ p.allowedPorts ∧ p.ProfileGates authorization p.targetProfile

instance (authorization : Option (String × Nat)) : Decidable (p.Gates authorization) :=
  inferInstanceAs (Decidable (_ ∧ _))

def ParsedDestination.Valid (d : ParsedDestination) : Prop :=
  d.minted = some d.toDestinationFields ∧ d.scheme ∈ defaultPorts.map Prod.fst ∧
    normalizeHost codec d.host = .ok d.host ∧ 1 ≤ d.port ∧ d.port ≤ maxHttpPort ∧
    d.literalAddress = (read d.host.toList).map fun parsed => String.ofList parsed.write

instance (d : ParsedDestination) : Decidable (d.Valid codec) := inferInstanceAs (Decidable (_ ∧ _))

/-- The policy is the one that was minted, and everything it was minted for still holds. -/
def DestinationPolicy.Valid : Prop :=
  ∃ bound ∈ p.minted,
    p.destination.Valid codec ∧ p.binding bound.publicAuthorization = some bound ∧
    p.allowedHosts.Pairwise (· < ·) ∧
    (∀ host ∈ p.allowedHosts, normalizeHost codec host = .ok host) ∧
    p.allowedPorts.Pairwise (· < ·) ∧
    (∀ port ∈ p.allowedPorts, 1 ≤ port ∧ port ≤ maxHttpPort) ∧
    p.Gates bound.publicAuthorization

instance : Decidable (p.Valid codec) := inferInstanceAs (Decidable (∃ bound ∈ p.minted, _))

def validateDestinationPolicy : Except DestinationPolicyError Unit :=
  require (p.Valid codec)
    ⟨.preflightConfigurationInvalid, "destination policy provenance or binding is invalid"⟩

end Policies

section Addresses

def TargetProfile.Accepts (c : AddressClass) : TargetProfile → Prop
  | .loopback => c = .loopback
  | .privateAllowlist => c = .privateUse ∨ c = .loopback
  | .publicAuthorized => c = .publicUse

instance (c : AddressClass) : ∀ profile, Decidable (TargetProfile.Accepts c profile)
  | .loopback => inferInstanceAs (Decidable (_ = _))
  | .privateAllowlist => inferInstanceAs (Decidable (_ ∨ _))
  | .publicAuthorized => inferInstanceAs (Decidable (_ = _))

def enforceAddressProfile (profile : TargetProfile) (c : AddressClassification) :
    Except DestinationPolicyError Unit := do
  require (c.addressClass ≠ .blocked)
    ⟨.addressBlocked, "destination address is permanently blocked"⟩
  require (TargetProfile.Accepts c.addressClass profile)
    ⟨.addressProfileMismatch,
      "destination address does not match its configured target profile"⟩

def maxResolvedAddresses : Nat := 64

/-- A sequence of candidates as the caller sees it: a length, the items and a length once more,
each of which may raise. -/
structure CandidateSequence where
  declaredLength : Option Nat
  items : Option (List String)
  finalLength : Option Nat
  deriving DecidableEq, Repr

def addressSetInvalid (message : String) : DestinationPolicyError := ⟨.addressSetInvalid, message⟩

def materializeCandidates (candidates : CandidateSequence) :
    Except DestinationPolicyError (List String) :=
  match candidates.declaredLength with
  | none =>
    .error (addressSetInvalid "resolved address set does not expose a stable bounded length")
  | some declared => do
    require (1 ≤ declared ∧ declared ≤ maxResolvedAddresses)
      (addressSetInvalid "resolved address set must contain between 1 and 64 candidates")
    match candidates.items, candidates.finalLength with
    | some items, some final => do
      let realized := items.take (maxResolvedAddresses + 1)
      require (declared = final ∧ declared = realized.length)
        (addressSetInvalid "resolved address set length is inconsistent")
      return realized
    | _, _ =>
      .error (addressSetInvalid "resolved address set could not be materialized safely")

/-- The key of the authorised addresses: the version, then the text. -/
def AddressClassification.key (a : AddressClassification) : Nat × String :=
  (a.version.number, a.normalized)

def keyLt (k l : Nat × String) : Prop := k.1 < l.1 ∨ k.1 = l.1 ∧ k.2 < l.2

instance : DecidableRel keyLt := fun _ _ => inferInstanceAs (Decidable (_ ∨ _))

def AddressClassification.le (a b : AddressClassification) : Prop := ¬ keyLt b.key a.key

instance : DecidableRel AddressClassification.le := fun _ _ => inferInstanceAs (Decidable (¬ _))

/-- The classifications by their keys: of those with one key the last. -/
def lastOfKeys (classifications : List AddressClassification) : List AddressClassification :=
  classifications.pwFilter fun a b => a.key ≠ b.key

structure AuthorizedDestination where
  policy : DestinationPolicy
  addresses : List AddressClassification
  minted : Option (Option PolicyBinding × List AddressClassification)
  deriving DecidableEq, Repr

variable (codec : HostCodec) (p : DestinationPolicy)

def classifyCandidate (candidate : String) : Except DestinationPolicyError AddressClassification := do
  match classifyAddress candidate with
  | .error _ => .error ⟨.addressInvalid, "resolved address candidate is invalid"⟩
  | .ok c => do
    enforceAddressProfile p.targetProfile c
    return c

def candidateValues : Option CandidateSequence → Except DestinationPolicyError (List String)
  | some candidates => materializeCandidates candidates
  | none =>
    match p.destination.literalAddress with
    | none =>
      .error (addressSetInvalid "a hostname destination requires resolved address candidates")
    | some literal => .ok [literal]

/-- The literal of a destination is its only address. -/
def LiteralMatches (addresses : List AddressClassification) : Prop :=
  ∀ literal ∈ p.destination.literalAddress,
    addresses.length = 1 ∧ addresses.head?.map AddressClassification.normalized = some literal

instance (addresses : List AddressClassification) : Decidable (LiteralMatches p addresses) :=
  inferInstanceAs (Decidable (∀ literal ∈ p.destination.literalAddress, _))

def authorizeResolvedAddresses (candidates : Option CandidateSequence) :
    Except DestinationPolicyError AuthorizedDestination := do
  validateDestinationPolicy codec p
  let values ← candidateValues p candidates
  let classifications ← values.mapM (classifyCandidate p)
  let ordered := (lastOfKeys classifications).insertionSort AddressClassification.le
  require (LiteralMatches p ordered)
    (addressSetInvalid "literal destination does not match the supplied address set")
  return ⟨p, ordered, some (p.minted, ordered)⟩

/-- `_authorized_address_set_is_valid`. -/
def AddressSetValid (addresses : List AddressClassification) : Prop :=
  1 ≤ addresses.length ∧ addresses.length ≤ maxResolvedAddresses ∧
    (∀ a ∈ addresses, classifyAddress a.normalized = .ok a ∧
      enforceAddressProfile p.targetProfile a = .ok ()) ∧
    addresses.Pairwise (fun a b => keyLt a.key b.key) ∧ LiteralMatches p addresses

instance (addresses : List AddressClassification) : Decidable (AddressSetValid p addresses) :=
  inferInstanceAs (Decidable (_ ∧ _))

def authorizationInvalid : DestinationPolicyError :=
  ⟨.preflightConfigurationInvalid, "authorized destination provenance or binding is invalid"⟩

def validateAuthorizedDestination (authorized : AuthorizedDestination) :
    Except DestinationPolicyError Unit := do
  validateDestinationPolicy codec authorized.policy
  require (authorized.minted = some (authorized.policy.minted, authorized.addresses) ∧
      AddressSetValid authorized.policy authorized.addresses)
    authorizationInvalid

end Addresses

end WebhookConformance
