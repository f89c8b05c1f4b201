import WebhookConformance.DestinationPolicy
import WebhookConformance.Library.Program

/-! The pinned dialer (`network/dialer.py`): one resolution, authorisation of every address, and a
connection to the first of them that is checked against its plan. The resolver and the connector
are arbitrary. -/
namespace WebhookConformance

open InternetAddress Checked Program

inductive DialPhase where
  | resolution
  | tlsConfiguration
  | connection
  | peerVerification
  deriving DecidableEq, Repr

inductive DialErrorCode where
  | resolutionTimeout
  | resolutionResultLimit
  | resolutionResultInvalid
  | resolutionFailed
  | tlsConfigurationFailed
  | connectTimeout
  | tlsFailed
  | connectionFailed
  | peerInvalid
  | peerMismatch
  deriving DecidableEq, Repr

structure PinnedDialError where
  code : DialErrorCode
  phase : DialPhase
  message : String
  retryable : Bool
  deriving DecidableEq, Repr

/-- What a dial raises. -/
inductive DialException where
  | pinned (error : PinnedDialError)
  | policy (error : DestinationPolicyError)
  | tls
  | other
  deriving DecidableEq, Repr

section Plans

/-- The settings of a TLS context that a plan checks. -/
structure TlsContext where
  checkHostname : Bool
  certificateRequired : Bool
  deriving DecidableEq, Repr

structure ConnectionPlan where
  pinnedAddress : String
  port : Nat
  family : Version
  authorizedAddresses : List String
  hostHeader : String
  tlsServerHostname : Option String
  tlsContext : Option TlsContext
  deriving DecidableEq, Repr

/-- The text of an address in its canonical form. -/
def IsCanonicalAddress (text : String) (family : Version) : Prop :=
  ∃ parsed ∈ read text.toList,
    parsed.write = text.toList ∧ parsed.address.version = family

instance (text : String) (family : Version) : Decidable (IsCanonicalAddress text family) :=
  inferInstanceAs (Decidable (∃ parsed ∈ read text.toList, _))

/-- The two TLS fields of a plan stand or fall together, and its context verifies the host. -/
def VerifiedTls : Option String → Option TlsContext → Prop
  | none, context => context = none
  | some hostname, context =>
    hostname ≠ "" ∧ ∃ c ∈ context, c.checkHostname = true ∧ c.certificateRequired = true

instance : ∀ hostname context, Decidable (VerifiedTls hostname context)
  | none, context => inferInstanceAs (Decidable (context = none))
  | some hostname, context =>
    inferInstanceAs (Decidable (hostname ≠ "" ∧ ∃ c ∈ context,
      c.checkHostname = true ∧ c.certificateRequired = true))

/-- The checks of `ConnectionPlan.__post_init__`. -/
def ConnectionPlan.Valid (plan : ConnectionPlan) : Prop :=
  IsCanonicalAddress plan.pinnedAddress plan.family ∧ 1 ≤ plan.port ∧ plan.port ≤ maxHttpPort ∧
    plan.pinnedAddress ∈ plan.authorizedAddresses ∧
    (∀ address ∈ plan.authorizedAddresses,
      ∃ parsed ∈ read address.toList, parsed.write = address.toList) ∧
    plan.hostHeader ≠ "" ∧ '\r' ∉ plan.hostHeader.toList ∧ '\n' ∉ plan.hostHeader.toList ∧
    VerifiedTls plan.tlsServerHostname plan.tlsContext

instance (plan : ConnectionPlan) : Decidable plan.Valid := inferInstanceAs (Decidable (_ ∧ _))

structure PeerAddress where
  address : String
  port : Nat
  family : Version
  deriving DecidableEq, Repr

/-- The checks of `PeerAddress.__post_init__`. -/
def PeerAddress.Valid (peer : PeerAddress) : Prop :=
  IsCanonicalAddress peer.address peer.family ∧ 1 ≤ peer.port ∧ peer.port ≤ maxHttpPort

instance (peer : PeerAddress) : Decidable peer.Valid := inferInstanceAs (Decidable (_ ∧ _))

structure PeerAddressEvidence where
  authorizedAddress : String
  authorizedFamily : Version
  peerAddress : String
  peerFamily : Version
  deriving DecidableEq, Repr

structure PinnedConnection where
  plan : ConnectionPlan
  evidence : PeerAddressEvidence
  deriving DecidableEq, Repr

end Plans

section Seams

inductive ResolveFailure where
  | timeout
  | resultLimit
  | record
  | pinned (error : PinnedDialError)
  | other
  deriving DecidableEq, Repr

inductive ConnectFailure where
  | timeout
  | tls
  | pinned (error : PinnedDialError)
  | other
  deriving DecidableEq, Repr

/-- A connected stream as the dialer sees it. A connector may write to the plan that it was given,
replace its TLS context or change the settings of that context; the peer of the stream is absent
if reading it raises. -/
structure ConnectedStream where
  peer : Option PeerAddress
  plan : ConnectionPlan
  keepsContext : Bool
  context : Option TlsContext
  deriving DecidableEq, Repr

/-- An arbitrary resolver, TLS provider and connector. A resolver may write to the fields of the
policy object while it runs, but not to the registry of minted capabilities. -/
structure Seams where
  resolve : String → Nat → Exit ResolveFailure CandidateSequence
  tamper : DestinationPolicy → DestinationPolicy
  createTls : String → Exit Unit (Option TlsContext)
  connect : ConnectionPlan → Exit ConnectFailure ConnectedStream
  tamper_minted : ∀ p, (tamper p).minted = p.minted

end Seams

section Errors

def ResolveFailure.error : ResolveFailure → PinnedDialError
  | .timeout => ⟨.resolutionTimeout, .resolution,
      "destination resolution exceeded its physical timeout", true⟩
  | .resultLimit => ⟨.resolutionResultLimit, .resolution,
      "destination resolution exceeded its bounded result limit", false⟩
  | .record => ⟨.resolutionResultInvalid, .resolution,
      "destination resolution returned invalid socket metadata", false⟩
  | .pinned error => error
  | .other => ⟨.resolutionFailed, .resolution, "destination resolution failed", true⟩

def ConnectFailure.error : ConnectFailure → PinnedDialError
  | .timeout => ⟨.connectTimeout, .connection,
      "pinned connection exceeded its physical timeout", true⟩
  | .tls => ⟨.tlsFailed, .connection, "verified TLS connection failed", false⟩
  | .pinned error => error
  | .other => ⟨.connectionFailed, .connection, "pinned connection failed", true⟩

def tlsConfigurationFailed : PinnedDialError :=
  ⟨.tlsConfigurationFailed, .tlsConfiguration, "verified TLS context creation failed", false⟩

def peerInvalid (message : String) : PinnedDialError :=
  ⟨.peerInvalid, .peerVerification, message, false⟩

def peerMismatch (message : String) : PinnedDialError :=
  ⟨.peerMismatch, .peerVerification, message, false⟩

/-- A checked step of the dialer, whose errors are rejections by the policy. -/
def policyChecked {α : Type} : Except DestinationPolicyError α → Except DialException α
  | .ok a => .ok a
  | .error e => .error (.policy e)

def exitOf {α : Type} : Except DialException α → Exit DialException α
  | .ok a => .returned a
  | .error e => .raised e

end Errors

section Dial

variable (codec : HostCodec) (seams : Seams)

/-- The policy after the resolver has answered, with what is authorised for it. -/
def resolveAndAuthorize (policy : DestinationPolicy) :
    Exit DialException AuthorizedDestination :=
  if policy.Valid codec then
    if policy.destination.literalAddress.isSome then
      exitOf (policyChecked (authorizeResolvedAddresses codec policy none))
    else
      match seams.resolve policy.destination.host policy.destination.port with
      | .cancelled => .cancelled
      | .raised failure => .raised (.pinned failure.error)
      | .returned candidates =>
        exitOf (policyChecked
          (authorizeResolvedAddresses codec (seams.tamper policy) (some candidates)))
  else
    .raised (.policy ⟨.preflightConfigurationInvalid,
      "destination policy provenance or binding is invalid"⟩)

def tlsHostname (destination : DestinationFields) : Option String :=
  if destination.scheme = "https" then some destination.host else none

/-- The TLS context for a destination: none for plain HTTP, and an error if its creation fails. -/
def tlsContextFor (destination : DestinationFields) : Except DialException (Option TlsContext) :=
  match tlsHostname destination with
  | none => .ok none
  | some host =>
    match seams.createTls host with
    | .returned context => .ok context
    | _ => .error (.pinned tlsConfigurationFailed)

def connectionPlan (authorized : AuthorizedDestination) (selected : AddressClassification)
    (context : Option TlsContext) : ConnectionPlan where
  pinnedAddress := selected.normalized
  port := authorized.policy.destination.port
  family := selected.version
  authorizedAddresses := authorized.addresses.map AddressClassification.normalized
  hostHeader := authorized.policy.destination.authority
  tlsServerHostname := tlsHostname authorized.policy.destination.toDestinationFields
  tlsContext := context

/-- `_verify_peer_and_wrap`. -/
def verifyPeerAndWrap (expected : ConnectionPlan) (stream : ConnectedStream) :
    Except DialException PinnedConnection :=
  match stream.peer with
  | none => .error (.pinned (peerInvalid "connected transport returned invalid peer evidence"))
  | some peer => do
    require peer.Valid
      (.pinned (peerInvalid "connected transport returned invalid peer evidence"))
    require (peer.address = expected.pinnedAddress ∧ peer.port = expected.port ∧
        peer.family = expected.family)
      (.pinned (peerMismatch "connected peer did not match the authorized numeric pin"))
    -- the context is shared with the connector, so the plan is checked as it is now
    let verified := { expected with tlsContext := stream.context }
    require verified.Valid
      (.pinned (peerInvalid "connection security plan changed during establishment"))
    require (stream.keepsContext = true ∧ { stream.plan with tlsContext := stream.context } = verified)
      (.pinned (peerMismatch "connector changed the authorized connection plan"))
    return ⟨verified, ⟨verified.pinnedAddress, verified.family, peer.address, peer.family⟩⟩

/-- The checked plan for a connection to the first authorised address. -/
def planConnection (authorized : AuthorizedDestination) : Except DialException ConnectionPlan := do
  policyChecked (validateAuthorizedDestination codec authorized)
  match authorized.addresses with
  | [] => .error (.policy authorizationInvalid)
  | selected :: _ => do
    let context ← tlsContextFor seams authorized.policy.destination.toDestinationFields
    let plan := connectionPlan authorized selected context
    require plan.Valid .other
    return plan

def connectAuthorized (authorized : AuthorizedDestination) : Exit DialException PinnedConnection :=
  match planConnection codec seams authorized with
  | .error e => .raised e
  | .ok plan =>
    match seams.connect plan with
    | .cancelled => .cancelled
    | .raised failure => .raised (.pinned failure.error)
    | .returned stream => exitOf (verifyPeerAndWrap plan stream)

def dial (policy : DestinationPolicy) : Exit DialException PinnedConnection :=
  match resolveAndAuthorize codec seams policy with
  | .cancelled => .cancelled
  | .raised e => .raised e
  | .returned authorized => connectAuthorized codec seams authorized

end Dial

end WebhookConformance
