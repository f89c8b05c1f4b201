import WebhookConformance.MutationRules
import WebhookConformance.Signatures

/-! The contracts of `mutations/base.py`: realized mutations, the request state they work on, the
registrations that declare their effects, and the static registry. -/
namespace WebhookConformance

open Checked ByteText

def maxHeaderNameLength : Nat := 128
def maxMutationHeaders : Nat := 144
def maxMutationRegistrations : Nat := 64

/-- `hashlib.sha256`. -/
structure Sha256Hash where
  digest : Bytes → Bytes
  digest_length : ∀ bytes, (digest bytes).length = digestSize

/-- `sha256_digest`. -/
def Sha256Hash.text (sha : Sha256Hash) (bytes : Bytes) : String :=
  "sha256:" ++ String.ofList (toHex (sha.digest bytes))

section Headers

/-- The checks of `SignatureHeader.__post_init__`, of a name that is folded already. -/
def SignatureHeader.Valid (h : SignatureHeader) : Prop :=
  (1 ≤ h.name.length ∧ h.name.length ≤ maxHeaderNameLength) ∧
    h.name.toList.all isHeaderToken = true ∧ casefold h.name = h.name ∧
    h.value.length ≤ maxHeaderValueLength ∧ ∀ c ∈ h.value.toList, 32 ≤ c.toNat ∧ c.toNat < 127

instance SignatureHeader.decidableValid (h : SignatureHeader) : Decidable h.Valid :=
  inferInstanceAs (Decidable (_ ∧ _))

/-- The value of the header of a name. -/
def valueOf? (headers : List SignatureHeader) (name : String) : Option String :=
  (headers.find? fun h => h.name = name).map SignatureHeader.value

end Headers

section Errors

/-- The diagnostic of a `MutationError`. -/
structure MutationError where
  category : DiagnosticCategory
  code : String
  message : String
  safeDetails : List (String × Json)
  deriving DecidableEq

/-- One manifest-realized invocation. The parameters are a frozen object: no key of it, or of an
object inside it, stands twice. -/
structure RealizedMutation where
  operatorId : String
  operatorVersion : Nat
  stage : MutationStage
  parameters : List (String × Json)
  parametersSafe : List (String × Json)
  keys_unique : (Json.object parameters).uniqueKeys = true
  deriving DecidableEq

theorem RealizedMutation.no_parameters : (Json.object []).uniqueKeys = true := by decide

namespace RealizedMutation

variable (realized : RealizedMutation) (code message : String) (details : List (String × Json))

/-- The details of an error and the identity of the operator. -/
def errorDetails : List (String × Json) :=
  details ++ [("operator_id", .text realized.operatorId),
    ("operator_version", .number realized.operatorVersion)]

def notApplicable : MutationError :=
  ⟨.mutationNotApplicable, code, message, realized.errorDetails []⟩

def invalidParameter : MutationError :=
  ⟨.invalidParameter, code, message, realized.errorDetails []⟩

def conflict : MutationError :=
  ⟨.conflictingMutation, code, message, realized.errorDetails details⟩

end RealizedMutation

def MutationError.resourceLimit (code message : String) : MutationError :=
  ⟨.resourceLimit, code, message, []⟩

end Errors

section States

/-- The exact request that an operator works on. The proofs are the checks of
`_validate_state_fields` and of the headers themselves. -/
@[ext] structure MutationState (σ : Type) where
  body : Bytes
  headers : List SignatureHeader
  signingTimeNs : Int
  signer : Option σ
  headers_valid : ∀ h ∈ headers, h.Valid
  headers_count : headers.length ≤ maxMutationHeaders
  names_nodup : (headers.map SignatureHeader.name).Nodup
  time_range : -(int64Max + 1 : Int) ≤ signingTimeNs ∧ signingTimeNs ≤ int64Max

/-- What an operator proposes has the fields of a state and passes its checks. -/
abbrev MutationOutput := MutationState

/-- The constructor of states and outputs; its error is the message of the `ValueError`. -/
def mutationState {σ : Type} (body : Bytes) (headers : List SignatureHeader) (signingTimeNs : Int)
    (signer : Option σ) : Except String (MutationState σ) :=
  if valid : ∀ h ∈ headers, h.Valid then
    if count : headers.length ≤ maxMutationHeaders then
      if nodup : (headers.map SignatureHeader.name).Nodup then
        if range : -(int64Max + 1 : Int) ≤ signingTimeNs ∧ signingTimeNs ≤ int64Max then
          .ok ⟨body, headers, signingTimeNs, signer, valid, count, nodup, range⟩
        else .error "signing_time_ns must fit a signed 64-bit integer"
      else .error "mutation header names must be unique case-insensitively"
    else .error "mutation headers exceed the bounded header limit"
  else .error "header name must be a bounded HTTP token"

theorem mutationState_ok {σ : Type} {body : Bytes} {headers : List SignatureHeader} {time : Int}
    {signer : Option σ} {state : MutationState σ}
    (h : mutationState body headers time signer = .ok state) :
    state.body = body ∧ state.headers = headers ∧ state.signingTimeNs = time ∧
      state.signer = signer := by
  unfold mutationState at h
  split_ifs at h
  cases h
  exact ⟨rfl, rfl, rfl, rfl⟩

/-- The event id and the media type have passed the preflight. -/
structure MutationInput (σ : Type) where
  realized : RealizedMutation
  state : MutationState σ
  eventId : String
  mediaType : String

inductive OperatorError where
  | mutation (error : MutationError)
  /-- Any other exception. -/
  | other
  deriving DecidableEq

end States

section Registrations

/-- Closed operations over the headers of the selected signer. -/
inductive SignatureHeaderAction where
  | none
  | remove
  | replace
  deriving DecidableEq, Repr

/-- What a registration declares about its operator. -/
structure OperatorEffects where
  changesBody : Bool
  requiresValidJson : Bool
  invalidatesJson : Bool
  writtenHeaders : List String
  removedHeaders : List String
  signatureHeaderAction : SignatureHeaderAction
  mayChangeSigningTime : Bool
  mayReplaceSigner : Bool
  deriving DecidableEq, Repr

namespace OperatorEffects

variable (effects : OperatorEffects)

/-- The defaults of `MutationRegistration`. -/
def nothing : OperatorEffects := ⟨false, false, false, [], [], .none, false, false⟩

def headerEffect : Bool :=
  !effects.writtenHeaders.isEmpty || !effects.removedHeaders.isEmpty ||
    effects.signatureHeaderAction ≠ .none

def signingEffect : Bool := effects.mayChangeSigningTime || effects.mayReplaceSigner

/-- `_validate_stage_effects`. -/
def fitsStage : MutationStage → Bool
  | .structural =>
    effects.changesBody && effects.requiresValidJson && !effects.invalidatesJson &&
      !effects.headerEffect && !effects.signingEffect
  | .rawPreSign | .rawPostSign =>
    effects.changesBody && !effects.headerEffect && !effects.signingEffect
  | .headerPreSign =>
    !effects.changesBody && !effects.invalidatesJson && !effects.signingEffect &&
      effects.headerEffect && effects.signatureHeaderAction = .none
  | .headerPostSign =>
    !effects.changesBody && !effects.invalidatesJson && !effects.signingEffect &&
      effects.headerEffect
  | .signing =>
    !effects.changesBody && !effects.requiresValidJson && !effects.invalidatesJson &&
      !effects.headerEffect && effects.signingEffect

/-- The headers the operator may write or remove whatever the signer is. -/
def staticTargets : List String := effects.writtenHeaders ++ effects.removedHeaders

def allowedRemoved (owned : List String) : List String :=
  match effects.signatureHeaderAction with
  | .none => effects.removedHeaders
  | .remove | .replace => effects.removedHeaders ++ owned

def allowedWritten (owned : List String) : List String :=
  match effects.signatureHeaderAction with
  | .none | .remove => effects.writtenHeaders
  | .replace => effects.writtenHeaders ++ owned

def targeted (owned : List String) : List String :=
  effects.allowedRemoved owned ++ effects.allowedWritten owned

end OperatorEffects

/-- Static identity, stage, effects and implementation of one operator version. -/
structure MutationRegistration (σ : Type) extends OperatorEffects where
  operatorId : String
  operatorVersion : Nat
  stage : MutationStage
  implementation : MutationInput σ → Except OperatorError (MutationOutput σ)
  fits : toOperatorEffects.fitsStage stage = true
  targets_nodup : toOperatorEffects.staticTargets.Nodup

def MutationRegistration.key {σ : Type} (r : MutationRegistration σ) : String × Nat :=
  (r.operatorId, r.operatorVersion)

structure StaticMutationRegistry (σ : Type) where
  registrations : List (MutationRegistration σ)
  count : registrations.length ≤ maxMutationRegistrations
  keys_nodup : (registrations.map MutationRegistration.key).Nodup

/-- `StaticMutationRegistry.registration`: the exact version, in its registered stage. -/
def StaticMutationRegistry.registration {σ : Type} (registry : StaticMutationRegistry σ)
    (realized : RealizedMutation) : Except MutationError (MutationRegistration σ) :=
  match registry.registrations.find? fun r =>
      r.key = (realized.operatorId, realized.operatorVersion) with
  | none =>
    if registry.registrations.any fun r => r.operatorId = realized.operatorId then
      .error (realized.notApplicable "MUT_OPERATOR_VERSION_UNREGISTERED"
        "The requested mutation operator version is not registered.")
    else
      .error (realized.notApplicable "MUT_OPERATOR_UNREGISTERED"
        "The requested mutation operator is not registered.")
  | some registration => do
    require (registration.stage = realized.stage)
      (realized.conflict "MUT_OPERATOR_STAGE_CONFLICT"
        "The realized mutation stage differs from its registered stage."
        [("realized_stage", .text realized.stage.value),
          ("registered_stage", .text registration.stage.value)])
    return registration

theorem StaticMutationRegistry.registration_ok {σ : Type} {registry : StaticMutationRegistry σ}
    {realized : RealizedMutation} {r : MutationRegistration σ}
    (h : registry.registration realized = .ok r) :
    r ∈ registry.registrations ∧ r.key = (realized.operatorId, realized.operatorVersion) ∧
      r.stage = realized.stage := by
  unfold registration at h
  split at h
  · split at h <;> cases h
  · rename_i found hfound
    obtain ⟨_, hstage, h⟩ := bind_ok h
    cases pure_ok h
    exact ⟨List.mem_of_find?_eq_some hfound, of_decide_eq_true (List.find?_some hfound :),
      require_ok hstage⟩

/-- Secret-free evidence of one invocation. -/
structure MutationEvidence where
  operatorId : String
  operatorVersion : Nat
  stage : MutationStage
  parametersSafe : List (String × Json)
  inputBodySha256 : String
  outputBodySha256 : String
  deriving DecidableEq

end Registrations

end WebhookConformance
