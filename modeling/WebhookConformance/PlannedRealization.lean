import WebhookConformance.HttpExecutor
import WebhookConformance.PipelineSplit
import WebhookConformance.SignatureFaults

/-! The two places where the mutations of a delivery are applied: `_realize_planning_mutations` of
the compiler and `prepare_realized_attempt` of the runtime. -/
namespace WebhookConformance

open Checked MutationPipeline

section Recipes

/-- The proofs are the checks of `RealizedDeliveryExecution.__post_init__`. -/
structure RealizedDeliveryExecution where
  eventId : String
  logicalTimeNs : Int
  requestBlob : String
  mediaType : String
  signerName : Option String
  mutations : List RealizedMutation
  runtimeMutationOffset : Nat
  eventId_planned : isPlannedId .event eventId = true
  time_range : -(maxSafeInteger : Int) ≤ logicalTimeNs ∧ logicalTimeNs ≤ maxSafeInteger
  mediaType_nonempty : mediaType ≠ ""
  signerName_nonempty : signerName ≠ some ""
  offset_le : runtimeMutationOffset ≤ mutations.length
  ordered : mutations.Pairwise fun m n => m.stage.rank ≤ n.stage.rank
  planning_stages : ∀ m ∈ mutations.take runtimeMutationOffset, m.stage.rank ≤ planningStageMaxRank
  runtime_stages : ∀ m ∈ mutations.drop runtimeMutationOffset, planningStageMaxRank < m.stage.rank

def RealizedDeliveryExecution.runtimeMutations (recipe : RealizedDeliveryExecution) :
    List RealizedMutation :=
  recipe.mutations.drop recipe.runtimeMutationOffset

inductive PreparationError where
  /-- A plain `ValueError` with its message. -/
  | value (message : String)
  | pipeline (error : PipelineError)
  | input (error : HttpInputError)
  deriving DecidableEq

structure PreparedAttemptRequest where
  command : HttpAttemptCommand
  pipeline : MutationPipelineResult

/-- `SignatureHeader(name=header.name, value=header.value)`. -/
def HttpHeader.toSignatureHeader (h : HttpHeader) : Except PreparationError SignatureHeader := do
  require (isHeaderName h.name = true) (.value "header name must be a bounded HTTP token")
  (signatureHeader (casefold h.name) h.value).mapError fun error => .value error.message

/-- The headers of an exact command, each with its owner. -/
def ownedBy (signerHeaders : List String) (headers : List SignatureHeader) : List HttpHeader :=
  headers.map fun h =>
    ⟨h.name, h.value, if h.name ∈ signerHeaders then HeaderOwner.signer else HeaderOwner.user⟩

/-- The headers that come out of the pipeline have names that HTTP takes. -/
def exactCommand (command : HttpAttemptCommand) (body : Bytes) (headers : List HttpHeader) :
    Except PreparationError HttpAttemptCommand :=
  if valid : ∀ h ∈ headers, h.Valid then .ok ⟨command.policy, body, headers, valid⟩
  else .error (.input ⟨.invalidHeader, "header value is unbounded or contains forbidden controls"⟩)

variable {σ : Type} [DecidableEq σ]

/-- `prepare_realized_attempt`. -/
def prepareRealizedAttempt (p : MutationPipeline σ) (command : HttpAttemptCommand)
    (recipe : RealizedDeliveryExecution) (signer : Option σ) :
    Except PreparationError PreparedAttemptRequest := do
  require (p.sha256.text command.body = recipe.requestBlob)
    (.value "attempt body does not match the realized request blob")
  require (recipe.signerName = none → signer.isNone = true)
    (.value "unsigned realized delivery cannot receive a signer")
  require (recipe.signerName ≠ none → signer.isSome = true)
    (.value "realized delivery requires its selected signer")
  require (∀ h ∈ command.headers, h.owner ≠ .signer)
    (.value "base attempt command cannot contain precomputed signer headers")
  let headers ← command.headers.mapM HttpHeader.toSignatureHeader
  let result ← (p.execute ⟨command.body, headers, recipe.eventId, recipe.logicalTimeNs,
    recipe.mediaType, signer, recipe.runtimeMutations⟩).mapError .pipeline
  let exact ← exactCommand command result.body
    (ownedBy (signer.elim [] p.signers.ownedHeaders) result.headers)
  return ⟨exact, result⟩

end Recipes

section Split

variable {σ : Type} {family : SignerFamily σ} {p : MutationPipeline σ}
  {request : PipelineRequest σ} {snapshot : Option SignerSnapshot} {mediaType : String}
  {body middle : Bytes} {plan rest : List RealizedMutation}
  {first second : List (PreparedMutation σ)}

/-- The same pipeline over the registry of the runtime. -/
def MutationPipeline.atRuntime (p : MutationPipeline σ) (family : SignerFamily σ) :
    MutationPipeline σ :=
  { p with registry := runtimeMutationRegistry family }

variable [DecidableEq σ]

end Split

end WebhookConformance
