import WebhookConformance.PlannedRealization

/-! What the runtime makes of the delivered headers: HTTP refuses a value with blanks around it, so
the two parts of a realization agree with the whole of it up to such values. -/
namespace WebhookConformance

open Checked ByteText MutationPipeline

section Runs

variable {σ : Type} {p : MutationPipeline σ} {request : PipelineRequest σ} {owned : List String}
  {before after : MutationState σ} {mutations : List RealizedMutation}
  {evidence : List MutationEvidence}

/-- What every registered operator preserves, a run of them preserves. -/
theorem MutationPipeline.Applied.invariant {P : MutationState σ → Prop}
    (hstep : ∀ m ∈ mutations, ∀ registration s t,
      p.registry.registration m = .ok registration →
      registration.implementation ⟨m, s, request.eventId, request.mediaType⟩ = .ok t →
      Declared registration.toOperatorEffects owned s t → P s → P t)
    (h : Applied p request owned before mutations evidence after) (hbefore : P before) :
    P after := by
  induction h with
  | nil => exact hbefore
  | cons registered applied declared _ ih =>
    exact ih (fun m hm => hstep m (List.mem_cons_of_mem _ hm))
      (hstep _ List.mem_cons_self _ _ _ registered applied declared hbefore)

end Runs

section Attempts

theorem exactCommand_delivery {command exact : HttpAttemptCommand} {body : Bytes}
    {owned : List String} {headers : List SignatureHeader}
    (h : exactCommand command body (ownedBy owned headers) = .ok exact) :
    exact.body = body ∧ exact.headers.map (fun h => (⟨h.name, h.value⟩ : SignatureHeader)) =
      headers := by
  unfold exactCommand at h
  split at h
  · cases h
    refine ⟨rfl, ?_⟩
    change (ownedBy owned headers).map _ = headers
    rw [ownedBy, List.map_map]
    exact List.map_id headers
  · cases h

theorem execute_headers_valid {σ : Type} [DecidableEq σ] {p : MutationPipeline σ}
    {request : PipelineRequest σ} {result : MutationPipelineResult}
    (h : p.execute request = .ok result) : ∀ h ∈ result.headers, h.Valid := by
  obtain ⟨progress, -, rfl⟩ := map_ok h
  exact progress.state.headers_valid

variable {sha : Sha256Hash} {selected : BuiltinSigner} {body : Bytes}
  {command : HttpAttemptCommand} {recipe : RealizedDeliveryExecution} {signer : Option SignerRef}

def samplePolicy : DestinationPolicy where
  destination :=
    { scheme := "http", host := "127.0.0.1", port := 8080, path := "/hook", query := "",
      literalAddress := some "127.0.0.1", identity := 0, minted := none }
  targetProfile := .loopback
  allowedHosts := []
  allowedPorts := []
  publicChallengePath := "/"
  minted := none

def sampleCommand : HttpAttemptCommand :=
  ⟨samplePolicy, [], [⟨"Content-Type", "application/json", .user⟩], by decide⟩

end Attempts

end WebhookConformance
