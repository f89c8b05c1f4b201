import WebhookConformance.StructuralOperators

/-! The built-in operators with their registrations, the two static registries made of them, and
the pipelines over the built-in signers. -/
namespace WebhookConformance

open Checked

namespace MutationOperator

/-- What the registration of an operator declares. -/
def effects : MutationOperator → OperatorEffects
  | .removeJsonPointer | .replaceJsonValue | .replaceJsonType | .addJsonField
  | .changeEventIdField | .changeEventTypeField =>
    { OperatorEffects.nothing with changesBody := true, requiresValidJson := true }
  | .truncateBytes | .alterAfterSigning | .oversizedBody =>
    { OperatorEffects.nothing with changesBody := true }
  | .invalidJson => { OperatorEffects.nothing with changesBody := true, invalidatesJson := true }
  | .contentTypeMismatch =>
    { OperatorEffects.nothing with writtenHeaders := [contentTypeHeader] }
  | .staleSignatureTimestamp => { OperatorEffects.nothing with mayChangeSigningTime := true }
  | .wrongSigningKey => { OperatorEffects.nothing with mayReplaceSigner := true }
  | .missingSignature => { OperatorEffects.nothing with signatureHeaderAction := .remove }
  | .malformedSignature => { OperatorEffects.nothing with signatureHeaderAction := .replace }

variable {σ : Type} (family : SignerFamily σ)

def implementation (input : MutationInput σ) :
    MutationOperator → Except OperatorError (MutationOutput σ)
  | .removeJsonPointer => removeJsonPointerV1 input
  | .replaceJsonValue => replaceJsonValueV1 input
  | .replaceJsonType => replaceJsonTypeV1 input
  | .addJsonField => addJsonFieldV1 input
  | .changeEventIdField => changeEventFieldV1 input .changeEventIdField
  | .changeEventTypeField => changeEventFieldV1 input .changeEventTypeField
  | .truncateBytes => truncateBytesV1 input
  | .invalidJson => invalidJsonV1 input
  | .contentTypeMismatch => contentTypeMismatchV1 input
  | .alterAfterSigning => alterAfterSigningV1 input
  | .staleSignatureTimestamp => staleSignatureTimestampV1 input family.toSignerProtocol
  | .wrongSigningKey => wrongSigningKeyV1 input family.wrongKeySigner
  | .missingSignature => missingSignatureV1 input family.toSignerProtocol
  | .malformedSignature => malformedSignatureV1 input family.toSignerProtocol
  | .oversizedBody => oversizedBodyV1 input

theorem effects_fit (o : MutationOperator) : o.effects.fitsStage o.stage = true := by
  cases o <;> decide

theorem targets_nodup (o : MutationOperator) : o.effects.staticTargets.Nodup := by
  cases o <;> decide

def registration (o : MutationOperator) : MutationRegistration σ where
  toOperatorEffects := o.effects
  operatorId := o.id
  operatorVersion := operatorVersion
  stage := o.stage
  implementation := fun input => o.implementation family input
  fits := o.effects_fit
  targets_nodup := o.targets_nodup

/-- `STRUCTURAL_MUTATION_REGISTRATIONS`, by their operators. -/
def structuralOperators : List MutationOperator :=
  [.removeJsonPointer, .replaceJsonValue, .replaceJsonType, .addJsonField, .changeEventIdField,
    .changeEventTypeField]

/-- `RAW_MUTATION_REGISTRATIONS`. -/
def rawOperators : List MutationOperator :=
  [.truncateBytes, .invalidJson, .contentTypeMismatch, .alterAfterSigning, .oversizedBody]

/-- `SIGNATURE_MUTATION_REGISTRATIONS`. -/
def signatureOperators : List MutationOperator :=
  [.staleSignatureTimestamp, .wrongSigningKey, .missingSignature, .malformedSignature]

def allOperators : List MutationOperator := structuralOperators ++ rawOperators ++ signatureOperators

def runtimeOperators : List MutationOperator := rawOperators ++ signatureOperators

theorem mem_allOperators (o : MutationOperator) : o ∈ allOperators := by
  cases o <;> decide

theorem allOperators_nodup : (allOperators.map id).Nodup := by
  decide

theorem id_injective : Function.Injective id := fun a b h =>
  List.inj_on_of_nodup_map allOperators_nodup (mem_allOperators a) (mem_allOperators b) h

/-- The registry of some of the operators. -/
def registry (operators : List MutationOperator)
    (count : operators.length ≤ maxMutationRegistrations) (nodup : (operators.map id).Nodup) :
    StaticMutationRegistry σ where
  registrations := operators.map (registration family)
  count := by rwa [List.length_map]
  keys_nodup := by
    rw [List.map_map]
    exact List.Nodup.of_map Prod.fst (by rwa [List.map_map])

variable {family} {operators : List MutationOperator}
  {count : operators.length ≤ maxMutationRegistrations} {nodup : (operators.map id).Nodup}
  {m : RealizedMutation}

/-- The mutation is an invocation of the operator. -/
def Invokes (o : MutationOperator) (m : RealizedMutation) : Prop :=
  m.operatorId = o.id ∧ m.operatorVersion = operatorVersion ∧ m.stage = o.stage

theorem registry_ok {r : MutationRegistration σ}
    (h : (registry family operators count nodup).registration m = .ok r) :
    ∃ o ∈ operators, r = o.registration family ∧ o.Invokes m := by
  obtain ⟨hmem, hkey, hstage⟩ := StaticMutationRegistry.registration_ok h
  obtain ⟨o, ho, rfl⟩ := List.mem_map.1 hmem
  obtain ⟨hid, hversion⟩ := Prod.mk.inj hkey
  exact ⟨o, ho, rfl, hid.symm, hversion.symm, hstage.symm⟩

theorem registry_of {o : MutationOperator} (ho : o ∈ operators) (h : o.Invokes m) :
    (registry family operators count nodup).registration m = .ok (o.registration family) := by
  obtain ⟨hid, hversion, hstage⟩ := h
  have hfind : (operators.map (registration family)).find? (fun r =>
      r.key = (m.operatorId, m.operatorVersion)) = some (o.registration family) := by
    rw [List.find?_map, hid, hversion]
    have hfound : operators.find? (fun o' => (registration family o').key =
        (o.id, operatorVersion)) = some o := by
      cases hcase : operators.find? (fun o' => (registration family o').key =
          (o.id, operatorVersion)) with
      | none =>
        have hnone := List.find?_eq_none.1 hcase o ho
        exact absurd (decide_eq_true rfl) hnone
      | some o' =>
        have hkey := of_decide_eq_true (List.find?_some hcase :)
        exact congrArg some (id_injective (Prod.mk.inj hkey).1)
    exact congrArg (Option.map _) hfound
  unfold StaticMutationRegistry.registration
  rw [show (registry family operators count nodup).registrations =
    operators.map (registration family) from rfl, hfind]
  exact bind_of (require_of hstage.symm) rfl

end MutationOperator

section Registries

variable {σ : Type} (family : SignerFamily σ)

/-- `_ALL_MUTATION_REGISTRY`. -/
def allMutationRegistry : StaticMutationRegistry σ :=
  MutationOperator.registry family MutationOperator.allOperators (by decide)
    MutationOperator.allOperators_nodup

/-- `_RUNTIME_MUTATION_REGISTRY`. -/
def runtimeMutationRegistry : StaticMutationRegistry σ :=
  MutationOperator.registry family MutationOperator.runtimeOperators (by decide) (by decide)

variable {family} {m : RealizedMutation} {r : MutationRegistration σ}

theorem allMutationRegistry_ok (h : (allMutationRegistry family).registration m = .ok r) :
    ∃ o : MutationOperator, r = o.registration family ∧ o.Invokes m := by
  unfold allMutationRegistry at h
  obtain ⟨o, -, hr, hinvokes⟩ := MutationOperator.registry_ok h
  exact ⟨o, hr, hinvokes⟩

theorem allMutationRegistry_of {o : MutationOperator} (h : o.Invokes m) :
    (allMutationRegistry family).registration m = .ok (o.registration family) := by
  unfold allMutationRegistry
  exact MutationOperator.registry_of o.mem_allOperators h

end Registries

/-- A pipeline with all the operators, for one selected signer. -/
def builtinPipeline (sha : Sha256Hash) (selected : BuiltinSigner)
    (limits : MutationPipelineLimits) : MutationPipeline SignerRef where
  sha256 := sha
  signers := (builtinFamily sha selected).toSignerProtocol
  registry := allMutationRegistry (builtinFamily sha selected)
  limits := limits

end WebhookConformance
