import WebhookConformance.PreflightRules
import WebhookConformance.PointerEdits
import WebhookConformance.BuiltinOperators

/-! An execution by the states it goes through, and its split at the end of the planning stages:
the operators of those stages read and write the body only. -/
namespace WebhookConformance

open Checked

section PlanningOperators

/-- The rank of the last stage that is realized when the plan is compiled. -/
def planningStageMaxRank : Nat := MutationStage.rawPreSign.rank

variable {σ : Type} {family : SignerFamily σ} {input other : MutationInput σ}
  {output : MutationOutput σ}

end PlanningOperators

end WebhookConformance
