import WebhookConformance.Library.Checked
import WebhookConformance.Library.Grouping
import Mathlib.Data.List.Sort

/-! Barrier release of delivery concurrency groups (`scheduler/barriers.py`). Worker tasks only
pull from the released cohorts, so a call is its releases and one callback result per item. -/
namespace WebhookConformance

def defaultDeliveryConcurrency : Nat := 10
def hardDeliveryConcurrency : Nat := 50
def maxGroupItems : Nat := 100000
def maxOrdinal : Nat := 9007199254740991

def tokenChar (c : Char) : Bool :=
  c.isAlphanum || c = '_' || c = '.' || c = ':' || c = '-'

/-- `[A-Za-z0-9_.:-]+` of bounded length. -/
def isToken (maximum : Nat) (value : String) : Bool :=
  1 ≤ value.length ∧ value.length ≤ maximum ∧ value.toList.all tokenChar

def token (value fieldName : String) (maximum : Nat) : Except String String :=
  if isToken maximum value then .ok value
  else .error (fieldName ++ " must be a bounded ASCII token")

structure ConcurrencyWork (τ : Type) where
  workId : String
  concurrencyGroup : String
  ordinal : Nat
  payload : τ

/-- The constructor with its `__post_init__` checks. -/
def concurrencyWork {τ : Type} (workId group : String) (ordinal : Nat) (payload : τ) :
    Except String (ConcurrencyWork τ) := do
  let _ ← token workId "work_id" 96
  let _ ← token group "concurrency_group" 128
  if maxOrdinal < ordinal then
    throw "ordinal must be a nonnegative safe integer"
  return ⟨workId, group, ordinal, payload⟩

structure BarrierRelease where
  concurrencyGroup : String
  eligibleWorkIds : List String
  deriving DecidableEq, Repr

def validateConcurrency (value : Option Nat) : Except String Nat :=
  let realized := value.getD defaultDeliveryConcurrency
  if realized < 1 ∨ hardDeliveryConcurrency < realized then
    .error "delivery concurrency must be between 1 and 50"
  else .ok realized

section Cohorts

variable {τ : Type}

/-- Cohort members run in `(ordinal, position)` order. -/
def cohortLe (a b : Nat × ConcurrencyWork τ) : Prop :=
  a.2.ordinal < b.2.ordinal ∨ (a.2.ordinal = b.2.ordinal ∧ a.1 ≤ b.1)

instance : DecidableRel (cohortLe (τ := τ)) := fun _ _ => inferInstanceAs (Decidable (_ ∨ _))

def indexed (work : List (ConcurrencyWork τ)) : List (Nat × ConcurrencyWork τ) :=
  work.zipIdx.map Prod.swap

def validateAndGroup (work : List (ConcurrencyWork τ)) :
    Except String (List (String × List (Nat × ConcurrencyWork τ))) :=
  if maxGroupItems < work.length then .error "work exceeds the scheduler item limit"
  else if ¬ (work.map ConcurrencyWork.workId).Nodup then
    .error "duplicate or conflicting work identity"
  else
    .ok ((Grouping.groupInOrder (fun entry => entry.2.concurrencyGroup) (indexed work)).map
      fun group => (group.1, group.2.insertionSort cohortLe))

def release (cohort : String × List (Nat × ConcurrencyWork τ)) : BarrierRelease :=
  ⟨cohort.1, cohort.2.map fun entry => entry.2.workId⟩

variable {ρ : Type}

/-- One call: the results in input order and the releases in group order. -/
def runConcurrencyGroups (work : List (ConcurrencyWork τ))
    (callback : ConcurrencyWork τ → Except String ρ) (maxConcurrency : Option Nat) :
    Except String (List ρ × List BarrierRelease) := do
  let _ ← validateConcurrency maxConcurrency
  let cohorts ← validateAndGroup work
  let completed ← work.mapM callback
  return (completed, cohorts.map release)

variable {work : List (ConcurrencyWork τ)}

theorem indexed_map_snd : (indexed work).map Prod.snd = work := by
  simp [indexed, Function.comp_def]

/-- The ids of a release are those of the items with its group. -/
theorem release_perm {cohort : String × List (Nat × ConcurrencyWork τ)}
    (h : cohort ∈ Grouping.groupInOrder (fun entry => entry.2.concurrencyGroup) (indexed work)) :
    (release (cohort.1, cohort.2.insertionSort cohortLe)).eligibleWorkIds.Perm
      ((work.filter (·.concurrencyGroup = cohort.1)).map ConcurrencyWork.workId) := by
  obtain ⟨hc, -⟩ := Grouping.mem_groupInOrder.mp h
  have hp := (List.perm_insertionSort cohortLe cohort.2).map fun entry => entry.2.workId
  refine hp.trans (List.Perm.of_eq ?_)
  rw [hc]
  conv_rhs => rw [← @indexed_map_snd τ work, List.filter_map, List.map_map]
  rfl

end Cohorts

end WebhookConformance
