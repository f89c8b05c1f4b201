import WebhookConformance.Domain

/-! Terminal-result classification and the locked precedence reduction of
`runtime/verdicts.py`. -/
namespace WebhookConformance

inductive AssertionErrorOrigin where
  | environment
  | harness
  | invalidInput
  deriving DecidableEq, Repr

def errorResult : AssertionErrorOrigin → ResultCategory
  | .environment => .environmentError
  | .harness => .harnessError
  | .invalidInput => .invalidInput

def attemptResult : AttemptClassification → ResultCategory
  | .planned => .pass
  | .receiverAccepted => .pass
  | .receiverRejected => .receiverFailure
  | .environmentFailure => .environmentError
  | .harnessFailure => .harnessError
  | .cancelled => .cancelled
  | .ambiguous => .ambiguous

def precedence : List ResultCategory :=
  [.harnessError, .invalidInput, .ambiguous, .environmentError, .unsupported,
   .receiverFailure, .cancelled, .pass]

def precedenceIndex (c : ResultCategory) : Nat := precedence.idxOf c

/-- The exit column of `RESULT_TO_EXIT`. -/
def exitForResult : ResultCategory → Nat
  | .pass => 0
  | .receiverFailure => 1
  | .invalidInput => 2
  | .environmentError => 3
  | .ambiguous => 4
  | .harnessError => 5
  | .unsupported => 6
  | .cancelled => 130

/-- One terminal category with its documented process exit code. -/
structure TerminalVerdict where
  category : ResultCategory
  exitCode : Nat
  exit_eq : exitForResult category = exitCode
  deriving DecidableEq

def terminalVerdict (c : ResultCategory) : TerminalVerdict := ⟨c, exitForResult c, rfl⟩

@[simp] theorem terminalVerdict_category (c : ResultCategory) :
    (terminalVerdict c).category = c := rfl

def classifyAssertionVerdict (result : AssertionResult) (state : AssertionState)
    (errorOrigin : Option AssertionErrorOrigin) : Except String TerminalVerdict :=
  match state, result with
  | .passed, .pass => .ok (terminalVerdict .pass)
  | .failed, .fail => .ok (terminalVerdict .receiverFailure)
  | .unsupported, .error => .ok (terminalVerdict .unsupported)
  | .unsupported, .skipped => .ok (terminalVerdict .unsupported)
  | .error, .error =>
    match errorOrigin with
    | none => .error "errored assertions require an explicit error origin"
    | some o => .ok (terminalVerdict (errorResult o))
  | .cancelled, _ => .ok (terminalVerdict .cancelled)
  | _, _ => .error "assertion result and lifecycle state do not form a terminal verdict"

def classifyAttemptVerdict (c : AttemptClassification) : TerminalVerdict :=
  terminalVerdict (attemptResult c)

/-- A durable terminal result wins; otherwise the first category of least precedence index. -/
def reduceTerminalVerdicts (categories : List ResultCategory)
    (durablyTerminal : Option ResultCategory) : Except String TerminalVerdict :=
  match categories.argmin precedenceIndex with
  | none => .error "categories must be a nonempty tuple of ResultCategory values"
  | some c => .ok (terminalVerdict (durablyTerminal.getD c))

theorem precedenceIndex_injective : Function.Injective precedenceIndex := by
  intro a b h
  revert h
  cases a <;> cases b <;> decide

theorem precedenceIndex_le_pass (c : ResultCategory) :
    precedenceIndex c ≤ precedenceIndex .pass := by
  cases c <;> decide

section Reduction

variable {cs : List ResultCategory} {v : TerminalVerdict}

theorem reduceTerminalVerdicts_argmin (h : reduceTerminalVerdicts cs none = .ok v) :
    v.category ∈ cs.argmin precedenceIndex := by
  unfold reduceTerminalVerdicts at h
  split at h
  · cases h
  · rename_i c hc
    cases h
    simpa using hc

theorem reduceTerminalVerdicts_mem (h : reduceTerminalVerdicts cs none = .ok v) :
    v.category ∈ cs :=
  List.argmin_mem (reduceTerminalVerdicts_argmin h)

theorem reduceTerminalVerdicts_le (h : reduceTerminalVerdicts cs none = .ok v)
    {c : ResultCategory} (hc : c ∈ cs) : precedenceIndex v.category ≤ precedenceIndex c :=
  List.le_of_mem_argmin hc (reduceTerminalVerdicts_argmin h)

/-- The reduction is total on the nonempty tuples its callers build. -/
theorem reduceTerminalVerdicts_ok (hne : cs ≠ []) : ∃ v, reduceTerminalVerdicts cs none = .ok v := by
  unfold reduceTerminalVerdicts
  cases h : cs.argmin precedenceIndex with
  | none => exact absurd (List.argmin_eq_none.mp h) hne
  | some c => exact ⟨_, rfl⟩

/-- `PASS` has the last place in the precedence, so one other fact decides the result. -/
theorem reduceTerminalVerdicts_pass_iff (h : reduceTerminalVerdicts cs none = .ok v) :
    v.category = .pass ↔ ∀ c ∈ cs, c = .pass := by
  constructor
  · intro hv c hc
    have hle := reduceTerminalVerdicts_le h hc
    rw [hv] at hle
    exact precedenceIndex_injective (le_antisymm (precedenceIndex_le_pass c) hle)
  · intro hall
    exact hall _ (reduceTerminalVerdicts_mem h)

end Reduction

end WebhookConformance
