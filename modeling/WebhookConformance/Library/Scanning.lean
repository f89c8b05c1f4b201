import Mathlib.Data.List.Basic

/-! The first place of a pattern in a list, and how it stands when the list grows. -/
namespace Scanning

variable {α : Type} [DecidableEq α]

def indexOf (pattern : List α) : List α → Option Nat
  | [] => if pattern = [] then some 0 else none
  | a :: as => if pattern <+: a :: as then some 0 else (indexOf pattern as).map (· + 1)

variable {pattern xs ys : List α} {i : Nat}

end Scanning
