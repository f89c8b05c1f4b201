import WebhookConformance.StructuralOperators
import Mathlib.Data.List.GetD

/-! What the pointer operations of the structural operators do to a document, up to the order of
its members, and when the canonical bytes of an edited document are the bytes it was read from. -/
namespace WebhookConformance

open Checked

section Order

theorem utf16Le_total (a b : String) : utf16Le a b ∨ utf16Le b a :=
  le_total (utf16Units a) (utf16Units b)

theorem utf16Le_trans (a b c : String) (hab : utf16Le a b) (hbc : utf16Le b c) : utf16Le a c :=
  le_trans (α := List Nat) hab hbc

/-- A value with the order of its members left aside. -/
def arranged (v : Json) : Json := v.sortKeys utf16Le

theorem arranged_idem (v : Json) : arranged (arranged v) = arranged v :=
  Json.sortKeys_idem utf16Le utf16Le_total utf16Le_trans v

theorem arranged_array (items : List Json) :
    arranged (.array items) = .array (items.map arranged) :=
  Json.sortKeys_array utf16Le items

theorem arranged_object (members : List (String × Json)) :
    arranged (.object members) = .object ((members.map fun m => (m.1, arranged m.2)).insertionSort
      fun m n => utf16Le m.1 n.1) :=
  Json.sortKeys_object utf16Le members

end Order

section CanonicalBytes

variable {body : Bytes} {document edited : Json}

/-- The canonical bytes say everything but the order of the members. -/
theorem read_canonicalJsonBytes (hintegral : edited.integral = true) :
    ∃ text, decodeUtf8 (canonicalJsonBytes edited) = some text ∧
      Json.read text.toList = some (arranged edited) := by
  refine ⟨_, decodeUtf8_utf8 _, ?_⟩
  have hread := @Json.read_write (arranged edited) canonicalStyle 0
    ((Json.sortKeys_integral utf16Le edited).trans hintegral) [] nofun
  rw [List.append_nil] at hread
  rw [String.toList_ofList]
  exact hread

end CanonicalBytes

end WebhookConformance
