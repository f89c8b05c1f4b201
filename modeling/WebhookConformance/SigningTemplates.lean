import WebhookConformance.DomainSeparation
import WebhookConformance.GenericSignatures
import WebhookConformance.MutationPipeline

/-! The length-prefixed signing input: which template and which fields a message was rendered
from. -/
namespace WebhookConformance

open Checked Framing

section Templates

def maxTemplateComponents : Nat := 16
def maxTemplateLiteralBytes : Nat := 1024

def TemplateComponent.literalLength : TemplateComponent → Nat
  | .literal bytes => bytes.length
  | .token _ => 0

def TemplateComponent.token? : TemplateComponent → Option SigningInputToken
  | .literal _ => none
  | .token selected => some selected

namespace CanonicalSigningTemplate

variable {template other : CanonicalSigningTemplate} {encoding : TimestampEncoding}
  {input input' : SigningInput} {message : Bytes}

/-- The checks of `CanonicalSigningTemplate.__post_init__`. -/
structure Valid (template : CanonicalSigningTemplate) : Prop where
  version : isSignerIdentifier template.version = true
  count : 1 ≤ template.components.length ∧ template.components.length ≤ maxTemplateComponents
  literals : (template.components.map TemplateComponent.literalLength).sum ≤
    maxTemplateLiteralBytes
  covers : template.components.filterMap TemplateComponent.token? ≠ []
  once : (template.components.filterMap TemplateComponent.token?).Nodup
  exactBody : template.framing = .exactBodyV1 → template.components = [.token .body]

/-- Every length in front of a version or a value fits its bytes. -/
def lengthCode (width : Nat) (hwidth : 0 < width) : LengthCode UInt8 where
  write := toBytesBig width
  width := width
  bound := 256 ^ width - 1
  width_pos := hwidth
  length_write := toBytesBig_length width
  write_inj m n hm hn h := by
    have hpow : 0 < 256 ^ width := Nat.pow_pos (by decide)
    exact toBytesBig_injective (by omega) (by omega) h

def versionCode : LengthCode UInt8 := lengthCode 2 (by decide)

def valueCode : LengthCode UInt8 := lengthCode 8 (by decide)

/-- The message is a version frame, a count and one tagged frame for each component. -/
theorem framedMessage_eq :
    template.framedMessage encoding input =
      lengthPrefixedTemplateDomain ++ (frame versionCode (utf8 template.version) ++
        (toBytesBig 1 template.components.length ++
          (template.components.map (TemplateComponent.frame encoding input)).flatMap
            (taggedFrame valueCode))) := by
  rw [framedMessage, List.flatMap_map, frame]
  simp only [List.append_assoc]
  rfl

theorem Valid.version_length (h : template.Valid) :
    (utf8 template.version).length ≤ versionCode.bound := by
  have hlength : template.version.toList.length ≤ 128 := by
    have hversion := h.version
    rw [isSignerIdentifier] at hversion
    split at hversion
    · cases hversion
    · rename_i c cs hcs
      simp only [Bool.and_eq_true, decide_eq_true_eq] at hversion
      rw [hcs, List.length_cons]
      omega
  have hbytes := utf8_length_le template.version
  have hbound : versionCode.bound = 65535 := rfl
  omega

theorem render_framed (hframing : template.framing = .lengthPrefixedV1)
    (h : template.render encoding input = .ok message) :
    message = template.framedMessage encoding input ∧
      (template.framedMessage encoding input).length ≤ maxSigningInputBytes := by
  simp only [render, hframing] at h
  obtain ⟨hlength, hmessage⟩ := require_bind_ok.1 h
  exact ⟨(pure_ok hmessage).symm, hlength⟩

/-- The bound on the message bounds each of its values. -/
theorem value_length (h : (template.framedMessage encoding input).length ≤ maxSigningInputBytes) :
    ∀ part ∈ template.components.map (TemplateComponent.frame encoding input),
      part.2.length ≤ valueCode.bound := by
  intro part hpart
  have hpart := @length_le_taggedFrames _ valueCode _ _ hpart
  have hmax : maxSigningInputBytes ≤ valueCode.bound := by decide
  rw [framedMessage_eq] at h
  simp only [List.length_append] at h
  omega

/-- The tag of a frame is its component's, and a literal is its own value. -/
theorem component_of_frame {c c' : TemplateComponent}
    (h : c.frame encoding input = c'.frame encoding input') : c = c' := by
  rcases c with bytes | token <;> rcases c' with bytes' | token'
  · rw [(Prod.mk.inj h).2]
  · cases token' <;> cases (Prod.mk.inj h).1
  · cases token <;> cases (Prod.mk.inj h).1
  · cases token <;> cases token' <;> first | rfl | cases (Prod.mk.inj h).1

theorem components_of_frames {components others : List TemplateComponent}
    (h : components.map (TemplateComponent.frame encoding input) =
      others.map (TemplateComponent.frame encoding input')) :
    components = others ∧
      ∀ c ∈ components, c.frame encoding input = c.frame encoding input' := by
  induction components generalizing others with
  | nil =>
    cases others with
    | nil => exact ⟨rfl, nofun⟩
    | cons c others => cases h
  | cons c components ih =>
    cases others with
    | nil => cases h
    | cons c' others =>
      obtain ⟨hframe, hrest⟩ := List.cons.inj h
      obtain ⟨rfl, hvalues⟩ := ih hrest
      cases component_of_frame hframe
      exact ⟨rfl, List.forall_mem_cons.2 ⟨hframe, hvalues⟩⟩

theorem framedMessage_injective (ht : template.Valid) (ho : other.Valid)
    (hsize : (template.framedMessage encoding input).length ≤ maxSigningInputBytes)
    (hsize' : (other.framedMessage encoding input').length ≤ maxSigningInputBytes)
    (h : template.framedMessage encoding input = other.framedMessage encoding input') :
    template.version = other.version ∧ template.components = other.components ∧
      ∀ c ∈ template.components, c.frame encoding input = c.frame encoding input' := by
  have hvalues := value_length hsize
  have hvalues' := value_length hsize'
  rw [framedMessage_eq, framedMessage_eq] at h
  obtain ⟨hversion, h⟩ :=
    frame_append_inj ht.version_length ho.version_length (List.append_cancel_left h)
  obtain ⟨-, hframes⟩ := List.append_inj h (by rw [toBytesBig_length, toBytesBig_length])
  obtain ⟨hcomponents, hequal⟩ :=
    components_of_frames (taggedFrames_injective hvalues hvalues' hframes)
  exact ⟨utf8_injective hversion, hcomponents, hequal⟩

/-- A framed message determines the template and the value of every field that it selects. -/
theorem framed_template_unambiguous (ht : template.Valid) (ho : other.Valid)
    (hframing : template.framing = .lengthPrefixedV1)
    (hframing' : other.framing = .lengthPrefixedV1)
    (h : template.render encoding input = .ok message)
    (h' : other.render encoding input' = .ok message) :
    template.version = other.version ∧ template.components = other.components ∧
      (.token .timestamp ∈ template.components →
        encodeTimestamp input.logicalTimeNs encoding = encodeTimestamp input'.logicalTimeNs encoding) ∧
      (.token .eventId ∈ template.components → input.eventId = input'.eventId) ∧
      (.token .body ∈ template.components → input.body = input'.body) := by
  obtain ⟨hmessage, hsize⟩ := render_framed hframing h
  obtain ⟨hmessage', hsize'⟩ := render_framed hframing' h'
  obtain ⟨hversion, hcomponents, hvalues⟩ :=
    framedMessage_injective ht ho hsize hsize' (hmessage.symm.trans hmessage')
  refine ⟨hversion, hcomponents, ?_, ?_, ?_⟩
  · intro hmem
    exact (Prod.mk.inj (hvalues _ hmem)).2
  · intro hmem
    exact utf8_injective (Prod.mk.inj (hvalues _ hmem)).2
  · intro hmem
    exact (Prod.mk.inj (hvalues _ hmem)).2

theorem framedNs_valid : genericHmacSha256FramedNsTemplate.Valid where
  version := by decide +kernel
  count := by decide
  literals := by decide
  covers := by decide
  once := by decide
  exactBody := nofun

/-- Two inputs that differ in their bodies have two messages. -/
theorem framedNs_bodies_differ :
    ∃ message, genericHmacSha256FramedNsTemplate.render .asciiDecimalNanoseconds dottedBody =
        .ok message ∧
      genericHmacSha256FramedNsTemplate.render .asciiDecimalNanoseconds dottedId ≠ .ok message := by
  have hsize : (genericHmacSha256FramedNsTemplate.framedMessage .asciiDecimalNanoseconds
      dottedBody).length ≤ maxSigningInputBytes := by
    decide +kernel
  have hmessage : genericHmacSha256FramedNsTemplate.render .asciiDecimalNanoseconds dottedBody =
      .ok (genericHmacSha256FramedNsTemplate.framedMessage .asciiDecimalNanoseconds dottedBody) :=
    require_bind_ok.2 ⟨hsize, rfl⟩
  refine ⟨_, hmessage, ?_⟩
  intro h
  obtain ⟨-, -, -, -, hbody⟩ := framed_template_unambiguous framedNs_valid framedNs_valid rfl rfl
    hmessage h
  exact absurd (hbody (by decide)) (by decide)

end CanonicalSigningTemplate

end Templates

end WebhookConformance
