import WebhookConformance.PointerEdits
import WebhookConformance.Library.JsonOrder

/-! Canonical bytes as identities of JSON values: the encoder of `domain/hashing.py` and the strict
parser of `manifest/loader.py`. -/
namespace WebhookConformance

open Checked

section Encoder

def writeList (opening closing : Char) (parts : List (List Char)) : List Char :=
  opening :: ([','].intercalate parts ++ [closing])

/-- `_encode_canonical` with `_encode_scalar`, `_encode_array` and `_encode_object`. -/
def canonicalAlgebra : Json.Algebra (Except String (List Char)) where
  null := .ok "null".toList
  bool b := .ok (if b then "true" else "false").toList
  number n := do
    require (-(maxSafeInteger : Int) ≤ n ∧ n ≤ maxSafeInteger)
      "canonical JSON integer exceeds the lossless I-JSON range"
    return Json.writeInt n
  float _ := .error "unsupported canonical JSON value type: float"
  text s := .ok (JsonText.quotePlain s.toList)
  array items := do
    let parts ← items.mapM id
    return writeList '[' ']' parts
  object members := do
    let parts ← (members.insertionSort fun m n => utf16Le m.1 n.1).mapM fun m => do
      let value ← m.2
      return JsonText.quotePlain m.1.toList ++ ':' :: value
    return writeList '{' '}' parts

def encodeCanonical : Json → Except String (List Char) := Json.fold canonicalAlgebra

/-- `canonical_json_bytes` with its refusals; on accepted values `canonicalJsonBytes` has the same
bytes. -/
def canonicalEncoding (v : Json) : Except String Bytes := do
  let text ← encodeCanonical v
  return utf8 (String.ofList text)

end Encoder

section ManifestParser

def maxManifestNodes : Nat := 1000000
def maxManifestDepth : Nat := 64

/-- `_validate_tree_bounds`; the values of a container are taken from its end. -/
def validateTreeBounds (v : Json) : Except String Unit :=
  Json.walk (fun _ depth => require (depth ≤ maxManifestDepth) "MANIFEST_DEPTH_LIMIT")
    "MANIFEST_NODE_LIMIT" List.reverse maxManifestNodes [(v, 1)]

/-- `_parse_manifest`, with the code of its diagnostic. -/
def parseManifest (value : Bytes) : Except String Json :=
  match decodeUtf8 value with
  | none => .error "MANIFEST_UTF8_INVALID"
  | some text =>
    match Json.read text.toList with
    | none => .error "MANIFEST_JSON_INVALID"
    | some v => do
      require (v.integral = true ∧ v.uniqueKeys = true) "MANIFEST_JSON_INVALID"
      match v with
      | .object members =>
        validateTreeBounds (.object members)
        return .object members
      | _ => .error "MANIFEST_ROOT_INVALID"

end ManifestParser

section KeyOrder

theorem utf16Units_injective {a b : String} (h : utf16Units a = utf16Units b) : a = b := by
  have hchars : ∀ cs ds : List Char,
      (cs.flatMap fun c => if c.toNat < 0x10000 then [c.toNat]
        else [0xd800 + (c.toNat - 0x10000) / 0x400, 0xdc00 + (c.toNat - 0x10000) % 0x400]) =
      (ds.flatMap fun c => if c.toNat < 0x10000 then [c.toNat]
        else [0xd800 + (c.toNat - 0x10000) / 0x400, 0xdc00 + (c.toNat - 0x10000) % 0x400]) →
      cs = ds := by
    intro cs
    induction cs with
    | nil =>
      intro ds hunits
      cases ds with
      | nil => rfl
      | cons d ds =>
        rw [List.flatMap_cons] at hunits
        split at hunits <;> cases hunits
    | cons c cs ih =>
      intro ds hunits
      cases ds with
      | nil =>
        rw [List.flatMap_cons] at hunits
        split at hunits <;> cases hunits
      | cons d ds =>
        rw [List.flatMap_cons, List.flatMap_cons] at hunits
        have hc := JsonText.not_surrogate c
        have hd := JsonText.not_surrogate d
        have hclt := JsonText.toNat_lt c
        have hdlt := JsonText.toNat_lt d
        have hfinish : c.toNat = d.toNat → cs = ds → c :: cs = d :: ds := by
          intro hhead htail
          rw [Char.toNat_inj.1 hhead, htail]
        split at hunits <;> split at hunits
        · obtain ⟨hhead, htail⟩ := List.cons.inj hunits
          exact hfinish hhead (ih ds htail)
        · have hhead := (List.cons.inj hunits).1
          omega
        · have hhead := (List.cons.inj hunits).1
          omega
        · obtain ⟨hhigh, hrest⟩ := List.cons.inj hunits
          obtain ⟨hlow, htail⟩ := List.cons.inj hrest
          exact hfinish (by omega) (ih ds htail)
  exact String.toList_inj.1 (hchars _ _ h)

theorem utf16Le_antisymm (a b : String) (hab : utf16Le a b) (hba : utf16Le b a) : a = b :=
  utf16Units_injective (le_antisymm (α := List Nat) hab hba)

/-- Equal values are those with one arranged form. -/
theorem same_iff_arranged {v w : Json} (hv : v.uniqueKeys = true) (hw : w.uniqueKeys = true) :
    v.same w ↔ arranged v = arranged w :=
  Json.same_iff_sortKeys utf16Le_total utf16Le_trans utf16Le_antisymm hv hw

end KeyOrder

section EncoderSpec

/-- The values that have a canonical form. -/
def encodable : Json → Bool :=
  Json.fold
    { null := true
      bool := fun _ => true
      number := fun n => decide (-(maxSafeInteger : Int) ≤ n ∧ n ≤ maxSafeInteger)
      float := fun _ => false
      text := fun _ => true
      array := fun items => items.all id
      object := fun members => members.all Prod.snd }

variable {v : Json} {items : List Json} {members : List (String × Json)}

theorem encodable_array : encodable (.array items) = true ↔ ∀ v ∈ items, encodable v = true := by
  rw [encodable, Json.fold_array]
  simp

theorem encodable_object :
    encodable (.object members) = true ↔ ∀ m ∈ members, encodable m.2 = true := by
  rw [encodable, Json.fold_object]
  simp

theorem integral_of_encodable (h : encodable v = true) : v.integral = true := by
  induction v using Json.induct with
  | array items ih =>
    rw [encodable_array] at h
    exact Json.integral_array.2 fun v hv => ih v hv (h v hv)
  | object members ih =>
    rw [encodable_object] at h
    exact Json.integral_object.2 fun m hm => ih m hm (h m hm)
  | float literal => cases h
  | _ => rfl

theorem writeList_eq (opening closing : Char) (level : Nat) (parts : List (List Char)) :
    writeList opening closing parts = canonicalStyle.wrap opening closing level parts := by
  cases parts with
  | nil => rfl
  | cons part parts =>
    have hjoin : ∀ (part : List Char) (parts : List (List Char)),
        [','].intercalate (part :: parts) = part ++ parts.flatMap fun p => ',' :: p := by
      intro part parts
      induction parts generalizing part with
      | nil => simp
      | cons next parts ih => rw [List.intercalate_cons_cons, ih]; simp
    unfold writeList Json.Style.wrap
    rw [hjoin]
    simp [Json.Style.newline, canonicalStyle]

theorem encodeCanonical_array : encodeCanonical (.array items) = (do
    let parts ← items.mapM encodeCanonical
    return writeList '[' ']' parts) := by
  rw [encodeCanonical, Json.fold_array]
  change (do let parts ← (items.map encodeCanonical).mapM id; return writeList '[' ']' parts) = _
  rw [List.mapM_map]
  rfl

/-- Members can be rewritten before or after they are sorted by their keys. -/
theorem insertionSort_map {α β : Type} (f : α → β) (members : List (String × α)) :
    (members.map fun m => (m.1, f m.2)).insertionSort (fun m n => utf16Le m.1 n.1) =
      (members.insertionSort fun m n => utf16Le m.1 n.1).map fun m => (m.1, f m.2) := by
  refine (List.map_insertionSort (fun m n : String × α => utf16Le m.1 n.1)
    (fun m n : String × β => utf16Le m.1 n.1) (fun m => (m.1, f m.2)) members ?_).symm
  intro m _ n _
  exact Iff.rfl

def encodeMember (m : String × Json) : Except String (List Char) := do
  let value ← encodeCanonical m.2
  return JsonText.quotePlain m.1.toList ++ ':' :: value

theorem encodeCanonical_object : encodeCanonical (.object members) = (do
    let parts ← (members.insertionSort fun m n => utf16Le m.1 n.1).mapM encodeMember
    return writeList '{' '}' parts) := by
  rw [encodeCanonical, Json.fold_object]
  unfold canonicalAlgebra
  dsimp only
  rw [insertionSort_map, List.mapM_map]
  rfl

theorem leaf_ok_iff {written text : List Char} :
    (Except.ok written : Except String (List Char)) = .ok text ↔ true = true ∧ text = written := by
  rw [Except.ok.injEq]
  exact ⟨fun h => ⟨rfl, h.symm⟩, fun h => h.2.symm⟩

theorem known_bind_iff {x : Except String (List (List Char))} {good : Prop}
    {parts : List (List Char)} {opening closing : Char} {text : List Char}
    (h : ∀ ps, x = .ok ps ↔ good ∧ ps = parts) :
    (do let ps ← x; return writeList opening closing ps) = .ok text ↔
      good ∧ text = writeList opening closing parts := by
  rw [bind_ok_iff]
  constructor
  · rintro ⟨ps, hps, htext⟩
    obtain ⟨hgood, rfl⟩ := (h ps).1 hps
    exact ⟨hgood, (pure_ok htext).symm⟩
  · rintro ⟨hgood, rfl⟩
    exact ⟨parts, (h parts).2 ⟨hgood, rfl⟩, rfl⟩

/-- The encoder accepts exactly the encodable values and writes the arranged form. -/
theorem encodeCanonical_ok_iff {text : List Char} (level : Nat) :
    encodeCanonical v = .ok text ↔
      encodable v = true ∧ text = (arranged v).write canonicalStyle level := by
  induction v using Json.induct generalizing text level with
  | null => exact leaf_ok_iff
  | bool b =>
    cases b with
    | true => exact leaf_ok_iff
    | false => exact leaf_ok_iff
  | number n =>
    change (do require _ _; pure (Json.writeInt n)) = Except.ok text ↔ decide _ = true ∧ _
    rw [require_bind_ok, decide_eq_true_iff]
    exact and_congr_right fun _ => ⟨fun h => (pure_ok h).symm, fun h => h ▸ rfl⟩
  | float literal => exact ⟨nofun, nofun⟩
  | text s => exact leaf_ok_iff
  | array items ih =>
    rw [encodeCanonical_array, encodable_array, arranged_array, Json.write_array, List.map_map,
      ← writeList_eq]
    have hparts := fun parts => @mapM_known_iff _ _ _ encodeCanonical
      (fun v => (arranged v).write canonicalStyle (level + 1)) (fun v => encodable v = true) items
      parts fun v hv text => ih v hv (level + 1)
    exact known_bind_iff hparts
  | object members ih =>
    rw [encodeCanonical_object, encodable_object, arranged_object, Json.write_object,
      ← writeList_eq, insertionSort_map, List.map_map]
    have hmember : ∀ m ∈ members.insertionSort (fun m n => utf16Le m.1 n.1), ∀ text,
        encodeMember m = .ok text ↔ encodable m.2 = true ∧
          text = canonicalStyle.quote m.1 ++ canonicalStyle.colon ++
            (arranged m.2).write canonicalStyle (level + 1) := by
      intro m hm text
      rw [List.mem_insertionSort] at hm
      unfold encodeMember
      rw [bind_ok_iff]
      constructor
      · rintro ⟨value, hvalue, htext⟩
        obtain ⟨hgood, rfl⟩ := (ih m hm (level + 1)).1 hvalue
        refine ⟨hgood, (pure_ok htext).symm.trans ?_⟩
        simp [Json.Style.quote, Json.Style.colon, canonicalStyle]
      · rintro ⟨hgood, rfl⟩
        refine ⟨_, (ih m hm (level + 1)).2 ⟨hgood, rfl⟩, ?_⟩
        simp [Json.Style.quote, Json.Style.colon, canonicalStyle, pure, Except.pure]
    have hparts := fun parts => @mapM_known_iff _ _ _ encodeMember _ (fun m => encodable m.2 = true)
      (members.insertionSort fun m n => utf16Le m.1 n.1) parts hmember
    simp only [List.mem_insertionSort] at hparts
    exact known_bind_iff hparts

theorem canonicalEncoding_ok_iff {bytes : Bytes} :
    canonicalEncoding v = .ok bytes ↔ encodable v = true ∧ bytes = canonicalJsonBytes v := by
  unfold canonicalEncoding
  rw [bind_ok_iff]
  constructor
  · rintro ⟨text, htext, hbytes⟩
    obtain ⟨hgood, rfl⟩ := (encodeCanonical_ok_iff 0).1 htext
    exact ⟨hgood, (pure_ok hbytes).symm⟩
  · rintro ⟨hgood, rfl⟩
    exact ⟨_, (encodeCanonical_ok_iff 0).2 ⟨hgood, rfl⟩, rfl⟩

end EncoderSpec

section Identity

variable {v w : Json} {bytes : Bytes}

theorem canonicalJsonBytes_inj (hv : v.integral = true) (hw : w.integral = true) :
    canonicalJsonBytes v = canonicalJsonBytes w ↔ arranged v = arranged w := by
  constructor
  · intro h
    obtain ⟨text, htext, hread⟩ := read_canonicalJsonBytes hv
    obtain ⟨text', htext', hread'⟩ := read_canonicalJsonBytes hw
    rw [h] at htext
    cases htext.symm.trans htext'
    exact Option.some.inj (hread.symm.trans hread')
  · intro h
    exact congrArg (fun v => utf8 (String.ofList (Json.write canonicalStyle v 0))) h

theorem validateTreeBounds_ok_iff :
    validateTreeBounds v = .ok () ↔ v.nodes ≤ maxManifestNodes ∧ v.depth ≤ maxManifestDepth := by
  unfold validateTreeBounds
  rw [Json.walk_ok_iff List.reverse_perm]
  simp only [List.map_cons, List.map_nil, List.sum_cons, List.sum_nil, Nat.add_zero,
    List.forall_mem_singleton, require_ok_iff, Json.within_le_iff, Nat.add_le_add_iff_right]

/-- What the parser makes of canonical bytes. -/
theorem parseManifest_canonical (hencodable : encodable v = true) (hunique : v.uniqueKeys = true) :
    parseManifest (canonicalJsonBytes v) = (match arranged v with
      | .object members => do
        validateTreeBounds (.object members)
        return .object members
      | _ => .error "MANIFEST_ROOT_INVALID") := by
  have hintegral := integral_of_encodable hencodable
  obtain ⟨text, htext, hread⟩ := read_canonicalJsonBytes hintegral
  have hvalid : (arranged v).integral = true ∧ (arranged v).uniqueKeys = true :=
    ⟨(Json.sortKeys_integral utf16Le v).trans hintegral,
      (Json.sortKeys_uniqueKeys utf16Le v).trans hunique⟩
  unfold parseManifest
  rw [htext]
  dsimp only
  rw [hread]
  dsimp only
  rw [require_of hvalid]
  rfl

/-- A value that a manifest can be. -/
def isObject : Json → Bool
  | .object _ => true
  | _ => false

theorem parseManifest_canonical_iff (hencodable : encodable v = true)
    (hunique : v.uniqueKeys = true) :
    (∃ parsed, parseManifest (canonicalJsonBytes v) = .ok parsed ∧ parsed.same v) ↔
      isObject v = true ∧ v.nodes ≤ maxManifestNodes ∧ v.depth ≤ maxManifestDepth := by
  have hsame : (arranged v).same v :=
    (same_iff_arranged ((Json.sortKeys_uniqueKeys utf16Le v).trans hunique) hunique).2
      (arranged_idem v)
  rw [parseManifest_canonical hencodable hunique]
  cases v with
  | object members =>
    have hbounds : validateTreeBounds (arranged (.object members)) = .ok () ↔
        (Json.object members).nodes ≤ maxManifestNodes ∧
          (Json.object members).depth ≤ maxManifestDepth := by
      rw [validateTreeBounds_ok_iff]
      unfold arranged
      rw [Json.sortKeys_nodes, Json.sortKeys_depth]
    rw [arranged_object] at hsame hbounds ⊢
    rw [← hbounds]
    dsimp only
    constructor
    · rintro ⟨parsed, hparsed, -⟩
      obtain ⟨⟨⟩, hbounds, -⟩ := bind_ok hparsed
      exact ⟨rfl, hbounds⟩
    · rintro ⟨-, hbounds⟩
      exact ⟨_, bind_of hbounds rfl, hsame⟩
  | array items =>
    rw [arranged_array]
    exact ⟨nofun, nofun⟩
  | _ => exact ⟨nofun, nofun⟩

def sampleManifest : Json :=
  .object [("b", .array [.bool true, .null]), ("a", .number 1)]

def reorderedManifest : Json :=
  .object [("a", .number 1), ("b", .array [.bool true, .null])]

theorem sampleManifest_bytes :
    canonicalEncoding sampleManifest = canonicalEncoding reorderedManifest ∧
      (canonicalEncoding sampleManifest).isOk = true ∧
      canonicalEncoding (.bool true) = .ok (utf8 "true") ∧
      parseManifest (utf8 "true") = .error "MANIFEST_ROOT_INVALID" := by
  refine ⟨?_, ?_, ?_, ?_⟩ <;> decide +kernel

end Identity

end WebhookConformance
