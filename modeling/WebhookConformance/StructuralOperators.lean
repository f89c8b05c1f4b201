import WebhookConformance.SignatureOperators

/-! The structural JSON operators (`mutations/structural.py`): strict parsing, JSON Pointers, the
six operators and the canonical bytes they write. -/
namespace WebhookConformance

open Checked ByteText

section CanonicalBytes

/-- The UTF-16 code units of a text. -/
def utf16Units (text : String) : List Nat :=
  text.toList.flatMap fun c =>
    if c.toNat < 0x10000 then [c.toNat]
    else [0xd800 + (c.toNat - 0x10000) / 0x400, 0xdc00 + (c.toNat - 0x10000) % 0x400]

/-- The order of `_utf16_sort_key`. -/
def utf16Le (a b : String) : Prop := utf16Units a ≤ utf16Units b

instance : DecidableRel utf16Le := fun a b => inferInstanceAs (Decidable (utf16Units a ≤ utf16Units b))

def canonicalStyle : Json.Style := ⟨false, none⟩

def canonicalJsonText (v : Json) : List Char := (v.sortKeys utf16Le).write canonicalStyle 0

/-- `canonical_json_bytes`. -/
def canonicalJsonBytes (v : Json) : Bytes := utf8 (String.ofList (canonicalJsonText v))

end CanonicalBytes

section Documents

def maxParameterDepth : Nat := 64
def maxParameterNodes : Nat := 100000
def maxParameterCollectionItems : Nat := 1000
def maxParameterKeyLength : Nat := 256
def maxParameterStringLength : Nat := 4096

/-- The exceptions of the strict JSON domain. -/
inductive JsonFault where
  | duplicateMember
  | unsupportedNumber
  | resource
  | unsupported
  deriving DecidableEq, Repr

/-- What `_validate_json_tree` asks of one value at its depth. -/
def checkJsonNode (v : Json) (depth : Nat) : Except JsonFault Unit :=
  if depth > maxParameterDepth then .error .resource
  else
    match v with
    | .null => .ok ()
    | .bool _ => .ok ()
    | .number n =>
      require (-(maxSafeInteger : Int) ≤ n ∧ n ≤ maxSafeInteger) .unsupportedNumber
    | .float _ => .error .unsupportedNumber
    | .text s => require (s.length ≤ maxParameterStringLength) .resource
    | .array items => require (items.length ≤ maxParameterCollectionItems) .resource
    | .object members =>
      require (members.length ≤ maxParameterCollectionItems ∧
        ∀ m ∈ members, m.1.length ≤ maxParameterKeyLength) .resource

def validateJsonTree (v : Json) : Except JsonFault Unit :=
  Json.walk checkJsonNode .resource id maxParameterNodes [(v, 1)]

/-- The document of a body. The parser meets the faults of a text in their order; here a repeated
name comes before the faults of the tree. -/
def loadDocument (body : Bytes) : Except JsonFault Json :=
  match (decodeUtf8 body).bind fun text => Json.read text.toList with
  | none => .error .unsupported
  | some v => do
    require (v.uniqueKeys = true) .duplicateMember
    validateJsonTree v
    return v

/-- `serialize_json_compact_utf8_v1`; `_measure_encoded_size` is the length of the bytes. -/
def serializeJsonCompactUtf8V1 (v : Json) : Except JsonFault Bytes := do
  validateJsonTree v
  require ((canonicalJsonBytes v).length ≤ maxSigningBodyBytes) .resource
  return canonicalJsonBytes v

end Documents

section Pointers

/-- The exceptions of a pointer operation; the third one is an operation that the root has not. -/
inductive PointerFault where
  | arrayIndex
  | missing
  | root
  deriving DecidableEq, Repr

def decodePointerToken : List Char → Option (List Char)
  | [] => some []
  | '~' :: '0' :: rest => (decodePointerToken rest).map ('~' :: ·)
  | '~' :: '1' :: rest => (decodePointerToken rest).map ('/' :: ·)
  | '~' :: _ => none
  | c :: rest => (decodePointerToken rest).map (c :: ·)

/-- `_parse_json_pointer`; its faults are a syntax error and a resource limit. -/
def parseJsonPointer (pointer : String) : Except JsonFault (List String) := do
  require (pointer.length ≤ maxParameterStringLength) .resource
  match pointer.toList with
  | [] => return []
  | '/' :: rest =>
    let encoded := splitOn '/' rest
    require (encoded.length ≤ maxParameterDepth) .resource
    match encoded.mapM decodePointerToken with
    | none => .error .unsupported
    | some tokens => return tokens.map String.ofList
  | _ => .error .unsupported

def maxArrayIndexDigits : Nat := 4

/-- The index that a reference token writes. -/
def arrayIndex (token : String) : Except PointerFault Nat :=
  match token.toList with
  | ['0'] => .ok 0
  | c :: cs =>
    if c ≠ '0' ∧ (c :: cs).all Char.isDigit = true then do
      require ((c :: cs).length ≤ maxArrayIndexDigits) .missing
      return readDigits (c :: cs)
    else .error .arrayIndex
  | [] => .error .arrayIndex

/-- `_existing_array_index`. -/
def existingArrayIndex (token : String) (length : Nat) : Except PointerFault Nat := do
  let index ← arrayIndex token
  require (index < length) .missing
  return index

/-- The child that a token names. -/
def childAt (v : Json) (token : String) : Except PointerFault Json :=
  match v with
  | .object members =>
    match members.lookup token with
    | none => .error .missing
    | some child => .ok child
  | .array items => do
    let index ← existingArrayIndex token items.length
    return items.getD index .null
  | _ => .error .missing

/-- `_resolve_target`. -/
def resolveTarget : Json → List String → Except PointerFault Json
  | v, [] => .ok v
  | v, token :: tokens => do
    let child ← childAt v token
    resolveTarget child tokens

/-- Another value in the place of an existing child. -/
def setChild (v : Json) (token : String) (child : Json) : Except PointerFault Json :=
  match v with
  | .object members => do
    require ((members.lookup token).isSome = true) .missing
    return .object (Assoc.assign token child members)
  | .array items => do
    let index ← existingArrayIndex token items.length
    return .array (items.set index child)
  | _ => .error .missing

def removeChild (v : Json) (token : String) : Except PointerFault Json :=
  match v with
  | .object members => do
    require ((members.lookup token).isSome = true) .missing
    return .object (members.filter fun m => m.1 ≠ token)
  | .array items => do
    let index ← existingArrayIndex token items.length
    return .array (items.eraseIdx index)
  | _ => .error .missing

/-- The document with its part at a pointer edited; the edit takes the parent and the last token. -/
def editParent (edit : Json → String → Except PointerFault Json) :
    Json → List String → Except PointerFault Json
  | _, [] => .error .root
  | v, [token] => edit v token
  | v, token :: tokens => do
    let child ← childAt v token
    let edited ← editParent edit child tokens
    setChild v token edited

/-- `_replace`. -/
def replaceTarget (document : Json) (tokens : List String) (replacement : Json) :
    Except PointerFault Json :=
  match tokens with
  | [] => .ok replacement
  | _ => editParent (fun parent token => setChild parent token replacement) document tokens

/-- `_remove`. -/
def removeTarget (document : Json) (tokens : List String) : Except PointerFault Json :=
  editParent removeChild document tokens

end Pointers

section Operators

variable {σ : Type} (input : MutationInput σ)

def resourceLimit {α : Type} (code message : String) : Except OperatorError α :=
  .error (.mutation (.resourceLimit code message))

/-- `_parse_structural_json`. -/
def parseStructuralJson : Except OperatorError Json := do
  require (input.state.body.length ≤ maxSigningBodyBytes)
    (.mutation (.resourceLimit "MUT_STRUCTURAL_JSON_BODY_LIMIT"
      "Structural JSON input exceeds the hard body-size limit."))
  match loadDocument input.state.body with
  | .ok document => return document
  | .error .duplicateMember =>
    input.notApplicable "MUT_STRUCTURAL_JSON_DUPLICATE_MEMBER"
      "Structural JSON does not permit duplicate object member names."
  | .error .unsupportedNumber =>
    input.notApplicable "MUT_STRUCTURAL_JSON_NUMBER_UNSUPPORTED"
      "Structural JSON requires lossless safe-integer numbers."
  | .error .resource =>
    resourceLimit "MUT_STRUCTURAL_JSON_RESOURCE_LIMIT"
      "Structural JSON exceeds a hard resource limit."
  | .error .unsupported =>
    input.notApplicable "MUT_STRUCTURAL_JSON_UNSUPPORTED"
      "Structural mutation input is not supported JSON."

/-- `_serialize_output`. -/
def serializeOutput (document : Json) : Except OperatorError (MutationOutput σ) :=
  match serializeJsonCompactUtf8V1 document with
  | .ok body => .ok (input.withBody body)
  | .error .resource =>
    resourceLimit "MUT_STRUCTURAL_JSON_OUTPUT_LIMIT"
      "Structural JSON output exceeds a hard resource limit."
  | .error .unsupportedNumber =>
    input.invalid "MUT_STRUCTURAL_VALUE_NUMBER_UNSUPPORTED"
      "A structural replacement value is outside the lossless numeric domain."
  | .error _ =>
    input.invalid "MUT_STRUCTURAL_VALUE_UNSUPPORTED"
      "A structural replacement value is not supported JSON."

/-- `_require_boolean`. -/
def booleanParameter (name code : String) (default : Bool) : Except OperatorError Bool :=
  match input.parameter name with
  | none => .ok default
  | some (.bool b) => .ok b
  | some _ => input.invalid code "A structural mutation boolean parameter is invalid."

def structuralParameters (required optional : List String) : Except OperatorError Unit := do
  checkParameters input "MUT_STRUCTURAL_PARAMETERS_INVALID"
    "Structural mutation parameters do not match the operator schema." required
    (optional ++ ["accept_prior_mutation"])
  let _ ← booleanParameter input "accept_prior_mutation" "MUT_ACCEPT_PRIOR_MUTATION_INVALID" false

/-- `_pointer_parameter`. -/
def pointerParameter : Except OperatorError (List String) :=
  match input.parameter "pointer" with
  | some (.text pointer) =>
    match parseJsonPointer pointer with
    | .ok tokens => .ok tokens
    | .error .resource =>
      resourceLimit "MUT_JSON_POINTER_LIMIT"
        "The structural mutation JSON Pointer exceeds a hard resource limit."
    | .error _ =>
      input.invalid "MUT_JSON_POINTER_INVALID" "The structural mutation JSON Pointer is invalid."
  | _ => input.invalid "MUT_JSON_POINTER_INVALID" "The structural mutation JSON Pointer is invalid."

/-- `_parameter_json_value`. -/
def valueParameter : Except OperatorError Json :=
  let value := (input.parameter "value").getD .null
  match validateJsonTree value with
  | .ok () => .ok value
  | .error .resource =>
    resourceLimit "MUT_STRUCTURAL_VALUE_LIMIT"
      "A structural replacement value exceeds a hard resource limit."
  | .error .unsupportedNumber =>
    input.invalid "MUT_STRUCTURAL_VALUE_NUMBER_UNSUPPORTED"
      "A structural replacement value is outside the lossless numeric domain."
  | .error _ =>
    input.invalid "MUT_STRUCTURAL_VALUE_UNSUPPORTED"
      "A structural replacement value is not supported JSON."

/-- `_require_text`. -/
def requiredText (name code : String) (maximum : Nat) : Except OperatorError String :=
  match input.parameter name with
  | some (.text text) =>
    if text ≠ "" ∧ text.length ≤ maximum then .ok text
    else input.invalid code "A structural mutation text parameter is invalid."
  | _ => input.invalid code "A structural mutation text parameter is invalid."

/-- The diagnostic of a pointer that does not resolve. -/
def PointerFault.raise {α : Type} : PointerFault → Except OperatorError α
  | .arrayIndex =>
    input.invalid "MUT_JSON_POINTER_ARRAY_INDEX_INVALID"
      "A JSON Pointer array token is not a canonical existing index."
  | .root =>
    input.invalid "MUT_JSON_POINTER_ROOT_OPERATION_INVALID"
      "The requested JSON Pointer operation is invalid at the document root."
  | .missing =>
    input.notApplicable "MUT_JSON_POINTER_MISSING"
      "The structural mutation JSON Pointer does not resolve."

def orRaise {α : Type} : Except PointerFault α → Except OperatorError α
  | .ok a => .ok a
  | .error fault => fault.raise input

/-- `_require_invocation`. -/
def requireInvocation (operator : MutationOperator) : Except OperatorError Unit :=
  require (input.realized.operatorId = operator.id ∧
      input.realized.operatorVersion = operatorVersion ∧ input.realized.stage = .structural)
    (.mutation (input.realized.conflict "MUT_STRUCTURAL_INVOCATION_CONFLICT"
      "A structural operator received a mismatched realized invocation." []))

/-- `if_missing`, `error` when it is absent: whether a missing target is ignored. -/
def ifMissingParameter : Except OperatorError Bool :=
  match input.parameter "if_missing" with
  | none => .ok false
  | some (.text "error") => .ok false
  | some (.text "ignore") => .ok true
  | some _ => input.invalid "MUT_REMOVE_IF_MISSING_INVALID"
      "The remove mutation missing-pointer policy is invalid."

/-- `RemoveJsonPointerV1.apply`. -/
def removeJsonPointerV1 : Except OperatorError (MutationOutput σ) := do
  requireInvocation input .removeJsonPointer
  structuralParameters input ["pointer"] ["if_missing"]
  let tokens ← pointerParameter input
  let ignoreMissing ← ifMissingParameter input
  let document ← parseStructuralJson input
  match removeTarget document tokens with
  | .ok removed => serializeOutput input removed
  | .error .missing =>
    if ignoreMissing then serializeOutput input document else PointerFault.missing.raise input
  | .error fault => fault.raise input

/-- The end of the operators that put a value in the place of another. -/
def replaceInDocument (tokens : List String) (replacement : Json) :
    Except OperatorError (MutationOutput σ) := do
  let document ← parseStructuralJson input
  let replaced ← orRaise input (replaceTarget document tokens replacement)
  serializeOutput input replaced

/-- `ReplaceJsonValueV1.apply`. -/
def replaceJsonValueV1 : Except OperatorError (MutationOutput σ) := do
  requireInvocation input .replaceJsonValue
  structuralParameters input ["pointer", "value"] []
  let tokens ← pointerParameter input
  let replacement ← valueParameter input
  replaceInDocument input tokens replacement

/-- `_ChangeEventFieldV1.apply`. -/
def changeEventFieldV1 (operator : MutationOperator) : Except OperatorError (MutationOutput σ) := do
  requireInvocation input operator
  structuralParameters input ["pointer", "value"] []
  let tokens ← pointerParameter input
  let replacement ← requiredText input "value" "MUT_EVENT_FIELD_VALUE_INVALID"
    maxParameterStringLength
  replaceInDocument input tokens (.text replacement)

/-- `_representative` over `_TARGET_TYPES`. -/
def representatives : List (String × Json) :=
  [("null", .null), ("boolean", .bool false), ("integer", .number 0), ("string", .text ""),
    ("array", .array []), ("object", .object [])]

/-- `_json_type`. -/
def jsonType : Json → String
  | .null => "null"
  | .bool _ => "boolean"
  | .number _ => "integer"
  | .text _ => "string"
  | .array _ => "array"
  | _ => "object"

def targetTypeParameter : Except OperatorError (String × Json) :=
  match input.parameter "target_type" with
  | some (.text name) =>
    match representatives.lookup name with
    | some value => .ok (name, value)
    | none => input.invalid "MUT_REPLACE_JSON_TYPE_INVALID" "The structural target type is invalid."
  | _ => input.invalid "MUT_REPLACE_JSON_TYPE_INVALID" "The structural target type is invalid."

/-- `ReplaceJsonTypeV1.apply`. -/
def replaceJsonTypeV1 : Except OperatorError (MutationOutput σ) := do
  requireInvocation input .replaceJsonType
  structuralParameters input ["pointer", "target_type"] []
  let tokens ← pointerParameter input
  let (targetType, replacement) ← targetTypeParameter input
  let document ← parseStructuralJson input
  let current ← orRaise input (resolveTarget document tokens)
  require (jsonType current ≠ targetType)
    (.mutation (input.realized.invalidParameter "MUT_REPLACE_JSON_TYPE_UNCHANGED"
      "The target type must differ from the existing JSON type."))
  let replaced ← orRaise input (replaceTarget document tokens replacement)
  serializeOutput input replaced

/-- The object that a field is added to. -/
def objectMembers (target : Json) : Except OperatorError (List (String × Json)) :=
  match target with
  | .object members => .ok members
  | _ => input.notApplicable "MUT_ADD_JSON_FIELD_TARGET_NOT_OBJECT"
      "The add-field JSON Pointer must resolve to an object."

/-- `AddJsonFieldV1.apply`. -/
def addJsonFieldV1 : Except OperatorError (MutationOutput σ) := do
  requireInvocation input .addJsonField
  structuralParameters input ["pointer", "name", "value"] ["overwrite"]
  let tokens ← pointerParameter input
  let name ← requiredText input "name" "MUT_ADD_JSON_FIELD_NAME_INVALID" maxParameterKeyLength
  let replacement ← valueParameter input
  let overwrite ← booleanParameter input "overwrite" "MUT_ADD_JSON_FIELD_OVERWRITE_INVALID" false
  let document ← parseStructuralJson input
  let target ← orRaise input (resolveTarget document tokens)
  let members ← objectMembers input target
  require ((members.lookup name).isSome = true → overwrite = true)
    (.mutation (input.realized.conflict "MUT_ADD_JSON_FIELD_COLLISION"
      "The requested JSON object member already exists." []))
  let added ← orRaise input
    (replaceTarget document tokens (.object (Assoc.assign name replacement members)))
  serializeOutput input added

end Operators

end WebhookConformance
