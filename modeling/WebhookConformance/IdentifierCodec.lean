import WebhookConformance.DomainSeparation
import WebhookConformance.RunLock
import Mathlib.Data.List.GetD
import Mathlib.Data.List.Nodup

/-! The identifier codec of `domain/identifiers.py`: Crockford texts and 128-bit values, and the
grammars of planned, fresh and run identifiers. -/
namespace WebhookConformance

open Checked

section Codec

/-- The digits read so far, shifted, with the next one; `none` for a character that is no digit. -/
def crockfordValue (text : List Char) : Option Nat :=
  text.foldlM (fun integer c => (crockfordAlphabet.idxOf? c).map (integer * 32 + ·)) 0

def decodeCrockfordUlid (value : String) : Except String Bytes :=
  if value.toList.length ≠ 26 then .error "ULID payload must contain exactly 26 characters"
  else
    match crockfordValue value.toList with
    | none => .error "ULID payload must use canonical uppercase Crockford Base32"
    | some integer =>
      if 2 ^ 128 ≤ integer then .error "ULID payload exceeds 128 bits"
      else .ok (toBytesBig 16 integer)

variable {value : Bytes} {text : String}

theorem idxOf_crockford {digit : Nat} (h : digit < 32) :
    crockfordAlphabet.idxOf? (crockfordAlphabet.getD digit '0') = some digit := by
  revert digit
  decide

theorem crockford_of_idxOf {c : Char} {digit : Nat} (h : crockfordAlphabet.idxOf? c = some digit) :
    digit < 32 ∧ crockfordAlphabet.getD digit '0' = c := by
  obtain ⟨hlt, hc, -⟩ := List.idxOf?_eq_some_iff.1 h
  exact ⟨hlt, by rw [List.getD_eq_getElem _ _ hlt]; exact hc⟩

theorem crockfordValue_snoc (cs : List Char) (c : Char) :
    crockfordValue (cs ++ [c]) = (crockfordValue cs).bind fun integer =>
      (crockfordAlphabet.idxOf? c).map (integer * 32 + ·) := by
  rw [crockfordValue, List.foldlM_append, ← crockfordValue]
  cases crockfordValue cs with
  | none => rfl
  | some integer => simp

theorem crockfordValue_digits (count integer : Nat) :
    crockfordValue (crockfordDigits count integer) = some (integer % 32 ^ count) := by
  induction count generalizing integer with
  | zero => simp [crockfordDigits, crockfordValue, Nat.mod_one]
  | succ count ih =>
    rw [crockfordDigits, crockfordValue_snoc, ih, Option.bind_some,
      idxOf_crockford (Nat.mod_lt _ (by decide)), Option.map_some, Nat.pow_succ', Nat.mod_mul]
    congr 1
    omega

theorem underscore_not_digit (count integer : Nat) : '_' ∉ crockfordDigits count integer := by
  induction count generalizing integer with
  | zero => exact List.not_mem_nil
  | succ count ih =>
    have hdigit : ∀ digit < 32, crockfordAlphabet.getD digit '0' ≠ '_' := by decide
    rw [crockfordDigits, List.mem_append, List.mem_singleton, not_or]
    exact ⟨ih _, (hdigit _ (Nat.mod_lt _ (by decide))).symm⟩

theorem crockfordDigits_value {cs : List Char} {integer : Nat}
    (h : crockfordValue cs = some integer) : crockfordDigits cs.length integer = cs := by
  induction cs using List.reverseRecOn generalizing integer with
  | nil => rfl
  | append_singleton cs c ih =>
    rw [crockfordValue_snoc] at h
    obtain ⟨leading, hleading, h⟩ := Option.bind_eq_some_iff.1 h
    obtain ⟨digit, hdigit, rfl⟩ := Option.map_eq_some_iff.1 h
    obtain ⟨hlt, hc⟩ := crockford_of_idxOf hdigit
    rw [List.length_append, List.length_singleton, crockfordDigits,
      show (leading * 32 + digit) / 32 = leading by omega,
      show (leading * 32 + digit) % 32 = digit by omega, ih hleading, hc]

theorem decode_encode (h : value.length = 16) :
    ∃ text, encodeCrockfordUlid value = .ok text ∧ decodeCrockfordUlid text = .ok value := by
  have hbound := fromBytesBig_lt value
  rw [h] at hbound
  refine ⟨_, if_neg (not_not_intro h), ?_⟩
  rw [decodeCrockfordUlid, String.toList_ofList, crockfordDigits_length, if_neg (by decide),
    crockfordValue_digits, Nat.mod_eq_of_lt (by omega)]
  dsimp only
  rw [if_neg (by omega), ← h, toBytesBig_fromBytesBig]

theorem encode_decode (h : decodeCrockfordUlid text = .ok value) :
    value.length = 16 ∧ encodeCrockfordUlid value = .ok text := by
  rw [decodeCrockfordUlid] at h
  split at h
  · cases h
  · rename_i hlength
    split at h
    · cases h
    · rename_i integer hinteger
      split at h
      · cases h
      · rename_i hbound
        cases h
        have hdigits := crockfordDigits_value hinteger
        rw [not_not.1 hlength] at hdigits
        rw [encodeCrockfordUlid, if_neg (by rw [toBytesBig_length]; decide),
          fromBytesBig_toBytesBig (by omega), hdigits, String.ofList_toList]
        exact ⟨toBytesBig_length 16 integer, rfl⟩

end Codec

section Grammars

inductive FreshIdKind where
  | attempt
  | sample
  | evaluation
  | record
  deriving DecidableEq, Repr

def FreshIdKind.value : FreshIdKind → String
  | .attempt => "attempt"
  | .sample => "sample"
  | .evaluation => "evaluation"
  | .record => "record"

def plannedIdKinds : List PlannedIdKind :=
  [.scenario, .event, .delivery, .attemptPlan, .observation, .assertion]

def freshIdKinds : List FreshIdKind := [.attempt, .sample, .evaluation, .record]

/-- The rest of a text behind `value_`. -/
def afterKind (value : String) (text : String) : Option (List Char) :=
  text.toList.dropPrefix? (value.toList ++ ['_'])

/-- The first kind whose value starts the text, and the rest behind it. -/
def firstKind {κ : Type} (kinds : List κ) (value : κ → String) (text : String) :
    Option (κ × List Char) :=
  kinds.findSome? fun kind => (afterKind (value kind) text).map fun rest => (kind, rest)

def decodeKind {κ : Type} (kinds : List κ) (value : κ → String) (message text : String) :
    Except String (κ × Bytes) :=
  match firstKind kinds value text with
  | some (kind, rest) => (decodeCrockfordUlid (String.ofList rest)).map fun raw => (kind, raw)
  | none => .error message

def parsePlannedId (text : String) : Except String (PlannedIdKind × Bytes) :=
  decodeKind plannedIdKinds PlannedIdKind.value
    "planned identifier has an unknown or physical-entity prefix" text

def parseFreshId (text : String) : Except String (FreshIdKind × Bytes) :=
  if plannedIdKinds.any fun kind => (afterKind kind.value text).isSome then
    .error "fresh identifier must not use a planned-entity prefix"
  else
    decodeKind freshIdKinds FreshIdKind.value
      "fresh identifier has an unknown or planned-entity prefix" text

/-- The kind of a parsed identifier is the expected one, if one is expected. -/
def requireKind {κ : Type} [DecidableEq κ] (text : String) (parsed : Except String (κ × Bytes))
    (message : κ → String) : Option κ → Except String String
  | none => parsed.map fun _ => text
  | some expected => do
    let (kind, _) ← parsed
    require (kind = expected) (message expected)
    return text

def validatePlannedId (text : String) : Option PlannedIdKind → Except String String :=
  requireKind text (parsePlannedId text) fun expected =>
    "planned identifier must use the " ++ expected.value ++ "_ prefix"

def validateFreshId (text : String) : Option FreshIdKind → Except String String :=
  requireKind text (parseFreshId text) fun expected =>
    "fresh identifier must use the " ++ expected.value ++ "_ prefix"

/-- The text is a kind's value, an underscore and the encoding of 128 bits. -/
def IdText (value : String) (text : String) (raw : Bytes) : Prop :=
  ∃ ulid, text.toList = value.toList ++ '_' :: ulid ∧
    decodeCrockfordUlid (String.ofList ulid) = .ok raw

variable {κ : Type} {kinds : List κ} {value : κ → String} {kind : κ} {text : String} {raw : Bytes}
  {rest ulid : List Char}

theorem afterKind_eq_some {lead : String} :
    afterKind lead text = some rest ↔ text.toList = lead.toList ++ '_' :: rest := by
  rw [afterKind, List.dropPrefix?_eq_some_iff]
  constructor
  · rintro ⟨found, htext, hfound⟩
    rw [htext, eq_of_beq hfound, List.append_assoc]
    rfl
  · intro htext
    exact ⟨lead.toList ++ ['_'], by rw [htext, List.append_assoc]; rfl, beq_self_eq_true _⟩

theorem ulid_digits (h : decodeCrockfordUlid (String.ofList ulid) = .ok raw) :
    ulid.length = 26 ∧ '_' ∉ ulid := by
  obtain ⟨hlength, hencode⟩ := encode_decode h
  rw [encodeCrockfordUlid, if_neg (not_not_intro hlength)] at hencode
  have hdigits := String.ofList_injective (Except.ok.inj hencode)
  rw [← hdigits]
  exact ⟨crockfordDigits_length 26 _, underscore_not_digit 26 _⟩

/-- A value that starts an identifier is not longer than the identifier's own. -/
theorem lead_of_idText {lead own : List Char} (hulid : '_' ∉ ulid)
    (h : own ++ '_' :: ulid = lead ++ '_' :: rest) : lead ++ ['_'] <+: own ++ ['_'] := by
  obtain ⟨more, rfl, hmore⟩ | ⟨more, rfl, hmore⟩ := List.append_eq_append_iff.1 h
  · cases more with
    | nil => exact ⟨[], by simp⟩
    | cons c more =>
      -- the underscore of a longer value would stand in the payload
      obtain ⟨-, hpayload⟩ := List.cons.inj hmore
      exact absurd (by rw [hpayload]; simp) hulid
  · cases more with
    | nil => exact ⟨[], by simp⟩
    | cons c more =>
      obtain ⟨hc, -⟩ := List.cons.inj hmore
      rw [← hc, List.append_assoc]
      exact (List.prefix_append_right_inj lead).2 ⟨more ++ ['_'], rfl⟩

/-- No value starts another one, so the first kind that fits is the identifier's own. -/
theorem firstKind_of_idText (hkind : kind ∈ kinds) (hulid : '_' ∉ ulid)
    (hfree : ∀ other ∈ kinds,
      (value other).toList ++ ['_'] <+: (value kind).toList ++ ['_'] → other = kind)
    (htext : text.toList = (value kind).toList ++ '_' :: ulid) :
    firstKind kinds value text = some (kind, ulid) := by
  induction kinds with
  | nil => cases hkind
  | cons first kinds ih =>
    rw [firstKind, List.findSome?_cons]
    cases hfirst : afterKind (value first) text with
    | some rest =>
      have hrest := htext.symm.trans (afterKind_eq_some.1 hfirst)
      cases hfree first List.mem_cons_self (lead_of_idText hulid hrest)
      cases List.append_cancel_left hrest
      rfl
    | none =>
      obtain rfl | hkind := List.mem_cons.1 hkind
      · rw [afterKind_eq_some.2 htext] at hfirst
        cases hfirst
      · exact ih hkind fun other hother => hfree other (List.mem_cons_of_mem first hother)

theorem decodeKind_ok {message : String} (hkind : kind ∈ kinds)
    (hfree : ∀ other ∈ kinds,
      (value other).toList ++ ['_'] <+: (value kind).toList ++ ['_'] → other = kind) :
    decodeKind kinds value message text = .ok (kind, raw) ↔ IdText (value kind) text raw := by
  constructor
  · intro h
    rw [decodeKind] at h
    split at h
    · rename_i found rest hfirst
      obtain ⟨decoded, hdecoded, heq⟩ := map_ok h
      cases heq
      obtain ⟨other, -, hother⟩ := List.exists_of_findSome?_eq_some hfirst
      obtain ⟨behind, hbehind, heq⟩ := Option.map_eq_some_iff.1 hother
      cases heq
      exact ⟨rest, afterKind_eq_some.1 hbehind, hdecoded⟩
    · cases h
  · rintro ⟨ulid, htext, hulid⟩
    rw [decodeKind, firstKind_of_idText hkind (ulid_digits hulid).2 hfree htext]
    dsimp only
    rw [hulid]
    rfl

/-- The payload has a fixed length, so a text has one value in front of it. -/
theorem IdText.value_eq {own other : String} {raw' : Bytes} (h : IdText own text raw)
    (h' : IdText other text raw') : own = other := by
  obtain ⟨ulid, htext, hulid⟩ := h
  obtain ⟨ulid', htext', hulid'⟩ := h'
  have hlength : ('_' :: ulid).length = ('_' :: ulid').length := by
    rw [List.length_cons, List.length_cons, (ulid_digits hulid).1, (ulid_digits hulid').1]
  exact String.toList_injective (List.append_inj' (htext.symm.trans htext') hlength).1

theorem mem_plannedIdKinds (kind : PlannedIdKind) : kind ∈ plannedIdKinds := by
  cases kind <;> decide

theorem mem_freshIdKinds (kind : FreshIdKind) : kind ∈ freshIdKinds := by
  cases kind <;> decide

theorem values_free :
    (∀ kind ∈ plannedIdKinds, ∀ other ∈ plannedIdKinds,
      other.value.toList ++ ['_'] <+: kind.value.toList ++ ['_'] → other = kind) ∧
    (∀ kind ∈ freshIdKinds, ∀ other ∈ freshIdKinds,
      other.value.toList ++ ['_'] <+: kind.value.toList ++ ['_'] → other = kind) ∧
    (∀ kind ∈ freshIdKinds, ∀ other ∈ plannedIdKinds,
      ¬ other.value.toList ++ ['_'] <+: kind.value.toList ++ ['_']) := by
  refine ⟨?_, ?_, ?_⟩ <;> decide +kernel

theorem parsePlannedId_ok {kind : PlannedIdKind} :
    parsePlannedId text = .ok (kind, raw) ↔ IdText kind.value text raw :=
  decodeKind_ok (mem_plannedIdKinds kind) (values_free.1 kind (mem_plannedIdKinds kind))

theorem parseFreshId_ok {kind : FreshIdKind} :
    parseFreshId text = .ok (kind, raw) ↔ IdText kind.value text raw := by
  have hkind := mem_freshIdKinds kind
  rw [parseFreshId]
  split
  · rename_i hplanned
    refine ⟨nofun, fun ⟨ulid, htext, hulid⟩ => ?_⟩
    obtain ⟨other, hother, hsome⟩ := List.any_eq_true.1 hplanned
    obtain ⟨rest, hrest⟩ := Option.isSome_iff_exists.1 hsome
    exact absurd
      (lead_of_idText (ulid_digits hulid).2 (htext.symm.trans (afterKind_eq_some.1 hrest)))
      (values_free.2.2 kind hkind other hother)
  · exact decodeKind_ok hkind (values_free.2.1 kind hkind)

/-- The identifier grammars, one for each kind. -/
inductive IdGrammar where
  | run
  | planned (kind : PlannedIdKind)
  | fresh (kind : FreshIdKind)

def IdGrammar.accepts (text : String) : IdGrammar → Bool
  | .run => isRunId text
  | .planned kind => (validatePlannedId text (some kind)).isOk
  | .fresh kind => (validateFreshId text (some kind)).isOk

section Kinds

variable [DecidableEq κ] {parsed : Except String (κ × Bytes)} {message : κ → String}

theorem requireKind_some :
    (requireKind text parsed message (some kind)).isOk = true ↔ ∃ raw, parsed = .ok (kind, raw) := by
  constructor
  · intro h
    obtain ⟨accepted, h⟩ := exists_of_isOk h
    obtain ⟨⟨found, raw⟩, hparsed, h⟩ := bind_ok h
    obtain ⟨rfl, -⟩ := require_bind_ok.1 h
    exact ⟨raw, hparsed⟩
  · rintro ⟨raw, rfl⟩
    have hkind : requireKind text (.ok (kind, raw)) message (some kind) = .ok text :=
      require_bind_ok.2 ⟨rfl, rfl⟩
    rw [hkind]
    rfl

theorem requireKind_none :
    (requireKind text parsed message none).isOk = true ↔
      ∃ kind, (requireKind text parsed message (some kind)).isOk = true := by
  simp only [requireKind_some]
  rcases parsed with error | ⟨kind, raw⟩
  · exact ⟨nofun, fun ⟨_, _, h⟩ => nomatch h⟩
  · exact ⟨fun _ => ⟨kind, raw, rfl⟩, fun _ => rfl⟩

end Kinds

def IdGrammar.lead : IdGrammar → Option String
  | .run => none
  | .planned kind => some kind.value
  | .fresh kind => some kind.value

def allGrammars : List IdGrammar :=
  .run :: (plannedIdKinds.map .planned ++ freshIdKinds.map .fresh)

theorem mem_allGrammars (grammar : IdGrammar) : grammar ∈ allGrammars := by
  cases grammar with
  | run => exact List.mem_cons_self
  | planned kind => simp [allGrammars, mem_plannedIdKinds kind]
  | fresh kind => simp [allGrammars, mem_freshIdKinds kind]

/-- Behind the value of its kind, an identifier is the text of 128 bits. -/
theorem accepts_iff {grammar : IdGrammar} {lead : String} (h : grammar.lead = some lead) :
    grammar.accepts text = true ↔ ∃ raw, IdText lead text raw := by
  cases grammar with
  | run => cases h
  | planned kind =>
    cases h
    simp only [← parsePlannedId_ok]
    exact requireKind_some
  | fresh kind =>
    cases h
    simp only [← parseFreshId_ok]
    exact requireKind_some

theorem lead_injective {grammar other : IdGrammar} (h : grammar.lead = other.lead) :
    grammar = other := by
  have hnodup : (allGrammars.map IdGrammar.lead).Nodup := by decide +kernel
  exact List.inj_on_of_nodup_map hnodup (mem_allGrammars grammar) (mem_allGrammars other) h

theorem runId_underscore (h : isRunId text = true) : '_' ∉ text.toList := by
  simp only [isRunId, decide_eq_true_eq] at h
  intro hmem
  obtain ⟨i, hi, hget⟩ := List.mem_iff_getElem.1 hmem
  have hc := List.all_eq_true.1 h.2 ('_', i)
    (List.mem_zipIdx_iff_getElem?.2 (by rw [List.getElem?_eq_getElem hi, hget]))
  dsimp only at hc
  repeat' split at hc
  all_goals simp at hc

/-- The value in front of the payload names the grammar; a run id has no underscore. -/
theorem accepts_unique {grammar other : IdGrammar} (h : grammar.accepts text = true)
    (h' : other.accepts text = true) : grammar = other := by
  have hrun : isRunId text = true → ∀ g : IdGrammar, g.accepts text = true → g.lead = none := by
    intro hrun g hg
    cases hlead : g.lead with
    | none => rfl
    | some lead =>
      obtain ⟨raw, ulid, htext, -⟩ := (accepts_iff hlead).1 hg
      exact absurd (by rw [htext]; simp) (runId_underscore hrun)
  apply lead_injective
  cases hlead : grammar.lead with
  | none =>
    cases grammar with
    | run => rw [hrun h other h']
    | planned kind => cases hlead
    | fresh kind => cases hlead
  | some lead =>
    cases hlead' : other.lead with
    | none =>
      cases other with
      | run => rw [hrun h' grammar h] at hlead; cases hlead
      | planned kind => cases hlead'
      | fresh kind => cases hlead'
    | some lead' =>
      obtain ⟨raw, hraw⟩ := (accepts_iff hlead).1 h
      obtain ⟨raw', hraw'⟩ := (accepts_iff hlead').1 h'
      rw [hraw.value_eq hraw']

/-- The codec is a bijection between 128-bit values and its texts, and every text has one grammar. -/
theorem identifier_codec :
    (∀ value : Bytes, value.length = 16 →
      ∃ text, encodeCrockfordUlid value = .ok text ∧ decodeCrockfordUlid text = .ok value) ∧
    (∀ text value, decodeCrockfordUlid text = .ok value →
      value.length = 16 ∧ ∀ other, encodeCrockfordUlid other = .ok text ↔ other = value) ∧
    (∀ text, (validatePlannedId text none).isOk = true ↔
      ∃ kind, (IdGrammar.planned kind).accepts text = true) ∧
    (∀ text, (validateFreshId text none).isOk = true ↔
      ∃ kind, (IdGrammar.fresh kind).accepts text = true) ∧
    (∀ (grammar : IdGrammar) lead, grammar.lead = some lead → ∀ text,
      grammar.accepts text = true ↔ ∃ raw, IdText lead text raw) ∧
    ∀ text (grammar other : IdGrammar), grammar.accepts text = true → other.accepts text = true →
      grammar = other := by
  refine ⟨fun _ => decode_encode, ?_, fun _ => requireKind_none, fun _ => requireKind_none,
    fun _ _ h _ => accepts_iff h, fun _ _ _ => accepts_unique⟩
  intro text value h
  obtain ⟨hlength, hencode⟩ := encode_decode h
  refine ⟨hlength, fun other => ⟨?_, ?_⟩⟩
  · intro hother
    have hlength' : other.length = 16 := by
      by_contra hne
      rw [encodeCrockfordUlid, if_pos hne] at hother
      cases hother
    obtain ⟨text', hencode', hdecode'⟩ := decode_encode hlength'
    rw [hother] at hencode'
    cases hencode'
    exact Except.ok.inj (hdecode'.symm.trans h)
  · rintro rfl
    exact hencode

/-- The text of one value is accepted behind the value of a kind, and by no other grammar. -/
theorem plannedEvent_codec :
    ∃ ulid, encodeCrockfordUlid (toBytesBig 16 77) = .ok ulid ∧
      (IdGrammar.planned .event).accepts ("event_" ++ ulid) = true ∧
      ∀ other : IdGrammar, other.accepts ("event_" ++ ulid) = true → .planned .event = other := by
  obtain ⟨hencode, hdecode, -, -, haccepts, hunique⟩ := identifier_codec
  obtain ⟨ulid, hulid, hback⟩ := hencode (toBytesBig 16 77) (toBytesBig_length 16 77)
  have hevent : (IdGrammar.planned .event).accepts ("event_" ++ ulid) = true := by
    refine (haccepts (.planned .event) "event" rfl _).2 ⟨toBytesBig 16 77, ulid.toList, ?_, ?_⟩
    · rw [String.toList_append]
      rfl
    · rw [String.ofList_toList]
      exact hback
  exact ⟨ulid, hulid, hevent, fun other => hunique _ _ other hevent⟩

end Grammars

end WebhookConformance
