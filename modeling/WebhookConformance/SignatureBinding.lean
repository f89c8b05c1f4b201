import WebhookConformance.Signatures

/-! What a valid signature says about the content it is presented with. -/
namespace WebhookConformance

open Checked ByteText

section Texts

theorem utf8_injective {s t : String} (h : utf8 s = utf8 t) : s = t := by
  have hbytes : s.toList.utf8Encode = t.toList.utf8Encode := congrArg List.toByteArray h
  rwa [← String.toByteArray_ofList, ← String.toByteArray_ofList, String.ofList_toList,
    String.ofList_toList, String.toByteArray_inj] at hbytes

def decimalAlphabet : List Char := "-0123456789".toList

theorem digit_mem_decimal {c : Char} (h : c.isDigit = true) : c ∈ decimalAlphabet := by
  have hrange : 48 ≤ c.toNat ∧ c.toNat ≤ 57 := by
    rw [Char.isDigit, Bool.and_eq_true, decide_eq_true_iff, decide_eq_true_iff] at h
    exact ⟨UInt32.le_iff_toNat_le.1 h.1, UInt32.le_iff_toNat_le.1 h.2⟩
  have hall : ∀ n ≤ 57, 48 ≤ n → Char.ofNat n ∈ decimalAlphabet := by decide
  rw [← Char.ofNat_toNat c]
  exact hall _ hrange.2 hrange.1

theorem mem_decimal {n : Int} {c : Char} (h : c ∈ (toString n).toList) : c ∈ decimalAlphabet := by
  have hdigits : ∀ m : Nat, c ∈ m.repr.toList → c ∈ decimalAlphabet := by
    intro m hc
    rw [Nat.toList_repr] at hc
    exact digit_mem_decimal (Nat.isDigit_of_mem_toDigits (by decide) (by decide) hc)
  cases n with
  | ofNat m => exact hdigits m h
  | negSucc m =>
    have hc : c ∈ ("-" ++ (m + 1).repr).toList := h
    rw [String.toList_append, List.mem_append] at hc
    obtain hc | hc := hc
    · rw [List.mem_singleton.1 hc]
      decide
    · exact hdigits _ hc

theorem decimal_free {n : Int} {c : Char} (h : c ∉ decimalAlphabet) : c ∉ (toString n).toList :=
  fun hc => h (mem_decimal hc)

/-- The full stop ends the text of a timestamp. -/
theorem dot_not_mem (n : Int) : (46 : UInt8) ∉ utf8 (toString n) := by
  have hall : ∀ c ∈ decimalAlphabet, (46 : UInt8) ∉ String.utf8EncodeChar c := by decide
  intro h
  obtain ⟨c, hc, hdot⟩ := List.mem_flatMap.1 h
  exact hall c (mem_decimal hc) hdot

theorem toDigits_injective {m n : Nat} (h : Nat.toDigits 10 m = Nat.toDigits 10 n) : m = n := by
  have hread := congrArg (Nat.ofDigitChars 10 · 0) h
  rwa [Nat.ofDigitChars_ten_toDigits, Nat.ofDigitChars_ten_toDigits] at hread

theorem toString_injective {m n : Int} (h : toString m = toString n) : m = n := by
  have hlist := congrArg String.toList h
  have hsign : ∀ k : Nat, ∀ ds : List Char, Nat.toDigits 10 k ≠ '-' :: ds := by
    intro k ds hk
    have hdash : ('-').isDigit = true :=
      Nat.isDigit_of_mem_toDigits (n := k) (by decide) (by decide) (hk ▸ List.mem_cons_self)
    cases hdash
  cases m with
  | ofNat m =>
    cases n with
    | ofNat n =>
      have heq : m.repr.toList = n.repr.toList := hlist
      rw [Nat.toList_repr, Nat.toList_repr] at heq
      rw [toDigits_injective heq]
    | negSucc n =>
      have heq : m.repr.toList = ("-" ++ (n + 1).repr).toList := hlist
      rw [Nat.toList_repr, String.toList_append] at heq
      exact absurd heq (hsign m _)
  | negSucc m =>
    cases n with
    | ofNat n =>
      have heq : ("-" ++ (m + 1).repr).toList = n.repr.toList := hlist
      rw [Nat.toList_repr, String.toList_append] at heq
      exact absurd heq.symm (hsign n _)
    | negSucc n =>
      have heq : ("-" ++ (m + 1).repr).toList = ("-" ++ (n + 1).repr).toList := hlist
      rw [String.toList_append, String.toList_append, Nat.toList_repr, Nat.toList_repr] at heq
      rw [Nat.succ.inj (toDigits_injective (List.append_cancel_left heq))]

theorem canonicalInteger_eq {text : List Char} {n : Int} (h : canonicalInteger text = some n) :
    (toString n).toList = text := by
  obtain ⟨-, htext⟩ := Option.filter_eq_some_iff.1 h
  exact of_decide_eq_true htext

theorem canonicalInteger_toString {m n : Int} (h : canonicalInteger (toString m).toList = some n) :
    n = m :=
  toString_injective (String.toList_inj.1 (canonicalInteger_eq h))

end Texts

section Messages

theorem append_dot_inj {a b : Bytes} {rest rest' : Bytes} (ha : (46 : UInt8) ∉ a)
    (hb : (46 : UInt8) ∉ b) (h : a ++ 46 :: rest = b ++ 46 :: rest') : a = b ∧ rest = rest' := by
  obtain ⟨c, rfl, hc⟩ | ⟨c, rfl, hc⟩ := List.append_eq_append_iff.1 h
  · cases c with
    | nil =>
      cases hc
      exact ⟨by simp, rfl⟩
    | cons x c =>
      cases hc
      simp at hb
  · cases c with
    | nil =>
      cases hc
      exact ⟨by simp, rfl⟩
    | cons x c =>
      cases hc
      simp at ha

theorem stripeMessage_inj {m n : Int} {body body' : Bytes}
    (h : stripeMessage m body = stripeMessage n body') : m = n ∧ body = body' := by
  have hdot : utf8 "." = [46] := by decide
  simp only [stripeMessage, hdot, List.append_assoc, List.singleton_append] at h
  obtain ⟨htime, hbody⟩ := append_dot_inj (dot_not_mem m) (dot_not_mem n) h
  exact ⟨toString_injective (utf8_injective htime), hbody⟩

/-- The second id goes on where the first one ends: with a full stop, the first timestamp, and then
its own end or another full stop. -/
def SigningInput.Continues (x y : SigningInput) : Prop :=
  ∃ tail, utf8 y.eventId = utf8 x.eventId ++ 46 :: tail ∧
    utf8 (toString x.seconds) ++ [46] <+: tail ++ [46]

/-- A text that runs past a timestamp goes on after it with a full stop. -/
theorem timestamp_prefix {time tail rest rest' : Bytes} (htime : (46 : UInt8) ∉ time)
    (h : time ++ 46 :: rest = tail ++ 46 :: rest') : time ++ [46] <+: tail ++ [46] := by
  obtain ⟨c, rfl, hc⟩ | ⟨c, rfl, hc⟩ := List.append_eq_append_iff.1 h
  · cases c with
    | nil => simp
    | cons x c =>
      cases hc
      exact ⟨c ++ [46], by simp⟩
  · cases c with
    | nil => simp
    | cons x c =>
      cases hc
      simp at htime

/-- Two Standard Webhooks inputs with one message agree, or the id of one continues the other's. -/
theorem standardMessage_inj {x y : SigningInput}
    (h : standardMessage x.eventId x.seconds x.body = standardMessage y.eventId y.seconds y.body) :
    (x.eventId = y.eventId ∧ x.seconds = y.seconds ∧ x.body = y.body) ∨ x.Continues y ∨
      y.Continues x := by
  have hdot : utf8 "." = [46] := by decide
  simp only [standardMessage, hdot, List.append_assoc, List.singleton_append] at h
  obtain ⟨c, hid, hc⟩ | ⟨c, hid, hc⟩ := List.append_eq_append_iff.1 h
  · cases c with
    | nil =>
      rw [List.append_nil] at hid
      obtain ⟨htime, hbody⟩ := append_dot_inj (dot_not_mem _) (dot_not_mem _) (List.cons.inj hc).2
      exact Or.inl ⟨(utf8_injective hid).symm, toString_injective (utf8_injective htime), hbody⟩
    | cons d tail =>
      obtain ⟨rfl, hrest⟩ := List.cons.inj hc
      exact Or.inr (Or.inl ⟨tail, hid, timestamp_prefix (dot_not_mem _) hrest⟩)
  · cases c with
    | nil =>
      rw [List.append_nil] at hid
      obtain ⟨htime, hbody⟩ := append_dot_inj (dot_not_mem _) (dot_not_mem _) (List.cons.inj hc).2
      exact Or.inl ⟨utf8_injective hid, toString_injective (utf8_injective htime.symm), hbody.symm⟩
    | cons d tail =>
      obtain ⟨rfl, hrest⟩ := List.cons.inj hc
      exact Or.inr (Or.inr ⟨tail, hid, timestamp_prefix (dot_not_mem _) hrest⟩)

/-- An id without a full stop continues no other. -/
theorem not_continues {x y : SigningInput} (h : (46 : UInt8) ∉ utf8 y.eventId) :
    ¬ x.Continues y := by
  rintro ⟨tail, hid, -⟩
  rw [hid] at h
  simp at h

end Messages

section Digests

theorem compareDigests_valid {expected supplied : List Bytes}
    (h : (compareDigests expected supplied).valid = true) : ∃ d ∈ expected, d ∈ supplied := by
  unfold compareDigests at h
  split at h
  · next hany =>
    obtain ⟨d, hd, hsupplied⟩ := List.any_eq_true.1 hany
    obtain ⟨d', hd', heq⟩ := List.any_eq_true.1 hsupplied
    obtain rfl := of_decide_eq_true heq
    exact ⟨d, hd, hd'⟩
  · cases h

/-- No two of the keys give the two messages one digest, unless the messages are the same. -/
def HmacSha256.Separates (hmac : HmacSha256) (keys : List Bytes) (m m' : Bytes) : Prop :=
  ∀ k ∈ keys, ∀ k' ∈ keys, hmac.digest k m = hmac.digest k' m' → k = k' ∧ m = m'

instance (hmac : HmacSha256) (keys : List Bytes) (m m' : Bytes) :
    Decidable (hmac.Separates keys m m') :=
  inferInstanceAs (Decidable (∀ k ∈ keys, _))

theorem signatureHeader_ok {name value : String} {header : SignatureHeader}
    (h : signatureHeader name value = .ok header) : header = ⟨name, value⟩ := by
  obtain ⟨_, -, h⟩ := bind_ok h
  obtain ⟨_, -, h⟩ := bind_ok h
  obtain ⟨_, -, h⟩ := bind_ok h
  exact (pure_ok h).symm

end Digests

namespace StripeV1Signer

variable {signer : StripeV1Signer} {x y : SigningInput}

theorem component_free {d : Bytes} {c : Char} (h : c ∉ "v1=".toList) (hhex : c ∉ hexAlphabet) :
    c ∉ component d := by
  rw [component, List.mem_append, not_or]
  exact ⟨h, fun hc => hhex (mem_toHex hc)⟩

/-- The components of a header value are found again. -/
theorem splitOn_headerValue (t : Int) (ds : List Bytes) :
    splitOn ',' (headerValue t (ds.map component)).toList =
      ("t=" ++ toString t).toList :: ds.map component := by
  rw [headerValue, String.toList_ofList]
  refine splitOn_intercalate (by simp) ?_
  intro piece hpiece
  obtain rfl | hpiece := List.mem_cons.1 hpiece
  · rw [String.toList_append, List.mem_append, not_or]
    exact ⟨by decide, decimal_free (by decide)⟩
  · obtain ⟨d, -, rfl⟩ := List.mem_map.1 hpiece
    exact component_free (by decide) (by decide)

theorem splitOn_time (t : Int) :
    splitOn '=' ("t=" ++ toString t).toList = [['t'], (toString t).toList] := by
  have htail : splitOn '=' (toString t).toList = [(toString t).toList] :=
    splitOn_of_not_mem (decimal_free (by decide))
  rw [String.toList_append, ← htail]
  exact @splitOn_append Char _ '=' ['t'] (toString t).toList (by decide)

theorem splitOn_component (d : Bytes) : splitOn '=' (component d) = [['v', '1'], toHex d] := by
  have htail : splitOn '=' (toHex d) = [toHex d] :=
    splitOn_of_not_mem fun hc => absurd (mem_toHex hc) (by decide)
  rw [← htail]
  exact @splitOn_append Char _ '=' ['v', '1'] (toHex d) (by decide)

theorem readComponent_time {t : Int} {found r : List Int × List Bytes}
    (h : readComponent found ("t=" ++ toString t).toList = some r) :
    r = (found.1 ++ [t], found.2) := by
  rw [readComponent, splitOn_time] at h
  dsimp only at h
  split at h
  · cases h
  · rw [if_pos rfl] at h
    obtain ⟨n, hn, h⟩ := Option.bind_eq_some_iff.1 h
    cases h
    rw [canonicalInteger_toString hn]

theorem readComponent_signature {d : Bytes} {found r : List Int × List Bytes}
    (h : readComponent found (component d) = some r) : r = (found.1, found.2 ++ [d]) := by
  rw [readComponent, splitOn_component] at h
  dsimp only at h
  split at h
  · cases h
  · rw [if_neg (by decide), if_pos rfl] at h
    split at h
    · cases h
    · rw [fromHex_toHex] at h
      cases h
      rfl

theorem foldlM_signatures {ds : List Bytes} {found r : List Int × List Bytes}
    (h : (ds.map component).foldlM readComponent found = some r) : r = (found.1, found.2 ++ ds) := by
  induction ds generalizing found with
  | nil =>
    cases h
    simp
  | cons d ds ih =>
    obtain ⟨mid, hmid, h⟩ := Option.bind_eq_some_iff.1 h
    rw [ih h, readComponent_signature hmid]
    simp

/-- What the parser makes of a header value that it accepts. -/
theorem parseHeader_headerValue {t t' : Int} {ds supplied : List Bytes}
    (h : parseHeader (headerValue t (ds.map component)) = some (t', supplied)) :
    t' = t ∧ supplied = ds := by
  rw [parseHeader, splitOn_headerValue] at h
  obtain ⟨_, -, h⟩ := Option.bind_eq_some_iff.1 h
  obtain ⟨found, hfound, h⟩ := Option.bind_eq_some_iff.1 h
  obtain ⟨first, hfirst, hfound⟩ := Option.bind_eq_some_iff.1 hfound
  obtain rfl := readComponent_time hfirst
  obtain rfl := foldlM_signatures hfound
  cases ds with
  | nil => cases h
  | cons d ds =>
    cases h
    exact ⟨rfl, rfl⟩

/-- The `v1` components of a header value. -/
def signaturesOf (value : String) : List (List Char) :=
  (splitOn ',' value.toList).filter ("v1=".toList.isPrefixOf ·)

/-- The signatures that the signer made for one input, presented with the timestamp and the body of
another. -/
def present (signer : StripeV1Signer) (x y : SigningInput) : Except SignerError VerificationResult := do
  let signed ← signer.sign x
  let signatures := signed.flatMap fun header => signaturesOf header.value
  let header ← signatureHeader signer.headerName (headerValue y.seconds signatures)
  signer.verify y [header]

theorem signaturesOf_headerValue (t : Int) (ds : List Bytes) :
    signaturesOf (headerValue t (ds.map component)) = ds.map component := by
  rw [signaturesOf, splitOn_headerValue, List.filter_cons, if_neg, List.filter_eq_self]
  · intro piece hpiece
    obtain ⟨d, -, rfl⟩ := List.mem_map.1 hpiece
    exact List.isPrefixOf_iff_prefix.2 (List.prefix_append _ _)
  · rw [String.toList_append]
    simp [List.isPrefixOf]

theorem canonicalMessage_ok {t : Int} {body canonical : Bytes}
    (h : stripeCanonicalMessage t body = .ok canonical) : canonical = stripeMessage t body := by
  obtain ⟨_, -, h⟩ := bind_ok h
  exact (pure_ok h).symm

theorem sign_ok {signed : List SignatureHeader} (h : signer.sign x = .ok signed) :
    signed = [⟨signer.headerName,
      headerValue x.seconds ((signer.digests (stripeMessage x.seconds x.body)).map component)⟩] := by
  obtain ⟨canonical, hcanonical, h⟩ := bind_ok h
  obtain ⟨_, -, h⟩ := bind_ok h
  obtain ⟨header, hheader, h⟩ := bind_ok h
  cases pure_ok h
  rw [signatureHeader_ok hheader, canonicalMessage_ok hcanonical]

/-- A valid presentation has a digest of both messages in common. -/
theorem present_valid {r : VerificationResult} (h : signer.present x y = .ok r)
    (hvalid : r.valid = true) : ∃ d ∈ signer.digests (stripeMessage y.seconds y.body),
      d ∈ signer.digests (stripeMessage x.seconds x.body) := by
  obtain ⟨signed, hsigned, h⟩ := bind_ok h
  obtain rfl := sign_ok hsigned
  obtain ⟨header, hheader, h⟩ := bind_ok h
  obtain rfl := signatureHeader_ok hheader
  rw [List.flatMap_singleton, signaturesOf_headerValue] at h
  obtain ⟨_, -, h⟩ := bind_ok h
  obtain ⟨matching, hmatching, h⟩ := bind_ok h
  obtain ⟨_, -, hmatching⟩ := bind_ok hmatching
  obtain rfl := pure_ok hmatching
  rw [List.filter_cons, if_pos (by simp), List.filter_nil] at h
  dsimp only at h
  split at h
  · cases pure_ok h
    cases hvalid
  next t supplied hparse =>
  obtain ⟨canonical, hcanonical, h⟩ := bind_ok h
  cases pure_ok h
  obtain ⟨rfl, rfl⟩ := parseHeader_headerValue hparse
  rw [← canonicalMessage_ok hcanonical]
  exact compareDigests_valid hvalid

end StripeV1Signer

namespace StandardWebhooksSigner

variable {signer : StandardWebhooksSigner} {x y : SigningInput}

def keys (signer : StandardWebhooksSigner) : List Bytes := signer.secrets.filterMap decodeSecret

theorem mem_digests {canonical d : Bytes} {ds : List Bytes} (h : signer.digests canonical = .ok ds)
    (hd : d ∈ ds) : ∃ key ∈ signer.keys, d = signer.hmac.digest key canonical := by
  obtain ⟨material, hmaterial, hdigest⟩ := exists_of_mem_right (mapM_ok_iff.1 h) hd
  cases hkey : decodeSecret material with
  | none =>
    rw [hkey] at hdigest
    cases hdigest
  | some key =>
    rw [hkey] at hdigest
    cases hdigest
    exact ⟨key, List.mem_filterMap.2 ⟨material, hmaterial, hkey⟩, rfl⟩

theorem readSignature_component {d r : Bytes} (h : readSignature (component d) = some r) : r = d := by
  have h' : (if isSignature (toBase64 d) then
      (fromBase64 (toBase64 d)).filter fun d => d.length = digestSize else none) = some r := h
  rw [fromBase64_toBase64] at h'
  split at h'
  · obtain ⟨heq, -⟩ := Option.filter_eq_some_iff.1 h'
    exact (Option.some.inj heq).symm
  · cases h'

theorem mapM_readSignature {ds supplied : List Bytes}
    (h : (ds.map component).mapM readSignature = some supplied) : supplied = ds := by
  induction ds generalizing supplied with
  | nil =>
    cases h
    rfl
  | cons d ds ih =>
    rw [List.map_cons, List.mapM_cons] at h
    obtain ⟨first, hfirst, h⟩ := Option.bind_eq_some_iff.1 h
    obtain ⟨rest, hrest, h⟩ := Option.bind_eq_some_iff.1 h
    cases h
    rw [readSignature_component hfirst, ih hrest]

theorem splitOn_components {ds : List Bytes} (hne : ds ≠ []) :
    splitOn ' ' ([' '].intercalate (ds.map component)) = ds.map component := by
  refine splitOn_intercalate (by simpa using hne) ?_
  intro piece hpiece
  obtain ⟨d, -, rfl⟩ := List.mem_map.1 hpiece
  rw [component, List.mem_append, not_or]
  refine ⟨by decide, fun hc => ?_⟩
  obtain hc | hc := mem_toBase64 hc
  · exact absurd hc (by decide +kernel)
  · cases hc

theorem parseSignatures_components {ds supplied : List Bytes} (hne : ds ≠ [])
    (h : parseSignatures (String.ofList ([' '].intercalate (ds.map component))) = some supplied) :
    supplied = ds := by
  rw [parseSignatures, String.toList_ofList, splitOn_components hne] at h
  obtain ⟨_, -, hread⟩ := Option.bind_eq_some_iff.1 h
  exact mapM_readSignature hread

theorem canonicalMessage_ok {eventId : String} {t : Int} {body canonical : Bytes}
    (h : standardCanonicalMessage eventId t body = .ok canonical) :
    canonical = standardMessage eventId t body := by
  obtain ⟨_, -, h⟩ := bind_ok h
  obtain ⟨_, -, h⟩ := bind_ok h
  obtain ⟨_, -, h⟩ := bind_ok h
  exact (pure_ok h).symm

theorem sign_ok {signed : List SignatureHeader} (h : signer.sign x = .ok signed) :
    ∃ ds, signer.digests (standardMessage x.eventId x.seconds x.body) = .ok ds ∧
      signed = [⟨webhookIdHeader, x.eventId⟩, ⟨webhookTimestampHeader, toString x.seconds⟩,
        ⟨signer.headerName, String.ofList ([' '].intercalate (ds.map component))⟩] := by
  obtain ⟨canonical, hcanonical, h⟩ := bind_ok h
  obtain ⟨ds, hds, h⟩ := bind_ok h
  obtain ⟨_, -, h⟩ := bind_ok h
  obtain ⟨id, hid, h⟩ := bind_ok h
  obtain ⟨timestamp, htimestamp, h⟩ := bind_ok h
  obtain ⟨signature, hsignature, h⟩ := bind_ok h
  cases pure_ok h
  rw [canonicalMessage_ok hcanonical] at hds
  exact ⟨ds, hds, by rw [signatureHeader_ok hid, signatureHeader_ok htimestamp,
    signatureHeader_ok hsignature]⟩

/-- The signatures that the signer made for one input, presented with the id, the timestamp and the
body of another. -/
def present (signer : StandardWebhooksSigner) (x y : SigningInput) :
    Except SignerError VerificationResult := do
  let signed ← signer.sign x
  let id ← signatureHeader webhookIdHeader y.eventId
  let timestamp ← signatureHeader webhookTimestampHeader (toString y.seconds)
  signer.verify y (id :: timestamp :: signed.filter (·.name = signer.headerName))

/-- A valid presentation has a digest of both messages in common. -/
theorem present_valid {r : VerificationResult} (h : signer.present x y = .ok r)
    (hvalid : r.valid = true) : ∃ k ∈ signer.keys, ∃ k' ∈ signer.keys,
      signer.hmac.digest k (standardMessage x.eventId x.seconds x.body) =
        signer.hmac.digest k' (standardMessage y.eventId y.seconds y.body) := by
  obtain ⟨signed, hsigned, h⟩ := bind_ok h
  obtain ⟨ds, hds, rfl⟩ := sign_ok hsigned
  obtain ⟨id, hid, h⟩ := bind_ok h
  obtain rfl := signatureHeader_ok hid
  obtain ⟨timestamp, htimestamp, h⟩ := bind_ok h
  obtain rfl := signatureHeader_ok htimestamp
  obtain ⟨hfree, hfree'⟩ := signer.headerName_free
  obtain ⟨_, -, h⟩ := bind_ok h
  simp only [matchingHeaders, List.filter_cons, List.filter_nil, hfree.symm, hfree'.symm, hfree, hfree',
    show webhookIdHeader ≠ webhookTimestampHeader by decide,
    show webhookTimestampHeader ≠ webhookIdHeader by decide, decide_true, decide_false, if_true,
    Bool.false_eq_true, if_false] at h
  obtain ⟨ids, hids, h⟩ := bind_ok h
  obtain ⟨timestamps, htimestamps, h⟩ := bind_ok h
  obtain ⟨signatures, hsignatures, h⟩ := bind_ok h
  obtain ⟨_, -, hids⟩ := bind_ok hids
  obtain ⟨_, -, htimestamps⟩ := bind_ok htimestamps
  obtain ⟨_, -, hsignatures⟩ := bind_ok hsignatures
  cases pure_ok hids
  cases pure_ok htimestamps
  cases pure_ok hsignatures
  dsimp only at h
  unfold verifyHeaders at h
  split at h
  swap
  · cases h
    cases hvalid
  next t supplied ht hsupplied =>
  split at h
  · cases h
    cases hvalid
  next canonical hcanonical =>
  obtain ⟨expected, hexpected, h⟩ := bind_ok h
  cases pure_ok h
  obtain ⟨d, hd, hd'⟩ := compareDigests_valid hvalid
  obtain rfl := canonicalInteger_toString ht
  have hne : ds ≠ [] := by
    rintro rfl
    have hlength := (mapM_ok_iff.1 hds).length_eq
    exact signer.secrets_count.1 (List.length_eq_zero_iff.1 hlength)
  rw [parseSignatures_components hne hsupplied] at hd'
  obtain ⟨k, hk, hdigest⟩ := mem_digests hds hd'
  obtain ⟨k', hk', hdigest'⟩ := mem_digests hexpected hd
  rw [canonicalMessage_ok hcanonical] at hdigest'
  exact ⟨k, hk, k', hk', hdigest.symm.trans hdigest'⟩

end StandardWebhooksSigner

section Binding

/-- A signature that verifies with the content of another input binds that content: the second and
the body under Stripe, and the id as well under Standard Webhooks, unless one of the two ids goes on
where the other one and its timestamp end. -/
theorem signatures_bind_content :
    (∀ (signer : StripeV1Signer) (x y : SigningInput) (r : VerificationResult),
      signer.hmac.Separates signer.secrets (stripeMessage x.seconds x.body)
        (stripeMessage y.seconds y.body) →
      signer.present x y = .ok r → r.valid = true →
      y.seconds = x.seconds ∧ y.body = x.body) ∧
    (∀ (signer : StandardWebhooksSigner) (x y : SigningInput) (r : VerificationResult),
      signer.hmac.Separates signer.keys (standardMessage x.eventId x.seconds x.body)
        (standardMessage y.eventId y.seconds y.body) →
      ¬ x.Continues y → ¬ y.Continues x →
      signer.present x y = .ok r → r.valid = true →
      y.eventId = x.eventId ∧ y.seconds = x.seconds ∧ y.body = x.body) := by
  constructor
  · intro signer x y r hsep hpresent hvalid
    obtain ⟨d, hd, hd'⟩ := StripeV1Signer.present_valid hpresent hvalid
    obtain ⟨k', hk', rfl⟩ := List.mem_map.1 hd
    obtain ⟨k, hk, hdigest⟩ := List.mem_map.1 hd'
    obtain ⟨-, hmessage⟩ := hsep k hk k' hk' hdigest
    obtain ⟨htime, hbody⟩ := stripeMessage_inj hmessage
    exact ⟨htime.symm, hbody.symm⟩
  · intro signer x y r hsep hxy hyx hpresent hvalid
    obtain ⟨k, hk, k', hk', hdigest⟩ := StandardWebhooksSigner.present_valid hpresent hvalid
    obtain ⟨-, hmessage⟩ := hsep k hk k' hk' hdigest
    obtain ⟨hid, htime, hbody⟩ | hcontinues | hcontinues := standardMessage_inj hmessage
    · exact ⟨hid.symm, htime.symm, hbody.symm⟩
    · exact absurd hcontinues hxy
    · exact absurd hcontinues hyx

/-- A stand-in for HMAC that keeps the messages of the fixtures apart. -/
def sampleHmac : HmacSha256 where
  digest key message := (message ++ key ++ List.replicate digestSize 0).take digestSize
  digest_length key message := by
    simp only [List.length_take, List.length_append, List.length_replicate]
    omega

def sampleStripe : StripeV1Signer where
  hmac := sampleHmac
  headerName := "stripe-signature"
  secrets := [utf8 "key"]
  secrets_count := by decide

theorem webhookSignature_free : "webhook-signature" ≠ webhookIdHeader ∧
    "webhook-signature" ≠ webhookTimestampHeader := by decide

def sampleStandard : StandardWebhooksSigner where
  hmac := sampleHmac
  headerName := "webhook-signature"
  secrets := [utf8 "QUI="]
  headerName_free := webhookSignature_free
  secrets_count := by decide

/-- The event `a`, signed in its second 1. -/
def dottedBody : SigningInput where
  body := utf8 "2.x"
  eventId := "a"
  logicalTimeNs := 1000000000
  body_length := by decide
  eventId_length := by decide
  time_range := by decide

/-- The event `a.1`, presented in its second 2. -/
def dottedId : SigningInput where
  body := utf8 "x"
  eventId := "a.1"
  logicalTimeNs := 2000000000
  body_length := by decide
  eventId_length := by decide
  time_range := by decide

/-- The event `a` again, later in its second 1. -/
def laterBody : SigningInput where
  body := utf8 "2.x"
  eventId := "a"
  logicalTimeNs := 1999999999
  body_length := by decide
  eventId_length := by decide
  time_range := by decide

/-- The signature of one event is valid for another one, whose id has a full stop in it. -/
theorem dotted_id_verifies :
    sampleHmac.Separates sampleStandard.keys
      (standardMessage dottedBody.eventId dottedBody.seconds dottedBody.body)
      (standardMessage dottedId.eventId dottedId.seconds dottedId.body) ∧
    (sampleStandard.present dottedBody dottedId).map (·.valid) = .ok true ∧
    dottedId.eventId ≠ dottedBody.eventId ∧ dottedId.seconds ≠ dottedBody.seconds ∧
    dottedId.body ≠ dottedBody.body := by
  decide +kernel

/-- Two moments of one second carry the same signature. -/
theorem same_second_verifies :
    (sampleStripe.present dottedBody laterBody).map (·.valid) = .ok true ∧
    laterBody.seconds = dottedBody.seconds ∧ laterBody.body = dottedBody.body ∧
    laterBody.eventId = dottedBody.eventId := by
  obtain ⟨hstripe, hstandard⟩ := signatures_bind_content
  obtain ⟨hseconds, -⟩ := hstripe sampleStripe dottedBody laterBody ⟨true, .valid, by decide⟩
    (by decide +kernel) (by decide +kernel) rfl
  obtain ⟨hid, -, hbody⟩ := hstandard sampleStandard dottedBody laterBody
    ⟨true, .valid, by decide⟩ (by decide +kernel) (not_continues (by decide))
    (not_continues (by decide)) (by decide +kernel) rfl
  exact ⟨by decide +kernel, hseconds, hbody, hid⟩

end Binding

end WebhookConformance
