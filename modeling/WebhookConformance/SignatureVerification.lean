import WebhookConformance.GenericSignatures
import WebhookConformance.SignatureBinding
import WebhookConformance.Library.Json

/-! The three built-in signers as one family, and when one of them accepts what another has
signed. -/
namespace WebhookConformance

open Checked ByteText

section Texts

theorem canonicalDigits_toDigits {n : Nat} (hpos : 0 < n) (hlt : n < 10 ^ 19) :
    canonicalDigits (Nat.toDigits 10 n) = true := by
  obtain ⟨c, tail, hdigits, hc⟩ := Json.toDigits_head hpos
  have hdigit : ∀ d ∈ c :: tail, d.isDigit = true := fun d hd =>
    Nat.isDigit_of_mem_toDigits (by decide) (by decide) (hdigits ▸ hd)
  have hlength := (Nat.length_toDigits_le_iff (b := 10) (k := 19) (by decide) (by decide)).2 hlt
  rw [hdigits, List.length_cons] at hlength
  have htail : tail.all Char.isDigit = true :=
    List.all_eq_true.2 fun d hd => hdigit d (List.mem_cons_of_mem c hd)
  simp only [hdigits, canonicalDigits, hdigit c List.mem_cons_self, htail, Bool.and_true,
    Bool.true_and, Bool.and_eq_true, bne_iff_ne, decide_eq_true_eq]
  exact ⟨hc, by omega⟩

theorem readDigits_toDigits (n : Nat) : readDigits (Nat.toDigits 10 n) = n :=
  Nat.ofDigitChars_ten_toDigits

theorem matchInteger_toDigits {n : Nat} (hpos : 0 < n) (hlt : n < 10 ^ 19) :
    matchInteger (Nat.toDigits 10 n) = some (n : Int) := by
  have hcanonical := canonicalDigits_toDigits hpos hlt
  have hread := readDigits_toDigits n
  obtain ⟨c, tail, hdigits, hc⟩ := Json.toDigits_head hpos
  have hdash : c ≠ '-' := by
    rintro rfl
    have hdigit : ('-').isDigit = true :=
      Nat.isDigit_of_mem_toDigits (n := n) (by decide) (by decide) (hdigits ▸ List.mem_cons_self)
    cases hdigit
  rw [hdigits] at hcanonical hread ⊢
  unfold matchInteger
  split
  · next heq =>
    cases heq
    exact absurd rfl hc
  · next heq =>
    cases heq
    exact absurd rfl hdash
  · rw [if_pos hcanonical, hread]

/-- The text of a second is canonical. -/
theorem canonicalInteger_eq_some {n : Int} (h : n.natAbs < 10 ^ 19) :
    canonicalInteger (toString n).toList = some n := by
  have hmatch : matchInteger (toString n).toList = some n := by
    cases n with
    | ofNat m =>
      have htext : (toString (Int.ofNat m)).toList = m.repr.toList := rfl
      rw [htext, Nat.toList_repr]
      obtain rfl | hpos := Nat.eq_zero_or_pos m
      · rfl
      · exact matchInteger_toDigits hpos h
    | negSucc m =>
      have htext : (toString (Int.negSucc m)).toList = ("-" ++ (m + 1).repr).toList := rfl
      have hcanonical := canonicalDigits_toDigits (Nat.succ_pos m) h
      rw [htext, String.toList_append, Nat.toList_repr]
      change (if canonicalDigits (Nat.toDigits 10 (m + 1)) = true then
        some (-(readDigits (Nat.toDigits 10 (m + 1)) : Int)) else none) = some (Int.negSucc m)
      rw [if_pos hcanonical, readDigits_toDigits]
      rfl
  rw [canonicalInteger, hmatch, Option.filter_some, if_pos (decide_eq_true rfl)]

theorem SigningInput.seconds_lt (x : SigningInput) : x.seconds.natAbs < 10 ^ 19 := by
  obtain ⟨hlow, hhigh⟩ := x.time_range
  simp only [int64Max] at hlow hhigh
  simp only [SigningInput.seconds, nanosecondsPerSecond]
  omega

theorem decimal_ne_nil (n : Int) : (toString n).toList ≠ [] := by
  cases n with
  | ofNat m =>
    change m.repr.toList ≠ []
    rw [Nat.toList_repr]
    exact Nat.toDigits_ne_nil
  | negSucc m =>
    change ("-" ++ (m + 1).repr).toList ≠ []
    rw [String.toList_append]
    simp

end Texts

section Comparison

theorem compareDigests_reason {expected supplied : List Bytes} :
    (compareDigests expected supplied).reason = .valid ↔ ∃ d ∈ expected, d ∈ supplied := by
  rw [← (compareDigests expected supplied).valid_iff]
  constructor
  · exact compareDigests_valid
  · rintro ⟨d, hd, hd'⟩
    have hany : expected.any (fun e => supplied.any fun s => e = s) = true :=
      List.any_eq_true.2 ⟨d, hd, List.any_eq_true.2 ⟨d, hd', decide_eq_true rfl⟩⟩
    rw [compareDigests, dif_pos hany]

theorem matchingHeaders_eq {headers : List SignatureHeader} (name : String)
    (h : headers.length ≤ maxSignerHeaders) :
    matchingHeaders headers name = .ok (headers.filter (·.name = name)) :=
  bind_of (require_of h) rfl

/-- Two lists of keys give one message a common digest exactly when they share a key. -/
theorem shared_digest_iff {hmac : HmacSha256} {keys keys' : List Bytes} {m : Bytes}
    (hsep : hmac.Separates (keys ++ keys') m m) :
    (∃ d ∈ keys'.map (hmac.digest · m), d ∈ keys.map (hmac.digest · m)) ↔
      ∃ k ∈ keys, k ∈ keys' := by
  constructor
  · rintro ⟨d, hd, hd'⟩
    obtain ⟨k', hk', rfl⟩ := List.mem_map.1 hd
    obtain ⟨k, hk, hdigest⟩ := List.mem_map.1 hd'
    obtain ⟨rfl, -⟩ := hsep k (List.mem_append_left _ hk) k' (List.mem_append_right _ hk') hdigest
    exact ⟨k, hk, hk'⟩
  · rintro ⟨k, hk, hk'⟩
    exact ⟨hmac.digest k m, List.mem_map_of_mem hk', List.mem_map_of_mem hk⟩

end Comparison

namespace GenericHmacSha256Signer

variable {signer signer' : GenericHmacSha256Signer} {x : SigningInput}

theorem decodeDigest_encodeDigest {digest : Bytes} (h : digest.length = digestSize)
    (encoding : SignatureEncoding) : decodeDigest (encodeDigest digest encoding) encoding = some digest := by
  cases encoding with
  | hex =>
    have hlength : (toHex digest).length = sha256HexCharacters := by
      rw [length_toHex, h]
      rfl
    rw [encodeDigest, decodeDigest, if_pos hlength, fromHex_toHex]
  | base64 =>
    have hlength : (toBase64 digest).length = sha256Base64Characters := by
      rw [length_toBase64, h]
      rfl
    rw [encodeDigest, decodeDigest, if_pos hlength, fromBase64_toBase64, Option.filter_some,
      if_pos (decide_eq_true ⟨h, rfl⟩)]

theorem decodeHeaderValue_headerValue {digest : Bytes} (h : digest.length = digestSize) :
    signer.settings.decodeHeaderValue (signer.headerValue digest) = some digest := by
  rw [GenericHmacSha256Settings.decodeHeaderValue, headerValue, String.toList_ofList,
    if_pos (List.isPrefixOf_iff_prefix.2 (List.prefix_append _ _)), List.drop_left,
    decodeDigest_encodeDigest h]

theorem sign_ok {signed : List SignatureHeader} (h : signer.sign x = .ok signed) :
    ∃ m, signer.canonicalMessage x = .ok m ∧ signed = [⟨signer.settings.headerName,
      signer.headerValue (signer.hmac.digest signer.secret m)⟩] := by
  obtain ⟨m, hm, h⟩ := bind_ok h
  obtain ⟨header, hheader, h⟩ := bind_ok h
  cases pure_ok h
  exact ⟨m, hm, by rw [signatureHeader_ok hheader]⟩

/-- What one signer makes of the header of another with its settings. -/
theorem verify_signed {signed : List SignatureHeader} {m : Bytes}
    (hsettings : signer.settings = signer'.settings) (hm : signer.canonicalMessage x = .ok m)
    (h : signer.sign x = .ok signed) :
    signer'.verify x signed = .ok (compareDigests [signer'.hmac.digest signer'.secret m]
      [signer.hmac.digest signer.secret m]) := by
  obtain ⟨m', hm', rfl⟩ := sign_ok h
  cases hm.symm.trans hm'
  have hcanonical : signer'.canonicalMessage x = .ok m := by
    rw [← hm, canonicalMessage, canonicalMessage, hsettings]
  refine bind_of hcanonical (bind_of (matchingHeaders_eq _ (by simp [maxSignerHeaders])) ?_)
  rw [← hsettings, List.filter_cons, if_pos (by simp), List.filter_nil]
  dsimp only
  rw [decodeHeaderValue_headerValue (signer.hmac.digest_length _ _)]
  rfl

end GenericHmacSha256Signer

namespace StripeV1Signer

variable {signer signer' : StripeV1Signer} {x : SigningInput}

theorem readComponent_time_eq {t : Int} (ht : t.natAbs < 10 ^ 19) (found : List Int × List Bytes) :
    readComponent found ("t=" ++ toString t).toList = some (found.1 ++ [t], found.2) := by
  have hguard : ¬ (isScheme ['t'] = false ∨ (toString t).toList = []) := by
    rintro (h | h)
    · cases h
    · exact decimal_ne_nil t h
  rw [readComponent, splitOn_time]
  dsimp only
  rw [if_neg hguard, if_pos rfl, canonicalInteger_eq_some ht]
  rfl

theorem readComponent_component_eq {d : Bytes} (hd : d.length = digestSize)
    {found : List Int × List Bytes} (hroom : found.2.length < maxSigningSecrets) :
    readComponent found (component d) = some (found.1, found.2 ++ [d]) := by
  have hlength : (toHex d).length = 2 * digestSize := by rw [length_toHex, hd]
  have hguard : ¬ (isScheme ['v', '1'] = false ∨ toHex d = []) := by
    rintro (h | h)
    · cases h
    · rw [h] at hlength
      cases hlength
  rw [readComponent, splitOn_component]
  dsimp only
  rw [if_neg hguard, if_neg (by decide), if_pos rfl, if_neg (by omega), fromHex_toHex]
  rfl

/-- The signatures are read one after another as long as there is room for them. -/
theorem foldlM_components {ds : List Bytes} (hds : ∀ d ∈ ds, d.length = digestSize)
    {found : List Int × List Bytes} (hroom : found.2.length + ds.length ≤ maxSigningSecrets) :
    (ds.map component).foldlM readComponent found = some (found.1, found.2 ++ ds) := by
  induction ds generalizing found with
  | nil =>
    rw [List.append_nil]
    rfl
  | cons d ds ih =>
    rw [List.length_cons] at hroom
    rw [List.map_cons, List.foldlM_cons,
      readComponent_component_eq (hds d List.mem_cons_self) (by omega)]
    refine (ih (fun e he => hds e (List.mem_cons_of_mem d he)) ?_).trans ?_
    · rw [List.length_append, List.length_singleton]
      omega
    · rw [List.append_assoc, List.singleton_append]

theorem parseHeader_eq {t : Int} {ds : List Bytes} (ht : t.natAbs < 10 ^ 19) (hne : ds ≠ [])
    (hds : ∀ d ∈ ds, d.length = digestSize) (hroom : ds.length ≤ maxSigningSecrets) :
    parseHeader (headerValue t (ds.map component)) = some (t, ds) := by
  have hfold : (("t=" ++ toString t).toList :: ds.map component).foldlM readComponent ([], []) =
      some ([t], ds) := by
    rw [List.foldlM_cons, readComponent_time_eq ht]
    exact foldlM_components hds (by simpa using hroom)
  have hpos := List.length_pos_iff.2 hne
  have hnil : (headerValue t (ds.map component)).toList ≠ [] := by
    intro h
    have hsplit := splitOn_headerValue t ds
    rw [h] at hsplit
    have hlength := congrArg List.length hsplit
    simp [splitOn] at hlength
    exact hne hlength
  have hguard : (headerValue t (ds.map component)).toList ≠ [] ∧
      2 ≤ (("t=" ++ toString t).toList :: ds.map component).length ∧
      (("t=" ++ toString t).toList :: ds.map component).length ≤ maxStripeHeaderComponents := by
    simp only [List.length_cons, List.length_map]
    simp only [maxSigningSecrets] at hroom
    simp only [maxStripeHeaderComponents]
    exact ⟨hnil, by omega, by omega⟩
  rw [parseHeader, splitOn_headerValue]
  simp only [guard, if_pos hguard, hfold, Option.bind_eq_bind, Option.pure_def, Option.bind_some]
  obtain ⟨d, rest, rfl⟩ := List.exists_cons_of_ne_nil hne
  rfl

theorem canonicalMessage_of_sign {signed : List SignatureHeader} (h : signer.sign x = .ok signed) :
    stripeCanonicalMessage x.seconds x.body = .ok (stripeMessage x.seconds x.body) := by
  obtain ⟨m, hm, -⟩ := bind_ok h
  rw [hm, canonicalMessage_ok hm]

theorem verify_signed {signed : List SignatureHeader}
    (hname : signer.headerName = signer'.headerName) (h : signer.sign x = .ok signed) :
    signer'.verify x signed = .ok (compareDigests
      (signer'.digests (stripeMessage x.seconds x.body))
      (signer.digests (stripeMessage x.seconds x.body))) := by
  have hm := canonicalMessage_of_sign h
  obtain rfl := sign_ok h
  have hne : signer.digests (stripeMessage x.seconds x.body) ≠ [] := by
    rw [digests, Ne, List.map_eq_nil_iff]
    exact signer.secrets_count.1
  have hdigests : ∀ d ∈ signer.digests (stripeMessage x.seconds x.body), d.length = digestSize := by
    intro d hd
    obtain ⟨k, -, rfl⟩ := List.mem_map.1 hd
    exact signer.hmac.digest_length _ _
  have hroom : (signer.digests (stripeMessage x.seconds x.body)).length ≤ maxSigningSecrets := by
    rw [digests, List.length_map]
    exact signer.secrets_count.2
  refine bind_of hm (bind_of (matchingHeaders_eq _ (by simp [maxSignerHeaders])) ?_)
  rw [← hname, List.filter_cons, if_pos (by simp), List.filter_nil]
  dsimp only
  rw [parseHeader_eq x.seconds_lt hne hdigests hroom]
  exact bind_of hm rfl

end StripeV1Signer

namespace StandardWebhooksSigner

variable {signer signer' : StandardWebhooksSigner} {x : SigningInput}

/-- Every secret has the form of a Standard Webhooks secret. -/
def Decodes (signer : StandardWebhooksSigner) : Prop :=
  ∀ material ∈ signer.secrets, (decodeSecret material).isSome = true

/-- Digests are computed for all the secrets or not at all. -/
theorem digests_ok_iff {m : Bytes} {ds : List Bytes} :
    signer.digests m = .ok ds ↔ signer.Decodes ∧ ds = signer.keys.map (signer.hmac.digest · m) := by
  unfold digests Decodes keys
  generalize signer.secrets = secrets
  induction secrets generalizing ds with
  | nil =>
    rw [List.mapM_nil]
    constructor
    · intro h
      cases pure_ok h
      exact ⟨fun _ h => absurd h List.not_mem_nil, rfl⟩
    · rintro ⟨-, rfl⟩
      rfl
  | cons material secrets ih =>
    rw [List.mapM_cons, List.filterMap_cons]
    cases hkey : decodeSecret material with
    | none =>
      constructor
      · intro h
        cases h
      · rintro ⟨hall, -⟩
        have hsome := hall material List.mem_cons_self
        rw [hkey] at hsome
        cases hsome
    | some key =>
      constructor
      · intro h
        obtain ⟨digest, hdigest, h⟩ := bind_ok h
        cases hdigest
        obtain ⟨rest, hrest, h⟩ := bind_ok h
        cases pure_ok h
        obtain ⟨hall, rfl⟩ := ih.1 hrest
        refine ⟨?_, rfl⟩
        intro other hother
        obtain rfl | hother := List.mem_cons.1 hother
        · rw [hkey]
          rfl
        · exact hall other hother
      · rintro ⟨hall, rfl⟩
        have hrest := ih.2 ⟨fun other h => hall other (List.mem_cons_of_mem material h), rfl⟩
        exact bind_of rfl (bind_of hrest rfl)

theorem readSignature_component_eq {d : Bytes} (h : d.length = digestSize) :
    readSignature (component d) = some d := by
  have hpadded : d.length % 3 = 2 := by
    rw [h]
    rfl
  obtain ⟨digits, hdigits, hmem⟩ := toBase64_padded hpadded
  have hlength : (toBase64 d).length = 44 := by
    rw [length_toBase64, h]
    rfl
  have hpattern : isSignature (toBase64 d) = true := by
    have hall : digits.all (base64Alphabet.contains ·) = true :=
      List.all_eq_true.2 fun c hc => List.contains_iff_mem.2 (hmem c hc)
    rw [hdigits] at hlength
    simp only [isSignature, hdigits, hlength, List.dropLast_concat, hall, List.getLast?_concat,
      decide_true, Bool.true_and, beq_self_eq_true]
  have hread : readSignature (component d) = (if isSignature (toBase64 d) then
      (fromBase64 (toBase64 d)).filter fun e => e.length = digestSize else none) := rfl
  rw [hread, if_pos hpattern, fromBase64_toBase64, Option.filter_some, if_pos (decide_eq_true h)]

theorem mapM_components {ds : List Bytes} (hds : ∀ d ∈ ds, d.length = digestSize) :
    (ds.map component).mapM readSignature = some ds := by
  induction ds with
  | nil => rfl
  | cons d ds ih =>
    rw [List.map_cons, List.mapM_cons, readSignature_component_eq (hds d List.mem_cons_self),
      ih fun e he => hds e (List.mem_cons_of_mem d he)]
    rfl

theorem parseSignatures_eq {ds : List Bytes} (hne : ds ≠ [])
    (hds : ∀ d ∈ ds, d.length = digestSize) (hroom : ds.length ≤ maxSigningSecrets) :
    parseSignatures (String.ofList ([' '].intercalate (ds.map component))) = some ds := by
  have hsplit := splitOn_components hne
  have hguard : [' '].intercalate (ds.map component) ≠ [] ∧
      (ds.map component).length ≤ maxSignatureComponents := by
    refine ⟨fun h => ?_, ?_⟩
    · rw [h] at hsplit
      obtain ⟨d, rest, rfl⟩ := List.exists_cons_of_ne_nil hne
      cases hsplit
    · simp only [List.length_map]
      simp only [maxSigningSecrets] at hroom
      simp only [maxSignatureComponents]
      omega
  rw [parseSignatures, String.toList_ofList, hsplit]
  simp only [guard, if_pos hguard, Option.bind_eq_bind, Option.pure_def, Option.bind_some,
    mapM_components hds]

theorem canonicalMessage_of_sign {signed : List SignatureHeader} (h : signer.sign x = .ok signed) :
    standardCanonicalMessage x.eventId x.seconds x.body =
      .ok (standardMessage x.eventId x.seconds x.body) := by
  obtain ⟨m, hm, -⟩ := bind_ok h
  rw [hm, canonicalMessage_ok hm]

theorem decodes_of_sign {signed : List SignatureHeader} (h : signer.sign x = .ok signed) :
    signer.Decodes := by
  obtain ⟨ds, hds, -⟩ := sign_ok h
  exact (digests_ok_iff.1 hds).1

theorem verify_signed {signed : List SignatureHeader}
    (hname : signer.headerName = signer'.headerName) (h : signer.sign x = .ok signed) :
    signer'.verify x signed = (do
      let expected ← signer'.digests (standardMessage x.eventId x.seconds x.body)
      return compareDigests expected
        (signer.keys.map (signer.hmac.digest · (standardMessage x.eventId x.seconds x.body)))) := by
  have hm := canonicalMessage_of_sign h
  obtain ⟨ds, hds, rfl⟩ := sign_ok h
  obtain ⟨-, hkeys⟩ := digests_ok_iff.1 hds
  have hlength := (mapM_ok_iff.1 hds).length_eq
  have hne : ds ≠ [] := by
    rintro rfl
    exact signer.secrets_count.1 (List.length_eq_zero_iff.1 hlength)
  have hdigests : ∀ d ∈ ds, d.length = digestSize := by
    intro d hd
    obtain ⟨k, -, rfl⟩ := mem_digests hds hd
    exact signer.hmac.digest_length _ _
  have hparse := parseSignatures_eq hne hdigests (hlength ▸ signer.secrets_count.2)
  obtain ⟨hfree, hfree'⟩ := signer.headerName_free
  rw [← hkeys, verify, hm]
  simp only [matchingHeaders, List.filter_cons, List.filter_nil, hfree.symm, hfree'.symm, hfree,
    hfree', ← hname, show webhookIdHeader ≠ webhookTimestampHeader by decide,
    show webhookTimestampHeader ≠ webhookIdHeader by decide, decide_true, decide_false, if_true,
    Bool.false_eq_true, if_false]
  change verifyHeaders signer' x x.eventId (toString x.seconds) _ = _
  rw [verifyHeaders, canonicalInteger_eq_some x.seconds_lt, hparse]
  dsimp only
  rw [hm]

end StandardWebhooksSigner

/-- A signer of one of the three built-in profiles. -/
inductive BuiltinSigner where
  | generic (signer : GenericHmacSha256Signer)
  | stripe (signer : StripeV1Signer)
  | standard (signer : StandardWebhooksSigner)

namespace BuiltinSigner

def hmac : BuiltinSigner → HmacSha256
  | .generic signer => signer.hmac
  | .stripe signer => signer.hmac
  | .standard signer => signer.hmac

def canonicalMessage (x : SigningInput) : BuiltinSigner → Except SignerError Bytes
  | .generic signer => signer.canonicalMessage x
  | .stripe _ => stripeCanonicalMessage x.seconds x.body
  | .standard _ => standardCanonicalMessage x.eventId x.seconds x.body

def sign (x : SigningInput) : BuiltinSigner → Except SignerError (List SignatureHeader)
  | .generic signer => signer.sign x
  | .stripe signer => signer.sign x
  | .standard signer => signer.sign x

def verify (x : SigningInput) (headers : List SignatureHeader) :
    BuiltinSigner → Except SignerError VerificationResult
  | .generic signer => signer.verify x headers
  | .stripe signer => signer.verify x headers
  | .standard signer => signer.verify x headers

/-- The keys that the secrets stand for. -/
def keys : BuiltinSigner → List Bytes
  | .generic signer => [signer.secret]
  | .stripe signer => signer.secrets
  | .standard signer => signer.keys

/-- A secret of the first two profiles is its own key. -/
def Decodes : BuiltinSigner → Prop
  | .standard signer => signer.Decodes
  | _ => True

def SameSettings : BuiltinSigner → BuiltinSigner → Prop
  | .generic a, .generic b => a.hmac = b.hmac ∧ a.settings = b.settings
  | .stripe a, .stripe b => a.hmac = b.hmac ∧ a.headerName = b.headerName
  | .standard a, .standard b => a.hmac = b.hmac ∧ a.headerName = b.headerName
  | _, _ => False

theorem SameSettings.refl (signer : BuiltinSigner) : signer.SameSettings signer := by
  cases signer <;> exact ⟨rfl, rfl⟩

/-- `verify` answers that the signatures are valid. -/
def Accepts (signer : BuiltinSigner) (x : SigningInput) (headers : List SignatureHeader) : Prop :=
  (signer.verify x headers).map VerificationResult.reason = .ok .valid

instance (signer : BuiltinSigner) (x : SigningInput) (headers : List SignatureHeader) :
    Decidable (signer.Accepts x headers) :=
  inferInstanceAs (Decidable (_ = _))

variable {A B : BuiltinSigner} {x : SigningInput} {headers : List SignatureHeader}

theorem accepts_compare {signer : BuiltinSigner} {expected supplied : List Bytes}
    (h : signer.verify x headers = .ok (compareDigests expected supplied)) :
    signer.Accepts x headers ↔ ∃ d ∈ expected, d ∈ supplied := by
  rw [Accepts, h, ← compareDigests_reason]
  exact ⟨fun h => Except.ok.inj h, fun h => congrArg Except.ok h⟩

theorem decodes_of_sign (h : A.sign x = .ok headers) : A.Decodes := by
  cases A with
  | generic signer => trivial
  | stripe signer => trivial
  | standard signer => exact signer.decodes_of_sign h

/-- No two of the keys give the message of the input one digest. -/
def Separates (A B : BuiltinSigner) (x : SigningInput) : Prop :=
  ∀ m, A.canonicalMessage x = .ok m → A.hmac.Separates (A.keys ++ B.keys) m m

theorem accepts_signed (hsame : A.SameSettings B) (hsep : A.Separates B x)
    (hsign : A.sign x = .ok headers) :
    B.Accepts x headers ↔ B.Decodes ∧ ∃ k ∈ A.keys, k ∈ B.keys := by
  cases A with
  | generic a =>
    cases B with
    | generic b =>
      obtain ⟨hhmac, hsettings⟩ := hsame
      obtain ⟨m, hm, -⟩ := GenericHmacSha256Signer.sign_ok hsign
      have hverify : (generic b).verify x headers = _ :=
        GenericHmacSha256Signer.verify_signed hsettings hm hsign
      rw [accepts_compare hverify, ← hhmac]
      exact (shared_digest_iff (hsep m hm)).trans ⟨fun h => ⟨trivial, h⟩, And.right⟩
    | stripe b => exact hsame.elim
    | standard b => exact hsame.elim
  | stripe a =>
    cases B with
    | generic b => exact hsame.elim
    | stripe b =>
      obtain ⟨hhmac, hname⟩ := hsame
      have hm := StripeV1Signer.canonicalMessage_of_sign hsign
      have hverify : (stripe b).verify x headers = _ := StripeV1Signer.verify_signed hname hsign
      rw [accepts_compare hverify, StripeV1Signer.digests, StripeV1Signer.digests, ← hhmac]
      exact (shared_digest_iff (hsep _ hm)).trans ⟨fun h => ⟨trivial, h⟩, And.right⟩
    | standard b => exact hsame.elim
  | standard a =>
    cases B with
    | generic b => exact hsame.elim
    | stripe b => exact hsame.elim
    | standard b =>
      obtain ⟨hhmac, hname⟩ := hsame
      have hm := StandardWebhooksSigner.canonicalMessage_of_sign hsign
      have hverify : (standard b).verify x headers = _ :=
        StandardWebhooksSigner.verify_signed hname hsign
      constructor
      · intro haccepts
        obtain ⟨r, hr, -⟩ := map_ok haccepts
        rw [hverify] at hr
        obtain ⟨expected, hexpected, -⟩ := bind_ok hr
        obtain ⟨hdecodes, rfl⟩ := StandardWebhooksSigner.digests_ok_iff.1 hexpected
        rw [hexpected] at hverify
        rw [accepts_compare hverify, ← hhmac] at haccepts
        exact ⟨hdecodes, (shared_digest_iff (hsep _ hm)).1 haccepts⟩
      · rintro ⟨hdecodes, hshared⟩
        have hexpected : b.digests (standardMessage x.eventId x.seconds x.body) = .ok _ :=
          StandardWebhooksSigner.digests_ok_iff.2 ⟨hdecodes, rfl⟩
        rw [hexpected] at hverify
        rw [accepts_compare hverify, ← hhmac]
        exact (shared_digest_iff (hsep _ hm)).2 hshared

theorem keys_ne_nil (h : A.Decodes) : A.keys ≠ [] := by
  cases A with
  | generic signer => exact List.cons_ne_nil _ _
  | stripe signer => exact signer.secrets_count.1
  | standard signer =>
    obtain ⟨material, hmaterial⟩ := List.exists_mem_of_ne_nil _ signer.secrets_count.1
    obtain ⟨key, hkey⟩ := Option.isSome_iff_exists.1 (h material hmaterial)
    exact List.ne_nil_of_mem (List.mem_filterMap.2 ⟨material, hmaterial, hkey⟩)

end BuiltinSigner

section Verification

open BuiltinSigner

/-- A signer accepts what another one with its settings has signed exactly when all its own secrets
decode and the two share a key, and it always accepts its own signatures. -/
theorem signature_accepted_iff {A B : BuiltinSigner} {x : SigningInput}
    {headers : List SignatureHeader} (hsame : A.SameSettings B) (hsep : A.Separates B x)
    (hsign : A.sign x = .ok headers) :
    (B.Accepts x headers ↔ B.Decodes ∧ ∃ k ∈ A.keys, k ∈ B.keys) ∧ A.Accepts x headers := by
  refine ⟨accepts_signed hsame hsep hsign, ?_⟩
  have hself : A.Separates A x := by
    intro m hm k hk k' hk'
    have hown : ∀ key ∈ A.keys ++ A.keys, key ∈ A.keys ++ B.keys := by
      intro key hkey
      exact List.mem_append_left _ ((List.mem_append.1 hkey).elim id id)
    exact hsep m hm k (hown k hk) k' (hown k' hk')
  have hdecodes := decodes_of_sign hsign
  obtain ⟨k, hk⟩ := List.exists_mem_of_ne_nil _ (keys_ne_nil hdecodes)
  exact (accepts_signed (SameSettings.refl A) hself hsign).2 ⟨hdecodes, k, hk, hk⟩

/-- A signer in the middle of a rotation. -/
def rotatedStripe (old new : String) : StripeV1Signer where
  hmac := sampleHmac
  headerName := "stripe-signature"
  secrets := [utf8 old, utf8 new]
  secrets_count := by simp [maxSigningSecrets]

/-- Signers one rotation apart still accept each other's signatures. -/
theorem rotation_accepted :
    ∃ headers, (stripe (rotatedStripe "k1" "k2")).sign dottedBody = .ok headers ∧
      (stripe (rotatedStripe "k2" "k3")).Accepts dottedBody headers := by
  have hsame : (stripe (rotatedStripe "k1" "k2")).SameSettings
      (stripe (rotatedStripe "k2" "k3")) := ⟨rfl, rfl⟩
  have hsep : (stripe (rotatedStripe "k1" "k2")).Separates (stripe (rotatedStripe "k2" "k3"))
      dottedBody := by
    intro m hm
    obtain rfl := StripeV1Signer.canonicalMessage_ok hm
    decide +kernel
  obtain ⟨headers, hsign⟩ : ∃ headers,
      (stripe (rotatedStripe "k1" "k2")).sign dottedBody = .ok headers :=
    exists_of_isOk (by decide +kernel)
  refine ⟨headers, hsign, (signature_accepted_iff hsame hsep hsign).1.2 ⟨trivial, utf8 "k2", ?_⟩⟩
  decide +kernel

/-- The second secret is no Standard Webhooks secret. -/
def misconfiguredStandard : StandardWebhooksSigner where
  hmac := sampleHmac
  headerName := "webhook-signature"
  secrets := [utf8 "QUI=", utf8 "key"]
  headerName_free := webhookSignature_free
  secrets_count := by decide

/-- The two signers share their first key, and the second one raises instead of accepting. -/
theorem shared_key_not_accepted :
    (standard sampleStandard).SameSettings (standard misconfiguredStandard) ∧
    sampleHmac.Separates ((standard sampleStandard).keys ++ (standard misconfiguredStandard).keys)
      (standardMessage dottedBody.eventId dottedBody.seconds dottedBody.body)
      (standardMessage dottedBody.eventId dottedBody.seconds dottedBody.body) ∧
    (∃ k ∈ (standard sampleStandard).keys, k ∈ (standard misconfiguredStandard).keys) ∧
    ((standard sampleStandard).sign dottedBody).isOk = true ∧
    ((standard sampleStandard).sign dottedBody >>= fun headers =>
      (standard misconfiguredStandard).verify dottedBody headers) = .error .signing := by
  refine ⟨⟨rfl, rfl⟩, ?_⟩
  decide +kernel

end Verification

end WebhookConformance
