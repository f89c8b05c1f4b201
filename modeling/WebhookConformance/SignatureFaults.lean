import WebhookConformance.BuiltinOperators
import WebhookConformance.PipelineRuns

/-! Injected signature faults: what the selected signer says of a request that went through one of
the operators for wrong keys, missing and malformed signatures, and altered bodies. -/
namespace WebhookConformance

open Checked ByteText

section Ownership

theorem normalizeHeaderSequence_ok {values names : List String} {fieldName : String}
    {maximum : Nat} (h : normalizeHeaderSequence values fieldName maximum = .ok names) :
    names = values.map casefold := by
  obtain ⟨read, hread, hrest⟩ := bind_ok h
  obtain ⟨_, hcount, hlast⟩ := bind_ok hrest
  cases pure_ok hlast
  rw [List.take_of_length_le (require_ok hcount), mapM_ok_iff] at hread
  clear h hrest hlast hcount
  induction hread with
  | nil => rfl
  | cons hfirst _ ih =>
    split at hfirst
    · cases hfirst
      rw [List.map_cons, ih]
    · cases hfirst

theorem validateHeaderOwnership_ok {owned users names : List String}
    (h : validateHeaderOwnership owned users = .ok names) :
    names = owned.map casefold ∧ names.Nodup ∧ (∀ name ∈ names, name ∉ users.map casefold) ∧
      ∀ name ∈ names, name ∉ harnessRequestHeaders := by
  obtain ⟨normalized, hnormalized, h⟩ := bind_ok h
  obtain ⟨others, hothers, h⟩ := bind_ok h
  obtain ⟨_, hnodup, h⟩ := bind_ok h
  obtain ⟨_, hfree, h⟩ := bind_ok h
  obtain ⟨_, hreserved, h⟩ := bind_ok h
  cases pure_ok h
  rw [← normalizeHeaderSequence_ok hothers]
  exact ⟨normalizeHeaderSequence_ok hnormalized, require_ok hnodup, require_ok hfree,
    require_ok hreserved⟩

theorem SignerProtocol.snapshot_ok {σ : Type} {signers : SignerProtocol σ} {signer : σ}
    {snapshot : SignerSnapshot} (h : signers.snapshot signer = .ok snapshot) :
    snapshot.adapterId = signers.adapterId signer ∧
      snapshot.adapterVersion = signers.adapterVersion signer ∧
      validateHeaderOwnership (signers.ownedHeaders signer) [] = .ok snapshot.ownedHeaders := by
  obtain ⟨_, -, h⟩ := bind_ok h
  split at h
  · cases h
  · rename_i owned howned
    cases h
    exact ⟨rfl, rfl, howned⟩

theorem rejectSignerInputCollision_ok {snapshot : SignerSnapshot} {headers : List SignatureHeader}
    {u : Unit} (h : rejectSignerInputCollision snapshot headers = .ok u) :
    ∃ names, validateHeaderOwnership snapshot.ownedHeaders (headers.map SignatureHeader.name) =
      .ok names := by
  unfold rejectSignerInputCollision at h
  split at h
  · cases h
  · rename_i names hnames
    exact ⟨names, hnames⟩

/-- No header of a request is one of its signer's. -/
theorem MutationPipeline.selectSigner_free {σ : Type} {p : MutationPipeline σ}
    {request : PipelineRequest σ} {signer : σ} {snapshot : Option SignerSnapshot}
    (hsigner : request.signer = some signer) (hvalid : ∀ h ∈ request.headers, h.Valid)
    (h : p.selectSigner request = .ok snapshot) :
    ∀ header ∈ request.headers, header.name ∉ p.signers.ownedHeaders signer := by
  rw [selectSigner, hsigner] at h
  obtain ⟨selected, hselected, h⟩ := bind_ok h
  obtain ⟨_, hcollision, -⟩ := bind_ok h
  obtain ⟨-, -, howned⟩ := SignerProtocol.snapshot_ok hselected
  obtain ⟨names, hnames⟩ := rejectSignerInputCollision_ok hcollision
  obtain ⟨hfolded, -⟩ := validateHeaderOwnership_ok howned
  obtain ⟨hfolded', -, hfree, -⟩ := validateHeaderOwnership_ok hnames
  intro header hheader hown
  have hname : casefold header.name = header.name := (hvalid header hheader).2.2.1
  have hmem : header.name ∈ names := by
    rw [hfolded', hfolded, List.map_map]
    refine List.mem_map.2 ⟨header.name, hown, ?_⟩
    rw [Function.comp_apply, hname, hname]
  refine hfree _ hmem (List.mem_map.2 ⟨header.name, List.mem_map_of_mem hheader, hname⟩)

end Ownership

section Messages

theorem SigningInput.eq_of {x y : SigningInput} (hbody : y.body = x.body)
    (hid : y.eventId = x.eventId) (htime : y.logicalTimeNs = x.logicalTimeNs) : y = x := by
  cases x
  cases y
  simp only [SigningInput.mk.injEq]
  exact ⟨hbody, hid, htime⟩

theorem framed_injective {tag : UInt8} {b b' : Bytes} (h : framed (tag, b) = framed (tag, b')) :
    b = b' := by
  have htail := (List.cons.inj h).2
  exact (List.append_inj htail (by simp)).2

theorem GenericHmacSha256Signer.canonicalMessage_body {signer : GenericHmacSha256Signer}
    {x y : SigningInput} {m : Bytes} (hid : y.eventId = x.eventId)
    (htime : y.logicalTimeNs = x.logicalTimeNs) (hx : signer.canonicalMessage x = .ok m)
    (hy : signer.canonicalMessage y = .ok m) : y.body = x.body := by
  have hframed : ∀ (template : CanonicalSigningTemplate) (encoding : TimestampEncoding),
      template.components = framedComponents →
      template.framedMessage encoding y = template.framedMessage encoding x → y.body = x.body := by
    intro template encoding hcomponents h
    simp only [CanonicalSigningTemplate.framedMessage, hcomponents, framedComponents,
      List.flatMap_cons, List.flatMap_nil, TemplateComponent.frame, hid, htime,
      List.append_cancel_left_eq, List.append_nil] at h
    exact framed_injective h
  have hrender : ∀ (template : CanonicalSigningTemplate) (encoding : TimestampEncoding)
      (z : SigningInput), template.framing = .lengthPrefixedV1 →
      template.render encoding z = .ok m → template.framedMessage encoding z = m := by
    intro template encoding z hframing h
    rw [CanonicalSigningTemplate.render, hframing] at h
    obtain ⟨_, -, h⟩ := bind_ok h
    exact pure_ok h
  have hregistered := signer.settings.registered
  unfold canonicalMessage at hx hy
  generalize signer.settings.template = template at hx hy hregistered
  generalize signer.settings.timestampEncoding = encoding at hx hy hregistered
  simp only [genericHmacSha256TemplateRegistry, List.mem_cons, List.not_mem_nil, or_false,
    SigningTemplateRegistration.mk.injEq] at hregistered
  obtain ⟨rfl, rfl⟩ | ⟨rfl, rfl⟩ | ⟨rfl, rfl⟩ := hregistered
  · exact (Except.ok.inj hy).trans (Except.ok.inj hx).symm
  · exact hframed _ _ rfl ((hrender _ _ y rfl hy).trans (hrender _ _ x rfl hx).symm)
  · exact hframed _ _ rfl ((hrender _ _ y rfl hy).trans (hrender _ _ x rfl hx).symm)

end Messages

section Verification

theorem GenericHmacSha256Signer.verify_valid {signer : GenericHmacSha256Signer} {x : SigningInput}
    {headers : List SignatureHeader} {r : VerificationResult}
    (h : signer.verify x headers = .ok r) (hvalid : r.reason = .valid) :
    ∃ header ∈ headers, ∃ m, signer.canonicalMessage x = .ok m ∧
      signer.settings.decodeHeaderValue header.value = some (signer.hmac.digest signer.secret m) := by
  obtain ⟨m, hm, h⟩ := bind_ok h
  obtain ⟨matching, hmatching, h⟩ := bind_ok h
  obtain ⟨_, -, hmatching⟩ := bind_ok hmatching
  cases pure_ok hmatching
  split at h
  · cases pure_ok h
    cases hvalid
  · rename_i header hheader
    have hmem : header ∈ headers := List.mem_of_mem_filter (hheader ▸ List.mem_cons_self)
    split at h
    · cases pure_ok h
      cases hvalid
    · rename_i supplied hsupplied
      cases pure_ok h
      obtain ⟨d, hd, hd'⟩ := compareDigests_reason.1 hvalid
      rw [List.mem_singleton] at hd hd'
      exact ⟨header, hmem, m, hm, by rw [hsupplied, ← hd', hd]⟩
  · cases pure_ok h
    cases hvalid

theorem StripeV1Signer.verify_valid {signer : StripeV1Signer} {x : SigningInput}
    {headers : List SignatureHeader} {r : VerificationResult}
    (h : signer.verify x headers = .ok r) (hvalid : r.reason = .valid) :
    stripeCanonicalMessage x.seconds x.body = .ok (stripeMessage x.seconds x.body) ∧
      ∃ header ∈ headers, ∃ t supplied, parseHeader header.value = some (t, supplied) ∧
        ∃ d ∈ signer.digests (stripeMessage t x.body), d ∈ supplied := by
  obtain ⟨m, hm, h⟩ := bind_ok h
  obtain ⟨matching, hmatching, h⟩ := bind_ok h
  obtain ⟨_, -, hmatching⟩ := bind_ok hmatching
  cases pure_ok hmatching
  refine ⟨by rw [hm, canonicalMessage_ok hm], ?_⟩
  split at h
  · cases pure_ok h
    cases hvalid
  · rename_i header hheader
    have hmem : header ∈ headers := List.mem_of_mem_filter (hheader ▸ List.mem_cons_self)
    split at h
    · cases pure_ok h
      cases hvalid
    · rename_i t supplied hsupplied
      obtain ⟨canonical, hcanonical, h⟩ := bind_ok h
      cases pure_ok h
      rw [canonicalMessage_ok hcanonical] at hvalid
      exact ⟨header, hmem, t, supplied, hsupplied, compareDigests_reason.1 hvalid⟩
  · cases pure_ok h
    cases hvalid

theorem StandardWebhooksSigner.verify_valid {signer : StandardWebhooksSigner} {x : SigningInput}
    {headers : List SignatureHeader} {r : VerificationResult}
    (h : signer.verify x headers = .ok r) (hvalid : r.reason = .valid) :
    standardCanonicalMessage x.eventId x.seconds x.body =
        .ok (standardMessage x.eventId x.seconds x.body) ∧
      ∃ id ∈ headers, id.name = webhookIdHeader ∧
      ∃ timestamp ∈ headers, timestamp.name = webhookTimestampHeader ∧
      ∃ signature ∈ headers, signature.name = signer.headerName ∧
      ∃ t supplied, canonicalInteger timestamp.value.toList = some t ∧
        parseSignatures signature.value = some supplied ∧
        ∃ ds, signer.digests (standardMessage id.value t x.body) = .ok ds ∧
          ∃ d ∈ ds, d ∈ supplied := by
  obtain ⟨m, hm, h⟩ := bind_ok h
  obtain ⟨ids, hids, h⟩ := bind_ok h
  obtain ⟨timestamps, htimestamps, h⟩ := bind_ok h
  obtain ⟨signatures, hsignatures, h⟩ := bind_ok h
  obtain ⟨_, -, hids'⟩ := bind_ok hids
  obtain ⟨_, -, htimestamps'⟩ := bind_ok htimestamps
  obtain ⟨_, -, hsignatures'⟩ := bind_ok hsignatures
  have hids := pure_ok hids'
  have htimestamps := pure_ok htimestamps'
  have hsignatures := pure_ok hsignatures'
  refine ⟨by rw [hm, canonicalMessage_ok hm], ?_⟩
  have hfound : ∀ {name : String} {header : SignatureHeader},
      headers.filter (·.name = name) = [header] → header ∈ headers ∧ header.name = name := by
    intro name header hfilter
    have hmem : header ∈ headers.filter (·.name = name) := hfilter ▸ List.mem_cons_self
    exact ⟨List.mem_of_mem_filter hmem, of_decide_eq_true (List.mem_filter.1 hmem).2⟩
  split at h
  · obtain ⟨hid, hidname⟩ := hfound hids
    obtain ⟨htime, htimename⟩ := hfound htimestamps
    obtain ⟨hsignature, hsignaturename⟩ := hfound hsignatures
    refine ⟨_, hid, hidname, _, htime, htimename, _, hsignature, hsignaturename, ?_⟩
    unfold verifyHeaders at h
    split at h
    · rename_i t supplied ht hsupplied
      split at h
      · cases h
        cases hvalid
      · rename_i canonical hcanonical
        obtain ⟨ds, hds, h⟩ := bind_ok h
        cases pure_ok h
        rw [canonicalMessage_ok hcanonical] at hds
        exact ⟨t, supplied, ht, hsupplied, ds, hds, compareDigests_reason.1 hvalid⟩
    · cases h
      cases hvalid
  · split at h
    · cases pure_ok h
      cases hvalid
    · cases pure_ok h
      cases hvalid

/-- A decodable value has room for the digest. -/
theorem GenericHmacSha256Settings.length_of_decodeHeaderValue
    {settings : GenericHmacSha256Settings} {value : String} {digest : Bytes}
    (h : settings.decodeHeaderValue value = some digest) :
    sha256Base64Characters ≤ value.toList.length := by
  unfold decodeHeaderValue at h
  split at h
  · have hdrop := List.length_drop (i := settings.leading.length) (l := value.toList)
    cases hencoding : settings.outputEncoding with
    | hex =>
      rw [hencoding, decodeDigest] at h
      split at h
      · rename_i hlength
        simp only [sha256HexCharacters, digestSize] at hlength
        simp only [sha256Base64Characters]
        omega
      · cases h
    | base64 =>
      rw [hencoding, decodeDigest] at h
      split at h
      · rename_i hlength
        omega
      · cases h
  · cases h

/-- No profile reads a value of the catalog of malformed ones. -/
theorem malformedValues_unreadable : ∀ value ∈ malformedValues.map Prod.snd,
    value.toList.length < sha256Base64Characters ∧ StripeV1Signer.parseHeader value = none ∧
      canonicalInteger value.toList = none := by
  decide +kernel

namespace BuiltinSigner

variable {signer : BuiltinSigner} {x y : SigningInput} {headers : List SignatureHeader}

theorem not_accepts_nil : ¬ signer.Accepts x [] := by
  intro haccepts
  obtain ⟨r, hr, hvalid⟩ := map_ok haccepts
  cases signer with
  | generic signer =>
    obtain ⟨header, hheader, -⟩ := GenericHmacSha256Signer.verify_valid hr hvalid
    cases hheader
  | stripe signer =>
    obtain ⟨-, header, hheader, -⟩ := StripeV1Signer.verify_valid hr hvalid
    cases hheader
  | standard signer =>
    obtain ⟨-, header, hheader, -⟩ := StandardWebhooksSigner.verify_valid hr hvalid
    cases hheader

/-- Accepted headers are not all malformed. -/
theorem accepts_readable (haccepts : signer.Accepts x headers) :
    ∃ header ∈ headers, header.value ∉ malformedValues.map Prod.snd := by
  obtain ⟨r, hr, hvalid⟩ := map_ok haccepts
  cases signer with
  | generic signer =>
    obtain ⟨header, hheader, m, -, hdecoded⟩ :=
      GenericHmacSha256Signer.verify_valid hr hvalid
    refine ⟨header, hheader, fun hmem => ?_⟩
    have hlength := GenericHmacSha256Settings.length_of_decodeHeaderValue hdecoded
    exact absurd hlength (not_le.2 (malformedValues_unreadable _ hmem).1)
  | stripe signer =>
    obtain ⟨-, header, hheader, t, supplied, hparse, -⟩ :=
      StripeV1Signer.verify_valid hr hvalid
    refine ⟨header, hheader, fun hmem => ?_⟩
    cases hparse.symm.trans (malformedValues_unreadable _ hmem).2.1
  | standard signer =>
    obtain ⟨-, -, -, -, timestamp, htimestamp, -, -, -, -, t, -, ht, -⟩ :=
      StandardWebhooksSigner.verify_valid hr hvalid
    refine ⟨timestamp, htimestamp, fun hmem => ?_⟩
    cases ht.symm.trans (malformedValues_unreadable _ hmem).2.2

/-- A signer that accepts its headers of one input on another has a digest of both messages in
common. -/
theorem accepts_other (hid : y.eventId = x.eventId) (htime : y.logicalTimeNs = x.logicalTimeNs)
    (hsign : signer.sign x = .ok headers) (haccepts : signer.Accepts y headers) :
    ∃ mx my, signer.canonicalMessage x = .ok mx ∧ signer.canonicalMessage y = .ok my ∧
      ∃ k ∈ signer.keys, ∃ k' ∈ signer.keys,
        signer.hmac.digest k mx = signer.hmac.digest k' my := by
  have hseconds : y.seconds = x.seconds := by rw [SigningInput.seconds, htime, SigningInput.seconds]
  obtain ⟨r, hr, hvalid⟩ := map_ok haccepts
  cases signer with
  | generic signer =>
    obtain ⟨mx, hmx, rfl⟩ := GenericHmacSha256Signer.sign_ok hsign
    obtain ⟨header, hheader, my, hmy, hdecoded⟩ :=
      GenericHmacSha256Signer.verify_valid hr hvalid
    cases List.mem_singleton.1 hheader
    rw [GenericHmacSha256Signer.decodeHeaderValue_headerValue (signer.hmac.digest_length _ _)]
      at hdecoded
    exact ⟨mx, my, hmx, hmy, signer.secret, List.mem_singleton_self _, signer.secret,
      List.mem_singleton_self _, Option.some.inj hdecoded⟩
  | stripe signer =>
    have hmx := StripeV1Signer.canonicalMessage_of_sign hsign
    obtain rfl := StripeV1Signer.sign_ok hsign
    obtain ⟨hmy, header, hheader, t, supplied, hparse, d, hd, hd'⟩ :=
      StripeV1Signer.verify_valid hr hvalid
    cases List.mem_singleton.1 hheader
    obtain ⟨rfl, rfl⟩ := StripeV1Signer.parseHeader_headerValue hparse
    obtain ⟨k', hk', rfl⟩ := List.mem_map.1 hd
    obtain ⟨k, hk, hdigest⟩ := List.mem_map.1 hd'
    rw [← hseconds] at hdigest
    refine ⟨_, _, hmx, hmy, k, hk, k', hk', ?_⟩
    rw [← hseconds]
    exact hdigest
  | standard signer =>
    have hmx := StandardWebhooksSigner.canonicalMessage_of_sign hsign
    obtain ⟨ds, hds, rfl⟩ := StandardWebhooksSigner.sign_ok hsign
    obtain ⟨hmy, idHeader, hidHeader, hidName, timestamp, htimestamp, htimestampName, signature,
      hsignature, hsignatureName, t, supplied, ht, hsupplied, ds', hds', d, hd, hd'⟩ :=
      StandardWebhooksSigner.verify_valid hr hvalid
    obtain ⟨hfree, hfree'⟩ := signer.headerName_free
    have hidValue : idHeader.value = x.eventId := by
      simp only [List.mem_cons, List.not_mem_nil, or_false] at hidHeader
      obtain rfl | rfl | rfl := hidHeader
      · rfl
      · exact absurd hidName (show webhookTimestampHeader ≠ webhookIdHeader by decide)
      · exact absurd hidName hfree
    have htimeValue : timestamp.value = toString x.seconds := by
      simp only [List.mem_cons, List.not_mem_nil, or_false] at htimestamp
      obtain rfl | rfl | rfl := htimestamp
      · exact absurd htimestampName (show webhookIdHeader ≠ webhookTimestampHeader by decide)
      · rfl
      · exact absurd htimestampName hfree'
    have hsignatureValue : signature.value =
        String.ofList ([' '].intercalate (ds.map StandardWebhooksSigner.component)) := by
      simp only [List.mem_cons, List.not_mem_nil, or_false] at hsignature
      obtain rfl | rfl | rfl := hsignature
      · exact absurd hsignatureName.symm hfree
      · exact absurd hsignatureName.symm hfree'
      · rfl
    have hne : ds ≠ [] := by
      rintro rfl
      have hlength := (mapM_ok_iff.1 hds).length_eq
      exact signer.secrets_count.1 (List.length_eq_zero_iff.1 hlength)
    rw [hsignatureValue] at hsupplied
    obtain rfl := StandardWebhooksSigner.parseSignatures_components hne hsupplied
    rw [htimeValue] at ht
    obtain rfl := canonicalInteger_toString ht
    obtain ⟨k, hk, hdigest⟩ := StandardWebhooksSigner.mem_digests hds hd'
    obtain ⟨k', hk', hdigest'⟩ := StandardWebhooksSigner.mem_digests hds' hd
    refine ⟨_, _, hmx, hmy, k, hk, k', hk', ?_⟩
    rw [hid, hseconds]
    rw [hidValue] at hdigest'
    exact hdigest.symm.trans hdigest'

theorem canonicalMessage_body {m : Bytes} (hid : y.eventId = x.eventId)
    (htime : y.logicalTimeNs = x.logicalTimeNs) (hx : signer.canonicalMessage x = .ok m)
    (hy : signer.canonicalMessage y = .ok m) : y.body = x.body := by
  have hseconds : y.seconds = x.seconds := by rw [SigningInput.seconds, htime, SigningInput.seconds]
  cases signer with
  | generic signer => exact GenericHmacSha256Signer.canonicalMessage_body hid htime hx hy
  | stripe signer =>
    have hmessages := (StripeV1Signer.canonicalMessage_ok hy).symm.trans
      (StripeV1Signer.canonicalMessage_ok hx)
    rw [hseconds] at hmessages
    exact List.append_cancel_left hmessages
  | standard signer =>
    have hmessages := (StandardWebhooksSigner.canonicalMessage_ok hy).symm.trans
      (StandardWebhooksSigner.canonicalMessage_ok hx)
    rw [hseconds, hid] at hmessages
    exact List.append_cancel_left hmessages

/-- Headers of one input are not accepted with another body. -/
theorem accepts_body (hid : y.eventId = x.eventId) (htime : y.logicalTimeNs = x.logicalTimeNs)
    (hsep : ∀ mx my, signer.canonicalMessage x = .ok mx → signer.canonicalMessage y = .ok my →
      signer.hmac.Separates signer.keys mx my)
    (hsign : signer.sign x = .ok headers) (haccepts : signer.Accepts y headers) :
    y.body = x.body := by
  obtain ⟨mx, my, hmx, hmy, k, hk, k', hk', hdigest⟩ := accepts_other hid htime hsign haccepts
  obtain ⟨-, rfl⟩ := hsep mx my hmx hmy k hk k' hk' hdigest
  exact canonicalMessage_body hid htime hmx hmy

end BuiltinSigner

end Verification

section WrongKeys

theorem utf8_ascii {cs : List Char} (h : ∀ c ∈ cs, c.toNat < 128) :
    secretText (utf8 (String.ofList cs)) = cs := by
  rw [secretText, utf8, String.toList_ofList]
  induction cs with
  | nil => rfl
  | cons c cs ih =>
    have hascii : c.val.toNat ≤ 127 := Nat.le_of_lt_succ (h c List.mem_cons_self)
    have hbyte : (UInt8.ofNat c.val.toNat).toNat = c.toNat :=
      UInt8.toNat_ofNat_of_lt (by rw [UInt8.size]; omega)
    have hfirst : (String.utf8EncodeChar c).map (fun b => Char.ofNat b.toNat) = [c] := by
      rw [String.utf8EncodeChar, if_pos hascii, List.map_singleton, hbyte, Char.ofNat_toNat]
    rw [List.flatMap_cons, List.map_append, hfirst, ih fun d hd => h d (List.mem_cons_of_mem c hd)]
    rfl

/-- The secret that stands for a derived key decodes to it. -/
theorem decodeSecret_webhookSecret {key : Bytes} (h : key ≠ []) :
    decodeSecret (webhookSecret key) = some key := by
  have hascii : ∀ c ∈ "whsec_".toList ++ toBase64 key, c.toNat < 128 := by
    have hscheme : ∀ c ∈ "whsec_".toList, c.toNat < 128 := by decide
    have halphabet : ∀ c ∈ base64Alphabet, c.toNat < 128 := by
      rw [base64Alphabet_eq]
      decide
    intro c hc
    obtain hc | hc := List.mem_append.1 hc
    · exact hscheme c hc
    · obtain hc | rfl := mem_toBase64 hc
      · exact halphabet c hc
      · decide
  have hprefix : "whsec_".toList.isPrefixOf ("whsec_".toList ++ toBase64 key) = true :=
    List.isPrefixOf_iff_prefix.2 (List.prefix_append _ _)
  have hdrop : ("whsec_".toList ++ toBase64 key).drop 6 = toBase64 key := rfl
  rw [decodeSecret, webhookSecret, utf8_ascii hascii]
  rw [if_pos hprefix, hdrop, fromBase64_toBase64, Option.filter_some,
    if_pos (decide_eq_true ⟨h, rfl⟩)]

variable {sha : Sha256Hash} {signer : BuiltinSigner} {context : Bytes}

theorem wrongKey_ne_nil {key : Bytes} {count : Nat} (h : key ∈ wrongKeys sha context count) :
    key ≠ [] := by
  obtain ⟨index, -, rfl⟩ := List.mem_map.1 h
  intro hnil
  have hlength := sha.digest_length (wrongKeyDomain ++ toBytesBig 4 index ++ context)
  rw [wrongKey] at hnil
  rw [hnil] at hlength
  cases hlength

/-- The keys of a Standard Webhooks signer with wrong secrets are the derived ones. -/
theorem keys_wrongSecrets (count : Nat) :
    ((wrongKeys sha context count).map webhookSecret).filterMap decodeSecret =
      wrongKeys sha context count := by
  have hall : ∀ keys : List Bytes, (∀ key ∈ keys, key ≠ []) →
      (keys.map webhookSecret).filterMap decodeSecret = keys := by
    intro keys hkeys
    induction keys with
    | nil => rfl
    | cons key keys ih =>
      rw [List.map_cons, List.filterMap_cons_some (decodeSecret_webhookSecret (hkeys key List.mem_cons_self)),
        ih fun k hk => hkeys k (List.mem_cons_of_mem key hk)]
  exact hall _ fun key hkey => wrongKey_ne_nil hkey

namespace BuiltinSigner

theorem ownedHeaders_withWrongKeys :
    (signer.withWrongKeys sha context).ownedHeaders = signer.ownedHeaders := by
  cases signer <;> rfl

theorem sameSettings_withWrongKeys : (signer.withWrongKeys sha context).SameSettings signer := by
  cases signer <;> exact ⟨rfl, rfl⟩

/-- One of the keys derived for the context is a key of the signer. Only a Standard Webhooks secret
can stand for the key of another secret. -/
def SharedWrongKey (sha : Sha256Hash) (context : Bytes) : BuiltinSigner → Prop
  | .standard signer => signer.Decodes ∧
      ∃ key ∈ wrongKeys sha context signer.secrets.length, key ∈ signer.keys
  | _ => False

theorem not_shared_of_distinct {secrets secrets' : List Bytes}
    (h : ∀ f ∈ secrets.map (secretFingerprint sha), f ∉ secrets'.map (secretFingerprint sha)) :
    ¬ ∃ k ∈ secrets', k ∈ secrets := by
  rintro ⟨k, hk, hk'⟩
  exact h _ (List.mem_map_of_mem hk') (List.mem_map_of_mem hk)

/-- A signer with wrong keys that passed the check of the fingerprints is still accepted if a
derived key is one of the signer's. -/
theorem accepts_wrongKeys {x : SigningInput} {headers : List SignatureHeader}
    (hsep : (signer.withWrongKeys sha context).Separates signer x)
    (hdistinct : signer.DistinctWrongKeys sha (signer.withWrongKeys sha context))
    (hsign : (signer.withWrongKeys sha context).sign x = .ok headers) :
    signer.Accepts x headers ↔ signer.SharedWrongKey sha context := by
  rw [accepts_signed sameSettings_withWrongKeys hsep hsign]
  cases signer with
  | generic signer => exact iff_of_false (fun h => not_shared_of_distinct hdistinct.2 h.2) id
  | stripe signer => exact iff_of_false (fun h => not_shared_of_distinct hdistinct.2 h.2) id
  | standard signer =>
    change signer.Decodes ∧ (∃ k ∈ ((wrongKeys sha context signer.secrets.length).map
      webhookSecret).filterMap decodeSecret, k ∈ signer.keys) ↔ _
    rw [keys_wrongSecrets]
    rfl

theorem sign_names {x : SigningInput} {headers : List SignatureHeader}
    (h : signer.sign x = .ok headers) : headers.map SignatureHeader.name = signer.ownedHeaders := by
  cases signer with
  | generic signer =>
    obtain ⟨m, -, rfl⟩ := GenericHmacSha256Signer.sign_ok h
    rfl
  | stripe signer =>
    obtain rfl := StripeV1Signer.sign_ok h
    rfl
  | standard signer =>
    obtain ⟨ds, -, rfl⟩ := StandardWebhooksSigner.sign_ok h
    rfl

end BuiltinSigner

end WrongKeys

section Delivery

variable {sha : Sha256Hash} {selected : BuiltinSigner} {limits : MutationPipelineLimits}
  {request : PipelineRequest SignerRef}

/-- The delivered signature headers. -/
def ownHeaders (signer : BuiltinSigner) (headers : List SignatureHeader) : List SignatureHeader :=
  headers.filter fun h => h.name ∈ signer.ownedHeaders

theorem ownHeaders_append {headers signed : List SignatureHeader}
    (hfree : ∀ h ∈ headers, h.name ∉ selected.ownedHeaders)
    (hsigned : signed.map SignatureHeader.name = selected.ownedHeaders) :
    ownHeaders selected (headers ++ signed) = signed := by
  have hnone : headers.filter (fun h => h.name ∈ selected.ownedHeaders) = [] :=
    List.filter_eq_nil_iff.2 fun h hh => by simpa using hfree h hh
  have hall : signed.filter (fun h => h.name ∈ selected.ownedHeaders) = signed :=
    List.filter_eq_self.2 fun h hh => by
      rw [← hsigned]
      exact decide_eq_true (List.mem_map_of_mem hh)
  rw [ownHeaders, List.filter_append, hnone, hall, List.nil_append]

theorem ownHeaders_filter (headers : List SignatureHeader) :
    ownHeaders selected (headers.filter fun h => h.name ∉ selected.ownedHeaders) = [] := by
  refine List.filter_eq_nil_iff.2 fun h hh => ?_
  simpa using (List.mem_filter.1 hh).2

/-- Nothing but the value is left of the signature headers. -/
theorem value_of_mem_replaceOwned {value : String} {headers : List SignatureHeader}
    {header : SignatureHeader}
    (h : header ∈ ownHeaders selected (replaceOwned selected.ownedHeaders value headers)) :
    header.value = value := by
  obtain ⟨hmem, hown⟩ := List.mem_filter.1 h
  obtain hmem | hmem := List.mem_append.1 hmem
  · obtain ⟨old, -, rfl⟩ := List.mem_map.1 hmem
    split
    · rfl
    · rename_i hother
      rw [if_neg hother] at hown
      exact absurd (of_decide_eq_true hown) hother
  · obtain ⟨name, -, rfl⟩ := List.mem_map.1 hmem
    rfl

theorem signingResult_ok {signer : BuiltinSigner} {input : SigningInput}
    {headers : List SignatureHeader} {result : SigningResult}
    (h : signer.signingResult sha input headers = .ok result) : result.headers = headers := by
  unfold BuiltinSigner.signingResult at h
  split_ifs at h
  cases h
  rfl

open MutationPipeline

theorem signedBy_headers {snapshot : SignerSnapshot} {unsigned : MutationState SignerRef}
    {signature : Signature SignerRef} {ref : SignerRef} (hsigner : unsigned.signer = some ref)
    (h : SignedBy (builtinPipeline sha selected limits) request snapshot unsigned signature) :
    ∃ headers, (signerOf sha selected ref).sign signature.input = .ok headers ∧
      signature.state.headers = unsigned.headers ++ headers := by
  obtain ⟨signer, hmem, -, result, hsign, -, hheaders, -⟩ := h.signed
  cases hsigner.symm.trans hmem
  obtain ⟨headers, hheaders', hresult⟩ := bind_ok hsign
  exact ⟨headers, hheaders', by rw [hheaders, signingResult_ok hresult]⟩

/-- The signing step of a request with a signer, by what it signs and what it adds. -/
theorem signing_headers {snapshot : SignerSnapshot} {unsigned signed : MutationState SignerRef}
    {calls : List Call} {evidence : Option SigningEvidence} {digest : Option String}
    {ref : SignerRef} (hsigner : unsigned.signer = some ref)
    (h : Signing (builtinPipeline sha selected limits) request unsigned (some snapshot) signed
      calls evidence digest) :
    ∃ x headers, x.body = unsigned.body ∧ x.eventId = request.eventId ∧
      x.logicalTimeNs = unsigned.signingTimeNs ∧
      (signerOf sha selected ref).sign x = .ok headers ∧
      signed.headers = unsigned.headers ++ headers ∧ signed.body = unsigned.body ∧
      signed.signer = unsigned.signer := by
  cases h with
  | signed hby =>
    obtain ⟨hbody, hid, htime⟩ := hby.input
    obtain ⟨headers, hsign, hheaders⟩ := signedBy_headers hsigner hby
    exact ⟨_, headers, hbody, hid, htime, hsign, hheaders, hby.body, hby.signer⟩

/-- The delivered body can be presented for verification. -/
theorem MutationPipeline.execute_signable {σ : Type} [DecidableEq σ] {p : MutationPipeline σ}
    {request : PipelineRequest σ} {result : MutationPipelineResult}
    (h : p.execute request = .ok result) :
    ∃ x, signingInput result.body request.eventId request.logicalTimeNs = .ok x := by
  obtain ⟨progress, hrun, rfl⟩ := map_ok h
  obtain ⟨prepared, hprepared, hrun⟩ := bind_ok hrun
  obtain ⟨_, -, hrun⟩ := bind_ok hrun
  obtain ⟨_, -, hrun⟩ := bind_ok hrun
  obtain ⟨_, hresources, hrun⟩ := bind_ok hrun
  cases pure_ok hrun
  obtain ⟨_, hlimit, -⟩ := bind_ok (mapError_ok_iff.1 hresources)
  obtain ⟨_, -, hpreflight⟩ := bind_ok (mapError_ok_iff.1 hprepared)
  obtain ⟨_, -, hpreflight⟩ := bind_ok hpreflight
  obtain ⟨_, -, hpreflight⟩ := bind_ok hpreflight
  obtain ⟨state, hseed, -⟩ := bind_ok hpreflight
  obtain ⟨hstate, hid, -⟩ := seedState_ok hseed
  obtain ⟨-, -, htime, -⟩ := mutationState_ok hstate
  have hbody : progress.state.body.length ≤ maxSigningBodyBytes :=
    (require_ok hlimit).trans p.limits.body_range.2
  have hlength : (utf8 request.eventId).length ≤ maxEventIdBytes := by
    simp only [isEventId, Bool.and_eq_true, decide_eq_true_eq] at hid
    exact hid.2
  have hrange := state.time_range
  rw [htime] at hrange
  exact ⟨⟨progress.state.body, request.eventId, request.logicalTimeNs, hbody, hlength, hrange⟩, by
    rw [MutationPipeline.result, signingInput, dif_pos hbody, dif_pos hlength, dif_pos hrange]⟩

end Delivery

section Faults

open MutationPipeline

/-- The operators that inject a fault into the signature. -/
def signatureFaults : List MutationOperator :=
  [.wrongSigningKey, .missingSignature, .malformedSignature, .alterAfterSigning]

/-- The keys of the selected signer, and those that the mutation derives. -/
def faultKeys (sha : Sha256Hash) (selected : BuiltinSigner) (m : RealizedMutation) : List Bytes :=
  match m.parameters.lookup "context" with
  | some (.text context) => (selected.withWrongKeys sha (utf8 context)).keys ++ selected.keys
  | _ => selected.keys

/-- The message of a body with the event id and the time of a request. -/
def requestMessage (selected : BuiltinSigner) (request : PipelineRequest SignerRef)
    (body : Bytes) : Option Bytes :=
  match signingInput body request.eventId request.logicalTimeNs with
  | .ok x => (selected.canonicalMessage x).toOption
  | .error _ => none

/-- HMAC is injective on the keys and the messages that a fault is about. -/
def FaultSeparated (sha : Sha256Hash) (selected : BuiltinSigner)
    (request : PipelineRequest SignerRef) (m : RealizedMutation) (delivered : Bytes) : Prop :=
  ∀ b ∈ [request.body, delivered], ∀ b' ∈ [request.body, delivered],
    ∀ message ∈ requestMessage selected request b, ∀ message' ∈ requestMessage selected request b',
      selected.hmac.Separates (faultKeys sha selected m) message message'

/-- The mutation asks for a wrong key and derives one that the selected signer accepts. -/
def DerivesAcceptedKey (sha : Sha256Hash) (selected : BuiltinSigner) (m : RealizedMutation) :
    Prop :=
  m.operatorId = MutationOperator.wrongSigningKey.id ∧
    ∃ context, m.parameters.lookup "context" = some (.text context) ∧
      selected.SharedWrongKey sha (utf8 context)

variable {sha : Sha256Hash} {selected : BuiltinSigner} {limits : MutationPipelineLimits}
  {request : PipelineRequest SignerRef} {m : RealizedMutation} {delivered : Bytes}

theorem requestMessage_eq {x : SigningInput} {message : Bytes} (hid : x.eventId = request.eventId)
    (htime : x.logicalTimeNs = request.logicalTimeNs)
    (h : selected.canonicalMessage x = .ok message) :
    message ∈ requestMessage selected request x.body := by
  have hx : signingInput x.body request.eventId request.logicalTimeNs = .ok x := by
    rw [← hid, ← htime, signingInput, dif_pos x.body_length, dif_pos x.eventId_length,
      dif_pos x.time_range]
  rw [requestMessage, hx]
  exact congrArg Except.toOption h

theorem mem_faultKeys {key : Bytes} (h : key ∈ selected.keys) : key ∈ faultKeys sha selected m := by
  unfold faultKeys
  split
  · exact List.mem_append_right _ h
  · exact h

theorem BuiltinSigner.canonicalMessage_withWrongKeys {context : Bytes} (x : SigningInput) :
    (selected.withWrongKeys sha context).canonicalMessage x = selected.canonicalMessage x := by
  cases selected <;> rfl

theorem BuiltinSigner.hmac_withWrongKeys {context : Bytes} :
    (selected.withWrongKeys sha context).hmac = selected.hmac := by
  cases selected <;> rfl

/-- The signer itself is separated on the two bodies. -/
theorem FaultSeparated.own (hsep : FaultSeparated sha selected request m delivered)
    {x y : SigningInput} (hx : x.body = request.body) (hy : y.body = delivered)
    (hxid : x.eventId = request.eventId) (hyid : y.eventId = request.eventId)
    (hxtime : x.logicalTimeNs = request.logicalTimeNs)
    (hytime : y.logicalTimeNs = request.logicalTimeNs) {mx my : Bytes}
    (hmx : selected.canonicalMessage x = .ok mx) (hmy : selected.canonicalMessage y = .ok my) :
    selected.hmac.Separates selected.keys mx my := by
  intro k hk k' hk'
  refine hsep request.body (by simp) delivered (by simp) mx ?_ my ?_ k (mem_faultKeys hk) k'
    (mem_faultKeys hk')
  · rw [← hx]
    exact requestMessage_eq hxid hxtime hmx
  · rw [← hy]
    exact requestMessage_eq hyid hytime hmy

/-- So is the signer with the derived keys, on the original body. -/
theorem FaultSeparated.wrongKeys (hsep : FaultSeparated sha selected request m delivered)
    {context : String} (hcontext : m.parameters.lookup "context" = some (.text context))
    {x : SigningInput} (hx : x.body = request.body) (hid : x.eventId = request.eventId)
    (htime : x.logicalTimeNs = request.logicalTimeNs) :
    (selected.withWrongKeys sha (utf8 context)).Separates selected x := by
  intro message hmessage
  rw [BuiltinSigner.canonicalMessage_withWrongKeys] at hmessage
  have hmem := requestMessage_eq hid htime hmessage
  rw [hx] at hmem
  have hkeys := hsep request.body (by simp) request.body (by simp) message hmem message hmem
  rw [faultKeys, hcontext] at hkeys
  rw [BuiltinSigner.hmac_withWrongKeys]
  exact hkeys

/-- What a request with the selected signer goes through, by the operator of its mutation. -/
theorem execute_fault {result : MutationPipelineResult} (hm : request.mutations = [m])
    (hsigner : request.signer = some [])
    (h : (builtinPipeline sha selected limits).execute request = .ok result) :
    ∃ o : MutationOperator, ∃ snapshot start final, o.Invokes m ∧ StartsWith request start ∧
      (∀ header ∈ request.headers, header.name ∉ selected.ownedHeaders) ∧
      AppliedOnce (builtinPipeline sha selected limits) request (some snapshot) m
        (o.registration (builtinFamily sha selected)) start final ∧
      result.body = final.body ∧ result.headers = final.headers := by
  obtain ⟨snapshot, registration, start, final, hselected, hregistered, hstart, honce, hbody,
    hheaders⟩ := execute_single hm h
  obtain ⟨expected, rfl⟩ := selectSigner_some hselected hsigner
  obtain ⟨o, rfl, hinvokes⟩ := allMutationRegistry_ok hregistered
  refine ⟨o, expected, start, final, hinvokes, hstart, ?_, honce, hbody, hheaders⟩
  have hvalid := start.headers_valid
  rw [hstart.2.1] at hvalid
  exact selectSigner_free hsigner hvalid hselected

/-- A mutation that is applied after the signature finds the headers of the selected signer. -/
theorem MutationPipeline.AppliedOnce.signed {o : MutationOperator} {snapshot : SignerSnapshot}
    {start final : MutationState SignerRef} (hsigner : request.signer = some [])
    (hstart : StartsWith request start) (hm : o.Invokes m)
    (hstage : MutationStage.signing.rank < o.stage.rank)
    (h : AppliedOnce (builtinPipeline sha selected limits) request (some snapshot) m
      (o.registration (builtinFamily sha selected)) start final) :
    ∃ x signed headers, x.body = request.body ∧ x.eventId = request.eventId ∧
      x.logicalTimeNs = request.logicalTimeNs ∧ selected.sign x = .ok headers ∧
      signed.headers = request.headers ++ headers ∧ signed.body = request.body ∧
      signed.signer = some [] ∧
      o.implementation (builtinFamily sha selected)
        ⟨m, signed, request.eventId, request.mediaType⟩ = .ok final := by
  obtain ⟨hbody, hheaders, htime, hsame⟩ := hstart
  cases h with
  | before stage applied signing =>
    rw [hm.2.2] at stage
    exact absurd stage (not_le.2 hstage)
  | after stage signing applied =>
    obtain ⟨x, headers, hxbody, hxid, hxtime, hsign, hsigned, hsbody, hssigner⟩ :=
      signing_headers (hsame.trans hsigner) signing
    exact ⟨x, _, headers, hxbody.trans hbody, hxid, hxtime.trans htime, hsign,
      by rw [hsigned, hheaders], hsbody.trans hbody, hssigner.trans (hsame.trans hsigner), applied⟩

theorem MutationPipeline.AppliedOnce.wrongKey {snapshot : SignerSnapshot} {start final : MutationState SignerRef}
    (hsigner : request.signer = some []) (hstart : StartsWith request start)
    (hm : MutationOperator.wrongSigningKey.Invokes m)
    (h : AppliedOnce (builtinPipeline sha selected limits) request (some snapshot) m
      (MutationOperator.wrongSigningKey.registration (builtinFamily sha selected)) start final) :
    ∃ context x headers, m.parameters.lookup "context" = some (.text context) ∧
      x.body = request.body ∧ x.eventId = request.eventId ∧
      x.logicalTimeNs = request.logicalTimeNs ∧
      selected.DistinctWrongKeys sha (selected.withWrongKeys sha (utf8 context)) ∧
      (selected.withWrongKeys sha (utf8 context)).sign x = .ok headers ∧
      final.headers = request.headers ++ headers ∧ final.body = request.body := by
  obtain ⟨hbody, hheaders, htime, hsame⟩ := hstart
  cases h with
  | before stage applied signing =>
    obtain ⟨context, signer, replacement, hcontext, hfound, hreplaced, rfl⟩ :=
      wrongSigningKeyV1_ok applied
    cases (hsame.trans hsigner).symm.trans hfound
    obtain ⟨hdistinct, hreplacement⟩ := Option.ite_none_right_eq_some.1 hreplaced
    cases hreplacement
    obtain ⟨x, headers, hxbody, hxid, hxtime, hsign, hsigned, hsbody, -⟩ :=
      signing_headers rfl signing
    exact ⟨context, x, headers, hcontext, hxbody.trans hbody, hxid, hxtime.trans htime, hdistinct,
      hsign, hsigned.trans (by rw [hheaders]), hsbody.trans hbody⟩
  | after stage signing applied =>
    rw [hm.2.2] at stage
    exact absurd stage (by decide)

/-- An injected fault is one for the selected signer, unless the mutation asks for a wrong key and
derives a key that this signer accepts. -/
theorem signature_fault_real_iff {result : MutationPipelineResult} (hm : request.mutations = [m])
    (hsigner : request.signer = some [])
    (hfault : m.operatorId ∈ signatureFaults.map MutationOperator.id)
    (h : (builtinPipeline sha selected limits).execute request = .ok result)
    (hsep : FaultSeparated sha selected request m result.body) :
    ∃ x, signingInput result.body request.eventId request.logicalTimeNs = .ok x ∧
      (¬ selected.Accepts x (ownHeaders selected result.headers) ↔
        ¬ DerivesAcceptedKey sha selected m) := by
  obtain ⟨y, hy⟩ := execute_signable h
  obtain ⟨hybody, hyid, hytime⟩ := signingInput_ok hy
  refine ⟨y, hy, ?_⟩
  obtain ⟨o, snapshot, start, final, hinvokes, hstart, hfree, honce, hbody, hheaders⟩ :=
    execute_fault hm hsigner h
  -- Apart from the wrong key the right side says nothing, and the signer has to refuse.
  have hother : o ≠ .wrongSigningKey → ¬ selected.Accepts y (ownHeaders selected result.headers) →
      (¬ selected.Accepts y (ownHeaders selected result.headers) ↔
        ¬ DerivesAcceptedKey sha selected m) := by
    intro hne hrefused
    refine iff_of_true hrefused fun hderives => hne ?_
    exact MutationOperator.id_injective (hinvokes.1.symm.trans hderives.1)
  have hcases : o ∈ signatureFaults := by
    obtain ⟨o', ho', hid⟩ := List.mem_map.1 hfault
    rwa [MutationOperator.id_injective (hinvokes.1.symm.trans hid.symm)]
  rw [hbody] at hybody hsep
  rw [hheaders] at hother ⊢
  simp only [signatureFaults, List.mem_cons, List.not_mem_nil, or_false] at hcases
  obtain rfl | rfl | rfl | rfl := hcases
  · -- The signature is the one of the signer with the derived keys.
    obtain ⟨context, x, headers, hcontext, hxbody, hxid, hxtime, hdistinct, hsign, hfinal, hsame⟩ :=
      honce.wrongKey hsigner hstart hinvokes
    have hnames := (BuiltinSigner.sign_names hsign).trans BuiltinSigner.ownedHeaders_withWrongKeys
    have hxy : y = x := SigningInput.eq_of (hybody.trans (hsame.trans hxbody.symm))
      (hyid.trans hxid.symm) (hytime.trans hxtime.symm)
    rw [hfinal, ownHeaders_append hfree hnames, hxy,
      BuiltinSigner.accepts_wrongKeys (hsep.wrongKeys hcontext hxbody hxid hxtime) hdistinct hsign]
    refine not_congr ⟨fun hshared => ⟨hinvokes.1, context, hcontext, hshared⟩, ?_⟩
    rintro ⟨-, other, hlookup, hshared⟩
    cases hcontext.symm.trans hlookup
    exact hshared
  · obtain ⟨x, signed, headers, -, -, -, -, -, -, hssigner, happlied⟩ :=
      honce.signed hsigner hstart hinvokes (by decide)
    obtain ⟨signer, hfound, -, hremoved⟩ := missingSignatureV1_ok happlied
    cases hssigner.symm.trans hfound
    refine hother nofun ?_
    rw [hremoved]
    change ¬ selected.Accepts y (ownHeaders selected
      (signed.headers.filter fun h => h.name ∉ selected.ownedHeaders))
    rw [ownHeaders_filter]
    exact BuiltinSigner.not_accepts_nil
  · obtain ⟨x, signed, headers, -, -, -, -, -, -, hssigner, happlied⟩ :=
      honce.signed hsigner hstart hinvokes (by decide)
    obtain ⟨signer, value, hvalue, hfound, -, hreplaced⟩ := malformedSignatureV1_ok happlied
    cases hssigner.symm.trans hfound
    refine hother nofun fun haccepts => ?_
    obtain ⟨header, hheader, hreadable⟩ := BuiltinSigner.accepts_readable haccepts
    rw [hreplaced] at hheader
    rw [value_of_mem_replaceOwned hheader] at hreadable
    exact hreadable hvalue
  · obtain ⟨x, signed, headers, hxbody, hxid, hxtime, hsign, hsheaders, hsbody, -, happlied⟩ :=
      honce.signed hsigner hstart hinvokes (by decide)
    obtain ⟨hchanged, hfinal⟩ := alterAfterSigningV1_ok happlied
    refine hother nofun fun haccepts => hchanged ?_
    have hkept : final.headers = signed.headers := by
      rw [hfinal]
      rfl
    rw [hkept, hsheaders, ownHeaders_append hfree (BuiltinSigner.sign_names hsign)] at haccepts
    have hsame := BuiltinSigner.accepts_body (hyid.trans hxid.symm) (hytime.trans hxtime.symm)
      (fun mx my hmx hmy => hsep.own hxbody hybody hxid hyid hxtime hytime hmx hmy) hsign haccepts
    exact hybody.symm.trans (hsame.trans (hxbody.trans hsbody.symm))

/-- A stand-in for the hash function that tells inputs apart by their lengths. -/
def lengthHash : Sha256Hash := ⟨fun bytes => toBytesBig digestSize bytes.length, by simp⟩

def faultRequest (m : RealizedMutation) : PipelineRequest SignerRef where
  body := utf8 "order"
  headers := [⟨"content-type", "text/plain"⟩]
  eventId := "e"
  logicalTimeNs := 1000000000
  mediaType := "text/plain"
  signer := some []
  mutations := [m]

def missingSignature : RealizedMutation :=
  ⟨"missing-signature-v1", 1, .headerPostSign, [], [], RealizedMutation.no_parameters⟩

def wrongSigningKey : RealizedMutation :=
  ⟨"wrong-signing-key-v1", 1, .signing, [("context", .text "c")], [], by decide⟩

/-- Its secret is the key that the context derives, without the scheme that a derived secret has:
other material with another fingerprint, and the same key. -/
def derivedKeySigner : StandardWebhooksSigner where
  hmac := sampleHmac
  headerName := "webhook-signature"
  secrets := [utf8 (String.ofList (toBase64 (wrongKey lengthHash (utf8 "c") 0)))]
  headerName_free := webhookSignature_free
  secrets_count := by decide

-- The evaluations of both deliveries, one after the other.
theorem fault_runs :
    ((builtinPipeline lengthHash (.stripe sampleStripe) .standard).execute
        (faultRequest missingSignature)).map MutationPipelineResult.body = .ok (utf8 "order") ∧
      FaultSeparated lengthHash (.stripe sampleStripe) (faultRequest missingSignature)
        missingSignature (utf8 "order") ∧
      ((builtinPipeline lengthHash (.standard derivedKeySigner) .standard).execute
        (faultRequest wrongSigningKey)).map (fun r => (r.body,
          (signingInput r.body "e" 1000000000).toOption.any fun x =>
            decide ((BuiltinSigner.standard derivedKeySigner).Accepts x
              (ownHeaders (.standard derivedKeySigner) r.headers)))) = .ok (utf8 "order", true) ∧
      FaultSeparated lengthHash (.standard derivedKeySigner) (faultRequest wrongSigningKey)
        wrongSigningKey (utf8 "order") := by
  refine ⟨?_, ?_, ?_, ?_⟩
  · decide +kernel
  · unfold FaultSeparated
    decide +kernel
  · decide +kernel
  · unfold FaultSeparated
    decide +kernel

theorem missingSignature_refused :
    ∃ result x, (builtinPipeline lengthHash (.stripe sampleStripe) .standard).execute
        (faultRequest missingSignature) = .ok result ∧
      ¬ (BuiltinSigner.stripe sampleStripe).Accepts x
        (ownHeaders (.stripe sampleStripe) result.headers) := by
  obtain ⟨hbody, hsep, -, -⟩ := fault_runs
  obtain ⟨result, hresult, hsame⟩ := map_ok hbody
  rw [← hsame] at hsep
  obtain ⟨x, -, hreal⟩ := signature_fault_real_iff rfl rfl (by decide) hresult hsep
  refine ⟨result, x, hresult, hreal.2 ?_⟩
  rintro ⟨hid, -⟩
  exact absurd hid (by decide)

/-- The signer with the wrong key signs, and the selected signer accepts. -/
theorem wrongSigningKey_accepted :
    ∃ result x, (builtinPipeline lengthHash (.standard derivedKeySigner) .standard).execute
        (faultRequest wrongSigningKey) = .ok result ∧
      FaultSeparated lengthHash (.standard derivedKeySigner) (faultRequest wrongSigningKey)
        wrongSigningKey result.body ∧
      signingInput result.body "e" 1000000000 = .ok x ∧
      (BuiltinSigner.standard derivedKeySigner).Accepts x
        (ownHeaders (.standard derivedKeySigner) result.headers) := by
  obtain ⟨-, -, hrun, hsep⟩ := fault_runs
  obtain ⟨result, hresult, hpair⟩ := map_ok hrun
  obtain ⟨hsame, hany⟩ := Prod.mk.inj hpair
  rw [← hsame] at hsep
  cases hx : signingInput result.body "e" 1000000000 with
  | error message =>
    rw [hx] at hany
    cases hany
  | ok x =>
    rw [hx] at hany
    exact ⟨result, x, hresult, hsep, hx, of_decide_eq_true hany⟩

end Faults

end WebhookConformance
