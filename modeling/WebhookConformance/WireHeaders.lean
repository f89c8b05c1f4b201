import WebhookConformance.PreflightAgreement
import WebhookConformance.RealizedAttempts

/-! The header names that the transport reserves, against those that a signer may own: which names
reach `_build_wire_request`, and when it refuses one of them. -/
namespace WebhookConformance

open Checked MutationPipeline

section Transport

variable {seen after : List String} {headers : List HttpHeader} {h : HttpHeader}
  {e : HttpInputError} {settings : ReadSettings} {command : HttpAttemptCommand}

/-- The two refusals of a header for its name. -/
def HttpInputError.RefusesName (e : HttpInputError) : Prop :=
  e.code = .forbiddenHeader ∨ e.code = .duplicateHeader

instance HttpInputError.decidableRefusesName (e : HttpInputError) : Decidable e.RefusesName :=
  inferInstanceAs (Decidable (_ ∨ _))

/-- Whoever owns it, a header may not have the name of a generated one. -/
theorem checkHeaderName_iff :
    checkHeaderName seen h = .ok after ↔ casefold h.name ∉ clientOwnedHeaders ∧
      casefold h.name ∉ seen ∧ after = casefold h.name :: seen := by
  have huser : ∀ name ∈ forbiddenUserHeaders, name ∈ clientOwnedHeaders := by decide
  constructor
  · intro hcheck
    obtain ⟨_, -, hcheck⟩ := bind_ok hcheck
    obtain ⟨_, hclient, hcheck⟩ := bind_ok hcheck
    obtain ⟨_, hfresh, hcheck⟩ := bind_ok hcheck
    exact ⟨require_ok hclient, require_ok hfresh, (pure_ok hcheck).symm⟩
  · rintro ⟨hclient, hfresh, rfl⟩
    refine bind_of (require_of ?_) (bind_of (require_of hclient) (bind_of (require_of hfresh) rfl))
    split
    · exact fun hmem => hclient (huser _ hmem)
    · exact hclient

theorem checkHeaderNames_iff :
    (∃ after, runAll checkHeaderName seen headers = .ok after) ↔
      (∀ h ∈ headers, casefold h.name ∉ clientOwnedHeaders) ∧
      (headers.map fun h => casefold h.name).Nodup ∧ ∀ h ∈ headers, casefold h.name ∉ seen := by
  induction headers generalizing seen with
  | nil => simp [runAll]
  | cons h headers ih =>
    constructor
    · rintro ⟨after, hrun⟩
      obtain ⟨middle, hstep, hrun⟩ := bind_ok hrun
      obtain ⟨hclient, hfresh, rfl⟩ := checkHeaderName_iff.1 hstep
      obtain ⟨hclients, hnodup, hseen⟩ := ih.1 ⟨after, hrun⟩
      refine ⟨List.forall_mem_cons.2 ⟨hclient, hclients⟩, List.nodup_cons.2 ⟨?_, hnodup⟩,
        List.forall_mem_cons.2 ⟨hfresh, fun h' hh => ?_⟩⟩
      · intro hmem
        obtain ⟨h', hh, heq⟩ := List.mem_map.1 hmem
        exact hseen h' hh (heq ▸ List.mem_cons_self)
      · exact fun hmem => hseen h' hh (List.mem_cons_of_mem _ hmem)
    · rintro ⟨hclients, hnodup, hseen⟩
      obtain ⟨hclient, hclients⟩ := List.forall_mem_cons.1 hclients
      obtain ⟨hfirst, hnodup⟩ := List.nodup_cons.1 hnodup
      obtain ⟨hfresh, hseen⟩ := List.forall_mem_cons.1 hseen
      obtain ⟨after, hrun⟩ := (@ih (casefold h.name :: seen)).2 ⟨hclients, hnodup, by
        intro h' hh hmem
        obtain heq | hmem := List.mem_cons.1 hmem
        · exact hfirst (List.mem_map.2 ⟨h', hh, heq⟩)
        · exact hseen h' hh hmem⟩
      exact ⟨after, bind_of (checkHeaderName_iff.2 ⟨hclient, hfresh, rfl⟩) hrun⟩

theorem checkHeaderNames_raises :
    Raises HttpInputError.RefusesName (runAll checkHeaderName seen headers) := by
  induction headers generalizing seen with
  | nil => exact raises_ok
  | cons h headers ih =>
    refine raises_bind.2 ⟨?_, fun _ _ => ih⟩
    refine raises_bind.2 ⟨raises_require fun _ => .inl rfl, fun _ _ => ?_⟩
    refine raises_bind.2 ⟨raises_require fun _ => .inl rfl, fun _ _ => ?_⟩
    exact raises_bind.2 ⟨raises_require fun _ => .inr rfl, fun _ _ => raises_ok⟩

/-- A request within the limits is refused for a name exactly when one is reserved or stands
twice. -/
theorem buildWireRequest_names_iff (hbody : command.body.length ≤ settings.limits.maxRequestBytes)
    (hcount : command.headers.length ≤ maxRequestHeaders) :
    Raises (fun e => ¬ e.RefusesName) (buildWireRequest settings command) ↔
      (∀ h ∈ command.headers, casefold h.name ∉ clientOwnedHeaders) ∧
      (command.headers.map fun h => casefold h.name).Nodup := by
  have hloop := @checkHeaderNames_iff [] command.headers
  constructor
  · intro hraises
    cases hrun : runAll checkHeaderName [] command.headers with
    | ok after =>
      obtain ⟨hclients, hnodup, -⟩ := hloop.1 ⟨after, hrun⟩
      exact ⟨hclients, hnodup⟩
    | error e =>
      refine absurd (checkHeaderNames_raises e hrun) (hraises e ?_)
      unfold buildWireRequest
      rw [require_of hbody, require_of hcount, hrun]
      rfl
  · rintro ⟨hclients, hnodup⟩
    obtain ⟨after, hrun⟩ := hloop.2 ⟨hclients, hnodup, fun _ _ => List.not_mem_nil⟩
    refine raises_bind.2 ⟨raises_require fun _ => by decide, fun _ _ => ?_⟩
    refine raises_bind.2 ⟨raises_require fun _ => by decide, fun _ _ => ?_⟩
    rw [hrun]
    refine raises_bind.2 ⟨raises_ok, fun _ _ => ?_⟩
    refine raises_bind.2 ⟨raises_bind.2 ⟨raises_require fun _ => by decide,
      fun _ _ => raises_ok⟩, fun _ _ => ?_⟩
    exact raises_bind.2 ⟨raises_require fun _ => by decide, fun _ _ => raises_ok⟩

end Transport

section Names

def MutationState.headerNames {σ : Type} (s : MutationState σ) : List String :=
  s.headers.map SignatureHeader.name

variable {sha : Sha256Hash} {selected : BuiltinSigner} {p : MutationPipeline SignerRef}
  {request : PipelineRequest SignerRef} {before after unsigned signed : MutationState SignerRef}
  {mutations : List RealizedMutation} {items : List MutationEvidence} {name : String}
  {owned : List String} {snapshot : Option SignerSnapshot} {calls : List Call}
  {evidence : Option SigningEvidence} {digest : Option String}

/-- A pipeline whose operators are all built in. -/
structure Builtin (p : MutationPipeline SignerRef) (sha : Sha256Hash)
    (selected : BuiltinSigner) : Prop where
  signers : p.signers = (builtinFamily sha selected).toSignerProtocol
  registered : ∀ m r, p.registry.registration m = .ok r →
    ∃ o : MutationOperator, r = o.registration (builtinFamily sha selected) ∧ o.Invokes m

theorem signerOf_ownedHeaders (ref : SignerRef) :
    (signerOf sha selected ref).ownedHeaders = selected.ownedHeaders := by
  induction ref with
  | nil => rfl
  | cons context ref ih => exact BuiltinSigner.ownedHeaders_withWrongKeys.trans ih

theorem Builtin.ownedHeaders (hp : Builtin p sha selected) (ref : SignerRef) :
    p.signers.ownedHeaders ref = selected.ownedHeaders := by
  rw [hp.signers]
  exact signerOf_ownedHeaders ref

/-- A name that an operator may neither remove nor write stays or stays away. -/
theorem MutationPipeline.Declared.names_iff {effects : OperatorEffects}
    (h : Declared effects owned before after) (hremoved : name ∉ effects.allowedRemoved owned)
    (hwritten : name ∉ effects.allowedWritten owned) :
    name ∈ after.headerNames ↔ name ∈ before.headerNames := by
  have hmem : ∀ s : MutationState SignerRef,
      name ∈ s.headerNames ↔ valueOf? s.headers name ≠ none := fun s => by
    rw [ne_eq, valueOf?_eq_none, not_not]
    rfl
  rw [hmem, hmem]
  constructor
  · intro hafter hbefore
    exact hwritten (h.written name hafter (hbefore ▸ hafter))
  · intro hbefore hafter
    exact hremoved (h.removed name hbefore hafter)

/-- Operators that leave signatures alone touch no header but the content type; the others touch
those of the signer. -/
theorem MutationOperator.untouched (o : MutationOperator) (hname : name ≠ contentTypeHeader)
    (howned : name ∈ owned → o.effects.signatureHeaderAction = .none) :
    name ∉ o.effects.allowedRemoved owned ∧ name ∉ o.effects.allowedWritten owned := by
  cases o with
  | contentTypeMismatch =>
    exact ⟨List.not_mem_nil, fun hmem => hname (List.mem_singleton.1 hmem)⟩
  | missingSignature =>
    exact ⟨fun hmem => SignatureHeaderAction.noConfusion (howned hmem), List.not_mem_nil⟩
  | malformedSignature =>
    exact ⟨fun hmem => SignatureHeaderAction.noConfusion (howned hmem),
      fun hmem => SignatureHeaderAction.noConfusion (howned hmem)⟩
  | _ => exact ⟨List.not_mem_nil, List.not_mem_nil⟩

theorem applied_names_iff (hp : Builtin p sha selected) (hname : name ≠ contentTypeHeader)
    (howned : name ∈ owned → ∀ m ∈ mutations, ∀ o : MutationOperator, o.Invokes m →
      o.effects.signatureHeaderAction = .none)
    (h : Applied p request owned before mutations items after) :
    name ∈ after.headerNames ↔ name ∈ before.headerNames := by
  refine Applied.invariant
    (P := fun s => name ∈ s.headerNames ↔ name ∈ before.headerNames) ?_ h Iff.rfl
  intro m hm registration s t hregistered _ hdeclared hs
  obtain ⟨o, rfl, hinvokes⟩ := hp.registered m registration hregistered
  obtain ⟨hremoved, hwritten⟩ := o.untouched hname fun hmem => howned hmem m hm o hinvokes
  exact (hdeclared.names_iff hremoved hwritten).trans hs

theorem mem_replaceOwned {value : String} {headers : List SignatureHeader}
    (h : name ∈ headers.map SignatureHeader.name) :
    name ∈ (replaceOwned owned value headers).map SignatureHeader.name := by
  obtain ⟨header, hheader, rfl⟩ := List.mem_map.1 h
  rw [replaceOwned, List.map_append, List.map_map]
  refine List.mem_append_left _ (List.mem_map.2 ⟨header, hheader, ?_⟩)
  by_cases hname : header.name ∈ owned
  · simp [hname]
  · simp [hname]

/-- Without `missing-signature-v1` a header of the signer stays. -/
theorem applied_keeps_signature (hp : Builtin p sha selected) (hname : name ≠ contentTypeHeader)
    (hkept : ∀ m ∈ mutations, ¬ MutationOperator.missingSignature.Invokes m)
    (h : Applied p request owned before mutations items after)
    (hbefore : name ∈ before.headerNames) : name ∈ after.headerNames := by
  refine Applied.invariant (P := fun s => name ∈ s.headerNames) ?_ h hbefore
  intro m hm registration s t hregistered happlied hdeclared hs
  obtain ⟨o, rfl, hinvokes⟩ := hp.registered m registration hregistered
  by_cases hmalformed : o = .malformedSignature
  · subst hmalformed
    obtain ⟨_, _, -, -, -, hheaders⟩ := malformedSignatureV1_ok happlied
    unfold MutationState.headerNames
    rw [hheaders]
    exact mem_replaceOwned hs
  · have haction : o.effects.signatureHeaderAction = .none := by
      cases o with
      | missingSignature => exact absurd hinvokes (hkept m hm)
      | malformedSignature => exact absurd rfl hmalformed
      | _ => rfl
    obtain ⟨hremoved, hwritten⟩ := o.untouched hname fun _ => haction
    exact (hdeclared.names_iff hremoved hwritten).2 hs

/-- `missing-signature-v1` removes them for good: no later mutation acts on signatures. -/
theorem applied_removes_signature (hp : Builtin p sha selected)
    (hname : name ≠ contentTypeHeader) (howned : name ∈ selected.ownedHeaders)
    {m : RealizedMutation} (hm : m ∈ mutations)
    (hinvokes : MutationOperator.missingSignature.Invokes m)
    (honce : mutations.Pairwise fun a b => MutationOperator.missingSignature.Invokes a →
      ∀ o : MutationOperator, o.Invokes b → o.effects.signatureHeaderAction = .none)
    (h : Applied p request owned before mutations items after) : name ∉ after.headerNames := by
  induction h with
  | nil => cases hm
  | cons registered applied declared tail ih =>
    obtain ⟨hfirst, honce⟩ := List.pairwise_cons.1 honce
    obtain rfl | hm := List.mem_cons.1 hm
    · rw [applied_names_iff hp hname (fun _ b hb => hfirst b hb hinvokes) tail]
      obtain ⟨o, rfl, hinvokes'⟩ := hp.registered _ _ registered
      cases MutationOperator.id_injective (hinvokes.1.symm.trans hinvokes'.1)
      obtain ⟨signer, -, -, hheaders⟩ := missingSignatureV1_ok applied
      have hsigner : (builtinFamily sha selected).ownedHeaders signer = selected.ownedHeaders :=
        signerOf_ownedHeaders signer
      unfold MutationState.headerNames
      rw [hheaders, hsigner]
      intro hmem
      obtain ⟨header, hheader, rfl⟩ := List.mem_map.1 hmem
      exact of_decide_eq_true (List.mem_filter.1 hheader).2 howned
    · exact ih hm honce

/-- The signature adds the headers of the signer and no others. -/
theorem signing_names_iff {expected : SignerSnapshot}
    (h : Signing p request unsigned (some expected) signed calls evidence digest) :
    name ∈ signed.headerNames ↔ name ∈ unsigned.headerNames ∨ name ∈ expected.ownedHeaders := by
  cases h with
  | signed hby =>
    obtain ⟨_, -, -, result, -, hnames, hheaders, -⟩ := hby.signed
    unfold MutationState.headerNames
    rw [hheaders, List.map_append, List.mem_append, hnames]

theorem missing_once {prepared : PreparedPipeline SignerRef} (hp : Builtin p sha selected)
    (h : Preflighted p request prepared) :
    request.mutations.Pairwise fun a b => MutationOperator.missingSignature.Invokes a →
      ∀ o : MutationOperator, o.Invokes b → o.effects.signatureHeaderAction = .none := by
  have hregistration : ∀ m ∈ prepared.mutations, ∀ o : MutationOperator, o.Invokes m.realized →
      m.registration = o.registration (builtinFamily sha selected) := by
    intro m hm o hinvokes
    obtain ⟨o', hregistration, hinvokes'⟩ := hp.registered _ _ (h.accepted.registered m hm)
    rw [hregistration, MutationOperator.id_injective (hinvokes.1.symm.trans hinvokes'.1)]
  rw [← h.realized]
  refine List.pairwise_map.2 (h.accepted.compatible.imp_of_mem ?_)
  intro a b ha hb hcompatible hmissing o hinvokes
  have haction := hcompatible.action
  rw [hregistration a ha _ hmissing, hregistration b hb o hinvokes] at haction
  exact haction nofun

variable {result : MutationPipelineResult} {ref : SignerRef}

theorem Builtin.selected_owned {expected : SignerSnapshot} (hp : Builtin p sha selected)
    (hsigner : request.signer = some ref)
    (hfolded : selected.ownedHeaders.map casefold = selected.ownedHeaders)
    (h : p.selectSigner request = .ok (some expected)) :
    expected.ownedHeaders = selected.ownedHeaders := by
  rw [selectSigner, hsigner] at h
  obtain ⟨found, hfound, h⟩ := bind_ok h
  obtain ⟨_, -, h⟩ := bind_ok h
  cases pure_ok h
  obtain ⟨-, -, hownership⟩ := SignerProtocol.snapshot_ok hfound
  rw [hp.ownedHeaders] at hownership
  exact (validateHeaderOwnership_ok hownership).1.trans hfolded

/-- The names that come out of the pipeline, apart from the content type: those that went in, and
those of the signer unless they are removed. -/
theorem execute_names_iff (hp : Builtin p sha selected) (hsigner : request.signer = some ref)
    (hfolded : selected.ownedHeaders.map casefold = selected.ownedHeaders)
    (hname : name ≠ contentTypeHeader) (h : p.execute request = .ok result) :
    name ∈ result.headers.map SignatureHeader.name ↔
      name ∈ request.headers.map SignatureHeader.name ∨ (name ∈ selected.ownedHeaders ∧
        ∀ m ∈ request.mutations, ¬ MutationOperator.missingSignature.Invokes m) := by
  obtain ⟨progress, hrun, rfl⟩ := map_ok h
  obtain ⟨snapshot, hselected, ⟨e⟩⟩ := run_execution hrun
  obtain ⟨prepared, hprepared, -⟩ := run_ok hrun
  have hpreflighted := preflight_ok_iff.1 hprepared
  obtain ⟨expected, rfl⟩ := selectSigner_some hselected hsigner
  have howned := hp.selected_owned hsigner hfolded hselected
  have hstart : e.start.headerNames = request.headers.map SignatureHeader.name :=
    congrArg (List.map SignatureHeader.name) e.start_eq.2.1
  have hsigned := @signing_names_iff _ _ _ _ name _ _ _ _ e.signing
  have hsplit := e.split
  change name ∈ progress.state.headerNames ↔ _
  rw [howned] at hsigned
  by_cases hmem : name ∈ selected.ownedHeaders
  · have hvalid : ∀ h ∈ request.headers, h.Valid := by
      obtain ⟨_, -, hheaders⟩ := bind_ok hpreflighted.headers
      exact require_ok hheaders
    have hfree : name ∉ request.headers.map SignatureHeader.name := by
      intro hbase
      obtain ⟨header, hheader, rfl⟩ := List.mem_map.1 hbase
      refine selectSigner_free hsigner hvalid hselected header hheader ?_
      rw [hp.ownedHeaders]
      exact hmem
    by_cases hmissing : ∃ m ∈ request.mutations, MutationOperator.missingSignature.Invokes m
    · obtain ⟨m, hm, hinvokes⟩ := hmissing
      have honce := missing_once hp hpreflighted
      rw [hsplit] at honce
      have hlate : m ∈ e.late := by
        rw [hsplit] at hm
        obtain hm | hm := List.mem_append.1 hm
        · have hrank := e.early_stage m hm
          rw [hinvokes.2.2] at hrank
          exact absurd hrank (by decide)
        · exact hm
      refine iff_of_false (applied_removes_signature hp hname hmem hlate hinvokes
        (List.pairwise_append.1 honce).2.1 e.late_applied) ?_
      rintro (hbase | ⟨-, hkept⟩)
      · exact hfree hbase
      · exact hkept m hm hinvokes
    · have hkept : ∀ m ∈ request.mutations, ¬ MutationOperator.missingSignature.Invokes m :=
        fun m hm hinvokes => hmissing ⟨m, hm, hinvokes⟩
      refine iff_of_true (applied_keeps_signature hp hname ?_ e.late_applied
        (hsigned.2 (.inr hmem))) (.inr ⟨hmem, hkept⟩)
      rw [hsplit] at hkept
      exact (List.forall_mem_append.1 hkept).2
  · have hother : name ∈ SignerSnapshot.owned (some expected) → ∀ mutations : List RealizedMutation,
        ∀ m ∈ mutations, ∀ o : MutationOperator, o.Invokes m →
          o.effects.signatureHeaderAction = .none :=
      fun hfalse => absurd (howned ▸ hfalse) hmem
    rw [applied_names_iff hp hname (fun hfalse => hother hfalse _) e.late_applied, hsigned,
      applied_names_iff hp hname (fun hfalse => hother hfalse _) e.early_applied, hstart]
    simp [hmem]

end Names

section Attempts

variable {sha : Sha256Hash} {hmac : HmacSha256} {secret : Bytes} {config : SignerConfig}
  {selected : BuiltinSigner} {users : List String} {path : String} {settings : ReadSettings}
  {command : HttpAttemptCommand} {recipe : RealizedDeliveryExecution}
  {prepared : PreparedAttemptRequest}

/-- The pipeline of the runtime. -/
def runtimePipeline (sha : Sha256Hash) (selected : BuiltinSigner) : MutationPipeline SignerRef :=
  (builtinPipeline sha selected .standard).atRuntime (builtinFamily sha selected)

theorem runtimePipeline_builtin : Builtin (runtimePipeline sha selected) sha selected where
  signers := rfl
  registered := by
    intro m r hregistered
    change (runtimeMutationRegistry (builtinFamily sha selected)).registration m = .ok r
      at hregistered
    unfold runtimeMutationRegistry at hregistered
    obtain ⟨o, -, hregistration, hinvokes⟩ := MutationOperator.registry_ok hregistered
    exact ⟨o, hregistration, hinvokes⟩

theorem toSignatureHeader_name {h : HttpHeader} {header : SignatureHeader}
    (hok : h.toSignatureHeader = .ok header) : header.name = casefold h.name := by
  obtain ⟨_, -, hok⟩ := bind_ok hok
  rw [signatureHeader_ok (mapError_ok_iff.1 hok)]

theorem toSignatureHeaders_names {base : List HttpHeader} {headers : List SignatureHeader}
    (h : List.Forall₂ (fun h header => h.toSignatureHeader = .ok header) base headers) :
    headers.map SignatureHeader.name = base.map fun h => casefold h.name := by
  induction h with
  | nil => rfl
  | cons hone _ ih => rw [List.map_cons, List.map_cons, toSignatureHeader_name hone, ih]

/-- The names of an exact command are those that the pipeline leaves, all different. -/
theorem prepareRealizedAttempt_ok {p : MutationPipeline SignerRef} {signer : Option SignerRef}
    (h : prepareRealizedAttempt p command recipe signer = .ok prepared) :
    ∃ headers result, headers.map SignatureHeader.name =
        command.headers.map (fun h => casefold h.name) ∧
      p.execute ⟨command.body, headers, recipe.eventId, recipe.logicalTimeNs, recipe.mediaType,
        signer, recipe.runtimeMutations⟩ = .ok result ∧
      prepared.command.headers.map (fun h => casefold h.name) =
        result.headers.map SignatureHeader.name ∧
      (result.headers.map SignatureHeader.name).Nodup := by
  obtain ⟨_, -, h⟩ := bind_ok h
  obtain ⟨_, -, h⟩ := bind_ok h
  obtain ⟨_, -, h⟩ := bind_ok h
  obtain ⟨_, -, h⟩ := bind_ok h
  obtain ⟨headers, hheaders, h⟩ := bind_ok h
  obtain ⟨result, hresult, h⟩ := bind_ok h
  obtain ⟨exact, hexact, h⟩ := bind_ok h
  cases pure_ok h
  have hresult := mapError_ok_iff.1 hresult
  refine ⟨headers, result, toSignatureHeaders_names (mapM_ok_iff.1 hheaders), hresult, ?_, ?_⟩
  · obtain ⟨-, hsent⟩ := exactCommand_delivery hexact
    rw [← hsent, List.map_map]
    refine List.map_congr_left fun h hh => ?_
    have hmem : (⟨h.name, h.value⟩ : SignatureHeader) ∈ result.headers :=
      hsent ▸ List.mem_map.2 ⟨h, hh, rfl⟩
    exact (execute_headers_valid hresult _ hmem).2.2.1
  · obtain ⟨progress, -, rfl⟩ := map_ok hresult
    exact progress.state.names_nodup

/-- The names that the checks of the signers let through: the transport reserves one more. -/
theorem clientOwned_harness {name : String} (h : name ∈ clientOwnedHeaders) :
    name ∈ harnessRequestHeaders ∨ name = "accept-encoding" := by
  revert name
  decide

/-- An attempt with an accepted signer, within the limits, is refused for the name of a header
exactly when the base command has a reserved name or the signer signs in `accept-encoding` and no
mutation removes its signature. -/
theorem prepared_names_refused_iff (haccepted : validateSignerHeaders config users path = [])
    (hbuilt : buildSigner hmac secret config = .ok selected)
    (hprepared : prepareRealizedAttempt (runtimePipeline sha selected) command recipe (some []) =
      .ok prepared)
    (hbody : prepared.command.body.length ≤ settings.limits.maxRequestBytes)
    (hcount : prepared.command.headers.length ≤ maxRequestHeaders) :
    Raises (fun e => ¬ e.RefusesName) (buildWireRequest settings prepared.command) ↔
      (∀ h ∈ command.headers, casefold h.name ∉ clientOwnedHeaders) ∧
      ("accept-encoding" ∈ ownedSignerHeaders config →
        ∃ m ∈ recipe.runtimeMutations, MutationOperator.missingSignature.Invokes m) := by
  obtain ⟨headers, result, hbase, hexecute, hnames, hnodup⟩ := prepareRealizedAttempt_ok hprepared
  have howned := ownedHeaders_buildSigner hbuilt
  have hfolded : selected.ownedHeaders.map casefold = selected.ownedHeaders := by
    rw [howned]
    exact (List.map_congr_left fun name hname =>
      ((ownedSignerHeaders_names config).2 name hname).2).trans (List.map_id _)
  have hout : ∀ name ∈ clientOwnedHeaders,
      name ∈ result.headers.map SignatureHeader.name ↔
        name ∈ command.headers.map (fun h => casefold h.name) ∨
          (name ∈ ownedSignerHeaders config ∧ ∀ m ∈ recipe.runtimeMutations,
            ¬ MutationOperator.missingSignature.Invokes m) := by
    intro name hname
    have hother : name ≠ contentTypeHeader := by
      rintro rfl
      exact absurd hname (by decide)
    have hiff := execute_names_iff runtimePipeline_builtin rfl hfolded hother hexecute
    rw [hbase, howned] at hiff
    exact hiff
  have hclient : (∀ h ∈ prepared.command.headers, casefold h.name ∉ clientOwnedHeaders) ↔
      ∀ name ∈ clientOwnedHeaders, name ∉ result.headers.map SignatureHeader.name := by
    rw [← hnames]
    constructor
    · intro hfree name hname hmem
      obtain ⟨h, hh, rfl⟩ := List.mem_map.1 hmem
      exact hfree h hh hname
    · exact fun hfree h hh hname => hfree _ hname (List.mem_map.2 ⟨h, hh, rfl⟩)
  rw [buildWireRequest_names_iff hbody hcount, hclient, hnames]
  constructor
  · rintro ⟨hfree, -⟩
    constructor
    · intro h hh hname
      exact hfree _ hname ((hout _ hname).2 (.inl (List.mem_map.2 ⟨h, hh, rfl⟩)))
    · intro hsigned
      by_contra hkept
      refine hfree "accept-encoding" (by decide) ((hout _ (by decide)).2 (.inr ⟨hsigned, ?_⟩))
      exact fun m hm hinvokes => hkept ⟨m, hm, hinvokes⟩
  · rintro ⟨hfree, hremoved⟩
    refine ⟨fun name hname hmem => ?_, hnodup⟩
    obtain hmem | ⟨hsigned, hkept⟩ := (hout name hname).1 hmem
    · obtain ⟨h, hh, rfl⟩ := List.mem_map.1 hmem
      exact hfree h hh hname
    · obtain hharness | rfl := clientOwned_harness hname
      · exact validateSignerHeaders_reserved haccepted name hsigned hharness
      · obtain ⟨m, hm, hinvokes⟩ := hremoved hsigned
        exact hkept m hm hinvokes

def sampleSettings : ReadSettings := ⟨defaultLimits, fun _ => "", id⟩

/-- A signed delivery without mutations. -/
def signedRecipe : RealizedDeliveryExecution where
  eventId := "event_00000000000000000000000000"
  logicalTimeNs := 0
  requestBlob := lengthHash.text []
  mediaType := "application/json"
  signerName := some "primary"
  mutations := []
  runtimeMutationOffset := 0
  eventId_planned := by decide
  time_range := by decide
  mediaType_nonempty := by decide
  signerName_nonempty := by decide
  offset_le := le_rfl
  ordered := .nil
  planning_stages := fun _ h => absurd h List.not_mem_nil
  runtime_stages := fun _ h => absurd h List.not_mem_nil

def stripeIn (headerName : String) : BuiltinSigner :=
  .stripe ⟨sampleHmac, headerName, [[1]], oneSecret [1]⟩

theorem stripeSignature_sent :
    ∃ prepared, prepareRealizedAttempt (runtimePipeline lengthHash (stripeIn "stripe-signature"))
        sampleCommand signedRecipe (some []) = .ok prepared ∧
      Raises (fun e => ¬ e.RefusesName) (buildWireRequest sampleSettings prepared.command) := by
  have hfits : (prepareRealizedAttempt (runtimePipeline lengthHash (stripeIn "stripe-signature"))
      sampleCommand signedRecipe (some [])).toOption.any (fun prepared =>
        prepared.command.body.length ≤ sampleSettings.limits.maxRequestBytes &&
          prepared.command.headers.length ≤ maxRequestHeaders) = true := by
    decide +kernel
  cases hprepared : prepareRealizedAttempt
      (runtimePipeline lengthHash (stripeIn "stripe-signature")) sampleCommand signedRecipe
      (some []) with
  | error e =>
    rw [hprepared] at hfits
    cases hfits
  | ok prepared =>
    rw [hprepared] at hfits
    obtain ⟨hbody, hcount⟩ := Bool.and_eq_true_iff.1 hfits
    refine ⟨prepared, rfl, (prepared_names_refused_iff
      (show validateSignerHeaders ⟨.stripeV1, none⟩ [] "" = [] by decide)
      (show buildSigner sampleHmac [1] ⟨.stripeV1, none⟩ = .ok (stripeIn "stripe-signature") from
        rfl) hprepared (of_decide_eq_true hbody) (of_decide_eq_true hcount)).2 ⟨by decide, ?_⟩⟩
    exact fun hmem => absurd hmem (by decide)

def acceptEncoding : SignerConfig :=
  ⟨.stripeV1, some ⟨"Accept-Encoding", by decide, by decide, by decide⟩⟩

/-- A project whose signer signs in `Accept-Encoding`. -/
def encodingProject : ProjectConfig :=
  orderProject acceptEncoding noObservers noObservers_le unsignedScenario
    unsignedScenario_unrestarted

/-- The project is accepted, the signer is built, the attempt is prepared, and the transport
refuses it. -/
theorem acceptEncoding_refused :
    AcceptedProject encodingProject [] ∧
      buildSigner sampleHmac [1] acceptEncoding = .ok (stripeIn "accept-encoding") ∧
      ((prepareRealizedAttempt (runtimePipeline lengthHash (stripeIn "accept-encoding"))
          sampleCommand signedRecipe (some [])).toOption.map fun prepared =>
        match buildWireRequest sampleSettings prepared.command with
        | .ok _ => none
        | .error e => some e) =
        some (some ⟨.forbiddenHeader, "request header is reserved by the HTTP transport"⟩) := by
  refine ⟨?_, rfl, ?_⟩
  · decide +kernel
  · decide +kernel

end Attempts

end WebhookConformance
