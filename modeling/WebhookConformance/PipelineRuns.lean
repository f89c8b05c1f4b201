import WebhookConformance.MutationPipeline

/-! Executions of the mutation pipeline: the early mutations, one signature, the late mutations,
with operators that may be any functions behind their registrations. -/
namespace WebhookConformance

open Checked

section Registered

variable {σ : Type} {p : MutationPipeline σ} {mediaType : String}
  {snapshot : Option SignerSnapshot} {scan next : PreflightScan σ}

/-- What a mutation has passed when the preflight goes on. -/
structure PreflightScan.Passes (p : MutationPipeline σ) (mediaType : String)
    (snapshot : Option SignerSnapshot) (scan : PreflightScan σ) (current : PreparedMutation σ)
    (claims : List (String × PreparedMutation σ)) : Prop where
  registered : p.registry.registration current.realized = .ok current.registration
  afterInvalidJson : checkAfterInvalidJson scan current = .ok ()
  stageOrder : checkStageOrder scan current = .ok ()
  jsonMediaType : checkJsonMediaType current mediaType = .ok ()
  signerSelected : checkSignerSelected current snapshot = .ok ()
  headerEffects : preflightHeaderEffects current snapshot scan.headerClaims = .ok claims
  signatureAction : checkSignatureAction scan current = .ok ()

theorem MutationPipeline.scanRealized_ok_iff {realized : RealizedMutation} :
    p.scanRealized mediaType snapshot scan realized = .ok next ↔
      ∃ registration claims, scan.Passes p mediaType snapshot ⟨realized, registration⟩ claims ∧
        next = scan.next ⟨realized, registration⟩ claims := by
  constructor
  · intro h
    obtain ⟨registration, hregistered, h⟩ := bind_ok h
    obtain ⟨_, hinvalid, h⟩ := bind_ok h
    obtain ⟨_, horder, h⟩ := bind_ok h
    obtain ⟨_, hmedia, h⟩ := bind_ok h
    obtain ⟨_, hsigner, h⟩ := bind_ok h
    obtain ⟨claims, hclaims, h⟩ := bind_ok h
    obtain ⟨_, haction, h⟩ := bind_ok h
    exact ⟨registration, claims,
      ⟨hregistered, hinvalid, horder, hmedia, hsigner, hclaims, haction⟩, (pure_ok h).symm⟩
  · rintro ⟨registration, claims, h, rfl⟩
    exact bind_of h.registered (bind_of h.afterInvalidJson (bind_of h.stageOrder
      (bind_of h.jsonMediaType (bind_of h.signerSelected (bind_of h.headerEffects
        (bind_of h.signatureAction rfl))))))

/-- The order of the stages so far, and a bound for all of them. -/
structure PreflightScan.Ordered (p : MutationPipeline σ) (scan : PreflightScan σ) : Prop where
  registered : ∀ m ∈ scan.prepared, p.registry.registration m.realized = .ok m.registration
  ordered : scan.prepared.Pairwise fun m n => m.realized.stage.rank ≤ n.realized.stage.rank
  reached : ∀ m ∈ scan.prepared, ∃ f ∈ scan.furthest, m.realized.stage.rank ≤ f.realized.stage.rank

theorem PreflightScan.ordered_start : (PreflightScan.start : PreflightScan σ).Ordered p where
  registered := fun _ hm => absurd hm List.not_mem_nil
  ordered := .nil
  reached := fun _ hm => absurd hm List.not_mem_nil

theorem PreflightScan.rank_le_of_checkStageOrder {current prior : PreparedMutation σ}
    (h : checkStageOrder scan current = .ok ()) (hprior : prior ∈ scan.furthest) :
    prior.realized.stage.rank ≤ current.realized.stage.rank := by
  rw [checkStageOrder, Option.mem_def.1 hprior] at h
  exact require_ok h

theorem PreflightScan.furthest_next (scan : PreflightScan σ) (current : PreparedMutation σ)
    (claims : List (String × PreparedMutation σ)) :
    ∃ f ∈ (scan.next current claims).furthest,
      current.realized.stage.rank ≤ f.realized.stage.rank ∧
        ∀ prior ∈ scan.furthest, prior.realized.stage.rank ≤ f.realized.stage.rank := by
  cases hfurthest : scan.furthest with
  | none =>
    refine ⟨current, by simp [next, hfurthest], le_rfl, ?_⟩
    intro prior hprior
    exact absurd hprior (Option.not_mem_none prior)
  | some prior =>
    by_cases hlt : prior.realized.stage.rank < current.realized.stage.rank
    · refine ⟨current, by simp [next, hfurthest, hlt], le_rfl, ?_⟩
      intro other hother
      rw [← Option.mem_some_iff.1 hother]
      exact hlt.le
    · refine ⟨prior, by simp [next, hfurthest, hlt], not_lt.1 hlt, ?_⟩
      intro other hother
      rw [← Option.mem_some_iff.1 hother]

theorem PreflightScan.Ordered.step {realized : RealizedMutation} (hinv : scan.Ordered p)
    (h : p.scanRealized mediaType snapshot scan realized = .ok next) : next.Ordered p := by
  obtain ⟨registration, claims, hpass, rfl⟩ := MutationPipeline.scanRealized_ok_iff.1 h
  obtain ⟨f, hf, hcurrent, hprior⟩ :=
    scan.furthest_next ⟨realized, registration⟩ claims
  constructor
  · intro m hm
    obtain hm | hm := List.mem_append.1 hm
    · exact hinv.registered m hm
    · cases List.mem_singleton.1 hm
      exact hpass.registered
  · refine List.pairwise_append.2 ⟨hinv.ordered, List.pairwise_singleton _ _, ?_⟩
    intro m hm n hn
    cases List.mem_singleton.1 hn
    obtain ⟨g, hg, hle⟩ := hinv.reached m hm
    exact hle.trans (PreflightScan.rank_le_of_checkStageOrder hpass.stageOrder hg)
  · intro m hm
    refine ⟨f, hf, ?_⟩
    obtain hm | hm := List.mem_append.1 hm
    · obtain ⟨g, hg, hle⟩ := hinv.reached m hm
      exact hle.trans (hprior g hg)
    · cases List.mem_singleton.1 hm
      exact hcurrent

/-- The preflight takes the mutations in their order. -/
theorem MutationPipeline.scanAll_realized {mutations : List RealizedMutation}
    (h : runAll (p.scanRealized mediaType snapshot) scan mutations = .ok next) :
    next.prepared.map PreparedMutation.realized =
      scan.prepared.map PreparedMutation.realized ++ mutations := by
  induction mutations generalizing scan with
  | nil =>
    cases h
    simp
  | cons realized mutations ih =>
    obtain ⟨middle, hstep, h⟩ := bind_ok h
    obtain ⟨registration, claims, -, rfl⟩ := scanRealized_ok_iff.1 hstep
    rw [ih h]
    simp [PreflightScan.next]

/-- What the preflight hands on. -/
structure PreparedPipeline.Fits (p : MutationPipeline σ) (request : PipelineRequest σ)
    (prepared : PreparedPipeline σ) : Prop where
  body : prepared.state.body = request.body
  headers : prepared.state.headers = request.headers
  signingTime : prepared.state.signingTimeNs = request.logicalTimeNs
  signer : prepared.state.signer = request.signer
  realized : prepared.mutations.map PreparedMutation.realized = request.mutations
  registered : ∀ m ∈ prepared.mutations, p.registry.registration m.realized = .ok m.registration
  ordered : prepared.mutations.Pairwise fun m n => m.realized.stage.rank ≤ n.realized.stage.rank
  selected : p.selectSigner request = .ok prepared.signerSnapshot

theorem MutationPipeline.seedState_ok {request : PipelineRequest σ} {state : MutationState σ}
    (h : seedState request = .ok state) :
    mutationState request.body request.headers request.logicalTimeNs request.signer = .ok state ∧
      isEventId request.eventId = true ∧ isRequestMediaType request.mediaType = true := by
  unfold seedState at h
  split at h
  · cases h
  · rename_i seed hseed
    obtain ⟨_, hinput, h⟩ := bind_ok h
    cases pure_ok h
    exact ⟨hseed, require_ok hinput⟩

theorem MutationPipeline.preflight_fits {request : PipelineRequest σ}
    {prepared : PreparedPipeline σ} (h : p.preflight request = .ok prepared) :
    prepared.Fits p request := by
  obtain ⟨_, -, h⟩ := bind_ok h
  obtain ⟨_, -, h⟩ := bind_ok h
  obtain ⟨_, -, h⟩ := bind_ok h
  obtain ⟨state, hseed, h⟩ := bind_ok h
  obtain ⟨_, -, h⟩ := bind_ok h
  obtain ⟨snapshot, hselected, h⟩ := bind_ok h
  obtain ⟨scan, hscan, h⟩ := bind_ok h
  obtain ⟨_, -, h⟩ := bind_ok h
  cases pure_ok h
  obtain ⟨hbody, hheaders, htime, hsigner⟩ := mutationState_ok (seedState_ok hseed).1
  have hordered : scan.Ordered p :=
    runAll_invariant (fun _ _ _ _ hstep hinv => PreflightScan.Ordered.step hinv hstep) hscan
      PreflightScan.ordered_start
  exact ⟨hbody, hheaders, htime, hsigner, scanAll_realized hscan, hordered.registered,
    hordered.ordered, hselected⟩

end Registered

namespace MutationPipeline

variable {σ : Type} {p : MutationPipeline σ} {request : PipelineRequest σ}
  {snapshot : Option SignerSnapshot}

section Effects

/-- Body, time, signer and headers change only as the registration declares. -/
structure Declared (effects : OperatorEffects) (owned : List String)
    (before after : MutationState σ) : Prop where
  body : before.body ≠ after.body → effects.changesBody = true
  signingTime : before.signingTimeNs ≠ after.signingTimeNs → effects.mayChangeSigningTime = true
  signer : before.signer ≠ after.signer → effects.mayReplaceSigner = true
  removed : ∀ name, valueOf? before.headers name ≠ none →
    valueOf? after.headers name = none → name ∈ effects.allowedRemoved owned
  written : ∀ name, valueOf? after.headers name ≠ none →
    valueOf? after.headers name ≠ valueOf? before.headers name →
    name ∈ effects.allowedWritten owned
  order : untargeted effects owned before.headers = untargeted effects owned after.headers

theorem mem_of_valueOf? {headers : List SignatureHeader} {name value : String}
    (h : valueOf? headers name = some value) : (⟨name, value⟩ : SignatureHeader) ∈ headers := by
  obtain ⟨header, hfound, rfl⟩ := Option.map_eq_some_iff.1 h
  have hname : header.name = name := of_decide_eq_true (List.find?_some hfound :)
  subst hname
  exact List.mem_of_find?_eq_some hfound

theorem valueOf?_eq_none {headers : List SignatureHeader} {name : String} :
    valueOf? headers name = none ↔ name ∉ headers.map SignatureHeader.name := by
  simp [valueOf?, List.find?_eq_none]

theorem validateHeaderEffects_ok {before after : List SignatureHeader}
    {prepared : PreparedMutation σ} {u : Unit}
    (h : validateHeaderEffects before after prepared snapshot = .ok u) :
    let effects := prepared.registration.toOperatorEffects
    let owned := SignerSnapshot.owned snapshot
    (∀ name, valueOf? before name ≠ none → valueOf? after name = none →
        name ∈ effects.allowedRemoved owned) ∧
      (∀ name, valueOf? after name ≠ none → valueOf? after name ≠ valueOf? before name →
        name ∈ effects.allowedWritten owned) ∧
      untargeted effects owned before = untargeted effects owned after := by
  obtain ⟨_, hchanged, horder⟩ := bind_ok h
  obtain ⟨hremoved, hwritten⟩ := require_ok hchanged
  refine ⟨?_, ?_, require_ok horder⟩
  · intro name hbefore hafter
    obtain ⟨value, hvalue⟩ := Option.ne_none_iff_exists'.1 hbefore
    exact hremoved ⟨name, value⟩ (mem_of_valueOf? hvalue) (valueOf?_eq_none.1 hafter)
  · intro name hafter hne
    obtain ⟨value, hvalue⟩ := Option.ne_none_iff_exists'.1 hafter
    exact hwritten ⟨name, value⟩ (mem_of_valueOf? hvalue) (hvalue ▸ hne.symm)

theorem applyOperator_ok {prepared : PreparedMutation σ} {input : MutationInput σ}
    {output : MutationOutput σ} (h : applyOperator prepared input = .ok output) :
    prepared.registration.implementation input = .ok output := by
  unfold applyOperator at h
  split at h
  · rename_i found hfound
    cases h
    exact hfound
  · cases h
  · cases h

variable [DecidableEq σ]

theorem validateDeclaredEffects_ok {before after : MutationState σ}
    {prepared : PreparedMutation σ} {u : Unit}
    (h : p.validateDeclaredEffects before after prepared snapshot = .ok u) :
    Declared prepared.registration.toOperatorEffects (SignerSnapshot.owned snapshot) before
      after := by
  obtain ⟨_, hbody, h⟩ := bind_ok h
  obtain ⟨_, htime, h⟩ := bind_ok h
  have hparts : (before.signer ≠ after.signer → prepared.registration.mayReplaceSigner = true) ∧
      ∃ v, validateHeaderEffects before.headers after.headers prepared snapshot = .ok v := by
    split at h
    · obtain ⟨_, hreplace, h⟩ := bind_ok h
      obtain ⟨_, -, h⟩ := bind_ok h
      exact ⟨fun _ => require_ok hreplace, _, h⟩
    · rename_i hsame
      exact ⟨fun hne => absurd hne hsame, _, h⟩
  obtain ⟨hsigner, _, hheaders⟩ := hparts
  obtain ⟨hremoved, hwritten, horder⟩ := validateHeaderEffects_ok hheaders
  exact ⟨require_ok hbody, require_ok htime, hsigner, hremoved, hwritten, horder⟩

theorem applyOne_ok {state after : MutationState σ} {prepared : PreparedMutation σ}
    {item : MutationEvidence}
    (h : p.applyOne request snapshot state prepared = .ok (after, item)) :
    prepared.registration.implementation
        ⟨prepared.realized, state, request.eventId, request.mediaType⟩ = .ok after ∧
      Declared prepared.registration.toOperatorEffects (SignerSnapshot.owned snapshot) state
        after ∧ item = p.evidenceOf prepared.realized state after := by
  obtain ⟨_, -, h⟩ := bind_ok h
  obtain ⟨output, hoperator, h⟩ := bind_ok h
  obtain ⟨_, -, h⟩ := bind_ok h
  obtain ⟨_, heffects, h⟩ := bind_ok h
  obtain ⟨_, -, h⟩ := bind_ok h
  cases pure_ok h
  exact ⟨applyOperator_ok hoperator, validateDeclaredEffects_ok heffects, rfl⟩

end Effects

section Signature

theorem signingInput_ok {body : Bytes} {eventId : String} {time : Int} {input : SigningInput}
    (h : signingInput body eventId time = .ok input) :
    input.body = body ∧ input.eventId = eventId ∧ input.logicalTimeNs = time := by
  unfold signingInput at h
  split_ifs at h
  cases h
  exact ⟨rfl, rfl, rfl⟩

theorem callSigner_ok {signer : σ} {input : SigningInput} {result : SigningResult}
    (h : p.callSigner signer input = .ok result) : p.signers.sign signer input = .ok result := by
  unfold callSigner at h
  split at h
  · rename_i found hfound
    cases h
    exact hfound
  · split at h <;> cases h

/-- The signer's own headers come after those of the request; nothing else changes. -/
structure SignedBy (p : MutationPipeline σ) (request : PipelineRequest σ)
    (snapshot : SignerSnapshot) (unsigned : MutationState σ) (signature : Signature σ) : Prop where
  input : signature.input.body = unsigned.body ∧ signature.input.eventId = request.eventId ∧
    signature.input.logicalTimeNs = unsigned.signingTimeNs
  signed : ∃ signer ∈ unsigned.signer, p.signers.snapshot signer = .ok snapshot ∧
    ∃ result, p.signers.sign signer signature.input = .ok result ∧
      result.headers.map SignatureHeader.name = snapshot.ownedHeaders ∧
      signature.state.headers = unsigned.headers ++ result.headers ∧
      signature.evidence = result.evidence
  evidence : signature.evidence = ⟨snapshot.adapterId, snapshot.adapterVersion,
    unsigned.signingTimeNs, p.sha256.text unsigned.body⟩
  body : signature.state.body = unsigned.body
  signingTime : signature.state.signingTimeNs = unsigned.signingTimeNs
  signer : signature.state.signer = unsigned.signer

theorem signWith_ok {state : MutationState σ} {signer : σ} {signature : Signature σ}
    (hsigner : state.signer = some signer)
    (h : p.signWith request snapshot state signer = .ok signature) :
    ∃ expected, snapshot = some expected ∧ SignedBy p request expected state signature := by
  obtain ⟨actual, hactual, h⟩ := bind_ok h
  obtain ⟨_, hexpected, h⟩ := bind_ok h
  obtain ⟨_, -, h⟩ := bind_ok h
  obtain ⟨input, hinput, h⟩ := bind_ok h
  obtain ⟨result, hresult, h⟩ := bind_ok h
  obtain ⟨_, hchecked, h⟩ := bind_ok h
  obtain ⟨candidate, hcandidate, h⟩ := bind_ok h
  obtain ⟨_, -, h⟩ := bind_ok h
  cases pure_ok h
  obtain ⟨hevidence, hnames⟩ := require_ok hchecked
  obtain ⟨hbody, hheaders, htime, hsame⟩ := mutationState_ok (mapError_ok_iff.1 hcandidate)
  refine ⟨actual, require_ok hexpected, signingInput_ok (mapError_ok_iff.1 hinput), ?_, hevidence,
    hbody, htime, hsame⟩
  exact ⟨signer, hsigner, mapError_ok_iff.1 hactual, result, callSigner_ok hresult, hnames,
    hheaders, rfl⟩

/-- A state is signed if and only if a signer was selected for the request. -/
theorem sign_ok {state : MutationState σ} {signature : Option (Signature σ)}
    (h : p.sign request snapshot state = .ok signature) :
    (snapshot = none ∧ signature = none) ∨
      ∃ expected found, snapshot = some expected ∧ signature = some found ∧
        SignedBy p request expected state found := by
  unfold sign at h
  split at h
  · obtain ⟨_, hnone, h⟩ := bind_ok h
    cases pure_ok h
    exact .inl ⟨require_ok hnone, rfl⟩
  · rename_i signer hsigner
    obtain ⟨found, hfound, rfl⟩ := map_ok h
    obtain ⟨expected, hexpected, hsigned⟩ := signWith_ok hsigner hfound
    exact .inr ⟨expected, found, hexpected, rfl, hsigned⟩

end Signature

section Stages

theorem invokeSigner_ok {progress after : Progress σ}
    (h : p.invokeSigner request snapshot progress = .ok after) :
    after.evidence = progress.evidence ∧ after.signerInvoked = true ∧
      ((snapshot = none ∧ after.state = progress.state ∧ after.calls = progress.calls ∧
          after.signingEvidence = progress.signingEvidence ∧
          after.signedBodySha256 = progress.signedBodySha256) ∨
        ∃ expected signature, snapshot = some expected ∧
          SignedBy p request expected progress.state signature ∧
          after.state = signature.state ∧ after.calls = progress.calls ++ [.signer signature.input] ∧
          after.signingEvidence = some signature.evidence ∧
          after.signedBodySha256 = some (p.sha256.text progress.state.body)) := by
  obtain ⟨signature, hsign, h⟩ := bind_ok h
  obtain ⟨hnone, rfl⟩ | ⟨expected, found, hexpected, rfl, hsigned⟩ := sign_ok hsign
  · cases pure_ok h
    exact ⟨rfl, rfl, .inl ⟨hnone, rfl, rfl, rfl, rfl⟩⟩
  · cases pure_ok h
    exact ⟨rfl, rfl, .inr ⟨expected, found, hexpected, hsigned, rfl, rfl, rfl, rfl⟩⟩

/-- The mutations up to the signing stage. -/
def early (mutations : List (PreparedMutation σ)) : List (PreparedMutation σ) :=
  mutations.takeWhile fun m => m.realized.stage.rank ≤ MutationStage.signing.rank

def late (mutations : List (PreparedMutation σ)) : List (PreparedMutation σ) :=
  mutations.dropWhile fun m => m.realized.stage.rank ≤ MutationStage.signing.rank

variable [DecidableEq σ]

/-- An execution in stages: all early operators, the signer, all late operators. -/
def runStaged (p : MutationPipeline σ) (request : PipelineRequest σ)
    (snapshot : Option SignerSnapshot) (progress : Progress σ)
    (mutations : List (PreparedMutation σ)) : Except PipelineError (Progress σ) := do
  let unsigned ← runAll (p.invokeOperator request snapshot) progress (early mutations)
  let signed ← p.invokeSigner request snapshot unsigned
  runAll (p.invokeOperator request snapshot) signed (late mutations)

theorem invokeOperator_ok {progress after : Progress σ} {prepared : PreparedMutation σ}
    (h : p.invokeOperator request snapshot progress prepared = .ok after) :
    ∃ state item, p.applyOne request snapshot progress.state prepared = .ok (state, item) ∧
      after = { progress with
        state := state
        evidence := progress.evidence ++ [item]
        calls := progress.calls ++ [.operator prepared.realized] } := by
  obtain ⟨⟨state, item⟩, hone, h⟩ := bind_ok h
  exact ⟨state, item, mapError_ok_iff.1 hone, (pure_ok h).symm⟩

theorem signerInvoked_invokeOperator {progress after : Progress σ} {prepared : PreparedMutation σ}
    (h : p.invokeOperator request snapshot progress prepared = .ok after) :
    after.signerInvoked = progress.signerInvoked := by
  obtain ⟨_, _, -, rfl⟩ := invokeOperator_ok h
  rfl

theorem turn_of_not_due {progress : Progress σ} {prepared : PreparedMutation σ}
    (h : signerDue progress prepared.realized.stage = false) :
    p.turn request snapshot progress prepared =
      p.invokeOperator request snapshot progress prepared := by
  unfold turn
  rw [h]
  rfl

theorem turn_of_due {progress : Progress σ} {prepared : PreparedMutation σ}
    (h : signerDue progress prepared.realized.stage = true) :
    p.turn request snapshot progress prepared =
      (p.invokeSigner request snapshot progress >>= fun signed =>
        p.invokeOperator request snapshot signed prepared) := by
  unfold turn
  rw [h]
  rfl

/-- Once the signer was called, a turn is a call of its operator. -/
theorem turns_signed {progress : Progress σ} {mutations : List (PreparedMutation σ)}
    (hsigned : progress.signerInvoked = true) :
    runAll (p.turn request snapshot) progress mutations =
      runAll (p.invokeOperator request snapshot) progress mutations := by
  induction mutations generalizing progress with
  | nil => rfl
  | cons m mutations ih =>
    rw [runAll, runAll, turn_of_not_due (by simp [signerDue, hsigned])]
    exact bind_congr_ok fun after hafter =>
      ih ((signerInvoked_invokeOperator hafter).trans hsigned)

/-- The call of the signer in the loop, or after it, comes between the early and the late
operators. -/
theorem turns_staged {progress : Progress σ} {mutations : List (PreparedMutation σ)}
    (hunsigned : progress.signerInvoked = false) :
    (do
      let after ← runAll (p.turn request snapshot) progress mutations
      p.signIfDue request snapshot (!after.signerInvoked) after) =
      p.runStaged request snapshot progress mutations := by
  induction mutations generalizing progress with
  | nil =>
    simp only [runAll, runStaged, early, late, List.takeWhile_nil, List.dropWhile_nil]
    change p.signIfDue request snapshot (!progress.signerInvoked) progress = _
    rw [hunsigned]
    change p.invokeSigner request snapshot progress = _ >>= Except.ok
    cases p.invokeSigner request snapshot progress <;> rfl
  | cons m mutations ih =>
    by_cases hm : m.realized.stage.rank ≤ MutationStage.signing.rank
    · have hdue : signerDue progress m.realized.stage = false := by simp [signerDue, not_lt.2 hm]
      have hearly : early (m :: mutations) = m :: early mutations :=
        List.takeWhile_cons_of_pos (by simpa using hm)
      have hlate : late (m :: mutations) = late mutations :=
        List.dropWhile_cons_of_pos (by simpa using hm)
      rw [runAll, turn_of_not_due hdue, runStaged, hearly, hlate, runAll, bind_assoc, bind_assoc]
      exact bind_congr_ok fun after hafter =>
        ih ((signerInvoked_invokeOperator hafter).trans hunsigned)
    · have hdue : signerDue progress m.realized.stage = true := by
        simp [signerDue, hunsigned, not_le.1 hm]
      have hearly : early (m :: mutations) = [] :=
        List.takeWhile_cons_of_neg (by simpa using hm)
      have hlate : late (m :: mutations) = m :: mutations :=
        List.dropWhile_cons_of_neg (by simpa using hm)
      rw [runAll, turn_of_due hdue, runStaged, hearly, hlate, runAll_nil, bind_assoc, bind_assoc]
      change _ = p.invokeSigner request snapshot progress >>= _
      refine bind_congr_ok fun signed hsigned => ?_
      have hinvoked : signed.signerInvoked = true := (invokeSigner_ok hsigned).2.1
      rw [runAll]
      refine bind_congr_ok fun after hafter => ?_
      have hafter' : after.signerInvoked = true :=
        (signerInvoked_invokeOperator hafter).trans hinvoked
      rw [turns_signed hafter']
      have hlast : ∀ last, runAll (p.invokeOperator request snapshot) after mutations = .ok last →
          last.signerInvoked = true := fun last hrun =>
        runAll_invariant (P := fun pr : Progress σ => pr.signerInvoked = true)
          (fun _ _ _ _ hstep hs => (signerInvoked_invokeOperator hstep).trans hs) hrun hafter'
      cases hrun : runAll (p.invokeOperator request snapshot) after mutations with
      | error e => rfl
      | ok last =>
        change p.signIfDue request snapshot (!last.signerInvoked) last = _
        rw [hlast last hrun]
        rfl

theorem run_ok {progress : Progress σ} (h : p.run request = .ok progress) :
    ∃ prepared, p.preflight request = .ok prepared ∧
      p.runStaged request prepared.signerSnapshot (.start prepared.state) prepared.mutations =
        .ok progress := by
  obtain ⟨prepared, hprepared, h⟩ := bind_ok h
  refine ⟨prepared, mapError_ok_iff.1 hprepared, ?_⟩
  rw [← turns_staged rfl]
  obtain ⟨looped, hlooped, h⟩ := bind_ok h
  obtain ⟨last, hlast, h⟩ := bind_ok h
  obtain ⟨_, -, h⟩ := bind_ok h
  cases pure_ok h
  exact bind_of hlooped hlast

end Stages

section Runs

/-- Mutations applied one after the other, each by its registered operator and with no effect
but the declared ones. -/
inductive Applied (p : MutationPipeline σ) (request : PipelineRequest σ) (owned : List String) :
    MutationState σ → List RealizedMutation → List MutationEvidence → MutationState σ → Prop
  | nil (state : MutationState σ) : Applied p request owned state [] [] state
  | cons {before middle after : MutationState σ} {realized : RealizedMutation}
      {registration : MutationRegistration σ} {rest : List RealizedMutation}
      {evidence : List MutationEvidence}
      (registered : p.registry.registration realized = .ok registration)
      (applied : registration.implementation
        ⟨realized, before, request.eventId, request.mediaType⟩ = .ok middle)
      (declared : Declared registration.toOperatorEffects owned before middle)
      (tail : Applied p request owned middle rest evidence after) :
      Applied p request owned before (realized :: rest)
        (p.evidenceOf realized before middle :: evidence) after

/-- Each digest of an output is the digest of the next input. -/
def DigestChain (first : String) : List MutationEvidence → String → Prop
  | [], last => first = last
  | item :: items, last => item.inputBodySha256 = first ∧ DigestChain item.outputBodySha256 items last

theorem DigestChain.append {first middle last : String} {items rest : List MutationEvidence}
    (hitems : DigestChain first items middle) (hrest : DigestChain middle rest last) :
    DigestChain first (items ++ rest) last := by
  induction items generalizing first with
  | nil =>
    cases hitems
    exact hrest
  | cons item items ih => exact ⟨hitems.1, ih hitems.2⟩

theorem Applied.digestChain {owned : List String} {before after : MutationState σ}
    {mutations : List RealizedMutation} {evidence : List MutationEvidence}
    (h : Applied p request owned before mutations evidence after) :
    DigestChain (p.sha256.text before.body) evidence (p.sha256.text after.body) := by
  induction h with
  | nil state => rfl
  | cons registered applied declared tail ih => exact ⟨rfl, ih⟩

/-- What the signing step of an execution did, with the calls it made of the signer. -/
inductive Signing (p : MutationPipeline σ) (request : PipelineRequest σ)
    (unsigned : MutationState σ) : Option SignerSnapshot → MutationState σ → List Call →
    Option SigningEvidence → Option String → Prop
  | unsigned : Signing p request unsigned none unsigned [] none none
  | signed {snapshot : SignerSnapshot} {signature : Signature σ}
      (h : SignedBy p request snapshot unsigned signature) :
      Signing p request unsigned (some snapshot) signature.state [.signer signature.input]
        (some signature.evidence) (some (p.sha256.text unsigned.body))

/-- The parts of an execution: its mutations in the order of their stages, those up to the signing
stage, the signature over what they left, and the others. -/
structure Execution (p : MutationPipeline σ) (request : PipelineRequest σ)
    (snapshot : Option SignerSnapshot) (progress : Progress σ) where
  early : List RealizedMutation
  late : List RealizedMutation
  start : MutationState σ
  unsigned : MutationState σ
  signed : MutationState σ
  earlyEvidence : List MutationEvidence
  lateEvidence : List MutationEvidence
  signerCalls : List Call
  split : request.mutations = early ++ late
  ordered : request.mutations.Pairwise fun m n => m.stage.rank ≤ n.stage.rank
  early_stage : ∀ m ∈ early, m.stage.rank ≤ MutationStage.signing.rank
  late_stage : ∀ m ∈ late, MutationStage.signing.rank < m.stage.rank
  start_eq : start.body = request.body ∧ start.headers = request.headers ∧
    start.signingTimeNs = request.logicalTimeNs ∧ start.signer = request.signer
  early_applied : Applied p request (SignerSnapshot.owned snapshot) start early earlyEvidence
    unsigned
  signing : Signing p request unsigned snapshot signed signerCalls progress.signingEvidence
    progress.signedBodySha256
  late_applied : Applied p request (SignerSnapshot.owned snapshot) signed late lateEvidence
    progress.state
  evidence_eq : progress.evidence = earlyEvidence ++ lateEvidence
  calls_eq : progress.calls = early.map .operator ++ signerCalls ++ late.map .operator

theorem Signing.body {unsigned signed : MutationState σ} {calls : List Call}
    {evidence : Option SigningEvidence} {digest : Option String}
    (h : Signing p request unsigned snapshot signed calls evidence digest) :
    signed.body = unsigned.body := by
  cases h with
  | unsigned => rfl
  | signed h => exact h.body

theorem Execution.digestChain {progress : Progress σ}
    (e : Execution p request snapshot progress) :
    DigestChain (p.sha256.text request.body) progress.evidence
      (p.sha256.text progress.state.body) := by
  rw [e.evidence_eq, ← e.start_eq.1]
  refine e.early_applied.digestChain.append ?_
  rw [← e.signing.body]
  exact e.late_applied.digestChain

theorem mem_early {mutations : List (PreparedMutation σ)} {m : PreparedMutation σ}
    (h : m ∈ early mutations) : m.realized.stage.rank ≤ MutationStage.signing.rank :=
  by simpa using List.mem_takeWhile_imp h

/-- In stage order nothing early comes after the first late mutation. -/
theorem mem_late {mutations : List (PreparedMutation σ)} {m : PreparedMutation σ}
    (hordered : mutations.Pairwise fun m n => m.realized.stage.rank ≤ n.realized.stage.rank)
    (h : m ∈ late mutations) : MutationStage.signing.rank < m.realized.stage.rank := by
  induction mutations with
  | nil => cases h
  | cons first mutations ih =>
    obtain ⟨hfirst, hrest⟩ := List.pairwise_cons.1 hordered
    by_cases hearly : first.realized.stage.rank ≤ MutationStage.signing.rank
    · rw [late, List.dropWhile_cons_of_pos (by simpa using hearly)] at h
      exact ih hrest h
    · rw [late, List.dropWhile_cons_of_neg (by simpa using hearly)] at h
      obtain rfl | hm := List.mem_cons.1 h
      · exact not_le.1 hearly
      · exact (not_le.1 hearly).trans_le (hfirst m hm)

/-- The input of a call of the signer. -/
def Call.input? : Call → Option SigningInput
  | .operator _ => none
  | .signer input => some input

theorem filterMap_operators (mutations : List RealizedMutation) :
    (mutations.map Call.operator).filterMap Call.input? = [] := by
  simp [Call.input?]

/-- The signer is called in the signing step only. -/
theorem Execution.signerInputs {progress : Progress σ}
    (e : Execution p request snapshot progress) :
    progress.calls.filterMap Call.input? = e.signerCalls.filterMap Call.input? := by
  rw [e.calls_eq, List.filterMap_append, List.filterMap_append, filterMap_operators,
    filterMap_operators, List.nil_append, List.append_nil]

theorem selectSigner_some {signer : σ} (h : p.selectSigner request = .ok snapshot)
    (hsigner : request.signer = some signer) : ∃ expected, snapshot = some expected := by
  rw [selectSigner, hsigner] at h
  obtain ⟨expected, -, h⟩ := bind_ok h
  obtain ⟨_, -, h⟩ := bind_ok h
  exact ⟨expected, (pure_ok h).symm⟩

theorem Signing.once {expected : SignerSnapshot} {unsigned signed : MutationState σ}
    {calls : List Call} {evidence : Option SigningEvidence} {digest : Option String}
    (h : Signing p request unsigned (some expected) signed calls evidence digest) :
    ∃ input, calls.filterMap Call.input? = [input] ∧ input.body = unsigned.body ∧
      input.logicalTimeNs = unsigned.signingTimeNs ∧
      digest = some (p.sha256.text input.body) := by
  cases h with
  | signed hby =>
    obtain ⟨hbody, -, htime⟩ := hby.input
    exact ⟨_, rfl, hbody, htime, by rw [hbody]⟩

variable [DecidableEq σ]

theorem invokeOperators_applied {progress after : Progress σ}
    {mutations : List (PreparedMutation σ)}
    (hregistered : ∀ m ∈ mutations, p.registry.registration m.realized = .ok m.registration)
    (h : runAll (p.invokeOperator request snapshot) progress mutations = .ok after) :
    ∃ evidence, Applied p request (SignerSnapshot.owned snapshot) progress.state
        (mutations.map PreparedMutation.realized) evidence after.state ∧
      after.evidence = progress.evidence ++ evidence ∧
      after.calls = progress.calls ++ mutations.map (fun m => .operator m.realized) ∧
      after.signingEvidence = progress.signingEvidence ∧
      after.signedBodySha256 = progress.signedBodySha256 := by
  induction mutations generalizing progress with
  | nil =>
    cases h
    exact ⟨[], .nil _, by simp, by simp, rfl, rfl⟩
  | cons m mutations ih =>
    obtain ⟨middle, hstep, h⟩ := bind_ok h
    obtain ⟨state, item, hone, rfl⟩ := invokeOperator_ok hstep
    obtain ⟨happlied, hdeclared, rfl⟩ := applyOne_ok hone
    obtain ⟨evidence, htail, hevidence, hcalls, hsigning, hsigned⟩ :=
      ih (fun n hn => hregistered n (List.mem_cons_of_mem m hn)) h
    refine ⟨p.evidenceOf m.realized progress.state state :: evidence,
      .cons (hregistered m List.mem_cons_self) happlied hdeclared htail, ?_, ?_, hsigning, hsigned⟩
    · simp [hevidence]
    · simp [hcalls]

/-- Every successful execution is one in stages. -/
theorem run_execution {progress : Progress σ} (h : p.run request = .ok progress) :
    ∃ snapshot, p.selectSigner request = .ok snapshot ∧
      Nonempty (Execution p request snapshot progress) := by
  obtain ⟨prepared, hprepared, hstaged⟩ := run_ok h
  have hfits := preflight_fits hprepared
  have hsplit : early prepared.mutations ++ late prepared.mutations = prepared.mutations :=
    List.takeWhile_append_dropWhile
  have hregistered : ∀ m ∈ early prepared.mutations ++ late prepared.mutations,
      p.registry.registration m.realized = .ok m.registration := by
    rw [hsplit]
    exact hfits.registered
  obtain ⟨unsigned, hearly, hstaged⟩ := bind_ok hstaged
  obtain ⟨signed, hsigner, hlate⟩ := bind_ok hstaged
  obtain ⟨earlyEvidence, hearlyApplied, hearlyEvidence, hearlyCalls, hnoEvidence, hnoDigest⟩ :=
    invokeOperators_applied (fun m hm => hregistered m (List.mem_append_left _ hm)) hearly
  obtain ⟨lateEvidence, hlateApplied, hlateEvidence, hlateCalls, hsigning, hsigned⟩ :=
    invokeOperators_applied (fun m hm => hregistered m (List.mem_append_right _ hm)) hlate
  obtain ⟨hevidence, -, hsignature⟩ := invokeSigner_ok hsigner
  obtain ⟨calls, hcalls, hsignature⟩ : ∃ calls, signed.calls = unsigned.calls ++ calls ∧
      Signing p request unsigned.state prepared.signerSnapshot signed.state calls
        progress.signingEvidence progress.signedBodySha256 := by
    rw [hsigning, hsigned]
    obtain ⟨hnone, hstate, hcalls, hsame, hdigest⟩ |
      ⟨expected, signature, hexpected, hby, hstate, hcalls, hsome, hdigest⟩ := hsignature
    · rw [hnone, hstate, hsame, hdigest, hnoEvidence, hnoDigest, hcalls]
      exact ⟨[], (List.append_nil _).symm, .unsigned⟩
    · rw [hexpected, hstate, hsome, hdigest, hcalls]
      exact ⟨_, rfl, .signed hby⟩
  have hordered : request.mutations.Pairwise fun m n => m.stage.rank ≤ n.stage.rank := by
    rw [← hfits.realized]
    exact List.pairwise_map.2 hfits.ordered
  refine ⟨prepared.signerSnapshot, hfits.selected, ⟨{
    early := (early prepared.mutations).map PreparedMutation.realized
    late := (late prepared.mutations).map PreparedMutation.realized
    start := prepared.state
    unsigned := unsigned.state
    signed := signed.state
    earlyEvidence := earlyEvidence
    lateEvidence := lateEvidence
    signerCalls := calls
    split := by rw [← List.map_append, hsplit, hfits.realized]
    ordered := hordered
    early_stage := List.forall_mem_map.2 fun m hm => mem_early hm
    late_stage := List.forall_mem_map.2 fun m hm => mem_late hfits.ordered hm
    start_eq := ⟨hfits.body, hfits.headers, hfits.signingTime, hfits.signer⟩
    early_applied := hearlyApplied
    signing := hsignature
    late_applied := hlateApplied
    evidence_eq := by
      rw [hlateEvidence, hevidence, hearlyEvidence]
      rfl
    calls_eq := by
      rw [hlateCalls, hcalls, hearlyCalls, List.map_map, List.map_map]
      rfl }⟩⟩

/-- One mutation is applied before the signature or after it. -/
inductive AppliedOnce (p : MutationPipeline σ) (request : PipelineRequest σ)
    (snapshot : Option SignerSnapshot) (m : RealizedMutation)
    (registration : MutationRegistration σ) (start final : MutationState σ) : Prop
  | before {unsigned : MutationState σ} {calls : List Call} {evidence : Option SigningEvidence}
      {digest : Option String} (stage : m.stage.rank ≤ MutationStage.signing.rank)
      (applied : registration.implementation ⟨m, start, request.eventId, request.mediaType⟩ =
        .ok unsigned)
      (signing : Signing p request unsigned snapshot final calls evidence digest)
  | after {signed : MutationState σ} {calls : List Call} {evidence : Option SigningEvidence}
      {digest : Option String} (stage : MutationStage.signing.rank < m.stage.rank)
      (signing : Signing p request start snapshot signed calls evidence digest)
      (applied : registration.implementation ⟨m, signed, request.eventId, request.mediaType⟩ =
        .ok final)

/-- The state that a request starts with. -/
def StartsWith (request : PipelineRequest σ) (start : MutationState σ) : Prop :=
  start.body = request.body ∧ start.headers = request.headers ∧
    start.signingTimeNs = request.logicalTimeNs ∧ start.signer = request.signer

theorem execute_single {m : RealizedMutation} {result : MutationPipelineResult}
    (hm : request.mutations = [m]) (h : p.execute request = .ok result) :
    ∃ snapshot registration start final, p.selectSigner request = .ok snapshot ∧
      p.registry.registration m = .ok registration ∧ StartsWith request start ∧
      AppliedOnce p request snapshot m registration start final ∧ result.body = final.body ∧
      result.headers = final.headers := by
  obtain ⟨progress, hrun, rfl⟩ := map_ok h
  obtain ⟨snapshot, hselected, ⟨e⟩⟩ := run_execution hrun
  obtain ⟨early, late, start, unsigned, signed, earlyEvidence, lateEvidence, signerCalls, split,
    -, early_stage, late_stage, start_eq, early_applied, signing, late_applied, -, -⟩ := e
  rw [hm] at split
  obtain ⟨rfl, rfl⟩ | ⟨rfl, rfl⟩ := List.singleton_eq_append_iff.1 split
  · cases early_applied
    cases late_applied with
    | cons registered applied declared tail =>
      cases tail
      exact ⟨snapshot, _, start, progress.state, hselected, registered, start_eq,
        .after (late_stage m List.mem_cons_self) signing applied, rfl, rfl⟩
  · generalize hfinal : progress.state = final at late_applied
    cases late_applied
    cases early_applied with
    | cons registered applied declared tail =>
      cases tail
      exact ⟨snapshot, _, start, _, hselected, registered, start_eq,
        .before (early_stage m List.mem_cons_self) applied signing,
        congrArg MutationState.body hfinal, congrArg MutationState.headers hfinal⟩

end Runs

end MutationPipeline

/-- A successful execution applies its mutations in list order, which is the order of their
stages; it signs once, between the signing stage and the next, exactly what the mutations up to
there have left; and it changes body, time, signer and headers only where the registration of an
applied mutation declares it, or by the signer's own headers. -/
theorem execute_in_stages {σ : Type} [DecidableEq σ] {p : MutationPipeline σ}
    {request : PipelineRequest σ} {result : MutationPipelineResult}
    (h : p.execute request = .ok result) :
    ∃ progress snapshot, p.run request = .ok progress ∧ result = p.result progress ∧
      p.selectSigner request = .ok snapshot ∧
      MutationPipeline.DigestChain (p.sha256.text request.body) result.mutationEvidence
        result.deliveredBodySha256 ∧
      ∃ e : MutationPipeline.Execution p request snapshot progress,
        ∀ signer ∈ request.signer, ∃ input,
          progress.calls.filterMap MutationPipeline.Call.input? = [input] ∧
          input.body = e.unsigned.body ∧ input.logicalTimeNs = e.unsigned.signingTimeNs ∧
          result.signedBodySha256 = some (p.sha256.text input.body) := by
  obtain ⟨progress, hrun, rfl⟩ := map_ok h
  obtain ⟨snapshot, hselected, ⟨e⟩⟩ := MutationPipeline.run_execution hrun
  refine ⟨progress, snapshot, hrun, rfl, hselected, e.digestChain, e, ?_⟩
  intro signer hsigner
  obtain ⟨expected, rfl⟩ := MutationPipeline.selectSigner_some hselected hsigner
  rw [e.signerInputs]
  exact e.signing.once

section Fixtures

def constantHash : Sha256Hash := ⟨fun _ => List.replicate 32 0, fun _ => List.length_replicate⟩

/-- One signer that signs with a constant. -/
def constantSigner : SignerProtocol Unit where
  adapterId := fun _ => "constant"
  adapterVersion := fun _ => "v1"
  ownedHeaders := fun _ => ["x-signature"]
  sign := fun _ input => .ok {
    headers := [⟨"x-signature", "00"⟩]
    evidence := ⟨"constant", "v1", input.logicalTimeNs, constantHash.text input.body⟩
    headers_valid := by decide
    headers_count := by decide
    names_nodup := by decide }

/-- An operator that leaves an empty body. -/
def clearBody (stage : MutationStage) (fits : { OperatorEffects.nothing with
    changesBody := true }.fitsStage stage = true) (id : String) : MutationRegistration Unit where
  toOperatorEffects := { OperatorEffects.nothing with changesBody := true }
  operatorId := id
  operatorVersion := 1
  stage := stage
  implementation := fun input => .ok { input.state with body := [] }
  fits := fits
  targets_nodup := by decide

def samplePipeline : MutationPipeline Unit where
  sha256 := constantHash
  signers := constantSigner
  registry := ⟨[clearBody .rawPreSign (by decide) "clear-early",
    clearBody .rawPostSign (by decide) "clear-late"], by decide, by decide⟩
  limits := .standard

def sampleRequest : PipelineRequest Unit where
  body := utf8 "order"
  headers := [⟨"content-type", "text/plain"⟩]
  eventId := "event"
  logicalTimeNs := 1
  mediaType := "text/plain"
  signer := some ()
  mutations := [⟨"clear-late", 1, .rawPostSign, [], [], RealizedMutation.no_parameters⟩]

end Fixtures

theorem sampleRequest_in_stages :
    ∃ result, samplePipeline.execute sampleRequest = .ok result ∧ result.body = [] ∧
      ∃ progress, samplePipeline.run sampleRequest = .ok progress ∧
        ∃ input, progress.calls.filterMap MutationPipeline.Call.input? = [input] ∧
          result.signedBodySha256 = some (constantHash.text input.body) := by
  have hbody : (samplePipeline.execute sampleRequest).map MutationPipelineResult.body = .ok [] := by
    decide +kernel
  obtain ⟨result, hresult, hempty⟩ := map_ok hbody
  obtain ⟨progress, _, hrun, -, -, -, e, hsigned⟩ := execute_in_stages hresult
  obtain ⟨input, hcalls, -, -, hdigest⟩ := hsigned () rfl
  exact ⟨result, hresult, hempty, progress, hrun, input, hcalls, hdigest⟩

end WebhookConformance
