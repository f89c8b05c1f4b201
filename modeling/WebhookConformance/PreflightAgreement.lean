import WebhookConformance.LoweredMutations
import WebhookConformance.PreflightRules

/-! The rules of `_validate_mutations` against those of the pipeline's preflight: what the first
accepts, the second takes. -/
namespace WebhookConformance

open Checked

section Operators

/-- What two operators of one delivery have to agree on, the first standing before the second. -/
structure MutationOperator.Precedes (prior current : MutationOperator) : Prop where
  order : prior.stage.rank ≤ current.stage.rank
  contentType : prior = .contentTypeMismatch → current ≠ .contentTypeMismatch
  signature : prior.effects.signatureHeaderAction ≠ .none →
    current.effects.signatureHeaderAction = .none

/-- What one operator needs. -/
structure MutationOperator.Admitted (scope : MutationScope) (o : MutationOperator) : Prop where
  json : o.effects.requiresValidJson = true → scope.jsonFixture = true
  signer : o.effects.needsSigner = true → scope.signer.isSome = true

/-- The variables of the loop say what the operators so far are. -/
structure MutationScan.Tracks (s : MutationScan) (before : List MutationOperator) : Prop where
  furthest : ∀ o ∈ before, ∃ f ∈ s.furthestStage, o.stage.rank ≤ f.1.rank
  contentType : .contentTypeMismatch ∈ before → s.contentType = true
  signature : ∀ o ∈ before, o.effects.signatureHeaderAction ≠ .none →
    s.signatureHeaderOperator ≠ none

theorem MutationScan.tracks_start : MutationScan.start.Tracks [] where
  furthest := fun _ h => absurd h List.not_mem_nil
  contentType := fun h => absurd h List.not_mem_nil
  signature := fun _ h => absurd h List.not_mem_nil

variable {scope : MutationScope} {index : Nat} {s : MutationScan} {m : MutationConfig}
  {before : List MutationOperator}

theorem advanceStage_spec (o : MutationOperator) :
    ∃ f ∈ advanceStage s o, o.stage.rank ≤ f.1.rank ∧
      ∀ prior ∈ s.furthestStage, prior.1.rank ≤ f.1.rank := by
  unfold advanceStage
  cases hfurthest : s.furthestStage with
  | none => exact ⟨_, rfl, le_rfl, fun _ h => by cases h⟩
  | some prior =>
    by_cases hlt : prior.1.rank < o.stage.rank
    · refine ⟨(o.stage, o), by simp [hlt], le_rfl, ?_⟩
      rintro _ ⟨⟩
      exact hlt.le
    · refine ⟨prior, by simp [hlt], not_lt.1 hlt, ?_⟩
      rintro _ ⟨⟩
      exact le_rfl

theorem orElse_ne_none (prior : Option MutationOperator) (o : MutationOperator) :
    (prior <|> some o) ≠ none := by
  cases prior <;> simp

/-- One turn keeps what was seen. -/
theorem scanMutation_spec (fixture : Option FixtureConfig) :
    (scanMutation index s fixture m).furthestStage = advanceStage s m.operator ∧
      (s.contentType = true ∨ m.operator = .contentTypeMismatch →
        (scanMutation index s fixture m).contentType = true) ∧
      (s.signatureHeaderOperator ≠ none ∨ m.operator.effects.signatureHeaderAction ≠ .none →
        (scanMutation index s fixture m).signatureHeaderOperator ≠ none) := by
  cases m with
  | contentTypeMismatch mediaType =>
    exact ⟨rfl, fun _ => rfl, fun h => h.elim id fun hne => absurd rfl hne⟩
  | missingSignature =>
    refine ⟨rfl, ?_, fun _ => ?_⟩
    · rintro (hseen | heq)
      · exact hseen
      · cases heq
    · exact orElse_ne_none s.signatureHeaderOperator .missingSignature
  | malformedSignature case =>
    refine ⟨rfl, ?_, fun _ => ?_⟩
    · rintro (hseen | heq)
      · exact hseen
      · cases heq
    · exact orElse_ne_none s.signatureHeaderOperator .malformedSignature
  | _ =>
    exact ⟨rfl, fun h => h.elim id fun heq => MutationOperator.noConfusion heq,
      fun h => h.elim id fun hne => absurd rfl hne⟩

theorem MutationScan.Tracks.next (htracks : s.Tracks before) :
    (scanMutation index s scope.fixture m).Tracks (before ++ [m.operator]) := by
  obtain ⟨hfurthest, hcontent, hsignature⟩ := @scanMutation_spec index s m scope.fixture
  obtain ⟨f, hf, hcurrent, hprior⟩ := @advanceStage_spec s m.operator
  refine ⟨fun o ho => ?_, fun ho => ?_, fun o ho hne => ?_⟩
  · rw [hfurthest]
    refine ⟨f, hf, ?_⟩
    obtain ho | ho := List.mem_append.1 ho
    · obtain ⟨g, hg, hle⟩ := htracks.furthest o ho
      exact hle.trans (hprior g hg)
    · cases List.mem_singleton.1 ho
      exact hcurrent
  · obtain ho | ho := List.mem_append.1 ho
    · exact hcontent (.inl (htracks.contentType ho))
    · exact hcontent (.inr (List.mem_singleton.1 ho).symm)
  · obtain ho | ho := List.mem_append.1 ho
    · exact hsignature (.inl (htracks.signature o ho hne))
    · cases List.mem_singleton.1 ho
      exact hsignature (.inr hne)

theorem stageDiagnostics_nil {o : MutationOperator} (h : stageDiagnostics scope index s o = []) :
    ∀ f ∈ s.furthestStage, f.1.rank ≤ o.stage.rank := by
  unfold stageDiagnostics at h
  rintro f hf
  rw [Option.mem_def] at hf
  rw [hf, reportIf_eq_nil, decide_eq_false_iff_not] at h
  exact not_lt.1 h

theorem signer_of_needed {o : MutationOperator} (hneeds : o.effects.needsSigner = true)
    (h : requiresSignerDiagnostics scope index o = []) : scope.signer.isSome = true := by
  have hcode : (requiresSignerCode o).isSome = true := by
    revert hneeds
    cases o <;> decide
  obtain ⟨code, hcode⟩ := Option.isSome_iff_exists.1 hcode
  rw [requiresSignerDiagnostics, hcode] at h
  simpa using h

theorem structural_json (hjson : m.operator.effects.requiresValidJson = true)
    (h : operatorDiagnostics scope index s m = []) : scope.jsonFixture = true := by
  have hstructural : structuralDiagnostics scope index s m = [] := by
    cases m with
    | removeJsonPointer | replaceJsonValue | replaceJsonType | addJsonField
    | changeEventIdField | changeEventTypeField => exact h
    | _ => cases hjson
  simp only [structuralDiagnostics, List.append_eq_nil_iff, reportIf_eq_nil] at hstructural
  simpa using hstructural.1.1.1

theorem contentTypeMismatch_once (hoperator : m.operator = .contentTypeMismatch)
    (h : operatorDiagnostics scope index s m = []) : s.contentType ≠ true := by
  cases m with
  | contentTypeMismatch mediaType =>
    have hseen := reportIf_eq_nil.1 h
    rw [hseen]
    exact Bool.false_ne_true
  | _ => cases hoperator

theorem signature_once (haction : m.operator.effects.signatureHeaderAction ≠ .none)
    (h : operatorDiagnostics scope index s m = []) : s.signatureHeaderOperator = none := by
  have hnone {o : MutationOperator} (hnil : signatureHeaderDiagnostics scope index s o = []) :
      s.signatureHeaderOperator = none := by
    rw [signatureHeaderDiagnostics, List.map_eq_nil_iff] at hnil
    exact Option.toList_eq_nil_iff.1 hnil
  cases m with
  | missingSignature => exact hnone h
  | malformedSignature case => exact hnone h
  | _ => exact absurd rfl haction

/-- What a turn without diagnostics has checked. -/
theorem mutationDiagnostics_nil (htracks : s.Tracks before)
    (h : mutationDiagnostics scope index s m = []) :
    m.operator.Admitted scope ∧ ∀ prior ∈ before, prior.Precedes m.operator := by
  simp only [mutationDiagnostics, List.append_eq_nil_iff] at h
  obtain ⟨⟨hstage, hsigner⟩, hoperator⟩ := h
  refine ⟨⟨?_, ?_⟩, fun prior hprior => ⟨?_, ?_, ?_⟩⟩
  · intro hjson
    exact structural_json hjson hoperator
  · intro hneeds
    exact signer_of_needed hneeds hsigner
  · obtain ⟨f, hf, hle⟩ := htracks.furthest prior hprior
    exact hle.trans (stageDiagnostics_nil hstage f hf)
  · rintro rfl hsecond
    exact contentTypeMismatch_once hsecond hoperator (htracks.contentType hprior)
  · intro hfirst
    by_contra hsecond
    exact htracks.signature prior hprior hfirst (signature_once hsecond hoperator)

theorem mutationsDiagnostics_nil {mutations : List MutationConfig} (htracks : s.Tracks before)
    (h : mutationsDiagnostics scope index s mutations = []) :
    (∀ m ∈ mutations, m.operator.Admitted scope) ∧
      mutations.Pairwise (fun prior current => prior.operator.Precedes current.operator) ∧
      ∀ prior ∈ before, ∀ m ∈ mutations, prior.Precedes m.operator := by
  induction mutations generalizing index s before with
  | nil =>
    exact ⟨fun _ hm => absurd hm List.not_mem_nil, .nil,
      fun _ _ _ hm => absurd hm List.not_mem_nil⟩
  | cons m mutations ih =>
    obtain ⟨hfirst, hrest⟩ := List.append_eq_nil_iff.1 h
    obtain ⟨hadmitted, hprecedes⟩ := mutationDiagnostics_nil htracks hfirst
    obtain ⟨hall, hpairs, hbefore⟩ := ih htracks.next hrest
    refine ⟨List.forall_mem_cons.2 ⟨hadmitted, hall⟩, List.pairwise_cons.2 ⟨?_, hpairs⟩, ?_⟩
    · exact hbefore m.operator (by simp)
    · intro prior hprior
      exact List.forall_mem_cons.2 ⟨hprecedes prior hprior,
        hbefore prior (List.mem_append_left _ hprior)⟩

end Operators

section Lowered

variable {family : SignerFamily SignerRef} {fixture : FixtureConfig} {scope : MutationScope}
  {snapshot : Option SignerSnapshot}

/-- A mutation of the configuration as the preflight sees it. -/
def loweredMutation (family : SignerFamily SignerRef) (fixture : FixtureConfig)
    (m : MutationConfig) : PreparedMutation SignerRef :=
  ⟨lowerMutation fixture m, m.operator.registration family⟩

theorem MutationOperator.staticTargets_eq {o : MutationOperator} {name : String}
    (h : name ∈ o.effects.staticTargets) : o = .contentTypeMismatch ∧ name = contentTypeHeader := by
  cases o with
  | contentTypeMismatch => exact ⟨rfl, List.mem_singleton.1 h⟩
  | _ => exact absurd h List.not_mem_nil

theorem MutationOperator.invalidatesJson_rank {o : MutationOperator}
    (h : o.effects.invalidatesJson = true) : 0 < o.stage.rank := by
  revert h
  cases o <;> decide

theorem MutationOperator.Precedes.compatible {prior current : MutationConfig}
    (h : prior.operator.Precedes current.operator) :
    (loweredMutation family fixture prior).Compatible (loweredMutation family fixture current) where
  json := by
    intro hinvalid hstage
    have hrank : 0 < prior.operator.stage.rank :=
      MutationOperator.invalidatesJson_rank hinvalid
    have hzero : current.operator.stage.rank = 0 := by
      rw [show current.operator.stage = .structural from hstage]
      rfl
    have horder := h.order
    omega
  order := h.order
  headers := by
    intro name hcurrent hprior
    exact h.contentType (MutationOperator.staticTargets_eq hprior).1
      (MutationOperator.staticTargets_eq hcurrent).1
  action := h.signature

theorem MutationOperator.Admitted.allowed {m : MutationConfig} (h : m.operator.Admitted scope)
    (hfixture : scope.fixture = some fixture) (hsigner : scope.signer.isSome = snapshot.isSome)
    (hfree : contentTypeHeader ∉ SignerSnapshot.owned snapshot) :
    (loweredMutation family fixture m).Allowed fixture.mediaType.text snapshot where
  json := by
    intro hjson
    have hscope := h.json hjson
    rwa [MutationScope.jsonFixture, hfixture] at hscope
  signer := fun hneeds => hsigner ▸ h.signer hneeds
  owned := by
    intro _ name hname
    rw [(MutationOperator.staticTargets_eq hname).2]
    exact hfree
  removed := by
    intro _ name hname
    have htarget : name ∈ m.operator.effects.staticTargets :=
      List.mem_append_left _ hname
    rw [(MutationOperator.staticTargets_eq htarget).2]
    exact hfree

/-- Mutations that the project accepts, lowered, are taken together. -/
theorem lowered_taken {sha : Sha256Hash} {selected : BuiltinSigner}
    {limits : MutationPipelineLimits} {mutations : List MutationConfig}
    (h : validateMutations scope mutations = []) (hfixture : scope.fixture = some fixture)
    (hsigner : scope.signer.isSome = snapshot.isSome)
    (hfree : contentTypeHeader ∉ SignerSnapshot.owned snapshot) :
    TakenTogether (builtinPipeline sha selected limits) fixture.mediaType.text snapshot
      (mutations.map (loweredMutation (builtinFamily sha selected) fixture)) := by
  obtain ⟨hdiagnostics, -⟩ := List.append_eq_nil_iff.1 h
  obtain ⟨hadmitted, hpairs, -⟩ :=
    mutationsDiagnostics_nil MutationScan.tracks_start hdiagnostics
  refine ⟨fun _ hlowered => ?_, fun _ hlowered => ?_, ?_⟩
  · obtain ⟨m, -, rfl⟩ := List.mem_map.1 hlowered
    exact allMutationRegistry_of ⟨rfl, rfl, rfl⟩
  · obtain ⟨m, hm, rfl⟩ := List.mem_map.1 hlowered
    exact (hadmitted m hm).allowed hfixture hsigner hfree
  · exact List.pairwise_map.2 (hpairs.imp fun hprecedes => hprecedes.compatible)

end Lowered

section Preflights

variable {σ : Type} {p : MutationPipeline σ} {request : PipelineRequest σ}
  {snapshot : Option SignerSnapshot} {prepared : List (PreparedMutation σ)}

/-- The refusals of a preflight that come from its input alone. -/
def inputRefusals : List String :=
  ["MUT_BODY_LIMIT", "MUT_HEADER_COUNT_LIMIT", "MUT_HEADERS_INVALID", "MUT_SEQUENCE_LIMIT",
   "MUT_PIPELINE_INPUT_INVALID", "MUT_HEADER_BYTES_LIMIT", "MUT_STRUCTURAL_INPUT_INVALID_JSON"]

/-- The refusals of its conflict rules. -/
def conflictRefusals : List String :=
  ["MUT_PIPELINE_STAGE_ORDER", "MUT_STRUCTURAL_AFTER_INVALID_JSON", "MUT_HEADER_TARGET_CONFLICT",
   "MUT_SIGNATURE_HEADER_ACTION_CONFLICT", "MUT_OPERATOR_REQUIRES_SIGNER",
   "MUT_SIGNER_HEADER_OWNERSHIP_CONFLICT", "MUT_SIGNER_HEADER_COLLISION",
   "MUT_SIGNER_CONTRACT_INVALID", "MUT_STRUCTURAL_REQUIRES_JSON"]

theorem MutationPipeline.seedState_raises :
    Raises (fun e => e.code ∈ inputRefusals) (seedState request) := by
  unfold seedState
  split
  · exact raises_error.2 (by decide)
  · exact raises_bind.2 ⟨raises_require fun _ => by decide, fun _ _ => raises_ok⟩

theorem MutationPipeline.preflight_raises (hsigner : p.selectSigner request = .ok snapshot)
    (hrealized : prepared.map PreparedMutation.realized = request.mutations)
    (htaken : TakenTogether p request.mediaType snapshot prepared) :
    Raises (fun e => e.code ∈ inputRefusals) (p.preflight request) := by
  have hscan := scanAll_of PreflightScan.tracks_start htaken fun _ hm =>
    absurd hm List.not_mem_nil
  rw [hrealized] at hscan
  obtain ⟨after, hscan, -⟩ := hscan
  refine raises_bind.2 ⟨raises_require fun _ => by decide, fun _ _ => ?_⟩
  refine raises_bind.2 ⟨raises_bind.2 ⟨raises_require fun _ => by decide, fun _ _ =>
    raises_require fun _ => by decide⟩, fun _ _ => ?_⟩
  refine raises_bind.2 ⟨raises_require fun _ => by decide, fun _ _ => ?_⟩
  refine raises_bind.2 ⟨seedState_raises, fun _ _ => ?_⟩
  refine raises_bind.2 ⟨raises_require fun _ => by decide, fun _ _ => ?_⟩
  rw [hsigner]
  refine raises_bind.2 ⟨raises_ok, fun found hfound => ?_⟩
  cases hfound
  rw [hscan]
  refine raises_bind.2 ⟨raises_ok, fun _ _ => ?_⟩
  exact raises_bind.2 ⟨raises_require fun _ => by decide, fun _ _ => raises_ok⟩

end Preflights

section Signers

variable {sha : Sha256Hash} {hmac : HmacSha256} {secret : Bytes} {config : SignerConfig}
  {selected : BuiltinSigner} {names : List String} {path : String}
  {limits : MutationPipelineLimits} {request : PipelineRequest SignerRef}

theorem adapterId_identifier (selected : BuiltinSigner) :
    isSignerIdentifier selected.adapterId = true := by
  cases selected with
  | generic signer => exact (by decide : isSignerIdentifier "generic-hmac-sha256" = true)
  | stripe signer => exact (by decide : isSignerIdentifier "stripe-v1" = true)
  | standard signer => exact (by decide : isSignerIdentifier "standard-webhooks-hmac" = true)

theorem validateSignerHeaders_reserved (h : validateSignerHeaders config names path = []) :
    ∀ name ∈ ownedSignerHeaders config, name ∉ harnessRequestHeaders := by
  simp only [validateSignerHeaders, List.append_eq_nil_iff, reportIf_eq_nil, List.any_eq_false,
    decide_eq_true_eq] at h
  exact h.2

/-- A signer that the project accepts passes the checks of the preflight. -/
theorem selectSigner_of (h : validateSignerHeaders config names path = [])
    (hbuilt : buildSigner hmac secret config = .ok selected) (hsigner : request.signer = some [])
    (hheaders : request.headers.map SignatureHeader.name = [contentTypeHeader]) :
    (builtinPipeline sha selected limits).selectSigner request =
      .ok (some ⟨selected.adapterId, "v1", ownedSignerHeaders config⟩) := by
  have howned := ownedHeaders_buildSigner hbuilt
  have hreserved := validateSignerHeaders_reserved h
  have hcontract := @validateHeaderOwnership_of config path names [] h (Nat.zero_le _)
    (fun _ hname => absurd hname List.not_mem_nil) (fun _ _ => List.not_mem_nil)
  have hcollision := @validateHeaderOwnership_of config path names [contentTypeHeader] h
    (by decide) (List.forall_mem_singleton.2 (by decide)) (by
      intro name hname hmem
      cases List.mem_singleton.1 hmem
      exact hreserved _ hname (by decide))
  have hsnapshot : (builtinPipeline sha selected limits).signers.snapshot [] =
      .ok ⟨selected.adapterId, "v1", ownedSignerHeaders config⟩ := by
    have hversion : isSignerIdentifier "v1" = true := by decide
    have hselected : (builtinPipeline sha selected limits).signers.ownedHeaders [] =
        ownedSignerHeaders config := howned
    refine bind_of (require_of ⟨adapterId_identifier selected, hversion⟩) ?_
    rw [hselected, hcontract]
    rfl
  unfold MutationPipeline.selectSigner
  rw [hsigner]
  have hfree : rejectSignerInputCollision
      ⟨selected.adapterId, "v1", ownedSignerHeaders config⟩ request.headers = .ok () := by
    rw [rejectSignerInputCollision, hheaders, hcollision]
  exact bind_of hsnapshot (bind_of hfree rfl)

end Signers

section Projects

variable {config : ProjectConfig} {context : List DeliveryUserHeaders} {index : Nat}
  {scenario : ProjectScenario} {stepIndex : Nat} {action : ConfiguredDelivery}

/-- What validation has checked of a delivery. -/
structure AcceptedDelivery (scope : ScenarioScope) (stepIndex : Nat) (action : ConfiguredDelivery)
    (event : EventConfig) (fixture : FixtureConfig) : Prop where
  event_found : scope.event? action.event = some event
  fixture_found : scope.config.fixture? event.fixture = some fixture
  mutations : validateMutations (scope.mutationScope stepIndex action event) action.mutations = []
  signer : ∀ c, scope.signer? action = some c → ∃ path,
    validateSignerHeaders c (scope.userHeaders stepIndex) path = []

theorem AcceptedProject.delivery (h : AcceptedProject config context)
    (hscenario : config.scenarios[index]? = some scenario)
    (hmem : (stepIndex, action) ∈ deliverSteps 0 scenario.steps) :
    ∃ event fixture,
      AcceptedDelivery ⟨config, scenario, index, context⟩ stepIndex action event fixture := by
  have hdiagnostics := h.scenario hscenario
  simp only [scenarioDiagnostics, List.append_eq_nil_iff] at hdiagnostics
  obtain ⟨⟨⟨⟨⟨⟨-, hevents⟩, -⟩, -⟩, -⟩, -⟩, -⟩ := hdiagnostics
  have hdeliver := h.deliver hscenario hmem
  simp only [deliverDiagnostics, List.append_eq_nil_iff, reportIf_eq_nil] at hdeliver
  obtain ⟨⟨⟨hevent, -⟩, -⟩, hrules⟩ := hdeliver
  obtain ⟨event, hevent⟩ := Option.isSome_iff_exists.1 (Option.isNone_eq_false_iff.1 hevent)
  rw [hevent] at hrules
  simp only [Option.toList_some, List.flatMap_singleton, List.append_eq_nil_iff,
    List.flatMap_eq_nil_iff, Option.mem_toList] at hrules
  obtain ⟨hmutations, hsigner⟩ := hrules
  obtain ⟨i, hi⟩ := List.mem_iff_getElem?.1 (List.mem_of_find?_eq_some hevent)
  have hfixture := List.flatMap_eq_nil_iff.1 hevents (event, i)
    (List.mem_zipIdx_iff_getElem?.2 hi)
  simp only [eventDiagnostics, List.append_eq_nil_iff, reportIf_eq_nil] at hfixture
  obtain ⟨fixture, hfixture⟩ :=
    Option.isSome_iff_exists.1 (Option.isNone_eq_false_iff.1 hfixture.1)
  exact ⟨event, fixture, hevent, hfixture, hmutations, fun c hc => ⟨_, hsigner c hc⟩⟩

/-- A delivery as the pipeline is asked for it, with all its mutations: the one header at the
start is the content type of its fixture. -/
def ConfiguredDelivery.request (action : ConfiguredDelivery) (fixture : FixtureConfig)
    (signer : Option SignerConfig) (body : Bytes) (eventId : String) (logicalTimeNs : Int) :
    PipelineRequest SignerRef where
  body := body
  headers := [⟨contentTypeHeader, fixture.mediaType.text⟩]
  eventId := eventId
  logicalTimeNs := logicalTimeNs
  mediaType := fixture.mediaType.text
  signer := signer.map fun _ => []
  mutations := action.mutations.map (lowerMutation fixture)

theorem AcceptedDelivery.selects {scope : ScenarioScope} {event : EventConfig}
    {fixture : FixtureConfig} (h : AcceptedDelivery scope stepIndex action event fixture)
    {hmac : HmacSha256} {secret : Bytes} {selected : BuiltinSigner}
    (hbuilt : ∀ c, scope.signer? action = some c → buildSigner hmac secret c = .ok selected)
    (sha : Sha256Hash) (limits : MutationPipelineLimits) (body : Bytes) (eventId : String)
    (logicalTimeNs : Int) :
    ∃ snapshot, (builtinPipeline sha selected limits).selectSigner
        (action.request fixture (scope.signer? action) body eventId logicalTimeNs) =
          .ok snapshot ∧
      (scope.signer? action).isSome = snapshot.isSome ∧
      contentTypeHeader ∉ SignerSnapshot.owned snapshot := by
  cases hsigner : scope.signer? action with
  | none => exact ⟨none, rfl, rfl, List.not_mem_nil⟩
  | some c =>
    obtain ⟨path, hheaders⟩ := h.signer c hsigner
    refine ⟨_, selectSigner_of hheaders (hbuilt c hsigner) rfl rfl, rfl, fun hmem => ?_⟩
    exact validateSignerHeaders_reserved hheaders _ hmem (by decide)

/-- What validation accepts, the preflight takes: for every delivery of an accepted project the
configured signer is built, and the preflight of its lowered mutations ends in none of the
conflicts, whatever the body, the event id, the time and the limits. -/
theorem accepted_delivery_preflights (hmac : HmacSha256) (sha : Sha256Hash) (secret : Bytes)
    (h : AcceptedProject config context) (hscenario : config.scenarios[index]? = some scenario)
    (hmem : (stepIndex, action) ∈ deliverSteps 0 scenario.steps) :
    ∃ event fixture,
      (ScenarioScope.mk config scenario index context).event? action.event = some event ∧
      config.fixture? event.fixture = some fixture ∧
      (∀ c, (action.signer.bind config.signers.get?) = some c →
        ∃ selected, buildSigner hmac secret c = .ok selected) ∧
      ∀ selected, (∀ c, (action.signer.bind config.signers.get?) = some c →
          buildSigner hmac secret c = .ok selected) →
        ∀ limits body eventId logicalTimeNs, Raises (fun e => e.code ∉ conflictRefusals)
          ((builtinPipeline sha selected limits).preflight (action.request fixture
            (action.signer.bind config.signers.get?) body eventId logicalTimeNs)) := by
  obtain ⟨event, fixture, hdelivery⟩ := h.delivery hscenario hmem
  refine ⟨event, fixture, hdelivery.event_found, hdelivery.fixture_found, ?_, ?_⟩
  · intro c hc
    obtain ⟨path, hheaders⟩ := hdelivery.signer c hc
    exact buildSigner_exists hheaders
  · intro selected hbuilt limits body eventId logicalTimeNs e he hconflict
    obtain ⟨snapshot, hselected, hsome, hfree⟩ :=
      hdelivery.selects hbuilt sha limits body eventId logicalTimeNs
    have hinput := MutationPipeline.preflight_raises hselected (by
      rw [List.map_map]
      rfl) (lowered_taken hdelivery.mutations hdelivery.fixture_found hsome hfree) e he
    have hdisjoint : ∀ code ∈ inputRefusals, code ∉ conflictRefusals := by decide
    exact hdisjoint e.code hinput hconflict

end Projects

section Sample

def unsignedOrder : ConfiguredDelivery :=
  { deliverOrder with
    signer := some "primary"
    mutations := [.malformedSignature .invalidEncoding]
    mutations_le := by decide }

def unsignedScenario : ProjectScenario :=
  orderScenario ⟨"unsigned", by decide⟩ [.deliver unsignedOrder]
    (.httpStatus ⟨"refused", by decide⟩ ⟨[401], []⟩ ⟨"order", .allTerminal⟩) ⟨by simp, by simp⟩

theorem unsignedScenario_unrestarted :
    unsignedScenario.steps.any StepConfig.isRestart = false := rfl

def unsignedProject : ProjectConfig :=
  orderProject ⟨.stripeV1, none⟩ noObservers noObservers_le unsignedScenario
    unsignedScenario_unrestarted

theorem unsignedProject_preflights :
    ∃ event fixture,
      (ScenarioScope.mk unsignedProject unsignedScenario 0 []).event? "order" = some event ∧
      unsignedProject.fixture? event.fixture = some fixture ∧
      (∀ c, (unsignedOrder.signer.bind unsignedProject.signers.get?) = some c →
        ∃ selected, buildSigner sampleHmac [1] c = .ok selected) ∧
      ∀ selected, (∀ c, (unsignedOrder.signer.bind unsignedProject.signers.get?) = some c →
          buildSigner sampleHmac [1] c = .ok selected) →
        ∀ limits body eventId logicalTimeNs, Raises (fun e => e.code ∉ conflictRefusals)
          ((builtinPipeline lengthHash selected limits).preflight (unsignedOrder.request fixture
            (unsignedOrder.signer.bind unsignedProject.signers.get?) body eventId
            logicalTimeNs)) :=
  accepted_delivery_preflights sampleHmac lengthHash [1]
    (show AcceptedProject unsignedProject [] by decide +kernel) rfl
    (show (0, unsignedOrder) ∈ deliverSteps 0 unsignedScenario.steps from List.mem_singleton_self _)

end Sample

end WebhookConformance
