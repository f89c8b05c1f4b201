import WebhookConformance.PipelineRuns

/-! The conflict rules of the preflight loop as rules on single mutations and on pairs of them. -/
namespace WebhookConformance

open Checked

variable {σ : Type} {p : MutationPipeline σ} {mediaType : String}
  {snapshot : Option SignerSnapshot} {scan after : PreflightScan σ}

/-- What the preflight asks of one mutation, whatever came before it. -/
structure PreparedMutation.Allowed (mediaType : String) (snapshot : Option SignerSnapshot)
    (current : PreparedMutation σ) : Prop where
  json : current.registration.requiresValidJson = true → isJsonMediaType mediaType = true
  signer : current.registration.needsSigner = true → snapshot.isSome = true
  owned : current.registration.signatureHeaderAction = .none →
    ∀ name ∈ current.registration.staticTargets, name ∉ SignerSnapshot.owned snapshot
  removed : current.registration.signatureHeaderAction = .remove →
    ∀ name ∈ current.registration.writtenHeaders, name ∉ SignerSnapshot.owned snapshot

/-- What it asks of a mutation after another one. -/
structure PreparedMutation.Compatible (prior current : PreparedMutation σ) : Prop where
  json : prior.registration.invalidatesJson = true → current.realized.stage ≠ .structural
  order : prior.realized.stage.rank ≤ current.realized.stage.rank
  headers : ∀ name ∈ current.registration.staticTargets, name ∉ prior.registration.staticTargets
  action : prior.registration.signatureHeaderAction ≠ .none →
    current.registration.signatureHeaderAction = .none

/-- The variables of the loop say what the mutations so far are. -/
structure PreflightScan.Tracks (scan : PreflightScan σ) : Prop where
  furthest_mem : ∀ f ∈ scan.furthest, f ∈ scan.prepared
  furthest : ∀ m ∈ scan.prepared, ∃ f ∈ scan.furthest, m.realized.stage.rank ≤ f.realized.stage.rank
  invalid : scan.invalidJsonBy.isSome = true ↔
    ∃ m ∈ scan.prepared, m.registration.invalidatesJson = true
  claims : ∀ name, (scan.headerClaims.lookup name).isSome = true ↔
    ∃ m ∈ scan.prepared, name ∈ m.registration.staticTargets
  action : scan.signatureAction.isSome = true ↔
    ∃ m ∈ scan.prepared, m.registration.signatureHeaderAction ≠ .none
  structural : scan.structuralPresent = true ↔
    ∃ m ∈ scan.prepared, m.registration.requiresValidJson = true

theorem PreflightScan.tracks_start : (PreflightScan.start : PreflightScan σ).Tracks := by
  constructor <;> simp [start]

section Claims

variable {current : PreparedMutation σ} {claims claims' : List (String × PreparedMutation σ)}
  {targets : List String}

theorem claimHeader_ok_iff {name : String} :
    claimHeader current claims name = .ok claims' ↔
      claims.lookup name = none ∧ claims' = (name, current) :: claims := by
  unfold claimHeader
  split
  · rename_i prior hprior
    simp [hprior]
  · rename_i hnone
    rw [Except.ok.injEq, hnone]
    exact ⟨fun h => ⟨rfl, h.symm⟩, fun h => h.2.symm⟩

/-- The claims of a mutation whose targets are new. -/
theorem claimHeaders_ok_iff (hnodup : targets.Nodup) :
    (∃ claims', runAll (claimHeader current) claims targets = .ok claims') ↔
      ∀ name ∈ targets, claims.lookup name = none := by
  induction targets generalizing claims with
  | nil => simp [runAll]
  | cons name targets ih =>
    obtain ⟨hname, hnodup⟩ := List.nodup_cons.1 hnodup
    have hskip : ∀ other ∈ targets,
        ((name, current) :: claims).lookup other = claims.lookup other := by
      intro other hother
      have hne : other ≠ name := fun heq => hname (heq ▸ hother)
      rw [List.lookup_cons, beq_false_of_ne hne]
    constructor
    · rintro ⟨last, h⟩
      obtain ⟨middle, hstep, h⟩ := bind_ok h
      obtain ⟨hnone, rfl⟩ := claimHeader_ok_iff.1 hstep
      refine List.forall_mem_cons.2 ⟨hnone, fun other hother => ?_⟩
      rw [← hskip other hother]
      exact (ih hnodup).1 ⟨last, h⟩ other hother
    · intro h
      obtain ⟨hnone, hrest⟩ := List.forall_mem_cons.1 h
      have hfree : ∀ other ∈ targets, ((name, current) :: claims).lookup other = none :=
        fun other hother => (hskip other hother).trans (hrest other hother)
      obtain ⟨last, hlast⟩ := (ih hnodup).2 hfree
      exact ⟨last, bind_of (claimHeader_ok_iff.2 ⟨hnone, rfl⟩) hlast⟩

theorem lookup_claimHeaders {name : String}
    (h : runAll (claimHeader current) claims targets = .ok claims') :
    (claims'.lookup name).isSome = true ↔
      name ∈ targets ∨ (claims.lookup name).isSome = true := by
  induction targets generalizing claims with
  | nil =>
    cases h
    simp
  | cons first targets ih =>
    obtain ⟨middle, hstep, h⟩ := bind_ok h
    obtain ⟨-, rfl⟩ := claimHeader_ok_iff.1 hstep
    rw [ih h, List.lookup_cons, List.mem_cons]
    by_cases hname : name = first
    · simp [hname]
    · rw [beq_false_of_ne hname]
      simp [hname]

end Claims

section Steps

variable {current : PreparedMutation σ} {claims : List (String × PreparedMutation σ)}

theorem PreflightScan.Tracks.next (htracks : scan.Tracks)
    (hclaims : runAll (claimHeader current) scan.headerClaims current.registration.staticTargets =
      .ok claims) : (scan.next current claims).Tracks := by
  have hmem : ∀ m, m ∈ (scan.next current claims).prepared ↔ m ∈ scan.prepared ∨ m = current := by
    intro m
    simp [PreflightScan.next]
  have hexists : ∀ P : PreparedMutation σ → Prop,
      (∃ m ∈ (scan.next current claims).prepared, P m) ↔ (∃ m ∈ scan.prepared, P m) ∨ P current := by
    intro P
    simp only [hmem]
    constructor
    · rintro ⟨m, hm | rfl, hP⟩
      · exact .inl ⟨m, hm, hP⟩
      · exact .inr hP
    · rintro (⟨m, hm, hP⟩ | hP)
      · exact ⟨m, .inl hm, hP⟩
      · exact ⟨current, .inr rfl, hP⟩
  constructor
  · intro f hf
    rw [hmem]
    simp only [PreflightScan.next] at hf
    split at hf
    · cases hf
      exact .inr rfl
    · rename_i prior hprior
      split at hf
      · cases hf
        exact .inr rfl
      · cases hf
        exact .inl (htracks.furthest_mem _ hprior)
  · obtain ⟨f, hf, hcurrent, hprior⟩ := scan.furthest_next current claims
    intro m hm
    refine ⟨f, hf, ?_⟩
    obtain hm | rfl := (hmem m).1 hm
    · obtain ⟨g, hg, hle⟩ := htracks.furthest m hm
      exact hle.trans (hprior g hg)
    · exact hcurrent
  · rw [hexists, ← htracks.invalid]
    simp only [PreflightScan.next]
    split <;> simp_all
  · intro name
    rw [hexists, ← htracks.claims]
    exact (lookup_claimHeaders hclaims).trans or_comm
  · rw [hexists, ← htracks.action]
    simp only [PreflightScan.next]
    split <;> simp_all
  · rw [hexists, ← htracks.structural]
    simp [PreflightScan.next]

theorem checkAfterInvalidJson_iff (htracks : scan.Tracks) :
    checkAfterInvalidJson scan current = .ok () ↔ ∀ prior ∈ scan.prepared,
      prior.registration.invalidatesJson = true → current.realized.stage ≠ .structural := by
  have hinvalid := htracks.invalid
  unfold checkAfterInvalidJson
  split
  · rename_i hnone
    rw [hnone] at hinvalid
    refine iff_of_true rfl fun prior hprior hjson => ?_
    exact absurd (hinvalid.2 ⟨prior, hprior, hjson⟩) (by simp)
  · rename_i found hfound
    rw [hfound] at hinvalid
    obtain ⟨prior, hprior, hjson⟩ := hinvalid.1 rfl
    rw [require_ok_iff]
    exact ⟨fun h _ _ _ => h, fun h => h prior hprior hjson⟩

theorem checkStageOrder_iff (htracks : scan.Tracks) :
    checkStageOrder scan current = .ok () ↔ ∀ prior ∈ scan.prepared,
      prior.realized.stage.rank ≤ current.realized.stage.rank := by
  unfold checkStageOrder
  split
  · rename_i hnone
    refine iff_of_true rfl fun prior hprior => ?_
    obtain ⟨f, hf, -⟩ := htracks.furthest prior hprior
    rw [hnone] at hf
    cases hf
  · rename_i found hfound
    rw [require_ok_iff]
    constructor
    · intro h prior hprior
      obtain ⟨f, hf, hle⟩ := htracks.furthest prior hprior
      rw [hfound] at hf
      cases hf
      exact hle.trans h
    · exact fun h => h found (htracks.furthest_mem found hfound)

theorem checkSignatureAction_iff (htracks : scan.Tracks) :
    checkSignatureAction scan current = .ok () ↔ ∀ prior ∈ scan.prepared,
      prior.registration.signatureHeaderAction ≠ .none →
        current.registration.signatureHeaderAction = .none := by
  have haction := htracks.action
  unfold checkSignatureAction
  split
  · rename_i hnone
    rw [hnone] at haction
    refine iff_of_true rfl fun prior hprior hne => ?_
    exact absurd (haction.2 ⟨prior, hprior, hne⟩) (by simp)
  · rename_i found hfound
    rw [hfound] at haction
    obtain ⟨prior, hprior, hne⟩ := haction.1 rfl
    rw [require_ok_iff]
    exact ⟨fun h _ _ _ => h, fun h => h prior hprior hne⟩

/-- A turn of the loop goes on exactly when the mutation is registered, allowed, and compatible
with all the mutations before it. -/
theorem MutationPipeline.scanRealized_iff (htracks : scan.Tracks) {realized : RealizedMutation}
    {registration : MutationRegistration σ} :
    (∃ claims, scan.Passes p mediaType snapshot ⟨realized, registration⟩ claims) ↔
      p.registry.registration realized = .ok registration ∧
      PreparedMutation.Allowed mediaType snapshot ⟨realized, registration⟩ ∧
      ∀ prior ∈ scan.prepared, prior.Compatible ⟨realized, registration⟩ := by
  have hfree : (∃ claims, runAll (claimHeader ⟨realized, registration⟩) scan.headerClaims
      registration.staticTargets = .ok claims) ↔ ∀ prior ∈ scan.prepared,
        ∀ name ∈ registration.staticTargets, name ∉ prior.registration.staticTargets := by
    rw [claimHeaders_ok_iff registration.targets_nodup]
    constructor
    · intro h prior hprior name hname hclaimed
      have hsome := (htracks.claims name).2 ⟨prior, hprior, hclaimed⟩
      rw [h name hname] at hsome
      cases hsome
    · intro h name hname
      cases hlookup : scan.headerClaims.lookup name with
      | none => rfl
      | some found =>
        obtain ⟨prior, hprior, hclaimed⟩ := (htracks.claims name).1 (by rw [hlookup]; rfl)
        exact absurd hclaimed (h prior hprior name hname)
  constructor
  · rintro ⟨claims, hpass⟩
    obtain ⟨_, howned, heffects⟩ := bind_ok hpass.headerEffects
    obtain ⟨_, hremoved, heffects⟩ := bind_ok heffects
    have hheaders := hfree.1 ⟨claims, heffects⟩
    refine ⟨hpass.registered, ⟨require_ok hpass.jsonMediaType, require_ok hpass.signerSelected,
      require_ok howned, require_ok hremoved⟩, fun prior hprior => ?_⟩
    exact ⟨(checkAfterInvalidJson_iff htracks).1 hpass.afterInvalidJson prior hprior,
      (checkStageOrder_iff htracks).1 hpass.stageOrder prior hprior, hheaders prior hprior,
      (checkSignatureAction_iff htracks).1 hpass.signatureAction prior hprior⟩
  · rintro ⟨hregistered, hallowed, hcompatible⟩
    obtain ⟨claims, hclaims⟩ := hfree.2 fun prior hprior => (hcompatible prior hprior).headers
    exact ⟨claims, hregistered,
      (checkAfterInvalidJson_iff htracks).2 fun prior hprior => (hcompatible prior hprior).json,
      (checkStageOrder_iff htracks).2 fun prior hprior => (hcompatible prior hprior).order,
      require_of hallowed.json, require_of hallowed.signer,
      bind_of (require_of hallowed.owned) (bind_of (require_of hallowed.removed) hclaims),
      (checkSignatureAction_iff htracks).2 fun prior hprior => (hcompatible prior hprior).action⟩

theorem PreflightScan.Passes.tracks (htracks : scan.Tracks)
    (h : scan.Passes p mediaType snapshot current claims) : (scan.next current claims).Tracks := by
  obtain ⟨_, -, heffects⟩ := bind_ok h.headerEffects
  obtain ⟨_, -, heffects⟩ := bind_ok heffects
  exact htracks.next heffects

end Steps

section Runs

variable {mutations : List RealizedMutation} {prepared : List (PreparedMutation σ)}

/-- Mutations that the preflight takes together. -/
structure TakenTogether (p : MutationPipeline σ) (mediaType : String)
    (snapshot : Option SignerSnapshot) (prepared : List (PreparedMutation σ)) : Prop where
  registered : ∀ m ∈ prepared, p.registry.registration m.realized = .ok m.registration
  allowed : ∀ m ∈ prepared, m.Allowed mediaType snapshot
  compatible : prepared.Pairwise PreparedMutation.Compatible

theorem TakenTogether.nil : TakenTogether p mediaType snapshot [] where
  registered := fun _ hm => absurd hm List.not_mem_nil
  allowed := fun _ hm => absurd hm List.not_mem_nil
  compatible := .nil

theorem MutationPipeline.scanAll_ok (htracks : scan.Tracks)
    (h : runAll (p.scanRealized mediaType snapshot) scan mutations = .ok after) :
    ∃ prepared, prepared.map PreparedMutation.realized = mutations ∧
      after.prepared = scan.prepared ++ prepared ∧ TakenTogether p mediaType snapshot prepared ∧
      (∀ prior ∈ scan.prepared, ∀ m ∈ prepared, prior.Compatible m) ∧ after.Tracks := by
  induction mutations generalizing scan with
  | nil =>
    cases h
    exact ⟨[], rfl, (List.append_nil _).symm, .nil, fun _ _ _ hm => absurd hm List.not_mem_nil,
      htracks⟩
  | cons realized mutations ih =>
    obtain ⟨middle, hstep, h⟩ := bind_ok h
    obtain ⟨registration, claims, hpass, rfl⟩ := scanRealized_ok_iff.1 hstep
    obtain ⟨prepared, hrealized, hprepared, haccepted, hprior, hafter⟩ := ih (hpass.tracks htracks) h
    obtain ⟨hregistered, hallowed, hcompatible⟩ := (scanRealized_iff htracks).1 ⟨claims, hpass⟩
    have hfirst : ∀ prior ∈ scan.prepared ++ [⟨realized, registration⟩], ∀ m ∈ prepared,
        prior.Compatible m := hprior
    refine ⟨⟨realized, registration⟩ :: prepared, congrArg (realized :: ·) hrealized, ?_, ?_, ?_,
      hafter⟩
    · rw [hprepared]
      simp [PreflightScan.next]
    · exact ⟨List.forall_mem_cons.2 ⟨hregistered, haccepted.registered⟩,
        List.forall_mem_cons.2 ⟨hallowed, haccepted.allowed⟩,
        List.pairwise_cons.2 ⟨hfirst _ (by simp), haccepted.compatible⟩⟩
    · intro prior hmem
      exact List.forall_mem_cons.2 ⟨hcompatible prior hmem,
        hfirst prior (List.mem_append_left _ hmem)⟩

theorem MutationPipeline.scanAll_of (htracks : scan.Tracks)
    (haccepted : TakenTogether p mediaType snapshot prepared)
    (hprior : ∀ prior ∈ scan.prepared, ∀ m ∈ prepared, prior.Compatible m) :
    ∃ after, runAll (p.scanRealized mediaType snapshot) scan
        (prepared.map PreparedMutation.realized) = .ok after ∧
      after.prepared = scan.prepared ++ prepared ∧ after.Tracks := by
  induction prepared generalizing scan with
  | nil => exact ⟨scan, rfl, (List.append_nil _).symm, htracks⟩
  | cons m prepared ih =>
    obtain ⟨hregistered, hregistered'⟩ := List.forall_mem_cons.1 haccepted.registered
    obtain ⟨hallowed, hallowed'⟩ := List.forall_mem_cons.1 haccepted.allowed
    obtain ⟨hcompatible, hcompatible'⟩ := List.pairwise_cons.1 haccepted.compatible
    obtain ⟨claims, hpass⟩ := (scanRealized_iff htracks).2 ⟨hregistered, hallowed,
      fun prior hmem => hprior prior hmem m List.mem_cons_self⟩
    obtain ⟨after, hrun, hprepared, hafter⟩ := ih (hpass.tracks htracks)
      ⟨hregistered', hallowed', hcompatible'⟩ (by
        intro prior hmem n hn
        obtain hmem | hmem := List.mem_append.1 hmem
        · exact hprior prior hmem n (List.mem_cons_of_mem m hn)
        · cases List.mem_singleton.1 hmem
          exact hcompatible n hn)
    refine ⟨after, bind_of (scanRealized_ok_iff.2 ⟨_, claims, hpass, rfl⟩) hrun, ?_, hafter⟩
    rw [hprepared]
    simp [PreflightScan.next]

/-- What the preflight asks of a request. -/
structure Preflighted (p : MutationPipeline σ) (request : PipelineRequest σ)
    (result : PreparedPipeline σ) : Prop where
  body : request.body.length ≤ p.limits.maxBodyBytes
  headers : p.boundedHeaders request.headers = .ok ()
  count : request.mutations.length ≤ p.limits.maxMutations
  state : MutationPipeline.seedState request = .ok result.state
  resources : p.validateHeaderResources request.headers = .ok ()
  signer : p.selectSigner request = .ok result.signerSnapshot
  realized : result.mutations.map PreparedMutation.realized = request.mutations
  accepted : TakenTogether p request.mediaType result.signerSnapshot result.mutations
  json : (∃ m ∈ result.mutations, m.registration.requiresValidJson = true) →
    validJson request.body = true

theorem MutationPipeline.preflight_ok_iff {request : PipelineRequest σ}
    {result : PreparedPipeline σ} :
    p.preflight request = .ok result ↔ Preflighted p request result := by
  constructor
  · intro h
    obtain ⟨_, hbody, h⟩ := bind_ok h
    obtain ⟨_, hheaders, h⟩ := bind_ok h
    obtain ⟨_, hcount, h⟩ := bind_ok h
    obtain ⟨state, hseed, h⟩ := bind_ok h
    obtain ⟨_, hresources, h⟩ := bind_ok h
    obtain ⟨found, hselected, h⟩ := bind_ok h
    obtain ⟨scan, hscan, h⟩ := bind_ok h
    obtain ⟨_, hjson, h⟩ := bind_ok h
    cases pure_ok h
    obtain ⟨prepared, hrealized, hprepared, haccepted, -, htracks⟩ :=
      scanAll_ok PreflightScan.tracks_start hscan
    have hsame : scan.prepared = prepared := hprepared
    refine ⟨require_ok hbody, hheaders, require_ok hcount, hseed, hresources, hselected, ?_, ?_, ?_⟩
    · exact hsame ▸ hrealized
    · exact hsame ▸ haccepted
    · exact fun hpresent => require_ok hjson (htracks.structural.2 hpresent)
  · intro h
    obtain ⟨scan, hscan, hprepared, htracks⟩ :=
      scanAll_of PreflightScan.tracks_start h.accepted fun _ hm => absurd hm List.not_mem_nil
    rw [h.realized] at hscan
    have hsame : scan.prepared = result.mutations := hprepared
    refine bind_of (require_of h.body) (bind_of h.headers (bind_of (require_of h.count)
      (bind_of h.state (bind_of h.resources (bind_of h.signer (bind_of hscan (bind_of
        (require_of fun hpresent => ?_) ?_)))))))
    · exact h.json (hsame ▸ htracks.structural.1 hpresent)
    · rw [hsame]
      rfl

end Runs

end WebhookConformance
