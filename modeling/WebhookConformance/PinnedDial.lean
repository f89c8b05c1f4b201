import WebhookConformance.Dialer

/-! What a connection that the pinned dialer returns rests on, whatever the resolver and the
connector do. -/
namespace WebhookConformance

open InternetAddress Checked Program

variable {codec : HostCodec} {seams : Seams} {policy p q : DestinationPolicy}
  {answer : Option CandidateSequence} {authorized : AuthorizedDestination}

section Order

theorem AddressClassification.le_iff {a b : AddressClassification} :
    a.le b ↔ toLex a.key ≤ toLex b.key := by
  rw [← not_lt, Prod.Lex.lt_iff]
  rfl

instance : IsTrans AddressClassification AddressClassification.le where
  trans _ _ _ hab hbc := by
    rw [AddressClassification.le_iff] at hab hbc ⊢
    exact hab.trans hbc

instance : Std.Total AddressClassification.le where
  total a b := by
    rw [AddressClassification.le_iff, AddressClassification.le_iff]
    exact le_total _ _

/-- Of each key one classification remains. -/
theorem exists_lastOfKeys {cs : List AddressClassification} {c : AddressClassification}
    (hc : c ∈ cs) : ∃ d ∈ lastOfKeys cs, c.key = d.key := by
  by_contra hnone
  have hall : ∀ d ∈ lastOfKeys cs, c.key ≠ d.key := by
    intro d hd hkey
    exact hnone ⟨d, hd, hkey⟩
  have htrans : ∀ {x y z : AddressClassification}, x.key ≠ z.key → x.key ≠ y.key ∨ y.key ≠ z.key := by
    intro x y z hxz
    by_cases hxy : x.key = y.key
    · exact Or.inr (hxy ▸ hxz)
    · exact Or.inl hxy
  have hother : ∀ d ∈ cs, c.key ≠ d.key :=
    (List.forall_mem_pwFilter (R := fun a b : AddressClassification => a.key ≠ b.key) htrans c cs).1
      hall
  exact hother c hc rfl

/-- The head of the sorted classifications is one of them and comes before all of them. -/
theorem sorted_head {cs rest : List AddressClassification} {first : AddressClassification}
    (h : (lastOfKeys cs).insertionSort AddressClassification.le = first :: rest) :
    first ∈ cs ∧ ∀ c ∈ cs, first.le c := by
  have hsorted := List.pairwise_insertionSort AddressClassification.le (lastOfKeys cs)
  rw [h, List.pairwise_cons] at hsorted
  have hmem : ∀ d, d ∈ lastOfKeys cs ↔ d ∈ first :: rest := by
    intro d
    rw [← h, List.mem_insertionSort]
  refine ⟨List.pwFilter_subset _ ((hmem first).2 List.mem_cons_self), ?_⟩
  intro c hc
  obtain ⟨d, hd, hkey⟩ := exists_lastOfKeys hc
  have hfirst : first.le d := by
    obtain rfl | hd := List.mem_cons.1 ((hmem d).1 hd)
    · rw [AddressClassification.le_iff]
    · exact hsorted.1 d hd
  rwa [AddressClassification.le_iff, ← hkey, ← AddressClassification.le_iff] at hfirst

end Order

section Authorize

theorem enforceAddressProfile_ok {profile : TargetProfile} {c : AddressClassification}
    (h : enforceAddressProfile profile c = .ok ()) :
    c.addressClass ≠ .blocked ∧ TargetProfile.Accepts c.addressClass profile := by
  obtain ⟨_, hblocked, haccepts⟩ := bind_ok h
  exact ⟨require_ok hblocked, require_ok haccepts⟩

theorem classifyCandidate_ok {candidate : String} {c : AddressClassification}
    (h : classifyCandidate p candidate = .ok c) :
    classifyAddress candidate = .ok c ∧ c.addressClass ≠ .blocked ∧
      TargetProfile.Accepts c.addressClass p.targetProfile := by
  unfold classifyCandidate at h
  split at h
  · cases h
  · next classified hclassified =>
    obtain ⟨_, henforced, h⟩ := bind_ok h
    obtain rfl := pure_ok h
    exact ⟨hclassified, enforceAddressProfile_ok henforced⟩

/-- The materialised candidates are the whole answer. -/
theorem materializeCandidates_ok {answer : CandidateSequence} {values : List String}
    (h : materializeCandidates answer = .ok values) : answer.items = some values := by
  unfold materializeCandidates at h
  split at h
  · cases h
  next declared hdeclared =>
  obtain ⟨_, hbound, h⟩ := bind_ok h
  obtain ⟨-, hbound⟩ := require_ok hbound
  split at h
  · next items final hitems hfinal =>
    obtain ⟨_, hlength, h⟩ := bind_ok h
    obtain ⟨-, hlength⟩ := require_ok hlength
    obtain rfl := pure_ok h
    rw [hitems, List.take_of_length_le]
    rw [List.length_take] at hlength
    omega
  · cases h

/-- Every candidate has been classified and accepted, and the addresses are their sorted set. -/
theorem authorizeResolvedAddresses_ok
    (h : authorizeResolvedAddresses codec p answer = .ok authorized) :
    p.Valid codec ∧ authorized.policy = p ∧
      ∃ values classifications, candidateValues p answer = .ok values ∧
        List.Forall₂ (fun v c => classifyCandidate p v = .ok c) values classifications ∧
        authorized.addresses =
          (lastOfKeys classifications).insertionSort AddressClassification.le := by
  obtain ⟨_, hvalid, h⟩ := bind_ok h
  obtain ⟨values, hvalues, h⟩ := bind_ok h
  obtain ⟨classifications, hclassifications, h⟩ := bind_ok h
  obtain ⟨_, -, h⟩ := bind_ok h
  obtain rfl := pure_ok h
  exact ⟨require_ok hvalid, rfl, values, classifications, hvalues,
    mapM_ok_iff.1 hclassifications, rfl⟩

/-- A policy whose registry entry was not touched is valid only as the one that was minted. -/
theorem DestinationPolicy.Valid.unchanged (hp : p.Valid codec) (hq : q.Valid codec)
    (hminted : q.minted = p.minted) : q = p := by
  obtain ⟨bound, hbound, hdestination, hbinding, -⟩ := hp
  obtain ⟨bound', hbound', hdestination', hbinding', -⟩ := hq
  obtain rfl : bound' = bound := by
    rw [hminted, hbound] at hbound'
    exact Option.some.inj hbound'.symm
  obtain ⟨d, hd, hbind⟩ := Option.map_eq_some_iff.1 hbinding
  obtain ⟨d', hd', hbind'⟩ := Option.map_eq_some_iff.1 hbinding'
  have hfields : d = p.destination.toDestinationFields := by
    rw [hdestination.1] at hd
    exact (Option.some.inj hd).symm
  have hfields' : d' = q.destination.toDestinationFields := by
    rw [hdestination'.1] at hd'
    exact (Option.some.inj hd').symm
  obtain ⟨⟨fields, identity, minted⟩, profile, hosts, ports, path, policyMinted⟩ := p
  obtain ⟨⟨fields', identity', minted'⟩, profile', hosts', ports', path', policyMinted'⟩ := q
  dsimp only at *
  subst hfields hfields' hminted
  cases hbind.trans hbind'.symm
  rw [hd, hd']

end Authorize

section Dial

/-- The addresses that a dial resolves its destination to. -/
def Seams.candidates (seams : Seams) (policy : DestinationPolicy) : Option (List String) :=
  match policy.destination.literalAddress with
  | some literal => some [literal]
  | none =>
    match seams.resolve policy.destination.host policy.destination.port with
    | .returned answer => answer.items
    | _ => none

theorem exitOf_returned {α : Type} {x : Except DialException α} {a : α}
    (h : exitOf x = .returned a) : x = .ok a := by
  cases x with
  | error e => cases h
  | ok b =>
    cases h
    rfl

theorem policyChecked_ok {α : Type} {x : Except DestinationPolicyError α} {a : α}
    (h : policyChecked x = .ok a) : x = .ok a := by
  cases x with
  | error e => cases h
  | ok b =>
    cases h
    rfl

theorem resolveAndAuthorize_returned
    (h : resolveAndAuthorize codec seams policy = .returned authorized) :
    policy.Valid codec ∧ authorized.policy = policy ∧
      ∃ values classifications, seams.candidates policy = some values ∧
        List.Forall₂ (fun v c => classifyCandidate policy v = .ok c) values classifications ∧
        authorized.addresses =
          (lastOfKeys classifications).insertionSort AddressClassification.le := by
  unfold resolveAndAuthorize at h
  split at h
  swap
  · cases h
  next hvalid =>
  refine ⟨hvalid, ?_⟩
  split at h
  · next hliteral =>
    obtain ⟨literal, hliteral⟩ := Option.isSome_iff_exists.1 hliteral
    obtain ⟨-, hpolicy, values, classifications, hvalues, hall, haddresses⟩ :=
      authorizeResolvedAddresses_ok (policyChecked_ok (exitOf_returned h))
    refine ⟨hpolicy, values, classifications, ?_, hall, haddresses⟩
    rw [candidateValues, hliteral] at hvalues
    cases hvalues
    rw [Seams.candidates, hliteral]
  · next hliteral =>
    rw [Option.not_isSome_iff_eq_none] at hliteral
    split at h
    · cases h
    · cases h
    · next answer hanswer =>
      obtain ⟨htampered, hpolicy, values, classifications, hvalues, hall, haddresses⟩ :=
        authorizeResolvedAddresses_ok (policyChecked_ok (exitOf_returned h))
      -- the resolver ran in between, but a policy it had written to would have been refused
      have hsame := hvalid.unchanged htampered (seams.tamper_minted policy)
      rw [hsame] at hpolicy hvalues hall
      refine ⟨hpolicy, values, classifications, ?_, hall, haddresses⟩
      rw [Seams.candidates, hliteral]
      dsimp only
      rw [hanswer]
      exact materializeCandidates_ok hvalues

/-- The plan pins the first authorised address. -/
theorem planConnection_ok {plan : ConnectionPlan}
    (h : planConnection codec seams authorized = .ok plan) :
    ∃ selected rest, authorized.addresses = selected :: rest ∧
      plan.pinnedAddress = selected.normalized ∧ plan.family = selected.version ∧
      plan.port = authorized.policy.destination.port := by
  obtain ⟨_, -, h⟩ := bind_ok h
  split at h
  · cases h
  · next selected rest haddresses =>
    obtain ⟨context, -, h⟩ := bind_ok h
    obtain ⟨_, -, h⟩ := bind_ok h
    obtain rfl := pure_ok h
    exact ⟨selected, rest, haddresses, rfl, rfl, rfl⟩

theorem verifyPeerAndWrap_ok {expected : ConnectionPlan} {stream : ConnectedStream}
    {connection : PinnedConnection} (h : verifyPeerAndWrap expected stream = .ok connection) :
    stream.peer = some ⟨expected.pinnedAddress, expected.port, expected.family⟩ ∧
      connection.plan = { expected with tlsContext := stream.context } ∧
      connection.evidence = ⟨expected.pinnedAddress, expected.family, expected.pinnedAddress,
        expected.family⟩ := by
  unfold verifyPeerAndWrap at h
  split at h
  · cases h
  · next peer hpeer =>
    obtain ⟨_, -, h⟩ := bind_ok h
    obtain ⟨_, hmatch, h⟩ := bind_ok h
    obtain ⟨haddress, hport, hfamily⟩ := require_ok hmatch
    obtain ⟨_, -, h⟩ := bind_ok h
    obtain ⟨_, -, h⟩ := bind_ok h
    obtain rfl := pure_ok h
    refine ⟨?_, rfl, ?_⟩
    · rw [hpeer, ← haddress, ← hport, ← hfamily]
    · rw [haddress, hfamily]

theorem connectAuthorized_returned {connection : PinnedConnection}
    (h : connectAuthorized codec seams authorized = .returned connection) :
    ∃ selected rest plan stream, authorized.addresses = selected :: rest ∧
      plan.pinnedAddress = selected.normalized ∧ plan.family = selected.version ∧
      plan.port = authorized.policy.destination.port ∧
      seams.connect plan = .returned stream ∧
      stream.peer = some ⟨plan.pinnedAddress, plan.port, plan.family⟩ ∧
      connection.plan = { plan with tlsContext := stream.context } ∧
      connection.evidence = ⟨plan.pinnedAddress, plan.family, plan.pinnedAddress, plan.family⟩ := by
  unfold connectAuthorized at h
  split at h
  · cases h
  next plan hplan =>
  obtain ⟨selected, rest, haddresses, hpinned, hfamily, hport⟩ := planConnection_ok hplan
  split at h
  · cases h
  · cases h
  · next stream hstream =>
    obtain ⟨hpeer, hwrapped, hevidence⟩ := verifyPeerAndWrap_ok (exitOf_returned h)
    exact ⟨selected, rest, plan, stream, haddresses, hpinned, hfamily, hport, hstream, hpeer,
      hwrapped, hevidence⟩

/-- A connection that the dialer returns: the gates of the policy held, every address that the
destination resolved to is one that its profile accepts and none of them is forbidden, and the
connector was sent to the first of them in their order, from where its stream comes. -/
theorem dial_returns_pinned {connection : PinnedConnection}
    (h : dial codec seams policy = .returned connection) :
    (∃ bound ∈ policy.minted, policy.Gates bound.publicAuthorization) ∧
      ∃ values classifications, seams.candidates policy = some values ∧
        List.Forall₂ (fun v c => classifyAddress v = .ok c) values classifications ∧
        (∀ v ∈ values, ∃ a, (read v.toList).map Scoped.address = some a ∧ ¬ Forbidden a) ∧
        (∀ c ∈ classifications, TargetProfile.Accepts c.addressClass policy.targetProfile) ∧
        ∃ first ∈ classifications, (∀ c ∈ classifications, first.le c) ∧
          connection.evidence.authorizedAddress = first.normalized ∧
          connection.evidence.peerAddress = first.normalized ∧
          connection.evidence.peerFamily = first.version ∧
          ∃ plan stream, seams.connect plan = .returned stream ∧
            plan.pinnedAddress = first.normalized ∧ plan.port = policy.destination.port ∧
            stream.peer = some ⟨first.normalized, policy.destination.port, first.version⟩ ∧
            connection.plan = { plan with tlsContext := stream.context } := by
  unfold dial at h
  split at h
  · cases h
  · cases h
  next authorized hauthorized =>
  obtain ⟨hvalid, hpolicy, values, classifications, hvalues, hall, haddresses⟩ :=
    resolveAndAuthorize_returned hauthorized
  obtain ⟨selected, rest, plan, stream, hselected, hpinned, hfamily, hport, hstream, hpeer, hplan,
    hevidence⟩ := connectAuthorized_returned h
  rw [hpolicy] at hport
  obtain ⟨bound, hbound, -, -, -, -, -, -, hgates⟩ := hvalid
  obtain ⟨hmem, hfirst⟩ := sorted_head (haddresses.symm.trans hselected)
  refine ⟨⟨bound, hbound, hgates⟩, values, classifications, hvalues, ?_, ?_, ?_, selected, hmem,
    hfirst, ?_, ?_, ?_, plan, stream, hstream, hpinned, hport, ?_, hplan⟩
  · exact hall.imp fun _ _ hc => (classifyCandidate_ok hc).1
  · intro v hv
    obtain ⟨c, -, hc⟩ := exists_of_mem_left hall hv
    obtain ⟨hclassified, hblocked, -⟩ := classifyCandidate_ok hc
    obtain ⟨a, hread, hforbidden, -⟩ := classifyAddress_permitted hclassified hblocked
    exact ⟨a, hread, hforbidden⟩
  · intro c hc
    obtain ⟨v, -, hv⟩ := exists_of_mem_right hall hc
    exact (classifyCandidate_ok hv).2.2
  · rw [hevidence, hpinned]
  · rw [hevidence, hpinned]
  · rw [hevidence, hfamily]
  · rw [hpeer, hpinned, hport, hfamily]

/-- The host codec on ASCII names. -/
def asciiCodec : HostCodec where
  nfc s := s
  lower s := s
  encode s := some s
  decode s := some s

def receiverFields : DestinationFields where
  scheme := "http"
  host := "receiver.test"
  port := 8080
  path := "/hook"
  query := ""
  literalAddress := none

def receiverPolicy : DestinationPolicy where
  destination := ⟨receiverFields, 1, some receiverFields⟩
  targetProfile := .privateAllowlist
  allowedHosts := ["receiver.test"]
  allowedPorts := [8080]
  publicChallengePath := "/challenge"
  minted := some ⟨1, receiverFields, .privateAllowlist, ["receiver.test"], [8080], "/challenge", none⟩

/-- A resolver with the given answer and a connector that connects where it is sent. -/
def answering (addresses : List String) : Seams where
  resolve _ _ := .returned ⟨some addresses.length, some addresses, some addresses.length⟩
  tamper p := p
  createTls _ := .returned none
  connect plan := .returned ⟨some ⟨plan.pinnedAddress, plan.port, plan.family⟩, plan, true,
    plan.tlsContext⟩
  tamper_minted _ := rfl

def receiverPlan : ConnectionPlan where
  pinnedAddress := "10.0.0.1"
  port := 8080
  family := .v4
  authorizedAddresses := ["10.0.0.1", "10.0.0.2"]
  hostHeader := "receiver.test:8080"
  tlsServerHostname := none
  tlsContext := none

theorem receiver_dial_pinned :
    dial asciiCodec (answering ["10.0.0.2", "10.0.0.1"]) receiverPolicy =
      .returned ⟨receiverPlan, ⟨"10.0.0.1", .v4, "10.0.0.1", .v4⟩⟩ ∧
    ∃ bound ∈ receiverPolicy.minted, receiverPolicy.Gates bound.publicAuthorization := by
  have hdial : dial asciiCodec (answering ["10.0.0.2", "10.0.0.1"]) receiverPolicy =
      .returned ⟨receiverPlan, ⟨"10.0.0.1", .v4, "10.0.0.1", .v4⟩⟩ := by
    decide +kernel
  exact ⟨hdial, (dial_returns_pinned hdial).1⟩

/-- A metadata address among the answers refuses them all. -/
example : dial asciiCodec (answering ["10.0.0.2", "169.254.169.254"]) receiverPolicy =
    .raised (.policy ⟨.addressBlocked, "destination address is permanently blocked"⟩) := by
  decide +kernel

end Dial

end WebhookConformance
