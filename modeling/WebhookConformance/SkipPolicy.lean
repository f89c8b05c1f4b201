import WebhookConformance.ObserverConfig
import WebhookConformance.Evaluation
import WebhookConformance.Journal

/-! The skip policy of an unsupported assertion: `_compile_assertion` puts it into the manifest,
`_assertion_policy` into the journal, `_unsupported_policy_allows_skip` reads it back, and
`_guard_scenario_pass` decides by it. -/
namespace WebhookConformance

section Dump

def BytesDigestValue.dump (d : BytesDigestValue) : Json :=
  .object ([("sha256", .text d.sha256), ("byte_length", .number d.byteLength)] ++
    d.mediaType.toList.map fun m => ("media_type", .text m))

def TypedValue.dumpValue : TypedValue → Json
  | .null => .null
  | .boolean b => .bool b
  | .integer n => .number n.value
  | .decimalString s _ _ => .text s
  | .string s _ => .text s
  | .bytesDigest d => d.dump
  | .timestamp s _ => .text s
  | .array items _ => .array (items.map CanonicalJson.value)
  | .object v _ _ => v.value

def TypedValue.dump (v : TypedValue) : Json :=
  .object [("value_type", .text v.valueType.value), ("value", v.dumpValue)]

def ConfigObserverQuery.dump (q : ConfigObserverQuery) : Json :=
  .object [("observer", .text q.observer.text), ("key", .text q.key),
    ("parameters", q.parameters.value)]

/-- The pointer of a comparison and its missing policy, which is dumped only next to a pointer. -/
def dumpPointer (path : Option JsonPointer) (missing : MissingPointer) : List (String × Json) :=
  match path with
  | none => []
  | some p => [("path", .text p.text), ("missing_pointer", .text missing.value)]

def Predicate.dump (p : Predicate) : Json :=
  .object ([("name", .text p.name.text), ("query", p.query.dump),
    ("comparator", .text p.comparator.value), ("expected", p.expected.dump)] ++
    dumpPointer p.path p.missingPointer)

def CountKind.type : CountKind → String
  | .processing => "processing-count"
  | .callback => "callback-count"
  | .journal => "journal-count"

def ExistenceKind.type : ExistenceKind → String
  | .present => "resource-exists"
  | .absent => "resource-absent"

def ObserverCheck.type : ObserverCheck → String
  | .count kind _ _ _ => kind.type
  | .existence kind _ => kind.type
  | .resourceField _ _ _ _ _ => "resource-field"
  | .eventualState _ _ _ _ _ => "eventual-state"
  | .orderedTransition _ _ _ _ _ => "ordered-transition"
  | .noPartialSideEffect _ _ _ => "no-partial-side-effect"

/-- The members that only this kind of assertion has. -/
def ObserverCheck.dump : ObserverCheck → List (String × Json)
  | .count _ query comparator expected =>
    [("query", query.dump), ("comparator", .text comparator.value),
     ("expected", .number expected.value)]
  | .existence _ query => [("query", query.dump)]
  | .resourceField query path comparator expected missing =>
    [("query", query.dump), ("comparator", .text comparator.value), ("expected", expected.dump)] ++
      dumpPointer (some path) missing
  | .eventualState query path comparator expected missing =>
    [("query", query.dump), ("comparator", .text comparator.value), ("expected", expected.dump)] ++
      dumpPointer path missing
  | .orderedTransition query states allowIntermediate _ _ =>
    [("query", query.dump), ("states", .array (states.map .text)),
     ("allow_intermediate", .bool allowIntermediate)]
  | .noPartialSideEffect predicates _ _ => [("predicates", .array (predicates.map Predicate.dump))]

def Polling.dump (p : Polling) : List (String × Json) :=
  [("within", .text p.within.text), ("poll_interval", .text p.pollInterval.text)]

def ObserverAssertion.dump (a : ObserverAssertion) : List (String × Json) :=
  [("id", .text a.id.text), ("on_unsupported", .text a.onUnsupported.value)] ++
    (a.polling.map Polling.dump).getD [] ++ a.check.dump

def HttpStatusClass.value : HttpStatusClass → String
  | .success => "2xx"
  | .redirection => "3xx"
  | .clientError => "4xx"
  | .serverError => "5xx"

def AttemptMode.value : AttemptMode → String
  | .allTerminal => "all-terminal"
  | .lastTerminal => "last-terminal"

def AttemptSelector.dump (selector : AttemptSelector) : Json :=
  .object [("event", .text selector.event), ("mode", .text selector.mode.value)]

/-- An absent selector list is an empty one here; a present one has at least one value. -/
def StatusExpectation.dump (expected : StatusExpectation) : Json :=
  .object
    ((if expected.codes = [] then []
      else [("codes", .array (expected.codes.map fun code => .number code))]) ++
     (if expected.classes = [] then []
      else [("classes", .array (expected.classes.map fun c => .text c.value))]))

end Dump

/-- One assertion of a scenario's configuration. -/
inductive ScenarioAssertion where
  | httpStatus (id : ProfileName) (expected : StatusExpectation) (attempt : AttemptSelector)
  | acknowledgementDeadline (id : ProfileName) (within : WireDuration) (attempt : AttemptSelector)
      (within_pos : 1 ≤ within.nanoseconds)
  | observer (assertion : ObserverAssertion)

/-- What the evaluation loop reads of it. -/
def ScenarioAssertion.config : ScenarioAssertion → AssertionConfig
  | .httpStatus _ expected attempt => .httpStatus expected attempt
  | .acknowledgementDeadline _ within attempt _ =>
    .acknowledgementDeadline ⟨within.nanoseconds, within.le_max⟩ attempt
  | .observer _ => .observer

def ScenarioAssertion.type : ScenarioAssertion → String
  | .httpStatus _ _ _ => "http-status"
  | .acknowledgementDeadline _ _ _ _ => "acknowledgement-deadline"
  | .observer assertion => assertion.check.type

/-- `model_dump(mode="json", exclude_none=True)` without the tag. -/
def ScenarioAssertion.dump : ScenarioAssertion → List (String × Json)
  | .httpStatus id expected attempt =>
    [("id", .text id.text), ("attempt", attempt.dump), ("expected", expected.dump)]
  | .acknowledgementDeadline id within attempt _ =>
    [("id", .text id.text), ("attempt", attempt.dump), ("within", .text within.text)]
  | .observer assertion => assertion.dump

/-- The policy for an unavailable observer; transport assertions have none. -/
def ScenarioAssertion.onUnsupported : ScenarioAssertion → Option OnUnsupported
  | .observer assertion => some assertion.onUnsupported
  | _ => none

structure AssertionPlan where
  assertionId : String
  type : String
  observer : Option String
  parameters : Option (List (String × Json))
  deriving DecidableEq

/-- A string member of a dumped model. -/
def textMember (members : List (String × Json)) (key : String) : Option String :=
  match members.lookup key with
  | some (.text s) => some s
  | _ => none

/-- `_compile_assertion`: everything but the tag and a top-level observer goes into the
parameters, the policy included. -/
def compileAssertion (assertionId : String) (assertion : ScenarioAssertion) :
    Except String AssertionPlan := do
  let parameters := assertion.dump.filter fun m => m.1 ≠ "observer"
  parameters.forM fun m => freezeCanonicalJson m.2
  return {
    assertionId
    type := assertion.type
    observer := textMember assertion.dump "observer"
    parameters := if parameters = [] then none else some parameters }

/-- The style of `json.dumps` with `ensure_ascii` and compact separators. -/
def compactAscii : Json.Style := ⟨true, none⟩

/-- `_assertion_policy`. -/
def assertionPolicy (plan : AssertionPlan) : Option (List Char) :=
  let policy := plan.observer.toList.map (fun o => ("observer", Json.text o)) ++
    plan.parameters.toList.map fun p => ("parameters", Json.object p)
  if policy = [] then none
  else some (((Json.object policy).sortKeys (· ≤ ·)).write compactAscii 0)

def maxConditionBytes : Nat := 1048576

def maxPolicyJsonDepth : Nat := 64

def policyError (message : String) : JournalError := ⟨.projectionIntegrity, message⟩

/-- `_require_bounded_json_depth`; its loop has no bound on the number of values. -/
def requireBoundedJsonDepth (v : Json) : Except JournalError Unit :=
  Json.walk (fun _ depth =>
      if depth > maxPolicyJsonDepth then
        .error (policyError "assertion policy_json exceeds the nesting boundary")
      else .ok ())
    (policyError "") List.reverse v.nodes [(v, 1)]

/-- `_unsupported_policy_allows_skip`: the member is looked for at the top level. -/
def unsupportedPolicyAllowsSkip : Option (List Char) → Except JournalError Bool
  | none => .ok false
  | some text =>
    if text.length > maxConditionBytes then
      .error (policyError "assertion policy_json exceeds its schema boundary")
    else
      match Json.read text with
      | none => .error (policyError "assertion policy_json is malformed")
      | some decoded =>
        if decoded.uniqueKeys = false then
          .error (policyError "assertion policy_json is malformed")
        else
          match decoded with
          | .object members => do
            requireBoundedJsonDepth decoded
            return members.lookup "on_unsupported" = some (.text "skip")
          | _ => .error (policyError "assertion policy_json is not an object")

/-- One required row under `_guard_scenario_pass`. -/
def guardAssertionRow (row : AssertionState × Option (List Char)) : Except JournalError Unit := do
  if row.1 ≠ .passed then
    if row.1 = .unsupported then
      if ← unsupportedPolicyAllowsSkip row.2 then
        return
    throw (illegal "scenario pass requires every required assertion to pass or explicitly skip")

/-- `_guard_scenario_pass` over the state and the stored policy of each required assertion. -/
def guardScenarioPassRows (rows : List (AssertionState × Option (List Char))) :
    Except JournalError Unit :=
  rows.forM guardAssertionRow

section Policy

variable {assertionId : String} {assertion : ScenarioAssertion} {plan : AssertionPlan}

/-- A canonical value has integers only. -/
theorem freezeCanonicalJson_integral {v : Json} (h : freezeCanonicalJson v = .ok ()) :
    v.integral = true := by
  obtain ⟨-, hnodes⟩ := (Json.walk_ok_iff fun _ => List.Perm.refl _).mp h
  refine Json.integral_of_within (d := 1) fun w e hw literal hfloat => ?_
  have hcheck := hnodes (v, 1) (List.mem_singleton.mpr rfl) w e hw
  rw [hfloat, checkCanonicalNode] at hcheck
  split at hcheck <;> cases hcheck

theorem compileAssertion_integral (h : compileAssertion assertionId assertion = .ok plan) :
    ∀ parameters ∈ plan.parameters, (Json.object parameters).integral = true := by
  obtain ⟨u, hfrozen, h⟩ := Checked.bind_ok h
  cases h
  intro parameters hmem
  rw [Option.mem_def, Option.ite_none_left_eq_some] at hmem
  cases hmem.2
  rw [Json.integral_object]
  exact fun m hm => freezeCanonicalJson_integral (Checked.forM_ok_iff.mp hfrozen m hm)

/-- The stored policy has the members `observer` and `parameters` only. -/
theorem assertionPolicy_keys (h : compileAssertion assertionId assertion = .ok plan)
    {text : List Char} (htext : assertionPolicy plan = some text) :
    ∃ members, Json.read text = some (.object members) ∧
      ∀ m ∈ members, m.1 = "observer" ∨ m.1 = "parameters" := by
  obtain ⟨policy, hpolicy⟩ : ∃ policy, policy =
      plan.observer.toList.map (fun o => ("observer", Json.text o)) ++
        plan.parameters.toList.map fun p => ("parameters", Json.object p) := ⟨_, rfl⟩
  have hmem : ∀ m ∈ policy, (m.1 = "observer" ∨ m.1 = "parameters") ∧ m.2.integral = true := by
    intro m hm
    rw [hpolicy, List.mem_append, List.mem_map, List.mem_map] at hm
    rcases hm with ⟨o, -, rfl⟩ | ⟨p, hp, rfl⟩
    · exact ⟨Or.inl rfl, rfl⟩
    · exact ⟨Or.inr rfl, compileAssertion_integral h p (by simpa using hp)⟩
  have hwritten : ((Json.object policy).sortKeys (· ≤ ·)).write compactAscii 0 = text := by
    unfold assertionPolicy at htext
    dsimp only at htext
    rw [← hpolicy, Option.ite_none_left_eq_some] at htext
    exact Option.some.inj htext.2
  have hintegral : ((Json.object policy).sortKeys (· ≤ ·)).integral = true := by
    rw [Json.sortKeys_integral, Json.integral_object]
    exact fun m hm => (hmem m hm).2
  have hread := @Json.read_write _ compactAscii 0 hintegral [] nofun
  rw [List.append_nil, hwritten, Json.sortKeys_object] at hread
  refine ⟨_, hread, ?_⟩
  intro m hm
  rw [List.mem_insertionSort, List.mem_map] at hm
  obtain ⟨m, hm, rfl⟩ := hm
  exact (hmem m hm).1

/-- The row that bootstrap writes never lets an unsupported assertion pass. -/
theorem assertionPolicy_never_skips (h : compileAssertion assertionId assertion = .ok plan) :
    unsupportedPolicyAllowsSkip (assertionPolicy plan) ≠ .ok true := by
  cases htext : assertionPolicy plan with
  | none => simp [unsupportedPolicyAllowsSkip]
  | some text =>
    obtain ⟨members, hread, hkeys⟩ := assertionPolicy_keys h htext
    have hlookup : members.lookup "on_unsupported" = none := by
      rw [List.lookup_eq_none_iff]
      intro m hm
      rcases hkeys m hm with hkey | hkey <;> simp [hkey]
    intro hallowed
    simp only [unsupportedPolicyAllowsSkip, hread] at hallowed
    split at hallowed
    · cases hallowed
    · split at hallowed
      · cases hallowed
      · obtain ⟨-, -, hskip⟩ := Checked.bind_ok hallowed
        simp [hlookup, pure, Except.pure] at hskip

end Policy

/-- An assertion of a scenario: its configuration, the plan compiled from it, and what the
evaluation loop reads. -/
structure PlannedAssertion where
  configured : ScenarioAssertion
  plan : AssertionPlan
  compiled : compileAssertion plan.assertionId configured = .ok plan
  reads : AssertionCase
  config_eq : reads.config = configured.config

/-- The outcome of an assertion after its evaluation: the category and the state. -/
abbrev Outcome := ResultCategory × AssertionState

/-- The required rows of a scenario in the journal, with the states the evaluation left. -/
def assertionRows (outcomes : List (PlannedAssertion × Outcome)) :
    List (AssertionState × Option (List Char)) :=
  outcomes.map fun x => (x.2.2, assertionPolicy x.1.plan)

/-- An assertion passed, or its observer lacks a capability and the configuration says skip. -/
def PassedOrSkipped (x : PlannedAssertion × Outcome) : Prop :=
  x.2.1 = .pass ∨ x.2.2 = .unsupported ∧ x.1.configured.onUnsupported = some .skip

section Scenario

variable {resume : Bool} {verdicts : List (String × TerminalVerdict)}
  {attempts : List PersistedAttempt} {s : ScenarioCase}
  {outcomes : List (PlannedAssertion × Outcome)}

theorem guardAssertionRow_iff (p : PlannedAssertion) (state : AssertionState) :
    guardAssertionRow (state, assertionPolicy p.plan) = .ok () ↔ state = .passed := by
  have hnever := assertionPolicy_never_skips p.compiled
  constructor
  · intro h
    by_contra hstate
    simp only [guardAssertionRow, hstate, ne_eq, not_false_eq_true, if_true] at h
    split at h
    · obtain ⟨allowed, hallowed, h⟩ := Checked.bind_ok h
      cases allowed with
      | false => cases h
      | true => exact hnever hallowed
    · cases h
  · rintro rfl
    rfl

/-- On the rows of bootstrap the guard accepts nothing but passed assertions. -/
theorem guardScenarioPassRows_iff :
    guardScenarioPassRows (assertionRows outcomes) = .ok () ↔ ∀ x ∈ outcomes, x.2.2 = .passed := by
  rw [guardScenarioPassRows, Checked.forM_ok_iff, assertionRows, List.forall_mem_map]
  exact forall₂_congr fun x _ => guardAssertionRow_iff x.1 x.2.2

/-- A scenario whose result is `PASS` has no assertion of another category. -/
theorem evaluateScenario_pass {committed : Option ScenarioState} {evaluated : List Outcome}
    (h : evaluateScenario resume verdicts attempts s =
      .ok (⟨s.scenarioId, .pass, .passed⟩, committed))
    (hev : s.assertions.mapM (evaluateAssertion resume s.events attempts) = .ok evaluated) :
    ∀ e ∈ evaluated, e.1 = .pass := by
  obtain ⟨deliveries, hd, h⟩ := Checked.bind_ok h
  dsimp only at h
  split at h
  · split at h
    · cases h
    · split at h <;> cases h
  · obtain ⟨same, hsame, h⟩ := Checked.bind_ok h
    rw [hev] at hsame
    cases hsame
    obtain ⟨verdict, hverdict, h⟩ := Checked.bind_ok h
    have hpass : verdict.category = .pass := by
      split at h
      · obtain ⟨state, -, h⟩ := Checked.bind_ok h
        exact congrArg (fun r => r.1.resultCategory) (Checked.pure_ok h)
      · split at h
        · cases h
        · exact congrArg (fun r => r.1.resultCategory) (Checked.pure_ok h)
    intro e he
    exact (reduceTerminalVerdicts_pass_iff hverdict).mp hpass e.1
      (List.mem_append_right _ (List.mem_map_of_mem he))

/-- With satisfied deliveries and assertions that each passed or are skipped by configuration,
the guard accepts the scenario's rows and the run commits it as passed exactly when no assertion
is unsupported: the stored policy is never read as a skip, and the reduction counts a skipped
assertion as `UNSUPPORTED`. -/
theorem skippable_scenario_passed_iff (hcur : s.current = .running) (hne : s.deliveries ≠ [])
    (hdel : ∀ d ∈ s.deliveries, deliveryCategory verdicts d = .ok .pass)
    (hcases : s.assertions = outcomes.map fun x => x.1.reads)
    (hev : s.assertions.mapM (evaluateAssertion resume s.events attempts) =
      .ok (outcomes.map Prod.snd))
    (hallowed : ∀ x ∈ outcomes, PassedOrSkipped x) :
    (guardScenarioPassRows (assertionRows outcomes) = .ok () ∧
      evaluateScenario resume verdicts attempts s =
        .ok (⟨s.scenarioId, .pass, .passed⟩, some .passed)) ↔
      ∀ x ∈ outcomes, x.2.2 ≠ .unsupported := by
  have hevals : ∀ x ∈ outcomes, evaluateAssertion resume s.events attempts x.1.reads = .ok x.2 := by
    have hpairs := Checked.mapM_ok_iff.mp hev
    rw [hcases, List.forall₂_map_left_iff, List.forall₂_map_right_iff, List.forall₂_same] at hpairs
    exact hpairs
  have hpassed : ∀ x ∈ outcomes, x.2.1 = .pass → x.2.2 = .passed := by
    intro x hx hpass
    have hx := hevals x hx
    rw [show x.2 = (.pass, x.2.2) from Prod.ext hpass rfl] at hx
    exact evaluateAssertion_pass hx
  constructor
  · rintro ⟨-, hcommitted⟩ x hx hunsupported
    have hpass := evaluateScenario_pass hcommitted hev x.2 (List.mem_map_of_mem hx)
    rw [hpassed x hx hpass] at hunsupported
    cases hunsupported
  · intro hnone
    have hpass : ∀ x ∈ outcomes, x.2.1 = .pass := fun x hx =>
      (hallowed x hx).resolve_right fun h => hnone x hx h.1
    refine ⟨guardScenarioPassRows_iff.mpr fun x hx => hpassed x hx (hpass x hx), ?_⟩
    obtain ⟨categories, hcategories⟩ := Checked.mapM_exists fun d hd => ⟨_, hdel d hd⟩
    have hall : ∀ category ∈ categories, category = .pass := by
      intro category hm
      obtain ⟨d, hd, hdc⟩ := Checked.exists_of_mem_right (Checked.mapM_ok_iff.mp hcategories) hm
      rw [hdel d hd] at hdc
      exact (Except.ok.inj hdc).symm
    have hcne : categories ≠ [] := by
      rintro rfl
      exact hne (List.forall₂_nil_right_iff.mp (Checked.mapM_ok_iff.mp hcategories))
    have hamb : ResultCategory.ambiguous ∉ categories := by
      intro hm
      cases hall _ hm
    refine (evaluateScenario_pass_iff hcategories hcne hamb hcur ?_).mpr hall
    intro c hc
    rw [hcases] at hc
    obtain ⟨x, hx, rfl⟩ := List.mem_map.mp hc
    refine ⟨x.2.2, ?_⟩
    rw [hevals x hx, ← hpass x hx]

end Scenario

section Skip

def storeName : ProfileName := ⟨"store", by decide⟩

def ordersQuery : ConfigObserverQuery where
  observer := storeName
  key := "orders"
  parameters := ⟨.object [], by decide +kernel, by decide⟩
  members := []
  key_length := by decide
  parameters_object := rfl
  parameters_le := by decide

def oneOrder : SafeInteger := ⟨1, by decide⟩

/-- One order is expected, and the assertion is skipped when the observer cannot count. -/
def optionalCount : ObserverAssertion where
  id := ⟨"processed", by decide⟩
  onUnsupported := .skip
  polling := none
  check := .count .processing ordersQuery .eq oneOrder
  polling_required := by decide

def optionalCountPlan : AssertionPlan where
  assertionId := "assertion"
  type := "processing-count"
  observer := none
  parameters := some [("id", .text "processed"), ("on_unsupported", .text "skip"),
    ("query", ordersQuery.dump), ("comparator", .text "eq"), ("expected", .number 1)]

/-- The fresh assertion, given what its observer's lifecycle call persists. -/
def optionalCountReads (observed : Except String LifecycleResult) : AssertionCase :=
  ⟨"assertion", .observer, .pending, none, [], none, observed⟩

def optionalCountPlanned (observed : Except String LifecycleResult) : PlannedAssertion :=
  ⟨.observer optionalCount, optionalCountPlan, by decide +kernel, optionalCountReads observed, rfl⟩

/-- One satisfied delivery next to the optional assertion. -/
def optionalScenario (observed : Except String LifecycleResult) : ScenarioCase :=
  ⟨"scenario", ["delivery"], [("event", "event_1")], [optionalCountReads observed], .running⟩

def satisfiedVerdicts : List (String × TerminalVerdict) := [("delivery", terminalVerdict .pass)]

def satisfiedAttempts : List PersistedAttempt := [⟨"attempt", "event_1", some 200, none⟩]

/-- The lifecycle call when the observer lacks the evidence key. -/
def skippedCount : Except String LifecycleResult :=
  lifecycleEvaluateObserver .observer (some true) (some ⟨.observation, "observation"⟩)
    ([], evaluatorException)

def matchedCount : Except String LifecycleResult :=
  lifecycleEvaluateObserver .observer none (some ⟨.observation, "observation"⟩)
    ([⟨.observation, "sample"⟩], normalize .pass "comparison_match" .harness)

theorem matched_count_passed :
    guardScenarioPassRows (assertionRows
        [(optionalCountPlanned matchedCount, (.pass, .passed))]) = .ok () ∧
      evaluateScenario false satisfiedVerdicts satisfiedAttempts (optionalScenario matchedCount) =
        .ok (⟨"scenario", .pass, .passed⟩, some .passed) := by
  refine (skippable_scenario_passed_iff (s := optionalScenario matchedCount) rfl (by decide)
    (by decide) rfl rfl ?_).mpr ?_
  · simp [PassedOrSkipped]
  · simp

/-- The configuration says skip, the observer lacks the capability, and the scenario is committed
as an error; the guard would refuse to commit it as passed. -/
theorem skipped_count_not_passed :
    (optionalCountPlanned skippedCount).configured.onUnsupported = some .skip ∧
      evaluateAssertion false [("event", "event_1")] satisfiedAttempts
        (optionalCountReads skippedCount) = .ok (.unsupported, .unsupported) ∧
      guardScenarioPassRows [(.unsupported, assertionPolicy optionalCountPlan)] =
        .error (illegal
          "scenario pass requires every required assertion to pass or explicitly skip") ∧
      evaluateScenario false satisfiedVerdicts satisfiedAttempts (optionalScenario skippedCount) =
        .ok (⟨"scenario", .unsupported, .error⟩, some .error) := by
  refine ⟨rfl, rfl, ?_, rfl⟩
  decide +kernel

end Skip

end WebhookConformance
