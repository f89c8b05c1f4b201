import WebhookConformance.Attempts
import WebhookConformance.Barriers
import Mathlib.Data.Prod.Lex
import Mathlib.Data.String.Basic

/-! The persistent schedule: its bootstrap (`journal/bootstrap.py`), its order
(`journal/schedules.py`) and the batch loop `_execute_schedules` of `runtime/runner.py`. -/
namespace WebhookConformance

/-- `hashlib.sha256(text.encode()).hexdigest()`: sixty-four lowercase hexadecimal digits. -/
structure Sha256 where
  hexdigest : String → String
  length_eq : ∀ text, (hexdigest text).toList.length = 64
  hex : ∀ text, ∀ c ∈ (hexdigest text).toList, c ∈ "0123456789abcdef".toList

def hexDigits : Nat → Nat → List Char
  | 0, _ => []
  | n + 1, v => hexDigits n (v / 16) ++ ["0123456789abcdef".toList.getD (v % 16) '0']

theorem hexDigits_length (n v : Nat) : (hexDigits n v).length = n := by
  induction n generalizing v with
  | zero => rfl
  | succ n ih => simp [hexDigits, ih]

theorem hexDigits_hex (n v : Nat) : ∀ c ∈ hexDigits n v, c ∈ "0123456789abcdef".toList := by
  have hdigit : ∀ k < 16, "0123456789abcdef".toList.getD k '0' ∈ "0123456789abcdef".toList := by
    decide
  induction n generalizing v with
  | zero => simp [hexDigits]
  | succ n ih =>
    intro c hc
    rcases List.mem_append.mp hc with hc | hc
    · exact ih _ c hc
    · rw [List.mem_singleton.mp hc]
      exact hdigit _ (Nat.mod_lt v (by decide))

def modularSha256 : Sha256 where
  hexdigest text := String.ofList (hexDigits 64 (modularDigest (utf8 text)))
  length_eq _ := by rw [String.toList_ofList, hexDigits_length]
  hex _ := by
    rw [String.toList_ofList]
    exact hexDigits_hex _ _

structure ScheduleEntry where
  scheduleEntryId : String
  scenarioId : String
  logicalDueNs : Int
  scenarioOrdinal : Nat
  stepOrdinal : Nat
  deliveryOrdinal : Nat
  attemptOrdinal : Nat
  deterministicTieKey : String
  predecessorAttemptId : Option String
  attempt_pos : 1 ≤ attemptOrdinal
  deriving DecidableEq

abbrev OrderKey := Int ×ₗ Nat ×ₗ Nat ×ₗ Nat ×ₗ Nat ×ₗ String ×ₗ String

def ScheduleEntry.orderKey (e : ScheduleEntry) : OrderKey :=
  toLex (e.logicalDueNs, toLex (e.scenarioOrdinal, toLex (e.stepOrdinal,
    toLex (e.deliveryOrdinal, toLex (e.attemptOrdinal,
      toLex (e.deterministicTieKey, e.scheduleEntryId))))))

def orderLe (a b : ScheduleEntry) : Prop := a.orderKey ≤ b.orderKey

instance : DecidableRel orderLe := fun a b => inferInstanceAs (Decidable (a.orderKey ≤ b.orderKey))

instance : IsTrans ScheduleEntry orderLe := ⟨fun _ _ _ => le_trans⟩

instance : Std.Total orderLe := ⟨fun a b => le_total a.orderKey b.orderKey⟩

/-- The planned delivery an entry belongs to. -/
def ScheduleEntry.coordinates (e : ScheduleEntry) : Nat × Nat :=
  (e.scenarioOrdinal, e.deliveryOrdinal)

/-- One executed attempt as its lifecycle reports it. -/
structure AttemptRun where
  attemptId : String
  result : AttemptResult
  current : AttemptState
  terminalState : AttemptState
  classification : AttemptClassification
  phase : AttemptPhaseEvidence
  reduced : terminalReduction result current = .ok (terminalState, classification, phase)

/-- Everything outside the schedule that a run depends on. A run executes each attempt ordinal
of a delivery at most once, so the physical outcomes are one attempt for each of them. -/
structure RunEnvironment where
  generator : ContextGenerator
  sha256 : Sha256
  attempt : Nat × Nat → Nat → AttemptRun
  retryableStatus : Nat × Nat → Option (Nat → Bool)
  maxConcurrency : Option Nat
  concurrency_range : 1 ≤ maxConcurrency.getD defaultDeliveryConcurrency ∧
    maxConcurrency.getD defaultDeliveryConcurrency ≤ hardDeliveryConcurrency

inductive ScheduleError where
  | movedBackwards
  | raised (message : String)
  | outOfFuel
  deriving DecidableEq, Repr

section Bootstrap

variable (g : ContextGenerator) (sha : Sha256)

def initialEntryId (scenarioId deliveryId : String) : String :=
  "initial." ++ sha.hexdigest (scenarioId ++ "|" ++ deliveryId ++ "|initial|1")

/-- `_schedule_seed` for one delivery of scenario `scenarioOrdinal`. -/
def scheduleSeed (scenarioOrdinal : Nat) (scenarioId : String) (d : DeliveryPlan) :
    Except String ScheduleEntry :=
  match d.attemptPlan with
  | [] => .error "delivery must contain an initial attempt template"
  | initial :: _ => do
    let attemptPlanId ← plannedId g .attemptPlan [scenarioId, d.deliveryId, "1"]
    return ⟨initialEntryId sha scenarioId d.deliveryId, scenarioId, initial.notBeforeLogicalNs,
      scenarioOrdinal, d.ordinal, d.ordinal, 1, "initial." ++ attemptPlanId, none, le_rfl⟩

def bootstrapScenario (scenarioOrdinal : Nat) (s : ScenarioPlan) :
    Except String (List ScheduleEntry) :=
  if s.deliveries.map DeliveryPlan.ordinal ≠ List.range s.deliveries.length then
    .error "delivery ordinals must be contiguous manifest order"
  else s.deliveries.mapM (scheduleSeed g sha scenarioOrdinal s.scenarioId)

def bootstrapScenarios : Nat → List ScenarioPlan → Except String (List ScheduleEntry)
  | _, [] => .ok []
  | ordinal, s :: rest => do
    let entries ← bootstrapScenario g sha ordinal s
    let later ← bootstrapScenarios (ordinal + 1) rest
    return entries ++ later

def maxBootstrapRows : Nat := 10000

def entityIds (plans : List ScenarioPlan) : List String :=
  plans.flatMap fun s => s.scenarioId :: s.deliveries.map DeliveryPlan.deliveryId

/-- The schedule rows of the bootstrap transaction. -/
def bootstrapSchedule (plans : List ScenarioPlan) : Except String (List ScheduleEntry) := do
  if ¬ (entityIds plans).Nodup then
    throw "manifest entity identifiers must be globally unique"
  let entries ← bootstrapScenarios g sha 0 plans
  if entries.isEmpty then
    throw "bootstrap requires at least one delivery schedule"
  if maxBootstrapRows < plans.length + 2 * entries.length then
    throw "manifest bootstrap exceeds the journal row limit"
  if ¬ (entries.map ScheduleEntry.scheduleEntryId).Nodup then
    throw "initial schedule entry IDs must be unique"
  return entries

variable {g sha}

theorem scheduleSeed_of {n : Nat} {scenarioId entryId planId : String} {d : DeliveryPlan}
    {initial : AttemptTemplate} {later : List AttemptTemplate}
    (hplan : d.attemptPlan = initial :: later)
    (hentry : initialEntryId sha scenarioId d.deliveryId = entryId)
    (hid : plannedId g .attemptPlan [scenarioId, d.deliveryId, "1"] = .ok planId) :
    scheduleSeed g sha n scenarioId d = .ok ⟨entryId, scenarioId, initial.notBeforeLogicalNs, n,
      d.ordinal, d.ordinal, 1, "initial." ++ planId, none, le_rfl⟩ := by
  simp only [scheduleSeed, hplan, hid, hentry, bind, Except.bind, pure, Except.pure]

theorem bootstrapSchedule_of {plans : List ScenarioPlan} {entries : List ScheduleEntry}
    (hids : (entityIds plans).Nodup) (hseeds : bootstrapScenarios g sha 0 plans = .ok entries)
    (hne : entries.isEmpty = false)
    (hrows : plans.length + 2 * entries.length ≤ maxBootstrapRows)
    (hentries : (entries.map ScheduleEntry.scheduleEntryId).Nodup) :
    bootstrapSchedule g sha plans = .ok entries := by
  simp [bootstrapSchedule, hids, hseeds, hne, not_lt.2 hrows, hentries, bind, Except.bind, pure,
    Except.pure]

/-- A delivery with a single attempt. -/
def singleAttempt (group : Option String) (id : String) (due : Int) (ordinal : Nat) :
    DeliveryPlan :=
  ⟨id, due, ordinal, group, [⟨1, due, "blob",
    "sha256:4f53cda18c2baa0c0354bb5f9a3ecbe5ed12ab4d8e11ba873c2f11161202b945", none⟩]⟩

/-- Its schedule row. -/
def singleEntry (scenarioId : String) (due : Int) (scenarioOrdinal ordinal : Nat)
    (digest planId : String) : ScheduleEntry :=
  ⟨"initial." ++ digest, scenarioId, due, scenarioOrdinal, ordinal, ordinal, 1,
    "initial." ++ planId, none, le_rfl⟩

theorem singleEntry_seeded {group : Option String} {scenarioId id digest planId : String}
    {due : Int} {n ordinal : Nat}
    (hentry : initialEntryId sha scenarioId id = "initial." ++ digest)
    (hid : plannedId g .attemptPlan [scenarioId, id, "1"] = .ok planId) :
    scheduleSeed g sha n scenarioId (singleAttempt group id due ordinal) =
      .ok (singleEntry scenarioId due n ordinal digest planId) := by
  have hseed := scheduleSeed_of (n := n) (d := singleAttempt group id due ordinal) rfl hentry hid
  exact hseed

end Bootstrap

section Loop

variable (env : RunEnvironment) (plans : List ScenarioPlan)

def scheduledPlan (e : ScheduleEntry) : Except String (ScenarioPlan × DeliveryPlan) :=
  match plans[e.scenarioOrdinal]? with
  | none => .error "persisted schedule ordinal is outside the manifest"
  | some s =>
    match s.deliveries[e.deliveryOrdinal]? with
    | none => .error "persisted schedule ordinal is outside the manifest"
    | some d =>
      if s.scenarioId ≠ e.scenarioId ∨ d.ordinal ≠ e.deliveryOrdinal then
        .error "persisted schedule coordinates differ from the manifest"
      else if d.attemptPlan.all fun t => t.ordinal ≠ e.attemptOrdinal then
        .error "persisted attempt schedule differs from its attempt plan"
      else .ok (s, d)

/-- The barrier key of an entry: its delivery's group name, and nothing of its scenario. -/
def concurrencyGroup (e : ScheduleEntry) : Except String String := do
  let (_, d) ← scheduledPlan plans e
  return (d.concurrencyGroup.filter (· ≠ "")).getD ("ungrouped." ++ e.scheduleEntryId)

structure AttemptExecution where
  entry : ScheduleEntry
  deliveryId : String
  run : AttemptRun
  decision : RetryDecision

def AttemptExecution.deliveryTerminal (x : AttemptExecution) : Bool := !x.decision.shouldSchedule

def AttemptExecution.verdict (x : AttemptExecution) : TerminalVerdict :=
  classifyAttemptVerdict x.run.classification

def execute (e : ScheduleEntry) : Except String AttemptExecution := do
  let (s, d) ← scheduledPlan plans e
  let run := env.attempt e.coordinates e.attemptOrdinal
  let predecessor := classifiedPredecessor run.attemptId e.attemptOrdinal e.attempt_pos
    e.logicalDueNs run.result run.classification (env.retryableStatus e.coordinates)
  let decision ← evaluateRetry env.generator env.sha256.hexdigest d predecessor s.scenarioId
  return ⟨e, d.deliveryId, run, decision⟩

/-- The schedule row that the terminal transition of a retried attempt inserts. -/
def retryEntry (x : AttemptExecution) : Option ScheduleEntry :=
  match x.decision.scheduleEntryId, x.decision.attemptPlanId, x.decision.logicalDueNs with
  | some entryId, some planId, some due =>
    if x.decision.shouldSchedule then
      some ⟨entryId, x.entry.scenarioId, due, x.entry.scenarioOrdinal, x.entry.stepOrdinal,
        x.entry.deliveryOrdinal, x.entry.attemptOrdinal + 1, "retry." ++ planId,
        some x.run.attemptId, Nat.le_add_left 1 _⟩
    else none
  | _, _, _ => none

/-- One `run_concurrency_groups` call of the loop. -/
structure BarrierCall where
  workIds : List String
  releases : List BarrierRelease
  deriving DecidableEq, Repr

structure LoopState where
  pending : List ScheduleEntry
  logicalNowNs : Int
  calls : List BarrierCall
  attempts : List AttemptExecution
  deliveryVerdicts : List (String × TerminalVerdict)

def batchWork (due : List ScheduleEntry) :
    Except String (List (ConcurrencyWork ScheduleEntry)) :=
  due.zipIdx.mapM fun item => do
    let group ← concurrencyGroup plans item.1
    concurrencyWork item.1.scheduleEntryId group item.2 item.1

def releaseBatch (due : List ScheduleEntry) :
    Except String (List AttemptExecution × List BarrierRelease) := do
  let work ← batchWork plans due
  runConcurrencyGroups work (fun w => execute env plans w.payload) env.maxConcurrency

def recordVerdict (verdicts : List (String × TerminalVerdict)) (x : AttemptExecution) :
    Except String (List (String × TerminalVerdict)) :=
  if x.deliveryTerminal = false then .ok verdicts
  else if x.deliveryId ∈ verdicts.map Prod.fst then
    .error "delivery was reduced more than once"
  else .ok (verdicts ++ [(x.deliveryId, x.verdict)])

/-- `schedules.pending`: the unconsumed rows in their stable order. -/
def orderedPending (st : LoopState) : List ScheduleEntry :=
  st.pending.insertionSort orderLe

/-- One turn of the loop at the first pending entry; everything due with it goes into one
call. -/
def scheduleBatch (st : LoopState) (first : ScheduleEntry) (pending : List ScheduleEntry) :
    Except ScheduleError LoopState :=
  if first.logicalDueNs < st.logicalNowNs then .error .movedBackwards
  else
    let due := pending.filter fun item => item.logicalDueNs = first.logicalDueNs
    match releaseBatch env plans due with
    | .error message => .error (.raised message)
    | .ok (completed, releases) =>
      match Checked.runAll recordVerdict st.deliveryVerdicts completed with
      | .error message => .error (.raised message)
      | .ok verdicts =>
        .ok {
          pending := (pending.filter fun item => item.logicalDueNs ≠ first.logicalDueNs) ++
            completed.filterMap retryEntry
          logicalNowNs := first.logicalDueNs
          calls := st.calls ++ [⟨due.map ScheduleEntry.scheduleEntryId, releases⟩]
          attempts := st.attempts ++ completed
          deliveryVerdicts := verdicts }

def expectedDeliveries : List String :=
  plans.flatMap fun s => s.deliveries.map DeliveryPlan.deliveryId

def scheduleLoop : Nat → LoopState → Except ScheduleError LoopState
  | 0, _ => .error .outOfFuel
  | fuel + 1, st =>
    match orderedPending st with
    | [] =>
      if expectedDeliveries plans ⊆ st.deliveryVerdicts.map Prod.fst ∧
          st.deliveryVerdicts.map Prod.fst ⊆ expectedDeliveries plans then .ok st
      else .error (.raised "schedule drained without every delivery becoming terminal")
    | first :: rest =>
      match scheduleBatch env plans st first (first :: rest) with
      | .error e => .error e
      | .ok next => scheduleLoop fuel next

/-- Every delivery runs each of its templates at most once. -/
def templateCount : Nat :=
  (plans.map fun s => (s.deliveries.map fun d => d.attemptPlan.length).sum).sum

def executeSchedules (entries : List ScheduleEntry) : Except ScheduleError LoopState :=
  scheduleLoop env plans (templateCount plans + 1) ⟨entries, 0, [], [], []⟩

end Loop

/-- A run from the project on: compile, bootstrap, and the schedule loop. -/
def executeProject (env : RunEnvironment) (requestBlob : DeliverAction → String)
    (configs : List ScenarioConfig) : Except ScheduleError (List ScenarioPlan × LoopState) :=
  match compileScenarios env.generator requestBlob 0 configs with
  | .error message => .error (.raised message)
  | .ok plans =>
    match bootstrapSchedule env.generator env.sha256 plans with
    | .error message => .error (.raised message)
    | .ok entries => (executeSchedules env plans entries).map fun final => (plans, final)

theorem executeProject_of {env : RunEnvironment} {requestBlob : DeliverAction → String}
    {configs : List ScenarioConfig} {plans : List ScenarioPlan} {entries : List ScheduleEntry}
    (hcompile : compileScenarios env.generator requestBlob 0 configs = .ok plans)
    (hboot : bootstrapSchedule env.generator env.sha256 plans = .ok entries) :
    executeProject env requestBlob configs =
      (executeSchedules env plans entries).map fun final => (plans, final) := by
  simp only [executeProject, hcompile, hboot]

/-- A complete response with this status. -/
def completeResponse (status : Nat) : AttemptResult where
  outcome := .response
  response := some ⟨status, true⟩
  error := none
  requestBytesMayHaveLeft := true
  notSent_kept := by simp
  unknown_left := by simp
  response_iff := by simp

def respondedRun (status : Nat) : AttemptRun :=
  if h : 200 ≤ status ∧ status ≤ 299 then
    ⟨"attempt", completeResponse status, .awaitingResponse, .succeeded, .receiverAccepted,
      .responseObserved, by simp [terminalReduction, completeResponse, h]⟩
  else
    ⟨"attempt", completeResponse status, .awaitingResponse, .rejected, .receiverRejected,
      .responseObserved, by simp only [terminalReduction, completeResponse]; rw [if_neg h]; simp⟩

/-- A receiver that answers every attempt with this status. -/
def respondingRun (status : Nat) : RunEnvironment where
  generator := modularGenerator
  sha256 := modularSha256
  attempt _ _ := respondedRun status
  retryableStatus _ := none
  maxConcurrency := none
  concurrency_range := by decide

end WebhookConformance
