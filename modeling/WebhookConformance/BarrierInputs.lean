import WebhookConformance.Validation
import WebhookConformance.Recovery

/-! What the runner hands to the barrier: the ids of its schedule rows and the group names of the
project, against the tokens of `scheduler/barriers.py`. -/
namespace WebhookConformance

open Checked

variable {env : RunEnvironment} {plans : List ScenarioPlan} {rows taken due : List ScheduleEntry}
  {e : ScheduleEntry} {s : ScenarioPlan} {d : DeliveryPlan}

section Rows

/-- The row as the pending read returns it. -/
structure ScheduleEntry.ReadFrom (e : ScheduleEntry) (row : ScheduleRow) : Prop where
  id : e.scheduleEntryId = row.scheduleEntryId
  scenario : e.scenarioId = row.scenarioId
  due : e.logicalDueNs = row.logicalTimeNs
  ordinals : (e.scenarioOrdinal, e.stepOrdinal, e.deliveryOrdinal, e.attemptOrdinal) =
    (row.scenarioOrdinal, row.stepOrdinal, row.deliveryOrdinal, row.attemptOrdinal)

/-- The schedule of a run: the rows that wait, and the rows whose attempts were started and have no
successor yet. A started row is followed by its retry or, after a resume, by its redelivery. -/
inductive Backlog (env : RunEnvironment) (plans : List ScenarioPlan) :
    List ScheduleEntry → List ScheduleEntry → Prop
  | bootstrap {entries : List ScheduleEntry}
      (seeded : bootstrapSchedule env.generator env.sha256 plans = .ok entries) :
      Backlog env plans entries []
  | claim {rows taken : List ScheduleEntry} {e : ScheduleEntry}
      (before : Backlog env plans rows taken) (waiting : e ∈ rows) :
      Backlog env plans (rows.erase e) (e :: taken)
  | retry {rows taken : List ScheduleEntry} {x : AttemptExecution} {e row : ScheduleEntry}
      (before : Backlog env plans rows taken) (started : e ∈ taken)
      (executed : execute env plans e = .ok x) (scheduled : retryEntry x = some row) :
      Backlog env plans (row :: rows) (taken.erase e)
  | redeliver {rows taken : List ScheduleEntry} {e row : ScheduleEntry}
      {item : AttemptRecoveryItem} {template : RedeliveryTemplate} {attemptId : String}
      {plan : RedeliveryAttemptPlan} (before : Backlog env plans rows taken) (started : e ∈ taken)
      (fresh : isFreshAttemptId attemptId = true)
      (planned : redeliveryFrom item template attemptId = .ok plan)
      (read : row.ReadFrom plan.schedule) : Backlog env plans (row :: rows) (taken.erase e)
  | reorder {rows rows' taken : List ScheduleEntry} (before : Backlog env plans rows taken)
      (same : rows.Perm rows') : Backlog env plans rows' taken

theorem redeliveryFrom_id {item : AttemptRecoveryItem} {template : RedeliveryTemplate}
    {attemptId : String} {plan : RedeliveryAttemptPlan}
    (h : redeliveryFrom item template attemptId = .ok plan) :
    plan.schedule.scheduleEntryId = "resume.redelivery." ++ attemptId := by
  obtain ⟨_, -, h⟩ := bind_ok h
  split at h
  · cases pure_ok h
    rfl
  · cases h

/-- A run never waits for more rows than it was seeded with. -/
theorem Backlog.length_le (h : Backlog env plans rows taken) :
    rows.length + taken.length ≤ maxGroupItems := by
  induction h with
  | bootstrap seeded =>
    have hrows := (bootstrapSchedule_ok seeded).rows
    simp only [maxBootstrapRows] at hrows
    simp only [maxGroupItems, List.length_nil]
    omega
  | claim before waiting ih =>
    have hpos := List.length_pos_of_mem waiting
    rw [List.length_erase_of_mem waiting, List.length_cons]
    omega
  | retry before started executed scheduled ih =>
    have hpos := List.length_pos_of_mem started
    rw [List.length_erase_of_mem started, List.length_cons]
    omega
  | redeliver before started fresh planned read ih =>
    have hpos := List.length_pos_of_mem started
    rw [List.length_erase_of_mem started, List.length_cons]
    omega
  | reorder before same ih => exact same.length_eq ▸ ih

theorem Backlog.rowIds (h : Backlog env plans rows taken) :
    ∀ e ∈ rows, RowId env.sha256 e.scheduleEntryId := by
  induction h with
  | bootstrap seeded =>
    intro e he
    obtain ⟨s, d, -, hseed⟩ := (bootstrapSchedule_ok seeded).seeds he
    rw [hseed.id]
    exact .initial _ _
  | claim before waiting ih => exact fun e he => ih e (List.mem_of_mem_erase he)
  | retry before started executed scheduled ih =>
    refine List.forall_mem_cons.2 ⟨?_, ih⟩
    obtain ⟨-, -, -, -, -, s, d, t, -, -, -, -, hid⟩ := retryEntry_some executed scheduled
    rw [hid]
    exact .retry _
  | redeliver before started fresh planned read ih =>
    refine List.forall_mem_cons.2 ⟨?_, ih⟩
    rw [read.id, redeliveryFrom_id planned]
    exact .redelivery fresh
  | reorder before same ih => exact fun e he => ih e (same.mem_iff.2 he)

end Rows

section Batches

/-- The messages of `BarrierInputError`. -/
def barrierInputErrors : List String :=
  ["work_id must be a bounded ASCII token", "concurrency_group must be a bounded ASCII token",
   "ordinal must be a nonnegative safe integer", "delivery concurrency must be between 1 and 50",
   "work exceeds the scheduler item limit", "duplicate or conflicting work identity"]

/-- The manifest has the delivery of the row. -/
def isScheduled (plans : List ScenarioPlan) (e : ScheduleEntry) : Bool :=
  (scheduledPlan plans e).isOk

/-- The group of a row's delivery, if it has one, is a token of the barrier. -/
def TokenGroup (plans : List ScenarioPlan) (e : ScheduleEntry) : Prop :=
  ∀ s d name, scheduledPlan plans e = .ok (s, d) → d.concurrencyGroup = some name →
    isToken 128 name = true

theorem scheduledPlan_raises :
    Raises (· ∉ barrierInputErrors) (scheduledPlan plans e) := by
  unfold scheduledPlan
  split
  · exact raises_error.2 (by decide)
  · split
    · exact raises_error.2 (by decide)
    · refine raises_ite (fun _ => raises_error.2 (by decide)) fun _ => ?_
      exact raises_ite (fun _ => raises_error.2 (by decide)) fun _ => raises_ok

/-- One item of the tuple that the runner builds. -/
def workOf (plans : List ScenarioPlan) (item : ScheduleEntry × Nat) :
    Except String (ConcurrencyWork ScheduleEntry) := do
  let group ← concurrencyGroup plans item.1
  concurrencyWork item.1.scheduleEntryId group item.2 item.1

theorem workOf_scheduled {index : Nat} (hplan : scheduledPlan plans e = .ok (s, d)) :
    workOf plans (e, index) = concurrencyWork e.scheduleEntryId (rowGroup d e) index e := by
  rw [workOf, concurrencyGroup, hplan]
  rfl

theorem rowGroup_token_iff {sha : Sha256} (hid : RowId sha e.scheduleEntryId)
    (hplan : scheduledPlan plans e = .ok (s, d))
    (hnames : ∀ name, d.concurrencyGroup = some name → name ≠ "") :
    isToken 128 (rowGroup d e) = true ↔ TokenGroup plans e := by
  have hgroup : TokenGroup plans e ↔
      ∀ name, d.concurrencyGroup = some name → isToken 128 name = true := by
    constructor
    · exact fun h name => h s d name hplan
    · intro h s' d' name hplan'
      cases hplan.symm.trans hplan'
      exact h name
  rw [hgroup]
  unfold rowGroup
  cases hname : d.concurrencyGroup with
  | none =>
    refine iff_of_true ?_ fun name h => by cases h
    exact hid.token (by decide) (by decide)
  | some name =>
    have hne := hnames name hname
    simp [Option.filter, hne]

theorem concurrencyWork_group {index : Nat} {group : String}
    (hid : isToken 96 e.scheduleEntryId = true) (hgroup : ¬ isToken 128 group = true) :
    concurrencyWork e.scheduleEntryId group index e =
      .error "concurrency_group must be a bounded ASCII token" := by
  rw [concurrencyWork, token, if_pos hid, token, if_neg hgroup]
  rfl

/-- The items are built in order; the first that the manifest does not know ends it, without an
error of the barrier. -/
theorem works_raise_iff {index : Nat} (hids : ∀ e ∈ due, RowId env.sha256 e.scheduleEntryId)
    (hnames : ∀ e ∈ due, ∀ s d name, scheduledPlan plans e = .ok (s, d) →
      d.concurrencyGroup = some name → name ≠ "")
    (hsize : index + due.length ≤ maxGroupItems) :
    Raises (· ∉ barrierInputErrors) ((due.zipIdx index).mapM (workOf plans)) ↔
      ∀ e ∈ due.takeWhile (isScheduled plans), TokenGroup plans e := by
  induction due generalizing index with
  | nil => exact iff_of_true raises_ok fun _ h => absurd h List.not_mem_nil
  | cons e due ih =>
    obtain ⟨hid, hids⟩ := List.forall_mem_cons.1 hids
    obtain ⟨hname, hnames⟩ := List.forall_mem_cons.1 hnames
    rw [List.length_cons] at hsize
    rw [List.zipIdx_cons, List.mapM_cons, raises_bind]
    cases hplan : scheduledPlan plans e with
    | error m =>
      have hwork : workOf plans (e, index) = .error m := by
        rw [workOf, concurrencyGroup, hplan]
        rfl
      rw [List.takeWhile_cons_of_neg (by simp [isScheduled, hplan, Except.isOk, Except.toBool]),
        hwork]
      refine iff_of_true ⟨raises_error.2 (scheduledPlan_raises m hplan), fun _ h => by cases h⟩ ?_
      exact fun _ h => absurd h List.not_mem_nil
    | ok found =>
      obtain ⟨s, d⟩ := found
      have htoken : isToken 96 ("" ++ e.scheduleEntryId) = true :=
        hid.token (by decide) (by decide)
      rw [String.empty_append] at htoken
      rw [List.takeWhile_cons_of_pos (by simp [isScheduled, hplan, Except.isOk, Except.toBool]),
        List.forall_mem_cons, workOf_scheduled hplan,
        ← rowGroup_token_iff hid hplan fun name => hname s d name hplan]
      by_cases hgroup : isToken 128 (rowGroup d e) = true
      · have hwork := @concurrencyWork_total _ _ _ index e htoken hgroup (by
          simp only [maxGroupItems] at hsize
          simp only [maxOrdinal]
          omega)
        have hrest := @ih (index + 1) hids hnames (by omega)
        rw [hwork]
        constructor
        · rintro ⟨-, hraises⟩
          exact ⟨hgroup, hrest.1 (raises_bind.1 (hraises _ rfl)).1⟩
        · rintro ⟨-, htokens⟩
          refine ⟨raises_ok, fun _ _ => raises_bind.2 ⟨hrest.2 htokens, fun _ _ => raises_ok⟩⟩
      · rw [concurrencyWork_group htoken hgroup]
        refine iff_of_false (fun h => ?_) fun h => hgroup h.1
        exact raises_error.1 h.1 (by decide)

variable {config : ProjectConfig} {context : List DeliveryUserHeaders}
  {requestBlob : DeliverAction → String} {ρ : Type}
  {callback : ConcurrencyWork ScheduleEntry → Except String ρ}

/-- The group names of a compiled project are those of its configuration, so none is empty. -/
theorem compiled_group_ne_empty (haccepted : AcceptedProject config context)
    (hcompiled : compileScenarios env.generator requestBlob 0
      (config.scenarios.map ProjectScenario.config) = .ok plans) {name : String}
    (hplan : scheduledPlan plans e = .ok (s, d)) (hname : d.concurrencyGroup = some name) :
    name ≠ "" := by
  obtain ⟨hs, hd, -⟩ := scheduledPlan_ok hplan
  obtain ⟨scenario, source, hscenario, hsource, -, -, -, hdelivery⟩ :=
    compiledDelivery_get (compileScenarios_ok hcompiled) hs hd
  rw [List.getElem?_map, Option.map_eq_some_iff] at hscenario
  obtain ⟨configured, hconfigured, rfl⟩ := hscenario
  have hvalid := haccepted.group hconfigured (List.mem_of_getElem? hsource)
    (hdelivery.group ▸ hname)
  rintro rfl
  exact absurd hvalid (by decide)

theorem runConcurrencyGroups_raises {work : List (ConcurrencyWork ScheduleEntry)}
    (hsize : work.length ≤ maxGroupItems) (hids : (work.map ConcurrencyWork.workId).Nodup)
    (hcallback : ∀ w, Raises (· ∉ barrierInputErrors) (callback w)) :
    Raises (· ∉ barrierInputErrors) (runConcurrencyGroups work callback env.maxConcurrency) := by
  have hconcurrency : ¬ (env.maxConcurrency.getD defaultDeliveryConcurrency < 1 ∨
      hardDeliveryConcurrency < env.maxConcurrency.getD defaultDeliveryConcurrency) := by
    have hrange := env.concurrency_range
    omega
  refine raises_bind.2 ⟨?_, fun _ _ => raises_bind.2 ⟨?_, fun _ _ => ?_⟩⟩
  · rw [validateConcurrency, if_neg hconcurrency]
    exact raises_ok
  · rw [validateAndGroup, if_neg (not_lt.2 hsize), if_neg (not_not.2 hids)]
    exact raises_ok
  · exact raises_bind.2 ⟨raises_mapM fun w _ => hcallback w, fun _ _ => raises_ok⟩

/-- Two deliveries of one group and its barrier. -/
def groupedScenario (name : String) (hname : 1 ≤ name.length) : ProjectScenario :=
  orderScenario ⟨"grouped", by decide⟩ [.deliver { deliverOrder with
    count := 2
    concurrencyGroup := some name
    count_range := by decide }, .barrier name hname] orderAccepted ⟨by simp, by simp⟩

def groupedProject (name : String) (hname : 1 ≤ name.length) : ProjectConfig :=
  orderProject ⟨.stripeV1, none⟩ noObservers noObservers_le (groupedScenario name hname) rfl

/-- The call for the seeded rows of a project. -/
def firstCall (config : ProjectConfig) : Except String (List String × List BarrierRelease) := do
  let plans ← compileScenarios modularGenerator (fun _ => "blob") 0
    (config.scenarios.map ProjectScenario.config)
  let rows ← bootstrapSchedule modularGenerator modularSha256 plans
  let work ← batchWork plans rows
  runConcurrencyGroups work (fun w => .ok w.workId) none

theorem firstCall_of {config : ProjectConfig} {plans : List ScenarioPlan}
    {rows : List ScheduleEntry}
    (hcompile : compileScenarios modularGenerator (fun _ => "blob") 0
      (config.scenarios.map ProjectScenario.config) = .ok plans)
    (hboot : bootstrapSchedule modularGenerator modularSha256 plans = .ok rows) :
    firstCall config = (do
      let work ← batchWork plans rows
      runConcurrencyGroups work (fun w => .ok w.workId) none) := by
  simp only [firstCall, hcompile, hboot, bind, Except.bind]

def groupedPlan (name : String) : ScenarioPlan :=
  ⟨"scenario_6Q9KRQ5Q7MJQZM4B8004R0KV00",
    [singleAttempt (some name) "delivery_7GA1JYRCQNJ112WW8V1SHE6ZB9" 0 0,
      singleAttempt (some name) "delivery_7GA1JYRCQNJ112WW8V1SHE6ZK9" 0 1]⟩

/-- The rows of the group, whatever its name. -/
def groupedEntries : List ScheduleEntry :=
  [singleEntry "scenario_6Q9KRQ5Q7MJQZM4B8004R0KV00" 0 0 0
      "1e693052fc4ddf14acc5edf7e63cb4ad204807be9d28a5447f809eb656703efc"
      "attempt_plan_0R232VQASTCTFVMC37ACKGPW60",
    singleEntry "scenario_6Q9KRQ5Q7MJQZM4B8004R0KV00" 0 0 1
      "1e693052fc4ddf14acc5edf7e63cb4ad204807bea628a5447f809eb656703efc"
      "attempt_plan_0R232VQASTCTFVMC37ACKGPW60"]

theorem groups_compiled :
    compileScenarios modularGenerator (fun _ => "blob") 0
        ((groupedProject "pair" (by decide)).scenarios.map ProjectScenario.config) =
      .ok [groupedPlan "pair"] ∧
    compileScenarios modularGenerator (fun _ => "blob") 0
        ((groupedProject "order pair" (by decide)).scenarios.map ProjectScenario.config) =
      .ok [groupedPlan "order pair"] := by
  constructor <;> decide +kernel

theorem groups_accepted :
    AcceptedProject (groupedProject "pair" (by decide)) [] ∧
      AcceptedProject (groupedProject "order pair" (by decide)) [] := by
  constructor <;> decide +kernel

theorem groupedPlan_seeded (name : String) :
    bootstrapSchedule modularGenerator modularSha256 [groupedPlan name] = .ok groupedEntries := by
  have hentry : initialEntryId modularSha256 "scenario_6Q9KRQ5Q7MJQZM4B8004R0KV00"
      "delivery_7GA1JYRCQNJ112WW8V1SHE6ZB9" =
      "initial." ++ "1e693052fc4ddf14acc5edf7e63cb4ad204807be9d28a5447f809eb656703efc" := by
    decide +kernel
  have hentry' : initialEntryId modularSha256 "scenario_6Q9KRQ5Q7MJQZM4B8004R0KV00"
      "delivery_7GA1JYRCQNJ112WW8V1SHE6ZK9" =
      "initial." ++ "1e693052fc4ddf14acc5edf7e63cb4ad204807bea628a5447f809eb656703efc" := by
    decide +kernel
  have hid : plannedId modularGenerator .attemptPlan ["scenario_6Q9KRQ5Q7MJQZM4B8004R0KV00",
      "delivery_7GA1JYRCQNJ112WW8V1SHE6ZB9", "1"] =
      .ok "attempt_plan_0R232VQASTCTFVMC37ACKGPW60" := by
    decide +kernel
  have hid' : plannedId modularGenerator .attemptPlan ["scenario_6Q9KRQ5Q7MJQZM4B8004R0KV00",
      "delivery_7GA1JYRCQNJ112WW8V1SHE6ZK9", "1"] =
      .ok "attempt_plan_0R232VQASTCTFVMC37ACKGPW60" := by
    decide +kernel
  have hseeds : bootstrapScenario modularGenerator modularSha256 0 (groupedPlan name) =
      .ok groupedEntries := by
    rw [bootstrapScenario, if_neg (by simp [groupedPlan, singleAttempt, List.range_succ]),
      Checked.mapM_ok_iff]
    exact .cons (singleEntry_seeded hentry hid) (.cons (singleEntry_seeded hentry' hid') .nil)
  have hids : (entityIds [groupedPlan name]).Nodup := by
    have hsame : entityIds [groupedPlan name] = entityIds [groupedPlan "pair"] := rfl
    rw [hsame]
    decide +kernel
  exact bootstrapSchedule_of hids (Checked.bind_of hseeds rfl) rfl
    (by rw [List.length_singleton]; decide) (by decide +kernel)

end Batches

end WebhookConformance
