import WebhookConformance.HttpExecutor
import WebhookConformance.PinnedDial

/-! What an execution of the HTTP executor has done when it ends, whatever its surroundings did: the
outcome it reports is the one of its trace, and no effect comes before its checkpoint. -/
namespace WebhookConformance.HttpAttemptExecutor

open Program

section Traces

/-- The checkpoint whose sink call an effect waits for. -/
def gate : ExecutorEvent → Option AttemptProgressCheckpoint
  | .dialCalled => some .connectionAttemptStarted
  | .sendCalled => some .requestSendStarted
  | .receiveCalled => some .awaitingResponse
  | _ => none

def afterSink (hasSink : Bool) (c : AttemptProgressCheckpoint) : List ExecutorEvent :=
  if hasSink then [.sinkReturned c] else []

/-- The events that come before an event. -/
def needs (hasSink : Bool) : ExecutorEvent → List ExecutorEvent
  | .sinkCalled .awaitingResponse => [.sendCalled]
  | .dialCalled => afterSink hasSink .connectionAttemptStarted
  | .sendCalled => afterSink hasSink .requestSendStarted
  | .receiveCalled => afterSink hasSink .awaitingResponse
  | .headParsed => .sendCalled :: afterSink hasSink .awaitingResponse
  | .bodyEnded => [.headParsed]
  | _ => []

def Ordered (hasSink : Bool) (trace : List ExecutorEvent) : Prop :=
  ∀ pre event post, trace = pre ++ event :: post → ∀ needed ∈ needs hasSink event, needed ∈ pre

theorem ordered_nil {hasSink : Bool} : Ordered hasSink [] := by
  intro pre event post htrace
  simp at htrace

theorem Ordered.snoc {hasSink : Bool} {trace : List ExecutorEvent} {event : ExecutorEvent}
    (h : Ordered hasSink trace) (hneeds : ∀ needed ∈ needs hasSink event, needed ∈ trace) :
    Ordered hasSink (trace ++ [event]) := by
  intro pre e post htrace needed hneeded
  rcases List.eq_nil_or_concat' post with rfl | ⟨post', last, rfl⟩
  · obtain ⟨rfl, hevent⟩ := List.append_inj' htrace rfl
    cases hevent
    exact hneeds needed hneeded
  · rw [← List.cons_append, ← List.append_assoc] at htrace
    exact h pre e post' (List.append_inj' htrace rfl).1 needed hneeded

/-- No dial, send or receive before the sink took its checkpoint. -/
def Gated (trace : List ExecutorEvent) : Prop :=
  ∀ pre event post, trace = pre ++ event :: post →
    ∀ c ∈ gate event, ExecutorEvent.sinkReturned c ∈ pre

theorem Ordered.gated {trace : List ExecutorEvent} (h : Ordered true trace) : Gated trace := by
  intro pre event post htrace c hc
  refine h pre event post htrace _ ?_
  cases event <;> simp_all [gate, afterSink, needs]

/-- A final head was parsed and the reading of its body ended before the total deadline fired. -/
def ResponseRead (trace : List ExecutorEvent) : Prop :=
  ∃ pre post, trace = pre ++ .bodyEnded :: post ∧ .headParsed ∈ pre ∧ .deadlineFired ∉ pre

/-- The outcome that a trace stands for. -/
structure Reports (outcome : AttemptOutcome) (trace : List ExecutorEvent) : Prop where
  notSent : outcome = .notSent ↔ .sendCalled ∉ trace
  response : outcome = .response ↔ ResponseRead trace
  unknown : outcome = .unknownOutcome ↔ .sendCalled ∈ trace ∧ ¬ ResponseRead trace

end Traces

section Stages

structure Timed (p : AttemptProgress) (now : Nat) : Prop where
  now_le : now ≤ int64Max
  pool_le : p.poolElapsedNs ≤ int64Max
  connect_le : p.connectElapsedNs ≤ int64Max
  write_le : ∀ v ∈ p.writeElapsedNs, v ≤ int64Max
  send_le : ∀ v ∈ p.sendStartedNs, v ≤ now
  headers_le : ∀ v ∈ p.headersCompletedNs, v ≤ now
  send_headers : ∀ started ∈ p.sendStartedNs, ∀ completed ∈ p.headersCompletedNs,
    started ≤ completed

theorem Timed.later {p : AttemptProgress} {now later : Nat} (h : Timed p now) (hle : now ≤ later)
    (hlater : later ≤ int64Max) : Timed p later where
  now_le := hlater
  pool_le := h.pool_le
  connect_le := h.connect_le
  write_le := h.write_le
  send_le v hv := (h.send_le v hv).trans hle
  headers_le v hv := (h.headers_le v hv).trans hle
  send_headers := h.send_headers

theorem Timed.timings_valid {p : AttemptProgress} {now : Nat} (h : Timed p now) :
    (timingsOf p now).Valid := by
  have hnow := h.now_le
  have hsend : ∀ v ∈ p.sendStartedNs, v ≤ int64Max := fun v hv => (h.send_le v hv).trans hnow
  have hheaders : ∀ v ∈ p.headersCompletedNs, v ≤ int64Max := fun v hv =>
    (h.headers_le v hv).trans hnow
  have hof : ∀ {o : Option Nat}, (∀ v ∈ o, v ≤ int64Max) →
      ∀ v ∈ o.map Int.ofNat, NonnegativeInt64 v := by
    intro o ho v hv
    obtain ⟨n, hn, rfl⟩ := Option.map_eq_some_iff.mp hv
    exact ⟨Int.natCast_nonneg n, Int.ofNat_le.mpr (ho n hn)⟩
  refine ⟨?_, ?_, ?_, hof h.write_le, ?_, hof hsend, hof hheaders, ?_⟩
  · simp only [timingsOf, NonnegativeInt64]
    omega
  · exact ⟨Int.natCast_nonneg _, Int.ofNat_le.mpr h.pool_le⟩
  · exact ⟨Int.natCast_nonneg _, Int.ofNat_le.mpr h.connect_le⟩
  · intro v hv
    simp only [timingsOf] at hv
    split at hv
    · next started completed hstarted hcompleted =>
      have horder := h.send_headers started hstarted completed hcompleted
      have hle := hheaders completed hcompleted
      cases hv
      simp only [NonnegativeInt64]
      omega
    · cases hv
  · intro started hstarted completed hcompleted
    obtain ⟨a, ha, rfl⟩ := Option.map_eq_some_iff.mp hstarted
    obtain ⟨b, hb, rfl⟩ := Option.map_eq_some_iff.mp hcompleted
    exact Int.ofNat_le.mpr (h.send_headers a ha b hb)

/-- How far an execution has come. -/
structure Stage where
  passed : List AttemptProgressCheckpoint
  sent : Bool
  parsed : Bool
  ended : Bool

def Stage.outcome (g : Stage) : AttemptOutcome :=
  if g.ended then .response else if g.sent then .unknownOutcome else .notSent

/-- The progress record and the trace of an execution at a stage. -/
structure At (hasSink : Bool) (g : Stage) (p : AttemptProgress) (now : Nat)
    (trace : List ExecutorEvent) : Prop where
  timed : Timed p now
  ordered : Ordered hasSink trace
  running : .deadlineFired ∉ trace
  passed : hasSink = true → ∀ c ∈ g.passed, .sinkReturned c ∈ trace
  left : p.requestBytesMayHaveLeft = g.sent
  sent : .sendCalled ∈ trace ↔ g.sent = true
  parsed : g.parsed = true → .headParsed ∈ trace
  unparsed : g.parsed = false → p.headersCompletedNs = none
  ended : .bodyEnded ∈ trace ↔ g.ended = true
  kept : p.response.isSome = g.ended
  valid : ∀ r ∈ p.response, r.Valid

variable {hasSink : Bool} {g : Stage} {p : AttemptProgress} {now : Nat}
  {trace : List ExecutorEvent}

theorem At.outcomeOf (h : At hasSink g p now trace) : outcomeOf p = g.outcome := by
  simp only [HttpAttemptExecutor.outcomeOf, Stage.outcome, h.kept, h.left]

/-- A body that ended follows a head, and a head follows a send. -/
theorem At.sent_of_ended (h : At hasSink g p now trace) (hended : g.ended = true) :
    ∃ pre post, trace = pre ++ .bodyEnded :: post ∧ .headParsed ∈ pre ∧ .sendCalled ∈ trace := by
  obtain ⟨pre, post, rfl⟩ := List.append_of_mem (h.ended.mpr hended)
  have hparsed := h.ordered pre .bodyEnded post rfl .headParsed (by simp [needs])
  obtain ⟨before, after, rfl⟩ := List.append_of_mem hparsed
  have hsent := h.ordered before .headParsed (after ++ .bodyEnded :: post) (by simp) .sendCalled
    (by simp [needs])
  exact ⟨_, post, rfl, hparsed, by simp [hsent]⟩

/-- The deadline may fire after the stage was reached: it changes nothing. -/
theorem At.reports (h : At hasSink g p now trace) {late : List ExecutorEvent}
    (hlate : ∀ event ∈ late, event = .deadlineFired) : Reports g.outcome (trace ++ late) := by
  have hnone : ∀ event, event ≠ .deadlineFired → (event ∈ trace ++ late ↔ event ∈ trace) := by
    intro event hevent
    simp only [List.mem_append, or_iff_left_iff_imp]
    intro hmem
    exact absurd (hlate event hmem) hevent
  have hresponse : ResponseRead (trace ++ late) ↔ g.ended = true := by
    constructor
    · rintro ⟨pre, post, htrace, -, -⟩
      rw [← h.ended, ← hnone .bodyEnded (by simp), htrace]
      simp
    · intro hended
      obtain ⟨pre, post, htrace, hparsed, -⟩ := h.sent_of_ended hended
      refine ⟨pre, post ++ late, by simp [htrace], hparsed, fun hfired => h.running ?_⟩
      rw [htrace]
      exact List.mem_append_left _ hfired
  have hsent : g.ended = true → g.sent = true := by
    intro hended
    obtain ⟨_, _, _, _, hcalled⟩ := h.sent_of_ended hended
    exact h.sent.mp hcalled
  have hcalled : .sendCalled ∈ trace ++ late ↔ g.sent = true := (hnone _ (by simp)).trans h.sent
  constructor
  · rw [hcalled]
    cases hs : g.sent <;> cases he : g.ended <;> simp_all [Stage.outcome]
  · rw [hresponse]
    cases hs : g.sent <;> cases he : g.ended <;> simp_all [Stage.outcome]
  · rw [hcalled, hresponse]
    cases hs : g.sent <;> cases he : g.ended <;> simp_all [Stage.outcome]

theorem At.start {now : Nat} (hnow : now ≤ int64Max) :
    At hasSink ⟨[], false, false, false⟩ (.start now) now [] where
  timed := by constructor <;> simp [AttemptProgress.start, hnow]
  ordered := ordered_nil
  running := by simp
  passed := by simp
  left := rfl
  sent := by simp
  parsed := by simp
  unparsed := by simp [AttemptProgress.start]
  ended := by simp
  kept := rfl
  valid := by simp [AttemptProgress.start]

/-- The progress fields that a stage reads, and those that only its clock readings read. -/
theorem At.progressed (h : At hasSink g p now trace) {p' : AttemptProgress} (htimed : Timed p' now)
    (hleft : p'.requestBytesMayHaveLeft = p.requestBytesMayHaveLeft)
    (hheaders : g.parsed = false → p'.headersCompletedNs = p.headersCompletedNs)
    (hresponse : p'.response = p.response) : At hasSink g p' now trace where
  timed := htimed
  ordered := h.ordered
  running := h.running
  passed := h.passed
  left := hleft.trans h.left
  sent := h.sent
  parsed := h.parsed
  unparsed hg := (hheaders hg).trans (h.unparsed hg)
  ended := h.ended
  kept := hresponse ▸ h.kept
  valid := hresponse ▸ h.valid

/-- Events that change no stage. -/
def Quiet : ExecutorEvent → Prop
  | .sinkCalled _ | .sinkReturned _ | .dialCalled | .receiveCalled => True
  | _ => False

/-- A passed checkpoint opens its gate. -/
theorem At.mem_afterSink (h : At hasSink g p now trace) {c : AttemptProgressCheckpoint}
    (hc : c ∈ g.passed) : ∀ needed ∈ afterSink hasSink c, needed ∈ trace := by
  intro needed hneeded
  unfold afterSink at hneeded
  split at hneeded
  · next hsink =>
    rw [List.mem_singleton.mp hneeded]
    exact h.passed hsink c hc
  · simp at hneeded

theorem At.quiet (h : At hasSink g p now trace) {event : ExecutorEvent} (hquiet : Quiet event)
    (hneeds : ∀ needed ∈ needs hasSink event, needed ∈ trace) :
    At hasSink g p now (trace ++ [event]) where
  timed := h.timed
  ordered := h.ordered.snoc hneeds
  running := by cases event <;> simp_all [Quiet, h.running]
  passed hsink c hc := List.mem_append_left _ (h.passed hsink c hc)
  left := h.left
  sent := by cases event <;> simp_all [Quiet, h.sent]
  parsed hg := List.mem_append_left _ (h.parsed hg)
  unparsed := h.unparsed
  ended := by cases event <;> simp_all [Quiet, h.ended]
  kept := h.kept
  valid := h.valid

/-- A sink call that returned opens its gate. -/
theorem At.pass (h : At hasSink g p now trace) {c : AttemptProgressCheckpoint}
    (hreturned : hasSink = true → .sinkReturned c ∈ trace) :
    At hasSink { g with passed := c :: g.passed } p now trace :=
  { h with
    passed := by
      intro hsink c' hc'
      rcases List.mem_cons.mp hc' with rfl | hc'
      · exact hreturned hsink
      · exact h.passed hsink c' hc' }

/-- The first send, and every one after it. -/
theorem At.send (h : At hasSink g p now trace) (hgate : .requestSendStarted ∈ g.passed) :
    At hasSink { g with sent := true } { p with requestBytesMayHaveLeft := true } now
      (trace ++ [.sendCalled]) where
  timed := { h.timed with }
  ordered := h.ordered.snoc (h.mem_afterSink hgate)
  running := by simp [h.running]
  passed hsink c hc := List.mem_append_left _ (h.passed hsink c hc)
  left := rfl
  sent := by simp
  parsed hg := List.mem_append_left _ (h.parsed hg)
  unparsed := h.unparsed
  ended := by simp [h.ended]
  kept := h.kept
  valid := h.valid

theorem At.parse (h : At hasSink g p now trace) (hsent : g.sent = true)
    (hgate : .awaitingResponse ∈ g.passed) :
    At hasSink { g with parsed := true } p now (trace ++ [.headParsed]) where
  timed := h.timed
  ordered := by
    refine h.ordered.snoc fun needed hneeded => ?_
    rcases List.mem_cons.mp hneeded with rfl | hneeded
    · exact h.sent.mpr hsent
    · exact h.mem_afterSink hgate needed hneeded
  running := by simp [h.running]
  passed hsink c hc := List.mem_append_left _ (h.passed hsink c hc)
  left := h.left
  sent := by simp [h.sent]
  parsed := by simp
  unparsed := by simp
  ended := by simp [h.ended]
  kept := h.kept
  valid := h.valid

theorem At.keep (h : At hasSink g p now trace) (hordered : Ordered hasSink (trace ++ [.bodyEnded]))
    {response : CapturedResponse} (hvalid : response.Valid) :
    At hasSink { g with ended := true } { p with response := some response } now
      (trace ++ [.bodyEnded]) where
  timed := { h.timed with }
  ordered := hordered
  running := by simp [h.running]
  passed hsink c hc := List.mem_append_left _ (h.passed hsink c hc)
  left := h.left
  sent := by simp [h.sent]
  parsed hg := List.mem_append_left _ (h.parsed hg)
  unparsed := h.unparsed
  ended := by simp
  kept := rfl
  valid := by simpa using hvalid

end Stages

/-! The execution, function by function. -/
section Runs

variable {ω : Type} {around : Surroundings ω} {g : Stage}

def Reached (around : Surroundings ω) (g : Stage) (s : ExecutorState ω) : Prop :=
  At around.hasSink g s.progress s.now s.trace

/-- How a part of an execution ends. A cancellation finds the execution at some stage. -/
def Ends {α : Type} (around : Surroundings ω) (P : α → ExecutorState ω → Prop) :
    Exit ExecuteFailure α → ExecutorState ω → Prop
  | .returned a, s => P a s
  | .raised e, s => e ≠ .evidence ∧ Ordered around.hasSink s.trace
  | .cancelled, s => ∃ g, Reached around g s

theorem ends_bind {α β : Type} {P : ExecutorState ω → Prop} {Q : α → ExecutorState ω → Prop}
    {R : β → ExecutorState ω → Prop} {x : Executing ω ExecuteFailure α}
    {f : α → Executing ω ExecuteFailure β} (hx : Triple P x (Ends around Q))
    (hf : ∀ a, Triple (Q a) (f a) (Ends around R)) : Triple P (x >>= f) (Ends around R) :=
  Triple.bind hx hf (fun _ _ h => h) fun _ h => h

theorem ends_raise {α : Type} {e : ExecuteFailure} {Q : α → ExecutorState ω → Prop}
    (he : e ≠ .evidence) : Triple (Reached around g) (raise e) (Ends around Q) :=
  Triple.raise fun _ h => ⟨he, h.ordered⟩

/-- A result was made at a stage of the execution, from what was sent and kept. -/
def Reported (around : Surroundings ω) (request : RequestEvidence) (r : TransportResult)
    (s : ExecutorState ω) : Prop :=
  r.request = request ∧ (∀ response ∈ r.response, response.Valid) ∧
    ∃ g, Reached around g s ∧ r.outcome = g.outcome

theorem await_keeps {ε α : Type} (effect : ω → Exit ε α × ω) :
    Keeps (Reached around g) (await effect) := fun _ h => h

/-- An awaited part that keeps the stage: its errors become values. -/
theorem attempted_yields {ε α : Type} {x : Executing ω ε α} {E : ε → Prop} {V : α → Prop}
    (hx : Yields (Reached around g) E V x) :
    Triple (Reached around g) (attempted x) (Ends around fun a s => Reached around g s ∧
      match a with
      | .ok a => V a
      | .error e => E e) := by
  have hvalue : Yields (Reached around g) E (fun a : Except ε α => ∃ v, a = .ok v ∧ V v)
      (x >>= fun a => pure (.ok a)) := hx.bind fun a ha => .pure ⟨a, rfl, ha⟩
  refine Triple.handle hvalue (fun e => Triple.pure fun s h => h) ?_ fun s h => ⟨g, h.1⟩
  rintro _ s ⟨h, v, rfl, hv⟩
  exact ⟨h, hv⟩

theorem attempted_ends {ε α : Type} {x : Executing ω ε α} (hx : Keeps (Reached around g) x) :
    Triple (Reached around g) (attempted x) (Ends around fun _ => Reached around g) := by
  refine (attempted_yields (Keeps.yields.1 hx)).weaken (fun _ h => h) fun exit s h => ?_
  cases exit with
  | returned a => exact h.1
  | _ => exact h

theorem readClock_ends :
    Triple (Reached around g) (readClock around)
      (Ends around fun reading s => Reached around g s ∧ reading = s.now) := by
  intro s h
  unfold readClock
  dsimp only
  split
  · next hle => exact ⟨{ h with timed := h.timed.later (Nat.le_add_right _ _) hle }, rfl⟩
  · exact ⟨by simp, h.ordered⟩

theorem elapsedSince_ends (started : Nat) :
    Triple (Reached around g) (elapsedSince around started)
      (Ends around fun elapsed s => Reached around g s ∧ elapsed ≤ int64Max) := by
  refine ends_bind readClock_ends fun now => ?_
  split
  · refine Triple.pure fun s h => ⟨h.1, ?_⟩
    have hnow := h.1.timed.now_le
    have heq := h.2
    omega
  · exact Triple.raise fun _ h => ⟨by simp, h.1.ordered⟩

theorem result_ends (request : RequestEvidence) (error : Option ReportedError) :
    Triple (Reached around g) (result around request error)
      (Ends around (Reported around request)) := by
  refine ends_bind readClock_ends fun now => ?_
  rintro s ⟨h, rfl⟩
  have hvalid : (timingsOf s.progress s.now).Valid ∧ ResultFields.Valid
      ⟨outcomeOf s.progress, request, timingsOf s.progress s.now, s.progress.response,
        s.progress.peer, error, s.progress.requestBytesMayHaveLeft⟩ := by
    refine ⟨h.timed.timings_valid, ?_⟩
    simp only [ResultFields.Valid, outcomeOf]
    cases s.progress.response <;> cases s.progress.requestBytesMayHaveLeft <;> simp
  change Ends around (Reported around request) ((if _ : _ then _ else _ : Executing ω _ _) s).1
    ((if _ : _ then _ else _ : Executing ω _ _) s).2
  rw [dif_pos hvalid]
  exact ⟨rfl, h.valid, g, h, h.outcomeOf⟩

theorem failureResult_ends (request : RequestEvidence) (code : AttemptErrorCode)
    (phase : AttemptPhase) (message : String) (retryable : Bool) :
    Triple (Reached around g) (failureResult around request code phase message retryable)
      (Ends around (Reported around request)) := by
  unfold failureResult
  split
  · exact result_ends _ _
  · exact ends_raise (by simp)

theorem checkpoint_ends (c : AttemptProgressCheckpoint)
    (hc : c = .awaitingResponse → g.sent = true) :
    Triple (Reached around g) (checkpoint around c)
      (Ends around fun _ => Reached around { g with passed := c :: g.passed }) := by
  unfold checkpoint
  split
  · refine ends_bind (Q := fun _ => Reached around g) ?_ fun _ => ?_
    · refine Triple.update fun s h => h.quiet trivial ?_
      cases c with
      | awaitingResponse => simpa [needs] using h.sent.mpr (hc rfl)
      | _ => simp [needs]
    refine ends_bind (Q := fun _ => Reached around g) ?_ fun _ => ?_
    · refine Triple.handle (await_keeps _) (fun _ => ends_raise (by simp)) (fun _ _ h => h) ?_
      exact fun _ h => ⟨g, h⟩
    refine Triple.update fun s h => ?_
    have hreturned : At around.hasSink g s.progress s.now (s.trace ++ [.sinkReturned c]) :=
      h.quiet trivial (by simp [needs])
    exact hreturned.pass (by simp)
  · next hsink =>
    exact Triple.pure fun s h => h.pass fun hs => absurd hs hsink

theorem writeElapsed_ends (started : Nat) :
    Triple (Reached around g) (writeElapsed around started)
      (Ends around fun _ => Reached around g) := by
  refine ends_bind (elapsedSince_ends started) fun elapsed => ?_
  refine Triple.update fun s h => h.1.progressed ?_ rfl (fun _ => rfl) rfl
  exact { h.1.timed with write_le := by simpa using h.2 }

theorem connectElapsed_ends (started : Nat) :
    Triple (Reached around g) (connectElapsed around started)
      (Ends around fun _ => Reached around g) := by
  refine ends_bind (elapsedSince_ends started) fun elapsed => ?_
  refine Triple.update fun s h => h.1.progressed ?_ rfl (fun _ => rfl) rfl
  exact { h.1.timed with connect_le := h.2 }

/-- Bytes may have left, the next step is the first send. -/
def AboutToSend (around : Surroundings ω) (g : Stage) (s : ExecutorState ω) : Prop :=
  ∃ p, At around.hasSink g p s.now s.trace ∧ s.progress = { p with requestBytesMayHaveLeft := true }

theorem sendPiece_ends (hgate : .requestSendStarted ∈ g.passed) (piece : Bytes) :
    Triple (AboutToSend around g) (sendPiece around piece)
      fun _ => Reached around { g with sent := true } := by
  refine Triple.bind (Q := fun _ => Reached around { g with sent := true }) ?_
    (fun _ => await_keeps _) (fun _ _ h => h) fun _ h => h
  rintro s ⟨p, h, hp⟩
  have hsent := h.send hgate
  rw [← hp] at hsent
  exact hsent

theorem sendPieces_keeps (hgate : .requestSendStarted ∈ g.passed) (hsent : g.sent = true)
    (pieces : List Bytes) : Keeps (Reached around g) (sendPieces around pieces) := by
  induction pieces with
  | nil => exact .pure
  | cons piece pieces ih =>
    refine Keeps.bind (fun s h => ?_) fun _ => ih
    have hleft : s.progress = { s.progress with requestBytesMayHaveLeft := true } := by
      rw [← hsent, ← h.left]
    have hagain := sendPiece_ends hgate piece s ⟨s.progress, h, hleft⟩
    rwa [← hsent] at hagain

theorem sendPieces_ends (hgate : .requestSendStarted ∈ g.passed) (piece : Bytes)
    (pieces : List Bytes) :
    Triple (AboutToSend around g) (sendPieces around (piece :: pieces))
      fun _ => Reached around { g with sent := true } :=
  Triple.bind (sendPiece_ends hgate piece) 
    (fun _ => sendPieces_keeps (g := { g with sent := true }) hgate rfl pieces) (fun _ _ h => h) fun _ h => h

/-- The stage after the request was handed to the stream. -/
def Stage.written (g : Stage) : Stage :=
  { g with passed := .requestSendStarted :: g.passed, sent := true }

theorem sendRequest_ends (wire : WireRequest) (hparsed : g.parsed = false) :
    Triple (Reached around g) (sendRequest around wire)
      (Ends around fun failed s => match failed with
        | none => Reached around g.written s
        | some r => Reported around wire.evidence r s) := by
  refine ends_bind (Q := fun _ => Reached around g) ?_ fun _ => ?_
  · exact Triple.update fun s h => h.progressed { h.timed with } rfl (fun _ => rfl) rfl
  refine ends_bind readClock_ends fun started => ?_
  refine ends_bind (Q := fun _ => Reached around g) ?_ fun _ => ?_
  · refine Triple.update fun s h => h.1.progressed ?_ rfl (fun _ => rfl) rfl
    have hheaders := h.1.unparsed hparsed
    exact { h.1.timed with
      send_le := by simp [h.2]
      send_headers := by simp [hheaders] }
  refine ends_bind (checkpoint_ends _ (by simp)) fun _ => ?_
  refine ends_bind (Q := fun _ => AboutToSend around
    { g with passed := .requestSendStarted :: g.passed }) ?_ fun _ => ?_
  · exact Triple.update fun s h => ⟨s.progress, h, rfl⟩
  refine ends_bind (Q := fun _ => Reached around g.written) ?_ fun failed => ?_
  · refine Triple.handle (Q := fun _ => Reached around g.written) ?_ (fun _ => Triple.pure ?_)
      (fun _ _ h => h) fun _ h => ⟨_, h⟩
    · exact Triple.bind (sendPieces_ends (by simp) _ _) (fun _ => Triple.pure fun _ h => h)
        (fun _ _ h => h) fun _ h => h
    · exact fun _ h => h
  refine ends_bind (writeElapsed_ends started) fun _ => ?_
  have hfailed : ∀ code message, Triple (Reached around g.written)
      (some <$> failureResult around wire.evidence code .write message true)
      (Ends around fun failed s => match failed with
        | none => Reached around g.written s
        | some r => Reported around wire.evidence r s) := by
    intro code message
    exact ends_bind (failureResult_ends _ _ _ _ _) fun r => Triple.pure fun _ h => h
  split
  · exact Triple.pure fun _ h => h
  · exact hfailed _ _
  · exact hfailed _ _

/-- The reading of a body ended and its evidence is not kept yet. -/
def BodyEnded (around : Surroundings ω) (g : Stage) (s : ExecutorState ω) : Prop :=
  ∃ trace, At around.hasSink g s.progress s.now trace ∧ s.trace = trace ++ [.bodyEnded] ∧
    Ordered around.hasSink s.trace

theorem keep_ends {response : CapturedResponse} (hvalid : response.Valid) :
    Triple (BodyEnded around g) (progressed fun p => { p with response := some response })
      (Ends around fun _ => Reached around { g with ended := true }) := by
  refine Triple.update ?_
  rintro s ⟨trace, h, htrace, hordered⟩
  rw [htrace] at hordered
  have hkept := h.keep hordered hvalid
  rw [← htrace] at hkept
  exact hkept

theorem keepResponse_ends (response : CapturedResponse) :
    Triple (BodyEnded around g) (keepResponse response)
      (Ends around fun _ => Reached around { g with ended := true }) := by
  unfold keepResponse
  split
  · exact keep_ends ‹_›
  · exact Triple.raise fun s ⟨_, _, _, hordered⟩ => ⟨by simp, hordered⟩

theorem bodyFailure_ends (settings : ReadSettings) (wire : WireRequest) (head : HeadFields)
    {failure : ReadFailure} (hchecked : failure.Checked) :
    Triple (BodyEnded around g) (bodyFailure around settings wire head failure)
      (Ends around (Reported around wire.evidence)) := by
  cases failure with
  | bodyTimeout => exact ends_bind (keepResponse_ends _) fun _ => failureResult_ends _ _ _ _ _
  | tooLarge => exact ends_bind (keep_ends hchecked) fun _ => failureResult_ends _ _ _ _ _
  | protocol => exact ends_bind (keepResponse_ends _) fun _ => failureResult_ends _ _ _ _ _
  | _ => exact ends_bind (keepResponse_ends _) fun _ => failureResult_ends _ _ _ _ _

theorem receiveFrom_keeps (hgate : .awaitingResponse ∈ g.passed) (maximum : Nat) :
    Keeps (Reached around g) (receiveFrom around maximum) := by
  refine Keeps.bind ?_ fun _ => await_keeps _
  exact Triple.update fun s h => h.quiet trivial (h.mem_afterSink hgate)

theorem readBody_ends (settings : ReadSettings) (wire : WireRequest) (head : HeadFields)
    (rest : Bytes) (hgate : .awaitingResponse ∈ g.passed) (hparsed : g.parsed = true) :
    Triple (Reached around g) (readBody around settings wire head rest)
      (Ends around (Reported around wire.evidence)) := by
  refine ends_bind readClock_ends fun completed => ?_
  refine ends_bind (Q := fun _ => Reached around g) ?_ fun _ => ?_
  · refine Triple.update fun s h => h.1.progressed ?_ rfl (by simp [hparsed]) rfl
    exact { h.1.timed with
      headers_le := by simp [h.2]
      send_headers := by
        intro started hstarted _ hcompleted
        cases hcompleted
        rw [h.2]
        exact h.1.timed.send_le started hstarted }
  refine ends_bind (attempted_yields (readResponseBody_captures (receiveFrom_keeps hgate) _ _))
    fun body s ⟨hreached, hbody⟩ => ?_
  refine ends_bind (Q := fun _ => BodyEnded around g) ?_ (fun _ => ?_) s hreached
  · refine Triple.update fun s h => ⟨s.trace, h, rfl, h.ordered.snoc ?_⟩
    simpa [needs] using h.parsed hparsed
  cases body with
  | ok response => exact ends_bind (keep_ends hbody) fun _ => result_ends _ _
  | error failure => exact bodyFailure_ends _ _ _ hbody

theorem headFailure_ends (wire : WireRequest) (failure : ReadFailure) :
    Triple (Reached around g) (headFailure around wire failure)
      (Ends around (Reported around wire.evidence)) := by
  cases failure <;> exact failureResult_ends _ _ _ _ _

theorem readResponse_ends (settings : ReadSettings) (wire : WireRequest)
    (hgate : .awaitingResponse ∈ g.passed) (hsent : g.sent = true) :
    Triple (Reached around g) (readResponse around settings wire)
      (Ends around (Reported around wire.evidence)) := by
  refine ends_bind (Q := fun _ => Reached around g) ?_ fun _ => ?_
  · exact Triple.update fun s h => h.progressed { h.timed with } rfl (fun _ => rfl) rfl
  refine ends_bind (attempted_ends (readHeads_reads (receiveFrom_keeps hgate) _ _ _).keeps)
    fun head => ?_
  cases head with
  | ok found =>
    refine ends_bind (Q := fun _ => Reached around { g with parsed := true }) ?_ fun _ => ?_
    · exact Triple.update fun s h => h.parse hsent hgate
    · exact readBody_ends settings wire _ _ hgate rfl
  | error failure => exact headFailure_ends wire failure

theorem useConnection_ends (settings : ReadSettings) (wire : WireRequest)
    (hparsed : g.parsed = false) :
    Triple (Reached around g) (useConnection around settings wire)
      (Ends around (Reported around wire.evidence)) := by
  refine Triple.cleanUp (Q := Ends around (Reported around wire.evidence)) ?_ ?_
  · refine ends_bind (sendRequest_ends wire hparsed) fun failed => ?_
    cases failed with
    | some r => exact Triple.pure fun _ h => h
    | none =>
      refine ends_bind (checkpoint_ends .awaitingResponse fun _ => rfl) fun _ => ?_
      exact readResponse_ends settings wire (by simp) rfl
  · have hclosed : ∀ {g s}, Reached around g s → Reached around g
        ({ s with world := around.close s.world, progress := { s.progress with phase := .close } }) :=
      fun h => h.progressed { h.timed with } rfl (fun _ => rfl) rfl
    intro exit s h
    cases exit with
    | returned r =>
      obtain ⟨hrequest, hvalid, g', hreached, houtcome⟩ := h
      exact ⟨hrequest, hvalid, g', hclosed hreached, houtcome⟩
    | raised e => exact h
    | cancelled =>
      obtain ⟨g', hreached⟩ := h
      exact ⟨g', hclosed hreached⟩

theorem dialFailure_ends (wire : WireRequest) (failure : DialException) :
    Triple (Reached around g) (dialFailure around wire failure)
      (Ends around (Reported around wire.evidence)) := by
  cases failure <;> exact failureResult_ends _ _ _ _ _

theorem executeConnected_ends (settings : ReadSettings) (wire : WireRequest)
    (hparsed : g.parsed = false) :
    Triple (Reached around g) (executeConnected around settings wire)
      (Ends around (Reported around wire.evidence)) := by
  refine ends_bind (Q := fun _ => Reached around g) ?_ fun _ => ?_
  · exact Triple.update fun s h => h.progressed { h.timed with } rfl (fun _ => rfl) rfl
  refine ends_bind readClock_ends fun started => ?_
  refine ends_bind (Q := fun _ => Reached around g) ?_ fun _ => ?_
  · exact Triple.update fun s h => h.1.progressed { h.1.timed with } rfl (fun _ => rfl) rfl
  refine ends_bind (checkpoint_ends .connectionAttemptStarted (by simp)) fun _ => ?_
  refine ends_bind (Q := fun _ => Reached around
    { g with passed := .connectionAttemptStarted :: g.passed }) ?_ fun _ => ?_
  · exact Triple.update fun s h => h.quiet trivial (h.mem_afterSink (by simp))
  refine ends_bind (attempted_ends (await_keeps _)) fun dialed => ?_
  refine ends_bind (connectElapsed_ends started) fun _ => ?_
  cases dialed with
  | ok connection =>
    refine ends_bind (Q := fun _ => Reached around
      { g with passed := .connectionAttemptStarted :: g.passed }) ?_ fun _ => ?_
    · exact Triple.update fun s h => h.progressed { h.timed with } rfl (fun _ => rfl) rfl
    · exact useConnection_ends settings wire hparsed
  | error failure => exact dialFailure_ends wire failure

theorem executeWithSlot_ends (settings : ReadSettings) (wire : WireRequest)
    (hparsed : g.parsed = false) :
    Triple (Reached around g) (executeWithSlot around settings wire)
      (Ends around (Reported around wire.evidence)) := by
  refine ends_bind (attempted_ends (await_keeps _)) fun acquired => ?_
  cases acquired with
  | error failure => exact failureResult_ends _ _ _ _ _
  | ok slot =>
    refine ends_bind (Q := fun _ => Reached around g) (fun s h => h) fun p => ?_
    refine ends_bind (elapsedSince_ends _) fun elapsed => ?_
    refine ends_bind (Q := fun _ => Reached around g) ?_ fun _ => ?_
    · refine Triple.update fun s h => h.1.progressed ?_ rfl (fun _ => rfl) rfl
      exact { h.1.timed with pool_le := h.2 }
    · exact executeConnected_ends settings wire hparsed

/-- A shell await: its failure ends the execution, its cancellation leaves the stage. -/
theorem shell_ends {P : ExecutorState ω → Prop} {effect : ω → Exit Unit Unit × ω}
    (hworld : ∀ s w, P s → P { s with world := w }) (hP : ∀ s, P s → ∃ g, Reached around g s) :
    Triple P ((await effect).handle fun _ => raise .shell) (Ends around fun _ => P) := by
  refine Triple.handle (Q := fun _ => P) (fun s h => hworld _ _ h) (fun _ => Triple.raise ?_)
    (fun _ _ h => h) fun s h => hP s h
  intro s h
  obtain ⟨g, hg⟩ := hP s h
  exact ⟨by simp, hg.ordered⟩

theorem executeShell_ends (settings : ReadSettings) (wire : WireRequest)
    (hparsed : g.parsed = false) :
    Triple (Reached around g) (executeShell around settings wire)
      (Ends around (Reported around wire.evidence)) := by
  refine ends_bind (shell_ends (fun _ _ h => h) fun s h => ⟨g, h⟩) fun _ => ?_
  refine ends_bind (executeWithSlot_ends settings wire hparsed) fun r => ?_
  refine ends_bind (shell_ends (fun _ _ h => h) fun s h => ?_) fun _ => Triple.pure fun _ h => h
  obtain ⟨-, -, g', hreached, -⟩ := h
  exact ⟨g', hreached⟩

/-- A result neither reads nor changes the trace. -/
theorem result_frame (request : RequestEvidence) (error : Option ReportedError)
    (s : ExecutorState ω) (trace : List ExecutorEvent) :
    result around request error { s with trace } =
      ((result around request error s).1, { (result around request error s).2 with trace }) := by
  simp only [result, Bind.bind, Program.bind, readClock, progress]
  by_cases hclock : s.now + (around.clock s.world).1 ≤ int64Max
  · simp only [if_pos hclock]
    split <;> rfl
  · simp only [if_neg hclock]

theorem failureResult_frame (request : RequestEvidence) (code : AttemptErrorCode)
    (phase : AttemptPhase) (message : String) (retryable : Bool) (s : ExecutorState ω)
    (trace : List ExecutorEvent) :
    failureResult around request code phase message retryable { s with trace } =
      ((failureResult around request code phase message retryable s).1,
        { (failureResult around request code phase message retryable s).2 with trace }) := by
  unfold failureResult
  split
  · exact result_frame request _ s trace
  · rfl

/-- The end of an execution. -/
structure Finished (around : Surroundings ω) (request : RequestEvidence)
    (exit : Exit ExecuteFailure TransportResult) (s : ExecutorState ω) : Prop where
  evidence : exit ≠ .raised .evidence
  ordered : Ordered around.hasSink s.trace
  reports : ∀ r, exit = .returned r → r.request = request ∧
    (∀ response ∈ r.response, response.Valid) ∧ Reports r.outcome s.trace

variable {request : RequestEvidence}

theorem finished_of_ends {exit : Exit ExecuteFailure TransportResult} {s : ExecutorState ω}
    (h : Ends around (Reported around request) exit s) {late : List ExecutorEvent}
    (hlate : ∀ event ∈ late, event = .deadlineFired)
    (hordered : Ordered around.hasSink s.trace → Ordered around.hasSink (s.trace ++ late)) :
    Finished around request exit { s with trace := s.trace ++ late } := by
  cases exit with
  | returned r =>
    obtain ⟨hrequest, hvalid, g, hreached, houtcome⟩ := h
    refine ⟨by simp, hordered hreached.ordered, fun r' hr' => ?_⟩
    cases hr'
    rw [houtcome]
    exact ⟨hrequest, hvalid, hreached.reports hlate⟩
  | raised e => exact ⟨fun he => h.1 (Exit.raised.inj he), hordered h.2, by simp⟩
  | cancelled =>
    obtain ⟨g, hreached⟩ := h
    exact ⟨by simp, hordered hreached.ordered, by simp⟩

theorem Ends.finished {exit : Exit ExecuteFailure TransportResult} {s : ExecutorState ω}
    (h : Ends around (Reported around request) exit s) : Finished around request exit s := by
  have hnone : Finished around request exit { s with trace := s.trace ++ [] } :=
    finished_of_ends h (by simp) (by simp)
  simpa using hnone

theorem failureResult_late (request : RequestEvidence) (code : AttemptErrorCode)
    (phase : AttemptPhase) (message : String) (retryable : Bool) {s : ExecutorState ω}
    (h : Reached around g s) :
    Triple (fun s' => s' = { s with trace := s.trace ++ [.deadlineFired] })
      (failureResult around request code phase message retryable) (Finished around request) := by
  rintro _ rfl
  have hends := failureResult_ends request code phase message retryable s h
  have htrace : (failureResult around request code phase message retryable s).2.trace = s.trace :=
    congrArg (fun run => run.2.trace)
      (failureResult_frame request code phase message retryable s s.trace)
  rw [failureResult_frame, ← htrace]
  exact finished_of_ends hends (by simp) fun ho => ho.snoc (by simp [needs])

theorem executeCancelled_finished (wire : WireRequest) :
    Triple (fun s => ∃ g, Reached around g s) (executeCancelled around wire)
      (Finished around wire.evidence) := by
  rintro s ⟨g, h⟩
  unfold executeCancelled
  split
  · exact failureResult_late wire.evidence .totalTimeout s.progress.phase
      "attempt exceeded its total physical timeout" true h _ rfl
  · exact ⟨by simp, h.ordered, by simp⟩

theorem finished_bind {α : Type} {P : ExecutorState ω → Prop} {Q : α → ExecutorState ω → Prop}
    {x : Executing ω ExecuteFailure α} {f : α → Executing ω ExecuteFailure TransportResult}
    (hx : Triple P x (Ends around Q)) (hf : ∀ a, Triple (Q a) (f a) (Finished around request)) :
    Triple P (x >>= f) (Finished around request) := by
  refine Triple.bind hx hf (fun e s h => ?_) fun s h => ?_
  · exact ⟨fun he => h.1 (Exit.raised.inj he), h.2, by simp⟩
  · obtain ⟨g, hg⟩ := h
    exact ⟨by simp, hg.ordered, by simp⟩

/-- The first reading comes before there is any progress. -/
theorem readClock_first :
    Triple (fun s => s.trace = []) (readClock around)
      (Ends around fun reading s => s.trace = [] ∧ reading = s.now ∧ reading ≤ int64Max) := by
  intro s htrace
  unfold readClock
  dsimp only
  split
  · next hle => exact ⟨htrace, rfl, hle⟩
  · refine ⟨by simp, ?_⟩
    rw [htrace]
    exact ordered_nil

theorem executeWire_finished (settings : ReadSettings) (wire : WireRequest) :
    Triple (fun s => s.trace = []) (executeWire around settings wire)
      (Finished around wire.evidence) := by
  refine finished_bind readClock_first fun started => ?_
  refine finished_bind (Q := fun _ => Reached around ⟨[], false, false, false⟩) ?_ fun _ => ?_
  · refine Triple.update ?_
    rintro s ⟨htrace, rfl, hle⟩
    have hstart : At around.hasSink ⟨[], false, false, false⟩ (.start s.now) s.now s.trace := by
      rw [htrace]
      exact .start hle
    exact hstart
  · exact Triple.onCancelled (executeShell_ends settings wire rfl) (executeCancelled_finished wire)
      (fun _ _ h => Ends.finished h) fun _ _ h => Ends.finished h

theorem execute_finished (around : Surroundings ω) (settings : ReadSettings)
    (command : HttpAttemptCommand) :
    Triple (fun s => s.trace = []) (execute around settings command) (fun exit s =>
      (∃ e, exit = .raised (.input e) ∧ s.trace = []) ∨
      ∃ wire, buildWireRequest settings command = .ok wire ∧
        Finished around wire.evidence exit s) := by
  unfold execute
  split
  · exact Triple.raise fun s htrace => Or.inl ⟨_, rfl, htrace⟩
  · next wire hwire =>
    intro s hs
    exact Or.inr ⟨wire, hwire, executeWire_finished settings wire s hs⟩

end Runs

section Outcome

/-- An execution before its first step. -/
def fresh {ω : Type} (world : ω) (now : Nat) : ExecutorState ω := ⟨world, now, .start now, []⟩

/-- Whatever the pool, the dialer, the stream, the sink and the clock do: no effect comes before its
checkpoint, the result can always be built, and the outcome returned is the one of the trace. -/
theorem execute_sound {ω : Type} (around : Surroundings ω) (settings : ReadSettings)
    (command : HttpAttemptCommand) (world : ω) (now : Nat) :
    let run := execute around settings command (fresh world now)
    run.1 ≠ .raised .evidence ∧ (around.hasSink = true → Gated run.2.trace) ∧
      ∀ r, run.1 = .returned r → Reports r.outcome run.2.trace := by
  intro run
  obtain ⟨e, hexit, htrace⟩ | ⟨wire, -, h⟩ :=
    execute_finished around settings command (fresh world now) rfl
  · refine ⟨by simp [run, hexit], fun _ => ?_, by simp [run, hexit]⟩
    intro pre event post hsplit
    rw [show run.2.trace = [] from htrace] at hsplit
    simp at hsplit
  · refine ⟨h.evidence, fun hsink => ?_, fun r hr => (h.reports r hr).2.2⟩
    have hordered := h.ordered
    rw [hsink] at hordered
    exact hordered.gated

/-- A receiver that answers with the given segments. -/
def segmentsReceiver : Surroundings (List Bytes) where
  hasSink := true
  clock segments := (5, segments)
  openShell segments := (.returned (), segments)
  acquire segments := (.returned (), segments)
  sink _ segments := (.returned (), segments)
  dial segments := (.returned ⟨receiverPlan, ⟨"10.0.0.1", .v4, "10.0.0.1", .v4⟩⟩, segments)
  send _ segments := (.returned (), segments)
  receive _ segments :=
    match segments with
    | [] => (.raised .endOfStream, [])
    | segment :: segments => (.returned segment, segments)
  close segments := segments
  closeShell segments := (.returned (), segments)
  deadlineFired _ := false

def plainSettings : ReadSettings := ⟨defaultLimits, fun _ => "", id⟩

def receiverCommand : HttpAttemptCommand := ⟨receiverPolicy, utf8 "ping", [], by simp⟩

def okSegments : List Bytes :=
  [utf8 "HTTP/1.1 200 OK\r\nContent-Length: 2\r\n", utf8 "\r\nok"]

theorem ok_execution_reports :
    ∃ r, (execute segmentsReceiver plainSettings receiverCommand (fresh okSegments 0)).1 =
        .returned r ∧ r.outcome = .response ∧
      Reports .response
        (execute segmentsReceiver plainSettings receiverCommand (fresh okSegments 0)).2.trace := by
  have hrun : (execute segmentsReceiver plainSettings receiverCommand
      (fresh okSegments 0)).1.toOption.map (·.outcome) = some .response := by
    decide +kernel
  obtain ⟨r, hr, houtcome⟩ := Option.map_eq_some_iff.1 hrun
  rw [Program.Exit.toOption_eq_some] at hr
  have hsound := (execute_sound segmentsReceiver plainSettings receiverCommand okSegments 0).2.2 r hr
  rw [houtcome] at hsound
  exact ⟨r, hr, houtcome, hsound⟩

end Outcome

end WebhookConformance.HttpAttemptExecutor
