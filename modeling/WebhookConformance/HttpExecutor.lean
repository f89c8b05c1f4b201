import WebhookConformance.HttpReading

/-! The HTTP executor (`http/executor.py`): one physical attempt against an arbitrary connection
pool, dialer, stream and progress sink, each of which may succeed, raise or be cancelled. -/
namespace WebhookConformance

open Checked Program

section Requests

structure HttpHeader where
  name : String
  value : String
  owner : HeaderOwner
  deriving DecidableEq, Repr

/-- The checks of `HttpHeader.__post_init__`. -/
def HttpHeader.Valid (h : HttpHeader) : Prop :=
  1 ≤ h.name.length ∧ h.name.length ≤ maxHttpHeaderNameBytes ∧ isHttpToken h.name ∧
    (∀ c ∈ h.value.toList, c.toNat < 256) ∧ h.value.length ≤ maxHeaderValueBytes ∧
    (∀ c ∈ [h.value.toList.head?, h.value.toList.getLast?], c ≠ some ' ' ∧ c ≠ some '\t') ∧
    hasInvalidFieldValue (h.value.toList.map fun c => UInt8.ofNat c.toNat) = false ∧
    h.owner ≠ .client

instance (h : HttpHeader) : Decidable h.Valid := inferInstanceAs (Decidable (_ ∧ _))

structure HttpAttemptCommand where
  policy : DestinationPolicy
  body : Bytes
  headers : List HttpHeader
  headers_valid : ∀ h ∈ headers, h.Valid

inductive HttpInputErrorCode where
  | invalidHeader
  | forbiddenHeader
  | duplicateHeader
  | requestTooLarge
  | requestTargetInvalid
  deriving DecidableEq, Repr

structure HttpInputError where
  code : HttpInputErrorCode
  message : String
  deriving DecidableEq, Repr

def forbiddenUserHeaders : List String :=
  ["host", "content-length", "transfer-encoding", "connection", "proxy-authorization", "te",
    "trailer", "upgrade"]

def clientOwnedHeaders : List String :=
  ["host", "content-length", "accept-encoding", "user-agent", "connection", "transfer-encoding",
    "proxy-authorization", "te", "trailer", "upgrade"]

def maxRequestHeaders : Nat := 128

def requestTooLarge (message : String) : HttpInputError := ⟨.requestTooLarge, message⟩

def checkHeaderName (seen : List String) (h : HttpHeader) : Except HttpInputError (List String) := do
  let normalized := casefold h.name
  require (normalized ∉ if h.owner = .user then forbiddenUserHeaders else clientOwnedHeaders)
    ⟨.forbiddenHeader, "request header is reserved by the HTTP transport"⟩
  require (normalized ∉ clientOwnedHeaders)
    ⟨.forbiddenHeader, "request header conflicts with generated transport framing"⟩
  require (normalized ∉ seen)
    ⟨.duplicateHeader, "request header names must be unique case-insensitively"⟩
  return normalized :: seen

/-- `urllib.parse.quote` with the given safe characters. -/
def quote (safe : List Char) (text : String) : Bytes :=
  (utf8 text).flatMap fun b =>
    let c := Char.ofNat b.toNat
    if b < 128 ∧ (c.isAlphanum ∨ c ∈ "_.-~".toList ∨ c ∈ safe) then [b]
    else utf8 "%" ++ (ByteText.toHex [b]).map fun d => UInt8.ofNat d.toUpper.toNat

def requestTarget (destination : DestinationFields) : Except HttpInputError Bytes := do
  let path := if destination.path = "" then "/" else destination.path
  let rendered := quote "/:@-._~!$&'()*+,;=%".toList path ++
    if destination.query = "" then []
    else utf8 "?" ++ quote "/?:@-._~!$&'()*+,;=%".toList destination.query
  require (rendered ≠ [] ∧ rendered.length ≤ 4096 ∧ 13 ∉ rendered ∧ 10 ∉ rendered)
    ⟨.requestTargetInvalid, "request target is outside the bounded HTTP origin-form contract"⟩
  return rendered

def userAgent : String := "webhook-receiver-conformance/0.1"

def generatedHeaders (command : HttpAttemptCommand) : List (String × String) :=
  [("Host", command.policy.destination.authority), ("User-Agent", userAgent),
    ("Accept-Encoding", "identity"), ("Content-Length", toString command.body.length),
    ("Connection", "close")]

def latin1Bytes (text : String) : Bytes := text.toList.map fun c => UInt8.ofNat c.toNat

structure WireRequest where
  head : Bytes
  body : Bytes
  evidence : RequestEvidence
  deriving DecidableEq, Repr

def headLine (header : String × String) : Bytes :=
  latin1Bytes header.1 ++ utf8 ": " ++ latin1Bytes header.2 ++ crlf

/-- `_build_wire_request`. -/
def buildWireRequest (settings : ReadSettings) (command : HttpAttemptCommand) :
    Except HttpInputError WireRequest := do
  require (command.body.length ≤ settings.limits.maxRequestBytes)
    (requestTooLarge "realized request body exceeds the configured resource limit")
  require (command.headers.length ≤ maxRequestHeaders)
    (requestTooLarge "request header count exceeds the configured resource limit")
  let _ ← runAll checkHeaderName [] command.headers
  let target ← requestTarget command.policy.destination.toDestinationFields
  let generated := generatedHeaders command
  let head := utf8 "POST " ++ target ++ utf8 " HTTP/1.1" ++ crlf ++
    (command.headers.map (fun h => (h.name, h.value)) ++ generated).flatMap headLine ++ crlf
  require (head.length ≤ settings.limits.maxHeaderBytes)
    (requestTooLarge "serialized request head exceeds the configured resource limit")
  return {
    head
    body := command.body
    evidence := {
      bodySha256 := settings.sha256 command.body
      bodyBytes := command.body.length
      headers := command.headers.map (fun h => (h.name, h.owner)) ++
        generated.map fun h => (h.1, .client) } }

end Requests

section States

/-- What an execution does to its surroundings, and two marks of its own: a head was parsed, the
reading of a body ended. -/
inductive ExecutorEvent where
  | sinkCalled (checkpoint : AttemptProgressCheckpoint)
  | sinkReturned (checkpoint : AttemptProgressCheckpoint)
  | dialCalled
  | sendCalled
  | receiveCalled
  | headParsed
  | bodyEnded
  | deadlineFired
  deriving DecidableEq, Repr

structure AttemptProgress where
  startedNs : Nat
  poolStartedNs : Nat
  poolElapsedNs : Nat
  connectStartedNs : Option Nat
  connectElapsedNs : Nat
  sendStartedNs : Option Nat
  writeElapsedNs : Option Nat
  headersCompletedNs : Option Nat
  peer : Option PeerEvidence
  response : Option CapturedResponse
  requestBytesMayHaveLeft : Bool
  phase : AttemptPhase
  deriving DecidableEq, Repr

def AttemptProgress.start (now : Nat) : AttemptProgress :=
  ⟨now, now, 0, none, 0, none, none, none, none, none, false, .pool⟩

/-- The surroundings of an execution, over a state of their own. A clock reading adds to the one
before it; a cancellation comes from the total deadline or from outside. -/
structure Surroundings (ω : Type) where
  hasSink : Bool
  clock : ω → Nat × ω
  openShell : ω → Exit Unit Unit × ω
  acquire : ω → Exit Unit Unit × ω
  sink : AttemptProgressCheckpoint → ω → Exit Unit Unit × ω
  dial : ω → Exit DialException PinnedConnection × ω
  send : Bytes → ω → Exit IoFailure Unit × ω
  receive : Nat → ω → Exit IoFailure Bytes × ω
  close : ω → ω
  closeShell : ω → Exit Unit Unit × ω
  deadlineFired : ω → Bool

structure ExecutorState (ω : Type) where
  world : ω
  now : Nat
  progress : AttemptProgress
  trace : List ExecutorEvent

inductive ExecuteFailure where
  | input (error : HttpInputError)
  | progress (checkpoint : AttemptProgressCheckpoint)
  | clock
  | message
  | evidence
  | response
  | shell
  deriving DecidableEq, Repr

end States

namespace HttpAttemptExecutor

variable {ω : Type} (around : Surroundings ω)

/-- A part of the execution that raises errors of one kind. -/
abbrev Executing (ω ε α : Type) := Program (ExecutorState ω) ε α

def record {ε : Type} (event : ExecutorEvent) : Executing ω ε Unit :=
  update fun s => { s with trace := s.trace ++ [event] }

def progressed {ε : Type} (f : AttemptProgress → AttemptProgress) : Executing ω ε Unit :=
  update fun s => { s with progress := f s.progress }

def progress {ε : Type} : Executing ω ε AttemptProgress := fun s => (.returned s.progress, s)

/-- An await of the surroundings. -/
def await {ε α : Type} (effect : ω → Exit ε α × ω) : Executing ω ε α := fun s =>
  ((effect s.world).1, { s with world := (effect s.world).2 })

def readClock : Executing ω ExecuteFailure Nat := fun s =>
  let reading := s.now + (around.clock s.world).1
  if reading ≤ int64Max then
    (.returned reading, { s with world := (around.clock s.world).2, now := reading })
  else (.raised .clock, { s with world := (around.clock s.world).2 })

def elapsedSince (started : Nat) : Executing ω ExecuteFailure Nat := do
  let now ← readClock around
  if started ≤ now then pure (now - started) else raise .clock

def timingsOf (p : AttemptProgress) (now : Nat) : AttemptTimings where
  totalElapsedNs := max 0 ((now : Int) - p.startedNs)
  poolElapsedNs := p.poolElapsedNs
  connectElapsedNs := p.connectElapsedNs
  writeElapsedNs := p.writeElapsedNs.map Int.ofNat
  responseHeadersElapsedNs :=
    match p.sendStartedNs, p.headersCompletedNs with
    | some started, some completed => some ((completed : Int) - started)
    | _, _ => none
  requestSendStartedNs := p.sendStartedNs.map Int.ofNat
  responseHeadersCompletedNs := p.headersCompletedNs.map Int.ofNat

def outcomeOf (p : AttemptProgress) : AttemptOutcome :=
  if p.response.isSome then .response
  else if p.requestBytesMayHaveLeft then .unknownOutcome
  else .notSent

/-- `_result`: the timings and the result check themselves. -/
def result (request : RequestEvidence) (error : Option ReportedError) :
    Executing ω ExecuteFailure TransportResult := do
  let now ← readClock around
  let p ← progress
  let timings := timingsOf p now
  let fields : ResultFields :=
    ⟨outcomeOf p, request, timings, p.response, p.peer, error, p.requestBytesMayHaveLeft⟩
  if h : timings.Valid ∧ fields.Valid then pure ⟨fields, h.2⟩ else raise .evidence

def failureResult (request : RequestEvidence) (code : AttemptErrorCode) (phase : AttemptPhase)
    (message : String) (retryable : Bool) : Executing ω ExecuteFailure TransportResult :=
  if LineSafe message then result around request (some ⟨⟨code, retryable⟩, phase, message⟩)
  else raise .message

def checkpoint (c : AttemptProgressCheckpoint) : Executing ω ExecuteFailure Unit :=
  if around.hasSink then do
    record (.sinkCalled c)
    (await (around.sink c)).handle fun _ => raise (.progress c)
    record (.sinkReturned c)
  else pure ()

def classifyDialError (error : PinnedDialError) : AttemptErrorCode × AttemptPhase :=
  if error.code = .connectTimeout then (.connectTimeout, .connect)
  else if error.code = .tlsFailed then (.tlsError, .connect)
  else if error.phase = .resolution then (.connectionError, .resolution)
  else if error.phase = .tlsConfiguration then (.tlsError, .connect)
  else (.connectionError, .connect)

variable (settings : ReadSettings) (wire : WireRequest)

/-- The body in pieces of one mebibyte. -/
def bodyPieces : Nat → Bytes → List Bytes
  | 0, _ => []
  | _, [] => []
  | fuel + 1, body => body.take 1048576 :: bodyPieces fuel (body.drop 1048576)

def sendPiece (piece : Bytes) : Executing ω IoFailure Unit := do
  record .sendCalled
  await (around.send piece)

def sendPieces : List Bytes → Executing ω IoFailure Unit
  | [] => pure ()
  | piece :: pieces => do
    sendPiece around piece
    sendPieces pieces

def writeElapsed (started : Nat) : Executing ω ExecuteFailure Unit := do
  let elapsed ← elapsedSince around started
  progressed fun p => { p with writeElapsedNs := some elapsed }

/-- `_send_request`: nothing, or the failure of the write. -/
def sendRequest : Executing ω ExecuteFailure (Option TransportResult) := do
  progressed fun p => { p with phase := .write }
  let started ← readClock around
  progressed fun p => { p with sendStartedNs := some started }
  checkpoint around .requestSendStarted
  progressed fun p => { p with requestBytesMayHaveLeft := true }
  let failed ← (sendPieces around (wire.head :: bodyPieces wire.body.length wire.body) >>=
      fun _ => pure none).handle fun failure => pure (some failure)
  writeElapsed around started
  match failed with
  | none => pure none
  | some .timeout =>
    some <$> failureResult around wire.evidence .writeTimeout .write
      "request write exceeded its physical timeout" true
  | some _ =>
    some <$> failureResult around wire.evidence .connectionError .write
      "connection failed while writing the request" true

def receiveFrom (maximum : Nat) : Executing ω IoFailure Bytes := do
  record .receiveCalled
  await (around.receive maximum)

/-- The evidence of a response, whose checks end the execution if they fail. -/
def keepResponse (response : CapturedResponse) : Executing ω ExecuteFailure Unit :=
  if response.Valid then progressed fun p => { p with response := some response }
  else raise .response

def readFailed (code : AttemptErrorCode) (phase : AttemptPhase) (message : String)
    (retryable : Bool) : Executing ω ExecuteFailure TransportResult :=
  failureResult around wire.evidence code phase message retryable

/-- How the reading of a head ends. -/
def headFailure : ReadFailure → Executing ω ExecuteFailure TransportResult
  | .timeout => readFailed around wire .readTimeout .responseHeaders
      "response headers exceeded the physical read timeout" true
  | .bodyTimeout _ _ => readFailed around wire .readTimeout .responseHeaders
      "response headers exceeded the physical read timeout" true
  | .protocol _ => readFailed around wire .protocolError .responseHeaders
      "response head violated the bounded HTTP/1.1 contract" false
  | _ => readFailed around wire .connectionError .responseHeaders
      "connection failed before complete response headers" true

def headMediaType (head : HeadFields) : Option String :=
  (responseMediaType head.headers).toOption.join

/-- How the reading of a body ends early. -/
def bodyFailure (head : HeadFields) : ReadFailure → Executing ω ExecuteFailure TransportResult
  | .bodyTimeout body total => do
    keepResponse (responseEvidence settings head body true total
      settings.limits.responseCaptureBytes false (headMediaType head))
    readFailed around wire .readTimeout .responseBody
      "response body exceeded the physical read timeout" true
  | .tooLarge response => do
    progressed fun p => { p with response := some response }
    readFailed around wire .responseTooLarge .responseBody
      "response exceeded the bounded body drain limit" false
  | .protocol _ => do
    keepResponse (emptyResponseFromHead settings head (headMediaType head))
    readFailed around wire .protocolError .responseBody
      "response body framing violated HTTP/1.1" false
  | _ => do
    keepResponse (emptyResponseFromHead settings head (headMediaType head))
    readFailed around wire .connectionError .responseBody
      "connection failed while reading the response body" true

/-- An exit as a value, for a handler that goes on after it. -/
def attempted {ε ε' α : Type} (x : Executing ω ε α) : Executing ω ε' (Except ε α) :=
  (x >>= fun a => pure (Except.ok a)).handle fun e => pure (.error e)

/-- The body after its head. -/
def readBody (head : HeadFields) (rest : Bytes) : Executing ω ExecuteFailure TransportResult := do
  let completed ← readClock around
  progressed fun p => { p with headersCompletedNs := some completed, phase := .responseBody }
  let body ← attempted (readResponseBody (receiveFrom around) settings head rest)
  record .bodyEnded
  match body with
  | .ok response => do
    progressed fun p => { p with response := some response }
    result around wire.evidence none
  | .error failure => bodyFailure around settings wire head failure

def readResponse : Executing ω ExecuteFailure TransportResult := do
  progressed fun p => { p with phase := .responseHeaders }
  let head ← attempted (readFinalResponseHead (receiveFrom around) settings)
  match head with
  | .ok (head, rest) => do
    record .headParsed
    readBody around settings wire head rest
  | .error failure => headFailure around wire failure

/-- `_use_connection`: the stream is closed on every way out. -/
def useConnection : Executing ω ExecuteFailure TransportResult :=
  (do
    let failed ← sendRequest around wire
    match failed with
    | some failure => pure failure
    | none => do
      checkpoint around .awaitingResponse
      readResponse around settings wire).cleanUp
    fun s => { s with
      world := around.close s.world
      progress := { s.progress with phase := .close } }

def connectElapsed (started : Nat) : Executing ω ExecuteFailure Unit := do
  let elapsed ← elapsedSince around started
  progressed fun p => { p with connectElapsedNs := elapsed }

/-- How a dial ends; what is neither a dial error nor one of TLS is a failed connection. -/
def dialFailure : DialException → Executing ω ExecuteFailure TransportResult
  | .pinned error =>
    failureResult around wire.evidence (classifyDialError error).1 (classifyDialError error).2
      error.message error.retryable
  | .tls => failureResult around wire.evidence .tlsError .connect "verified TLS connection failed"
      false
  | .policy _ => failureResult around wire.evidence .connectionError .connect
      "pinned connection failed" true
  | .other => failureResult around wire.evidence .connectionError .connect
      "pinned connection failed" true

def peerEvidence (connection : PinnedConnection) : PeerEvidence :=
  ⟨connection.evidence.authorizedAddress, connection.evidence.authorizedFamily,
    connection.evidence.peerAddress, connection.evidence.peerFamily,
    connection.plan.tlsContext.isSome⟩

def executeConnected : Executing ω ExecuteFailure TransportResult := do
  progressed fun p => { p with phase := .connect }
  let started ← readClock around
  progressed fun p => { p with connectStartedNs := some started }
  checkpoint around .connectionAttemptStarted
  record .dialCalled
  let dialed ← attempted (await around.dial)
  connectElapsed around started
  match dialed with
  | .ok connection => do
    progressed fun p => { p with peer := some (peerEvidence connection) }
    useConnection around settings wire
  | .error failure => dialFailure around wire failure

def executeWithSlot : Executing ω ExecuteFailure TransportResult := do
  let acquired ← attempted (await around.acquire)
  match acquired with
  | .error _ =>
    failureResult around wire.evidence .poolTimeout .pool
      "connection slot acquisition exceeded its physical timeout" true
  | .ok _ => do
    let p ← progress
    let elapsed ← elapsedSince around p.poolStartedNs
    progressed fun p => { p with poolElapsedNs := elapsed }
    executeConnected around settings wire

/-- The one-shot shell around the attempt, whose own awaits may be cancelled as well. -/
def executeShell : Executing ω ExecuteFailure TransportResult := do
  (await around.openShell).handle fun _ => raise .shell
  let r ← executeWithSlot around settings wire
  (await around.closeShell).handle fun _ => raise .shell
  pure r

/-- The end of a cancelled attempt: a result if its own deadline has fired. -/
def executeCancelled : Executing ω ExecuteFailure TransportResult := fun s =>
  if around.deadlineFired s.world then
    (do
      record .deadlineFired
      let p ← progress
      failureResult around wire.evidence .totalTimeout p.phase
        "attempt exceeded its total physical timeout" true) s
  else (.cancelled, s)

/-- The attempt behind a request, from its first clock reading. -/
def executeWire : Executing ω ExecuteFailure TransportResult := do
  let started ← readClock around
  progressed fun _ => .start started
  (executeShell around settings wire).onCancelled (executeCancelled around wire)

/-- `HttpAttemptExecutor.execute`. -/
def execute (command : HttpAttemptCommand) : Executing ω ExecuteFailure TransportResult :=
  match buildWireRequest settings command with
  | .error e => raise (.input e)
  | .ok wire => executeWire around settings wire

end HttpAttemptExecutor

end WebhookConformance
