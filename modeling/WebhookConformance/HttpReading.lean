import WebhookConformance.HttpEvidence
import WebhookConformance.Library.Scanning

/-! Reading one HTTP/1.1 response from a stream (`http/executor.py`): the head with the informational
heads before it, and the three framings of a body. The stream is any source of bytes. -/
namespace WebhookConformance

open Checked Program Scanning

section Limits

/-- The proofs are the checks of `HttpLimits.__post_init__`. -/
structure HttpLimits where
  maxRequestBytes : Nat
  responseCaptureBytes : Nat
  responseDrainBytes : Nat
  maxHeaderBytes : Nat
  maxHeaders : Nat
  request_range : 1 ≤ maxRequestBytes ∧ maxRequestBytes ≤ 16777216
  capture_range : 1 ≤ responseCaptureBytes ∧ responseCaptureBytes ≤ responseDrainBytes
  drain_range : responseDrainBytes ≤ 1048576
  header_range : 1024 ≤ maxHeaderBytes ∧ maxHeaderBytes ≤ 1048576
  headers_range : 1 ≤ maxHeaders ∧ maxHeaders ≤ 1024

def defaultLimits : HttpLimits where
  maxRequestBytes := 1048576
  responseCaptureBytes := 65536
  responseDrainBytes := 1048576
  maxHeaderBytes := 65536
  maxHeaders := 128
  request_range := by decide
  capture_range := by decide
  drain_range := by decide
  header_range := by decide
  headers_range := by decide

def maxReceiveBytes : Nat := 65536
def maxHeaderValueBytes : Nat := 8192
def maxHttpHeaderNameBytes : Nat := 256

end Limits

section Heads

def crlf : Bytes := [13, 10]
def headEnd : Bytes := [13, 10, 13, 10]

/-- `_has_invalid_field_value`. -/
def hasInvalidFieldValue (value : Bytes) : Bool := value.any fun b => b = 127 || (b < 32 && b != 9)

def splitCrlf : Bytes → List Bytes
  | [] => [[]]
  | 13 :: 10 :: rest => [] :: splitCrlf rest
  | b :: rest =>
    match splitCrlf rest with
    | [] => [[b]]
    | line :: lines => (b :: line) :: lines

def latin1 (bytes : Bytes) : String := String.ofList (bytes.map fun b => Char.ofNat b.toNat)

/-- `[!#$%&'*+\-.^_|~0-9A-Za-z]+` and the backtick. -/
def isHttpToken (name : String) : Bool := !name.toList.isEmpty && name.toList.all isHeaderToken

def isDigitByte (b : UInt8) : Bool := 48 ≤ b && b ≤ 57

/-- `HTTP/1\.1 ([1-5][0-9]{2})(?: ([\x20-\x7e\t]*))?`. -/
def parseStatusLine (line : Bytes) : Option Nat :=
  if utf8 "HTTP/1.1 " <+: line then
    match line.drop 9 with
    | a :: b :: c :: reason =>
      if 49 ≤ a ∧ a ≤ 53 ∧ isDigitByte b ∧ isDigitByte c ∧
          (reason = [] ∨ reason.head? = some 32 ∧
            reason.all fun x => (32 ≤ x && x ≤ 126) || x = 9) then
        some (100 * (a.toNat - 48) + 10 * (b.toNat - 48) + (c.toNat - 48))
      else none
    | _ => none
  else none

def stripBlanks (value : Bytes) : Bytes :=
  let blank : UInt8 → Bool := fun b => b = 32 || b = 9
  ((value.dropWhile blank).reverse.dropWhile blank).reverse

def parseHeaderLine (line : Bytes) : Except String (String × String) := do
  require (line ≠ [] ∧ line.head? ≠ some 32 ∧ line.head? ≠ some 9 ∧ 58 ∈ line)
    "malformed or folded response header"
  let rawName := line.takeWhile (· ≠ 58)
  let rawValue := line.drop (rawName.length + 1)
  require (rawName.length ≤ maxHttpHeaderNameBytes) "response header name exceeded its limit"
  require (rawName.all (· < 128)) "response header encoding is invalid"
  require (isHttpToken (latin1 rawName)) "response header name is not an HTTP token"
  require (rawValue.length ≤ maxHeaderValueBytes ∧ hasInvalidFieldValue rawValue = false)
    "response header value is invalid"
  return (latin1 rawName, latin1 (stripBlanks rawValue))

def headerValues (headers : List (String × String)) (name : String) : List String :=
  (headers.filter fun h => casefold h.1 = name).map Prod.snd

/-- `_header_map(headers).get(name)`. -/
def headerValue? (headers : List (String × String)) (name : String) : Option String :=
  (headerValues headers name).getLast?

def parseContentLength (value : String) : Except String Nat := do
  require (value.toList.length ≤ 19 ∧ value.toList ≠ [] ∧ value.toList.all Char.isDigit ∧
      (value = "0" ∨ value.toList.head? ≠ some '0'))
    "response content length is malformed"
  let parsed := InternetAddress.readDecimal value.toList
  require (parsed ≤ int64Max) "response content length exceeds signed-int64 range"
  return parsed

def validateResponseFraming (headers : List (String × String)) : Except String Unit := do
  let lengths := headerValues headers "content-length"
  let encodings := headerValues headers "transfer-encoding"
  require (lengths.length ≤ 1 ∧ encodings.length ≤ 1 ∧ (lengths = [] ∨ encodings = []))
    "response contains conflicting framing headers"
  for value in lengths do
    let _ ← parseContentLength value
  require (∀ value ∈ encodings, casefold value = "chunked")
    "unsupported response transfer encoding"

def isMediaType (text : List Char) : Bool :=
  match ByteText.splitOn '/' text with
  | [type, subtype] => isHttpToken (String.ofList type) && isHttpToken (String.ofList subtype)
  | _ => false

def responseMediaType (headers : List (String × String)) : Except String (Option String) :=
  match headerValues headers "content-type" with
  | [] => .ok none
  | [value] => do
    let mediaType := stripSpaces (value.toList.takeWhile (· ≠ ';'))
    require (isMediaType mediaType) "response content type is malformed"
    return some (casefold (String.ofList mediaType))
  | _ => .error "response contains duplicate content-type headers"

structure HeadFields where
  status : Nat
  headers : List (String × String)
  deriving DecidableEq, Repr

def parseResponseHead (limits : HttpLimits) (block : Bytes) : Except String HeadFields :=
  match splitCrlf block with
  | [] => .error "malformed HTTP/1.1 status line"
  | statusLine :: lines =>
    match parseStatusLine statusLine with
    | none => .error "malformed HTTP/1.1 status line"
    | some status => do
      require (lines.length ≤ limits.maxHeaders) "response header count exceeded its limit"
      let headers ← lines.mapM parseHeaderLine
      validateResponseFraming headers
      let _ ← responseMediaType headers
      return ⟨status, headers⟩

/-- An informational head that may be followed by another one. -/
def checkInformational (head : HeadFields) : Except String Unit := do
  require (head.status ≠ 101) "protocol switching is unsupported"
  require (headerValue? head.headers "content-length" = none ∧
      headerValue? head.headers "transfer-encoding" = none)
    "informational response contains forbidden body framing"

def HeadFields.informational (head : HeadFields) : Prop := 100 ≤ head.status ∧ head.status < 200

instance (head : HeadFields) : Decidable head.informational := inferInstanceAs (Decidable (_ ∧ _))

end Heads

section Chunks

def hexByteValue (b : UInt8) : Option Nat := InternetAddress.hexDigitValue (Char.ofNat b.toNat)

/-- The size in a chunk line, which may carry an extension. -/
def parseChunkSize (line : Bytes) : Except String Nat := do
  let rawSize := line.takeWhile (· ≠ 59)
  let extension := line.drop rawSize.length
  require (rawSize ≠ [] ∧ rawSize.length ≤ 16 ∧ hasInvalidFieldValue extension = false)
    "chunk size is malformed"
  match rawSize.mapM hexByteValue with
  | none => .error "chunk size is malformed"
  | some digits => return digits.foldl (fun n digit => 16 * n + digit) 0

def checkTrailer (trailer : Bytes) : Except String Unit := do
  require (trailer.head? ≠ some 32 ∧ trailer.head? ≠ some 9 ∧ 58 ∈ trailer)
    "response trailer is malformed or folded"
  let name := trailer.takeWhile (· ≠ 58)
  let value := trailer.drop (name.length + 1)
  require (name.all (· < 128)) "response trailer name is invalid"
  require (name.length ≤ maxHttpHeaderNameBytes ∧ isHttpToken (latin1 name))
    "response trailer name is not an HTTP token"
  require (casefold (latin1 name) ∉ ["content-length", "transfer-encoding"] ∧
      hasInvalidFieldValue value = false)
    "response trailer contains forbidden framing"

end Chunks

section Evidence

/-- What reading needs besides the stream. -/
structure ReadSettings where
  limits : HttpLimits
  sha256 : Bytes → String
  redactor : Bytes → Bytes

variable (settings : ReadSettings)

/-- `_response_evidence`, before its checks. -/
def responseEvidence (head : HeadFields) (body : Bytes) (truncated : Bool) (bodyBytes : Nat)
    (captureLimit : Nat) (bodyComplete : Bool) (mediaType : Option String) : CapturedResponse where
  status := head.status
  bodyComplete := bodyComplete
  headers := head.headers.map Prod.fst
  bodySha256 := if bodyComplete then some (settings.sha256 body) else none
  observedBodySha256 := settings.sha256 body
  bodyBytes := bodyBytes
  observedBodyBytes := body.length
  capturedBody := (settings.redactor (body.take captureLimit)).take captureLimit
  truncated := truncated
  mediaType := mediaType

/-- `_empty_response_from_head`. -/
def emptyResponseFromHead (head : HeadFields) (mediaType : Option String) : CapturedResponse where
  status := head.status
  bodyComplete := false
  headers := head.headers.map Prod.fst
  bodySha256 := none
  observedBodySha256 := settings.sha256 []
  bodyBytes := 0
  observedBodyBytes := 0
  capturedBody := []
  truncated := true
  mediaType := mediaType

end Evidence

section Reading

inductive IoFailure where
  | timeout
  | endOfStream
  | other
  deriving DecidableEq, Repr

inductive ReadFailure where
  | timeout
  | protocol (message : String)
  | tooLarge (response : CapturedResponse)
  | bodyTimeout (body : Bytes) (totalBodyBytes : Nat)
  | other
  deriving DecidableEq, Repr

variable {σ : Type} (receive : Nat → Program σ IoFailure Bytes) (settings : ReadSettings)

/-- A check whose failure is a violation of the protocol. -/
def checked {α : Type} : Except String α → Program σ ReadFailure α
  | .ok a => pure a
  | .error message => raise (.protocol message)

def receiveBytes (maximum : Nat) (allowEof : Bool) : Program σ ReadFailure Bytes :=
  (receive maximum).handle fun
    | .timeout => raise .timeout
    | .endOfStream =>
      if allowEof then pure [] else raise (.protocol "response stream ended unexpectedly")
    | .other => raise .other

/-- Read until the buffer holds a whole head. Each pass adds a byte, so the fuel outlasts the limit. -/
def fillHead : Nat → Bytes → Program σ ReadFailure (Bytes × Nat)
  | 0, _ => raise (.protocol "response headers exceeded their byte limit")
  | fuel + 1, buffer =>
    match indexOf headEnd buffer with
    | some delimiter => pure (buffer, delimiter)
    | none =>
      if settings.limits.maxHeaderBytes ≤ buffer.length then
        raise (.protocol "response headers exceeded their byte limit")
      else do
        let chunk ← receiveBytes receive
          (min maxReceiveBytes (settings.limits.maxHeaderBytes - buffer.length)) false
        if chunk = [] then raise (.protocol "response ended before complete headers")
        else fillHead fuel (buffer ++ chunk)

/-- `_read_final_response_head`, from a buffer and the bytes of the heads before it. A head has at
least four bytes, so the fuel outlasts the limit on their sum. -/
def readHeads : Nat → Bytes → Nat → Program σ ReadFailure (HeadFields × Bytes)
  | 0, _, _ => raise (.protocol "response headers exceeded their cumulative byte limit")
  | fuel + 1, buffer, total => do
    let (filled, delimiter) ← fillHead receive settings (settings.limits.maxHeaderBytes + 1) buffer
    let total := total + (delimiter + 4)
    if settings.limits.maxHeaderBytes < total then
      raise (.protocol "response headers exceeded their cumulative byte limit")
    else do
      let head ← checked (parseResponseHead settings.limits (filled.take delimiter))
      let rest := filled.drop (delimiter + 4)
      if head.informational then do
        checked (checkInformational head)
        readHeads fuel rest total
      else pure (head, rest)

def readFinalResponseHead : Program σ ReadFailure (HeadFields × Bytes) :=
  readHeads receive settings (settings.limits.maxHeaderBytes + 1) [] 0

def readContentLength (expected : Nat) : Nat → Bytes → Program σ ReadFailure Bytes
  | 0, body => pure body
  | fuel + 1, body =>
    if expected ≤ body.length then pure body
    else do
      let chunk ← (receiveBytes receive (min maxReceiveBytes (expected - body.length)) false).handle
        fun
          | .timeout => raise (.bodyTimeout body expected)
          | failure => raise failure
      if chunk = [] then raise (.protocol "response ended before its declared content length")
      else readContentLength expected fuel (body ++ chunk)

def readUntilClose (limit : Nat) : Nat → Bytes → Program σ ReadFailure (Bytes × Bool)
  | 0, body => pure (body, true)
  | fuel + 1, body =>
    if limit ≤ body.length then pure (body, true)
    else do
      let chunk ← (receiveBytes receive (min maxReceiveBytes (limit - body.length)) true).handle
        fun
          | .timeout => raise (.bodyTimeout body body.length)
          | failure => raise failure
      if chunk = [] then pure (body, false)
      else readUntilClose limit fuel (body ++ chunk)

/-- `_read_line`: the line and the buffer after it. -/
def readLine (maximum : Nat) : Nat → Bytes → Program σ ReadFailure (Bytes × Bytes)
  | 0, _ => raise (.protocol "HTTP/1.1 line exceeded its bound")
  | fuel + 1, buffer =>
    match indexOf crlf buffer with
    | some delimiter =>
      if maximum < delimiter then raise (.protocol "HTTP/1.1 line exceeded its bound")
      else pure (buffer.take delimiter, buffer.drop (delimiter + 2))
    | none =>
      if maximum ≤ buffer.length then raise (.protocol "HTTP/1.1 line exceeded its bound")
      else do
        let chunk ← receiveBytes receive (min maxReceiveBytes (maximum - buffer.length)) false
        if chunk = [] then raise (.protocol "response ended within an HTTP/1.1 line")
        else readLine maximum fuel (buffer ++ chunk)

def nextLine (buffer : Bytes) : Program σ ReadFailure (Bytes × Bytes) :=
  readLine receive maxHeaderValueBytes (maxHeaderValueBytes + 1) buffer

def fillBuffer (required : Nat) : Nat → Bytes → Program σ ReadFailure Bytes
  | 0, buffer => pure buffer
  | fuel + 1, buffer =>
    if required ≤ buffer.length then pure buffer
    else do
      let chunk ← receiveBytes receive (min maxReceiveBytes (required - buffer.length)) false
      if chunk = [] then raise (.protocol "response ended within chunk data")
      else fillBuffer required fuel (buffer ++ chunk)

/-- The trailers after the last chunk; their number is bounded. -/
def readTrailers : Nat → Bytes → Nat → Program σ ReadFailure Unit
  | 0, _, _ => raise (.protocol "response trailer count exceeded its limit")
  | fuel + 1, buffer, trailerBytes => do
    let (trailer, rest) ← nextLine receive buffer
    let trailerBytes := trailerBytes + (trailer.length + 2)
    if settings.limits.maxHeaderBytes < trailerBytes then
      raise (.protocol "response trailers exceeded their byte limit")
    else if trailer = [] then
      if rest = [] then pure ()
      else raise (.protocol "bytes followed the terminal response chunk")
    else if fuel = 0 then raise (.protocol "response trailer count exceeded its limit")
    else do
      checked (checkTrailer trailer)
      readTrailers fuel rest trailerBytes

/-- `_read_chunked`. Each chunk but the last adds a byte to the body, so the fuel outlasts the drain
limit. -/
def readChunks : Nat → Bytes → Bytes → Program σ ReadFailure (Bytes × Bool)
  | 0, _, body => pure (body, true)
  | fuel + 1, buffer, body => do
    let (line, rest) ← nextLine receive buffer
    let size ← checked (parseChunkSize line)
    if settings.limits.responseDrainBytes - body.length < size then pure (body, true)
    else if size = 0 then do
      readTrailers receive settings (settings.limits.maxHeaders + 1) rest 0
      pure (body, false)
    else do
      let filled ← (fillBuffer receive (size + 2) (size + 3) rest).handle fun
        | .timeout => raise (.bodyTimeout body body.length)
        | failure => raise failure
      if (filled.drop size).take 2 = crlf then
        readChunks fuel (filled.drop (size + 2)) (body ++ filled.take size)
      else raise (.protocol "chunk data lacks its CRLF terminator")

def noBodyStatuses : List Nat := [204, 205, 304]

/-- The evidence of a response, whose checks may fail. -/
def captured (response : CapturedResponse) : Program σ ReadFailure CapturedResponse :=
  if response.Valid then pure response else raise .other

/-- The end of a body that was read. -/
def finishBody (head : HeadFields) (mediaType : Option String) (body : Bytes) (truncated : Bool) :
    Program σ ReadFailure CapturedResponse := do
  let limit := settings.limits.responseCaptureBytes
  let response ← captured (responseEvidence settings head body (truncated || limit < body.length)
    body.length limit (!truncated) mediaType)
  if truncated then raise (.tooLarge response) else pure response

def readBodyless (head : HeadFields) (mediaType : Option String) (bodyPrefix : Bytes) :
    Program σ ReadFailure CapturedResponse :=
  if bodyPrefix ≠ [] then raise (.protocol "body bytes followed a bodyless response")
  else if (headerValue? head.headers "transfer-encoding").isSome then
    raise (.protocol "bodyless response declares transfer encoding")
  else if (headerValue? head.headers "content-length").any (· ≠ "0") then
    raise (.protocol "bodyless response declares a nonzero body")
  else captured (responseEvidence settings head [] false 0 65536 true mediaType)

def readDeclared (head : HeadFields) (mediaType : Option String) (bodyPrefix : Bytes)
    (expected : Nat) : Program σ ReadFailure CapturedResponse :=
  if settings.limits.responseDrainBytes < expected then do
    let response ← captured (responseEvidence settings head
      (bodyPrefix.take settings.limits.responseDrainBytes) true expected
      settings.limits.responseCaptureBytes false mediaType)
    raise (.tooLarge response)
  else if expected < bodyPrefix.length then
    raise (.protocol "bytes followed the declared response content length")
  else do
    let body ← readContentLength receive expected (expected + 1) bodyPrefix
    finishBody settings head mediaType body false

/-- `_read_response_body`; the media type is the one of the head. -/
def readResponseBody (head : HeadFields) (bodyPrefix : Bytes) :
    Program σ ReadFailure CapturedResponse := do
  let mediaType ← checked (responseMediaType head.headers)
  if head.status ∈ noBodyStatuses ∨ head.informational then
    readBodyless settings head mediaType bodyPrefix
  else if (headerValue? head.headers "transfer-encoding").isSome then do
    let (body, truncated) ← readChunks receive settings
      (settings.limits.responseDrainBytes + 1) bodyPrefix []
    finishBody settings head mediaType body truncated
  else match headerValue? head.headers "content-length" with
    | some declared => do
      let expected ← checked (parseContentLength declared)
      readDeclared receive settings head mediaType bodyPrefix expected
    | none => do
      let limit := settings.limits.responseDrainBytes
      let (body, truncated) ←
        if limit < bodyPrefix.length then pure (bodyPrefix.take limit, true)
        else readUntilClose receive limit (limit + 1) bodyPrefix
      finishBody settings head mediaType body truncated

end Reading

/-! Reading touches the state only through the stream, and what it keeps of a response has passed
the checks of its evidence. -/
section Frame

/-- A response that is too large comes with evidence that was checked. -/
def ReadFailure.Checked : ReadFailure → Prop
  | .tooLarge response => response.Valid
  | _ => True

variable {σ : Type} {receive : Nat → Program σ IoFailure Bytes} {settings : ReadSettings}
  {I : σ → Prop}

/-- A part of the reading that returns anything. -/
def Reads {α : Type} (I : σ → Prop) (x : Program σ ReadFailure α) : Prop :=
  Yields I ReadFailure.Checked (fun _ => True) x

theorem checked_reads {α : Type} (x : Except String α) : Reads I (checked x) := by
  cases x with
  | error message => exact .raise trivial
  | ok a => exact .pure trivial

variable (h : ∀ maximum, Keeps I (receive maximum))
include h

theorem receiveBytes_reads (maximum : Nat) (allowEof : Bool) :
    Reads I (receiveBytes receive maximum allowEof) := by
  refine (Keeps.yields.1 (h maximum)).handle fun failure _ => ?_
  cases failure with
  | timeout => exact .raise trivial
  | endOfStream => exact .ite (fun _ => .pure trivial) fun _ => .raise trivial
  | other => exact .raise trivial

theorem fillHead_reads (fuel : Nat) (buffer : Bytes) :
    Reads I (fillHead receive settings fuel buffer) := by
  induction fuel generalizing buffer with
  | zero => exact .raise trivial
  | succ fuel ih =>
    rw [fillHead]
    split
    · exact .pure trivial
    · refine .ite (fun _ => .raise trivial) fun _ => ?_
      refine (receiveBytes_reads h _ _).bind fun chunk _ => ?_
      exact .ite (fun _ => .raise trivial) fun _ => ih _

theorem readHeads_reads (fuel : Nat) (buffer : Bytes) (total : Nat) :
    Reads I (readHeads receive settings fuel buffer total) := by
  induction fuel generalizing buffer total with
  | zero => exact .raise trivial
  | succ fuel ih =>
    refine (fillHead_reads h _ _).bind fun filled _ => ?_
    refine .ite (fun _ => .raise trivial) fun _ => ?_
    refine (checked_reads _).bind fun head _ => ?_
    refine .ite (fun _ => ?_) fun _ => .pure trivial
    exact (checked_reads _).bind fun _ _ => ih _ _

theorem readContentLength_reads (expected fuel : Nat) (body : Bytes) :
    Reads I (readContentLength receive expected fuel body) := by
  induction fuel generalizing body with
  | zero => exact .pure trivial
  | succ fuel ih =>
    refine .ite (fun _ => .pure trivial) fun _ => ?_
    refine Yields.bind ((receiveBytes_reads h _ _).handle fun failure hfailure => ?_) fun chunk _ => ?_
    · cases failure with
      | timeout => exact .raise trivial
      | _ => exact .raise hfailure
    · exact .ite (fun _ => .raise trivial) fun _ => ih _

theorem readUntilClose_reads (limit fuel : Nat) (body : Bytes) :
    Reads I (readUntilClose receive limit fuel body) := by
  induction fuel generalizing body with
  | zero => exact .pure trivial
  | succ fuel ih =>
    refine .ite (fun _ => .pure trivial) fun _ => ?_
    refine Yields.bind ((receiveBytes_reads h _ _).handle fun failure hfailure => ?_) fun chunk _ => ?_
    · cases failure with
      | timeout => exact .raise trivial
      | _ => exact .raise hfailure
    · exact .ite (fun _ => .pure trivial) fun _ => ih _

theorem readLine_reads (maximum fuel : Nat) (buffer : Bytes) :
    Reads I (readLine receive maximum fuel buffer) := by
  induction fuel generalizing buffer with
  | zero => exact .raise trivial
  | succ fuel ih =>
    rw [readLine]
    split
    · exact .ite (fun _ => .raise trivial) fun _ => .pure trivial
    · refine .ite (fun _ => .raise trivial) fun _ => ?_
      refine (receiveBytes_reads h _ _).bind fun chunk _ => ?_
      exact .ite (fun _ => .raise trivial) fun _ => ih _

theorem fillBuffer_reads (required fuel : Nat) (buffer : Bytes) :
    Reads I (fillBuffer receive required fuel buffer) := by
  induction fuel generalizing buffer with
  | zero => exact .pure trivial
  | succ fuel ih =>
    refine .ite (fun _ => .pure trivial) fun _ => ?_
    refine (receiveBytes_reads h _ _).bind fun chunk _ => ?_
    exact .ite (fun _ => .raise trivial) fun _ => ih _

theorem readTrailers_reads (fuel : Nat) (buffer : Bytes) (trailerBytes : Nat) :
    Reads I (readTrailers receive settings fuel buffer trailerBytes) := by
  induction fuel generalizing buffer trailerBytes with
  | zero => exact .raise trivial
  | succ fuel ih =>
    refine (readLine_reads h _ _ _).bind fun line _ => ?_
    refine .ite (fun _ => .raise trivial) fun _ => .ite (fun _ => ?_) fun _ => ?_
    · exact .ite (fun _ => .pure trivial) fun _ => .raise trivial
    · refine .ite (fun _ => .raise trivial) fun _ => ?_
      exact (checked_reads _).bind fun _ _ => ih _ _

theorem readChunks_reads (fuel : Nat) (buffer body : Bytes) :
    Reads I (readChunks receive settings fuel buffer body) := by
  induction fuel generalizing buffer body with
  | zero => exact .pure trivial
  | succ fuel ih =>
    refine (readLine_reads h _ _ _).bind fun line _ => ?_
    refine (checked_reads _).bind fun size _ => ?_
    refine .ite (fun _ => .pure trivial) fun _ => .ite (fun _ => ?_) fun _ => ?_
    · exact (readTrailers_reads h _ _ _).bind fun _ _ => .pure trivial
    · refine Yields.bind ((fillBuffer_reads h _ _ _).handle fun failure hfailure => ?_)
        fun filled _ => ?_
      · cases failure with
        | timeout => exact .raise trivial
        | _ => exact .raise hfailure
      · exact .ite (fun _ => ih _ _) fun _ => .raise trivial

/-- A part of the reading that returns checked evidence. -/
def Captures (I : σ → Prop) (x : Program σ ReadFailure CapturedResponse) : Prop :=
  Yields I ReadFailure.Checked CapturedResponse.Valid x

omit h in
theorem captured_captures {response : CapturedResponse} : Captures I (captured response) :=
  .ite (fun hvalid => .pure hvalid) fun _ => .raise trivial

omit h in
theorem finishBody_captures (head : HeadFields) (mediaType : Option String) (body : Bytes)
    (truncated : Bool) : Captures I (finishBody settings head mediaType body truncated) := by
  refine Yields.bind captured_captures fun response hvalid => ?_
  exact .ite (fun _ => .raise hvalid) fun _ => .pure hvalid

theorem readResponseBody_captures (head : HeadFields) (bodyPrefix : Bytes) :
    Captures I (readResponseBody receive settings head bodyPrefix) := by
  refine (checked_reads _).bind fun mediaType _ => ?_
  refine .ite (fun _ => ?_) fun _ => .ite (fun _ => ?_) fun _ => ?_
  · refine .ite (fun _ => .raise trivial) fun _ => .ite (fun _ => .raise trivial) fun _ => ?_
    exact .ite (fun _ => .raise trivial) fun _ => captured_captures
  · exact (readChunks_reads h _ _ _).bind fun _ _ => finishBody_captures _ _ _ _
  · split
    · refine (checked_reads _).bind fun expected _ => ?_
      refine .ite (fun _ => ?_) fun _ => .ite (fun _ => .raise trivial) fun _ => ?_
      · exact Yields.bind captured_captures fun _ hvalid => .raise hvalid
      · exact (readContentLength_reads h _ _ _).bind fun _ _ => finishBody_captures _ _ _ _
    · have hread : Reads I (readUntilClose receive settings.limits.responseDrainBytes
          (settings.limits.responseDrainBytes + 1) bodyPrefix) := readUntilClose_reads h _ _ _
      refine .ite (fun _ => ?_) fun _ => ?_
      · exact finishBody_captures _ _ _ _
      · exact hread.bind fun _ _ => finishBody_captures _ _ _ _

end Frame

end WebhookConformance
