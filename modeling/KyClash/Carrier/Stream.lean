import KyClash.Frame.Incremental
import KyClash.Concurrency.Transition
import KyClash.Carrier.Quic

/-!
# The stream carrier

`internal/carrier/stream.go`: packets over a reliable byte stream, one frame
for each.  A `Link` is one direction of a connection: the frames that `Send`,
`Probe` and the replies to pings write on one end, and the `Receive` calls on
the other.  The connection takes and hands over bytes in pieces of any size,
and a deadline or a cancelled context can make any of its calls fail in
between.  The probe state is left out: it touches none of the fields below.

The bytes that the connection has taken stay in `written`, those that it has
handed over are in `consumed`.  Each call is logged when it returns, with the
bytes that have then passed its end.
-/

namespace KyClash

structure SequenceValidator where
  seen : Bool
  last : UInt64
  deriving DecidableEq, Repr

def SequenceValidator.accept (validator : SequenceValidator)
    (sequence : UInt64) : Except FrameError SequenceValidator :=
  if validator.seen ∧ sequence ≤ validator.last then
    .error .nonMonotonic
  else
    .ok { seen := true, last := sequence }

inductive StreamError where
  | closed
  | sequenceExhaust
  | unexpectedFrame
  | contextDone
  | setDeadline
  | write
  | frame (error : FrameError)
  deriving DecidableEq, Repr

/-- The state of a context when `withContext` looks at it, and whether the
connection refuses its deadline. -/
structure CallContext where
  done : Bool
  deadlineRefused : Bool
  deriving DecidableEq, Repr

/-- `withContext` before its operation. -/
def CallContext.refusal (context : CallContext) : Option StreamError :=
  if context.done then
    some .contextDone
  else if context.deadlineRefused then
    some .setDeadline
  else
    none

/-- `withContext` after its operation: a cancellation that has started hides
the result of the operation. -/
def withContext (cancelled : Bool) (result : Except StreamError α) :
    Except StreamError α :=
  if cancelled then .error .contextDone else result

structure Stream where
  closed : Bool
  next : UInt64
  incoming : SequenceValidator
  deriving DecidableEq, Repr

def newStream : Stream where
  closed := false
  next := 0
  incoming := { seen := false, last := 0 }

/-- How the write of one frame went: the context at its start, whether every
byte was taken without an error, and whether a cancellation hides that. -/
structure WriteOutcome where
  context : CallContext
  complete : Bool
  cancelled : Bool
  deriving DecidableEq, Repr

namespace Stream

def outgoing (stream : Stream) (kind : Kind) (payload : List UInt8) :
    Frame UInt8 where
  kind := kind
  sequence := stream.next
  fragment := none
  payload := payload

/-- The part of `sendFrame` before the write: the encoded frame. -/
def prepareFrame (stream : Stream) (kind : Kind) (payload : List UInt8)
    (context : CallContext) : Except StreamError (List UInt8) :=
  if stream.closed then
    .error .closed
  else if stream.next = uint64Max then
    .error .sequenceExhaust
  else
    match (stream.outgoing kind payload).encode with
    | .error error => .error (.frame error)
    | .ok encoded =>
      match context.refusal with
      | some error => .error error
      | none => .ok encoded

/-- The part of `sendFrame` after the write.  The sequence number is used up
when all bytes were taken, even if a cancellation hides it. -/
def finishFrame (stream : Stream) (complete cancelled : Bool) :
    Stream × Except StreamError Unit :=
  (if complete then { stream with next := stream.next + 1 } else stream,
    withContext cancelled (if complete then .ok () else .error .write))

def sendFrame (stream : Stream) (kind : Kind) (payload : List UInt8)
    (outcome : WriteOutcome) : Stream × Except StreamError Unit :=
  match stream.prepareFrame kind payload outcome.context with
  | .error error => (stream, .error error)
  | .ok _ => stream.finishFrame outcome.complete outcome.cancelled

/-- What the loop of `Receive` does with a decoded frame: return, or decode
another one. -/
inductive Handled where
  | returns (result : Except StreamError (List UInt8))
  | again

/-- The body of the loop of `Receive` after `Decode`.  The reply to a ping
leaves through the other direction of the connection. -/
def handleFrame (stream : Stream) (decoded : Frame UInt8)
    (reply : WriteOutcome) : Stream × Handled :=
  match stream.incoming.accept decoded.sequence with
  | .error error => (stream, .returns (.error (.frame error)))
  | .ok incoming =>
    let stream := { stream with incoming }
    if decoded.kind = .wireGuardPacket then
      if decoded.fragment.isSome then
        (stream, .returns (.error .unexpectedFrame))
      else
        (stream, .returns (.ok decoded.payload))
    else if decoded.kind = .ping then
      match stream.sendFrame .pong [] reply with
      | (stream, .error error) => (stream, .returns (.error error))
      | (stream, .ok ()) => (stream, .again)
    else if decoded.kind = .pong then
      (stream, .again)
    else if decoded.kind = .close then
      (stream, .returns (.error .closed))
    else
      (stream, .returns (.error .unexpectedFrame))

end Stream

/-! ## The sending end -/

/-- The `sendFrame` in progress: the bytes of its frame that the connection
has taken, and the rest. -/
structure Outgoing where
  kind : Kind
  payload : List UInt8
  accepted : List UInt8
  rest : List UInt8
  deriving DecidableEq, Repr

/-- A `sendFrame` that has returned.  `complete` tells whether the connection
took all bytes of its frame. -/
structure SentCall where
  kind : Kind
  payload : List UInt8
  result : Except StreamError Unit
  complete : Bool
  written : List UInt8

/-- `broken` is set when a `sendFrame` fails although the connection has taken
bytes of its frame. -/
structure SendEnd where
  stream : Stream
  pending : Option Outgoing
  written : List UInt8
  broken : Bool
  calls : List SentCall

inductive SendEvent where
  | send (kind : Kind) (payload : List UInt8) (context : CallContext)
  | write (count : Nat)
  | writeFails (cancelled : Bool)
  | sendReturns (cancelled : Bool)
  | close

namespace SendEnd

/-- `sendFrame` returns. -/
def finish (sender : SendEnd) (kind : Kind) (payload : List UInt8)
    (complete : Bool) (result : Except StreamError Unit) : SendEnd :=
  { sender with
    pending := none
    calls :=
      sender.calls ++
      [{ kind, payload, result, complete, written := sender.written }] }

def start (sender : SendEnd) (kind : Kind) (payload : List UInt8)
    (context : CallContext) : SendEnd :=
  match sender.stream.prepareFrame kind payload context with
  | .error error => sender.finish kind payload false (.error error)
  | .ok encoded =>
    { sender with
      pending := some { kind, payload, accepted := [], rest := encoded } }

def write (sender : SendEnd) (outgoing : Outgoing) (count : Nat) : SendEnd :=
  { sender with
    written := sender.written ++ outgoing.rest.take count
    pending := some { outgoing with
      accepted := outgoing.accepted ++ outgoing.rest.take count
      rest := outgoing.rest.drop count } }

/-- The write loop is over: `withContext` and `sendFrame` return. -/
def finishWrite (sender : SendEnd) (outgoing : Outgoing)
    (complete cancelled : Bool) : SendEnd :=
  let result := sender.stream.finishFrame complete cancelled
  { sender.finish outgoing.kind outgoing.payload outgoing.rest.isEmpty
      result.2 with
    stream := result.1
    broken := sender.broken || (!complete && !outgoing.accepted.isEmpty) }

def step (sender : SendEnd) : SendEvent → Option SendEnd
  | .send kind payload context =>
    match sender.pending with
    | some _ => none
    | none => some (sender.start kind payload context)
  | .write count =>
    match sender.pending with
    | none => none
    | some outgoing =>
      if 0 < count ∧ count ≤ outgoing.rest.length then
        some (sender.write outgoing count)
      else
        none
  | .writeFails cancelled =>
    match sender.pending with
    | none => none
    | some outgoing => some (sender.finishWrite outgoing false cancelled)
  | .sendReturns cancelled =>
    match sender.pending with
    | none => none
    | some outgoing =>
      if outgoing.rest = [] then
        some (sender.finishWrite outgoing true cancelled)
      else
        none
  | .close =>
    some { sender with stream := { sender.stream with closed := true } }

/-- The frames of finished calls of which the connection took every byte. -/
def finished (sender : SendEnd) : List (Kind × List UInt8) :=
  (sender.calls.filter SentCall.complete).map fun call =>
    (call.kind, call.payload)

/-- All frames of which the connection has taken every byte. -/
def completed (sender : SendEnd) : List (Kind × List UInt8) :=
  sender.finished ++
    match sender.pending with
    | some outgoing =>
      if outgoing.rest = [] then
        [(outgoing.kind, outgoing.payload)]
      else
        []
    | none => []

end SendEnd

/-! ## The receiving end -/

structure ReceivedCall where
  result : Except StreamError (List UInt8)
  consumed : List UInt8

/-- `buffer` holds what the `Decode` in progress has read, `broken` is set
when a `Receive` fails after it has consumed bytes of a frame that it does
not hand on. -/
structure ReceiveEnd where
  stream : Stream
  buffer : Option (List UInt8)
  consumed : List UInt8
  broken : Bool
  calls : List ReceivedCall

inductive ReceiveEvent where
  | receive (context : CallContext)
  | read (count : Nat)
  | readFails (cancelled : Bool)
  | decoded (cancelled : Bool) (reply : WriteOutcome) (again : CallContext)
  | close

namespace ReceiveEnd

/-- `Receive` returns. -/
def finish (receiver : ReceiveEnd) (result : Except StreamError (List UInt8)) :
    ReceiveEnd :=
  { receiver with
    buffer := none
    calls := receiver.calls ++ [{ result, consumed := receiver.consumed }] }

def read (receiver : ReceiveEnd) (buffer bytes : List UInt8) : ReceiveEnd :=
  { receiver with
    consumed := receiver.consumed ++ bytes
    buffer := some (buffer ++ bytes) }

/-- `Receive` fails after it has consumed the bytes of `buffer`. -/
def abandon (receiver : ReceiveEnd) (buffer : List UInt8)
    (error : StreamError) : ReceiveEnd :=
  { receiver.finish (.error error) with
    broken := receiver.broken || !buffer.isEmpty }

def nextFrame (receiver : ReceiveEnd) (context : CallContext) : ReceiveEnd :=
  match context.refusal with
  | some error => receiver.finish (.error error)
  | none => { receiver with buffer := some [] }

def start (receiver : ReceiveEnd) (context : CallContext) : ReceiveEnd :=
  if receiver.stream.closed then
    receiver.finish (.error .closed)
  else
    receiver.nextFrame context

/-- `Decode` is done with the bytes of `buffer`, and `withContext` returns. -/
def finishDecode (receiver : ReceiveEnd) (buffer : List UInt8)
    (cancelled : Bool) (reply : WriteOutcome) (again : CallContext) :
    ReceiveEnd :=
  if cancelled then
    receiver.abandon buffer .contextDone
  else
    match decode buffer with
    | .error error => receiver.abandon buffer (.frame error)
    | .ok (decoded, _) =>
      match receiver.stream.handleFrame decoded reply with
      | (stream, .returns result) => { receiver with stream }.finish result
      | (stream, .again) => { receiver with stream }.nextFrame again

def step (written : List UInt8) (receiver : ReceiveEnd) :
    ReceiveEvent → Option ReceiveEnd
  | .receive context =>
    match receiver.buffer with
    | some _ => none
    | none => some (receiver.start context)
  | .read count =>
    match receiver.buffer with
    | none => none
    | some buffer =>
      if 0 < count ∧ count ≤ wanted buffer ∧ receiver.consumed.length + count ≤
          written.length then
        some (receiver.read buffer
          ((written.drop receiver.consumed.length).take count))
      else
        none
  | .readFails cancelled =>
    match receiver.buffer with
    | none => none
    | some buffer =>
      if 0 < wanted buffer then
        match decode buffer with
        | .error error => some (receiver.abandon buffer
            (if cancelled then .contextDone else .frame error))
        | .ok _ => none
      else
        none
  | .decoded cancelled reply again =>
    match receiver.buffer with
    | none => none
    | some buffer =>
      if wanted buffer = 0 then
        some (receiver.finishDecode buffer cancelled reply again)
      else
        none
  | .close =>
    some { receiver with
      stream := { receiver.stream with closed := true } }

/-- The packets that `Receive` calls have returned, in order. -/
def returned (receiver : ReceiveEnd) : List (List UInt8) :=
  receiver.calls.filterMap fun call => call.result.toOption

end ReceiveEnd

/-! ## One direction of a connection -/

structure Link where
  sender : SendEnd
  receiver : ReceiveEnd

def newLink : Link where
  sender := {
    stream := newStream
    pending := none
    written := []
    broken := false
    calls := [] }
  receiver := {
    stream := newStream
    buffer := none
    consumed := []
    broken := false
    calls := [] }

inductive LinkEvent where
  | sending (event : SendEvent)
  | receiving (event : ReceiveEvent)

def Link.step (link : Link) : LinkEvent → Option Link
  | .sending event =>
    match link.sender.step event with
    | none => none
    | some sender => some { link with sender }
  | .receiving event =>
    match link.receiver.step link.sender.written event with
    | none => none
    | some receiver => some { link with receiver }

/-- The payloads of the packets among some frames. -/
def packetsOf (frames : List (Kind × List UInt8)) : List (List UInt8) :=
  (frames.filter fun frame => frame.1 = Kind.wireGuardPacket).map Prod.snd

/-- A whole number of frames. -/
def Aligned (bytes : List UInt8) : Prop :=
  ∃ frames : List (Frame UInt8), (∀ frame ∈ frames, frame.validate = .ok ()) ∧
    bytes = frames.flatMap Frame.bytes

/-- What the two ends of a stream carrier promise.  The packets returned are
the first ones of those whose bytes were all taken, and these include every
packet whose `Send` succeeded.  Where a call returns with its end of the
stream inside a frame, no later call on that end succeeds. -/
structure Link.Sound (link : Link) : Prop where
  returned : link.receiver.returned <+: packetsOf link.sender.completed
  succeeded : ∀ call ∈ link.sender.calls, call.result = .ok () →
    call.complete = true
  sending : link.sender.calls.Pairwise fun earlier later =>
    ¬Aligned earlier.written → later.result ≠ .ok ()
  receiving : link.receiver.calls.Pairwise fun earlier later =>
    ¬Aligned earlier.consumed → ∀ packet, later.result ≠ .ok packet

/-- A call on an end whose last transfer was broken off is refused before its
first byte. -/
def Link.Refused (link : Link) : LinkEvent → Prop
  | .sending (.send kind payload context) => link.sender.broken = true →
      (link.sender.stream.prepareFrame kind payload context).isOk = false
  | .receiving (.receive context) => link.receiver.broken = true →
      link.receiver.stream.closed = true ∨ context.refusal.isSome = true
  | _ => True

instance (link : Link) : (event : LinkEvent) → Decidable (link.Refused event)
  | .sending (.send ..) => inferInstanceAs (Decidable (_ = true → _ = false))
  | .receiving (.receive _) => inferInstanceAs (Decidable (_ = true → _ ∨ _))
  | .sending (.write _) | .sending (.writeFails _)
  | .sending (.sendReturns _) | .sending .close
  | .receiving (.read _) | .receiving (.readFails _)
  | .receiving (.decoded ..) | .receiving .close => isTrue trivial

end KyClash
