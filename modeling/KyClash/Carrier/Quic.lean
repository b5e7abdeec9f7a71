import KyClash.Frame.Reassemble

/-!
# The QUIC datagram carrier

`internal/carrier/quic.go`.  A packet travels as one datagram, or as several
fragments that share a message id.  `Send` and `sendControl` hold the write
lock for the whole call, `Receive` holds the read lock.

What the environment decides is an argument: for each fragment of a `Send`
whether the context is already done or the connection refuses the datagram,
and for each `Receive` the datagrams that arrive, with the clock.  The probe
state is left out: it touches none of the fields below.
-/

namespace KyClash

def quicFragmentPayloadMax : Nat := 1024
def fragmentAssemblyTTL : Time := 10 * 1000000000
def uint64Max : UInt64 := 0xFFFFFFFFFFFFFFFF

inductive CarrierError where
  | closed
  | sequenceExhaust
  | unexpectedFrame
  | contextDone
  | sendDatagram
  | receiveDatagram
  | frame (error : FrameError)
  deriving DecidableEq, Repr

/-- Why a fragment is not dispatched. -/
inductive SendFault where
  | contextDone
  | datagramRefused
  deriving DecidableEq, Repr

abbrev Datagram := List UInt8

structure QUIC (α : Type) where
  closed : Bool
  next : UInt64
  nextMessage : UInt64
  incoming : SequenceWindow
  reassembler : Reassembler α

def newQUIC : QUIC α where
  closed := false
  next := 0
  nextMessage := 0
  incoming := .empty
  reassembler := .new fragmentAssemblyTTL

def fragmentCount (packet : List α) : Nat :=
  if quicFragmentPayloadMax < packet.length then
    (packet.length + quicFragmentPayloadMax - 1) / quicFragmentPayloadMax
  else
    1

def fragmentPayload (packet : List α) (index : Nat) : List α :=
  (packet.drop (index * quicFragmentPayloadMax)).take quicFragmentPayloadMax

/-- The frame that `Send` builds for one fragment. -/
def outgoing (packet : List UInt8) (messageID : UInt64) (index : Nat)
    (sequence : UInt64) : Frame UInt8 where
  kind := .wireGuardPacket
  sequence := sequence
  fragment :=
    if 1 < fragmentCount packet then
      some {
        messageID := messageID
        index := UInt16.ofNat index
        count := UInt16.ofNat (fragmentCount packet) }
    else
      none
  payload := fragmentPayload packet index

def controlFrame (kind : Kind) (sequence : UInt64) : Frame UInt8 where
  kind := kind
  sequence := sequence
  fragment := none
  payload := []

namespace QUIC

def refusal (carrier : QUIC α) (packet : List UInt8) : Option CarrierError :=
  if carrier.closed then
    some .closed
  else if maxPayloadSize < packet.length then
    some (.frame .payloadTooLarge)
  else if maxFragments < fragmentCount packet ∨
      uint64Max - UInt64.ofNat (fragmentCount packet) < carrier.next then
    some .sequenceExhaust
  else if 1 < fragmentCount packet ∧ carrier.nextMessage = uint64Max then
    some .sequenceExhaust
  else
    none

/-- The fragment loop of `Send`, from fragment `index` on. -/
def sendFragments (packet : List UInt8) (messageID : UInt64)
    (faults : Nat → Option SendFault) :
    (remaining index : Nat) → QUIC α →
      QUIC α × List Datagram × Except CarrierError Unit
  | 0, _, carrier => (carrier, [], .ok ())
  | remaining + 1, index, carrier =>
    if faults index = some .contextDone then
      (carrier, [], .error .contextDone)
    else
      match (outgoing packet messageID index carrier.next).encode with
      | .error error => (carrier, [], .error (.frame error))
      | .ok encoded =>
        if faults index = some .datagramRefused then
          (carrier, [], .error .sendDatagram)
        else
          let rest := sendFragments packet messageID faults remaining
            (index + 1) { carrier with next := carrier.next + 1 }
          (rest.1, encoded :: rest.2.1, rest.2.2)

/-- `Send`: the carrier afterwards, the datagrams dispatched, the result. -/
def send (carrier : QUIC α) (packet : List UInt8)
    (faults : Nat → Option SendFault) :
    QUIC α × List Datagram × Except CarrierError Unit :=
  match carrier.refusal packet with
  | some error => (carrier, [], .error error)
  | none =>
    match sendFragments packet carrier.nextMessage faults (fragmentCount packet)
      0 carrier with
    | (carrier, datagrams, .error error) => (carrier, datagrams, .error error)
    | (carrier, datagrams, .ok ()) =>
      if 1 < fragmentCount packet then
        ({ carrier with nextMessage := carrier.nextMessage + 1 }, datagrams,
          .ok ())
      else
        (carrier, datagrams, .ok ())

def sendControl (carrier : QUIC α) (kind : Kind) (fault : Option SendFault) :
    QUIC α × List Datagram × Except CarrierError Unit :=
  if carrier.closed then
    (carrier, [], .error .closed)
  else if fault = some .contextDone then
    (carrier, [], .error .contextDone)
  else if carrier.next = uint64Max then
    (carrier, [], .error .sequenceExhaust)
  else
    match (controlFrame kind carrier.next).encode with
    | .error error => (carrier, [], .error (.frame error))
    | .ok encoded =>
      if fault = some .datagramRefused then
        (carrier, [], .error .sendDatagram)
      else
        ({ carrier with next := carrier.next + 1 }, [encoded], .ok ())

def close (carrier : QUIC α) : QUIC α :=
  { carrier with closed := true, reassembler := carrier.reassembler.reset }

end QUIC

/-- One datagram handed over by the connection, with the clock and the fate
of a reply to it. -/
structure Arrival (δ : Type) where
  datagram : δ
  now : Time
  replyFault : Option SendFault

/-- What the loop of `Receive` does after one datagram. -/
inductive Received (α : Type) where
  | more
  | packet (bytes : List α)
  | error (error : CarrierError)

namespace QUIC

/-- Handle one decoded frame: the body of the loop in `Receive`.  Replies to
pings leave through the receiver's own connection. -/
def receiveFrame (carrier : QUIC α) (now : Time) (replyFault : Option SendFault)
    (decoded : Frame α) : QUIC α × Received α :=
  match carrier.incoming.accept decoded.sequence with
  | .error error => (carrier, .error (.frame error))
  | .ok incoming =>
    let carrier := { carrier with incoming }
    if decoded.kind = .wireGuardPacket then
      let result := carrier.reassembler.accept now decoded
      let carrier := { carrier with reassembler := result.1 }
      match result.2 with
      | .error error => (carrier, .error (.frame error))
      | .ok (some packet) => (carrier, .packet packet)
      | .ok none => (carrier, .more)
    else if decoded.kind = .ping then
      match carrier.sendControl .pong replyFault with
      | (carrier, _, .error error) => (carrier, .error error)
      | (carrier, _, .ok ()) => (carrier, .more)
    else if decoded.kind = .pong then
      (carrier, .more)
    else if decoded.kind = .close then
      (carrier, .error .closed)
    else
      (carrier, .error .unexpectedFrame)

/-- The loop of `Receive` over the datagrams that arrive during the call.
The result carries the datagrams left for the next call. -/
def receiveLoop (decode : δ → Except FrameError (Frame α)) :
    QUIC α → List (Arrival δ) →
      QUIC α × List (Arrival δ) × Except CarrierError (List α)
  | carrier, [] => (carrier, [], .error .receiveDatagram)
  | carrier, arrival :: rest =>
    match decode arrival.datagram with
    | .error error => (carrier, rest, .error (.frame error))
    | .ok decoded =>
      match carrier.receiveFrame arrival.now arrival.replyFault decoded with
      | (carrier, .more) => receiveLoop decode carrier rest
      | (carrier, .packet packet) => (carrier, rest, .ok packet)
      | (carrier, .error error) => (carrier, rest, .error error)

/-- `Receive`.  The decoder is an argument so that a run can also be followed
on labelled bytes; the code's decoder is `decodeDatagram`. -/
def receive (decode : δ → Except FrameError (Frame α)) (carrier : QUIC α)
    (arrivals : List (Arrival δ)) :
    QUIC α × List (Arrival δ) × Except CarrierError (List α) :=
  if carrier.closed then
    (carrier, arrivals, .error .closed)
  else
    carrier.receiveLoop decode arrivals

def receives (decode : δ → Except FrameError (Frame α)) :
    (calls : Nat) → QUIC α → List (Arrival δ) →
      List (Except CarrierError (List α))
  | 0, _, _ => []
  | calls + 1, carrier, arrivals =>
    let result := carrier.receive decode arrivals
    result.2.2 :: receives decode calls result.1 result.2.1

end QUIC

end KyClash
