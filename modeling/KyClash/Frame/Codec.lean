import KyClash.Codec.BigEndian

/-!
# The network packet envelope

The transport-independent frame of `internal/frame/frame.go`: validation, the
binary encoding, and the decoder for streams and datagrams.

The payload is a list over an arbitrary type.  Only `encode` and `decode` fix
it to bytes; validation and reassembly just count and concatenate, so they
can also be run on labelled bytes.
-/

namespace KyClash

open BigEndian

def headerSize : Nat := 20
def fragmentHeaderSize : Nat := 12
def maxPayloadSize : Nat := 65535
def maxFragments : Nat := 64
def frameVersion : UInt8 := 1
def flagFragmented : UInt16 := 1

def magic : List UInt8 := [0x4b, 0x59, 0x4e, 0x50]

inductive FrameError where
  | invalidMagic
  | unsupportedVersion
  | invalidKind
  | controlFramePayload
  | unknownFlags
  | payloadTooLarge
  | trailingData
  | nonMonotonic
  | invalidFragment
  | duplicateFragment
  | assemblyLimit
  | readHeader
  | readFragmentHeader
  | readPayload
  deriving DecidableEq, Repr

/-- The kind byte of a frame.  The wire can carry any byte here. -/
structure Kind where
  code : UInt8
  deriving DecidableEq, Repr

namespace Kind

def wireGuardPacket : Kind := ⟨1⟩
def ping : Kind := ⟨2⟩
def pong : Kind := ⟨3⟩
def close : Kind := ⟨4⟩

def valid (kind : Kind) : Bool :=
  wireGuardPacket.code ≤ kind.code && kind.code ≤ close.code

end Kind

structure Fragment where
  messageID : UInt64
  index : UInt16
  count : UInt16
  deriving DecidableEq, Repr

structure Frame (α : Type) where
  kind : Kind
  sequence : UInt64
  fragment : Option Fragment
  payload : List α
  deriving DecidableEq, Repr

namespace Frame

def validate (frame : Frame α) : Except FrameError Unit :=
  if !frame.kind.valid then
    .error .invalidKind
  else if maxPayloadSize < frame.payload.length then
    .error .payloadTooLarge
  else
    match frame.fragment with
    | some fragment =>
      if frame.kind ≠ .wireGuardPacket ∨ fragment.count < 2 ∨
          maxFragments < fragment.count.toNat ∨
          fragment.count ≤ fragment.index ∨ frame.payload.isEmpty then
        .error .invalidFragment
      else
        .ok ()
    | none =>
      if frame.kind ≠ .wireGuardPacket ∧ ¬frame.payload.isEmpty then
        .error .controlFramePayload
      else
        .ok ()

/-- The header flags and the optional second header of a fragment. -/
def flags (frame : Frame α) : UInt16 :=
  if frame.fragment.isSome then flagFragmented else 0

def fragmentHeader : Option Fragment → List UInt8
  | none => []
  | some fragment =>
    putUint 8 fragment.messageID.toNat ++ putUint 2 fragment.index.toNat ++
      putUint 2 fragment.count.toNat

/-- The fixed header: magic, version, kind, flags, payload length and
sequence number. -/
def header (frame : Frame α) : List UInt8 :=
  magic ++ [frameVersion, frame.kind.code] ++ putUint 2 frame.flags.toNat ++
    putUint 4 frame.payload.length ++ putUint 8 frame.sequence.toNat

def bytes (frame : Frame UInt8) : List UInt8 :=
  frame.header ++ fragmentHeader frame.fragment ++ frame.payload

def encode (frame : Frame UInt8) : Except FrameError (List UInt8) :=
  match frame.validate with
  | .error error => .error error
  | .ok () => .ok frame.bytes

end Frame

/-- `io.ReadFull`: exactly `size` bytes and the rest of the input. -/
def readFull (size : Nat) (error : FrameError) (input : List UInt8) :
    Except FrameError (List UInt8 × List UInt8) :=
  if input.length < size then
    .error error
  else
    .ok (input.take size, input.drop size)

/-- The bytes `start ≤ i < stop` of a header. -/
def slice (bytes : List UInt8) (start stop : Nat) : List UInt8 :=
  (bytes.drop start).take (stop - start)

/-- The optional second header, present when the fragment flag is set. -/
def decodeFragment (flags : UInt16) (input : List UInt8) :
    Except FrameError (Option Fragment × List UInt8) :=
  if flags &&& flagFragmented ≠ 0 then
    match readFull fragmentHeaderSize .readFragmentHeader input with
    | .error error => .error error
    | .ok (bytes, rest) =>
      .ok (some {
        messageID := UInt64.ofNat (readUint (slice bytes 0 8))
        index := UInt16.ofNat (readUint (slice bytes 8 10))
        count := UInt16.ofNat (readUint (slice bytes 10 12)) }, rest)
  else
    .ok (none, input)

/-- Decode one frame from the front of a stream; the result carries the bytes
that were not consumed. -/
def decode (input : List UInt8) :
    Except FrameError (Frame UInt8 × List UInt8) := do
  let (header, input) ← readFull headerSize .readHeader input
  if slice header 0 4 ≠ magic then
    throw .invalidMagic
  if slice header 4 5 ≠ [frameVersion] then
    throw .unsupportedVersion
  let kind : Kind := ⟨UInt8.ofNat (readUint (slice header 5 6))⟩
  if !kind.valid then
    throw .invalidKind
  let flags := UInt16.ofNat (readUint (slice header 6 8))
  if flags &&& ~~~flagFragmented ≠ 0 then
    throw .unknownFlags
  let payloadLength := readUint (slice header 8 12)
  if maxPayloadSize < payloadLength then
    throw .payloadTooLarge
  let sequence := UInt64.ofNat (readUint (slice header 12 20))
  let (fragment, input) ← decodeFragment flags input
  let (payload, input) ← readFull payloadLength .readPayload input
  let decoded : Frame UInt8 := { kind, sequence, fragment, payload }
  decoded.validate
  return (decoded, input)

/-- A datagram holds exactly one frame. -/
def decodeDatagram (datagram : List UInt8) :
    Except FrameError (Frame UInt8) := do
  let (decoded, rest) ← decode datagram
  if rest ≠ [] then
    throw .trailingData
  return decoded

variable {frame : Frame UInt8} {bytes : List UInt8}

theorem Frame.encode_eq_ok_iff :
    frame.encode = .ok bytes ↔
      frame.validate = .ok () ∧ bytes = frame.bytes := by
  unfold Frame.encode
  cases frame.validate with
  | error error => simp
  | ok value => simp [eq_comm]

/-- What validation accepts. -/
structure Frame.Valid (frame : Frame α) : Prop where
  kind : frame.kind.valid = true
  length : frame.payload.length ≤ maxPayloadSize
  fragment : ∀ fragment, frame.fragment = some fragment →
    frame.kind = .wireGuardPacket ∧ 2 ≤ fragment.count ∧
      fragment.count.toNat ≤ maxFragments ∧ fragment.index < fragment.count ∧
      frame.payload ≠ []
  control : frame.fragment = none →
    frame.kind = .wireGuardPacket ∨ frame.payload = []

theorem Frame.validate_eq_ok_iff {frame : Frame α} :
    frame.validate = .ok () ↔ frame.Valid := by
  unfold Frame.validate
  constructor
  · intro accepted
    split at accepted
    · cases accepted
    · next kind =>
      split at accepted
      · cases accepted
      · next length =>
        refine ⟨by simpa using kind, Nat.le_of_not_lt length, ?_, ?_⟩
        · intro fragment present
          simp only [present] at accepted
          split at accepted
          · cases accepted
          · next inRange =>
            simpa [not_or, List.isEmpty_iff] using inRange
        · intro absent
          simp only [absent] at accepted
          split at accepted
          · cases accepted
          · next shape =>
            simpa [or_iff_not_imp_left, List.isEmpty_iff] using shape
  · intro valid
    rw [if_neg (by simp [valid.kind]), if_neg (Nat.not_lt.mpr valid.length)]
    cases present : frame.fragment with
    | none => simpa [or_iff_not_imp_left] using valid.control present
    | some fragment => simpa using valid.fragment fragment present

@[simp] theorem Frame.length_header (frame : Frame α) :
    frame.header.length = headerSize := by
  simp [Frame.header, magic, headerSize]

theorem readFull_append {front back : List UInt8} {size : Nat}
    {error : FrameError} (length : front.length = size) :
    readFull size error (front ++ back) = .ok (front, back) := by
  subst size
  simp [readFull]

private theorem decodeFragment_fragmentHeader (frame : Frame UInt8)
    (input : List UInt8) :
    decodeFragment frame.flags (Frame.fragmentHeader frame.fragment ++ input) =
      .ok (frame.fragment, input) := by
  cases present : frame.fragment with
  | none => simp [decodeFragment, Frame.flags, Frame.fragmentHeader, present]
  | some fragment =>
    have flagged : frame.flags &&& flagFragmented ≠ 0 := by
      simp [Frame.flags, present, flagFragmented]
    have messageID : slice (Frame.fragmentHeader (some fragment)) 0 8 =
        putUint 8 fragment.messageID.toNat := by
      simp [slice, Frame.fragmentHeader]
    have index : slice (Frame.fragmentHeader (some fragment)) 8 10 =
        putUint 2 fragment.index.toNat := by
      simp [slice, Frame.fragmentHeader]
    have count : slice (Frame.fragmentHeader (some fragment)) 10 12 =
        putUint 2 fragment.count.toNat := by
      simp [slice, Frame.fragmentHeader, List.drop_append,
        List.drop_eq_nil_of_le]
    rw [decodeFragment, if_pos flagged,
      readFull_append (by simp [Frame.fragmentHeader, fragmentHeaderSize])]
    simp only [messageID, index, count, uint64_readUint_putUint,
      uint16_readUint_putUint]

/-- The fields of the fixed header, at the offsets the decoder reads. -/
structure HeaderFields (frame : Frame α) (header : List UInt8) : Prop where
  magic : slice header 0 4 = magic
  version : slice header 4 5 = [frameVersion]
  kind : slice header 5 6 = [frame.kind.code]
  flags : slice header 6 8 = putUint 2 frame.flags.toNat
  length : slice header 8 12 = putUint 4 frame.payload.length
  sequence : slice header 12 20 = putUint 8 frame.sequence.toNat

theorem Frame.headerFields (frame : Frame α) :
    HeaderFields frame frame.header := by
  constructor <;>
    simp [slice, Frame.header, KyClash.magic, List.drop_append,
      List.drop_eq_nil_of_le]

theorem Frame.flags_known (frame : Frame α) :
    frame.flags &&& ~~~flagFragmented = 0 := by
  unfold Frame.flags
  split <;> decide

theorem decode_encode_append (encoded : frame.encode = .ok bytes)
    (rest : List UInt8) : decode (bytes ++ rest) = .ok (frame, rest) := by
  obtain ⟨accepted, rfl⟩ := Frame.encode_eq_ok_iff.mp encoded
  have valid := Frame.validate_eq_ok_iff.mp accepted
  have fields := frame.headerFields
  have length : readUint (putUint 4 frame.payload.length) =
      frame.payload.length :=
    readUint_putUint_of_lt (Nat.lt_of_le_of_lt valid.length (by decide))
  have kindByte : UInt8.ofNat (readUint [frame.kind.code]) =
      frame.kind.code := by
    simp [readUint]
  simp [Frame.bytes, decode, readFull_append, fields.magic, fields.version,
    fields.kind,
    fields.flags, fields.length, fields.sequence, length, kindByte,
    frame.flags_known, decodeFragment_fragmentHeader, valid.kind,
    Nat.not_lt.mpr valid.length, accepted, bind, Except.bind, pure,
    Except.pure]

theorem decodeDatagram_encode (encoded : frame.encode = .ok bytes) :
    decodeDatagram bytes = .ok frame := by
  have decoded := decode_encode_append encoded []
  rw [List.append_nil] at decoded
  simp [decodeDatagram, decoded, bind, Except.bind, pure, Except.pure]

theorem Frame.bytes_injective {other : Frame UInt8}
    (valid : frame.validate = .ok ()) (otherValid : other.validate = .ok ())
    (same : frame.bytes = other.bytes) : frame = other := by
  have decoded :=
    decodeDatagram_encode (Frame.encode_eq_ok_iff.mpr ⟨valid, rfl⟩)
  rw [same,
    decodeDatagram_encode
    (Frame.encode_eq_ok_iff.mpr ⟨otherValid, rfl⟩)] at decoded
  exact (Except.ok.inj decoded).symm

end KyClash
