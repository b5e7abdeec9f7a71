import KyClash.Frame.Codec

/-!
# The encoding is canonical

The decoder accepts exactly the encodings of valid frames: what it consumes is
the encoding of what it returns.  With the round trip of the encoder this
settles datagrams, streams of frames and truncated frames alike.
-/

namespace KyClash

open BigEndian

theorem readFull_eq_ok_iff {size : Nat} {error : FrameError}
    {input bytes rest : List UInt8} :
    readFull size error input = .ok (bytes, rest) ↔
      bytes.length = size ∧ input = bytes ++ rest := by
  constructor
  · intro read
    unfold readFull at read
    split at read
    · cases read
    · next enough =>
      cases read
      refine ⟨?_, (List.take_append_drop size input).symm⟩
      rw [List.length_take]
      omega
  · rintro ⟨length, rfl⟩
    exact readFull_append length

variable {header : List UInt8} {frame : Frame UInt8} {input rest : List UInt8}
  {flags : UInt16}

private theorem header_eq_slices (length : header.length = headerSize) :
    header =
      slice header 0 4 ++ (slice header 4 5 ++ slice header 5 6) ++
        slice header 6 8 ++ slice header 8 12 ++ slice header 12 20 := by
  have join : ∀ start middle stop, start ≤ middle → middle ≤ stop →
      slice header start middle ++ slice header middle stop =
        slice header start stop := by
    intro start middle stop first second
    have split : stop - start = (middle - start) + (stop - middle) := by omega
    have shift : start + (middle - start) = middle := by omega
    rw [slice, slice, slice, split, List.take_add, List.drop_drop, shift]
  rw [join 4 5 6 (by decide) (by decide), join 0 4 6 (by decide) (by decide),
    join 0 6 8 (by decide) (by decide), join 0 8 12 (by decide) (by decide),
    join 0 12 20 (by decide) (by decide), slice, List.drop_zero,
    List.take_of_length_le]
  rw [length]
  decide

private theorem fragmentHeader_eq_slices
    (length : header.length = fragmentHeaderSize) :
    header = slice header 0 8 ++ slice header 8 10 ++ slice header 10 12 := by
  have whole : slice header 10 12 = header.drop 10 := by
    rw [slice, List.take_of_length_le]
    rw [List.length_drop, length]
    decide
  have front : slice header 0 8 ++ slice header 8 10 = header.take 10 := by
    rw [slice, slice, List.drop_zero, ← List.take_add]
  rw [whole, front, List.take_append_drop]

theorem length_slice {bytes : List UInt8} {start stop : Nat}
    (inside : stop ≤ bytes.length) :
    (slice bytes start stop).length = stop - start := by
  rw [slice, List.length_take, List.length_drop]
  omega

private theorem or_masked (flags mask : UInt16) :
    flags = (flags &&& mask) ||| (flags &&& ~~~mask) := by
  apply UInt16.toBitVec_inj.mp
  rw [UInt16.toBitVec_or, UInt16.toBitVec_and, UInt16.toBitVec_and,
    UInt16.toBitVec_not, ← BitVec.and_or_distrib_left, BitVec.or_not_self,
    BitVec.and_allOnes]

/-- Only the fragment bit is defined, so the flags are one of two values. -/
theorem flags_of_known (known : flags &&& ~~~flagFragmented = 0) :
    flags = if flags &&& flagFragmented ≠ 0 then flagFragmented else 0 := by
  have split := or_masked flags flagFragmented
  have bit : flags &&& flagFragmented = 0 ∨
      flags &&& flagFragmented = flagFragmented := by
    have value : (flags &&& flagFragmented).toNat = flags.toNat % 2 := by
      exact Nat.and_one_is_mod flags.toNat
    rcases Nat.mod_two_eq_zero_or_one flags.toNat with even | odd
    · left
      apply UInt16.toNat_inj.mp
      rw [value, even]
      rfl
    · right
      apply UInt16.toNat_inj.mp
      rw [value, odd]
      rfl
  rw [known, UInt16.or_zero] at split
  rcases bit with clear | set
  · rw [if_neg (by simp [clear])]
    exact split.trans clear
  · rw [if_pos (by rw [set]; decide)]
    exact split.trans set

private theorem decodeFragment_eq_ok {fragment : Option Fragment}
    (decoded : decodeFragment flags input = .ok (fragment, rest)) :
    input = Frame.fragmentHeader fragment ++ rest ∧
      (fragment.isSome ↔ flags &&& flagFragmented ≠ 0) := by
  unfold decodeFragment at decoded
  split at decoded
  · next flagged =>
    cases read : readFull fragmentHeaderSize .readFragmentHeader input with
    | error error => simp [read] at decoded
    | ok result =>
      obtain ⟨header, left⟩ := result
      rw [read] at decoded
      cases decoded
      obtain ⟨length, rfl⟩ := readFull_eq_ok_iff.mp read
      have enough : 12 ≤ header.length := Nat.le_of_eq length.symm
      refine ⟨?_, by simp [flagged]⟩
      rw [Frame.fragmentHeader, putUint_toNat_uint64 (length_slice (by omega)),
        putUint_toNat_uint16 (length_slice (by omega)),
        putUint_toNat_uint16 (length_slice enough),
        ← fragmentHeader_eq_slices length]
  · next plain =>
    cases decoded
    exact ⟨rfl, by simpa using plain⟩

private theorem header_of_fields (length : header.length = headerSize)
    (magicField : slice header 0 4 = magic)
    (versionField : slice header 4 5 = [frameVersion])
    (kindField : frame.kind.code = UInt8.ofNat (readUint (slice header 5 6)))
    (flagsField : frame.flags = UInt16.ofNat (readUint (slice header 6 8)))
    (lengthField : frame.payload.length = readUint (slice header 8 12))
    (sequenceField : frame.sequence =
      UInt64.ofNat (readUint (slice header 12 20))) :
    frame.header = header := by
  have inside : 20 ≤ header.length := Nat.le_of_eq length.symm
  have kindByte : [frame.kind.code] = slice header 5 6 := by
    have single : (slice header 5 6).length = 1 := length_slice (by omega)
    obtain ⟨byte, only⟩ := List.length_eq_one_iff.mp single
    rw [kindField, only]
    simp [readUint]
  have lengthBytes : putUint 4 (readUint (slice header 8 12)) =
      slice header 8 12 := by
    have width : (slice header 8 12).length = 4 := length_slice (by omega)
    rw [← width, putUint_readUint]
  calc frame.header
      = slice header 0 4 ++ (slice header 4 5 ++ slice header 5 6) ++
          slice header 6 8 ++ slice header 8 12 ++ slice header 12 20 := by
        rw [Frame.header, flagsField, lengthField, sequenceField,
          putUint_toNat_uint16 (length_slice (by omega)), lengthBytes,
          putUint_toNat_uint64 (length_slice inside), magicField,
          versionField, ← kindByte]
        rfl
    _ = header := (header_eq_slices length).symm

/-- The part of the decoder behind the checks of the fixed header. -/
theorem decodeBody_eq_ok {header input rest : List UInt8} (decoded : (do
      let (fragment, input) ← decodeFragment
        (UInt16.ofNat (readUint (slice header 6 8))) input
      let (payload, input) ← readFull (readUint (slice header 8 12))
        .readPayload input
      let decoded : Frame UInt8 := {
        kind := ⟨UInt8.ofNat (readUint (slice header 5 6))⟩
        sequence := UInt64.ofNat (readUint (slice header 12 20))
        fragment, payload }
      decoded.validate
      return (decoded, input)) = .ok (frame, rest))
    (length : header.length = headerSize)
    (magicField : slice header 0 4 = magic)
    (versionField : slice header 4 5 = [frameVersion])
    (known : UInt16.ofNat (readUint (slice header 6 8)) &&& ~~~flagFragmented =
      0) :
    frame.validate = .ok () ∧ header ++ input = frame.bytes ++ rest := by
  simp only [bind, Except.bind, pure, Except.pure] at decoded
  cases second : decodeFragment (UInt16.ofNat (readUint (slice header 6 8)))
    input with
  | error error => simp [second] at decoded
  | ok result =>
    obtain ⟨fragment, afterHeaders⟩ := result
    obtain ⟨rfl, flagged⟩ := decodeFragment_eq_ok second
    simp only [second] at decoded
    cases third : readFull (readUint (slice header 8 12)) .readPayload
      afterHeaders with
    | error error => simp [third] at decoded
    | ok result =>
      obtain ⟨payloadLength, rfl⟩ := readFull_eq_ok_iff.mp third
      simp only [third] at decoded
      split at decoded
      · cases decoded
      · next valid =>
        cases decoded
        refine ⟨valid, ?_⟩
        have flags := flags_of_known known
        simp only [← flagged] at flags
        rw [Frame.bytes, header_of_fields length magicField versionField
          rfl (by exact flags.symm) payloadLength rfl]
        simp only [List.append_assoc]

/-- What the stream decoder consumes is the encoding of what it returns. -/
theorem decode_eq_ok (decoded : decode input = .ok (frame, rest)) :
    frame.validate = .ok () ∧ input = frame.bytes ++ rest := by
  rw [decode] at decoded
  cases read : readFull headerSize .readHeader input with
  | error error => simp [read, bind, Except.bind] at decoded
  | ok result =>
    obtain ⟨length, rfl⟩ := readFull_eq_ok_iff.mp read
    rw [read] at decoded
    simp only [bind, Except.bind, throw, throwThe,
      MonadExceptOf.throw] at decoded
    split at decoded
    · cases decoded
    · next magicField =>
      split at decoded
      · cases decoded
      · next versionField =>
        split at decoded
        · cases decoded
        split at decoded
        · cases decoded
        · next known =>
          split at decoded
          · cases decoded
          · exact decodeBody_eq_ok decoded length (not_not.mp magicField)
              (not_not.mp versionField) (not_not.mp known)

theorem decode_eq_ok_iff :
    decode input = .ok (frame, rest) ↔
      frame.validate = .ok () ∧ input = frame.bytes ++ rest := by
  constructor
  · exact decode_eq_ok
  · rintro ⟨valid, rfl⟩
    exact decode_encode_append (Frame.encode_eq_ok_iff.mpr ⟨valid, rfl⟩) rest

private theorem decodeDatagram_eq_ok_iff {datagram : List UInt8} :
    decodeDatagram datagram = .ok frame ↔ frame.encode = .ok datagram := by
  constructor
  · intro decoded
    simp only [decodeDatagram, bind, Except.bind] at decoded
    cases stream : decode datagram with
    | error error => simp [stream] at decoded
    | ok result =>
      obtain ⟨first, rest⟩ := result
      simp only [stream] at decoded
      split at decoded
      · cases decoded
      · next whole =>
        cases decoded
        obtain ⟨valid, rfl⟩ := decode_eq_ok stream
        obtain rfl : rest = [] := not_not.mp whole
        rw [List.append_nil]
        exact Frame.encode_eq_ok_iff.mpr ⟨valid, rfl⟩
  · exact decodeDatagram_encode

/-- The frames that at most `calls` calls of `Decode` on one reader return
before a call fails, and the error of that call. -/
def decodeStream :
    (calls : Nat) → List UInt8 → List (Frame UInt8) × Option FrameError
  | 0, _ => ([], none)
  | calls + 1, input =>
    match decode input with
    | .error error => ([], some error)
    | .ok (frame, rest) =>
      (frame :: (decodeStream calls rest).1, (decodeStream calls rest).2)

private theorem decodeStream_bytes {frames : List (Frame UInt8)}
    (valid : ∀ frame ∈ frames, frame.validate = .ok ()) {calls : Nat}
    (enough : frames.length < calls) :
    decodeStream calls (frames.flatMap Frame.bytes) =
      (frames, some .readHeader) := by
  induction frames generalizing calls with
  | nil =>
    obtain ⟨calls, rfl⟩ :=
      Nat.exists_eq_succ_of_ne_zero (Nat.ne_zero_of_lt enough)
    rfl
  | cons frame frames ih =>
    obtain ⟨calls, rfl⟩ :=
      Nat.exists_eq_succ_of_ne_zero (Nat.ne_zero_of_lt enough)
    have first : decode ((frame :: frames).flatMap Frame.bytes) =
        .ok (frame, frames.flatMap Frame.bytes) := by
      apply decode_eq_ok_iff.mpr
      exact ⟨valid frame List.mem_cons_self, List.flatMap_cons⟩
    have later := ih (fun other member =>
      valid other (List.mem_cons_of_mem _ member))
      (Nat.lt_of_succ_lt_succ enough)
    rw [decodeStream, first]
    simp only [later]

theorem decode_truncated {front back : List UInt8}
    (encoded : frame.encode = .ok (front ++ back)) (cut : back ≠ []) :
    ∃ error, decode front = .error error := by
  cases decoded : decode front with
  | error error => exact ⟨error, rfl⟩
  | ok result =>
    obtain ⟨other, rest⟩ := result
    obtain ⟨valid, rfl⟩ := decode_eq_ok decoded
    have whole := decode_encode_append encoded []
    rw [List.append_nil, List.append_assoc,
      decode_eq_ok_iff.mpr ⟨valid, rfl⟩] at whole
    have nothing : rest ++ back = [] := (Prod.mk.inj (Except.ok.inj whole)).2
    exact (cut (List.append_eq_nil_iff.mp nothing).2).elim

/-- Encoding and decoding are inverse to each other on datagrams, streams of
encodings are read back frame by frame, and no strict prefix of an encoding is
accepted. -/
theorem encoding_is_canonical :
    (∀ frame : Frame UInt8, frame.validate = .ok () →
        ∃ bytes, frame.encode = .ok bytes ∧ decodeDatagram bytes = .ok frame) ∧
      (∀ (bytes : List UInt8) (frame : Frame UInt8),
        decodeDatagram bytes = .ok frame → frame.encode = .ok bytes) ∧
      (∀ frames : List (Frame UInt8),
        (∀ frame ∈ frames, frame.validate = .ok ()) →
          ∃ encodings,
            List.Forall₂ (fun frame bytes => frame.encode = .ok bytes) frames
                encodings ∧
              ∀ calls, frames.length < calls →
                decodeStream calls encodings.flatten =
                  (frames, some .readHeader)) ∧
      (∀ (frame : Frame UInt8) (bytes front : List UInt8),
        frame.encode = .ok bytes → front <+: bytes → front ≠ bytes →
          (∃ error, decode front = .error error) ∧
            ∃ error, decodeDatagram front = .error error) := by
  refine ⟨?_, ?_, ?_, ?_⟩
  · intro frame valid
    have encoded := Frame.encode_eq_ok_iff.mpr ⟨valid, rfl⟩
    exact ⟨frame.bytes, encoded, decodeDatagram_encode encoded⟩
  · intro bytes frame
    exact decodeDatagram_eq_ok_iff.mp
  · intro frames valid
    refine ⟨frames.map Frame.bytes, ?_, ?_⟩
    · rw [List.forall₂_map_right_iff, List.forall₂_same]
      intro frame member
      exact Frame.encode_eq_ok_iff.mpr ⟨valid frame member, rfl⟩
    · intro calls enough
      exact decodeStream_bytes valid enough
  · rintro frame bytes front encoded ⟨back, rfl⟩ strict
    have cut : back ≠ [] := by
      rintro rfl
      exact strict (List.append_nil front).symm
    obtain ⟨error, refused⟩ := decode_truncated encoded cut
    refine ⟨⟨error, refused⟩, error, ?_⟩
    simp only [decodeDatagram, refused, bind, Except.bind]

end KyClash
