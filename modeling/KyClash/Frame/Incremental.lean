import KyClash.Frame.Canonical

/-!
# Decoding a frame that arrives in pieces

`Decode` reads the fixed header, the fragment header and the payload, each
with one `io.ReadFull`.  `wanted` is the number of bytes that the current one
still waits for.  While it is positive the decoder has only a cut frame; once
it is zero, further bytes change nothing.
-/

namespace KyClash

open BigEndian

/-- The checks that `Decode` makes on the fixed header. -/
def checkHeader (header : List UInt8) : Option FrameError :=
  if slice header 0 4 ≠ magic then
    some .invalidMagic
  else if slice header 4 5 ≠ [frameVersion] then
    some .unsupportedVersion
  else if !(Kind.mk (UInt8.ofNat (readUint (slice header 5 6)))).valid then
    some .invalidKind
  else if UInt16.ofNat (readUint (slice header 6 8)) &&& ~~~flagFragmented ≠
      0 then
    some .unknownFlags
  else if maxPayloadSize < readUint (slice header 8 12) then
    some .payloadTooLarge
  else
    none

def headersLength (header : List UInt8) : Nat :=
  if UInt16.ofNat (readUint (slice header 6 8)) &&& flagFragmented ≠ 0 then
    headerSize + fragmentHeaderSize
  else
    headerSize

private theorem headerSize_le_headersLength (header : List UInt8) :
    headerSize ≤ headersLength header := by
  unfold headersLength
  split
  · exact Nat.le_add_right _ _
  · exact Nat.le_refl _

/-- How many bytes the current `io.ReadFull` of `Decode` still waits for
after the bytes of `buffer`. -/
def wanted (buffer : List UInt8) : Nat :=
  if buffer.length < headerSize then
    headerSize - buffer.length
  else if (checkHeader (buffer.take headerSize)).isSome then
    0
  else if buffer.length < headersLength (buffer.take headerSize) then
    headersLength (buffer.take headerSize) - buffer.length
  else
    headersLength (buffer.take headerSize) +
      readUint (slice (buffer.take headerSize) 8 12) - buffer.length

/-- What `Decode` does behind the fixed header. -/
def decodeBody (header body : List UInt8) :
    Except FrameError (Frame UInt8 × List UInt8) := do
  let (fragment, input) ← decodeFragment
    (UInt16.ofNat (readUint (slice header 6 8))) body
  let (payload, input) ← readFull (readUint (slice header 8 12))
    .readPayload input
  let decoded : Frame UInt8 := {
    kind := ⟨UInt8.ofNat (readUint (slice header 5 6))⟩
    sequence := UInt64.ofNat (readUint (slice header 12 20))
    fragment, payload }
  decoded.validate
  return (decoded, input)

variable {buffer : List UInt8} {header : List UInt8} {frame : Frame UInt8}

private theorem decode_short (short : buffer.length < headerSize) :
    decode buffer = .error .readHeader := by
  rw [decode, readFull, if_pos short]
  rfl

theorem decode_header (length : header.length = headerSize)
    (body : List UInt8) :
    decode (header ++ body) =
      match checkHeader header with
      | some error => .error error
      | none => decodeBody header body := by
  rw [decode, readFull_append length, checkHeader]
  simp only [bind, Except.bind, throw, throwThe, MonadExceptOf.throw]
  split
  · rfl
  split
  · rfl
  split
  · rfl
  split
  · rfl
  split
  · rfl
  · rfl

theorem wanted_short (short : buffer.length < headerSize) :
    wanted buffer = headerSize - buffer.length :=
  if_pos short

theorem wanted_header (length : header.length = headerSize)
    (body : List UInt8) :
    wanted (header ++ body) =
      if (checkHeader header).isSome then
        0
      else if headerSize + body.length < headersLength header then
        headersLength header - (headerSize + body.length)
      else
        headersLength header + readUint (slice header 8 12) -
          (headerSize + body.length) := by
  have front : (header ++ body).take headerSize = header := by
    rw [← length, List.take_left]
  have total : (header ++ body).length = headerSize + body.length := by
    rw [List.length_append, length]
  rw [wanted, front, total, if_neg (by omega)]

theorem short_or_header (buffer : List UInt8) :
    buffer.length < headerSize ∨
      ∃ header body, header.length = headerSize ∧ buffer = header ++ body := by
  by_cases short : buffer.length < headerSize
  · exact .inl short
  refine .inr ⟨buffer.take headerSize, buffer.drop headerSize, ?_,
    (List.take_append_drop headerSize buffer).symm⟩
  rw [List.length_take]
  omega

theorem wanted_append_pos {more : List UInt8}
    (fewer : more.length < wanted buffer) : 0 < wanted (buffer ++ more) := by
  rcases short_or_header buffer with short | ⟨header, body, length, rfl⟩
  · rw [wanted_short short] at fewer
    have still : (buffer ++ more).length < headerSize := by
      rw [List.length_append]
      omega
    rw [wanted_short still]
    omega
  · rw [List.append_assoc, wanted_header length, List.length_append]
    rw [wanted_header length] at fewer
    split at fewer
    · omega
    · next passed =>
      rw [if_neg passed]
      split at fewer
      · rw [if_pos (by omega)]
        omega
      · rw [if_neg (by omega)]
        omega

/-! ## What the decoder makes of the bytes so far -/

theorem readFull_append_more {size : Nat} {error : FrameError}
    {input : List UInt8} (enough : size ≤ input.length) (more : List UInt8) :
    readFull size error (input ++ more) =
      (readFull size error input).map fun read => (read.1, read.2 ++ more) := by
  rw [readFull, readFull, if_neg (by rw [List.length_append]; omega),
    if_neg (Nat.not_lt.mpr enough), List.take_append_of_le_length enough,
    List.drop_append_of_le_length enough]
  rfl

private theorem readFull_cases (size : Nat) (error : FrameError)
    (input : List UInt8) :
    (input.length < size ∧ readFull size error input = .error error) ∨
      (size ≤ input.length ∧
        readFull size error input =
          .ok (input.take size, input.drop size)) := by
  by_cases short : input.length < size
  · exact .inl ⟨short, if_pos short⟩
  · exact .inr ⟨Nat.le_of_not_lt short, if_neg short⟩

theorem decodeFragment_cases (header body : List UInt8) :
    (headerSize + body.length < headersLength header ∧
        decodeFragment (UInt16.ofNat (readUint (slice header 6 8))) body =
          .error .readFragmentHeader) ∨
      (headersLength header ≤ headerSize + body.length ∧
        ∃ fragment : Option Fragment, ∀ more,
          decodeFragment (UInt16.ofNat (readUint (slice header 6 8)))
              (body ++ more) =
            .ok
              (fragment, body.drop (headersLength header - headerSize) ++
                more)) := by
  by_cases flagged : UInt16.ofNat (readUint (slice header 6 8)) &&&
    flagFragmented ≠ 0
  · have both : headersLength header = headerSize + fragmentHeaderSize :=
      if_pos flagged
    rw [both, Nat.add_sub_cancel_left]
    rcases readFull_cases fragmentHeaderSize .readFragmentHeader body with
      ⟨short, failed⟩ | ⟨enough, -⟩
    · left
      refine ⟨by omega, ?_⟩
      rw [decodeFragment, if_pos flagged, failed]
    · right
      refine ⟨by omega, some {
        messageID := UInt64.ofNat (readUint (slice (body.take 12) 0 8))
        index := UInt16.ofNat (readUint (slice (body.take 12) 8 10))
        count := UInt16.ofNat (readUint (slice (body.take 12) 10 12)) },
        fun more => ?_⟩
      rw [decodeFragment, if_pos flagged, readFull_append_more enough,
        readFull, if_neg (Nat.not_lt.mpr enough)]
      rfl
  · have single : headersLength header = headerSize := if_neg flagged
    right
    refine ⟨by omega, none, fun more => ?_⟩
    rw [single, Nat.sub_self, List.drop_zero, decodeFragment, if_neg flagged]

/-- While bytes are wanted, the decoder fails in the read that wants them. -/
theorem decode_of_wanted (waits : 0 < wanted buffer) :
    ∃ error ∈ [FrameError.readHeader, .readFragmentHeader, .readPayload],
      decode buffer = .error error := by
  rcases short_or_header buffer with short | ⟨header, body, length, rfl⟩
  · exact ⟨.readHeader, by simp, decode_short short⟩
  · rw [wanted_header length] at waits
    rw [decode_header length]
    cases checked : checkHeader header with
    | some error => simp [checked] at waits
    | none =>
      simp only [checked, Option.isSome_none, Bool.false_eq_true,
        if_false] at waits
      rcases decodeFragment_cases header body with
        ⟨short, failed⟩ | ⟨enough, fragment, read⟩
      · refine ⟨.readFragmentHeader, by simp, ?_⟩
        simp only [decodeBody, failed, bind, Except.bind]
      · rw [if_neg (by omega)] at waits
        have here := read []
        simp only [List.append_nil] at here
        have missing : (body.drop (headersLength header -
            headerSize)).length < readUint (slice header 8 12) := by
          rw [List.length_drop]
          omega
        refine ⟨.readPayload, by simp, ?_⟩
        simp only [decodeBody, here, readFull, if_pos missing, bind,
          Except.bind]

/-- Once no bytes are wanted, more of them change nothing. -/
theorem decode_append_of_wanted (settled : wanted buffer = 0)
    (more : List UInt8) :
    decode (buffer ++ more) =
      (decode buffer).map fun result => (result.1, result.2 ++ more) := by
  rcases short_or_header buffer with short | ⟨header, body, length, rfl⟩
  · rw [wanted_short short] at settled
    omega
  · rw [wanted_header length] at settled
    rw [List.append_assoc, decode_header length, decode_header length]
    cases checked : checkHeader header with
    | some error => rfl
    | none =>
      simp only [checked, Option.isSome_none, Bool.false_eq_true,
        if_false] at settled
      rcases decodeFragment_cases header body with
        ⟨short, -⟩ | ⟨enough, fragment, read⟩
      · rw [if_pos short] at settled
        omega
      · rw [if_neg (by omega)] at settled
        have here := read []
        simp only [List.append_nil] at here
        have present : readUint (slice header 8 12) ≤
            (body.drop (headersLength header - headerSize)).length := by
          have size := headerSize_le_headersLength header
          rw [List.length_drop]
          omega
        simp only [decodeBody, here, read, readFull_append_more present, bind,
          Except.bind]
        rw [readFull, if_neg (Nat.not_lt.mpr present)]
        simp only [Except.map]
        split
        · rfl
        · rfl

/-! ## Encoded frames -/

theorem wanted_bytes (valid : frame.validate = .ok ()) :
    wanted frame.bytes = 0 := by
  by_contra waits
  obtain ⟨error, -, failed⟩ := decode_of_wanted (Nat.pos_of_ne_zero waits)
  have decoded :=
    decode_eq_ok_iff.mpr ⟨valid, (List.append_nil frame.bytes).symm⟩
  rw [failed] at decoded
  cases decoded

theorem wanted_of_cut {front back : List UInt8}
    (valid : frame.validate = .ok ()) (whole : frame.bytes = front ++ back)
    (cut : back ≠ []) : 0 < wanted front := by
  apply Nat.pos_of_ne_zero
  intro settled
  obtain ⟨error, failed⟩ :=
    decode_truncated (Frame.encode_eq_ok_iff.mpr ⟨valid, whole.symm⟩) cut
  have decoded := decode_append_of_wanted settled back
  rw [failed, ← whole,
    decode_eq_ok_iff.mpr ⟨valid, (List.append_nil frame.bytes).symm⟩] at decoded
  cases decoded

end KyClash
