import KyClash.Carrier.StreamSend

/-!
# Delivery over a stream carrier

As long as no read is broken off inside a frame, the receiver is behind a
whole number of the frames on the connection plus the bytes that `Decode` has
in hand.  Nothing in the code marks an end as unusable once a transfer is
broken off, so the guarantees are for the runs in which the later calls on
that end are refused anyway.  Without that, a receiver hands out bytes that
were never sent as a packet.
-/

namespace KyClash

open Transition

/-- The validator behind the first `count` sequence numbers. -/
def validatorAfter : (count : Nat) → SequenceValidator
  | 0 => { seen := false, last := 0 }
  | count + 1 => { seen := true, last := UInt64.ofNat count }

private theorem accept_validatorAfter {count : Nat}
    (few : count < UInt64.size) :
    (validatorAfter count).accept (UInt64.ofNat count) =
      .ok (validatorAfter (count + 1)) := by
  cases count with
  | zero => rfl
  | succ count =>
    have later : ¬UInt64.ofNat (count + 1) ≤ UInt64.ofNat count := by
      rw [UInt64.le_iff_toNat_le, UInt64.toNat_ofNat_of_lt' few,
        UInt64.toNat_ofNat_of_lt' (Nat.lt_of_succ_lt few)]
      exact Nat.not_succ_le_self count
    rw [validatorAfter, SequenceValidator.accept,
      if_neg (fun stale => later stale.2)]
    rfl

namespace Stream

private theorem sendFrame_incoming (stream : Stream) (kind : Kind)
    (payload : List UInt8) (outcome : WriteOutcome) :
    (stream.sendFrame kind payload outcome).1.incoming = stream.incoming := by
  unfold Stream.sendFrame
  split
  · rfl
  · unfold Stream.finishFrame
    split <;> rfl

private theorem handleFrame_next {stream after : Stream} {count : Nat}
    {decoded : Frame UInt8} {reply : WriteOutcome} {handled : Handled}
    (incoming : stream.incoming = validatorAfter count)
    (few : count < UInt64.size) (number : decoded.sequence = UInt64.ofNat count)
    (whole : decoded.fragment = none)
    (handles : stream.handleFrame decoded reply = (after, handled)) :
    after.incoming = validatorAfter (count + 1) ∧
      ((decoded.kind = .wireGuardPacket ∧
          handled = .returns (.ok decoded.payload)) ∨
        (decoded.kind ≠ .wireGuardPacket ∧
          (handled = .again ∨
            ∃ error, handled = .returns (.error error)))) := by
  have accepted := accept_validatorAfter few
  rw [← incoming, ← number] at accepted
  unfold Stream.handleFrame at handles
  simp only [accepted, whole, Option.isSome_none, Bool.false_eq_true,
    if_false] at handles
  split at handles
  · next packet =>
    cases handles
    exact ⟨rfl, .inl ⟨packet, rfl⟩⟩
  · next control =>
    have kept := sendFrame_incoming
      { stream with incoming := validatorAfter (count + 1) } .pong [] reply
    generalize Stream.sendFrame _ _ _ _ = replied at handles kept
    obtain ⟨stream, result⟩ := replied
    by_cases ping : decoded.kind = .ping
    · rw [if_pos ping] at handles
      cases result with
      | error error =>
        cases handles
        exact ⟨kept, .inr ⟨control, .inr ⟨error, rfl⟩⟩⟩
      | ok value =>
        cases handles
        exact ⟨kept, .inr ⟨control, .inl rfl⟩⟩
    · rw [if_neg ping] at handles
      split at handles
      · cases handles
        exact ⟨rfl, .inr ⟨control, .inl rfl⟩⟩
      split at handles
      all_goals
        cases handles
        exact ⟨rfl, .inr ⟨control, .inr ⟨_, rfl⟩⟩⟩

end Stream

/-! ## The receiving end -/

namespace ReceiveEnd

/-- The receiver stands behind the first `count` frames and what `Decode` has
in hand of the next. -/
structure InStep (frames : List (Kind × List UInt8)) (count : Nat)
    (receiver : ReceiveEnd) : Prop where
  incoming : receiver.stream.incoming = validatorAfter count
  consumed : receiver.consumed =
    encoded (frames.take count) ++ receiver.buffer.getD []
  waits : ∀ front back, receiver.buffer = some (front ++ back) → back ≠ [] →
    0 < wanted front

structure Orderly (written : List UInt8) (frames : List (Kind × List UInt8))
    (count : Nat) (receiver : ReceiveEnd) : Prop where
  inside : count ≤ frames.length
  delivered : receiver.consumed <+: written
  returned : receiver.returned = packetsOf (frames.take count)
  place : (receiver.broken = false ∧ InStep frames count receiver) ∨
    (receiver.broken = true ∧ receiver.buffer = none)
  trusted : Trusted ReceivedCall.consumed
    (fun call => ∃ packet, call.result = .ok packet) receiver.broken
    receiver.calls

variable {written more : List UInt8} {frames longer : List (Kind × List UInt8)}
  {count : Nat} {receiver after : ReceiveEnd}

theorem Orderly.grow (orderly : Orderly written frames count receiver)
    (bytes : written <+: more) (completed : frames <+: longer) :
    Orderly more longer count receiver := by
  have same : longer.take count = frames.take count := by
    obtain ⟨rest, rfl⟩ := completed
    exact List.take_append_of_le_length orderly.inside
  refine ⟨Nat.le_trans orderly.inside completed.length_le,
    orderly.delivered.trans bytes, ?_, ?_, orderly.trusted⟩
  · rw [same]
    exact orderly.returned
  · rcases orderly.place with ⟨usable, inStep⟩ | stuck
    · refine .inl ⟨usable, inStep.incoming, ?_, inStep.waits⟩
      rw [same]
      exact inStep.consumed
    · exact .inr stuck

theorem InStep.aligned (inStep : InStep frames count receiver)
    (sendable : ∀ frame ∈ frames, Sendable frame)
    (nothing : receiver.buffer.getD [] = []) : Aligned receiver.consumed := by
  rw [inStep.consumed, nothing, List.append_nil]
  apply aligned_encoded
  intro frame member
  exact sendable frame (List.mem_of_mem_take member)

theorem returned_finish (receiver : ReceiveEnd)
    (result : Except StreamError (List UInt8)) :
    (receiver.finish result).returned =
      receiver.returned ++ result.toOption.toList := by
  rw [ReceiveEnd.returned, ReceiveEnd.finish, List.filterMap_append]
  cases result <;> rfl

theorem packetsOf_take_succ (inside : count < frames.length) :
    packetsOf (frames.take (count + 1)) =
      packetsOf (frames.take count) ++ packetsOf [frames[count]] := by
  rw [← List.take_append_getElem inside, packetsOf_append]

private theorem nextFrame_waiting (receiver : ReceiveEnd)
    (context : CallContext) :
    { receiver with buffer := none }.nextFrame context =
      receiver.nextFrame context := by
  cases context.refusal <;> rfl

section

variable (orderly : Orderly written frames count receiver)
include orderly

section

variable (sendable : ∀ frame ∈ frames, Sendable frame)
include sendable

theorem Orderly.abandon {buffer : List UInt8}
    (held : receiver.buffer.getD [] = buffer) (error : StreamError) :
    Orderly written frames count (receiver.abandon buffer error) := by
  refine ⟨orderly.inside, orderly.delivered, ?_, ?_, ?_⟩
  · exact (returned_finish receiver (.error error)).trans
      ((List.append_nil _).trans orderly.returned)
  · rcases orderly.place with ⟨usable, inStep⟩ | ⟨broken, -⟩
    · by_cases nothing : buffer = []
      · have consumed := inStep.consumed
        rw [held, nothing] at consumed
        exact .inl ⟨by simp [ReceiveEnd.abandon, usable, nothing],
          inStep.incoming, consumed, nofun⟩
      · exact .inr ⟨by simp [ReceiveEnd.abandon, nothing], rfl⟩
    · exact .inr ⟨by simp [ReceiveEnd.abandon, broken], rfl⟩
  · apply orderly.trusted.append
    · rintro ⟨packet, success⟩
      cases success
    · intro unbroken
      simp only [ReceiveEnd.abandon, Bool.or_eq_false_iff, Bool.not_eq_false',
        List.isEmpty_iff] at unbroken
      refine ⟨unbroken.1, ?_⟩
      rcases orderly.place with ⟨-, inStep⟩ | ⟨broken, -⟩
      · exact inStep.aligned sendable (held.trans unbroken.2)
      · simp [unbroken.1] at broken

theorem Orderly.fails (waiting : receiver.buffer = none) (error : StreamError) :
    Orderly written frames count (receiver.finish (.error error)) := by
  have left : Orderly written frames count (receiver.abandon [] error) :=
    orderly.abandon sendable (by rw [waiting]; rfl) error
  simpa [ReceiveEnd.abandon, ReceiveEnd.finish] using left

variable {context : CallContext}

theorem Orderly.nextFrame (waiting : receiver.buffer = none)
    (refused : receiver.broken = true → context.refusal.isSome = true) :
    Orderly written frames count (receiver.nextFrame context) := by
  unfold ReceiveEnd.nextFrame
  cases refusal : context.refusal with
  | some error => exact orderly.fails sendable waiting error
  | none =>
    refine { orderly with place := ?_ }
    rcases orderly.place with ⟨usable, inStep⟩ | ⟨broken, -⟩
    · have consumed := inStep.consumed
      rw [waiting] at consumed
      refine .inl ⟨usable, inStep.incoming, consumed, ?_⟩
      intro front back empty more
      have both := List.append_eq_nil_iff.mp (Option.some.inj empty).symm
      exact (more both.2).elim
    · simp [refusal] at refused
      simp [refused] at broken

theorem Orderly.start (waiting : receiver.buffer = none)
    (refused : receiver.broken = true →
      receiver.stream.closed = true ∨ context.refusal.isSome = true) :
    Orderly written frames count (receiver.start context) := by
  unfold ReceiveEnd.start
  split
  · exact orderly.fails sendable waiting .closed
  · next opened =>
    apply orderly.nextFrame sendable waiting
    intro broken
    exact (refused broken).resolve_left opened

end

variable {buffer : List UInt8} {stream : Stream}
  (reading : receiver.buffer = some buffer)
include reading

/-- Between two frames or inside one, a call in progress is in step. -/
theorem Orderly.inStep :
    receiver.broken = false ∧ InStep frames count receiver := by
  rcases orderly.place with inStep | ⟨-, waiting⟩
  · exact inStep
  · simp [waiting] at reading

theorem Orderly.read {amount : Nat} (bounded : amount ≤ wanted buffer) :
    Orderly written frames count
      (receiver.read buffer
        ((written.drop receiver.consumed.length).take amount)) := by
  obtain ⟨usable, inStep⟩ := orderly.inStep reading
  have consumed := inStep.consumed
  rw [reading] at consumed
  refine { orderly with delivered := ?_, place := .inl ⟨usable, ?_⟩ }
  · obtain ⟨rest, rfl⟩ := orderly.delivered
    rw [List.drop_left]
    exact (List.prefix_append_right_inj _).mpr (List.take_prefix _ _)
  · refine ⟨inStep.incoming, ?_, ?_⟩
    · show receiver.consumed ++ _ = _
      rw [consumed, List.append_assoc]
      rfl
    · intro front back split nonempty
      have whole := Option.some.inj split
      rcases List.append_eq_append_iff.mp whole with
        ⟨middle, rfl, fresh⟩ | ⟨middle, rfl, rest⟩
      · apply wanted_append_pos
        have length := congrArg List.length fresh
        rw [List.length_append, List.length_take] at length
        have positive := List.length_pos_of_ne_nil nonempty
        omega
      · by_cases inner : middle = []
        · subst inner
          rw [List.append_nil] at bounded
          have length := congrArg List.length rest
          rw [List.nil_append, List.length_take] at length
          have positive := List.length_pos_of_ne_nil nonempty
          omega
        · exact inStep.waits front middle reading inner

/-- When `Decode` is done, it has exactly the next frame in hand. -/
theorem Orderly.whole_frame (carries : SendEnd.Carries written frames)
    (settled : wanted buffer = 0) :
    ∃ inside : count < frames.length, buffer =
      (streamFrame (UInt64.ofNat count) frames[count]).bytes := by
  obtain ⟨-, inStep⟩ := orderly.inStep reading
  obtain ⟨tail, ⟨partly, missing, sendable, nonempty, cut⟩, total⟩ :=
    carries.bytes
  have delivered := orderly.delivered
  rw [inStep.consumed, reading, Option.getD_some] at delivered
  rcases Nat.lt_or_eq_of_le orderly.inside with inside | atEnd
  · refine ⟨inside, ?_⟩
    have valid :=
      carries.sendable _ (List.getElem_mem inside) (UInt64.ofNat count)
    have next : encoded (frames.take count) ++
        (streamFrame (UInt64.ofNat count) frames[count]).bytes <+: written := by
      rw [← encoded_take_succ inside, total]
      apply List.IsPrefix.trans _ (List.prefix_append _ _)
      have grown :=
        encoded_append (frames.take (count + 1)) (frames.drop (count + 1))
      rwa [List.take_append_drop] at grown
    rcases List.prefix_or_prefix_of_prefix delivered next with less | more
    · obtain ⟨back, whole⟩ := (List.prefix_append_right_inj _).mp less
      by_cases nothing : back = []
      · rw [← whole, nothing, List.append_nil]
      · have waits := wanted_of_cut valid whole.symm nothing
        omega
    · obtain ⟨back, whole⟩ := (List.prefix_append_right_inj _).mp more
      by_cases nothing : back = []
      · rw [← whole, nothing, List.append_nil]
      have waits := inStep.waits _ back (by rw [whole, reading]) nothing
      rw [wanted_bytes valid] at waits
      omega
  · rw [atEnd, List.take_length, total] at delivered
    obtain ⟨back, whole⟩ := (List.prefix_append_right_inj _).mp delivered
    have rest : back ++ missing ≠ [] := by
      intro empty
      exact nonempty (List.append_eq_nil_iff.mp empty).2
    rw [← whole, List.append_assoc] at cut
    have waits := wanted_of_cut (sendable _) cut rest
    omega

theorem Orderly.next (inside : count < frames.length)
    (whole : buffer = (streamFrame (UInt64.ofNat count) frames[count]).bytes)
    (incoming : stream.incoming = validatorAfter (count + 1)) :
    InStep frames (count + 1) { receiver with stream, buffer := none } := by
  obtain ⟨-, inStep⟩ := orderly.inStep reading
  have consumed := inStep.consumed
  rw [reading, Option.getD_some, whole, ← encoded_take_succ inside] at consumed
  exact ⟨incoming, consumed.trans (List.append_nil _).symm, nofun⟩

theorem Orderly.packet (sendable : ∀ frame ∈ frames, Sendable frame)
    (inside : count < frames.length)
    (place : InStep frames (count + 1) { receiver with stream, buffer := none })
    (packet : frames[count].1 = Kind.wireGuardPacket) :
    Orderly written frames (count + 1)
      ({ receiver with stream }.finish (.ok frames[count].2)) := by
  obtain ⟨usable, -⟩ := orderly.inStep reading
  refine ⟨inside, orderly.delivered, ?_,
    .inl ⟨usable, place.incoming, place.consumed, nofun⟩, ?_⟩
  · have payload : packetsOf [frames[count]] = [frames[count].2] := by
      rw [← packetsOf_packet, ← packet]
    rw [packetsOf_take_succ inside, payload, ← orderly.returned]
    exact returned_finish _ _
  · apply orderly.trusted.append
    · intro _
      exact usable
    · intro _
      exact ⟨usable, place.aligned sendable rfl⟩

theorem Orderly.control (inside : count < frames.length)
    (place : InStep frames (count + 1) { receiver with stream, buffer := none })
    (control : frames[count].1 ≠ Kind.wireGuardPacket) :
    Orderly written frames (count + 1)
      { receiver with stream, buffer := none } := by
  obtain ⟨usable, -⟩ := orderly.inStep reading
  refine ⟨inside, orderly.delivered, ?_, .inl ⟨usable, place⟩, orderly.trusted⟩
  rw [packetsOf_take_succ inside, packetsOf_control control, List.append_nil]
  exact orderly.returned

theorem Orderly.finishDecode (carries : SendEnd.Carries written frames)
    (settled : wanted buffer = 0) (cancelled : Bool) (reply : WriteOutcome)
    (again : CallContext) :
    ∃ count,
      Orderly written frames count
        (receiver.finishDecode buffer cancelled reply again) := by
  unfold ReceiveEnd.finishDecode
  cases cancelled with
  | true =>
    exact ⟨count, orderly.abandon carries.sendable (by rw [reading]; rfl)
      .contextDone⟩
  | false =>
    obtain ⟨inside, whole⟩ := orderly.whole_frame reading carries settled
    obtain ⟨usable, inStep⟩ := orderly.inStep reading
    have valid :=
      carries.sendable _ (List.getElem_mem inside) (UInt64.ofNat count)
    have decodes : decode buffer =
        .ok (streamFrame (UInt64.ofNat count) frames[count], []) :=
      decode_eq_ok_iff.mpr ⟨valid, by rw [whole, List.append_nil]⟩
    cases handles : receiver.stream.handleFrame
        (streamFrame (UInt64.ofNat count) frames[count]) reply with
    | mk stream handled =>
      obtain ⟨incoming, outcome⟩ := Stream.handleFrame_next
        inStep.incoming (Nat.lt_trans inside carries.few) rfl rfl handles
      have place := orderly.next reading inside whole incoming
      refine ⟨count + 1, ?_⟩
      simp only [decodes, handles, Bool.false_eq_true, if_false]
      rcases outcome with ⟨packet, rfl⟩ | ⟨control, outcome⟩
      · exact orderly.packet reading carries.sendable inside place packet
      · have between := orderly.control reading inside place control
        rcases outcome with rfl | ⟨error, rfl⟩
        · have refused : receiver.broken = true →
              again.refusal.isSome = true := by
            intro broken
            simp [usable] at broken
          have later := between.nextFrame carries.sendable rfl refused
          rwa [nextFrame_waiting { receiver with stream }] at later
        · exact between.fails carries.sendable rfl error

end

theorem Orderly.step (orderly : Orderly written frames count receiver)
    (carries : SendEnd.Carries written frames) {event : ReceiveEvent}
    (refused : ∀ context, event = .receive context → receiver.broken = true →
      receiver.stream.closed = true ∨ context.refusal.isSome = true)
    (taken : receiver.step written event = some after) :
    ∃ count, Orderly written frames count after := by
  cases event with
  | receive context =>
    cases waiting : receiver.buffer with
    | some buffer => simp [ReceiveEnd.step, waiting] at taken
    | none =>
      simp only [ReceiveEnd.step, waiting, Option.some.injEq] at taken
      subst taken
      exact ⟨count,
        orderly.start carries.sendable waiting (refused context rfl)⟩
  | read amount =>
    cases reading : receiver.buffer with
    | none => simp [ReceiveEnd.step, reading] at taken
    | some buffer =>
      simp only [ReceiveEnd.step, reading, Option.ite_none_right_eq_some,
        Option.some.injEq] at taken
      obtain ⟨⟨-, bounded, -⟩, rfl⟩ := taken
      exact ⟨count, orderly.read reading bounded⟩
  | readFails cancelled =>
    cases reading : receiver.buffer with
    | none => simp [ReceiveEnd.step, reading] at taken
    | some buffer =>
      simp only [ReceiveEnd.step, reading,
        Option.ite_none_right_eq_some] at taken
      obtain ⟨-, taken⟩ := taken
      split at taken
      · cases taken
        exact ⟨count, orderly.abandon carries.sendable (by rw [reading]; rfl) _⟩
      · cases taken
  | decoded cancelled reply again =>
    cases reading : receiver.buffer with
    | none => simp [ReceiveEnd.step, reading] at taken
    | some buffer =>
      simp only [ReceiveEnd.step, reading, Option.ite_none_right_eq_some,
        Option.some.injEq] at taken
      obtain ⟨settled, rfl⟩ := taken
      exact orderly.finishDecode reading carries settled cancelled reply again
  | close =>
    cases taken
    refine ⟨count, { orderly with place := ?_ }⟩
    rcases orderly.place with ⟨usable, inStep⟩ | stuck
    · exact .inl ⟨usable, inStep.incoming, inStep.consumed, inStep.waits⟩
    · exact .inr stuck

end ReceiveEnd

/-! ## Both ends together -/

namespace Link

structure Orderly (link : Link) : Prop where
  sender : link.sender.Orderly
  receiver : ∃ count, ReceiveEnd.Orderly link.sender.written
    link.sender.completed count link.receiver

private theorem orderly_new : Orderly newLink where
  sender := {
    phase := .idle rfl rfl rfl rfl
    sendable := nofun
    succeeded := nofun
    trusted := ⟨fun _ => nofun, .nil⟩ }
  receiver := ⟨0, {
    inside := Nat.le_refl 0
    delivered := List.prefix_refl _
    returned := rfl
    place := .inl ⟨rfl, rfl, rfl, nofun⟩
    trusted := ⟨fun _ => nofun, .nil⟩ }⟩

private theorem error_of_not_isOk {result : Except StreamError (List UInt8)}
    (failed : result.isOk = false) : ∃ error, result = .error error := by
  cases result with
  | error error => exact ⟨error, rfl⟩
  | ok bytes => cases failed

theorem Orderly.step {link after : Link} (orderly : link.Orderly)
    {event : LinkEvent} (refused : link.Refused event)
    (taken : link.step event = some after) : after.Orderly := by
  obtain ⟨count, receiver⟩ := orderly.receiver
  cases event with
  | sending event =>
    cases moved : link.sender.step event with
    | none => simp [Link.step, moved] at taken
    | some sender =>
      simp only [Link.step, moved, Option.some.injEq] at taken
      subst taken
      have allowed : ∀ kind payload context,
          event = .send kind payload context → link.sender.broken = true →
            ∃ error, link.sender.stream.prepareFrame kind payload context =
              .error error := by
        rintro kind payload context rfl broken
        exact error_of_not_isOk (refused broken)
      obtain ⟨kept, grows⟩ := orderly.sender.step allowed moved
      exact ⟨kept, count, receiver.grow grows.written grows.completed⟩
  | receiving event =>
    cases moved : link.receiver.step link.sender.written event with
    | none => simp [Link.step, moved] at taken
    | some receiving =>
      simp only [Link.step, moved, Option.some.injEq] at taken
      subst taken
      have allowed : ∀ context, event = .receive context →
          link.receiver.broken = true → link.receiver.stream.closed = true ∨
              context.refusal.isSome = true := by
        rintro context rfl
        exact refused
      exact ⟨orderly.sender, receiver.step orderly.sender.carries allowed moved⟩

theorem Orderly.sound {link : Link} (orderly : link.Orderly) : link.Sound := by
  obtain ⟨count, receiver⟩ := orderly.receiver
  refine ⟨?_, orderly.sender.succeeded, orderly.sender.trusted.ordered, ?_⟩
  · have whole := packetsOf_append (link.sender.completed.take count)
      (link.sender.completed.drop count)
    rw [List.take_append_drop] at whole
    rw [receiver.returned, whole]
    exact List.prefix_append _ _
  · apply receiver.trusted.ordered.imp
    intro earlier later failed misaligned packet success
    exact failed misaligned ⟨packet, success⟩

/-- In every run in which the calls on an end whose last transfer was broken
off are refused before their first byte, the stream carrier delivers a prefix
of the packets sent, and no call succeeds on an end that a call has left
inside a frame. -/
theorem delivers_prefix {link : Link}
    (reached : Reaches Link.step Link.Refused newLink link) : link.Sound :=
  (reached.invariant orderly_new fun _ _ _ orderly refused taken =>
    Orderly.step orderly refused taken).sound

/-- A write is broken off after the fixed header and two bytes, and the rest
of its payload is taken from the frame that follows. -/
def tornWrite : List LinkEvent :=
    [.sending (.send .wireGuardPacket [1, 2, 3, 4] ⟨false, false⟩),
  .sending (.write 22),
  .sending (.writeFails true),
  .sending (.send .wireGuardPacket [] ⟨false, false⟩),
  .sending (.write 20),
  .sending (.sendReturns false),
  .receiving (.receive ⟨false, false⟩),
  .receiving (.read 20),
  .receiving (.read 4),
  .receiving (.decoded false ⟨⟨false, false⟩, true, false⟩ ⟨false, false⟩)]

/-- The context of a `Receive` is cancelled when `Decode` has the first frame,
and the next call returns the second. -/
def cancelledRead : List LinkEvent :=
    [.sending (.send .wireGuardPacket [1] ⟨false, false⟩),
  .sending (.write 21),
  .sending (.sendReturns false),
  .sending (.send .wireGuardPacket [2] ⟨false, false⟩),
  .sending (.write 21),
  .sending (.sendReturns false),
  .receiving (.receive ⟨false, false⟩),
  .receiving (.read 20),
  .receiving (.read 1),
  .receiving (.decoded true ⟨⟨false, false⟩, true, false⟩ ⟨false, false⟩),
  .receiving (.receive ⟨false, false⟩),
  .receiving (.read 20),
  .receiving (.read 1),
  .receiving (.decoded false ⟨⟨false, false⟩, true, false⟩ ⟨false, false⟩)]

/-- Without refusals, a receiver returns bytes that were no packet, and skips
a packet whose `Send` succeeded. -/
theorem broken_transfers_are_not_contained :
    (∃ link, Reaches Link.step (fun _ _ => True) newLink link ∧
        link.sender.calls.map SentCall.payload = [[1, 2, 3, 4], []] ∧
        link.receiver.returned = [[1, 2, 0x4b, 0x59]] ∧ ¬link.Sound) ∧
      (∃ link, Reaches Link.step (fun _ _ => True) newLink link ∧
        link.sender.calls.map (fun call => (call.payload, call.result.isOk)) =
          [([1], true), ([2], true)] ∧
        link.receiver.returned = [[2]] ∧ ¬link.Sound) := by
  have unsound : ∀ {link : Link} {returned completed : List (List UInt8)},
      link.receiver.returned = returned →
        packetsOf link.sender.completed = completed → ¬ returned <+: completed →
        ¬ link.Sound := by
    rintro link _ _ rfl rfl wrong sound
    exact wrong sound.returned
  constructor
  · have replay : (run Link.step newLink tornWrite).map
        (fun link => (link.sender.calls.map SentCall.payload,
          link.receiver.returned, packetsOf link.sender.completed)) =
        some ([[1, 2, 3, 4], []], [[1, 2, 0x4b, 0x59]], [[]]) := by
      decide +kernel
    obtain ⟨link, reached, facts⟩ := exists_of_replay replay
    simp only [Prod.mk.injEq] at facts
    obtain ⟨calls, returned, completed⟩ := facts
    exact ⟨link, reached, calls, returned,
      unsound returned completed (by decide)⟩
  · have replay : (run Link.step newLink cancelledRead).map
        (fun link =>
          (link.sender.calls.map (fun call => (call.payload, call.result.isOk)),
          link.receiver.returned, packetsOf link.sender.completed)) =
        some ([([1], true), ([2], true)], [[2]], [[1], [2]]) := by
      decide +kernel
    obtain ⟨link, reached, facts⟩ := exists_of_replay replay
    simp only [Prod.mk.injEq] at facts
    obtain ⟨calls, returned, completed⟩ := facts
    exact ⟨link, reached, calls, returned,
      unsound returned completed (by decide)⟩

/-- Two packets arrive, the write of a third is broken off, and the call after
it is refused because its context is done. -/
theorem refused_calls_are_contained :
    ∃ link, Reaches Link.step Link.Refused newLink link ∧
      link.sender.broken = true ∧
      link.sender.calls.map (fun call => (call.payload, call.result.isOk)) =
        [([1], true), ([2], false), ([3], false), ([4], false)] ∧
      link.receiver.returned = [[1], [2]] ∧ link.Sound := by
  have replay : (run (fun link event =>
      if Link.Refused link event then Link.step link event else none) newLink
      [.sending (.send .wireGuardPacket [1] ⟨false, false⟩),
        .sending (.write 21),
        .receiving (.receive ⟨false, false⟩),
        .receiving (.read 7),
        .sending (.sendReturns false),
        .receiving (.read 13),
        .receiving (.read 1),
        .receiving (.decoded false ⟨⟨false, false⟩, true, false⟩
          ⟨false, false⟩),
        .sending (.send .wireGuardPacket [2] ⟨false, false⟩),
        .sending (.write 5),
        .sending (.write 16),
        .sending (.sendReturns true),
        .receiving (.receive ⟨false, false⟩),
        .receiving (.read 20),
        .receiving (.read 1),
        .receiving (.decoded false ⟨⟨false, false⟩, true, false⟩
          ⟨false, false⟩),
        .sending (.send .wireGuardPacket [3] ⟨false, false⟩),
        .sending (.write 5),
        .sending (.writeFails false),
        .sending (.send .wireGuardPacket [4] ⟨true, false⟩)]).map
      (fun link => (link.sender.broken,
        link.sender.calls.map (fun call => (call.payload, call.result.isOk)),
        link.receiver.returned)) =
      some (true, [([1], true), ([2], false), ([3], false), ([4], false)],
        [[1], [2]]) := by
    decide +kernel
  obtain ⟨link, ran, facts⟩ := Option.map_eq_some_iff.mp replay
  simp only [Prod.mk.injEq] at facts
  obtain ⟨broken, calls, returned⟩ := facts
  have reached := reaches_of_guarded .start _ ran
  exact ⟨link, reached, broken, calls, returned, delivers_prefix reached⟩

end Link

end KyClash
