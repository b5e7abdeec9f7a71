import KyClash.Carrier.Stream

/-!
# The sending end of a stream carrier

As long as no write is broken off inside a frame, the bytes on the connection
are the frames of the completed calls, numbered from zero.  A write that is
broken off leaves a strict part of one more frame behind them.
-/

namespace KyClash

def streamFrame (sequence : UInt64) (frame : Kind × List UInt8) :
    Frame UInt8 where
  kind := frame.1
  sequence := sequence
  fragment := none
  payload := frame.2

def numbered (frames : List (Kind × List UInt8)) : List (Frame UInt8) :=
  frames.mapIdx fun index frame => streamFrame (UInt64.ofNat index) frame

def encoded (frames : List (Kind × List UInt8)) : List UInt8 :=
  (numbered frames).flatMap Frame.bytes

/-- Validation does not look at the sequence number. -/
def Sendable (frame : Kind × List UInt8) : Prop :=
  ∀ sequence, (streamFrame sequence frame).validate = .ok ()

theorem encoded_concat (frames : List (Kind × List UInt8))
    (frame : Kind × List UInt8) :
    encoded (frames ++ [frame]) =
      encoded frames ++
        (streamFrame (UInt64.ofNat frames.length) frame).bytes := by
  simp [encoded, numbered]

theorem encoded_append (frames more : List (Kind × List UInt8)) :
    encoded frames <+: encoded (frames ++ more) := by
  rw [encoded, encoded, numbered, numbered, List.mapIdx_append,
    List.flatMap_append]
  exact List.prefix_append _ _

variable {frames : List (Kind × List UInt8)} {context : CallContext}
  {stream : Stream} {count : Nat} {kind : Kind}

theorem encoded_take_succ (inside : count < frames.length) :
    encoded (frames.take (count + 1)) =
      encoded (frames.take count) ++
        (streamFrame (UInt64.ofNat count) frames[count]).bytes := by
  rw [← List.take_append_getElem inside, encoded_concat, List.length_take,
    Nat.min_eq_left (Nat.le_of_lt inside)]

theorem aligned_encoded (sendable : ∀ frame ∈ frames, Sendable frame) :
    Aligned (encoded frames) := by
  refine ⟨numbered frames, ?_, rfl⟩
  intro frame member
  obtain ⟨index, inside, rfl⟩ := List.mem_mapIdx.mp member
  exact sendable _ (List.getElem_mem inside) _

theorem Frame.bytes_ne_nil (frame : Frame UInt8) : frame.bytes ≠ [] := by
  simp [Frame.bytes, Frame.header, magic]

theorem packetsOf_append (frames more : List (Kind × List UInt8)) :
    packetsOf (frames ++ more) = packetsOf frames ++ packetsOf more := by
  rw [packetsOf, List.filter_append, List.map_append]
  rfl

theorem packetsOf_packet (payload : List UInt8) :
    packetsOf [(Kind.wireGuardPacket, payload)] = [payload] := by
  simp [packetsOf]

theorem packetsOf_control {frame : Kind × List UInt8}
    (control : frame.1 ≠ Kind.wireGuardPacket) : packetsOf [frame] = [] := by
  simp [packetsOf, control]

/-- What the log of one end says: while the end is not broken every call left
it between two frames, and behind a call that did not, none succeeded. -/
structure Trusted {Call : Type} (passed : Call → List UInt8)
    (succeeds : Call → Prop) (broken : Bool) (calls : List Call) : Prop where
  aligned : broken = false → ∀ call ∈ calls, Aligned (passed call)
  ordered : calls.Pairwise fun earlier later =>
    ¬Aligned (passed earlier) → ¬succeeds later

theorem Trusted.append {Call : Type} {passed : Call → List UInt8}
    {succeeds : Call → Prop} {broken after : Bool} {calls : List Call}
    {call : Call} (trusted : Trusted passed succeeds broken calls)
    (success : succeeds call → broken = false)
    (kept : after = false → broken = false ∧ Aligned (passed call)) :
    Trusted passed succeeds after (calls ++ [call]) := by
  constructor
  · intro usable other member
    obtain ⟨before, here⟩ := kept usable
    rcases List.mem_append.mp member with earlier | last
    · exact trusted.aligned before other earlier
    · rw [List.mem_singleton.mp last]
      exact here
  · apply List.pairwise_append.mpr
    refine ⟨trusted.ordered, List.pairwise_singleton _ _, ?_⟩
    intro earlier member later last misaligned succeeded
    rw [List.mem_singleton.mp last] at succeeded
    exact misaligned (trusted.aligned (success succeeded) earlier member)

/-! ## The sending end -/

theorem Stream.prepareFrame_eq_ok {payload bytes : List UInt8}
    (prepared : stream.prepareFrame kind payload context = .ok bytes) :
    stream.next ≠ uint64Max ∧ Sendable (kind, payload) ∧
      bytes = (streamFrame stream.next (kind, payload)).bytes := by
  unfold Stream.prepareFrame at prepared
  split at prepared
  · cases prepared
  split at prepared
  · cases prepared
  · next fresh =>
    cases encodes : (stream.outgoing kind payload).encode with
    | error error => simp [encodes] at prepared
    | ok encoding =>
      obtain ⟨valid, rfl⟩ := Frame.encode_eq_ok_iff.mp encodes
      simp only [encodes] at prepared
      split at prepared
      · cases prepared
      · cases prepared
        exact ⟨fresh, fun _ => valid, rfl⟩

theorem succ_toNat {next : UInt64} (fresh : next ≠ uint64Max) :
    next.toNat + 1 < UInt64.size ∧ (next + 1).toNat = next.toNat + 1 := by
  have bound := next.toNat_lt
  have inside : next.toNat + 1 < UInt64.size := by
    by_contra last
    apply fresh
    apply UInt64.toNat_inj.mp
    simp only [UInt64.size] at last
    show next.toNat = 18446744073709551615
    omega
  refine ⟨inside, ?_⟩
  exact Nat.mod_eq_of_lt inside

/-- The bytes behind the completed frames are a strict part of one more. -/
def Trailing (frames : List (Kind × List UInt8)) (bytes : List UInt8) : Prop :=
  ∃ frame tail, Sendable frame ∧ tail ≠ [] ∧
    (streamFrame (UInt64.ofNat frames.length) frame).bytes = bytes ++ tail

private theorem trailing_nil (frames : List (Kind × List UInt8)) :
    Trailing frames [] := by
  refine ⟨(.wireGuardPacket, []), _, fun _ => rfl, ?_, (List.nil_append _).symm⟩
  exact Frame.bytes_ne_nil _

namespace SendEnd

/-- Where the sending end is: between two frames, inside one, or where a
transfer was broken off. -/
inductive Phase (sender : SendEnd) : Prop where
  | idle (pending : sender.pending = none) (usable : sender.broken = false)
      (next : sender.stream.next.toNat = sender.finished.length)
      (written : sender.written = encoded sender.finished)
  | busy (outgoing : Outgoing) (pending : sender.pending = some outgoing)
      (usable : sender.broken = false)
      (next : sender.stream.next.toNat = sender.finished.length)
      (fresh : sender.stream.next ≠ uint64Max)
      (sendable : Sendable (outgoing.kind, outgoing.payload))
      (bytes : (streamFrame sender.stream.next
          (outgoing.kind, outgoing.payload)).bytes =
        outgoing.accepted ++ outgoing.rest)
      (written : sender.written = encoded sender.finished ++ outgoing.accepted)
  | stuck (pending : sender.pending = none) (broken : sender.broken = true)
      (few : sender.finished.length < UInt64.size)
      (tail : List UInt8) (trailing : Trailing sender.finished tail)
      (written : sender.written = encoded sender.finished ++ tail)

structure Orderly (sender : SendEnd) : Prop where
  phase : sender.Phase
  sendable : ∀ frame ∈ sender.finished, Sendable frame
  succeeded : ∀ call ∈ sender.calls, call.result = .ok () → call.complete = true
  trusted : Trusted SentCall.written (fun call => call.result = .ok ())
    sender.broken sender.calls

variable {sender after : SendEnd} {outgoing : Outgoing}

theorem finished_finish (sender : SendEnd) (kind : Kind) (payload : List UInt8)
    (complete : Bool) (result : Except StreamError Unit) :
    (sender.finish kind payload complete result).finished =
      sender.finished ++ if complete then [(kind, payload)] else [] := by
  cases complete <;> simp [finished, finish]

/-- The bytes and the completed frames only grow. -/
structure Grows (sender after : SendEnd) : Prop where
  written : sender.written <+: after.written
  completed : sender.completed <+: after.completed

section

variable (waiting : sender.pending = none)
include waiting

theorem completed_waiting : sender.completed = sender.finished := by
  simp [completed, waiting]

private theorem grows_finish (kind : Kind) (payload : List UInt8)
    (error : StreamError) :
    Grows sender (sender.finish kind payload false (.error error)) := by
  refine ⟨List.prefix_refl _, ?_⟩
  rw [completed_waiting waiting, completed_waiting rfl, finished_finish]
  exact List.prefix_append _ _

private theorem grows_start (kind : Kind) (payload : List UInt8)
    (context : CallContext) :
    Grows sender (sender.start kind payload context) := by
  unfold SendEnd.start
  cases sender.stream.prepareFrame kind payload context with
  | error error => exact grows_finish waiting kind payload error
  | ok bytes =>
    refine ⟨List.prefix_refl _, ?_⟩
    rw [completed_waiting waiting]
    exact List.prefix_append _ _

end

section

variable (pending : sender.pending = some outgoing)
include pending

theorem completed_pending :
    sender.completed = sender.finished ++ if outgoing.rest.isEmpty then
      [(outgoing.kind, outgoing.payload)] else [] := by
  simp [completed, pending]

theorem finished_finishWrite (complete cancelled : Bool) :
    (sender.finishWrite outgoing complete cancelled).finished =
      sender.completed := by
  rw [completed_pending pending]
  exact finished_finish sender outgoing.kind outgoing.payload _ _

private theorem grows_write (some : 0 < count ∧ count ≤ outgoing.rest.length) :
    Grows sender (sender.write outgoing count) := by
  refine ⟨List.prefix_append _ _, ?_⟩
  have bytes : ¬outgoing.rest.isEmpty = true := by
    intro empty
    rw [List.isEmpty_iff.mp empty] at some
    simp at some
    omega
  rw [completed_pending pending, if_neg bytes, List.append_nil]
  exact List.prefix_append _ _

private theorem grows_finishWrite (complete cancelled : Bool) :
    Grows sender (sender.finishWrite outgoing complete cancelled) := by
  refine ⟨List.prefix_refl _, ?_⟩
  rw [← finished_finishWrite pending complete cancelled, completed_waiting rfl]

end

/-- What the receiver can rely on. -/
structure Carries (written : List UInt8) (frames : List (Kind × List UInt8)) :
    Prop where
  sendable : ∀ frame ∈ frames, Sendable frame
  few : frames.length < UInt64.size
  bytes : ∃ tail, Trailing frames tail ∧ written = encoded frames ++ tail

private theorem finishFrame_succeeds {complete cancelled : Bool}
    (success : (stream.finishFrame complete cancelled).2 = .ok ()) :
    complete = true := by
  cases complete with
  | true => rfl
  | false => cases cancelled <;> cases success

section

variable (orderly : sender.Orderly)
include orderly

theorem Orderly.carries : Carries sender.written sender.completed := by
  cases orderly.phase with
  | idle pending usable next written =>
    rw [completed_waiting pending]
    refine ⟨orderly.sendable, ?_, [], trailing_nil _, ?_⟩
    · rw [← next]
      exact sender.stream.next.toNat_lt
    · rw [written, List.append_nil]
  | busy outgoing pending usable next fresh sendable bytes written =>
    have number : UInt64.ofNat sender.finished.length =
        sender.stream.next := by
      rw [← next, UInt64.ofNat_toNat]
    rw [completed_pending pending]
    by_cases nothing : outgoing.rest = []
    · rw [nothing, List.isEmpty_nil, if_pos rfl]
      rw [nothing, List.append_nil] at bytes
      refine ⟨?_, ?_, [], trailing_nil _, ?_⟩
      · intro frame member
        rcases List.mem_append.mp member with earlier | last
        · exact orderly.sendable frame earlier
        · rw [List.mem_singleton.mp last]
          exact sendable
      · rw [List.length_append, List.length_singleton, ← next]
        exact (succ_toNat fresh).1
      · rw [encoded_concat, number, bytes, written, List.append_nil]
    · rw [if_neg (by simpa using nothing), List.append_nil]
      refine ⟨orderly.sendable, ?_, outgoing.accepted, ?_, written⟩
      · rw [← next]
        exact sender.stream.next.toNat_lt
      · exact ⟨_, _, sendable, nothing, by rw [number]; exact bytes⟩
  | stuck pending broken few tail trailing written =>
    rw [completed_waiting pending]
    exact ⟨orderly.sendable, few, tail, trailing, written⟩

theorem Orderly.close : { sender with
      stream := { sender.stream with closed := true } }.Orderly := by
  refine { orderly with phase := ?_ }
  cases orderly.phase with
  | idle pending usable next written => exact .idle pending usable next written
  | busy outgoing pending usable next fresh sendable bytes written =>
    exact .busy outgoing pending usable next fresh sendable bytes written
  | stuck pending broken few tail trailing written =>
    exact .stuck pending broken few tail trailing written

section

variable (waiting : sender.pending = none)
include waiting

theorem Orderly.refused (kind : Kind) (payload : List UInt8)
    (error : StreamError) :
    (sender.finish kind payload false (.error error)).Orderly := by
  have finished := finished_finish sender kind payload false (.error error)
  simp only [Bool.false_eq_true, if_false, List.append_nil] at finished
  have between : sender.broken = false → Aligned sender.written := by
    intro usable
    cases orderly.phase with
    | idle _ _ _ written =>
      rw [written]
      exact aligned_encoded orderly.sendable
    | busy outgoing pending => simp [waiting] at pending
    | stuck _ broken => simp [usable] at broken
  constructor
  · cases orderly.phase with
    | idle pending usable next written =>
      exact .idle rfl usable (by rw [finished]; exact next)
        (by rw [finished]; exact written)
    | busy outgoing pending => simp [waiting] at pending
    | stuck pending broken few tail trailing written =>
      exact .stuck rfl broken (by rw [finished]; exact few) tail
        (by rw [finished]; exact trailing) (by rw [finished]; exact written)
  · rw [finished]
    exact orderly.sendable
  · intro call member success
    rcases List.mem_append.mp member with earlier | last
    · exact orderly.succeeded call earlier success
    · rw [List.mem_singleton.mp last] at success
      cases success
  · apply orderly.trusted.append
    · intro success
      cases success
    · intro usable
      exact ⟨usable, between usable⟩

theorem Orderly.start {payload : List UInt8}
    (refused : sender.broken = true →
      ∃ error, sender.stream.prepareFrame kind payload context = .error error) :
    (sender.start kind payload context).Orderly := by
  unfold SendEnd.start
  cases prepared : sender.stream.prepareFrame kind payload context with
  | error error => exact orderly.refused waiting kind payload error
  | ok bytes =>
    obtain ⟨fresh, sendable, rfl⟩ := Stream.prepareFrame_eq_ok prepared
    cases orderly.phase with
    | idle _ usable next written =>
      exact { orderly with
        phase := .busy _ rfl usable next fresh sendable (List.nil_append _).symm
          (written.trans (List.append_nil _).symm) }
    | busy outgoing pending => simp [waiting] at pending
    | stuck _ broken =>
      obtain ⟨error, failed⟩ := refused broken
      simp [prepared] at failed

end

section

variable (pending : sender.pending = some outgoing)
include pending

theorem Orderly.write (count : Nat) :
    (sender.write outgoing count).Orderly := by
  cases orderly.phase with
  | idle waiting | stuck waiting => simp [waiting] at pending
  | busy current same usable next fresh sendable bytes written =>
    obtain rfl : current = outgoing := Option.some.inj (same.symm.trans pending)
    refine { orderly with
      phase := .busy _ rfl usable next fresh sendable ?_ ?_ }
    · rw [List.append_assoc, List.take_append_drop]
      exact bytes
    · exact (congrArg (· ++ _) written).trans (List.append_assoc _ _ _)

theorem Orderly.finishWrite {complete : Bool}
    (whole : complete = true → outgoing.rest = []) (cancelled : Bool) :
    (sender.finishWrite outgoing complete cancelled).Orderly := by
  have finished := finished_finishWrite pending complete cancelled
  have carries := orderly.carries
  rw [← finished] at carries
  rw [completed_pending pending] at finished
  cases orderly.phase with
  | idle waiting | stuck waiting => simp [waiting] at pending
  | busy current same usable next fresh sendable bytes written =>
    obtain rfl : current = outgoing := Option.some.inj (same.symm.trans pending)
    have phase : (sender.finishWrite current complete cancelled).Phase := by
      cases complete with
      | true =>
        have nothing := whole rfl
        rw [nothing, List.isEmpty_nil, if_pos rfl] at finished
        rw [nothing, List.append_nil] at bytes
        refine .idle rfl (by simp [SendEnd.finishWrite, usable]) ?_ ?_
        · rw [finished, List.length_append, List.length_singleton, ← next]
          exact (succ_toNat fresh).2
        · rw [finished, encoded_concat, ← next, UInt64.ofNat_toNat, bytes]
          exact written
      | false =>
        by_cases started : current.accepted = []
        · rw [started, List.nil_append] at bytes
          rw [started, List.append_nil] at written
          have missing : current.rest ≠ [] := by
            rw [← bytes]
            exact Frame.bytes_ne_nil _
          rw [if_neg (by simpa using missing), List.append_nil] at finished
          exact .idle rfl (by simp [SendEnd.finishWrite, usable, started])
            (by rw [finished]; exact next)
            (by rw [finished]; exact written)
        · obtain ⟨tail, trailing, written⟩ := carries.bytes
          exact .stuck rfl (by simp [SendEnd.finishWrite, started]) carries.few
            tail trailing written
    refine ⟨phase, carries.sendable, ?_, ?_⟩
    · intro call member success
      rcases List.mem_append.mp member with earlier | last
      · exact orderly.succeeded call earlier success
      · rw [List.mem_singleton.mp last] at success ⊢
        change (sender.stream.finishFrame complete cancelled).2 =
          .ok () at success
        exact List.isEmpty_iff.mpr (whole (finishFrame_succeeds success))
    · apply orderly.trusted.append
      · intro _
        exact usable
      · intro unbroken
        refine ⟨usable, ?_⟩
        cases phase with
        | idle _ _ _ between =>
          show Aligned (sender.finishWrite current complete cancelled).written
          rw [between]
          exact aligned_encoded carries.sendable
        | busy _ waiting => cases waiting
        | stuck _ broken => simp [unbroken] at broken

end

theorem Orderly.step {event : SendEvent}
    (refused : ∀ kind payload context, event = .send kind payload context →
      sender.broken = true →
      ∃ error, sender.stream.prepareFrame kind payload context = .error error)
    (taken : sender.step event = some after) :
    after.Orderly ∧ Grows sender after := by
  cases event with
  | send kind payload context =>
    cases waiting : sender.pending with
    | some outgoing => simp [SendEnd.step, waiting] at taken
    | none =>
      simp only [SendEnd.step, waiting, Option.some.injEq] at taken
      subst taken
      exact ⟨orderly.start waiting (refused kind payload context rfl),
        grows_start waiting kind payload context⟩
  | write count =>
    cases pending : sender.pending with
    | none => simp [SendEnd.step, pending] at taken
    | some outgoing =>
      simp only [SendEnd.step, pending, Option.ite_none_right_eq_some,
        Option.some.injEq] at taken
      obtain ⟨bounds, rfl⟩ := taken
      exact ⟨orderly.write pending count, grows_write pending bounds⟩
  | writeFails cancelled =>
    cases pending : sender.pending with
    | none => simp [SendEnd.step, pending] at taken
    | some outgoing =>
      simp only [SendEnd.step, pending, Option.some.injEq] at taken
      subst taken
      have whole : false = true → outgoing.rest = [] := nofun
      exact ⟨orderly.finishWrite pending whole cancelled,
        grows_finishWrite pending false cancelled⟩
  | sendReturns cancelled =>
    cases pending : sender.pending with
    | none => simp [SendEnd.step, pending] at taken
    | some outgoing =>
      simp only [SendEnd.step, pending, Option.ite_none_right_eq_some,
        Option.some.injEq] at taken
      obtain ⟨nothing, rfl⟩ := taken
      exact ⟨orderly.finishWrite pending (fun _ => nothing) cancelled,
        grows_finishWrite pending true cancelled⟩
  | close =>
    cases taken
    exact ⟨orderly.close, List.prefix_refl _, List.prefix_refl _⟩

end

end SendEnd

end KyClash
