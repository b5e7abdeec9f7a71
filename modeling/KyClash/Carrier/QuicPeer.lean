import KyClash.Carrier.QuicPacket

/-!
# The peer of a QUIC carrier

What a carrier knows that has received only datagrams of a given wire: its
window has accepted numbers of these frames only, and every message it has
completed had its last fragment on the wire.  Then the reception of one packet
by such a carrier.
-/

namespace KyClash

/-- A valid frame whose encoding is on the wire. -/
def OnWire (wire : List Datagram) (frame : Frame UInt8) : Prop :=
  frame.validate = .ok () ∧ frame.bytes ∈ wire

/-- A carrier that has received only datagrams of the wire, whatever it sent
itself. -/
inductive Heard (wire : List Datagram) : QUIC UInt8 → Prop where
  | new : Heard wire newQUIC
  | dispatch {peer : QUIC UInt8} (call : SendCall) :
      Heard wire peer → Heard wire (peer.dispatch call).1
  | receive {peer : QUIC UInt8} {arrivals : List (Arrival Datagram)} :
      Heard wire peer →
      (∀ arrival ∈ arrivals, arrival.datagram ∈ wire) →
      Heard wire (peer.receive decodeDatagram arrivals).1

theorem Assembly.From.last {sent : Frame α → Prop} {messageID : UInt64}
    {current : Assembly α} (stored : current.From sent messageID)
    (positive : 0 < current.count.toNat)
    (complete : current.received = current.count) :
    ∃ part,
      SentAs sent messageID current.count (current.count.toNat - 1) part := by
  have filled : ∀ part ∈ current.parts, part.isSome := by
    apply List.countP_eq_length.mp
    rw [stored.received, stored.slots, complete]
  have inside : current.count.toNat - 1 < current.parts.length := by
    rw [stored.slots]
    omega
  obtain ⟨part, held⟩ :=
    Option.isSome_iff_exists.mp (filled _ (List.getElem_mem inside))
  refine ⟨part, stored.parts _ part ?_⟩
  rw [List.getElem?_eq_getElem inside, held]

namespace Reassembler

/-- Every completed message had its last fragment among the sent frames. -/
def Done (sent : Frame α → Prop) (reassembler : Reassembler α) : Prop :=
  ∀ messageID until', reassembler.completed.lookup messageID = some until' →
    ∃ count part, SentAs sent messageID count (count.toNat - 1) part

theorem Accepts.done {sent : Frame α → Prop} {reassembler : Reassembler α}
    {now : Time} {frame : Frame α}
    {result : Reassembler α × Except FrameError (Option (List α))}
    (outcome : reassembler.Accepts now frame result)
    (stored : reassembler.From sent) (done : reassembler.Done sent)
    (arrived : sent frame) : result.1.Done sent := by
  cases outcome with
  | invalid | whole | lifeless => exact done
  | @handled fragment _ valid present _ handled =>
    have kept : (reassembler.expire now).Done sent := by
      intro messageID until' found
      rw [Reassembler.expire, KeyTable.lookup_keep] at found
      exact done messageID until' (Option.filter_eq_some_iff.mp found).1
    cases handled with
    | refused | oversize | stored => exact kept
    | @finished current _ found sameCount free _ complete =>
      intro messageID until' holds
      by_cases same : messageID = fragment.messageID
      · subst same
        obtain ⟨-, -, -, inRange, -⟩ := valid.fragment _ present
        have part : SentAs sent fragment.messageID current.count
            fragment.index.toNat frame.payload :=
          ⟨frame, fragment, arrived, present, rfl, sameCount.symm, rfl, rfl⟩
        have extended :=
          (stored.expire now _ _ found).withPart (sameCount ▸ inRange) free part
        have positive : 0 < current.count.toNat := by
          rw [sameCount]
          exact Nat.zero_lt_of_lt (UInt16.lt_iff_toNat_lt.mp inRange)
        obtain ⟨part, last⟩ := extended.last positive complete
        exact ⟨_, part, last⟩
      · rw [AList.lookup_insert_ne same] at holds
        exact kept messageID until' holds

end Reassembler

/-- What is known of a carrier that has heard only the wire. -/
structure QUIC.Hears (wire : List Datagram) (peer : QUIC UInt8) : Prop where
  window : ∃ accepted, peer.incoming.Records accepted ∧
    ∀ sequence ∈ accepted, ∃ frame, OnWire wire frame ∧
      frame.sequence = sequence
  stored : peer.reassembler.From (OnWire wire)
  done : peer.reassembler.Done (OnWire wire)
  ttl : peer.reassembler.ttl = fragmentAssemblyTTL
  max : peer.reassembler.max = defaultMaxAssemblies

namespace QUIC

variable {wire : List Datagram} {peer : QUIC UInt8}

theorem Hears.dispatch (hears : peer.Hears wire) (call : SendCall) :
    (peer.dispatch call).1.Hears wire := by
  have control : ∀ kind fault, (peer.sendControl kind fault).1.Hears wire := by
    intro kind fault
    obtain ⟨next, same, -⟩ := sendControl_cases peer kind fault
    rw [same]
    exact { hears with }
  cases call with
  | packet bytes faults =>
    cases refused : peer.refusal bytes with
    | some error =>
      rw [QUIC.dispatch, send_refused refused]
      exact hears
    | none =>
      rw [QUIC.dispatch, (send_admitted refused faults).1]
      exact { hears with }
  | ping fault => exact control .ping fault
  | pong fault => exact control .pong fault
  | close =>
    refine { hears with stored := .reset _, done := ?_ }
    intro messageID until' found
    cases found

theorem Hears.receiveFrame (hears : peer.Hears wire) (now : Time)
    (replyFault : Option SendFault) {decoded : Frame UInt8}
    (arrived : OnWire wire decoded) :
    (peer.receiveFrame now replyFault decoded).1.Hears wire := by
  obtain ⟨accepted, recorded, known⟩ := hears.window
  unfold QUIC.receiveFrame
  rcases recorded.accept decoded.sequence with
    ⟨-, incoming, result, extended⟩ | ⟨-, error, result⟩
  · rw [result]
    have window : ∃ accepted, incoming.Records accepted ∧
        ∀ sequence ∈ accepted, ∃ frame, OnWire wire frame ∧
          frame.sequence = sequence := by
      refine ⟨decoded.sequence :: accepted, extended, ?_⟩
      intro sequence member
      rcases List.mem_cons.mp member with rfl | old
      · exact ⟨decoded, arrived, rfl⟩
      · exact known sequence old
    have quiet : { peer with incoming }.Hears wire :=
      { hears with window }
    dsimp only
    split
    · have outcome := peer.reassembler.accepts now decoded
      have heard : { peer with
          incoming := incoming
          reassembler := (peer.reassembler.accept now decoded).1 }.Hears
            wire :=
        ⟨window, (outcome.from_sent hears.stored fun _ _ => arrived).1,
          outcome.done hears.stored hears.done arrived,
          (Reassembler.accept_keeps_limits ..).1.trans hears.ttl,
          (Reassembler.accept_keeps_limits ..).2.trans hears.max⟩
      split
      all_goals exact heard
    · split
      · obtain ⟨next, same, -⟩ :=
          sendControl_cases { peer with incoming } .pong replyFault
        generalize sendControl { peer with incoming } .pong replyFault =
          reply at same
        obtain ⟨after, datagrams, outcome⟩ := reply
        have heard : after.Hears wire := by
          rw [show after = _ from same]
          exact { hears with window }
        cases outcome with
        | error | ok => exact heard
      · split
        · exact quiet
        split
        · exact quiet
        · exact quiet
  · rw [result]
    exact hears

theorem Hears.receiveLoop (hears : peer.Hears wire)
    {arrivals : List (Arrival Datagram)}
    (arrived : ∀ arrival ∈ arrivals, arrival.datagram ∈ wire)
    (encodings : ∀ datagram ∈ wire, ∃ frame : Frame UInt8,
      frame.validate = .ok () ∧ datagram = frame.bytes) :
    (peer.receiveLoop decodeDatagram arrivals).1.Hears wire := by
  induction arrivals generalizing peer with
  | nil => exact hears
  | cons arrival arrivals ih =>
    have later := fun next member =>
      arrived next (List.mem_cons_of_mem _ member)
    have onWire := arrived arrival List.mem_cons_self
    obtain ⟨frame, valid, same⟩ := encodings _ onWire
    have decoded : decodeDatagram arrival.datagram = .ok frame := by
      rw [same]
      exact decodeDatagram_encode (Frame.encode_eq_ok_iff.mpr ⟨valid, rfl⟩)
    have step :=
      hears.receiveFrame arrival.now arrival.replyFault ⟨valid, same ▸ onWire⟩
    unfold QUIC.receiveLoop
    rw [decoded]
    dsimp only
    generalize peer.receiveFrame arrival.now arrival.replyFault frame =
      result at step
    obtain ⟨after, outcome⟩ := result
    cases outcome with
    | more => exact ih step later
    | packet | error => exact step

/-- Whatever a carrier did, if all it received is on the wire. -/
theorem hears_of_heard (heard : Heard wire peer)
    (encodings : ∀ datagram ∈ wire, ∃ frame : Frame UInt8,
      frame.validate = .ok () ∧ datagram = frame.bytes) :
    peer.Hears wire := by
  induction heard with
  | new =>
    refine ⟨⟨[], SequenceWindow.records_empty, ?_⟩, .new _ _, ?_, rfl, rfl⟩
    · intro sequence member
      cases member
    · intro messageID until' found
      cases found
  | dispatch call _ ih => exact ih.dispatch call
  | @receive before arrivals _ arrived ih =>
    unfold QUIC.receive
    split
    · exact ih
    · exact ih.receiveLoop arrived encodings

end QUIC

end KyClash
