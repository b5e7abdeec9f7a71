import KyClash.Carrier.QuicOutbox
import KyClash.Frame.ReassembleSources
import KyClash.Frame.Relabel

/-!
# Packets received over a QUIC carrier

The network may drop, duplicate and reorder datagrams but delivers each one
intact: a receiver is given any list of datagrams that the sender dispatched.
To say which call a received byte came from, the receiver is also run on
bytes labelled with the number of the call that dispatched them.  Erasing the
labels gives back the run of the code.
-/

namespace KyClash

/-! ## Relabelled runs of the receiver -/

def Arrival.map (restamp : δ → ε) (arrival : Arrival δ) : Arrival ε :=
  { arrival with datagram := restamp arrival.datagram }

namespace QUIC

variable {α β : Type} (relabel : α → β)
  {decode : δ → Except FrameError (Frame α)}
  {decode' : ε → Except FrameError (Frame β)}

def map (carrier : QUIC α) : QUIC β :=
  { carrier with reassembler := carrier.reassembler.map relabel }

def mapReceived : Received α → Received β
  | .more => .more
  | .packet bytes => .packet (bytes.map relabel)
  | .error error => .error error

private theorem sendControl_map (carrier : QUIC α) (kind : Kind)
    (fault : Option SendFault) :
    (carrier.map relabel).sendControl kind fault =
      ((carrier.sendControl kind fault).1.map relabel,
        (carrier.sendControl kind fault).2) := by
  by_cases isClosed : carrier.closed = true
  · simp [sendControl, map, isClosed]
  by_cases done : fault = some .contextDone
  · simp [sendControl, map, isClosed, done]
  by_cases exhausted : carrier.next = uint64Max
  · simp [sendControl, map, isClosed, done, exhausted]
  simp only [sendControl, map, isClosed, done, exhausted, if_false,
    Bool.false_eq_true]
  cases (controlFrame kind carrier.next).encode with
  | error error => simp [isClosed]
  | ok encoded =>
    by_cases refused : fault = some .datagramRefused
    · simp [refused, isClosed]
    · simp [refused]

private theorem receiveFrame_map (carrier : QUIC α) (now : Time)
    (replyFault : Option SendFault) (decoded : Frame α) :
    (carrier.map relabel).receiveFrame now replyFault (decoded.map relabel) =
      ((carrier.receiveFrame now replyFault decoded).1.map relabel, mapReceived
        relabel (carrier.receiveFrame now replyFault decoded).2) := by
  have sequence : (decoded.map relabel).sequence = decoded.sequence := rfl
  have kind : (decoded.map relabel).kind = decoded.kind := rfl
  have window : (carrier.map relabel).incoming = carrier.incoming := rfl
  unfold receiveFrame
  rw [sequence, kind, window]
  cases carrier.incoming.accept decoded.sequence with
  | error error => rfl
  | ok incoming =>
    by_cases packet : decoded.kind = .wireGuardPacket
    · have assembled :=
        Reassembler.accept_map relabel carrier.reassembler now decoded
      simp only [packet, if_true, map] at assembled ⊢
      rw [assembled]
      simp only [Reassembler.mapResult]
      cases (carrier.reassembler.accept now decoded).2 with
      | error error => rfl
      | ok result =>
        cases result with
        | none | some => rfl
    · by_cases ping : decoded.kind = .ping
      · have replied :=
          sendControl_map relabel { carrier with incoming } .pong replyFault
        simp only [ping, if_true, map] at replied ⊢
        rw [replied]
        generalize sendControl { carrier with incoming } .pong
          replyFault = reply
        obtain ⟨after, sent, result⟩ := reply
        cases result with
        | error | ok => rfl
      · by_cases pong : decoded.kind = .pong
        · simp only [if_neg packet, if_neg ping, if_pos pong]
          rfl
        by_cases close : decoded.kind = .close
        · simp only [if_neg packet, if_neg ping, if_neg pong, if_pos close]
          rfl
        · simp only [if_neg packet, if_neg ping, if_neg pong, if_neg close]
          rfl

private theorem receiveLoop_map (restamp : δ → ε)
    (decodes : ∀ datagram, decode' (restamp datagram) =
      (decode datagram).map (Frame.map relabel))
    (carrier : QUIC α) (arrivals : List (Arrival δ)) :
    (carrier.map relabel).receiveLoop decode'
        (arrivals.map (Arrival.map restamp)) =
      ((carrier.receiveLoop decode arrivals).1.map relabel,
        (carrier.receiveLoop decode arrivals).2.1.map (Arrival.map restamp),
        (carrier.receiveLoop decode arrivals).2.2.map (List.map relabel)) := by
  induction arrivals generalizing carrier with
  | nil => rfl
  | cons arrival arrivals ih =>
    have decoded := decodes arrival.datagram
    simp only [List.map_cons, receiveLoop, Arrival.map] at ih ⊢
    rw [decoded]
    cases decode arrival.datagram with
    | error error => rfl
    | ok frame =>
      have step :=
        receiveFrame_map relabel carrier arrival.now arrival.replyFault frame
      simp only [Except.map]
      rw [step]
      generalize carrier.receiveFrame arrival.now arrival.replyFault frame =
        result
      obtain ⟨after, outcome⟩ := result
      cases outcome with
      | more => exact ih after
      | packet | error => rfl

/-- Relabelling the arriving bytes relabels the results of all calls. -/
theorem receives_map (restamp : δ → ε)
    (decodes : ∀ datagram, decode' (restamp datagram) =
      (decode datagram).map (Frame.map relabel))
    (calls : Nat) (carrier : QUIC α) (arrivals : List (Arrival δ)) :
    receives decode' calls (carrier.map relabel)
        (arrivals.map (Arrival.map restamp)) =
      (receives decode calls carrier arrivals).map
        (Except.map (List.map relabel)) := by
  induction calls generalizing carrier arrivals with
  | zero => rfl
  | succ calls ih =>
    have call : (carrier.map relabel).receive decode'
          (arrivals.map (Arrival.map restamp)) =
        ((carrier.receive decode arrivals).1.map relabel,
          (carrier.receive decode arrivals).2.1.map (Arrival.map restamp),
          (carrier.receive decode arrivals).2.2.map (List.map relabel)) := by
      by_cases isClosed : carrier.closed = true
      · simp [receive, map, isClosed, Except.map]
      have open' : (carrier.map relabel).closed ≠ true := isClosed
      rw [receive, receive, if_neg isClosed, if_neg open']
      exact receiveLoop_map relabel restamp decodes carrier arrivals
    simp only [receives, call, List.map_cons]
    rw [ih]

end QUIC

/-! ## Received packets -/

/-- A packet that came unfragmented in a sent frame, or that is assembled from
sent fragments of one message. -/
def Delivered (sent : Frame α → Prop) (packet : List α) : Prop :=
  (∃ frame, sent frame ∧ frame.kind = .wireGuardPacket ∧
    frame.fragment = none ∧ packet = frame.payload) ∨
  AssembledFrom sent packet

namespace QUIC

variable {sent : Frame α → Prop} {carrier : QUIC α}
  {decode : δ → Except FrameError (Frame α)} {arrivals : List (Arrival δ)}

private theorem receiveFrame_delivered {decoded : Frame α} (now : Time)
    (replyFault : Option SendFault) (stored : carrier.reassembler.From sent)
    (arrived : sent decoded) :
    (carrier.receiveFrame now replyFault decoded).1.reassembler.From sent ∧
      ∀ packet,
        (carrier.receiveFrame now replyFault decoded).2 = .packet packet →
          Delivered sent packet := by
  unfold receiveFrame
  cases carrier.incoming.accept decoded.sequence with
  | error error => exact ⟨stored, by simp⟩
  | ok incoming =>
    dsimp only
    split
    · next kind =>
      obtain ⟨kept, built⟩ :=
        (carrier.reassembler.accepts now decoded).from_sent stored fun _ _ =>
          arrived
      generalize carrier.reassembler.accept now decoded = result at *
      obtain ⟨reassembler, outcome⟩ := result
      cases outcome with
      | error error => exact ⟨kept, by simp⟩
      | ok packet? =>
        cases packet? with
        | none => exact ⟨kept, by simp⟩
        | some packet =>
          refine ⟨kept, ?_⟩
          intro returned same
          cases same
          rcases built packet rfl with ⟨whole, equal⟩ | assembled
          · exact .inl ⟨decoded, arrived, kind, whole, equal⟩
          · exact .inr assembled
    · split
      · obtain ⟨_, same, -⟩ :=
          sendControl_cases { carrier with incoming } .pong replyFault
        generalize sendControl { carrier with incoming } .pong replyFault =
          reply at *
        obtain ⟨after, datagrams, result⟩ := reply
        have kept : after.reassembler.From sent :=
          (congrArg QUIC.reassembler same) ▸ stored
        cases result with
        | error | ok => exact ⟨kept, by simp⟩
      · split
        · exact ⟨stored, by simp⟩
        split
        all_goals exact ⟨stored, by simp⟩

private theorem receiveLoop_delivered (stored : carrier.reassembler.From sent)
    (arrived : ∀ arrival ∈ arrivals, ∀ frame,
      decode arrival.datagram = .ok frame → sent frame) :
    (carrier.receiveLoop decode arrivals).1.reassembler.From sent ∧
      (carrier.receiveLoop decode arrivals).2.1 ⊆ arrivals ∧
      ∀ packet, (carrier.receiveLoop decode arrivals).2.2 = .ok packet →
        Delivered sent packet := by
  induction arrivals generalizing carrier with
  | nil => exact ⟨stored, List.Subset.refl _, by simp [receiveLoop]⟩
  | cons arrival arrivals ih =>
    have later : arrivals ⊆ arrival :: arrivals := List.subset_cons_self _ _
    have arrivedLater := fun next member =>
      arrived next (List.mem_cons_of_mem _ member)
    unfold receiveLoop
    cases decoded : decode arrival.datagram with
    | error error => exact ⟨stored, later, by simp⟩
    | ok frame =>
      obtain ⟨kept, returned⟩ :=
        receiveFrame_delivered arrival.now arrival.replyFault stored
          (arrived arrival List.mem_cons_self frame decoded)
      dsimp only
      generalize carrier.receiveFrame arrival.now arrival.replyFault frame =
        result at *
      obtain ⟨after, outcome⟩ := result
      cases outcome with
      | more =>
        obtain ⟨keptLater, rest, packets⟩ := ih kept arrivedLater
        exact ⟨keptLater, List.Subset.trans rest later, packets⟩
      | packet bytes =>
        refine ⟨kept, later, ?_⟩
        intro packet same
        cases same
        exact returned bytes rfl
      | error error => exact ⟨kept, later, by simp⟩

private theorem receives_delivered (calls : Nat)
    (stored : carrier.reassembler.From sent)
    (arrived : ∀ arrival ∈ arrivals, ∀ frame,
      decode arrival.datagram = .ok frame → sent frame) :
    ∀ packet, .ok packet ∈ receives decode calls carrier arrivals →
      Delivered sent packet := by
  induction calls generalizing carrier arrivals with
  | zero => simp [receives]
  | succ calls ih =>
    intro packet member
    by_cases isClosed : carrier.closed = true
    · have unchanged : carrier.receive decode arrivals =
          (carrier, arrivals, .error .closed) := if_pos isClosed
      simp only [receives, unchanged, List.mem_cons, reduceCtorEq,
        false_or] at member
      exact ih stored arrived packet member
    · have loop : carrier.receive decode arrivals =
          carrier.receiveLoop decode arrivals := if_neg isClosed
      obtain ⟨kept, rest, returned⟩ := receiveLoop_delivered stored arrived
      rw [receives, loop] at member
      rcases List.mem_cons.mp member with first | later
      · exact returned packet first.symm
      · exact ih kept (fun arrival inRest =>
          arrived arrival (rest inRest)) packet later

end QUIC

/-! ## Tracing packets to calls -/

namespace Outbox

variable {outbox : Outbox} {frame : Frame UInt8} {call : Nat}

theorem Traced.fragmentOf (traced : outbox.Traced)
    (sent : outbox.Sent call frame) (kind : frame.kind = .wireGuardPacket) :
    FragmentOf outbox.calls call frame := by
  obtain ⟨origin, ⟨valid, -⟩, same, trace⟩ := traced call _ sent.2
  obtain rfl := Frame.bytes_injective sent.1 valid same
  exact trace.resolve_left fun control => control kind

theorem Traced.fragment (traced : outbox.Traced) {fragment : Fragment}
    (sent : outbox.Sent call frame) (present : frame.fragment = some fragment) :
    ∃ bytes faults, outbox.calls[call]? = some (.packet bytes faults) ∧
      fragment.count.toNat = fragmentCount bytes ∧
      frame.payload = fragmentPayload bytes fragment.index.toNat := by
  have valid := Frame.validate_eq_ok_iff.mp sent.1
  obtain ⟨bytes, faults, messageID, index, sequence, performed, small,
    inRange, rfl⟩ := traced.fragmentOf sent (valid.fragment _ present).1
  obtain ⟨-, -, sameIndex, sameCount⟩ := outgoing_fragment small inRange present
  exact ⟨bytes, faults, performed, sameCount, by rw [sameIndex]; rfl⟩

theorem Traced.whole (traced : outbox.Traced) (sent : outbox.Sent call frame)
    (kind : frame.kind = .wireGuardPacket) (whole : frame.fragment = none) :
    ∃ faults, outbox.calls[call]? = some (.packet frame.payload faults) := by
  obtain ⟨bytes, faults, messageID, index, sequence, performed, small,
    inRange, rfl⟩ := traced.fragmentOf sent kind
  have single : ¬1 < fragmentCount bytes := by
    intro several
    simp [outgoing, several] at whole
  have count : fragmentCount bytes = 1 := by
    omega
  have payload := flatten_fragmentPayload bytes
  obtain rfl : index = 0 := by omega
  simp only [count, List.range_one, List.map_cons, List.map_nil,
    List.flatten_cons, List.flatten_nil, List.append_nil] at payload
  refine ⟨faults, ?_⟩
  rw [performed]
  exact congrArg (fun bytes => some (SendCall.packet bytes faults)) payload.symm

/-- The sent frames with every byte labelled by its call. -/
def LabelledSent (outbox : Outbox) (frame : Frame (UInt8 × Nat)) : Prop :=
  ∃ call plain, outbox.Sent call plain ∧
    frame = plain.map fun byte => (byte, call)

private theorem assembled_from_call {stale : List Nat} (traced : outbox.Traced)
    (numbered : outbox.Numbered stale) {packet : List (UInt8 × Nat)}
    (assembled : AssembledFrom outbox.LabelledSent packet) :
    ∃ call : Nat, ∃ bytes faults,
      outbox.calls[call]? = some (.packet bytes faults) ∧
        packet = bytes.map fun byte => (byte, call) := by
  obtain ⟨messageID, count, parts, positive, length, rfl, sources⟩ := assembled
  -- The last fragment fixes the call; `unique` forces the others to it.
  have inParts : count.toNat - 1 < parts.length := by omega
  obtain ⟨-, last, ⟨call, lastPlain, lastSent, rfl⟩, lastPresent, lastID,
    lastCount, lastIndex, -⟩ :=
    sources (count.toNat - 1) _ (List.getElem?_eq_getElem inParts)
  obtain ⟨bytes, faults, performed, sameCount, -⟩ :=
    traced.fragment lastSent lastPresent
  refine ⟨call, bytes, faults, performed, ?_⟩
  have each : parts = (List.range (fragmentCount bytes)).map
      (fragmentPayload (bytes.map fun byte => (byte, call))) := by
    apply List.ext_getElem?
    intro index
    by_cases inRange : index < parts.length
    · obtain ⟨-, fragment, ⟨other, plain, plainSent, rfl⟩, present, sameID,
        fragmentCountEq, sameIndex, payload⟩ :=
        sources index _ (List.getElem?_eq_getElem inRange)
      have sameCall : other = call :=
        numbered.unique _ _ _ _ _ _ plainSent present lastSent lastPresent
          (sameID.trans lastID.symm) (fragmentCountEq.trans lastCount.symm)
          (by rw [lastIndex, lastCount]; omega)
      subst other
      obtain ⟨_, _, again, -, plainPayload⟩ := traced.fragment plainSent present
      rw [performed] at again
      cases again
      have value : parts[index] =
          fragmentPayload (bytes.map fun byte => (byte, call)) index := by
        rw [sameIndex] at plainPayload
        rw [fragmentPayload_map, ← plainPayload]
        exact payload.symm
      have bound : index < fragmentCount bytes := by
        rw [← sameCount, lastCount]
        omega
      rw [List.getElem?_eq_getElem inRange, value]
      simp [bound]
    · have bound : fragmentCount bytes ≤ index := by
        rw [← sameCount, lastCount]
        omega
      rw [List.getElem?_eq_none (Nat.le_of_not_lt inRange),
        List.getElem?_eq_none (by simpa using bound)]
  have sameLength : fragmentCount bytes =
      fragmentCount (bytes.map fun byte => (byte, call)) := by
    simp [fragmentCount]
  rw [each, sameLength, flatten_fragmentPayload]

end Outbox

/-- Decode a datagram and label every payload byte with its call. -/
def labelledDecode (labelled : Nat × Datagram) :
    Except FrameError (Frame (UInt8 × Nat)) :=
  (decodeDatagram labelled.2).map (Frame.map fun byte => (byte, labelled.1))

/-- The results of `Receive` calls at the peer, with labelled bytes. -/
def labelledReceives (calls : Nat)
    (arrivals : List (Arrival (Nat × Datagram))) :
    List (Except CarrierError (List (UInt8 × Nat))) :=
  QUIC.receives labelledDecode calls newQUIC arrivals

/-- The results of `Receive` calls at the peer. -/
def plainReceives (calls : Nat) (arrivals : List (Arrival (Nat × Datagram))) :
    List (Except CarrierError (List UInt8)) :=
  QUIC.receives decodeDatagram calls newQUIC
    (arrivals.map (Arrival.map Prod.snd))

/-- Erasing the labels of a labelled run gives the run of the code. -/
theorem plainReceives_eq (calls : Nat)
    (arrivals : List (Arrival (Nat × Datagram))) :
    plainReceives calls arrivals =
      (labelledReceives calls arrivals).map
        (Except.map (List.map Prod.fst)) := by
  refine QUIC.receives_map Prod.fst Prod.snd ?_ calls newQUIC arrivals
  intro labelled
  unfold labelledDecode
  cases decodeDatagram labelled.2 with
  | error error => rfl
  | ok frame => simp [Except.map, Frame.map, Function.comp_def]

private theorem labelledDecode_sent {outbox : Outbox} (traced : outbox.Traced)
    {labelled : Nat × Datagram} (onWire : labelled ∈ outbox.wire)
    {frame : Frame (UInt8 × Nat)}
    (decoded : labelledDecode labelled = .ok frame) :
    outbox.LabelledSent frame := by
  obtain ⟨call, datagram⟩ := labelled
  obtain ⟨plain, sent, rfl, -⟩ := traced call datagram onWire
  have plainDecoded :=
    decodeDatagram_encode (Frame.encode_eq_ok_iff.mpr ⟨sent.1, rfl⟩)
  simp only [labelledDecode, plainDecoded, Except.map,
    Except.ok.injEq] at decoded
  exact ⟨call, plain, sent, decoded.symm⟩

private theorem labelled_packet_from_call {outbox : Outbox} {stale : List Nat}
    (traced : outbox.Traced) (numbered : outbox.Numbered stale)
    {arrivals : List (Arrival (Nat × Datagram))}
    (delivered : ∀ arrival ∈ arrivals, arrival.datagram ∈ outbox.wire)
    (calls : Nat) {packet : List (UInt8 × Nat)}
    (received : .ok packet ∈ labelledReceives calls arrivals) :
    ∃ call : Nat, ∃ bytes faults,
      outbox.calls[call]? = some (.packet bytes faults) ∧
        packet = bytes.map fun byte => (byte, call) := by
  have source := QUIC.receives_delivered calls
    (Reassembler.From.new outbox.LabelledSent fragmentAssemblyTTL)
    (fun arrival member frame decoded =>
      labelledDecode_sent traced (delivered arrival member) decoded)
    packet received
  rcases source with ⟨frame, ⟨call, plain, sent, rfl⟩, kind, whole, rfl⟩ |
    assembled
  · obtain ⟨faults, performed⟩ := traced.whole sent kind whole
    exact ⟨call, plain.payload, faults, performed, rfl⟩
  · exact Outbox.assembled_from_call traced numbered assembled

/-- If no packet is completed under a stale message id, then whatever the
network does, every received packet is a packet passed to one `Send`, and all
its bytes come from that call. -/
theorem received_packet_is_sent_packet (calls : List SendCall)
    (fresh : freshMessages newQUIC [] calls = true)
    (arrivals : List (Arrival (Nat × Datagram)))
    (delivered : ∀ arrival ∈ arrivals, arrival.datagram ∈
      (Outbox.empty.run calls).wire)
    (receives : Nat) :
    (∀ packet, .ok packet ∈ plainReceives receives arrivals →
        ∃ call : Nat, ∃ faults, calls[call]? = some (.packet packet faults)) ∧
      (∀ packet, .ok packet ∈ labelledReceives receives arrivals →
        ∃ call : Nat, ∃ bytes faults,
          calls[call]? = some (.packet bytes faults) ∧
            packet = bytes.map fun byte => (byte, call)) := by
  have traced := Outbox.empty_traced.run calls
  obtain ⟨stale, numbered⟩ := Outbox.empty_numbered.run fresh
  have performed : (Outbox.empty.run calls).calls = calls := by
    rw [Outbox.calls_run]
    rfl
  have labelled : ∀ packet, .ok packet ∈ labelledReceives receives arrivals →
      ∃ call : Nat, ∃ bytes faults, calls[call]? = some (.packet bytes faults) ∧
          packet = bytes.map fun byte => (byte, call) := by
    intro packet received
    have source :=
      labelled_packet_from_call traced numbered delivered receives received
    rwa [performed] at source
  refine ⟨?_, labelled⟩
  intro packet received
  rw [plainReceives_eq] at received
  obtain ⟨result, member, same⟩ := List.mem_map.mp received
  cases result with
  | error error => cases same
  | ok stamped =>
    obtain ⟨call, bytes, faults, sent, rfl⟩ := labelled stamped member
    have erased : bytes = packet := by
      simpa [Except.map, Function.comp_def] using same
    exact ⟨call, faults, erased ▸ sent⟩

/-! ## A send that breaks off after its first fragment -/

/-- The context is done when the second of two fragments is due. -/
def brokenOffSend : SendCall :=
  .packet (List.replicate 1500 0xaa) fun index =>
    if index = 1 then some .contextDone else none

def completeSend : SendCall :=
  .packet (List.replicate 1500 0xbb) fun _ => none

def arrive (call : Nat) (frame : Frame UInt8) : Arrival (Nat × Datagram) where
  datagram := (call, frame.bytes)
  now := 0
  replyFault := none

/-- The first fragment of the broken-off send, then the second fragment of
the complete one; the complete one's first fragment is lost. -/
def mixedArrivals : List (Arrival (Nat × Datagram)) :=
  [arrive 0 (outgoing (List.replicate 1500 0xaa) 0 0 0),
    arrive 1 (outgoing (List.replicate 1500 0xbb) 0 1 2)]

def mixedPacket : List UInt8 :=
  List.replicate 1024 0xaa ++ List.replicate 476 0xbb

theorem complete_send_is_received :
    .ok (List.replicate 1500 0xbb) ∈
        plainReceives 1
          [arrive 0 (outgoing (List.replicate 1500 0xbb) 0 0 0),
            arrive 0 (outgoing (List.replicate 1500 0xbb) 0 1 1)] ∧
      ∃ call : Nat, ∃ faults, [completeSend][call]? =
        some (.packet (List.replicate 1500 0xbb) faults) := by
  have received : .ok (List.replicate 1500 0xbb) ∈ plainReceives 1
      [arrive 0 (outgoing (List.replicate 1500 0xbb) 0 0 0),
        arrive 0 (outgoing (List.replicate 1500 0xbb) 0 1 1)] := by
    decide +kernel
  have sent :=
    (received_packet_is_sent_packet [completeSend] (by decide +kernel)
      [arrive 0 (outgoing (List.replicate 1500 0xbb) 0 0 0),
        arrive 0 (outgoing (List.replicate 1500 0xbb) 0 1 1)]
      (by decide +kernel) 1).1
  exact ⟨received, sent _ received⟩

/-- The second send reuses the message id of the first, and the receiver
returns a packet that was never sent. -/
theorem mixed_packet_is_received :
    (∀ arrival ∈ mixedArrivals, arrival.datagram ∈
        (Outbox.empty.run [brokenOffSend, completeSend]).wire) ∧
      plainReceives 1 mixedArrivals = [.ok mixedPacket] ∧
      ∀ (call : Nat) (faults : Nat → Option SendFault),
        [brokenOffSend, completeSend][call]? ≠
          some (.packet mixedPacket faults) := by
  refine ⟨by decide +kernel, by decide +kernel, ?_⟩
  intro call faults performed
  have first : (List.replicate 1500 0xaa : List UInt8) ≠ mixedPacket := by
    decide +kernel
  have second : (List.replicate 1500 0xbb : List UInt8) ≠ mixedPacket := by
    decide +kernel
  match call with
  | 0 => exact first (SendCall.packet.inj (Option.some.inj performed)).1
  | 1 => exact second (SendCall.packet.inj (Option.some.inj performed)).1
  | call + 2 => cases performed

end KyClash
