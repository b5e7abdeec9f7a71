import KyClash.Carrier.QuicPeer

/-!
# Receiving one packet

The frames of one packet reach a carrier whose window has accepted only
smaller numbers and that holds no open assembly.  The 64 numbers of a packet
fit the window in any order, and the reassembler returns the packet on the
last frame.
-/

namespace KyClash

theorem length_fragmentPayloads {packet : List UInt8}
    (small : packet.length ≤ maxPayloadSize) :
    ((List.range (fragmentCount packet)).map (fragmentPayload packet)).length =
      (UInt16.ofNat (fragmentCount packet)).toNat := by
  have count := fragmentCount_le small
  simp only [maxFragments] at count
  rw [List.length_map, List.length_range, UInt16.toNat_ofNat_of_lt']
  simp only [UInt16.size]
  omega

def packetMessage (packet : List UInt8) (messageID : UInt64)
    (small : packet.length ≤ maxPayloadSize) : Message UInt8 where
  messageID := messageID
  count := UInt16.ofNat (fragmentCount packet)
  parts := (List.range (fragmentCount packet)).map (fragmentPayload packet)
  complete := length_fragmentPayloads small

section Fragments

variable {packet : List UInt8} {small : packet.length ≤ maxPayloadSize}
  {messageID sequence : UInt64} {index : Nat}

private theorem packetMessage_bytes :
    (packetMessage packet messageID small).bytes = packet :=
  flatten_fragmentPayload packet

private theorem toNat_packetMessage_count :
    (packetMessage packet messageID small).count.toNat =
      fragmentCount packet := by
  rw [← (packetMessage packet messageID small).complete]
  simp [packetMessage]

theorem index?_outgoing (several : 1 < fragmentCount packet)
    (inside : index < fragmentCount packet) :
    (packetMessage packet messageID small).index?
        (outgoing packet messageID index sequence) = some index := by
  have valid := outgoing_valid small inside messageID sequence
  have present : (outgoing packet messageID index sequence).fragment =
      some { messageID, index := UInt16.ofNat index,
             count := UInt16.ofNat (fragmentCount packet) } :=
    if_pos several
  have sameIndex := (outgoing_fragment small inside present).2.2.1
  rw [Message.index?, valid, present]
  simp only [packetMessage, and_self, if_true]
  exact congrArg some sameIndex

theorem part_outgoing (inside : index < fragmentCount packet) :
    (packetMessage packet messageID small).parts[index]? =
      some (outgoing packet messageID index sequence).payload := by
  simp [packetMessage, inside, outgoing]

end Fragments

theorem SequenceWindow.Records.accept_next {window : SequenceWindow}
    {accepted : List UInt64} {next sequence : UInt64} {got : List Nat}
    {index : Nat} (recorded : window.Records accepted)
    (known : ∀ other ∈ accepted, other.toNat < next.toNat ∨
      ∃ offset ∈ got, other.toNat = next.toNat + offset)
    (few : ∀ offset ∈ got, offset < 64) (inside : index < 64)
    (fresh : index ∉ got) (number : sequence.toNat = next.toNat + index) :
    ∃ after, window.accept sequence = .ok after ∧
      after.Records (sequence :: accepted) ∧
      ∀ other ∈ sequence :: accepted, other.toNat < next.toNat ∨
        ∃ offset ∈ index :: got, other.toNat = next.toNat + offset := by
  have new : sequence ∉ accepted := by
    intro member
    rcases known sequence member with earlier | ⟨offset, among, same⟩
    · omega
    · obtain rfl : offset = index := by omega
      exact fresh among
  have admissible : Admissible accepted sequence := by
    cases seen : window.seen with
    | false => exact ⟨new, .inl (recorded.unseen seen)⟩
    | true =>
      rw [recorded.admissible_iff seen]
      refine ⟨new, ?_⟩
      rcases known _ (recorded.member seen) with
        earlier | ⟨offset, among, same⟩
      · omega
      · have bound := few offset among
        omega
  rcases recorded.accept sequence with ⟨-, after, taken, extended⟩ |
    ⟨refused, -⟩
  · refine ⟨after, taken, extended, List.forall_mem_cons.mpr ⟨?_, ?_⟩⟩
    · exact .inr ⟨index, List.mem_cons_self, number⟩
    · intro other member
      refine (known other member).imp_right ?_
      rintro ⟨offset, among, same⟩
      exact ⟨offset, List.mem_cons_of_mem _ among, same⟩
  · exact (refused admissible).elim

namespace QUIC

variable {α : Type} {peer : QUIC UInt8}

def reaction : Except FrameError (Option (List α)) → Received α
  | .error error => .error (.frame error)
  | .ok (some packet) => .packet packet
  | .ok none => .more

theorem receiveFrame_packet {peer : QUIC α} {incoming : SequenceWindow}
    {decoded : Frame α} (now : Time) (replyFault : Option SendFault)
    (accepted : peer.incoming.accept decoded.sequence = .ok incoming)
    (kind : decoded.kind = .wireGuardPacket) :
    peer.receiveFrame now replyFault decoded =
      ({ peer with
          incoming := incoming
          reassembler := (peer.reassembler.accept now decoded).1 },
        reaction (peer.reassembler.accept now decoded).2) := by
  unfold receiveFrame
  rw [accepted]
  simp only [kind, if_true]
  cases (peer.reassembler.accept now decoded).2 with
  | error error => rfl
  | ok packet? => cases packet? <;> rfl

/-- The frames `got` of the packet have arrived. -/
structure Gathers (peer : QUIC UInt8) (message : Message UInt8) (next : UInt64)
    (deadline : Time) (got : List Nat) : Prop where
  window : ∃ accepted, peer.incoming.Records accepted ∧
    ∀ other ∈ accepted, other.toNat < next.toNat ∨
      ∃ offset ∈ got, other.toNat = next.toNat + offset
  table : peer.reassembler.Collecting message deadline got
  alive : 0 < peer.reassembler.ttl

section Loop

variable {packet : List UInt8} {small : packet.length ≤ maxPayloadSize}
  {messageID next : UInt64} {deadline : Time}
  {arrivals : List (Arrival Datagram)}

/-- The arrival carries fragment `index` of the packet. -/
def Carries (packet : List UInt8) (messageID next : UInt64)
    (arrival : Arrival Datagram) (index : Nat) : Prop :=
  arrival.datagram =
    (outgoing packet messageID index (next + UInt64.ofNat index)).bytes

theorem decode_carried {arrival : Arrival Datagram} {index : Nat}
    (small : packet.length ≤ maxPayloadSize)
    (inside : index < fragmentCount packet)
    (carries : Carries packet messageID next arrival index) :
    decodeDatagram arrival.datagram =
      .ok (outgoing packet messageID index (next + UInt64.ofNat index)) := by
  rw [carries]
  apply decodeDatagram_encode
  exact Frame.encode_eq_ok_iff.mpr ⟨outgoing_valid small inside _ _, rfl⟩

/-- The rest of the packet's frames, the last of which returns it. -/
theorem Gathers.receiveLoop {order got : List Nat}
    (gathers : peer.Gathers (packetMessage packet messageID small) next deadline
      got)
    (several : 1 < fragmentCount packet)
    (room : next.toNat + fragmentCount packet < 2 ^ 64)
    (carried : List.Forall₂ (Carries packet messageID next) arrivals order)
    (early : ∀ arrival ∈ arrivals, arrival.now < deadline)
    (nodup : (order.reverse ++ got).Nodup)
    (inRange : ∀ index ∈ order, index < fragmentCount packet)
    (some' : order ≠ [])
    (total : order.length + got.length = fragmentCount packet) :
    ∃ after,
      peer.receiveLoop decodeDatagram arrivals = (after, [], .ok packet) ∧
        after.closed = peer.closed := by
  induction carried generalizing peer got with
  | nil => exact (some' rfl).elim
  | @cons arrival index arrivals order carries later ih =>
    have inside := inRange index List.mem_cons_self
    have count := fragmentCount_le small
    simp only [maxFragments] at count
    have value : (next + UInt64.ofNat index).toNat = next.toNat + index :=
      toNat_add_ofNat (by omega)
    rw [List.reverse_cons, List.append_assoc] at nodup
    have fresh : index ∉ got :=
      (List.nodup_cons.mp (List.nodup_append.mp nodup).2.1).1
    have few : ∀ offset ∈ got, offset < 64 := by
      intro offset member
      have below := gathers.table.inRange offset member
      rw [toNat_packetMessage_count] at below
      omega
    obtain ⟨accepted, recorded, known⟩ := gathers.window
    obtain ⟨incoming, taken, window⟩ :=
      recorded.accept_next known few (by omega) fresh value
    have part : (packetMessage packet messageID small).parts[index]? =
        some
          (outgoing packet messageID index
            (next + UInt64.ofNat index)).payload :=
      part_outgoing inside
    obtain ⟨stored, returned⟩ := gathers.table.accept_part
      (early arrival List.mem_cons_self) gathers.alive
      (index?_outgoing several inside) fresh part
      (packetMessage_bytes ▸ small)
    rw [toNat_packetMessage_count] at stored returned
    rw [packetMessage_bytes] at returned
    rw [List.length_cons] at total
    unfold QUIC.receiveLoop
    rw [decode_carried small inside carries]
    dsimp only
    rw [receiveFrame_packet arrival.now arrival.replyFault taken rfl]
    by_cases last : order = []
    · subst last
      cases later
      rw [List.length_nil] at total
      rw [returned (by omega)]
      exact ⟨_, rfl, rfl⟩
    · have remaining := List.length_pos_of_ne_nil last
      obtain ⟨collecting, more⟩ := stored (by omega)
      rw [more]
      refine ih ⟨⟨_, window⟩, collecting, ?_⟩
        (fun next member => early next (List.mem_cons_of_mem _ member))
        nodup
        (fun index member => inRange index (List.mem_cons_of_mem _ member))
        last (by rw [List.length_cons]; omega)
      rw [(Reassembler.accept_keeps_limits ..).1]
      exact gathers.alive

private theorem accept_whole {reassembler : Reassembler UInt8} {now : Time}
    {sequence : UInt64} (small : packet.length ≤ maxPayloadSize)
    (single : fragmentCount packet = 1) :
    reassembler.accept now (outgoing packet messageID 0 sequence) =
      (reassembler, .ok (some packet)) := by
  have valid :=
    outgoing_valid small (fragmentCount_pos packet) messageID sequence
  have whole : (outgoing packet messageID 0 sequence).fragment = none := by
    simp [outgoing, single]
  have payload : (outgoing packet messageID 0 sequence).payload = packet := by
    have all := flatten_fragmentPayload packet
    simpa [single, outgoing] using all
  rw [Reassembler.accept, valid]
  simp only [whole, payload]

/-- The frames of a packet reach a carrier that has accepted smaller numbers
only, does not know the message id and holds no assembly. -/
theorem receiveLoop_packet {accepted : List UInt64} {order : List Nat}
    (small : packet.length ≤ maxPayloadSize)
    (room : next.toNat + fragmentCount packet < 2 ^ 64)
    (recorded : peer.incoming.Records accepted)
    (earlier : ∀ other ∈ accepted, other.toNat < next.toNat)
    (notDone : peer.reassembler.completed.lookup messageID = none)
    (empty : peer.reassembler.assemblies = ∅) (limit : 0 < peer.reassembler.max)
    (carried : List.Forall₂ (Carries packet messageID next) arrivals order)
    (permuted : order.Perm (List.range (fragmentCount packet)))
    (inTime : ∀ first ∈ arrivals, ∀ last ∈ arrivals, last.now <
      first.now + peer.reassembler.ttl) :
    ∃ after,
      peer.receiveLoop decodeDatagram arrivals = (after, [], .ok packet) ∧
        after.closed = peer.closed := by
  have positive := fragmentCount_pos packet
  have nodup := permuted.nodup_iff.mpr List.nodup_range
  have length := permuted.length_eq
  have inRange : ∀ index ∈ order, index < fragmentCount packet :=
    fun index member => List.mem_range.mp (permuted.mem_iff.mp member)
  rw [List.length_range] at length
  cases carried with
  | nil => exact absurd length (Nat.ne_of_lt positive)
  | @cons arrival index arrivals order carries later =>
    have inside := inRange index List.mem_cons_self
    have value : (next + UInt64.ofNat index).toNat = next.toNat + index :=
      toNat_add_ofNat (by omega)
    have count := fragmentCount_le small
    simp only [maxFragments] at count
    have known : ∀ other ∈ accepted, other.toNat < next.toNat ∨
        ∃ offset ∈ ([] : List Nat), other.toNat = next.toNat + offset :=
      fun other member => .inl (earlier other member)
    obtain ⟨incoming, taken, window⟩ := recorded.accept_next known
      (by simp) (by omega) (by simp) value
    have early : ∀ next ∈ arrival :: arrivals, next.now <
        arrival.now + peer.reassembler.ttl :=
      fun next member => inTime arrival List.mem_cons_self next member
    have alive : 0 < peer.reassembler.ttl :=
      (lt_add_iff_pos_right arrival.now).mp (early arrival List.mem_cons_self)
    unfold QUIC.receiveLoop
    rw [decode_carried small inside carries]
    dsimp only
    rw [receiveFrame_packet arrival.now arrival.replyFault taken rfl]
    by_cases several : 1 < fragmentCount packet
    · have vacant : (peer.reassembler.expire arrival.now).assemblies = ∅ := by
        rw [Reassembler.expire, empty]
        rfl
      have unknown : (peer.reassembler.expire arrival.now).completed.lookup
            messageID = none := by
        rw [Reassembler.expire, KeyTable.lookup_keep, notDone]
        rfl
      have absent : (peer.reassembler.expire arrival.now).assemblies.lookup
            messageID = none := by
        rw [vacant]
        rfl
      have isPart := @index?_outgoing packet small messageID
        (next + UInt64.ofNat index) index several inside
      obtain ⟨collecting, more⟩ := Reassembler.collecting_first alive
        isPart (part_outgoing inside) unknown absent
        (by rw [vacant]; exact limit)
      rw [more]
      have rest : order ≠ [] := by
        rintro rfl
        rw [List.length_singleton] at length
        omega
      have gathers : Gathers
          { peer with
            incoming := incoming
            reassembler := (peer.reassembler.accept arrival.now (outgoing
              packet messageID index (next + UInt64.ofNat index))).1 }
          (packetMessage packet messageID small) next
          (arrival.now + peer.reassembler.ttl) [index] := by
        refine ⟨⟨_, window⟩, collecting, ?_⟩
        rw [(Reassembler.accept_keeps_limits ..).1]
        exact alive
      have distinct : (order.reverse ++ [index]).Nodup := by
        have reversed := List.nodup_reverse.mpr nodup
        rwa [List.reverse_cons] at reversed
      exact gathers.receiveLoop several room later
        (fun next member => early next (List.mem_cons_of_mem _ member))
        distinct
        (fun index member => inRange index (List.mem_cons_of_mem _ member))
        rest length
    · have single : fragmentCount packet = 1 := by omega
      obtain rfl : index = 0 := by omega
      obtain rfl : order = [] := by
        apply List.eq_nil_of_length_eq_zero
        rw [List.length_cons, single] at length
        omega
      cases later
      rw [accept_whole small single]
      exact ⟨_, rfl, rfl⟩

end Loop

private theorem receives_nothing (isOpen : peer.closed = false) (calls : Nat) :
    receives decodeDatagram calls peer [] =
      List.replicate calls (.error .receiveDatagram) := by
  have once : peer.receive decodeDatagram [] =
      (peer, [], .error .receiveDatagram) := by
    rw [receive, if_neg (Bool.eq_false_iff.mp isOpen)]
    rfl
  induction calls with
  | zero => rfl
  | succ calls ih =>
    rw [receives, once, List.replicate_succ]
    exact congrArg (_ :: ·) ih

end QUIC

namespace Outbox

def datagrams (outbox : Outbox) : List Datagram :=
  outbox.wire.map Prod.snd

theorem sent_of_onWire {outbox : Outbox} {frame : Frame UInt8}
    (onWire : OnWire outbox.datagrams frame) :
    ∃ call, outbox.Sent call frame := by
  obtain ⟨valid, member⟩ := onWire
  obtain ⟨⟨call, datagram⟩, stored, rfl⟩ := List.mem_map.mp member
  exact ⟨call, valid, stored⟩

private theorem not_done_of_heard {outbox : Outbox} {peer : QUIC UInt8}
    (unfinished : outbox.Unfinished) (hears : peer.Hears outbox.datagrams) :
    peer.reassembler.completed.lookup outbox.carrier.nextMessage = none := by
  cases found : peer.reassembler.completed.lookup
    outbox.carrier.nextMessage with
  | none => rfl
  | some until' =>
    exfalso
    obtain ⟨count, part, frame, fragment, onWire, present, sameID,
      sameCount, sameIndex, -⟩ := hears.done _ _ found
    obtain ⟨call, sent⟩ := sent_of_onWire onWire
    have missing := (unfinished call frame fragment sent present).2 sameID
    rw [sameCount, sameIndex] at missing
    omega

end Outbox

/-- A successful `Send` on a carrier with any past: its frames are few, valid
and newly numbered, and a peer that has heard earlier frames only and holds no
open assembly returns the packet exactly once, whatever the order of the
frames. -/
theorem sent_packet_is_received_once (calls : List SendCall)
    (packet : List UInt8) (faults : Nat → Option SendFault)
    (sent : ((Outbox.empty.run calls).carrier.send packet faults).2.2 =
      .ok ()) :
    ∃ frames : List (Frame UInt8),
      ((Outbox.empty.run calls).carrier.send packet faults).2.1 =
          frames.map Frame.bytes ∧
        frames.length ≤ maxFragments ∧
        (∀ frame ∈ frames, frame.validate = .ok () ∧
          ∀ call earlier, (Outbox.empty.run calls).Sent call earlier →
            earlier.sequence < frame.sequence) ∧
        frames.Pairwise
          (fun earlier later => earlier.sequence < later.sequence) ∧
        ∀ (peer : QUIC UInt8) (arrivals : List (Arrival Datagram)),
          Heard (Outbox.empty.run calls).datagrams peer → peer.closed = false →
            peer.reassembler.assemblies = ∅ →
            (arrivals.map Arrival.datagram).Perm (frames.map Frame.bytes) →
            (∀ first ∈ arrivals, ∀ last ∈ arrivals, last.now <
              first.now + fragmentAssemblyTTL) →
            ∀ more, QUIC.receives decodeDatagram (more + 1) peer arrivals =
              .ok packet :: List.replicate more (.error .receiveDatagram) := by
  obtain ⟨ascending, unfinished⟩ := Outbox.run_invariants calls
  have traced := Outbox.empty_traced.run calls
  generalize Outbox.empty.run calls = outbox at *
  obtain ⟨admitted, -⟩ := QUIC.send_eq_ok sent
  have small := (QUIC.refusal_eq_none admitted).1
  refine ⟨packetFrames packet outbox.carrier.nextMessage
    outbox.carrier.next, QUIC.datagrams_of_send sent, ?_, ?_,
    QUIC.ascending_packetFrames admitted, ?_⟩
  · rw [packetFrames, List.length_map, List.length_range]
    exact fragmentCount_le small
  · intro frame member
    obtain ⟨valid, least, -⟩ := QUIC.mem_packetFrames admitted member
    refine ⟨valid, ?_⟩
    intro call earlier before
    exact UInt64.lt_of_lt_of_le (ascending call earlier before) least
  · intro peer arrivals heard isOpen empty permuted inTime more
    have encodings : ∀ datagram ∈ outbox.datagrams, ∃ frame : Frame UInt8,
        frame.validate = .ok () ∧ datagram = frame.bytes := by
      intro datagram member
      obtain ⟨⟨call, bytes⟩, stored, rfl⟩ := List.mem_map.mp member
      obtain ⟨frame, sent, same, -⟩ := traced call bytes stored
      exact ⟨frame, sent.1, same⟩
    have hears := QUIC.hears_of_heard heard encodings
    obtain ⟨accepted, recorded, known⟩ := hears.window
    have earlier : ∀ other ∈ accepted, other.toNat <
        outbox.carrier.next.toNat := by
      intro other member
      obtain ⟨frame, onWire, rfl⟩ := known other member
      obtain ⟨call, sent⟩ := Outbox.sent_of_onWire onWire
      exact UInt64.lt_iff_toNat_lt.mp (ascending call frame sent)
    -- The arrivals are the packet's frames in the order `order`.
    have frames : List.Forall₂
        (fun datagram index => datagram =
          (outgoing packet outbox.carrier.nextMessage index
            (outbox.carrier.next + UInt64.ofNat index)).bytes)
        ((packetFrames packet outbox.carrier.nextMessage
            outbox.carrier.next).map
          Frame.bytes)
        (List.range (fragmentCount packet)) := by
      rw [packetFrames, List.map_map, List.forall₂_map_left_iff,
        List.forall₂_same]
      intro index _
      rfl
    obtain ⟨order, carried, reordered⟩ := List.perm_comp_forall₂ permuted frames
    rw [List.forall₂_map_left_iff] at carried
    obtain ⟨after, received, unchanged⟩ := QUIC.receiveLoop_packet small
      (QUIC.next_add_le admitted) recorded earlier
      (Outbox.not_done_of_heard unfinished hears) empty
      (by rw [hears.max]; decide) carried reordered
      (by rw [hears.ttl]; exact inTime)
    rw [QUIC.receives, QUIC.receive, if_neg (Bool.eq_false_iff.mp isOpen),
      received]
    exact congrArg (_ :: ·)
      (QUIC.receives_nothing (unchanged.trans isOpen) more)

/-- The datagrams of a first send of `packet`, each at its own time. -/
def reversedArrivals (packet : List UInt8) : List (Arrival Datagram) :=
  (packetFrames packet 0 0).reverse.map fun frame =>
    { datagram := frame.bytes, now := 5 - frame.sequence.toNat,
      replyFault := none }

theorem reversed_packet_is_received :
    QUIC.receives decodeDatagram 2 newQUIC
        (reversedArrivals (List.replicate 2500 0xaa)) =
      [.ok (List.replicate 2500 0xaa), .error .receiveDatagram] := by
  obtain ⟨frames, dispatched, -, -, -, received⟩ :=
    sent_packet_is_received_once [] (List.replicate 2500 0xaa) (fun _ => none)
      (by decide +kernel)
  apply received newQUIC _ .new rfl rfl
  · rw [← dispatched]
    decide +kernel
  · decide +kernel

end KyClash
