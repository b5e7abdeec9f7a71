import KyClash.Carrier.QuicOutbox
import KyClash.Frame.ReassembleMessage
import KyClash.Frame.ReplayWindow

/-!
# One packet over a QUIC carrier

A `Send` that succeeds emits the frames of its packet under sequence numbers
that no earlier frame carries.  A peer that has heard only earlier frames and
holds no open assembly returns the packet, once, when these frames reach it in
any order within the time-to-live.
-/

namespace KyClash

def packetFrames (packet : List UInt8) (messageID next : UInt64) :
    List (Frame UInt8) :=
  (List.range (fragmentCount packet)).map fun index =>
    outgoing packet messageID index (next + UInt64.ofNat index)

theorem fragmentDatagrams_eq_map (packet : List UInt8) (messageID next : UInt64)
    (sent index : Nat) :
    fragmentDatagrams packet messageID sent index next =
      (List.range sent).map fun offset =>
        (outgoing packet messageID (index + offset)
          (next + UInt64.ofNat offset)).bytes := by
  induction sent generalizing index next with
  | zero => rfl
  | succ sent ih =>
    have shifted : ∀ offset, next + 1 + UInt64.ofNat offset =
        next + UInt64.ofNat (offset + 1) := by
      intro offset
      rw [UInt64.ofNat_add,
        UInt64.add_comm (UInt64.ofNat offset), ← UInt64.add_assoc]
      rfl
    have moved : ∀ offset, index + 1 + offset = index + (offset + 1) := by
      intro offset
      omega
    have first : next + UInt64.ofNat 0 = next := UInt64.add_zero next
    rw [fragmentDatagrams, ih, List.range_succ_eq_map, List.map_cons,
      List.map_map]
    simp only [shifted, moved, first, Function.comp_def, Nat.succ_eq_add_one,
      Nat.add_zero]

theorem toNat_add_ofNat {next : UInt64} {offset : Nat}
    (room : next.toNat + offset < 2 ^ 64) :
    (next + UInt64.ofNat offset).toNat = next.toNat + offset := by
  have value : (UInt64.ofNat offset).toNat = offset :=
    UInt64.toNat_ofNat_of_lt' (by simp only [UInt64.size]; omega)
  rw [UInt64.toNat_add, value]
  exact Nat.mod_eq_of_lt room

namespace QUIC

variable {α : Type} {carrier : QUIC α} {packet : List UInt8}
  {faults : Nat → Option SendFault}

theorem send_eq_ok (sent : (carrier.send packet faults).2.2 = .ok ()) :
    carrier.refusal packet = none ∧
      unbroken faults (fragmentCount packet) 0 = fragmentCount packet := by
  cases refused : carrier.refusal packet with
  | some error =>
    rw [send_refused refused] at sent
    cases sent
  | none =>
    refine ⟨rfl, ?_⟩
    obtain ⟨small, -⟩ := refusal_eq_none refused
    obtain ⟨result, equation, complete⟩ := sendFragments_eq small
      carrier.nextMessage faults (fragmentCount packet) 0 carrier (by omega)
    apply complete.mp
    simp only [send, refused, equation] at sent
    cases result with
    | error error => cases sent
    | ok value => rfl

theorem datagrams_of_send (sent : (carrier.send packet faults).2.2 = .ok ()) :
    (carrier.send packet faults).2.1 =
      (packetFrames packet carrier.nextMessage carrier.next).map
        Frame.bytes := by
  obtain ⟨admitted, complete⟩ := send_eq_ok sent
  rw [(send_admitted admitted faults).2, complete, fragmentDatagrams_eq_map,
    packetFrames, List.map_map]
  simp only [Function.comp_def, Nat.zero_add]

section

variable (admitted : carrier.refusal packet = none)
include admitted

/-- An admitted packet does not exhaust the sequence numbers. -/
theorem next_add_le : carrier.next.toNat + fragmentCount packet < 2 ^ 64 := by
  have count := fragmentCount_le (refusal_eq_none admitted).1
  simp only [maxFragments] at count
  unfold refusal at admitted
  split at admitted
  · cases admitted
  split at admitted
  · cases admitted
  split at admitted
  · cases admitted
  · next room =>
    have below : carrier.next ≤
        uint64Max - UInt64.ofNat (fragmentCount packet) :=
      UInt64.not_lt.mp fun above => room (.inr above)
    have bound := UInt64.le_iff_toNat_le.mp below
    have value : (UInt64.ofNat (fragmentCount packet)).toNat =
        fragmentCount packet :=
      UInt64.toNat_ofNat_of_lt' (by simp only [UInt64.size]; omega)
    have last : uint64Max.toNat = 2 ^ 64 - 1 := rfl
    rw [UInt64.toNat_sub_of_le _ _ (by
      rw [UInt64.le_iff_toNat_le, value, last]; omega), value, last]
      at bound
    omega

theorem toNat_sequence {offset : Nat} (inside : offset ≤ fragmentCount packet) :
    (carrier.next + UInt64.ofNat offset).toNat =
      carrier.next.toNat + offset := by
  have room := next_add_le admitted
  exact toNat_add_ofNat (by omega)

theorem mem_packetFrames {frame : Frame UInt8}
    (member : frame ∈ packetFrames packet carrier.nextMessage carrier.next) :
    frame.validate = .ok () ∧ carrier.next ≤ frame.sequence ∧
      frame.sequence.toNat < carrier.next.toNat + fragmentCount packet := by
  obtain ⟨index, inRange, rfl⟩ := List.mem_map.mp member
  have inside := List.mem_range.mp inRange
  have sequence := toNat_sequence admitted (Nat.le_of_lt inside)
  refine ⟨outgoing_valid (refusal_eq_none admitted).1 inside _ _, ?_, ?_⟩
  · rw [UInt64.le_iff_toNat_le]
    simp only [outgoing, sequence]
    omega
  · simp only [outgoing, sequence]
    omega

theorem ascending_packetFrames :
    (packetFrames packet carrier.nextMessage carrier.next).Pairwise
      fun earlier later => earlier.sequence < later.sequence := by
  rw [packetFrames, List.pairwise_map]
  apply List.pairwise_lt_range.imp_of_mem
  intro first second firstIn secondIn less
  have firstInside := List.mem_range.mp firstIn
  have secondInside := List.mem_range.mp secondIn
  rw [UInt64.lt_iff_toNat_lt]
  simp only [outgoing, toNat_sequence admitted (Nat.le_of_lt firstInside),
    toNat_sequence admitted (Nat.le_of_lt secondInside)]
  omega

end

end QUIC

theorem QUIC.dispatch_sequences (carrier : QUIC UInt8) (call : SendCall) :
    carrier.next ≤ (carrier.dispatch call).1.next ∧
      ∀ datagram ∈ (carrier.dispatch call).2, ∃ frame : Frame UInt8,
        frame.validate = .ok () ∧ datagram = frame.bytes ∧
          frame.sequence < (carrier.dispatch call).1.next := by
  have control : ∀ kind fault,
      carrier.next ≤ (carrier.sendControl kind fault).1.next ∧
        ∀ datagram ∈ (carrier.sendControl kind fault).2.1, ∃ frame : Frame
          UInt8, frame.validate = .ok () ∧ datagram = frame.bytes ∧
          frame.sequence < (carrier.sendControl kind fault).1.next := by
    intro kind fault
    obtain ⟨next, same, grows, numbered⟩ :=
      QUIC.sendControl_cases carrier kind fault
    rw [same]
    refine ⟨grows, ?_⟩
    intro datagram member
    obtain ⟨encoded, less⟩ := numbered datagram member
    obtain ⟨valid, same⟩ := Frame.encode_eq_ok_iff.mp encoded
    exact ⟨_, valid, same, less⟩
  cases call with
  | packet bytes faults =>
    cases refused : carrier.refusal bytes with
    | some error =>
      rw [QUIC.dispatch, QUIC.send_refused refused]
      exact ⟨UInt64.le_refl _, by simp⟩
    | none =>
      obtain ⟨after, datagrams⟩ := QUIC.send_admitted refused faults
      have reached := unbroken_le faults (fragmentCount bytes) 0
      have next := QUIC.toNat_sequence refused reached
      rw [QUIC.dispatch, after, datagrams, fragmentDatagrams_eq_map]
      constructor
      · rw [UInt64.le_iff_toNat_le, next]
        omega
      · intro datagram member
        obtain ⟨offset, inRange, rfl⟩ := List.mem_map.mp member
        have before := List.mem_range.mp inRange
        have sequence :=
          QUIC.toNat_sequence refused
            (Nat.le_trans (Nat.le_of_lt before) reached)
        refine ⟨_,
          outgoing_valid (QUIC.refusal_eq_none refused).1 (by omega) _ _, rfl,
          ?_⟩
        rw [UInt64.lt_iff_toNat_lt, next]
        simp only [outgoing, sequence]
        omega
  | ping fault => exact control .ping fault
  | pong fault => exact control .pong fault
  | close => exact ⟨UInt64.le_refl _, by simp [QUIC.dispatch]⟩

namespace Outbox

/-- Every frame on the wire has a number below the carrier's next one. -/
def Ascending (outbox : Outbox) : Prop :=
  ∀ call frame, outbox.Sent call frame → frame.sequence < outbox.carrier.next

theorem Ascending.perform {outbox : Outbox} (ascending : outbox.Ascending)
    (call : SendCall) : (outbox.perform call).Ascending := by
  obtain ⟨grows, numbered⟩ := outbox.carrier.dispatch_sequences call
  rintro number frame ⟨valid, onWire⟩
  rcases List.mem_append.mp onWire with before | added
  · exact UInt64.lt_of_lt_of_le (ascending number frame ⟨valid, before⟩) grows
  · obtain ⟨datagram, dispatched, equal⟩ := List.mem_map.mp added
    obtain ⟨other, otherValid, same, less⟩ := numbered datagram dispatched
    have bytes : frame.bytes = other.bytes :=
      (Prod.mk.inj equal).2.symm.trans same
    rw [Frame.bytes_injective valid otherValid bytes]
    exact less

/-- The fragments under the id of the next message lack the last one of their
count: they belong to sends that broke off. -/
def Unfinished (outbox : Outbox) : Prop :=
  ∀ call frame fragment, outbox.Sent call frame →
    frame.fragment = some fragment →
    fragment.messageID ≤ outbox.carrier.nextMessage ∧
      (fragment.messageID = outbox.carrier.nextMessage →
        fragment.index.toNat + 1 < fragment.count.toNat)

theorem Unfinished.perform {outbox : Outbox} (unfinished : outbox.Unfinished)
    (call : SendCall) : (outbox.perform call).Unfinished := by
  intro number frame fragment sent present
  rcases outbox.carrier.nextMessage_dispatch call with same |
    ⟨bytes, faults, rfl, admitted, several, complete, advanced⟩
  · have next : (outbox.perform call).carrier.nextMessage =
        outbox.carrier.nextMessage := same
    rw [next]
    rcases fragment_perform sent present with before |
      ⟨-, bytes, faults, rfl, admitted, several, sameID, sameCount, inside⟩
    · exact unfinished _ _ _ before present
    · -- The message id was not used up, so the send broke off.
      have reached := unbroken_le faults (fragmentCount bytes) 0
      have broken : unbroken faults (fragmentCount bytes) 0 ≠
          fragmentCount bytes := by
        intro complete
        have used := (QUIC.send_admitted admitted faults).1
        have notLast := (QUIC.refusal_eq_none admitted).2 several
        have kept : (outbox.carrier.send bytes faults).1.nextMessage =
            outbox.carrier.nextMessage := same
        rw [used] at kept
        simp only [several, complete, and_self, if_true] at kept
        exact UInt64.ne_of_lt (uint64_lt_succ notLast) kept.symm
      exact ⟨UInt64.le_of_eq sameID, fun _ => by omega⟩
  · have next : (outbox.perform (.packet bytes faults)).carrier.nextMessage =
        outbox.carrier.nextMessage + 1 := advanced
    rw [next]
    have below := uint64_lt_succ ((QUIC.refusal_eq_none admitted).2 several)
    have bound : fragment.messageID ≤ outbox.carrier.nextMessage := by
      rcases fragment_perform sent present with before |
        ⟨-, _, _, -, -, -, sameID, -, -⟩
      · exact (unfinished _ _ _ before present).1
      · exact UInt64.le_of_eq sameID
    have less := UInt64.lt_of_le_of_lt bound below
    exact ⟨UInt64.le_of_lt less, fun same => (UInt64.ne_of_lt less same).elim⟩

theorem run_invariants (calls : List SendCall) :
    (empty.run calls).Ascending ∧ (empty.run calls).Unfinished := by
  have start : empty.Ascending ∧ empty.Unfinished := by
    constructor
    · intro call frame sent
      cases sent.2
    · intro call frame fragment sent
      cases sent.2
  revert start
  generalize empty = outbox
  intro start
  induction calls generalizing outbox with
  | nil => exact start
  | cons call calls ih =>
    exact ih _ ⟨start.1.perform call, start.2.perform call⟩

end Outbox

end KyClash
