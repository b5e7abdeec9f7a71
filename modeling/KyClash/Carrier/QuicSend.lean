import KyClash.Carrier.Quic

/-!
# What a QUIC carrier dispatches

One equation says what a `Send` does: it dispatches the fragments before the
first fault, and moves on to the next message id only when all fragments of a
multi-fragment packet went out.  The rest of the development uses only that
equation and the fact that the fragments of a packet concatenate to it.
-/

namespace KyClash

theorem fragmentCount_cases (packet : List α) :
    (packet.length ≤ 1024 ∧ fragmentCount packet = 1) ∨
      (1024 < packet.length ∧
        fragmentCount packet = (packet.length + 1023) / 1024) := by
  by_cases large : 1024 < packet.length
  · exact .inr ⟨large, if_pos large⟩
  · exact .inl ⟨Nat.le_of_not_lt large, if_neg large⟩

theorem fragmentCount_pos (packet : List α) : 0 < fragmentCount packet := by
  have cases := fragmentCount_cases packet
  omega

variable {packet : List α} {index : Nat} {packet : List UInt8}
  {carrier : QUIC α}

private theorem length_le_fragments (packet : List α) :
    packet.length ≤ fragmentCount packet * quicFragmentPayloadMax := by
  have cases := fragmentCount_cases packet
  simp only [quicFragmentPayloadMax]
  omega

private theorem fragmentStart_lt (several : 1 < fragmentCount packet)
    (inRange : index < fragmentCount packet) :
    index * quicFragmentPayloadMax < packet.length := by
  have cases := fragmentCount_cases packet
  simp only [quicFragmentPayloadMax]
  omega

private theorem fragmentPayload_ne_nil (several : 1 < fragmentCount packet)
    (inRange : index < fragmentCount packet) :
    fragmentPayload packet index ≠ [] := by
  have start := fragmentStart_lt several inRange
  intro empty
  have none := congrArg List.length empty
  simp only [fragmentPayload, List.length_take, List.length_drop,
    List.length_nil, quicFragmentPayloadMax] at none start
  omega

private theorem flatten_fragmentPayload_take (packet : List α) (count : Nat) :
    ((List.range count).map (fragmentPayload packet)).flatten =
      packet.take (count * quicFragmentPayloadMax) := by
  induction count with
  | zero => simp
  | succ count ih =>
    rw [List.range_succ, List.map_append, List.flatten_append, ih, Nat.succ_mul,
      List.take_add]
    simp [fragmentPayload]

theorem flatten_fragmentPayload (packet : List α) :
    ((List.range (fragmentCount packet)).map (fragmentPayload packet)).flatten =
      packet := by
  rw [flatten_fragmentPayload_take]
  exact List.take_of_length_le (length_le_fragments packet)

theorem fragmentPayload_map (change : α → β) (packet : List α) (index : Nat) :
    fragmentPayload (packet.map change) index =
      (fragmentPayload packet index).map change := by
  simp [fragmentPayload, List.map_take, List.map_drop]

/-- The number of fragments before the first fault. -/
def unbroken (faults : Nat → Option SendFault) : (remaining index : Nat) → Nat
  | 0, _ => 0
  | remaining + 1, index =>
    if (faults index).isSome then
      0
    else
      unbroken faults remaining (index + 1) + 1

theorem unbroken_le (faults : Nat → Option SendFault) (remaining index : Nat) :
    unbroken faults remaining index ≤ remaining := by
  induction remaining generalizing index with
  | zero => exact Nat.le_refl 0
  | succ remaining ih =>
    unfold unbroken
    split
    · exact Nat.zero_le _
    · exact Nat.succ_le_succ (ih (index + 1))

/-- The datagrams of the fragments `index, …, index + sent - 1`. -/
def fragmentDatagrams (packet : List UInt8) (messageID : UInt64) :
    (sent index : Nat) → UInt64 → List Datagram
  | 0, _, _ => []
  | sent + 1, index, next =>
    (outgoing packet messageID index next).bytes ::
      fragmentDatagrams packet messageID sent (index + 1) (next + 1)

theorem mem_fragmentDatagrams {messageID next : UInt64} {sent : Nat}
    {datagram : Datagram}
    (member : datagram ∈ fragmentDatagrams packet messageID sent index next) :
    ∃ position sequence, index ≤ position ∧ position < index + sent ∧
      datagram = (outgoing packet messageID position sequence).bytes := by
  induction sent generalizing index next with
  | zero => simp [fragmentDatagrams] at member
  | succ sent ih =>
    rcases List.mem_cons.mp member with first | later
    · exact ⟨index, next, Nat.le_refl _, by omega, first⟩
    · obtain ⟨position, sequence, lower, upper, equal⟩ := ih later
      exact ⟨position, sequence, by omega, by omega, equal⟩

section

variable (small : packet.length ≤ maxPayloadSize)
include small

theorem fragmentCount_le : fragmentCount packet ≤ maxFragments := by
  have cases := fragmentCount_cases packet
  simp only [maxPayloadSize, maxFragments] at *
  omega

theorem outgoing_fragment {messageID sequence : UInt64} {fragment : Fragment}
    (inRange : index < fragmentCount packet)
    (present : (outgoing packet messageID index sequence).fragment =
      some fragment) :
    1 < fragmentCount packet ∧ fragment.messageID = messageID ∧
      fragment.index.toNat = index ∧
      fragment.count.toNat = fragmentCount packet := by
  have count := fragmentCount_le small
  obtain ⟨several, ⟨⟩⟩ := Option.ite_none_right_eq_some.mp present
  simp only [maxFragments] at count
  exact ⟨several, rfl,
    UInt16.toNat_ofNat_of_lt' (by simp only [UInt16.size]; omega),
    UInt16.toNat_ofNat_of_lt' (by simp only [UInt16.size]; omega)⟩

theorem outgoing_valid (inRange : index < fragmentCount packet)
    (messageID sequence : UInt64) :
    (outgoing packet messageID index sequence).validate = .ok () := by
  have count := fragmentCount_le small
  have short : (fragmentPayload packet index).length ≤ maxPayloadSize := by
    simp only [fragmentPayload, List.length_take, quicFragmentPayloadMax,
      maxPayloadSize]
    omega
  apply Frame.validate_eq_ok_iff.mpr
  refine ⟨rfl, short, ?_, fun _ => .inl rfl⟩
  intro fragment present
  obtain ⟨several, -, indexNat, countNat⟩ :=
    outgoing_fragment small inRange present
  refine ⟨rfl, ?_, ?_, ?_, fragmentPayload_ne_nil several inRange⟩
  · rw [UInt16.le_iff_toNat_le, countNat]
    exact several
  · rw [countNat]
    exact count
  · rw [UInt16.lt_iff_toNat_lt, countNat, indexNat]
    exact inRange

theorem sendFragments_eq (messageID : UInt64)
    (faults : Nat → Option SendFault) (remaining index : Nat) (carrier : QUIC α)
    (inRange : index + remaining ≤ fragmentCount packet) :
    ∃ result : Except CarrierError Unit,
      QUIC.sendFragments packet messageID faults remaining index carrier =
        ({ carrier with
            next :=
              carrier.next + UInt64.ofNat (unbroken faults remaining index) },
          fragmentDatagrams packet messageID (unbroken faults remaining index)
            index carrier.next,
          result) ∧
      (result = .ok () ↔ unbroken faults remaining index = remaining) := by
  induction remaining generalizing index carrier with
  | zero => exact ⟨.ok (), by simp [QUIC.sendFragments, unbroken,
      fragmentDatagrams], by simp [unbroken]⟩
  | succ remaining ih =>
    have encoded : (outgoing packet messageID index carrier.next).encode =
        .ok (outgoing packet messageID index carrier.next).bytes :=
      Frame.encode_eq_ok_iff.mpr
        ⟨outgoing_valid small (by omega) messageID carrier.next, rfl⟩
    cases fault : faults index with
    | some reason =>
      cases reason with
      | contextDone =>
        exact ⟨.error .contextDone, by simp [QUIC.sendFragments,
          unbroken, fragmentDatagrams, fault], by simp [unbroken, fault]⟩
      | datagramRefused =>
        exact ⟨.error .sendDatagram, by simp [QUIC.sendFragments,
          unbroken, fragmentDatagrams, fault, encoded],
          by simp [unbroken, fault]⟩
    | none =>
      obtain ⟨result, equation, complete⟩ := ih (index + 1)
        { carrier with next := carrier.next + 1 } (by omega)
      refine ⟨result, ?_, by simpa [unbroken, fault] using complete⟩
      have advanced : carrier.next + UInt64.ofNat
            (unbroken faults remaining (index + 1) + 1) =
          carrier.next + 1 + UInt64.ofNat
            (unbroken faults remaining (index + 1)) := by
        rw [UInt64.ofNat_add,
          UInt64.add_comm (UInt64.ofNat _), ← UInt64.add_assoc]
        rfl
      simp only [QUIC.sendFragments, unbroken, fault, encoded, equation,
        fragmentDatagrams, Option.isSome_none, reduceCtorEq,
        if_false, advanced, Bool.false_eq_true]

end

theorem QUIC.refusal_eq_none (admitted : carrier.refusal packet = none) :
    packet.length ≤ maxPayloadSize ∧
      (1 < fragmentCount packet → carrier.nextMessage ≠ uint64Max) := by
  unfold QUIC.refusal at admitted
  split at admitted
  · cases admitted
  split at admitted
  · cases admitted
  · next small =>
    split at admitted
    · cases admitted
    split at admitted
    · cases admitted
    · next fresh =>
      exact ⟨Nat.le_of_not_lt small, fun several last => fresh ⟨several, last⟩⟩

theorem QUIC.send_refused {error : CarrierError}
    (refused : carrier.refusal packet = some error)
    (faults : Nat → Option SendFault) :
    carrier.send packet faults = (carrier, [], .error error) := by
  simp [QUIC.send, refused]

/-- An admitted `Send` dispatches the fragments before the first fault; it
takes the message id for good only when it dispatched all of several. -/
theorem QUIC.send_admitted (admitted : carrier.refusal packet = none)
    (faults : Nat → Option SendFault) :
    (carrier.send packet faults).1 =
        { carrier with
          next :=
            carrier.next +
            UInt64.ofNat (unbroken faults (fragmentCount packet) 0)
          nextMessage :=
            if 1 < fragmentCount packet ∧
                unbroken faults (fragmentCount packet) 0 =
                  fragmentCount packet then
              carrier.nextMessage + 1
            else
              carrier.nextMessage } ∧
      (carrier.send packet faults).2.1 =
        fragmentDatagrams packet carrier.nextMessage
          (unbroken faults (fragmentCount packet) 0) 0 carrier.next := by
  obtain ⟨small, -⟩ := QUIC.refusal_eq_none admitted
  obtain ⟨result, equation, complete⟩ := sendFragments_eq small
    carrier.nextMessage faults (fragmentCount packet) 0 carrier (by omega)
  simp only [QUIC.send, admitted, equation]
  cases result with
  | error error =>
    have broken : unbroken faults (fragmentCount packet) 0 ≠
        fragmentCount packet := fun all => by
      cases complete.mpr all
    simp [broken]
  | ok value =>
    have all := complete.mp rfl
    by_cases several : 1 < fragmentCount packet
    · simp [several, all]
    · simp [several]

end KyClash
