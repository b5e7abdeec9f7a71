import KyClash.Carrier.QuicSend

/-!
# The datagrams of a sequence of sends

An `Outbox` records everything one carrier dispatches, each datagram with the
number of the call that dispatched it.  `freshMessages` is the condition
under which no complete packet shares its message id and fragment count with
fragments of an earlier call; it holds unless a `Send` that broke off after
its first fragment is followed by a complete one of the same count before any
other multi-fragment `Send` completes.
-/

namespace KyClash

/-- The calls that dispatch datagrams, or stop dispatching them. -/
inductive SendCall where
  | packet (bytes : List UInt8) (faults : Nat → Option SendFault)
  | ping (fault : Option SendFault)
  | pong (fault : Option SendFault)
  | close

/-- The carrier after a call and the datagrams dispatched by it. -/
def QUIC.dispatch (carrier : QUIC UInt8) : SendCall → QUIC UInt8 × List Datagram
  | .packet bytes faults =>
    ((carrier.send bytes faults).1, (carrier.send bytes faults).2.1)
  | .ping fault =>
    ((carrier.sendControl .ping fault).1, (carrier.sendControl .ping fault).2.1)
  | .pong fault =>
    ((carrier.sendControl .pong fault).1, (carrier.sendControl .pong fault).2.1)
  | .close => (carrier.close, [])

structure Outbox where
  carrier : QUIC UInt8
  calls : List SendCall
  wire : List (Nat × Datagram)

namespace Outbox

def empty : Outbox where
  carrier := newQUIC
  calls := []
  wire := []

def perform (outbox : Outbox) (call : SendCall) : Outbox where
  carrier := (outbox.carrier.dispatch call).1
  calls := outbox.calls ++ [call]
  wire := outbox.wire ++ (outbox.carrier.dispatch call).2.map fun datagram =>
      (outbox.calls.length, datagram)

def run (outbox : Outbox) (calls : List SendCall) : Outbox :=
  calls.foldl perform outbox

end Outbox

/-- `stale` lists the fragment counts of the broken-off sends that used the
carrier's current message id.  The result is the list after the call, or
`none` if the call completes a packet with a stale count. -/
def staleAfter (carrier : QUIC UInt8) (stale : List Nat) :
    SendCall → Option (List Nat)
  | .packet bytes faults =>
    let count := fragmentCount bytes
    let sent := unbroken faults count 0
    if (carrier.refusal bytes).isSome ∨ count = 1 ∨ sent = 0 then
      some stale
    else if sent ≠ count then
      some (count :: stale)
    else if count ∈ stale then
      none
    else
      some []
  | _ => some stale

def freshMessages (carrier : QUIC UInt8) (stale : List Nat) :
    List SendCall → Bool
  | [] => true
  | call :: calls =>
    match staleAfter carrier stale call with
    | none => false
    | some stale => freshMessages (carrier.dispatch call).1 stale calls

/-! ## What one call adds -/

theorem uint64_lt_succ {value : UInt64} (notLast : value ≠ uint64Max) :
    value < value + 1 := by
  have bounded := value.toNat_lt
  have different : value.toNat ≠ uint64Max.toNat :=
    fun same => notLast (UInt64.toNat_inj.mp same)
  have last : uint64Max.toNat = 2 ^ 64 - 1 := rfl
  rw [UInt64.lt_iff_toNat_lt, UInt64.toNat_add]
  simp only [UInt64.toNat_one]
  omega

theorem QUIC.sendControl_cases (carrier : QUIC α) (kind : Kind)
    (fault : Option SendFault) :
    ∃ next, (carrier.sendControl kind fault).1 = { carrier with next } ∧
      carrier.next ≤ next ∧
      ∀ datagram ∈ (carrier.sendControl kind fault).2.1,
        (controlFrame kind carrier.next).encode = .ok datagram ∧
          carrier.next < next := by
  have still : carrier.next ≤ carrier.next := UInt64.le_refl _
  unfold QUIC.sendControl
  split
  · exact ⟨_, rfl, still, nofun⟩
  split
  · exact ⟨_, rfl, still, nofun⟩
  split
  · exact ⟨_, rfl, still, nofun⟩
  · next notLast =>
    have less := uint64_lt_succ notLast
    cases (controlFrame kind carrier.next).encode with
    | error error => exact ⟨_, rfl, still, nofun⟩
    | ok encoded =>
      dsimp only
      split
      · exact ⟨_, rfl, still, nofun⟩
      · exact ⟨_, rfl, UInt64.le_of_lt less, by simp [less]⟩

/-- The frame is a control frame, or a fragment of the call's packet under the
message id the carrier had before the call. -/
def QUIC.Dispatches (carrier : QUIC UInt8) (call : SendCall)
    (frame : Frame UInt8) : Prop :=
  (frame.fragment = none ∧ frame.kind ≠ .wireGuardPacket) ∨
    ∃ bytes faults position sequence, call = .packet bytes faults ∧
      carrier.refusal bytes = none ∧
      position < unbroken faults (fragmentCount bytes) 0 ∧
      frame = outgoing bytes carrier.nextMessage position sequence

theorem QUIC.mem_dispatch {carrier : QUIC UInt8} {call : SendCall}
    {datagram : Datagram} (member : datagram ∈ (carrier.dispatch call).2) :
    ∃ frame, frame.validate = .ok () ∧ datagram = frame.bytes ∧
      carrier.Dispatches call frame := by
  have control (kind : Kind) (other : kind ≠ .wireGuardPacket)
    (fault : Option SendFault)
      (sent : datagram ∈ (carrier.sendControl kind fault).2.1) :
      ∃ frame, frame.validate = .ok () ∧ datagram = frame.bytes ∧
        carrier.Dispatches call frame := by
    obtain ⟨_, -, -, encodes⟩ := QUIC.sendControl_cases carrier kind fault
    obtain ⟨valid, same⟩ := Frame.encode_eq_ok_iff.mp (encodes datagram sent).1
    exact ⟨_, valid, same, .inl ⟨rfl, other⟩⟩
  cases call with
  | packet bytes faults =>
    cases refused : carrier.refusal bytes with
    | some error => simp [QUIC.dispatch, QUIC.send_refused refused] at member
    | none =>
      rw [QUIC.dispatch, (QUIC.send_admitted refused faults).2] at member
      obtain ⟨position, sequence, -, upper, equal⟩ :=
        mem_fragmentDatagrams member
      have sent : position < unbroken faults (fragmentCount bytes) 0 := by omega
      have inRange := Nat.lt_of_lt_of_le sent (unbroken_le _ _ _)
      have valid := outgoing_valid (QUIC.refusal_eq_none refused).1 inRange
        carrier.nextMessage sequence
      exact ⟨_, valid, equal,
        .inr ⟨bytes, faults, position, sequence, rfl, refused, sent, rfl⟩⟩
  | ping fault => exact control .ping nofun fault member
  | pong fault => exact control .pong nofun fault member
  | close => simp [QUIC.dispatch] at member

theorem QUIC.nextMessage_dispatch (carrier : QUIC UInt8) (call : SendCall) :
    (carrier.dispatch call).1.nextMessage = carrier.nextMessage ∨
      ∃ bytes faults, call = .packet bytes faults ∧
        carrier.refusal bytes = none ∧ 1 < fragmentCount bytes ∧
        unbroken faults (fragmentCount bytes) 0 = fragmentCount bytes ∧
        (carrier.dispatch call).1.nextMessage = carrier.nextMessage + 1 := by
  cases call with
  | packet bytes faults =>
    cases refused : carrier.refusal bytes with
    | some error =>
      left
      simp [QUIC.dispatch, QUIC.send_refused refused]
    | none =>
      have sent := (QUIC.send_admitted refused faults).1
      by_cases complete : 1 < fragmentCount bytes ∧
          unbroken faults (fragmentCount bytes) 0 = fragmentCount bytes
      · right
        refine ⟨bytes, faults, rfl, refused, complete.1, complete.2, ?_⟩
        simp [QUIC.dispatch, sent, complete]
      · left
        simp [QUIC.dispatch, sent, complete]
  | ping fault =>
    obtain ⟨_, same, -⟩ := QUIC.sendControl_cases carrier .ping fault
    exact .inl (by rw [QUIC.dispatch, same])
  | pong fault =>
    obtain ⟨_, same, -⟩ := QUIC.sendControl_cases carrier .pong fault
    exact .inl (by rw [QUIC.dispatch, same])
  | close => exact .inl rfl

/-! ## Tracing datagrams to calls -/

/-- The frame is a fragment of the packet passed to call number `call`. -/
def FragmentOf (calls : List SendCall) (call : Nat) (frame : Frame UInt8) :
    Prop :=
  ∃ bytes faults messageID index sequence,
    calls[call]? = some (.packet bytes faults) ∧ bytes.length ≤ maxPayloadSize ∧
      index < fragmentCount bytes ∧
      frame = outgoing bytes messageID index sequence

namespace Outbox

def Sent (outbox : Outbox) (call : Nat) (frame : Frame UInt8) : Prop :=
  frame.validate = .ok () ∧ (call, frame.bytes) ∈ outbox.wire

variable {outbox : Outbox} {call : SendCall} {stale : List Nat}
  {faults : Nat → Option SendFault} {frame : Frame UInt8} {bytes : List UInt8}
  {number : Nat}

private theorem sent_perform (sent : (outbox.perform call).Sent number frame) :
    outbox.Sent number frame ∨
      number = outbox.calls.length ∧ outbox.carrier.Dispatches call frame := by
  obtain ⟨valid, onWire⟩ := sent
  rcases List.mem_append.mp onWire with before | added
  · exact .inl ⟨valid, before⟩
  · right
    obtain ⟨datagram, dispatched, equal⟩ := List.mem_map.mp added
    obtain ⟨rfl, rfl⟩ := Prod.mk.inj equal
    obtain ⟨origin, originValid, same, dispatches⟩ :=
      QUIC.mem_dispatch dispatched
    obtain rfl := Frame.bytes_injective valid originValid same
    exact ⟨rfl, dispatches⟩

/-- Every frame on the wire is a control frame or a fragment of its call. -/
def Traced (outbox : Outbox) : Prop :=
  ∀ call datagram, (call, datagram) ∈ outbox.wire →
    ∃ frame, outbox.Sent call frame ∧ datagram = frame.bytes ∧
      (frame.kind ≠ .wireGuardPacket ∨ FragmentOf outbox.calls call frame)

theorem Traced.perform (traced : outbox.Traced) (call : SendCall) :
    (outbox.perform call).Traced := by
  intro number datagram member
  rcases List.mem_append.mp member with before | added
  · obtain ⟨frame, ⟨valid, onWire⟩, same, origin⟩ :=
      traced number datagram before
    refine ⟨frame, ⟨valid, List.mem_append_left _ onWire⟩, same, ?_⟩
    rcases origin with control |
      ⟨bytes, faults, messageID, index, sequence, performed, rest⟩
    · exact .inl control
    · right
      refine ⟨bytes, faults, messageID, index, sequence, ?_, rest⟩
      exact List.getElem?_append_left (List.getElem?_eq_some_iff.mp performed).1
        ▸ performed
  · obtain ⟨sent, dispatched, equal⟩ := List.mem_map.mp added
    obtain ⟨rfl, rfl⟩ := Prod.mk.inj equal
    obtain ⟨frame, valid, same, dispatches⟩ := QUIC.mem_dispatch dispatched
    refine ⟨frame, ⟨valid, same ▸ member⟩, same, ?_⟩
    rcases dispatches with ⟨-, control⟩ |
      ⟨bytes, faults, position, sequence, rfl, admitted, before, rfl⟩
    · exact .inl control
    · right
      exact ⟨bytes, faults, _, position, sequence, by simp [Outbox.perform],
        (QUIC.refusal_eq_none admitted).1,
        Nat.lt_of_lt_of_le before (unbroken_le _ _ _), rfl⟩

/-- How message ids are used.  `current`: a fragment under the id of the next
message belongs to a send that broke off.  `unique`: all fragments with the
id and count of a last fragment come from its call. -/
structure Numbered (outbox : Outbox) (stale : List Nat) : Prop where
  current : ∀ call frame fragment, outbox.Sent call frame →
    frame.fragment = some fragment →
    fragment.messageID ≤ outbox.carrier.nextMessage ∧
      (fragment.messageID = outbox.carrier.nextMessage →
        fragment.count.toNat ∈ stale ∧
          fragment.index.toNat + 1 < fragment.count.toNat)
  unique : ∀ call frame fragment last lastFrame lastFragment,
    outbox.Sent call frame → frame.fragment = some fragment →
    outbox.Sent last lastFrame → lastFrame.fragment = some lastFragment →
    fragment.messageID = lastFragment.messageID →
    fragment.count = lastFragment.count →
    lastFragment.index.toNat + 1 = lastFragment.count.toNat → call = last

/-- A fragment added by a call: the call is a multi-fragment `Send`, and the
fragment carries the current message id and the packet's count. -/
theorem fragment_perform {fragment : Fragment}
    (sent : (outbox.perform call).Sent number frame)
    (present : frame.fragment = some fragment) :
    outbox.Sent number frame ∨
      number = outbox.calls.length ∧
        ∃ bytes faults, call = .packet bytes faults ∧
          outbox.carrier.refusal bytes = none ∧ 1 < fragmentCount bytes ∧
          fragment.messageID = outbox.carrier.nextMessage ∧
          fragment.count.toNat = fragmentCount bytes ∧
          fragment.index.toNat < unbroken faults (fragmentCount bytes) 0 := by
  rcases sent_perform sent with before | ⟨rfl, control | packet⟩
  · exact .inl before
  · rw [control.1] at present
    cases present
  · right
    obtain ⟨bytes, faults, position, sequence, rfl, admitted, inside, rfl⟩ :=
      packet
    have inRange : position < fragmentCount bytes :=
      Nat.lt_of_lt_of_le inside (unbroken_le _ _ _)
    obtain ⟨several, sameID, sameIndex, sameCount⟩ := outgoing_fragment
      (QUIC.refusal_eq_none admitted).1 inRange present
    exact ⟨rfl, bytes, faults, rfl, admitted, several, sameID, sameCount,
      sameIndex ▸ inside⟩

/-- The call is a `Send` that dispatches at least one of several
fragments. -/
def Fragments (outbox : Outbox) (call : SendCall) (bytes : List UInt8)
    (faults : Nat → Option SendFault) : Prop :=
  call = .packet bytes faults ∧ outbox.carrier.refusal bytes = none ∧
    1 < fragmentCount bytes ∧ 0 < unbroken faults (fragmentCount bytes) 0

section

variable (numbered : outbox.Numbered stale)
include numbered

theorem Numbered.idle
    (idle : ∀ bytes faults, ¬outbox.Fragments call bytes faults) :
    (outbox.perform call).Numbered stale := by
  have old : ∀ number frame fragment, (outbox.perform call).Sent number frame →
        frame.fragment = some fragment → outbox.Sent number frame := by
    intro number frame fragment sent present
    rcases fragment_perform sent present with before |
      ⟨-, bytes, faults, same, admitted, several, -, -, inside⟩
    · exact before
    · exact (idle bytes faults
        ⟨same, admitted, several, Nat.zero_lt_of_lt inside⟩).elim
  have next : (outbox.perform call).carrier.nextMessage =
      outbox.carrier.nextMessage := by
    rcases QUIC.nextMessage_dispatch outbox.carrier call with same |
      ⟨bytes, faults, same, admitted, several, complete, -⟩
    · exact same
    · exact (idle bytes faults ⟨same, admitted, several, by omega⟩).elim
  constructor
  · intro number frame fragment sent present
    rw [next]
    exact numbered.current number frame fragment
      (old number frame fragment sent present) present
  · intro number frame fragment last lastFrame lastFragment sent present
      lastSent lastPresent
    exact numbered.unique number frame fragment last lastFrame lastFragment
      (old number frame fragment sent present) present
      (old last lastFrame lastFragment lastSent lastPresent) lastPresent

theorem Numbered.brokenOff
    (broken : unbroken faults (fragmentCount bytes) 0 < fragmentCount bytes) :
    (outbox.perform (.packet bytes faults)).Numbered
      (fragmentCount bytes :: stale) := by
  have next : (outbox.perform (.packet bytes faults)).carrier.nextMessage =
      outbox.carrier.nextMessage := by
    rcases QUIC.nextMessage_dispatch outbox.carrier (.packet bytes faults)
      with same | ⟨_, _, ⟨rfl, rfl⟩, -, -, complete, -⟩
    · exact same
    · omega
  constructor
  · intro number frame fragment sent present
    rw [next]
    rcases fragment_perform sent present with before |
      ⟨-, _, _, ⟨rfl, rfl⟩, -, -, sameID, sameCount, inside⟩
    · obtain ⟨bound, atNext⟩ := numbered.current _ _ _ before present
      refine ⟨bound, fun same => ?_⟩
      obtain ⟨isStale, notLast⟩ := atNext same
      exact ⟨List.mem_cons_of_mem _ isStale, notLast⟩
    · refine ⟨UInt64.le_of_eq sameID, fun _ => ⟨?_, by omega⟩⟩
      rw [sameCount]
      exact List.mem_cons_self
  · intro number frame fragment last lastFrame lastFragment sent present
      lastSent lastPresent sameID sameCount isLast
    rcases fragment_perform lastSent lastPresent with lastBefore |
      ⟨-, _, _, ⟨rfl, rfl⟩, -, -, -, lastCount, lastInside⟩
    · rcases fragment_perform sent present with before |
        ⟨-, _, _, ⟨rfl, rfl⟩, -, -, newID, -, -⟩
      · exact numbered.unique _ _ _ _ _ _ before present lastBefore
          lastPresent sameID sameCount isLast
      · -- An old last fragment cannot carry the current message id.
        have notLast :=
          (numbered.current _ _ _ lastBefore lastPresent).2
            (sameID.symm.trans newID)
        omega
    · omega

theorem Numbered.completed (admitted : outbox.carrier.refusal bytes = none)
    (several : 1 < fragmentCount bytes)
    (complete : unbroken faults (fragmentCount bytes) 0 = fragmentCount bytes)
    (fresh : fragmentCount bytes ∉ stale) :
    (outbox.perform (.packet bytes faults)).Numbered [] := by
  have notLast := (QUIC.refusal_eq_none admitted).2 several
  have next : (outbox.perform (.packet bytes faults)).carrier.nextMessage =
      outbox.carrier.nextMessage + 1 := by
    have sent := (QUIC.send_admitted admitted faults).1
    simp [Outbox.perform, QUIC.dispatch, sent, several, complete]
  have below := uint64_lt_succ notLast
  constructor
  · intro number frame fragment sent present
    rw [next]
    have bound : fragment.messageID ≤ outbox.carrier.nextMessage := by
      rcases fragment_perform sent present with before |
        ⟨-, _, _, -, -, -, sameID, -, -⟩
      · exact (numbered.current _ _ _ before present).1
      · exact UInt64.le_of_eq sameID
    have less := UInt64.lt_of_le_of_lt bound below
    exact ⟨UInt64.le_of_lt less, fun same => (UInt64.ne_of_lt less same).elim⟩
  · intro number frame fragment last lastFrame lastFragment sent present
      lastSent lastPresent sameID sameCount isLast
    rcases fragment_perform sent present with before |
        ⟨rfl, _, _, ⟨rfl, rfl⟩, -, -, newID, newCount, -⟩
    · rcases fragment_perform lastSent lastPresent with lastBefore |
        ⟨-, _, _, ⟨rfl, rfl⟩, -, -, lastID, lastCount, -⟩
      · exact numbered.unique _ _ _ _ _ _ before present lastBefore
          lastPresent sameID sameCount isLast
      · -- An old fragment with the new id would make the count stale.
        have isStale :=
          ((numbered.current _ _ _ before present).2 (sameID.trans lastID)).1
        rw [sameCount, lastCount] at isStale
        exact (fresh isStale).elim
    · rcases fragment_perform lastSent lastPresent with lastBefore | ⟨rfl, -⟩
      · have notLast :=
          (numbered.current _ _ _ lastBefore lastPresent).2
            (sameID.symm.trans newID)
        omega
      · rfl

theorem Numbered.perform {stale' : List Nat}
    (fresh : staleAfter outbox.carrier stale call = some stale') :
    (outbox.perform call).Numbered stale' := by
  by_cases fragments : ∃ bytes faults, outbox.Fragments call bytes faults
  · obtain ⟨bytes, faults, rfl, admitted, several, some⟩ := fragments
    have reached := unbroken_le faults (fragmentCount bytes) 0
    simp only [staleAfter, admitted, Option.isSome_none, Bool.false_eq_true,
      Nat.ne_of_gt several, Nat.ne_of_gt some, or_self, if_false] at fresh
    split at fresh
    · cases fresh
      exact numbered.brokenOff (by omega)
    · next complete =>
      obtain ⟨notStale, ⟨⟩⟩ := Option.ite_none_left_eq_some.mp fresh
      exact numbered.completed admitted several (by omega) notStale
  · have idle : ∀ bytes faults, ¬outbox.Fragments call bytes faults :=
      fun bytes faults found => fragments ⟨bytes, faults, found⟩
    have same : stale' = stale := by
      cases call with
      | packet bytes faults =>
        have nothing := idle bytes faults
        have positive := fragmentCount_pos bytes
        simp only [Fragments, true_and] at nothing
        simp only [staleAfter] at fresh
        split at fresh
        · exact (Option.some.inj fresh).symm
        · next sends =>
          simp only [not_or] at sends
          exact (nothing
            ⟨Option.not_isSome_iff_eq_none.mp sends.1, by omega, by omega⟩).elim
      | ping | pong | close => exact (Option.some.inj fresh).symm
    exact same ▸ numbered.idle idle

end

theorem empty_numbered : empty.Numbered [] := by
  constructor
  · intro call frame fragment sent
    cases sent.2
  · intro call frame fragment last lastFrame lastFragment sent
    cases sent.2

theorem empty_traced : empty.Traced := by
  intro call datagram member
  cases member

theorem Traced.run (traced : outbox.Traced) (calls : List SendCall) :
    (outbox.run calls).Traced := by
  induction calls generalizing outbox with
  | nil => exact traced
  | cons call calls ih => exact ih (traced.perform call)

theorem Numbered.run (numbered : outbox.Numbered stale) {calls : List SendCall}
    (fresh : freshMessages outbox.carrier stale calls = true) :
    ∃ stale', (outbox.run calls).Numbered stale' := by
  induction calls generalizing outbox stale with
  | nil => exact ⟨stale, numbered⟩
  | cons call calls ih =>
    rw [freshMessages] at fresh
    cases after : staleAfter outbox.carrier stale call with
    | none => simp [after] at fresh
    | some stale' =>
      rw [after] at fresh
      exact ih (numbered.perform after) fresh

theorem calls_run (outbox : Outbox) (calls : List SendCall) :
    (outbox.run calls).calls = outbox.calls ++ calls := by
  induction calls generalizing outbox with
  | nil => simp [Outbox.run]
  | cons call calls ih =>
    rw [Outbox.run, List.foldl_cons, ← Outbox.run, ih]
    simp [Outbox.perform]

end Outbox

end KyClash
