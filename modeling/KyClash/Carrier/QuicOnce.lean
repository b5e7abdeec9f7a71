import KyClash.Carrier.QuicDelivery
import KyClash.Frame.ReplayWindow

/-!
# No packet is received twice

The network may repeat datagrams.  The receiver's window accepts a sequence
number once, and what is stored of that frame leaves its assembly with the
packet that is returned.  Both are followed for the marked bytes of one frame.
-/

namespace KyClash

namespace Reassembler

variable (mark : α → Bool) (place : Option UInt64)

/-- No other assembly than the one at `place` stores a marked byte. -/
def Within (reassembler : Reassembler α) : Prop :=
  ∀ messageID current, reassembler.assemblies.lookup messageID = some current →
    current.packet.any mark = true → place = some messageID

/-- The result is a packet with a marked byte. -/
def Marked : Except ε (Option (List α)) → Bool
  | .ok (some packet) => packet.any mark
  | _ => false

/-- The marked bytes of a frame go to one assembly or into the result, and
leave the assembly with the result. -/
def Passes (payload : List α)
    (result : Reassembler α × Except ε (Option (List α))) : Prop :=
  ∃ after, result.1.Within mark after ∧
    after.isSome.toNat + (Marked mark result.2).toNat ≤
      place.isSome.toNat + (payload.any mark).toNat

variable {mark place} {reassembler : Reassembler α} {now : Time}
  {current : Assembly α} {payload : List α}
  {result : Reassembler α × Except FrameError (Option (List α))}

private theorem any_withPart {index : UInt16}
    (marked : (current.withPart index payload).packet.any mark = true) :
    current.packet.any mark = true ∨ payload.any mark = true := by
  obtain ⟨byte, member, marks⟩ := List.any_eq_true.mp marked
  obtain ⟨part, stored, inside⟩ := List.mem_flatMap.mp member
  rcases List.mem_or_eq_of_mem_set stored with old | rfl
  · exact .inl
      (List.any_eq_true.mpr
        ⟨byte, List.mem_flatMap.mpr ⟨part, old, inside⟩, marks⟩)
  · exact .inr (List.any_eq_true.mpr ⟨byte, inside, marks⟩)

section

variable (within : reassembler.Within mark place)
include within

theorem Within.expire : (reassembler.expire now).Within mark place := by
  intro messageID current found
  rw [Reassembler.expire, KeyTable.lookup_keep] at found
  exact within messageID current (Option.filter_eq_some_iff.mp found).1

theorem Within.erase (messageID : UInt64) (completed : KeyTable UInt64 Time) :
    { reassembler with
      assemblies := reassembler.assemblies.erase messageID, completed }.Within
        mark
        (if place = some messageID then none else place) := by
  intro key value found marked
  have other : key ≠ messageID := by
    rintro rfl
    simp at found
  rw [AList.lookup_erase_ne other] at found
  have here := within key value found marked
  rw [if_neg (by rw [here]; exact fun same => other (Option.some.inj same)),
    here]

theorem Within.unmoved {outcome : Except FrameError (Option (List α))}
    (unmarked : (Marked mark outcome).toNat ≤ (payload.any mark).toNat) :
    Passes mark place payload (reassembler, outcome) :=
  ⟨place, within, Nat.add_le_add_left unmarked _⟩

theorem Handles.passes {fragment : Fragment}
    (handled : reassembler.Handles now fragment payload result)
    (alone : payload.any mark = true → place = none) :
    Passes mark place payload result := by
  cases handled with
  | refused => exact within.unmoved (Nat.zero_le _)
  | oversize =>
    refine ⟨_, within.erase fragment.messageID reassembler.completed, ?_⟩
    split
    · exact Nat.zero_le _
    · exact Nat.le_add_right _ _
  | @stored current _ entry =>
    -- A marked payload finds no other marks, so its assembly is the only place.
    refine ⟨if payload.any mark then some fragment.messageID else place, ?_, ?_⟩
    · intro key value found marked
      by_cases same : key = fragment.messageID
      · subst same
        simp only [AList.lookup_insert, Option.some.injEq] at found
        subst found
        split
        · rfl
        · next unmarked =>
          have old := (any_withPart marked).resolve_right unmarked
          cases entry with
          | found before => exact within _ _ before old
          | opened => simp [Assembly.packet, Assembly.fresh] at old
      · rw [AList.lookup_insert_ne same] at found
        have here := within key value found marked
        rw [if_neg (fun new => by simp [alone new] at here), here]
    · split
      · next new => simp [new, Marked]
      · exact Nat.le_add_right _ _
  | @finished current _ found =>
    refine ⟨_, within.erase fragment.messageID _, ?_⟩
    cases marked : Marked mark (.ok (ε := FrameError)
      (some (current.withPart fragment.index payload).packet)) with
    | false =>
      split
      · exact Nat.zero_le _
      · exact Nat.le_add_right _ _
    | true =>
      rcases any_withPart marked with old | new
      · simp [within _ _ found old]
      · simp [alone new, new]

theorem Accepts.passes {frame : Frame α}
    (outcome : reassembler.Accepts now frame result)
    (alone : frame.payload.any mark = true → place = none) :
    Passes mark place frame.payload result := by
  cases outcome with
  | invalid | lifeless => exact within.unmoved (Nat.zero_le _)
  | whole => exact within.unmoved (Nat.le_refl _)
  | handled _ _ _ handled => exact handled.passes within.expire alone

end

end Reassembler

namespace QUIC

variable (mark : α → Bool) (sequence : UInt64)

/-- At most `left` packets with marked bytes are still to come: the frame with
the marks is not accepted yet, or one assembly stores them. -/
def Allows (carrier : QUIC α) (left : Nat) : Prop :=
  ∃ accepted place, carrier.incoming.Records accepted ∧
    carrier.reassembler.Within mark place ∧
    (decide (sequence ∉ accepted)).toNat + place.isSome.toNat ≤ left

/-- The packet of the result has a marked byte. -/
def marked (result : Except CarrierError (List α)) : Bool :=
  result.toOption.any fun packet => packet.any mark

/-- A result, and what is left after it. -/
def Spends (left : Nat) (carrier : QUIC α)
    (result : Except CarrierError (List α)) : Prop :=
  ∃ rest, carrier.Allows mark sequence rest ∧
    rest + (marked mark result).toNat ≤ left

/-- What the loop does next, as the result of a call that ends here. -/
def Received.result : Received α → Except CarrierError (List α)
  | .more => .error .receiveDatagram
  | .packet bytes => .ok bytes
  | .error error => .error error

variable {mark sequence} {carrier : QUIC α} {left : Nat}
  {arrivals : List (Arrival δ)} {decode : δ → Except FrameError (Frame α)}

theorem Allows.error (allows : carrier.Allows mark sequence left)
    (error : CarrierError) : carrier.Spends mark sequence left (.error error) :=
  ⟨left, allows, Nat.le_refl _⟩

theorem Allows.receiveFrame (allows : carrier.Allows mark sequence left)
    (few : left ≤ 1) (now : Time) (replyFault : Option SendFault)
    {decoded : Frame α}
    (own : decoded.payload.any mark = true → decoded.sequence = sequence) :
    (carrier.receiveFrame now replyFault decoded).1.Spends mark sequence left
      (Received.result (carrier.receiveFrame now replyFault decoded).2) := by
  unfold QUIC.receiveFrame
  have before := allows
  obtain ⟨accepted, place, recorded, within, bound⟩ := allows
  rcases recorded.accept decoded.sequence with
    ⟨⟨fresh, -⟩, incoming, accepts, recorded⟩ | ⟨-, error, refuses⟩
  swap
  · rw [refuses]
    exact before.error _
  have later : (decide (sequence ∉ decoded.sequence :: accepted)).toNat +
        (decoded.payload.any mark).toNat ≤
      (decide (sequence ∉ accepted)).toNat := by
    cases new : decoded.payload.any mark with
    | false =>
      by_cases known : sequence ∈ accepted <;> simp [known, Bool.toNat_le]
    | true => simp [← own new, fresh]
  have same : { carrier with incoming }.Allows mark sequence left :=
    ⟨_, place, recorded, within, by omega⟩
  rw [accepts]
  dsimp only
  split
  · have alone : decoded.payload.any mark = true → place = none := by
      intro new
      cases place with
      | none => rfl
      | some messageID => simp [new] at later bound; omega
    obtain ⟨after, kept, cost⟩ :=
      (carrier.reassembler.accepts now decoded).passes within alone
    generalize carrier.reassembler.accept now decoded = result at kept cost ⊢
    obtain ⟨reassembler, outcome⟩ := result
    refine match outcome with
    | .error _ | .ok none => ⟨_, ⟨_, after, recorded, kept, Nat.le_refl _⟩, ?_⟩
    | .ok (some packet) => ⟨_, ⟨_, after, recorded, kept, Nat.le_refl _⟩, ?_⟩
    all_goals
      simp only [Reassembler.Marked, Received.result, marked, Except.toOption,
        Option.any] at cost ⊢
      omega
  · split
    · obtain ⟨next, unchanged, -⟩ :=
        sendControl_cases { carrier with incoming } .pong replyFault
      generalize sendControl { carrier with incoming } .pong replyFault =
        reply at *
      obtain ⟨replied, datagrams, result⟩ := reply
      cases unchanged
      cases result with
      | error | ok => exact Allows.error same _
    · split
      · exact same.error _
      split
      all_goals exact same.error _

section

variable (own : ∀ datagram frame, decode datagram = .ok frame →
  frame.payload.any mark = true → frame.sequence = sequence)
include own

theorem Allows.receiveLoop (allows : carrier.Allows mark sequence left)
    (few : left ≤ 1) :
    (carrier.receiveLoop decode arrivals).1.Spends mark sequence left
      (carrier.receiveLoop decode arrivals).2.2 := by
  induction arrivals generalizing carrier left with
  | nil => exact allows.error _
  | cons arrival arrivals ih =>
    unfold QUIC.receiveLoop
    cases decoded : decode arrival.datagram with
    | error error => exact allows.error _
    | ok frame =>
      have spends := allows.receiveFrame few arrival.now arrival.replyFault
        (own arrival.datagram frame decoded)
      dsimp only
      generalize carrier.receiveFrame arrival.now arrival.replyFault frame =
        result at spends ⊢
      obtain ⟨after, outcome⟩ := result
      cases outcome with
      | packet | error => exact spends
      | more =>
        obtain ⟨rest, allows, bound⟩ := spends
        obtain ⟨final, kept, cost⟩ := ih allows (by omega)
        exact ⟨final, kept, Nat.le_trans cost (by omega)⟩

theorem Allows.receives (allows : carrier.Allows mark sequence left)
    (few : left ≤ 1) (calls : Nat) :
    (receives decode calls carrier arrivals).countP (marked mark) ≤ left := by
  induction calls generalizing carrier left arrivals with
  | zero => exact Nat.zero_le _
  | succ calls ih =>
    have spends : (carrier.receive decode arrivals).1.Spends mark sequence left
        (carrier.receive decode arrivals).2.2 := by
      unfold QUIC.receive
      split
      · exact allows.error _
      · exact allows.receiveLoop own few
    obtain ⟨rest, allows, bound⟩ := spends
    have later : (QUIC.receives decode calls (carrier.receive decode arrivals).1
        (carrier.receive decode arrivals).2.1).countP (marked mark) ≤ rest := by
      apply ih allows
      omega
    rw [QUIC.receives, List.countP_cons]
    cases found : marked mark (carrier.receive decode arrivals).2.2 with
    | true | false =>
      simp only [found, if_true, Bool.false_eq_true, if_false,
        Bool.toNat] at bound ⊢
      simp at bound
      omega

end

private theorem allows_newQUIC : (newQUIC (α := α)).Allows mark sequence 1 := by
  refine ⟨[], none, SequenceWindow.records_empty, ?_, by simp⟩
  intro messageID current found
  simp [newQUIC, Reassembler.new] at found

end QUIC

/-- `decodeDatagram`, with the bytes of this sequence number marked. -/
def markedDecode (sequence : UInt64) (datagram : Datagram) :
    Except FrameError (Frame (UInt8 × Bool)) :=
  (decodeDatagram datagram).map fun frame =>
    frame.map fun byte => (byte, decide (frame.sequence = sequence))

private theorem markedDecode_own {sequence : UInt64} (datagram : Datagram)
    (frame : Frame (UInt8 × Bool))
    (decoded : markedDecode sequence datagram = .ok frame)
    (marks : frame.payload.any Prod.snd = true) :
    frame.sequence = sequence := by
  unfold markedDecode at decoded
  cases plain : decodeDatagram datagram with
  | error error => simp [plain, Except.map] at decoded
  | ok origin =>
    simp only [plain, Except.map, Except.ok.injEq] at decoded
    subst decoded
    obtain ⟨byte, member, marked⟩ := List.any_eq_true.mp marks
    obtain ⟨value, -, rfl⟩ := List.mem_map.mp member
    exact of_decide_eq_true marked

/-- Whatever datagrams arrive, forged or repeated, and however often `Receive`
is called, at most one call returns bytes that came under a given sequence
number.  Erasing the marks gives the run of the code. -/
theorem sequence_number_is_delivered_once (sequence : UInt64) (calls : Nat)
    (arrivals : List (Arrival Datagram)) :
    QUIC.receives decodeDatagram calls newQUIC arrivals =
        (QUIC.receives (markedDecode sequence) calls newQUIC arrivals).map
          (Except.map (List.map Prod.fst)) ∧
      (QUIC.receives (markedDecode sequence) calls newQUIC arrivals).countP
          (QUIC.marked Prod.snd) ≤ 1 := by
  constructor
  · have same : arrivals.map (Arrival.map id) = arrivals := List.map_id arrivals
    rw [← QUIC.receives_map Prod.fst id _ calls newQUIC arrivals, same]
    · rfl
    · intro datagram
      rw [id, markedDecode]
      cases decodeDatagram datagram with
      | error error => rfl
      | ok frame => simp [Except.map, Frame.map, Function.comp_def]
  · exact QUIC.Allows.receives markedDecode_own QUIC.allows_newQUIC
      (Nat.le_refl 1) calls

end KyClash
