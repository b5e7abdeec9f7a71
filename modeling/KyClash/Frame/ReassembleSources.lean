import KyClash.Frame.ReassembleSteps

/-!
# Where reassembled packets come from

Every part an assembly stores is the payload of a frame that was given to the
reassembler, under that frame's message id, count and index.  A packet that
is returned is therefore the concatenation of one such payload for each
index.  Which frames were given is an arbitrary predicate `sent`.
-/

namespace KyClash

/-- A frame of `sent` carries `part` as the fragment `index` of `count` of
the message. -/
def SentAs (sent : Frame α → Prop) (messageID : UInt64) (count : UInt16)
    (index : Nat) (part : List α) : Prop :=
  ∃ frame fragment, sent frame ∧ frame.fragment = some fragment ∧
    fragment.messageID = messageID ∧ fragment.count = count ∧
    fragment.index.toNat = index ∧ frame.payload = part

/-- A packet built from one sent fragment for each index of one message. -/
def AssembledFrom (sent : Frame α → Prop) (packet : List α) : Prop :=
  ∃ messageID count, ∃ parts : List (List α), 0 < count.toNat ∧
    parts.length = count.toNat ∧ packet = parts.flatten ∧
    ∀ index part, parts[index]? = some part →
      SentAs sent messageID count index part

namespace Assembly

/-- The slots of an assembly agree with its counters, and every filled slot
holds a sent fragment. -/
structure From (sent : Frame α → Prop) (messageID : UInt64)
    (current : Assembly α) : Prop where
  slots : current.parts.length = current.count.toNat
  received : current.parts.countP Option.isSome = current.received.toNat
  parts : ∀ index part, current.parts[index]? = some (some part) →
    SentAs sent messageID current.count index part

theorem From.fresh (sent : Frame α → Prop) (messageID : UInt64) (count : UInt16)
    (expiresAt : Time) :
    (Assembly.fresh count expiresAt).From sent messageID := by
  constructor
  · simp [Assembly.fresh]
  · simp [Assembly.fresh, List.countP_replicate]
  · intro index part stored
    simp [Assembly.fresh, List.getElem?_replicate] at stored

variable {sent : Frame α → Prop} {current : Assembly α} {messageID : UInt64}

theorem From.withPart {index : UInt16} {payload : List α}
    (stored : current.From sent messageID) (inRange : index < current.count)
    (free : (current.parts.getD index.toNat none).isSome = false)
    (arrived : SentAs sent messageID current.count index.toNat payload) :
    (current.withPart index payload).From sent messageID := by
  have bound : index.toNat < current.parts.length := by
    rw [stored.slots]
    exact UInt16.lt_iff_toNat_lt.mp inRange
  have empty : current.parts[index.toNat] = none := by
    simpa [List.getD, bound] using free
  have counted : (current.withPart index payload).parts.countP
      Option.isSome = current.received.toNat + 1 := by
    simp [Assembly.withPart, List.countP_set, bound, empty, stored.received]
  constructor
  · simp [Assembly.withPart, stored.slots]
  · have atMost : (current.withPart index payload).parts.countP
        Option.isSome ≤ current.count.toNat := by
      refine Nat.le_trans List.countP_le_length ?_
      simp [Assembly.withPart, stored.slots]
    have small : current.received.toNat + 1 < 2 ^ 16 := by
      have := current.count.toNat_lt
      omega
    rw [counted]
    exact (Nat.mod_eq_of_lt small).symm
  · intro slot part filled
    simp only [Assembly.withPart, List.getElem?_set] at filled ⊢
    split at filled
    · next same =>
      subst same
      simp only [Option.some.injEq] at filled
      exact filled ▸ arrived
    · exact stored.parts slot part filled

theorem From.assembled (stored : current.From sent messageID)
    (positive : 0 < current.count.toNat)
    (complete : current.received = current.count) :
    AssembledFrom sent current.packet := by
  have filled : ∀ part ∈ current.parts, part.isSome := by
    apply List.countP_eq_length.mp
    rw [stored.received, stored.slots, complete]
  have recovered : current.parts =
      (current.parts.map fun part => part.getD []).map some := by
    rw [List.map_map]
    refine (List.map_id' current.parts).symm.trans (List.map_congr_left ?_)
    intro part member
    obtain ⟨value, rfl⟩ := Option.isSome_iff_exists.mp (filled part member)
    rfl
  refine ⟨messageID, current.count,
    current.parts.map fun part => part.getD [], positive, ?_, ?_, ?_⟩
  · rw [List.length_map, stored.slots]
  · simp [Assembly.packet, List.flatMap]
  · intro index part atIndex
    apply stored.parts index part
    rw [recovered, List.getElem?_map, atIndex]
    rfl

end Assembly

namespace Reassembler

def From (sent : Frame α → Prop) (reassembler : Reassembler α) : Prop :=
  ∀ messageID current, reassembler.assemblies.lookup messageID = some current →
      current.From sent messageID

theorem From.new (sent : Frame α → Prop) (ttl : Time) :
    (Reassembler.new ttl).From sent := by
  intro messageID current found
  simp [Reassembler.new] at found

variable {sent : Frame α → Prop} {reassembler : Reassembler α}
  {current : Assembly α} {now : Time} {fragment : Fragment}
  {result : Reassembler α × Except FrameError (Option (List α))}

theorem From.reset (reassembler : Reassembler α) :
    reassembler.reset.From sent := by
  intro messageID current found
  simp [Reassembler.reset] at found

variable (stored : reassembler.From sent)
include stored

theorem From.expire (now : Time) : (reassembler.expire now).From sent := by
  intro messageID current found
  rw [Reassembler.expire, KeyTable.lookup_keep] at found
  exact stored messageID current (Option.filter_eq_some_iff.mp found).1

theorem From.insert {messageID : UInt64}
    (added : current.From sent messageID) :
    { reassembler with assemblies :=
        reassembler.assemblies.insert messageID current }.From sent := by
  intro key value found
  by_cases same : key = messageID
  · subst key
    simp only [AList.lookup_insert, Option.some.injEq] at found
    exact found ▸ added
  · rw [AList.lookup_insert_ne same] at found
    exact stored key value found

theorem From.erase (messageID : UInt64)
    (completed : KeyTable UInt64 Time) :
    { reassembler with
      assemblies := reassembler.assemblies.erase messageID
      completed := completed }.From sent := by
  intro key value found
  by_cases same : key = messageID
  · subst key
    simp at found
  · rw [AList.lookup_erase_ne same] at found
    exact stored key value found

theorem Entry.from_sent (entry : reassembler.Entry now fragment current) :
    current.From sent fragment.messageID := by
  cases entry with
  | found found => exact stored _ _ found
  | opened => exact Assembly.From.fresh sent _ _ _

theorem Handles.from_sent {payload : List α}
    (handled : reassembler.Handles now fragment payload result)
    (inRange : fragment.index < fragment.count)
    (arrived : ∀ packet, result.2 = .ok packet →
      SentAs sent fragment.messageID fragment.count fragment.index.toNat
        payload) :
    result.1.From sent ∧
      ∀ packet, result.2 = .ok (some packet) → AssembledFrom sent packet := by
  cases handled with
  | refused => exact ⟨stored, by simp⟩
  | oversize => exact ⟨stored.erase _ _, by simp⟩
  | stored _ entry sameCount free _ _ =>
    have extended := (entry.from_sent stored).withPart
      (sameCount ▸ inRange) free (sameCount ▸ arrived none rfl)
    exact ⟨stored.insert extended, by simp⟩
  | finished _ found sameCount free _ complete =>
    have extended := (stored _ _ found).withPart
      (sameCount ▸ inRange) free (sameCount ▸ arrived _ rfl)
    refine ⟨stored.erase _ _, ?_⟩
    intro packet returned
    simp only [Except.ok.injEq, Option.some.injEq] at returned
    subst packet
    have positive : 0 < fragment.count.toNat :=
      Nat.zero_lt_of_lt (UInt16.lt_iff_toNat_lt.mp inRange)
    exact extended.assembled (sameCount ▸ positive) complete

/-- A returned packet is the payload of an unfragmented sent frame or is
assembled from sent fragments of one message.  Only accepted frames need to be
sent ones. -/
theorem Accepts.from_sent {frame : Frame α}
    (outcome : reassembler.Accepts now frame result)
    (arrived : ∀ packet, result.2 = .ok packet → sent frame) :
    result.1.From sent ∧
      ∀ packet, result.2 = .ok (some packet) →
        (frame.fragment = none ∧ packet = frame.payload) ∨
          AssembledFrom sent packet := by
  cases outcome with
  | invalid | lifeless => exact ⟨stored, by simp⟩
  | whole _ whole =>
    refine ⟨stored, ?_⟩
    intro packet returned
    left
    simpa [whole, eq_comm] using returned
  | handled valid present _ handled =>
    obtain ⟨-, -, -, inRange, -⟩ := valid.fragment _ present
    obtain ⟨kept, built⟩ := handled.from_sent (stored.expire now) inRange
      (fun packet accepted =>
        ⟨frame, _, arrived packet accepted, present, rfl, rfl, rfl, rfl⟩)
    exact ⟨kept, fun packet returned => .inr (built packet returned)⟩

end Reassembler

end KyClash
