import Mathlib.Algebra.Order.BigOperators.Group.List
import KyClash.Frame.ReassembleRuns

/-!
# Messages whose fragments all arrive

A message that fits the limits is returned on its last fragment, whatever
else is given to the reassembler in between: fragments of other messages,
invalid frames, and fragments of the same id with another count.
-/

namespace KyClash

/-- A message: the payload of each of its fragments. -/
structure Message (α : Type) where
  messageID : UInt64
  count : UInt16
  parts : List (List α)
  complete : parts.length = count.toNat

namespace Message

/-- The index of a valid fragment of the message. -/
def index? (message : Message α) (frame : Frame α) : Option Nat :=
  match frame.validate, frame.fragment with
  | .ok (), some fragment =>
    if fragment.messageID = message.messageID ∧
        fragment.count = message.count then
      some fragment.index.toNat
    else
      none
  | _, _ => none

def bytes (message : Message α) : List α :=
  message.parts.flatten

/-- The indices of the message's fragments in a history. -/
def indices (message : Message α) (history : List (Offered α)) : List Nat :=
  history.filterMap fun offered => message.index? offered.frame

variable {index : Nat} {got : List Nat}

private theorem index?_eq_some {message : Message α} {frame : Frame α}
    (isPart : message.index? frame = some index) :
    frame.Valid ∧
      ∃ fragment, frame.fragment = some fragment ∧
        fragment.messageID = message.messageID ∧
        fragment.count = message.count ∧ fragment.index.toNat = index := by
  unfold index? at isPart
  cases validated : frame.validate with
  | error error => simp [validated] at isPart
  | ok accepted =>
    cases present : frame.fragment with
    | none => simp [validated, present] at isPart
    | some fragment =>
      simp only [validated, present] at isPart
      split at isPart
      · next same =>
        exact ⟨Frame.validate_eq_ok_iff.mp validated, fragment, rfl,
          same.1, same.2, Option.some.inj isPart⟩
      · cases isPart

/-- The slots of an assembly that has received the fragments `got`. -/
def slots (message : Message α) (got : List Nat) : List (Option (List α)) :=
  (List.range message.count.toNat).map fun index =>
    if index ∈ got then message.parts[index]? else none

/-- The bytes of the fragments `got`. -/
def size (message : Message α) (got : List Nat) : Nat :=
  (got.map fun index => (message.parts.getD index []).length).sum

section

variable (message : Message α)
include message

private theorem size_le (nodup : got.Nodup)
    (inRange : ∀ index ∈ got, index < message.count.toNat) :
    message.size got ≤ message.bytes.length := by
  have all : message.size (List.range message.count.toNat) =
      message.bytes.length := by
    rw [size, bytes, List.length_flatten, ← message.complete]
    congr 1
    apply List.ext_getElem
    · simp
    · intro index first second
      have bound : index < message.parts.length := by simpa using second
      simp [bound]
  have inside : got.Subperm (List.range message.count.toNat) := by
    apply List.subperm_of_subset nodup
    intro index member
    exact List.mem_range.mpr (inRange index member)
  obtain ⟨part, permuted, sub⟩ := inside
  rw [← all, size, size, ← (permuted.map _).sum_eq]
  exact List.Sublist.sum_le_sum (sub.map _) fun _ _ => Nat.zero_le _

private theorem slots_nil :
    message.slots [] = List.replicate message.count.toNat none := by
  rw [slots, List.eq_replicate_iff]
  constructor
  · simp
  · intro slot member
    obtain ⟨index, -, rfl⟩ := List.mem_map.mp member
    simp

private theorem slots_cons {payload : List α}
    (part : message.parts[index]? = some payload) :
    (message.slots got).set index (some payload) =
      message.slots (index :: got) := by
  apply List.ext_getElem
  · simp [slots]
  · intro slot first second
    by_cases same : index = slot
    · subst same
      simp [slots, part]
    · have other : slot ≠ index := fun equal => same equal.symm
      simp [slots, same, other]

private theorem slot_free (fresh : index ∉ got) :
    ((message.slots got).getD index none).isSome = false := by
  rw [slots, List.getD_eq_getElem?_getD, List.getElem?_map]
  by_cases inside : index < message.count.toNat
  · simp [inside, fresh]
  · simp [inside]

private theorem flatMap_slots
    (all : ∀ index < message.count.toNat, index ∈ got) :
    (message.slots got).flatMap (fun part => part.getD []) = message.bytes := by
  have filled : message.slots got = message.parts.map some := by
    apply List.ext_getElem
    · simp [slots, message.complete]
    · intro index first second
      have inside : index < message.parts.length := by simpa using second
      have member := all index (message.complete ▸ inside)
      simp [slots, member, inside]
  rw [filled, List.flatMap_map, bytes]
  exact List.flatMap_id'

end

end Message

namespace Reassembler

/-- The message's assembly is open until `deadline` and holds the fragments
`got`. -/
structure Collecting (reassembler : Reassembler α) (message : Message α)
    (deadline : Time) (got : List Nat) : Prop where
  nodup : got.Nodup
  inRange : ∀ index ∈ got, index < message.count.toNat
  notDone : reassembler.completed.lookup message.messageID = none
  found : ∃ current,
    reassembler.assemblies.lookup message.messageID = some current ∧
      current.count = message.count ∧ current.expiresAt = deadline ∧
      current.parts = message.slots got ∧ current.received.toNat = got.length ∧
      current.total = message.size got

section Steps

variable {reassembler : Reassembler α} {message : Message α}
  {deadline now : Time} {got : List Nat} {frame : Frame α} {fragment : Fragment}
  {result : Reassembler α × Except FrameError (Option (List α))}
  {payload : List α}

theorem Handles.lookup_other {messageID : UInt64}
    (handled : reassembler.Handles now fragment payload result)
    (other : messageID ≠ fragment.messageID) :
    result.1.completed.lookup messageID =
        reassembler.completed.lookup messageID ∧
      result.1.assemblies.lookup messageID =
        reassembler.assemblies.lookup messageID := by
  cases handled with
  | refused => exact ⟨rfl, rfl⟩
  | oversize => exact ⟨rfl, AList.lookup_erase_ne other⟩
  | stored => exact ⟨rfl, AList.lookup_insert_ne other⟩
  | finished =>
    exact ⟨AList.lookup_insert_ne other, AList.lookup_erase_ne other⟩

theorem collecting_insert {current : Assembly α} {index : UInt16}
    (nodup : (index.toNat :: got).Nodup)
    (inRange : ∀ slot ∈ index.toNat :: got, slot < message.count.toNat)
    (notDone : reassembler.completed.lookup message.messageID = none)
    (part : message.parts[index.toNat]? = some payload)
    (sameCount : current.count = message.count)
    (expiry : current.expiresAt = deadline)
    (parts : current.parts = message.slots got)
    (received : current.received.toNat = got.length)
    (total : current.total = message.size got) :
    { reassembler with
      assemblies := reassembler.assemblies.insert message.messageID
        (current.withPart index payload) }.Collecting message deadline
      (index.toNat :: got) := by
  have few : (index.toNat :: got).length ≤ message.count.toNat := by
    have inside := (List.subperm_of_subset nodup fun slot member =>
      List.mem_range.mpr (inRange slot member)).length_le
    rwa [List.length_range] at inside
  have small := message.count.toNat_lt
  rw [List.length_cons] at few
  refine ⟨nodup, inRange, notDone, _, AList.lookup_insert _, sameCount, expiry,
    ?_, ?_, ?_⟩
  · rw [Assembly.withPart, parts]
    exact message.slots_cons part
  · have sum : (current.received + 1).toNat = (got.length + 1) % 2 ^ 16 := by
      rw [UInt16.toNat_add, received]
      rfl
    rw [Nat.mod_eq_of_lt (by omega)] at sum
    exact sum
  · simp [Assembly.withPart, total, Message.size, part, Nat.add_comm]

theorem handles_part (alive : 0 < reassembler.ttl) {index : Nat}
    (isPart : message.index? frame = some index) :
    ∃ fragment, fragment.messageID = message.messageID ∧
      fragment.count = message.count ∧ fragment.index.toNat = index ∧
      index < message.count.toNat ∧
      (reassembler.expire now).Handles now fragment frame.payload
        (reassembler.accept now frame) := by
  obtain ⟨valid, fragment, present, sameID, sameCount, rfl⟩ :=
    Message.index?_eq_some isPart
  refine ⟨fragment, sameID, sameCount, rfl, ?_, ?_⟩
  · obtain ⟨-, -, -, below, -⟩ := valid.fragment fragment present
    rw [← sameCount]
    exact UInt16.lt_iff_toNat_lt.mp below
  · have outcome := reassembler.accepts now frame
    generalize reassembler.accept now frame = result at outcome
    cases outcome with
    | invalid refused =>
      rw [Frame.validate_eq_ok_iff.mpr valid] at refused
      cases refused
    | whole _ absent =>
      rw [present] at absent
      cases absent
    | lifeless _ _ dead => exact (Int.not_le.mpr alive dead).elim
    | handled _ same _ handled =>
      rw [present] at same
      cases same
      exact handled

theorem collecting_first (alive : 0 < reassembler.ttl) {index : Nat}
    (isPart : message.index? frame = some index)
    (part : message.parts[index]? = some frame.payload)
    (notDone : (reassembler.expire now).completed.lookup message.messageID =
      none)
    (absent : (reassembler.expire now).assemblies.lookup message.messageID =
      none)
    (room : (reassembler.expire now).assemblies.size < reassembler.max) :
    (reassembler.accept now frame).1.Collecting message (now + reassembler.ttl)
        [index] ∧
      (reassembler.accept now frame).2 = .ok none := by
  obtain ⟨fragment, sameID, sameCount, rfl, inside, handled⟩ :=
    handles_part alive isPart
  have none' : ∀ {held : Assembly α},
      (reassembler.expire now).assemblies.lookup fragment.messageID ≠
        some held := by
    intro held holds
    rw [sameID, absent] at holds
    cases holds
  generalize reassembler.accept now frame = result at handled
  cases handled with
  | refused refusal =>
    exfalso
    cases refusal with
    | completed done =>
      rw [sameID, notDone] at done
      cases done
    | limit _ full => exact Nat.not_le.mpr room full
    | count holds | duplicate holds => exact none' holds
  | oversize holds | finished _ holds => exact (none' holds).elim
  | stored _ entry =>
    cases entry with
    | found holds => exact (none' holds).elim
    | opened =>
      refine ⟨?_, rfl⟩
      rw [sameID, sameCount]
      exact collecting_insert (List.nodup_singleton _) (by simpa using inside)
        notDone part rfl rfl message.slots_nil.symm rfl rfl

theorem accept_keeps_limits (reassembler : Reassembler α) (now : Time)
    (frame : Frame α) :
    (reassembler.accept now frame).1.ttl = reassembler.ttl ∧
      (reassembler.accept now frame).1.max = reassembler.max := by
  have outcome := reassembler.accepts now frame
  generalize reassembler.accept now frame = result at outcome
  cases outcome with
  | invalid | whole | lifeless => exact ⟨rfl, rfl⟩
  | handled _ _ _ handled => cases handled <;> exact ⟨rfl, rfl⟩

section

variable (collecting : reassembler.Collecting message deadline got)
include collecting

theorem Collecting.expire (early : now < deadline) :
    (reassembler.expire now).Collecting message deadline got := by
  obtain ⟨current, found, sameCount, expiry, rest⟩ := collecting.found
  refine ⟨collecting.nodup, collecting.inRange, ?_, current, ?_, sameCount,
    expiry, rest⟩
  · rw [Reassembler.expire, KeyTable.lookup_keep, collecting.notDone]
    rfl
  · rw [Reassembler.expire, KeyTable.lookup_keep, found, Option.filter_some,
      if_pos]
    rw [expiry]
    exact decide_eq_true early

theorem Handles.collecting_conflict
    (handled : reassembler.Handles now fragment payload result)
    (sameID : fragment.messageID = message.messageID)
    (conflict : fragment.count ≠ message.count) :
    result.1.Collecting message deadline got := by
  obtain ⟨current, found, sameCount, -⟩ := collecting.found
  have only : ∀ {held : Assembly α},
      reassembler.assemblies.lookup fragment.messageID = some held →
        held.count ≠ fragment.count := by
    intro held holds equal
    rw [sameID, found] at holds
    cases holds
    exact conflict (equal.symm.trans sameCount)
  cases handled with
  | refused => exact collecting
  | oversize holds equal | finished _ holds equal =>
    exact (only holds equal).elim
  | stored _ entry equal =>
    cases entry with
    | found holds => exact (only holds equal).elim
    | opened absent =>
      rw [sameID, found] at absent
      cases absent

theorem Collecting.accept_foreign (early : now < deadline)
    (foreign : message.index? frame = none) :
    (reassembler.accept now frame).1.Collecting message deadline got := by
  have outcome := reassembler.accepts now frame
  generalize reassembler.accept now frame = result at outcome
  cases outcome with
  | invalid | whole | lifeless => exact collecting
  | @handled fragment _ valid present _ handled =>
    have kept := collecting.expire early
    by_cases sameID : fragment.messageID = message.messageID
    · apply handled.collecting_conflict kept sameID
      intro sameCount
      simp [Message.index?, Frame.validate_eq_ok_iff.mpr valid, present, sameID,
        sameCount] at foreign
    · obtain ⟨done, opened⟩ := handled.lookup_other (Ne.symm sameID)
      obtain ⟨current, found, rest⟩ := kept.found
      exact ⟨kept.nodup, kept.inRange, done.trans kept.notDone, current,
        opened.trans found, rest⟩

/-- A fragment of the message that is not there yet: it is stored, and the
last one returns the message. -/
theorem Handles.collecting_part
    (handled : reassembler.Handles now fragment frame.payload result)
    (sameID : fragment.messageID = message.messageID)
    (sameCount : fragment.count = message.count)
    (inside : fragment.index.toNat < message.count.toNat)
    (fresh : fragment.index.toNat ∉ got)
    (part : message.parts[fragment.index.toNat]? = some frame.payload)
    (small : message.bytes.length ≤ maxPayloadSize) :
    (got.length + 1 < message.count.toNat →
        result.1.Collecting message deadline (fragment.index.toNat :: got) ∧
          result.2 = .ok none) ∧
      (got.length + 1 = message.count.toNat →
        result.2 = .ok (some message.bytes)) := by
  obtain ⟨current, found, ownCount, expiry, parts, received, total⟩ :=
    collecting.found
  have nodup : (fragment.index.toNat :: got).Nodup :=
    List.nodup_cons.mpr ⟨fresh, collecting.nodup⟩
  have inRange : ∀ slot ∈ fragment.index.toNat :: got, slot <
      message.count.toNat := by
    intro slot member
    rcases List.mem_cons.mp member with rfl | old
    · exact inside
    · exact collecting.inRange slot old
  have extended := collecting_insert nodup inRange collecting.notDone part
    ownCount expiry parts received total
  obtain ⟨_, stored, -, -, slots, afterReceived, afterTotal⟩ := extended.found
  rw [AList.lookup_insert] at stored
  cases stored
  rw [← sameID] at found
  cases handled with
  | refused refusal =>
    exfalso
    cases refusal with
    | completed done =>
      rw [sameID, collecting.notDone] at done
      cases done
    | limit absent =>
      rw [found] at absent
      cases absent
    | count holds different =>
      rw [found] at holds
      cases holds
      exact different (ownCount.trans sameCount.symm)
    | duplicate holds filled =>
      rw [found] at holds
      cases holds
      rw [parts, message.slot_free fresh] at filled
      cases filled
  | oversize holds _ large =>
    exfalso
    rw [found] at holds
    cases holds
    have bound := message.size_le nodup inRange
    rw [← afterTotal] at bound
    simp only [Assembly.withPart] at bound
    omega
  | stored _ entry _ _ _ missing =>
    have same : ∀ {held : Assembly α}, reassembler.Entry now fragment held →
        held = current := by
      intro held entry
      cases entry with
      | found holds =>
        rw [found] at holds
        exact (Option.some.inj holds).symm
      | opened absent =>
        rw [found] at absent
        cases absent
    obtain rfl := same entry
    refine ⟨fun _ => ⟨by rw [sameID]; exact extended, rfl⟩, ?_⟩
    intro last
    apply absurd _ missing
    apply UInt16.toNat_inj.mp
    rw [ownCount, ← last]
    exact afterReceived
  | finished _ holds _ _ _ complete =>
    rw [found] at holds
    cases holds
    have full : got.length + 1 = message.count.toNat := by
      rw [← ownCount, ← complete]
      exact afterReceived.symm
    refine ⟨fun notFull => by omega, fun _ => ?_⟩
    have all : ∀ index < message.count.toNat, index ∈
        fragment.index.toNat :: got := by
      intro index below
      have permuted := (List.subperm_of_subset nodup fun slot member =>
        List.mem_range.mpr (inRange slot member)).perm_of_length_le
          (by simp [full])
      exact permuted.mem_iff.mpr (List.mem_range.mpr below)
    simp only [Assembly.packet, slots]
    rw [message.flatMap_slots all]

theorem Collecting.accept_part (early : now < deadline)
    (alive : 0 < reassembler.ttl) {index : Nat}
    (isPart : message.index? frame = some index) (fresh : index ∉ got)
    (part : message.parts[index]? = some frame.payload)
    (small : message.bytes.length ≤ maxPayloadSize) :
    (got.length + 1 < message.count.toNat →
        (reassembler.accept now frame).1.Collecting message deadline
            (index :: got) ∧
          (reassembler.accept now frame).2 = .ok none) ∧
      (got.length + 1 = message.count.toNat →
        (reassembler.accept now frame).2 = .ok (some message.bytes)) := by
  obtain ⟨fragment, sameID, sameCount, rfl, inside, handled⟩ :=
    handles_part alive isPart
  exact handled.collecting_part (collecting.expire early) sameID sameCount
    inside fresh part small

/-- Any history that brings new fragments of the message, but not the last
one, and ends before the deadline. -/
theorem Collecting.run {history : List (Offered α)}
    (alive : 0 < reassembler.ttl)
    (early : ∀ offered ∈ history, offered.now < deadline)
    (parts : ∀ offered ∈ history, ∀ index,
      message.index? offered.frame = some index →
        message.parts[index]? = some offered.frame.payload)
    (small : message.bytes.length ≤ maxPayloadSize)
    (fresh : ((message.indices history).reverse ++ got).Nodup)
    (missing : (message.indices history).length + got.length <
      message.count.toNat) :
    (reassembler.run history).Collecting message deadline
        ((message.indices history).reverse ++ got) ∧
      0 < (reassembler.run history).ttl := by
  induction history generalizing reassembler got with
  | nil => exact ⟨collecting, alive⟩
  | cons offered later ih =>
    have alive' : 0 < (reassembler.accept offered.now offered.frame).1.ttl := by
      rw [(accept_keeps_limits ..).1]
      exact alive
    have earlyLater := fun next member =>
      early next (List.mem_cons_of_mem _ member)
    have partsLater := fun next member =>
      parts next (List.mem_cons_of_mem _ member)
    have early := early offered List.mem_cons_self
    cases isPart : message.index? offered.frame with
    | none =>
      have same : message.indices (offered :: later) =
          message.indices later := List.filterMap_cons_none isPart
      rw [same] at fresh missing ⊢
      exact ih (collecting.accept_foreign early isPart) alive' earlyLater
        partsLater fresh missing
    | some index =>
      have split : message.indices (offered :: later) =
          index :: message.indices later :=
        List.filterMap_cons_some isPart
      rw [split, List.reverse_cons, List.append_assoc] at fresh ⊢
      rw [split, List.length_cons] at missing
      have notGot : index ∉ got :=
        (List.nodup_cons.mp (List.nodup_append.mp fresh).2.1).1
      obtain ⟨stored, -⟩ := (collecting.accept_part early alive isPart
        notGot (parts offered List.mem_cons_self index isPart) small).1
        (by omega)
      have fewer : (message.indices later).length +
          (index :: got).length < message.count.toNat := by
        rw [List.length_cons]
        omega
      exact ih stored alive' earlyLater partsLater fresh fewer

end

end Steps

end Reassembler

/-- All fragments of the message arrive once each, from `first` to `last`,
within the time-to-live and the limits.  What else arrives in between is
arbitrary. -/
structure Message.Sent (message : Message α) (reassembler : Reassembler α)
    (first : Offered α) (middle : List (Offered α)) (last : Offered α) :
    Prop where
  room : (reassembler.expire first.now).assemblies.size < reassembler.max
  small : message.bytes.length ≤ maxPayloadSize
  ordered : (first :: middle ++ [last]).Pairwise fun earlier later =>
    earlier.now ≤ later.now
  inTime : last.now < first.now + reassembler.ttl
  opens : (message.index? first.frame).isSome = true
  closes : (message.index? last.frame).isSome = true
  once : (message.indices (first :: middle ++ [last])).Perm
    (List.range message.count.toNat)
  parts : ∀ offered ∈ first :: middle ++ [last], ∀ index,
    message.index? offered.frame = some index →
      message.parts[index]? = some offered.frame.payload

/-- The message is sent when neither table has its identifier. -/
structure Message.Arrives (message : Message α) (reassembler : Reassembler α)
    (first : Offered α) (middle : List (Offered α)) (last : Offered α) :
    Prop extends message.Sent reassembler first middle last where
  notDone : (reassembler.expire first.now).completed.lookup
    message.messageID = none
  notOpen : (reassembler.expire first.now).assemblies.lookup
    message.messageID = none

namespace Reassembler

variable {reassembler : Reassembler α}

private theorem returned_on_last {message : Message α} {first last : Offered α}
    {middle : List (Offered α)}
    (arrives : message.Arrives reassembler first middle last) :
    ((reassembler.run (first :: middle)).accept last.now last.frame).2 =
      .ok (some message.bytes) := by
  obtain ⟨firstIndex, opens⟩ := Option.isSome_iff_exists.mp arrives.opens
  obtain ⟨lastIndex, closes⟩ := Option.isSome_iff_exists.mp arrives.closes
  have split : message.indices (first :: middle ++ [last]) =
      firstIndex :: (message.indices middle ++ [lastIndex]) := by
    simp [Message.indices, opens, closes, List.filterMap_append]
  have once := arrives.once
  rw [split] at once
  have nodup := once.nodup_iff.mpr List.nodup_range
  have count := once.length_eq
  simp only [List.length_cons, List.length_append, List.length_nil,
    List.length_range] at count
  obtain ⟨fromFirst, ordered⟩ := List.pairwise_cons.mp arrives.ordered
  have early : ∀ offered ∈ middle ++ [last], offered.now <
      first.now + reassembler.ttl := by
    intro offered member
    rcases List.mem_append.mp member with inMiddle | isLast
    · have later :=
        (List.pairwise_append.mp ordered).2.2 offered inMiddle last
          List.mem_cons_self
      exact Int.lt_of_le_of_lt later arrives.inTime
    · rw [List.mem_singleton.mp isLast]
      exact arrives.inTime
  have alive : 0 < reassembler.ttl := by
    have later := fromFirst last (List.mem_append_right _ List.mem_cons_self)
    apply (lt_add_iff_pos_right first.now).mp
    exact Int.lt_of_le_of_lt later arrives.inTime
  obtain ⟨opened, -⟩ := collecting_first alive opens
    (arrives.parts first List.mem_cons_self firstIndex opens)
    arrives.notDone arrives.notOpen arrives.room
  have alive' : 0 < (reassembler.accept first.now first.frame).1.ttl := by
    rw [(accept_keeps_limits ..).1]
    exact alive
  have others : (lastIndex ::
      ((message.indices middle).reverse ++ [firstIndex])).Nodup := by
    have reversed := List.nodup_reverse.mpr nodup
    simpa using reversed
  obtain ⟨lastFresh, collected⟩ := List.nodup_cons.mp others
  obtain ⟨collecting, alive''⟩ := opened.run alive'
    (fun offered member => early offered (List.mem_append_left _ member))
    (fun offered member => arrives.parts offered
      (List.mem_cons_of_mem _ (List.mem_append_left _ member)))
    arrives.small collected
    (by simp only [List.length_cons, List.length_nil]; omega)
  have inside : last ∈ first :: middle ++ [last] :=
    List.mem_append_right _ List.mem_cons_self
  apply (collecting.accept_part
    (early last (List.mem_append_right _ List.mem_cons_self)) alive'' closes
    lastFresh (arrives.parts last inside lastIndex closes) arrives.small).2
  simp only [List.length_append, List.length_reverse, List.length_cons,
    List.length_nil]
  omega

private theorem run_untouched {messageID : UInt64}
    (notDone : reassembler.completed.lookup messageID = none)
    (notOpen : reassembler.assemblies.lookup messageID = none)
    {history : List (Offered α)}
    (foreign : ∀ offered ∈ history, ∀ fragment,
      offered.frame.fragment = some fragment → fragment.messageID ≠ messageID) :
    (reassembler.run history).completed.lookup messageID = none ∧
      (reassembler.run history).assemblies.lookup messageID = none := by
  induction history generalizing reassembler with
  | nil => exact ⟨notDone, notOpen⟩
  | cons offered later ih =>
    have foreignLater := fun next member =>
      foreign next (List.mem_cons_of_mem _ member)
    have here := foreign offered List.mem_cons_self
    rw [run_cons]
    have outcome := reassembler.accepts offered.now offered.frame
    generalize reassembler.accept offered.now offered.frame = result at outcome
    cases outcome with
    | invalid | whole | lifeless => exact ih notDone notOpen foreignLater
    | handled _ present _ handled =>
      obtain ⟨done, opened⟩ := handled.lookup_other (here _ present).symm
      refine ih (done.trans ?_) (opened.trans ?_) foreignLater
      · rw [expire, KeyTable.lookup_keep, notDone]
        rfl
      · rw [expire, KeyTable.lookup_keep, notOpen]
        rfl

private theorem max_run (reassembler : Reassembler α)
    (history : List (Offered α)) :
    (reassembler.run history).max = reassembler.max := by
  induction history generalizing reassembler with
  | nil => rfl
  | cons offered later ih => rw [run_cons, ih, (accept_keeps_limits ..).2]

/-- What holds of the reassembler after any history. -/
theorem reassembles_messages (ttl : Time) (before : List (Offered α)) :
    KeyTable.size ((new ttl).run before).assemblies ≤ defaultMaxAssemblies ∧
      (∀ messageID current,
        ((new ttl).run before).assemblies.lookup messageID = some current →
          current.Partial) ∧
      (∀ (offered : Offered α) packet, offered.frame.fragment ≠ none →
        (((new ttl).run before).accept offered.now offered.frame).2 =
          .ok (some packet) →
        AssembledFrom (· ∈ (new ttl).accepted (before ++ [offered])) packet) ∧
      (∀ (message : Message α) first middle last,
        message.Arrives ((new ttl).run before) first middle last →
          (((new ttl).run (before ++ first :: middle)).accept last.now
              last.frame).2 = .ok (some message.bytes)) ∧
      (∀ messageID,
        (∀ offered ∈ before, ∀ fragment,
            offered.frame.fragment = some fragment →
              fragment.messageID ≠ messageID) →
          ((new ttl).run before).completed.lookup messageID = none ∧
            ((new ttl).run before).assemblies.lookup messageID = none) ∧
      (∀ (offered : Offered α) error, offered.frame.fragment ≠ none →
        (((new ttl).run before).accept offered.now offered.frame).2 =
          .error error →
        error ≠ .payloadTooLarge →
        (((new ttl).run before).accept offered.now offered.frame).1 =
            (new ttl).run before ∨
          (((new ttl).run before).accept offered.now offered.frame).1 =
            ((new ttl).run before).expire offered.now) := by
  have sound :=
    run_sound (Limited.new ttl) (From.new (fun _ => True) ttl) before fun _ _ =>
      trivial
  refine ⟨?_, sound.1.entries, ?_, ?_, ?_, ?_⟩
  · have limit := sound.1.size
    rw [max_run] at limit
    exact limit
  · intro offered packet fragmented returned
    exact returned_from_accepted ttl before offered fragmented returned
  · intro message first middle last arrives
    rw [run, List.foldl_append]
    exact returned_on_last arrives
  · intro messageID foreign
    exact run_untouched rfl rfl foreign
  · intro offered error _ refused notLarge
    exact (accepts _ offered.now offered.frame).unchanged_of_refused refused
      notLarge

def byteFragment (index count : UInt16) (byte : UInt8) : Frame UInt8 where
  kind := .wireGuardPacket
  sequence := 0
  fragment := some { messageID := 7, index := index, count := count }
  payload := [byte]

/-- The message whose two fragments are `0xaa` and `0xbb`. -/
def byteMessage : Message UInt8 := ⟨7, 2, [[0xaa], [0xbb]], rfl⟩

theorem parts_byteMessage {offered : Offered UInt8}
    (member : offered.frame ∈
      [byteFragment 1 2 0xbb, byteFragment 0 3 0xcc, byteFragment 0 2 0xaa])
    (index : Nat) (isPart : byteMessage.index? offered.frame = some index) :
    byteMessage.parts[index]? = some offered.frame.payload := by
  simp only [List.mem_cons, List.not_mem_nil, or_false] at member
  rcases member with frame | frame | frame
  all_goals rw [frame] at isPart ⊢
  · cases isPart
    rfl
  · cases isPart
  · cases isPart
    rfl

/-- Two fragments in reverse order, with a fragment of another count between
them. -/
theorem reversed_fragments_are_returned :
    (((new 10).run
          [⟨0, byteFragment 1 2 0xbb⟩, ⟨3, byteFragment 0 3 0xcc⟩]).accept
        9 (byteFragment 0 2 0xaa)).2 = .ok (some [0xaa, 0xbb]) := by
  apply (reassembles_messages 10 []).2.2.2.1
    byteMessage ⟨0, byteFragment 1 2 0xbb⟩
    [⟨3, byteFragment 0 3 0xcc⟩] ⟨9, byteFragment 0 2 0xaa⟩
  refine ⟨⟨?_, ?_, ?_, ?_, ?_, ?_, ?_, ?_⟩, rfl, rfl⟩
  · decide
  · decide
  · decide
  · decide
  · decide
  · decide
  · decide
  · intro offered member
    apply parts_byteMessage
    simp only [List.cons_append, List.nil_append, List.mem_cons,
      List.not_mem_nil, or_false] at member
    rcases member with rfl | rfl | rfl <;> decide

/-- A fragment of another count came first, so the message's own fragments are
refused. -/
theorem fragments_after_conflicting_count_are_refused :
    byteMessage.Sent ((new 10).run [⟨0, byteFragment 0 3 0xcc⟩])
        ⟨1, byteFragment 1 2 0xbb⟩ [] ⟨2, byteFragment 0 2 0xaa⟩ ∧
      (((new 10).run
            [⟨0, byteFragment 0 3 0xcc⟩, ⟨1, byteFragment 1 2 0xbb⟩]).accept
          2 (byteFragment 0 2 0xaa)).2 = .error .invalidFragment := by
  refine ⟨⟨?_, ?_, ?_, ?_, ?_, ?_, ?_, ?_⟩, rfl⟩
  · decide
  · decide
  · decide
  · decide
  · decide
  · decide
  · decide
  · intro offered member
    apply parts_byteMessage
    simp only [List.cons_append, List.nil_append, List.mem_cons,
      List.not_mem_nil, or_false] at member
    rcases member with rfl | rfl <;> decide

end Reassembler

end KyClash
