import KyClash.Frame.ReassembleSources

/-!
# The table of open assemblies over whole histories

A history is a list of frames with the times at which they are accepted.
After any history the table keeps its limits, and a packet is assembled from
accepted fragments only.
-/

namespace KyClash

/-- One call of `Accept`: the clock and the frame. -/
structure Offered (α : Type) where
  now : Time
  frame : Frame α

namespace Assembly

def size (current : Assembly α) : Nat :=
  (current.parts.map fun part => (part.getD []).length).sum

/-- An entry of the table: some of its parts are there and some are missing,
and its total is the size of those that are there. -/
structure Partial (current : Assembly α) : Prop where
  nonempty : 0 < current.parts.countP Option.isSome
  incomplete : current.parts.countP Option.isSome < current.count.toNat
  total : current.size = current.total
  bounded : current.total ≤ maxPayloadSize

private theorem sum_map_set {parts : List (Option (List α))} {index : Nat}
    (free : parts[index]? = some none) (payload : List α) :
    ((parts.set index (some payload)).map fun part =>
        (part.getD []).length).sum =
      (parts.map fun part => (part.getD []).length).sum + payload.length := by
  induction parts generalizing index with
  | nil => cases free
  | cons part parts ih =>
    cases index with
    | zero =>
      cases free
      simp [Nat.add_comm]
    | succ index =>
      have later := @ih index free
      simp only [List.set_cons_succ, List.map_cons, List.sum_cons, later]
      omega

private theorem free_slot {current : Assembly α} {index : UInt16}
    (slots : current.parts.length = current.count.toNat)
    (inRange : index < current.count)
    (free : (current.parts.getD index.toNat none).isSome = false) :
    current.parts[index.toNat]? = some none := by
  have bound : index.toNat < current.parts.length := by
    rw [slots]
    exact UInt16.lt_iff_toNat_lt.mp inRange
  rw [List.getD_eq_getElem?_getD, List.getElem?_eq_getElem bound] at free
  rw [List.getElem?_eq_getElem bound]
  exact congrArg some
    (Option.not_isSome_iff_eq_none.mp (Bool.eq_false_iff.mp free))

private theorem size_withPart {current : Assembly α} {index : UInt16}
    (slot : current.parts[index.toNat]? = some none) (payload : List α) :
    (current.withPart index payload).size = current.size + payload.length :=
  sum_map_set slot payload

@[simp] theorem size_fresh (count : UInt16) (expiresAt : Time) :
    (fresh (α := α) count expiresAt).size = 0 := by
  simp [size, fresh]

end Assembly

namespace Reassembler

/-- The limits of the table. -/
structure Limited (reassembler : Reassembler α) : Prop where
  size : reassembler.assemblies.size ≤ reassembler.max
  entries : ∀ messageID current,
    reassembler.assemblies.lookup messageID = some current → current.Partial

theorem Limited.new (ttl : Time) : (new (α := α) ttl).Limited := by
  constructor
  · exact Nat.zero_le _
  · intro messageID current found
    cases found

variable {reassembler : Reassembler α} {now : Time} {fragment : Fragment}
  {current : Assembly α} {sent : Frame α → Prop}
  {result : Reassembler α × Except FrameError (Option (List α))}
  {payload : List α} {frame : Frame α}

theorem Accepts.unchanged_of_refused
    (outcome : reassembler.Accepts now frame result) {error : FrameError}
    (refused : result.2 = .error error) (notLarge : error ≠ .payloadTooLarge) :
    result.1 = reassembler ∨ result.1 = reassembler.expire now := by
  cases outcome with
  | invalid | whole | lifeless => exact .inl rfl
  | handled _ _ _ handled =>
    right
    cases handled with
    | refused => rfl
    | oversize =>
      cases refused
      exact (notLarge rfl).elim
    | stored | finished => cases refused

section

variable (limited : reassembler.Limited)
include limited

theorem Limited.expire (now : Time) : (reassembler.expire now).Limited := by
  constructor
  · exact Nat.le_trans (KeyTable.size_keep_le _ _) limited.size
  · intro messageID current found
    rw [Reassembler.expire, KeyTable.lookup_keep] at found
    exact limited.entries messageID current
      (Option.filter_eq_some_iff.mp found).1

theorem Limited.erase (messageID : UInt64)
    (completed : KeyTable UInt64 Time) :
    { reassembler with
      assemblies := reassembler.assemblies.erase messageID
      completed := completed }.Limited := by
  constructor
  · exact Nat.le_trans (KeyTable.size_erase_le _ _) limited.size
  · intro key current found
    by_cases same : key = messageID
    · subst key
      simp at found
    · rw [AList.lookup_erase_ne same] at found
      exact limited.entries key current found

section

variable (entry : reassembler.Entry now fragment current)
include entry

theorem Entry.size_eq_total : current.size = current.total := by
  cases entry with
  | found found => exact (limited.entries _ _ found).total
  | opened => exact Assembly.size_fresh _ _

theorem Entry.size_insert_le (value : Assembly α) :
    KeyTable.size (reassembler.assemblies.insert fragment.messageID value) ≤
      reassembler.max := by
  cases entry with
  | found found =>
    rw [KeyTable.size_insert_of_mem found]
    exact limited.size
  | opened _ room => exact Nat.le_trans (KeyTable.size_insert_le _ _ _) room

theorem Entry.partial_withPart (stored : reassembler.From sent)
    (inRange : fragment.index < current.count)
    (free : (current.parts.getD fragment.index.toNat none).isSome = false)
    (fits : current.total + payload.length ≤ maxPayloadSize)
    (missing : current.received + 1 ≠ current.count)
    (arrived : SentAs sent fragment.messageID current.count fragment.index.toNat
      payload) :
    (current.withPart fragment.index payload).Partial := by
  have before := entry.from_sent stored
  have slot := Assembly.free_slot before.slots inRange free
  have after := before.withPart inRange free arrived
  have bound := (List.getElem?_eq_some_iff.mp slot).1
  have filled : (current.withPart fragment.index payload).parts.countP
      Option.isSome ≤ current.count.toNat := by
    apply Nat.le_trans List.countP_le_length
    exact Nat.le_of_eq after.slots
  constructor
  · rw [List.countP_pos_iff]
    refine ⟨some payload, ?_, rfl⟩
    exact List.mem_set bound (some payload)
  · apply Nat.lt_of_le_of_ne filled
    intro full
    apply missing
    apply UInt16.toNat_inj.mp
    exact after.received.symm.trans full
  · rw [Assembly.size_withPart slot, entry.size_eq_total limited]
    rfl
  · exact fits

end

end

theorem Handles.limited
    (handled : reassembler.Handles now fragment payload result)
    (limited : reassembler.Limited) (stored : reassembler.From sent)
    (inRange : fragment.index < fragment.count)
    (arrived : ∀ packet, result.2 = .ok packet →
      SentAs sent fragment.messageID fragment.count fragment.index.toNat
        payload) :
    result.1.Limited := by
  cases handled with
  | refused => exact limited
  | oversize | finished => exact limited.erase _ _
  | stored _ entry sameCount free fits missing =>
    constructor
    · exact entry.size_insert_le limited _
    · intro key value found
      by_cases same : key = fragment.messageID
      · subst key
        rw [AList.lookup_insert] at found
        cases found
        exact entry.partial_withPart limited stored (sameCount ▸ inRange)
          free fits missing (sameCount ▸ arrived none rfl)
      · rw [AList.lookup_insert_ne same] at found
        exact limited.entries key value found

theorem Accepts.limited (outcome : reassembler.Accepts now frame result)
    (limited : reassembler.Limited) (stored : reassembler.From sent)
    (arrived : ∀ packet, result.2 = .ok packet → sent frame) :
    result.1.Limited := by
  cases outcome with
  | invalid | whole | lifeless => exact limited
  | handled valid present _ handled =>
    obtain ⟨-, -, -, inRange, -⟩ := valid.fragment _ present
    exact handled.limited (limited.expire now) (stored.expire now) inRange
      fun packet accepted =>
      ⟨frame, _, arrived packet accepted, present, rfl, rfl, rfl, rfl⟩

def run (reassembler : Reassembler α) (history : List (Offered α)) :
    Reassembler α :=
  history.foldl (fun reassembler offered =>
      (reassembler.accept offered.now offered.frame).1) reassembler

/-- The frames of a history that are accepted without an error. -/
def accepted (reassembler : Reassembler α) : List (Offered α) → List (Frame α)
  | [] => []
  | offered :: later =>
    match reassembler.accept offered.now offered.frame with
    | (after, .ok _) => offered.frame :: after.accepted later
    | (after, .error _) => after.accepted later

theorem run_cons (reassembler : Reassembler α) (offered : Offered α)
    (later : List (Offered α)) :
    reassembler.run (offered :: later) =
      (reassembler.accept offered.now offered.frame).1.run later := rfl

theorem accepted_cons (reassembler : Reassembler α) (offered : Offered α)
    (later : List (Offered α)) :
    (∀ packet, (reassembler.accept offered.now offered.frame).2 = .ok packet →
        offered.frame ∈ reassembler.accepted (offered :: later)) ∧
      ((reassembler.accept offered.now offered.frame).1.accepted later) ⊆
        reassembler.accepted (offered :: later) := by
  rw [accepted]
  cases result : reassembler.accept offered.now offered.frame with
  | mk after outcome =>
    cases outcome with
    | ok packet =>
      exact ⟨fun _ _ => List.mem_cons_self, List.subset_cons_self _ _⟩
    | error error =>
      refine ⟨?_, List.Subset.refl _⟩
      intro packet impossible
      cases impossible

theorem run_sound (limited : reassembler.Limited)
    (stored : reassembler.From sent) (history : List (Offered α))
    (arrived : ∀ frame ∈ reassembler.accepted history, sent frame) :
    (reassembler.run history).Limited ∧
      (reassembler.run history).From sent := by
  induction history generalizing reassembler with
  | nil => exact ⟨limited, stored⟩
  | cons offered later ih =>
    obtain ⟨first, rest⟩ := reassembler.accepted_cons offered later
    have outcome := reassembler.accepts offered.now offered.frame
    have head : ∀ packet,
        (reassembler.accept offered.now offered.frame).2 = .ok packet →
          sent offered.frame :=
      fun packet taken => arrived _ (first packet taken)
    exact ih (outcome.limited limited stored head)
      (outcome.from_sent stored head).1
      (fun frame member => arrived frame (rest member))

private theorem accepted_append (reassembler : Reassembler α)
    (before later : List (Offered α)) :
    reassembler.accepted (before ++ later) =
      reassembler.accepted before ++
        (reassembler.run before).accepted later := by
  induction before generalizing reassembler with
  | nil => rfl
  | cons offered before ih =>
    rw [List.cons_append, accepted, accepted, run_cons]
    cases result : reassembler.accept offered.now offered.frame with
    | mk after outcome =>
      cases outcome with
      | ok packet => exact congrArg (offered.frame :: ·) (ih after)
      | error error => exact ih after

theorem returned_from_accepted (ttl : Time) (before : List (Offered α))
    (offered : Offered α) {packet : List α}
    (fragmented : offered.frame.fragment ≠ none)
    (returned : (((new ttl).run before).accept offered.now offered.frame).2 =
      .ok (some packet)) :
    AssembledFrom (· ∈ (new ttl).accepted (before ++ [offered])) packet := by
  rw [accepted_append]
  have history :=
    run_sound (Limited.new ttl)
      (From.new
        (· ∈
          (new ttl).accepted before ++
            ((new ttl).run before).accepted [offered])
        ttl)
      before (fun frame member => List.mem_append_left _ member)
  have head := (accepted_cons ((new ttl).run before) offered []).1
  have outcome := ((new ttl).run before).accepts offered.now offered.frame
  rcases (outcome.from_sent history.2 (fun result taken =>
    List.mem_append_right _ (head result taken))).2 packet returned with
    whole | assembled
  · exact (fragmented whole.1).elim
  · exact assembled

end Reassembler

end KyClash
