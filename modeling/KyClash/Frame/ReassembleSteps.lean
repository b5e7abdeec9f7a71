import KyClash.Frame.Reassemble

/-!
# What the reassembler can do with a frame

`Accepts` lists the outcomes of `Reassembler.accept`, with the conditions
under which each of them happens.  All invariants of the reassembler are
proved by cases on it.
-/

namespace KyClash

namespace Assembly

theorem fresh_free (count index : UInt16) (expiresAt : Time) :
    ((fresh (α := α) count expiresAt).parts.getD index.toNat none).isSome =
      false := by
  rw [fresh, List.getD_eq_getElem?_getD, List.getElem?_replicate]
  split <;> rfl

theorem fresh_fits (count : UInt16) (expiresAt : Time) {payload : List α}
    (small : payload.length ≤ maxPayloadSize) :
    (fresh (α := α) count expiresAt).total + payload.length ≤
      maxPayloadSize := by
  rw [fresh, Nat.zero_add]
  exact small

theorem fresh_missing {frame : Frame α} {fragment : Fragment} (expiresAt : Time)
    (valid : frame.Valid) (present : frame.fragment = some fragment) :
    (fresh (α := α) fragment.count expiresAt).received + 1 ≠
      fragment.count := by
  intro single
  obtain ⟨-, several, -, -, -⟩ := valid.fragment fragment present
  rw [← single] at several
  exact absurd several (by simp [fresh])

end Assembly

namespace Reassembler

/-- The assembly to which the fragment belongs: the table's entry, or a new
one if there is none and the table has room. -/
inductive Entry (reassembler : Reassembler α) (now : Time)
    (fragment : Fragment) : Assembly α → Prop where
  | found {current : Assembly α} :
      reassembler.assemblies.lookup fragment.messageID = some current →
      Entry reassembler now fragment current
  | opened :
      reassembler.assemblies.lookup fragment.messageID = none →
        reassembler.assemblies.size < reassembler.max →
        Entry reassembler now fragment
          (.fresh fragment.count (now + reassembler.ttl))

/-- Why a valid fragment is refused without touching the table. -/
inductive Refusal (reassembler : Reassembler α) (fragment : Fragment) :
    FrameError → Prop where
  | completed {until' : Time} :
      reassembler.completed.lookup fragment.messageID = some until' →
      Refusal reassembler fragment .duplicateFragment
  | limit :
      reassembler.assemblies.lookup fragment.messageID = none →
      reassembler.max ≤ reassembler.assemblies.size →
      Refusal reassembler fragment .assemblyLimit
  | count {current : Assembly α} :
      reassembler.assemblies.lookup fragment.messageID = some current →
      current.count ≠ fragment.count →
      Refusal reassembler fragment .invalidFragment
  | duplicate {current : Assembly α} :
      reassembler.assemblies.lookup fragment.messageID = some current →
      (current.parts.getD fragment.index.toNat none).isSome = true →
      Refusal reassembler fragment .duplicateFragment

/-- What happens to a valid fragment once the expired entries are gone. -/
inductive Handles (reassembler : Reassembler α) (now : Time)
    (fragment : Fragment) (payload : List α) :
    Reassembler α × Except FrameError (Option (List α)) → Prop where
  | refused {error : FrameError} :
      Refusal reassembler fragment error →
      Handles reassembler now fragment payload (reassembler, .error error)
  | oversize {current : Assembly α} :
      reassembler.assemblies.lookup fragment.messageID = some current →
      current.count = fragment.count →
      maxPayloadSize < current.total + payload.length →
      Handles reassembler now fragment payload
        ({ reassembler with
            assemblies := reassembler.assemblies.erase fragment.messageID },
          .error .payloadTooLarge)
  | stored {current : Assembly α} :
      reassembler.completed.lookup fragment.messageID = none →
      Entry reassembler now fragment current →
      current.count = fragment.count →
      (current.parts.getD fragment.index.toNat none).isSome = false →
      current.total + payload.length ≤ maxPayloadSize →
      current.received + 1 ≠ current.count →
      Handles reassembler now fragment payload
        ({ reassembler with
            assemblies := reassembler.assemblies.insert fragment.messageID
              (current.withPart fragment.index payload) },
          .ok none)
  | finished {current : Assembly α} :
      reassembler.completed.lookup fragment.messageID = none →
      reassembler.assemblies.lookup fragment.messageID = some current →
      current.count = fragment.count →
      (current.parts.getD fragment.index.toNat none).isSome = false →
      current.total + payload.length ≤ maxPayloadSize →
      current.received + 1 = current.count →
      Handles reassembler now fragment payload
        ({ reassembler with
            assemblies := reassembler.assemblies.erase fragment.messageID
            completed :=
              reassembler.completed.insert fragment.messageID
              (now + reassembler.ttl) },
          .ok (some (current.withPart fragment.index payload).packet))

variable {reassembler : Reassembler α}

private theorem handles_found {fragment : Fragment} {current : Assembly α}
    (now : Time) (payload : List α)
    (notDone : reassembler.completed.lookup fragment.messageID = none)
    (found : reassembler.assemblies.lookup fragment.messageID = some current) :
    reassembler.Handles now fragment payload
      (reassembler.addPart now fragment payload current) := by
  unfold addPart
  split
  · next different => exact .refused (.count found different)
  · next sameCount =>
    split
    · next filled => exact .refused (.duplicate found filled)
    · next free =>
      split
      · next large =>
        exact .oversize found (not_not.mp sameCount) large
      · next fits =>
        dsimp only
        split
        · next missing =>
          exact .stored notDone (.found found) (not_not.mp sameCount)
            (Bool.eq_false_of_not_eq_true free) (Nat.le_of_not_lt fits)
            missing
        · next complete =>
          exact .finished notDone found (not_not.mp sameCount)
            (Bool.eq_false_of_not_eq_true free) (Nat.le_of_not_lt fits)
            (not_not.mp complete)

/-- The first fragment of a message is always stored. -/
theorem addPart_fresh {frame : Frame α} {fragment : Fragment}
    (now until' : Time)
    (valid : frame.Valid) (present : frame.fragment = some fragment) :
    addPart
        { reassembler with
          assemblies := reassembler.assemblies.insert fragment.messageID
            (.fresh fragment.count until') }
        now fragment frame.payload (.fresh fragment.count until') =
      ({ reassembler with
          assemblies := reassembler.assemblies.insert fragment.messageID
            ((Assembly.fresh fragment.count until').withPart fragment.index
              frame.payload) },
        .ok none) := by
  have free := Assembly.fresh_free (α := α) fragment.count fragment.index until'
  have fits := Assembly.fresh_fits fragment.count until' valid.length
  have missing : ((Assembly.fresh fragment.count until').withPart fragment.index
        frame.payload).received ≠
      ((Assembly.fresh fragment.count until').withPart fragment.index
        frame.payload).count :=
    Assembly.fresh_missing until' valid present
  rw [addPart, if_neg (by simp [Assembly.fresh]),
    if_neg (Bool.eq_false_iff.mp free), if_neg (Nat.not_lt.mpr fits)]
  rw [if_pos missing, AList.insert_insert]

/-- What `accept` can do with one frame. -/
inductive Accepts (reassembler : Reassembler α) (now : Time) (frame : Frame α) :
    Reassembler α × Except FrameError (Option (List α)) → Prop where
  | invalid {error : FrameError} :
      frame.validate = .error error →
      Accepts reassembler now frame (reassembler, .error error)
  | whole :
      frame.Valid → frame.fragment = none →
      Accepts reassembler now frame (reassembler, .ok (some frame.payload))
  | lifeless {fragment : Fragment} :
      frame.Valid → frame.fragment = some fragment →
      reassembler.ttl ≤ 0 →
      Accepts reassembler now frame (reassembler, .error .invalidFragment)
  | handled {fragment : Fragment}
      {result : Reassembler α × Except FrameError (Option (List α))} :
      frame.Valid → frame.fragment = some fragment →
      0 < reassembler.ttl →
      (reassembler.expire now).Handles now fragment frame.payload result →
      Accepts reassembler now frame result

theorem accepts (reassembler : Reassembler α) (now : Time) (frame : Frame α) :
    reassembler.Accepts now frame (reassembler.accept now frame) := by
  unfold accept
  cases validated : frame.validate with
  | error error => exact .invalid validated
  | ok accepted =>
    have valid := Frame.validate_eq_ok_iff.mp validated
    cases present : frame.fragment with
    | none => exact .whole valid present
    | some fragment =>
      dsimp only
      split
      · next dead => exact .lifeless valid present dead
      · next alive =>
        apply Accepts.handled valid present (Int.not_le.mp alive)
        cases done : (reassembler.expire now).completed.lookup
          fragment.messageID with
        | some until' => exact .refused (.completed done)
        | none =>
          cases found : (reassembler.expire now).assemblies.lookup
            fragment.messageID with
          | some current =>
            exact handles_found now frame.payload done found
          | none =>
            simp only [Option.isSome_none, Bool.false_eq_true, if_false]
            split
            · next full => exact .refused (.limit found full)
            · next room =>
              rw [addPart_fresh now _ valid present]
              exact .stored done (.opened found (Nat.lt_of_not_le room)) rfl
                (Assembly.fresh_free _ _ _)
                (Assembly.fresh_fits _ _ valid.length)
                (Assembly.fresh_missing _ valid present)

end Reassembler

end KyClash
