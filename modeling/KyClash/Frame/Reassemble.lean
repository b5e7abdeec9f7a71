import KyClash.Frame.Codec
import KyClash.Data.KeyTable

/-!
# Replay window and fragment reassembly

`SequenceWindow` (`internal/frame/frame.go`) refuses sequence numbers it has
seen or that are too old.  `Reassembler` (`internal/frame/reassemble.go`)
collects the fragments of a message until all of them are there.  Times are
nanosecond counts; the clock is read once for each fragment and is passed in.
-/

namespace KyClash

structure SequenceWindow where
  seen : Bool
  highest : UInt64
  bitmap : UInt64
  deriving DecidableEq, Repr

namespace SequenceWindow

def empty : SequenceWindow :=
  { seen := false, highest := 0, bitmap := 0 }

/-- A refused number leaves the window as it was. -/
def accept (window : SequenceWindow) (sequence : UInt64) :
    Except FrameError SequenceWindow :=
  if !window.seen then
    .ok { seen := true, highest := sequence, bitmap := 1 }
  else if window.highest < sequence then
    let shift := sequence - window.highest
    let bitmap := if 64 ≤ shift then 0 else window.bitmap <<< shift
    .ok { window with highest := sequence, bitmap := bitmap ||| 1 }
  else
    let distance := window.highest - sequence
    if 64 ≤ distance ∨ window.bitmap &&& (1 <<< distance) ≠ 0 then
      .error .nonMonotonic
    else
      .ok { window with bitmap := window.bitmap ||| (1 <<< distance) }

end SequenceWindow

abbrev Time := Int

/-- The fragments received so far of one message; `none` is the source's nil
slice. -/
structure Assembly (α : Type) where
  count : UInt16
  parts : List (Option (List α))
  received : UInt16
  total : Nat
  expiresAt : Time

structure Reassembler (α : Type) where
  assemblies : KeyTable UInt64 (Assembly α)
  completed : KeyTable UInt64 Time
  ttl : Time
  max : Nat

def defaultMaxAssemblies : Nat := 16

namespace Assembly

def fresh (count : UInt16) (expiresAt : Time) : Assembly α where
  count := count
  parts := List.replicate count.toNat none
  received := 0
  total := 0
  expiresAt := expiresAt

def withPart (current : Assembly α) (index : UInt16) (payload : List α) :
    Assembly α :=
  { current with
    parts := current.parts.set index.toNat (some payload)
    received := current.received + 1
    total := current.total + payload.length }

def packet (current : Assembly α) : List α :=
  current.parts.flatMap fun part => part.getD []

end Assembly

namespace Reassembler

def new (ttl : Time) : Reassembler α where
  assemblies := ∅
  completed := ∅
  ttl := ttl
  max := defaultMaxAssemblies

def expire (reassembler : Reassembler α) (now : Time) : Reassembler α :=
  { reassembler with
    assemblies :=
      KeyTable.keep (fun current => now < current.expiresAt)
      reassembler.assemblies
    completed :=
      KeyTable.keep (fun expiresAt => now < expiresAt) reassembler.completed }

/-- The second half of `Accept`: `current` is the table's assembly for the
fragment's message. -/
def addPart (reassembler : Reassembler α) (now : Time) (fragment : Fragment)
    (payload : List α) (current : Assembly α) :
    Reassembler α × Except FrameError (Option (List α)) :=
  if current.count ≠ fragment.count then
    (reassembler, .error .invalidFragment)
  else if (current.parts.getD fragment.index.toNat none).isSome then
    (reassembler, .error .duplicateFragment)
  else if maxPayloadSize < current.total + payload.length then
    ({ reassembler with
        assemblies := reassembler.assemblies.erase fragment.messageID },
      .error .payloadTooLarge)
  else
    let current := current.withPart fragment.index payload
    if current.received ≠ current.count then
      ({ reassembler with
          assemblies :=
            reassembler.assemblies.insert fragment.messageID current },
        .ok none)
    else
      ({ reassembler with
          assemblies := reassembler.assemblies.erase fragment.messageID
          completed :=
            reassembler.completed.insert fragment.messageID
            (now + reassembler.ttl) },
        .ok (some current.packet))

/-- Accept one frame.  The result is a complete packet, `none` while
fragments are missing, or an error. -/
def accept (reassembler : Reassembler α) (now : Time) (frame : Frame α) :
    Reassembler α × Except FrameError (Option (List α)) :=
  match frame.validate with
  | .error error => (reassembler, .error error)
  | .ok () =>
    match frame.fragment with
    | none => (reassembler, .ok (some frame.payload))
    | some fragment =>
      if reassembler.ttl ≤ 0 then
        (reassembler, .error .invalidFragment)
      else
        let reassembler := reassembler.expire now
        if (reassembler.completed.lookup fragment.messageID).isSome then
          (reassembler, .error .duplicateFragment)
        else
          match reassembler.assemblies.lookup fragment.messageID with
          | some current =>
            reassembler.addPart now fragment frame.payload current
          | none =>
            if reassembler.max ≤ reassembler.assemblies.size then
              (reassembler, .error .assemblyLimit)
            else
              let current := .fresh fragment.count (now + reassembler.ttl)
              let reassembler :=
                { reassembler with
                  assemblies :=
                    reassembler.assemblies.insert fragment.messageID current }
              reassembler.addPart now fragment frame.payload current

def reset (reassembler : Reassembler α) : Reassembler α :=
  { reassembler with assemblies := ∅, completed := ∅ }

end Reassembler

end KyClash
