import KyClash.Concurrency.Program
import KyClash.RouteHelper.Journal

/-!
# The coordinator of the v3 route helper

The operations of `RouteHelperV3Coordinator` as programs over the helper's
seams: the route executor, the journal store and the broker.  An operation
holds the coordinator's lock from start to end, so it threads the memory of
the process and can only be cut short by the end of the process.
-/

namespace KyClash.RouteHelper

open Program
open TunnelBroker (ConnectionID Date)

structure RouteInspection where
  ownedExact : Bool
  foreignConflict : Bool
  deriving DecidableEq, Repr

def RouteInspection.isAvailable (inspection : RouteInspection) : Bool :=
  !inspection.ownedExact && !inspection.foreignConflict

inductive RouteMutation where
  | add
  | delete
  deriving DecidableEq, Repr

/-- `RouteBrokerV3Result`, without the reason texts: every use goes through
`canonicalBrokerV3Error`, which drops them. -/
inductive RouteBrokerV3Result where
  | held
  | released
  | running
  | idle
  | rejected
  | ambiguous
  deriving DecidableEq, Repr

inductive Act where
  | inspect (cidrs : List Text) (interfaceName : Text)
      (trustedMihomoInterfaces : List Text)
  /-- The lease is not an argument of the command; it says for whom the
  route is changed. -/
  | mutate (action : RouteMutation) (cidr interfaceName : Text)
      (lease : LeaseReferenceV3)
  | persist (value : RouteJournalV3)
  | remove (reference : LeaseReferenceV3)
  | hold (reference : LeaseReferenceV3)
  | release (reference : LeaseReferenceV3)
  | status (reference : LeaseReferenceV3)
  | now
  deriving DecidableEq, Repr

/-- An inspection returns a dictionary, or nothing when it fails. -/
abbrev Act.Res : Act → Type
  | .inspect _ _ _ => Option (List (Text × RouteInspection))
  | .mutate _ _ _ _ => Bool
  | .persist _ => Bool
  | .remove _ => Bool
  | .hold _ => RouteBrokerV3Result
  | .release _ => RouteBrokerV3Result
  | .status _ => RouteBrokerV3Result
  | .now => Date

abbrev Helper (α : Type) := Prog Act Act.Res α

namespace Seam

def inspect (cidrs : List Text) (interfaceName : Text)
    (trustedMihomoInterfaces : List Text) :
    Helper (Option (List (Text × RouteInspection))) :=
  Prog.perform (Act.inspect cidrs interfaceName trustedMihomoInterfaces)

def mutate (action : RouteMutation) (cidr : Text) (journal : RouteJournalV3) :
    Helper Bool :=
  Prog.perform
    (Act.mutate action cidr journal.owner.interfaceName journal.reference)

def persist (value : RouteJournalV3) : Helper Bool :=
  Prog.perform (Act.persist value)

def remove (reference : LeaseReferenceV3) : Helper Bool :=
  Prog.perform (Act.remove reference)

def hold (reference : LeaseReferenceV3) : Helper RouteBrokerV3Result :=
  Prog.perform (Act.hold reference)

def release (reference : LeaseReferenceV3) : Helper RouteBrokerV3Result :=
  Prog.perform (Act.release reference)

def status (reference : LeaseReferenceV3) : Helper RouteBrokerV3Result :=
  Prog.perform (Act.status reference)

def now : Helper Date :=
  Prog.perform Act.now

end Seam

inductive ReplyState where
  | idle
  | journal (state : RouteJournalStateV3)
  | recoveryOnly
  | failedClosed
  deriving DecidableEq, Repr

inductive ReplyError where
  | routeConflict
  | journalWriteFailed
  | routeApplyFailed
  | rollbackFailed
  | releaseFailed
  | recoveryRequired
  | ownershipMismatch
  | brokerProtocolFailure
  | brokerStatusFailed
  deriving DecidableEq, Repr

structure HelperReplyV3 where
  state : ReplyState
  errorCode : Option ReplyError
  reference : Option LeaseReferenceV3
  transition : UInt64
  deriving DecidableEq, Repr

def HelperReplyV3.plain (state : ReplyState) (errorCode : Option ReplyError) :
    HelperReplyV3 :=
  ⟨state, errorCode, none, 0⟩

def v3OwnershipFailure : HelperReplyV3 :=
  .plain .failedClosed (some .ownershipMismatch)

def v3Reply (journal : RouteJournalV3) (errorCode : Option ReplyError) :
    HelperReplyV3 :=
  ⟨.journal journal.state, errorCode, some journal.reference,
    journal.transition⟩

def routeHelperV3HeartbeatExpiry : Date := 15

/-- The fields of the coordinator.  `heartbeatDeadline` is `none` for the
distant past. -/
structure Memory where
  journal : Option RouteJournalV3
  activeConnectionID : Option ConnectionID
  registeredConnectionIDs : List ConnectionID
  recoveryOnly : Bool
  heartbeatDeadline : Option Date
  deriving DecidableEq, Repr

/-- The memory after `init`, over what the store has loaded. -/
def Memory.new (current : Option RouteJournalV3) (corrupt : Bool) : Memory where
  journal := current
  activeConnectionID := none
  registeredConnectionIDs := []
  recoveryOnly := corrupt
  heartbeatDeadline := none

namespace Memory

/-- An operation ends in recovery-only mode with this journal. -/
def recovering (memory : Memory) (journal : RouteJournalV3) : Memory :=
  { memory with journal := some journal, recoveryOnly := true }

/-- The lease is gone: no journal, no owner, no recovery. -/
def cleared (memory : Memory) : Memory :=
  { memory with
    journal := none
    activeConnectionID := none
    heartbeatDeadline := none
    recoveryOnly := false }

end Memory

abbrev Operation := Helper (Memory × HelperReplyV3)

variable (rules : RouteRules)

/-- Delete one owned route.  The record marks the route first, so that a
helper that dies during the deletion knows what was in flight. -/
def deleteRoute (memory : Memory) (mutable : RouteJournalV3) (cidr : Text) :
    Helper (Except (Memory × HelperReplyV3) RouteJournalV3) := do
  let owner := mutable.owner
  let marked := { mutable with pendingCIDR := some cidr }
  if !(← Seam.persist marked) then
    return .error (memory.recovering marked,
      v3Reply marked (some .journalWriteFailed))
  let failed :=
    Except.error (memory.recovering marked,
      v3Reply marked (some .rollbackFailed))
  if !(← Seam.mutate .delete cidr marked) then
    return failed
  match ← Seam.inspect [cidr] owner.interfaceName
    owner.activeMihomoTunInterfaces with
  | none => return failed
  | some postflight =>
    match postflight.lookup cidr with
    | none => return failed
    | some entry =>
      if entry.ownedExact || entry.foreignConflict then
        return failed
      return .ok marked

/-- One turn of the rollback loop. -/
def retireRoute (memory : Memory) (mutable : RouteJournalV3) (cidr : Text) :
    Helper (Except (Memory × HelperReplyV3) RouteJournalV3) := do
  let owner := mutable.owner
  let failed :=
    Except.error (memory.recovering mutable,
      v3Reply mutable (some .rollbackFailed))
  match ← Seam.inspect [cidr] owner.interfaceName
    owner.activeMihomoTunInterfaces with
  | none => return failed
  | some inspections =>
    match inspections.lookup cidr with
    | none => return failed
    | some inspection =>
      if inspection.foreignConflict then
        return failed
      let deleted ←
        if inspection.ownedExact then deleteRoute memory mutable cidr
        else pure (.ok mutable)
      match deleted with
      | .error reply => return .error reply
      | .ok mutable =>
        let removed :=
          { mutable with
            appliedCIDRs := mutable.appliedCIDRs.filter (· ≠ cidr)
            pendingCIDR := none }
        if ← Seam.persist removed then
          return .ok removed
        return .error (memory.recovering removed,
          v3Reply removed (some .journalWriteFailed))

def retireRoutes (memory : Memory) (mutable : RouteJournalV3) :
    List Text → Helper (Except (Memory × HelperReplyV3) RouteJournalV3)
  | [] => return .ok mutable
  | cidr :: rest => do
      match ← retireRoute memory mutable cidr with
      | .error reply => return .error reply
      | .ok mutable => retireRoutes memory mutable rest

/-- The routes to roll back, the latest first. -/
def RouteJournalV3.owned (journal : RouteJournalV3) : List Text :=
  match journal.pendingCIDR with
  | none => journal.appliedCIDRs.reverse
  | some cidr =>
    if journal.appliedCIDRs.contains cidr then
      journal.appliedCIDRs.reverse
    else
      (journal.appliedCIDRs ++ [cidr]).reverse

/-- The durable retirement record, written unless it is there already. -/
def persistRetirement (memory : Memory) (mutable : RouteJournalV3)
    (reference : LeaseReferenceV3) :
    Helper (Except (Memory × HelperReplyV3) RouteJournalV3) := do
  let failed :=
    Except.error (memory.recovering mutable,
      v3Reply mutable (some .journalWriteFailed))
  if mutable.state = .retirementPending then
    return if mutable.isValid rules then .ok mutable else failed
  match mutable.transitioned rules .retirementPending reference with
  | .error _ => return failed
  | .ok retirement =>
    if ← Seam.persist retirement then
      return if retirement.isValid rules then .ok retirement else failed
    return failed

/-- Release the broker's hold and remove the journal. -/
def releaseRetirement (memory : Memory) (retirement : RouteJournalV3)
    (reference : LeaseReferenceV3) : Operation := do
  if (← Seam.release reference) ≠ .released then
    return (memory.recovering retirement,
      v3Reply retirement (some .releaseFailed))
  let failed :=
    (memory.recovering retirement,
      v3Reply retirement (some .journalWriteFailed))
  match retirement.transitioned rules .released reference with
  | .error _ => return failed
  | .ok released =>
    if !(← Seam.persist released) then
      return failed
    if !(← Seam.remove reference) then
      return failed
    return (memory.cleared, v3Reply released none)

def retireLocked (memory : Memory) (reference : LeaseReferenceV3)
    (connectionID : ConnectionID) : Operation := do
  match memory.journal with
  | none => return (memory, .plain .idle none)
  | some current =>
    if memory.activeConnectionID ≠ some connectionID ∨
        current.reference ≠ reference then
      return (memory, v3OwnershipFailure)
    if current.state = .released then
      -- The release is proved; only the unlink was lost.
      if ← Seam.remove reference then
        return (memory.cleared, v3Reply current none)
      return ({ memory with recoveryOnly := true },
        v3Reply current (some .journalWriteFailed))
    match ← retireRoutes memory current current.owned with
    | .error reply => return reply
    | .ok mutable =>
      match ← persistRetirement rules memory mutable reference with
      | .error reply => return reply
      | .ok retirement =>
        releaseRetirement rules memory retirement reference

/-- At most one connection is registered. -/
def register (memory : Memory) (connectionID : ConnectionID) : Memory × Bool :=
  if memory.registeredConnectionIDs.isEmpty then
    ({ memory with registeredConnectionIDs := [connectionID] }, true)
  else
    (memory, false)

def discover (memory : Memory) (connectionID : ConnectionID) : HelperReplyV3 :=
  if connectionID ∉ memory.registeredConnectionIDs then
    v3OwnershipFailure
  else if memory.recoveryOnly then
    .plain .recoveryOnly none
  else if memory.journal.isSome || memory.activeConnectionID.isSome then
    .plain .failedClosed (some .recoveryRequired)
  else
    .plain .idle none

/-- What `begin` does with the broker's answer to the hold. -/
def settleHold (memory : Memory) (pending : RouteJournalV3)
    (reference : LeaseReferenceV3) : RouteBrokerV3Result → Operation
  | .held => do
      let failed :=
        (memory.recovering pending, v3Reply pending (some .journalWriteFailed))
      match pending.transitioned rules .held reference with
      | .error _ => return failed
      | .ok held =>
        if !(← Seam.persist held) then
          return failed
        let now ← Seam.now
        return ({ memory with
            journal := some held
            heartbeatDeadline := some (now + routeHelperV3HeartbeatExpiry) },
          v3Reply held none)
  | .rejected => do
      -- Only a definitive rejection may clear the pending record.
      if ← Seam.remove reference then
        return ({ memory with
            journal := none
            activeConnectionID := none
            heartbeatDeadline := none },
          .plain .failedClosed (some .brokerProtocolFailure))
      return (memory.recovering pending,
        v3Reply pending (some .journalWriteFailed))
  | _ =>
    -- An ambiguous answer may follow a hold that was granted.
    return (memory.recovering pending,
      v3Reply pending (some .brokerProtocolFailure))

def begin (memory : Memory) (owner : LeaseOwnerV3)
    (connectionID : ConnectionID) : Operation := do
  if connectionID ∉ memory.registeredConnectionIDs ∨ memory.recoveryOnly ∨
      memory.journal.isSome ∨ memory.activeConnectionID.isSome ∨
      !owner.isValid rules then
    return (memory, v3OwnershipFailure)
  let conflict :=
    (memory, HelperReplyV3.plain .failedClosed (some .routeConflict))
  match ← Seam.inspect owner.privateCIDRs owner.interfaceName
    owner.activeMihomoTunInterfaces with
  | none => return conflict
  | some inspections =>
    if !owner.privateCIDRs.all (fun cidr =>
        (inspections.lookup cidr).any (·.isAvailable)) then
      return conflict
    let pending := RouteJournalV3.holdPending owner
    if !(← Seam.persist pending) then
      return (memory, .plain .failedClosed (some .journalWriteFailed))
    let now ← Seam.now
    let memory :=
      { memory with
        journal := some pending
        activeConnectionID := some connectionID
        heartbeatDeadline := some (now + routeHelperV3HeartbeatExpiry) }
    settleHold rules memory pending owner.reference
      (← Seam.hold owner.reference)

/-- One turn of the loop of `apply`: mark, add, check and record a route. -/
def applyRoute (memory : Memory) (current : RouteJournalV3) (cidr : Text) :
    Helper (Except (Memory × HelperReplyV3) RouteJournalV3) := do
  let owner := current.owner
  let marked := { current with pendingCIDR := some cidr }
  let failed :=
    Except.error (memory.recovering marked,
      v3Reply marked (some .routeApplyFailed))
  if !(← Seam.persist marked) then
    return failed
  if !(← Seam.mutate .add cidr marked) then
    return failed
  match ← Seam.inspect [cidr] owner.interfaceName
    owner.activeMihomoTunInterfaces with
  | none => return failed
  | some postflight =>
    match postflight.lookup cidr with
    | none => return failed
    | some entry =>
      if !entry.ownedExact || entry.foreignConflict then
        return failed
      let recorded :=
        { marked with
          appliedCIDRs := marked.appliedCIDRs ++ [cidr]
          pendingCIDR := none }
      if ← Seam.persist recorded then
        return .ok recorded
      return .error (memory.recovering recorded,
        v3Reply recorded (some .journalWriteFailed))

def applyRoutes (memory : Memory) (current : RouteJournalV3) :
    List Text → Helper (Except (Memory × HelperReplyV3) RouteJournalV3)
  | [] => return .ok current
  | cidr :: rest => do
      if current.appliedCIDRs.contains cidr then
        applyRoutes memory current rest
      else
        match ← applyRoute memory current cidr with
        | .error reply => return .error reply
        | .ok current => applyRoutes memory current rest

def apply (memory : Memory) (reference : LeaseReferenceV3)
    (connectionID : ConnectionID) : Operation := do
  match memory.journal with
  | none => return (memory, v3OwnershipFailure)
  | some current =>
    if connectionID ∉ memory.registeredConnectionIDs ∨
        memory.activeConnectionID ≠ some connectionID ∨
        current.reference ≠ reference ∨
        (current.state ≠ .held ∧ current.state ≠ .applied) then
      return (memory, v3OwnershipFailure)
    if memory.recoveryOnly then
      return (memory, .plain .recoveryOnly none)
    if current.state = .applied then
      return (memory, v3Reply current none)
    match ← applyRoutes memory current current.owner.privateCIDRs with
    | .error reply => return reply
    | .ok current =>
      let failed :=
        (memory.recovering current, v3Reply current (some .journalWriteFailed))
      match current.transitioned rules .applied reference with
      | .error _ => return failed
      | .ok applied =>
        if !(← Seam.persist applied) then
          return failed
        return ({ memory with journal := some applied }, v3Reply applied none)

def rollback (memory : Memory) (reference : LeaseReferenceV3)
    (connectionID : ConnectionID) : Operation :=
  retireLocked rules memory reference connectionID

/-- The owner is compared with the journal's but not validated. -/
def recover (memory : Memory) (owner : LeaseOwnerV3)
    (connectionID : ConnectionID) : Operation :=
  match memory.journal with
  | none => return (memory, v3OwnershipFailure)
  | some journal =>
    if connectionID ∉ memory.registeredConnectionIDs ∨
        journal.owner ≠ .ofOwner owner ∨
        journal.reference ≠ owner.reference then
      return (memory, v3OwnershipFailure)
    else if memory.activeConnectionID = some connectionID then
      retireLocked rules memory owner.reference connectionID
    else if memory.recoveryOnly || memory.activeConnectionID.isNone then
      retireLocked rules { memory with activeConnectionID := some connectionID }
        owner.reference connectionID
    else
      return (memory, v3OwnershipFailure)

/-- A retirement that did not end in a clean release. -/
def HelperReplyV3.unreleased (reply : HelperReplyV3) : Bool :=
  reply.state ≠ .journal .released || reply.errorCode.isSome

/-- `recoveryID` stands for the fixed identity of the startup pass. -/
def reconcileStartup (memory : Memory) (recoveryID : ConnectionID) :
    Operation := do
  match memory.journal with
  | none =>
    return (memory,
      .plain (if memory.recoveryOnly then .recoveryOnly else .idle) none)
  | some journal =>
    let entered :=
      { memory with
        registeredConnectionIDs :=
          memory.registeredConnectionIDs.insert recoveryID
        activeConnectionID := some recoveryID }
    let (memory, reply) ← retireLocked rules entered journal.reference
      recoveryID
    let left :=
      { memory with
        registeredConnectionIDs :=
          memory.registeredConnectionIDs.filter (· ≠ recoveryID) }
    if reply.unreleased then
      return ({ left with
        recoveryOnly := true, activeConnectionID := none }, reply)
    return (left, reply)

def statusWithBrokerLocked (memory : Memory) (journal : RouteJournalV3) :
    Operation := do
  if memory.recoveryOnly then
    return (memory, .plain .recoveryOnly none)
  if journal.state = .released then
    return ({ memory with heartbeatDeadline := none }, v3Reply journal none)
  if (← Seam.status journal.reference) ≠ .held then
    return ({ memory with recoveryOnly := true },
      v3Reply journal (some .brokerStatusFailed))
  let now ← Seam.now
  return ({ memory with
      heartbeatDeadline := some (now + routeHelperV3HeartbeatExpiry) },
    v3Reply journal none)

def heartbeat (memory : Memory) (reference : LeaseReferenceV3)
    (connectionID : ConnectionID) : Operation :=
  match memory.journal with
  | none => return (memory, v3OwnershipFailure)
  | some journal =>
    if connectionID ∉ memory.registeredConnectionIDs ∨
        memory.activeConnectionID ≠ some connectionID ∨
        journal.reference ≠ reference then
      return (memory, v3OwnershipFailure)
    else
      statusWithBrokerLocked memory journal

/-- Unlike `heartbeat`, any registered connection may ask. -/
def status (memory : Memory) (reference : LeaseReferenceV3)
    (connectionID : ConnectionID) : Operation :=
  match memory.journal with
  | none => return (memory, v3OwnershipFailure)
  | some journal =>
    if connectionID ∉ memory.registeredConnectionIDs ∨
        journal.reference ≠ reference then
      return (memory, v3OwnershipFailure)
    else
      statusWithBrokerLocked memory journal

def invalidate (memory : Memory) (connectionID : ConnectionID) : Operation :=
  if connectionID ∉ memory.registeredConnectionIDs then
    return (memory, v3OwnershipFailure)
  else
    let memory :=
      { memory with
        registeredConnectionIDs :=
          memory.registeredConnectionIDs.filter (· ≠ connectionID) }
    match memory.journal with
    | none => return (memory, .plain .idle none)
    | some journal =>
      if memory.activeConnectionID = some connectionID then
        retireLocked rules memory journal.reference connectionID
      else
        return (memory, .plain .idle none)

/-- The states in which the watchdog retires a lease. -/
def RouteJournalStateV3.watched : RouteJournalStateV3 → Bool
  | .holdPending => true
  | .held => true
  | .applied => true
  | .retirementPending => false
  | .released => false

def heartbeatWatchdogTick (memory : Memory) : Helper Memory := do
  match memory.journal, memory.activeConnectionID with
  | some journal, some connectionID =>
    if !journal.state.watched then
      return memory
    let now ← Seam.now
    if memory.heartbeatDeadline.all (· ≤ now) then
      let (memory, reply) ← retireLocked rules memory journal.reference
        connectionID
      return if reply.unreleased then { memory with recoveryOnly := true }
        else memory
    return memory
  | _, _ => return memory

end KyClash.RouteHelper
