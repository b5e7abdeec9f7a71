import KyClash.RouteHelper.Coordinator
import KyClash.RouteHelper.V2.Journal

/-!
# The v2 route coordinator

The operations of `RouteCoordinator` as programs over its seams: the route
executor, the journal file and the clock.  An operation holds the lock from
start to end, so it threads the memory of the process and can only be cut
short by the end of the process.
-/

namespace KyClash.RouteHelper.V2

open Program
open TunnelBroker (ConnectionID Date)

inductive Act where
  | inspect (cidrs : List Text) (interfaceName : Text)
      (trustedMihomoInterfaces : List Text)
  /-- The lease is not an argument of the command; it says for whom the
  route is changed. -/
  | mutate (action : RouteMutation) (cidr interfaceName : Text)
      (lease : Lease)
  | persist (content : Content)
  | removeJournal
  | now
  deriving DecidableEq, Repr

/-- An inspection returns a dictionary, or nothing when it fails. -/
abbrev Act.Res : Act → Type
  | .inspect _ _ _ => Option (List (Text × RouteInspection))
  | .mutate _ _ _ _ => Bool
  | .persist _ => Bool
  | .removeJournal => Bool
  | .now => Date

abbrev Helper (α : Type) := Prog Act Act.Res α

namespace Seam

def inspect (cidrs : List Text) (interfaceName : Text)
    (trustedMihomoInterfaces : List Text) :
    Helper (Option (List (Text × RouteInspection))) :=
  Prog.perform (Act.inspect cidrs interfaceName trustedMihomoInterfaces)

def mutate (action : RouteMutation) (cidr interfaceName : Text)
    (lease : Lease) : Helper Bool :=
  Prog.perform (Act.mutate action cidr interfaceName lease)

def persist (content : Content) : Helper Bool :=
  Prog.perform (Act.persist content)

def removeJournal : Helper Bool :=
  Prog.perform Act.removeJournal

def now : Helper Date :=
  Prog.perform Act.now

end Seam

inductive ReplyState where
  | idle
  | prepared
  | applied
  | failedClosed
  deriving DecidableEq, Repr

inductive ReplyError where
  | notReady
  | journalCorrupt
  | recoveryRequired
  | invalidOwner
  | routeConflict
  | journalWriteFailed
  | routeApplyFailed
  | rollbackFailed
  | ownershipMismatch
  deriving DecidableEq, Repr

structure HelperReply where
  state : ReplyState
  errorCode : Option ReplyError
  deriving DecidableEq, Repr

namespace HelperReply

def success (state : ReplyState) : HelperReply :=
  ⟨state, none⟩

def failure (errorCode : ReplyError) : HelperReply :=
  ⟨.failedClosed, some errorCode⟩

end HelperReply

def ownershipFailure : HelperReply :=
  .failure .ownershipMismatch

/-- Seconds after which a lease without a heartbeat expires. -/
def heartbeatExpiry : Date := 15

/-- The fields of the coordinator.  `heartbeatDeadline` is `none` for the
distant past. -/
structure Memory where
  journal : Option RouteJournal
  legacyJournal : Option LegacyRouteJournal
  journalCorrupt : Bool
  lastCompletedReference : Option LeaseReference
  registeredConnectionIDs : List ConnectionID
  activeConnectionID : Option ConnectionID
  lastCompletedConnectionID : Option ConnectionID
  heartbeatDeadline : Option Date
  deriving DecidableEq, Repr

namespace Memory

/-- The memory of a new process before it reads the journal. -/
def new : Memory where
  journal := none
  legacyJournal := none
  journalCorrupt := false
  lastCompletedReference := none
  registeredConnectionIDs := []
  activeConnectionID := none
  lastCompletedConnectionID := none
  heartbeatDeadline := none

def isRegistered (memory : Memory) (connectionID : ConnectionID) : Bool :=
  memory.registeredConnectionIDs.contains connectionID

def ownsConnection (memory : Memory) (connectionID : ConnectionID) : Bool :=
  memory.activeConnectionID = some connectionID

def valid (memory : Memory) (reference : LeaseReference) : Bool :=
  reference.isValid && memory.journal.any (fun journal =>
      reference.leaseID = journal.owner.leaseID &&
        reference.operationID = journal.owner.operationID)

/-- The memory after the journal of this lease was removed. -/
def completed (memory : Memory) (journal : RouteJournal) : Memory :=
  { memory with
    lastCompletedReference := some
      ⟨protocolVersion, journal.owner.leaseID, journal.owner.operationID⟩
    lastCompletedConnectionID := memory.activeConnectionID
    journal := none
    activeConnectionID := none
    heartbeatDeadline := none }

/-- The memory after the legacy journal was removed. -/
def completedLegacy (memory : Memory) : Memory :=
  { memory with
    legacyJournal := none
    activeConnectionID := none
    heartbeatDeadline := none }

end Memory

abbrev Operation := Helper (Memory × HelperReply)

variable (rules : RouteRules)

section Rollback

variable {Owner : Type} (schema : Schema Owner)

def inspectRoute (journal : Journal Owner) (cidr : Text) :
    Helper (Option RouteInspection) := do
  match ← Seam.inspect [cidr] (schema.interfaceName journal.owner)
      (schema.trustedMihomoInterfaces journal.owner) with
  | none => return none
  | some inspections => return inspections.lookup cidr

/-- The mark is cleared once the route is seen to be gone. -/
def clearMark (pendingState : Journal Owner) (cidr : Text) :
    Helper (Journal Owner × Bool) := do
  match ← inspectRoute schema pendingState cidr with
  | none => return (pendingState, false)
  | some afterDelete =>
    if afterDelete.ownedExact || afterDelete.foreignConflict then
      return (pendingState, false)
    if ← Seam.persist (schema.content pendingState.settled) then
      return (pendingState.settled, true)
    return (pendingState, false)

/-- Delete the marked route.  The decision is made on a table that is read
after the mark was written. -/
def deleteMarked (pendingState : Journal Owner) (cidr : Text) :
    Helper (Journal Owner × Bool) := do
  match ← inspectRoute schema pendingState cidr with
  | none => return (pendingState, false)
  | some inspection =>
    if !inspection.ownedExact && inspection.foreignConflict then
      return (pendingState, false)
    if inspection.ownedExact then
      if ← Seam.mutate .delete cidr (schema.interfaceName pendingState.owner)
          (schema.lease pendingState.owner) then
        clearMark schema pendingState cidr
      else return (pendingState, false)
    else clearMark schema pendingState cidr

/-- One turn of the rollback loop, with the journal that stays in memory and
whether the loop goes on. -/
def deleteRoute (current : Journal Owner) (cidr : Text) :
    Helper (Journal Owner × Bool) := do
  let pendingState := current.deleting cidr
  if !(schema.content pendingState).isValid rules then
    return (current, false)
  if ← Seam.persist (schema.content pendingState) then
    deleteMarked schema pendingState cidr
  else return (current, false)

def deleteRoutes (current : Journal Owner) :
    List Text → Helper (Journal Owner × Bool)
  | [] => return (current, true)
  | cidr :: rest => do
      let (current, deleted) ← deleteRoute rules schema current cidr
      if deleted then deleteRoutes current rest
      else return (current, false)

/-- Roll back a journal of either schema, with the journal that stays in
memory and whether the file is gone. -/
def rollbackJournal (current : Journal Owner) (owned : List Text) :
    Helper (Journal Owner × Bool) := do
  match ← Seam.inspect owned (schema.interfaceName current.owner)
      (schema.trustedMihomoInterfaces current.owner) with
  | none => return (current, false)
  | some inspections =>
    if !owned.all (fun cidr => (inspections.lookup cidr).isSome) then
      return (current, false)
    let (current, deleted) ← deleteRoutes rules schema current owned.reverse
    if !deleted then
      return (current, false)
    return (current, ← Seam.removeJournal)

end Rollback

def rollbackLocked (memory : Memory) : Helper (Memory × Bool) := do
  match memory.journal with
  | none => return (memory, true)
  | some current =>
    if !RouteJournal.isValid rules current then
      return ({ memory with journalCorrupt := true }, false)
    let (current, removed) ← rollbackJournal rules routeSchema current
      current.owned
    if removed then
      return (memory.completed current, true)
    return ({ memory with journal := some current }, false)

def rollbackLegacyLocked (memory : Memory) : Helper (Memory × Bool) := do
  match memory.legacyJournal with
  | none => return (memory, true)
  | some current =>
    if !LegacyRouteJournal.isValid rules current then
      return ({ memory with journalCorrupt := true }, false)
    let (current, removed) ← rollbackJournal rules legacySchema current
      current.owned.eraseDups
    if removed then
      return (memory.completedLegacy, true)
    return ({ memory with legacyJournal := some current }, false)

def ignoringResult (rollback : Helper (Memory × Bool)) : Helper Memory := do
  return (← rollback).1

/-- Whether the connection is new. -/
def register (memory : Memory) (connectionID : ConnectionID) : Memory × Bool :=
  if memory.isRegistered connectionID then (memory, false)
  else
    ({ memory with
        registeredConnectionIDs :=
          connectionID :: memory.registeredConnectionIDs }, true)

def discover (memory : Memory) (connectionID : ConnectionID) : HelperReply :=
  if !memory.isRegistered connectionID then ownershipFailure
  else if memory.registeredConnectionIDs.length ≠ 1 then .failure .notReady
  else if memory.journalCorrupt then .failure .journalCorrupt
  else if memory.legacyJournal.isSome then .failure .recoveryRequired
  else if memory.journal.isSome || memory.activeConnectionID.isSome then
    .failure .recoveryRequired
  else .success .idle

/-- Every one of these routes was inspected and is free. -/
def allAvailable (cidrs : List Text)
    (inspections : List (Text × RouteInspection)) : Bool :=
  cidrs.all fun cidr => (inspections.lookup cidr).any (·.isAvailable)

def begin (memory : Memory) (owner : LeaseOwner) (connectionID : ConnectionID) :
    Operation := do
  if !memory.isRegistered connectionID then
    return (memory, ownershipFailure)
  if memory.journalCorrupt || memory.legacyJournal.isSome ||
      memory.activeConnectionID.isSome || !owner.isValid rules ||
      memory.journal.isSome then
    return (memory,
      .failure (if memory.legacyJournal.isSome then .recoveryRequired
        else .invalidOwner))
  match ← Seam.inspect owner.privateCIDRs owner.interfaceName
    owner.activeMihomoTunInterfaces with
  | none => return (memory, .failure .routeConflict)
  | some inspections =>
    if !allAvailable owner.privateCIDRs inspections then
      return (memory, .failure .routeConflict)
    let candidate : RouteJournal := ⟨protocolVersion, .ofOwner owner, none, []⟩
    if !(← Seam.persist (.route candidate)) then
      return (memory, .failure .journalWriteFailed)
    let date ← Seam.now
    return ({ memory with
        journal := some candidate
        activeConnectionID := some connectionID
        lastCompletedReference := none
        lastCompletedConnectionID := none
        heartbeatDeadline := some (date + heartbeatExpiry) },
      .success .prepared)

/-- The loop of `apply`.  When it stops, it gives the journal in memory and
the error to report if the rollback succeeds. -/
def applyRoutes (current : RouteJournal) :
    List Text → Helper (Except (RouteJournal × ReplyError) RouteJournal)
  | [] => return .ok current
  | cidr :: rest => do
      if current.appliedCIDRs.contains cidr then
        applyRoutes current rest
      else
        let marked := current.adding cidr
        if !(← Seam.persist (.route marked)) then
          return .error (current, .journalWriteFailed)
        if !(← Seam.mutate .add cidr marked.owner.interfaceName
            (routeSchema.lease marked.owner)) then
          return .error (marked, .routeApplyFailed)
        let recorded := marked.added cidr
        if !(← Seam.persist (.route recorded)) then
          return .error (recorded, .journalWriteFailed)
        applyRoutes recorded rest

/-- A failed `apply` rolls the lease back before it answers. -/
def abortApply (memory : Memory) (errorCode : ReplyError) : Operation := do
  let (memory, cleaned) ← rollbackLocked rules memory
  return (memory, .failure (if cleaned then errorCode else .rollbackFailed))

/-- Whether the routes that are still to be added are free.  Nothing is
inspected when there is none. -/
def preflight (current : RouteJournal) : Helper Bool := do
  let remaining := current.owner.privateCIDRs.filter fun cidr =>
    !current.appliedCIDRs.contains cidr
  if remaining.isEmpty then
    return true
  match ← Seam.inspect remaining current.owner.interfaceName
      current.owner.activeMihomoTunInterfaces with
  | none => return false
  | some inspections => return allAvailable remaining inspections

/-- Whether every route of the owner is in place. -/
def postflight (current : RouteJournal) : Helper Bool := do
  match ← Seam.inspect current.owner.privateCIDRs current.owner.interfaceName
      current.owner.activeMihomoTunInterfaces with
  | none => return false
  | some inspections =>
    return current.owner.privateCIDRs.all fun cidr =>
      (inspections.lookup cidr).any fun inspection =>
        inspection.ownedExact && !inspection.foreignConflict

def apply (memory : Memory) (reference : LeaseReference)
    (connectionID : ConnectionID) : Operation := do
  if !memory.isRegistered connectionID ||
      !memory.ownsConnection connectionID || !memory.valid reference then
    return (memory, ownershipFailure)
  match memory.journal with
  | none => return (memory, ownershipFailure)
  | some current =>
    if !(← preflight current) then
      abortApply rules memory .routeConflict
    else
      match ← applyRoutes current current.owner.privateCIDRs with
      | .error (journal, errorCode) =>
        abortApply rules { memory with journal := some journal } errorCode
      | .ok current =>
        let memory := { memory with journal := some current }
        if ← postflight current then
          return (memory, .success .applied)
        abortApply rules memory .routeConflict

def rollback (memory : Memory) (reference : LeaseReference)
    (connectionID : ConnectionID) : Operation := do
  if !memory.isRegistered connectionID then
    return (memory, ownershipFailure)
  if memory.journal = none ∧ memory.lastCompletedConnectionID =
      some connectionID ∧
      memory.lastCompletedReference = some reference then
    return (memory, .success .idle)
  if !memory.ownsConnection connectionID || !memory.valid reference then
    return (memory, ownershipFailure)
  let (memory, rolledBack) ← rollbackLocked rules memory
  return (memory,
    if rolledBack then .success .idle else .failure .rollbackFailed)

def statusLocked (memory : Memory) : Helper HelperReply := do
  match memory.journal with
  | none => return .success .idle
  | some journal =>
    if !RouteJournal.isValid rules journal then
      return .failure .recoveryRequired
    match ← Seam.inspect journal.owner.privateCIDRs journal.owner.interfaceName
        journal.owner.activeMihomoTunInterfaces with
    | none => return .failure .recoveryRequired
    | some inspections =>
      let allRoutesOwned := journal.owner.privateCIDRs.all fun cidr =>
        (inspections.lookup cidr).any fun inspection =>
          !inspection.foreignConflict &&
            inspection.ownedExact = journal.appliedCIDRs.contains cidr
      if !allRoutesOwned then
        return .failure .recoveryRequired
      let complete :=
        journal.pendingCIDR.isNone && journal.appliedCIDRs.eraseDups.length =
          journal.owner.privateCIDRs.length
      return .success (if complete then .applied else .prepared)

def recover (memory : Memory) (owner : LeaseOwner)
    (connectionID : ConnectionID) : Operation := do
  if !memory.isRegistered connectionID then
    return (memory, ownershipFailure)
  if memory.legacyJournal.isSome then
    return (memory, .failure .recoveryRequired)
  if memory.journalCorrupt || !memory.ownsConnection connectionID ||
      !owner.isValid rules ||
      !memory.journal.any (fun journal =>
        journal.owner = .ofOwner owner &&
          RouteJournal.isValid rules journal) then
    return (memory, ownershipFailure)
  let live ← statusLocked rules memory
  if live.errorCode.isSome then
    return (memory, live)
  let date ← Seam.now
  return ({ memory with
      activeConnectionID := some connectionID
      heartbeatDeadline := some (date + heartbeatExpiry) }, live)

def heartbeat (memory : Memory) (reference : LeaseReference)
    (connectionID : ConnectionID) : Operation := do
  if !memory.isRegistered connectionID then
    return (memory, ownershipFailure)
  if memory.legacyJournal.isSome then
    return (memory, .failure .recoveryRequired)
  if !memory.ownsConnection connectionID || !memory.valid reference then
    return (memory, ownershipFailure)
  let date ← Seam.now
  let memory :=
    { memory with heartbeatDeadline := some (date + heartbeatExpiry) }
  return (memory, ← statusLocked rules memory)

def status (memory : Memory) (reference : LeaseReference)
    (connectionID : ConnectionID) : Operation := do
  if !memory.isRegistered connectionID then
    return (memory, ownershipFailure)
  if memory.legacyJournal.isSome then
    return (memory, .failure .recoveryRequired)
  if memory.ownsConnection connectionID && memory.valid reference then
    return (memory, ← statusLocked rules memory)
  return (memory, ownershipFailure)

/-- The connection's own lease is rolled back before it leaves. -/
def rollbackOwned (memory : Memory) (connectionID : ConnectionID) :
    Helper (Memory × Bool) := do
  if memory.activeConnectionID = some connectionID then
    let (memory, rolledBack) ← rollbackLocked rules memory
    return (if rolledBack then { memory with activeConnectionID := none }
      else memory, rolledBack)
  else
    return (memory, true)

/-- The connection leaves the registered ones. -/
def Memory.unregistered (memory : Memory) (connectionID : ConnectionID) :
    Memory :=
  { memory with
    registeredConnectionIDs :=
      memory.registeredConnectionIDs.filter (· ≠ connectionID) }

def unregister (memory : Memory) (connectionID : ConnectionID) : Operation := do
  if !memory.isRegistered connectionID then
    return (memory, ownershipFailure)
  let (remaining, rolledBack) ← rollbackOwned rules memory connectionID
  return (remaining.unregistered connectionID,
    if !rolledBack then .failure .rollbackFailed
    else if remaining.journalCorrupt then .failure .journalCorrupt
    else if remaining.legacyJournal.isSome || remaining.journal.isSome ||
        remaining.activeConnectionID.isSome then
      .failure .recoveryRequired
    else .success .idle)

/-- The timer's handler. -/
def expireLease (memory : Memory) : Helper Memory := do
  let date ← Seam.now
  if memory.heartbeatDeadline.any (date ≤ ·) then
    return memory
  if memory.journal.isSome then
    ignoringResult (rollbackLocked rules memory)
  else if memory.legacyJournal.isSome then
    ignoringResult (rollbackLegacyLocked rules memory)
  else
    return { memory with activeConnectionID := none }

/-- What `readJournalData` finds. -/
inductive JournalRead where
  | absent
  | data (content : Content)
  | invalid
  deriving DecidableEq, Repr

/-- The memory once `init` has decoded the journal. -/
def Memory.loaded : JournalRead → Memory
  | .absent => .new
  | .data (.route journal) =>
    if RouteJournal.isValid rules journal then
      { Memory.new with journal := some journal }
    else { Memory.new with journalCorrupt := true }
  | .data (.legacy journal) =>
    if LegacyRouteJournal.isValid rules journal then
      { Memory.new with legacyJournal := some journal }
    else { Memory.new with journalCorrupt := true }
  | .data .undecodable => { Memory.new with journalCorrupt := true }
  | .invalid => { Memory.new with journalCorrupt := true }

/-- The reconciliation at the end of `init`, before any request. -/
def reconcile (memory : Memory) : Helper Memory := do
  let memory ←
    if memory.journal.isSome then
      ignoringResult (rollbackLocked rules memory)
    else pure memory
  if memory.legacyJournal.isSome then
    ignoringResult (rollbackLegacyLocked rules memory)
  else pure memory

end KyClash.RouteHelper.V2
