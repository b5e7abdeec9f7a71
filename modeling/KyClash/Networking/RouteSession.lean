import KyClash.Concurrency.Program
import KyClash.Networking.RouteRecord

/-!
# The broker-bound route session

`ProductionRouteV3Session` of `networking/production_route_v3.rs` as programs
over its three adapters: the durable journal, the broker and the routes.  A
call of the session borrows it, so nothing else happens to it until the call
returns; only the end of the process can cut a call short.
-/

namespace KyClash.Networking

open Program

structure BrokerRouteAuthorization where
  runtimeGeneration : UInt64
  binding : RouteLeaseBinding
  tunnel : TunnelDeviceFacts
  deriving DecidableEq, Repr

inductive BrokerRouteDisposition where
  | held
  | released
  deriving DecidableEq, Repr

structure BrokerRouteConfirmation where
  binding : RouteLeaseBinding
  disposition : BrokerRouteDisposition
  deriving DecidableEq, Repr

def BrokerRouteConfirmation.require (confirmation : BrokerRouteConfirmation)
    (expected : RouteLeaseBinding) (disposition : BrokerRouteDisposition) :
    Except RouteLeaseContractError Unit := do
  confirmation.binding.validate
  if confirmation.binding ≠ expected ∨ confirmation.disposition ≠
      disposition then
    .error .ownershipMismatch
  else .ok ()

structure RouteAbsenceProofV3 where
  reference : RouteLeaseReferenceV3
  deriving DecidableEq, Repr

def RouteAbsenceProofV3.require (proof : RouteAbsenceProofV3)
    (expected : RouteLeaseReferenceV3) :
    Except RouteLeaseContractError Unit := do
  proof.reference.validate
  if proof.reference ≠ expected then .error .ownershipMismatch
  else .ok ()

namespace RouteSession

inductive Act where
  | persistDurable (record : RouteLeaseJournalRecord)
  | holdExact (binding : RouteLeaseBinding)
  | releaseExact (binding : RouteLeaseBinding)
  | applyExact (owner : RouteLeaseOwnerV3)
  | rollbackAndProveAbsent (reference : RouteLeaseReferenceV3)
  deriving DecidableEq, Repr

abbrev Act.Res : Act → Type
  | .persistDurable _ => Except NetworkErrorCode Unit
  | .holdExact _ => Except NetworkErrorCode BrokerRouteConfirmation
  | .releaseExact _ => Except NetworkErrorCode BrokerRouteConfirmation
  | .applyExact _ => Except NetworkErrorCode Unit
  | .rollbackAndProveAbsent _ => Except NetworkErrorCode RouteAbsenceProofV3

inductive Error where
  | contract (error : RouteLeaseContractError)
  | journal (error : NetworkErrorCode)
  | broker (error : NetworkErrorCode)
  | routeApply (error : NetworkErrorCode)
  | routeRollback (error : NetworkErrorCode)
  deriving DecidableEq, Repr

end RouteSession

open RouteSession (Act Error)

structure ProductionRouteV3Session where
  authorization : BrokerRouteAuthorization
  owner : RouteLeaseOwnerV3
  reference : RouteLeaseReferenceV3
  record : Option RouteLeaseJournalRecord
  deriving DecidableEq, Repr

def ownerFromAuthorization (authorization : BrokerRouteAuthorization)
    (profileRevision : UInt64)
    (activeMihomoTunInterfaces privateCidrs : List Utf8) :
    RouteLeaseOwnerV3 where
  protocolVersion := routeHelperV3ProtocolVersion
  brokerProtocolVersion := authorization.binding.brokerProtocolVersion
  brokerGeneration := authorization.binding.brokerGeneration
  sidecarInstanceId := authorization.binding.sidecarInstanceId
  leaseId := authorization.binding.leaseId
  operationId := authorization.binding.operationId
  profileRevision := profileRevision
  tunnel := authorization.tunnel
  activeMihomoTunInterfaces := activeMihomoTunInterfaces
  privateCidrs := privateCidrs

def requireOwnerAuthority (owner : RouteLeaseOwnerV3)
    (authorization : BrokerRouteAuthorization) :
    Except RouteLeaseContractError Unit := do
  owner.validate
  if owner.binding ≠ authorization.binding ∨
      owner.tunnel ≠ authorization.tunnel then
    .error .ownershipMismatch
  else .ok ()

namespace ProductionRouteV3Session

def new (authorization : BrokerRouteAuthorization) (profileRevision : UInt64)
    (activeMihomoTunInterfaces privateCidrs : List Utf8) :
    Except RouteLeaseContractError ProductionRouteV3Session := do
  let owner := ownerFromAuthorization authorization profileRevision
    activeMihomoTunInterfaces privateCidrs
  owner.validate
  return ⟨authorization, owner, .fromOwner owner, none⟩

def resume (authorization : BrokerRouteAuthorization)
    (record : RouteLeaseJournalRecord) :
    Except RouteLeaseContractError ProductionRouteV3Session := do
  record.validate
  requireOwnerAuthority record.owner authorization
  return ⟨authorization, record.owner, .fromOwner record.owner, some record⟩

def journalState (session : ProductionRouteV3Session) :
    Option RouteLeaseJournalState :=
  session.record.map (·.state)

def permitsSidecarStop (session : ProductionRouteV3Session) : Bool :=
  session.journalState = none || session.journalState = some .released

def validateAuthority (session : ProductionRouteV3Session) :
    Except RouteLeaseContractError Unit := do
  requireOwnerAuthority session.owner session.authorization
  session.reference.matchesOwner session.owner

/-- A call of the session returns the session it leaves. -/
abbrev Call :=
  Prog Act Act.Res (ProductionRouteV3Session × Except Error Unit)

/-- The `?` after a call that changes the session. -/
def Call.andThen (call : Call) (next : ProductionRouteV3Session → Call) :
    Call := do
  match ← call with
  | (session, .error error) => return (session, .error error)
  | (session, .ok ()) => next session

def failing (session : ProductionRouteV3Session) (error : Error) : Call :=
  return (session, .error error)

def transitionDurable (session : ProductionRouteV3Session)
    (next : RouteLeaseJournalState) : Call := do
  match session.record with
  | none => session.failing (.contract .invalidStateTransition)
  | some current =>
    match current.advance next session.reference with
    | .error error => session.failing (.contract error)
    | .ok nextRecord =>
      match ← Prog.perform (Act.persistDurable nextRecord) with
      | .error error => session.failing (.journal error)
      | .ok () =>
        return ({ session with record := some nextRecord }, .ok ())

def release (session : ProductionRouteV3Session) : Call := do
  if session.journalState ≠ some .retirementPending then
    session.failing (.contract .invalidStateTransition)
  else
    match ← Prog.perform (Act.releaseExact session.authorization.binding) with
    | .error error => session.failing (.broker error)
    | .ok confirmation =>
      match confirmation.require session.authorization.binding .released with
      | .error error => session.failing (.contract error)
      | .ok () => session.transitionDurable .released

def rollbackThenRelease (session : ProductionRouteV3Session) : Call := do
  match ← Prog.perform (Act.rollbackAndProveAbsent session.reference) with
  | .error error => session.failing (.routeRollback error)
  | .ok proof =>
    match proof.require session.reference with
    | .error error => session.failing (.contract error)
    | .ok () => (session.transitionDurable .retirementPending).andThen release

/-- Clean up, then report the error that made it necessary. -/
def cleanUp (session : ProductionRouteV3Session) (error : Error) : Call :=
  session.rollbackThenRelease.andThen (·.failing error)

/-- The part of `connect` after the held record is durable. -/
def applyHeld (session : ProductionRouteV3Session) : Call := do
  match ← Prog.perform (Act.applyExact session.owner) with
  | .error error => session.cleanUp (.routeApply error)
  | .ok () =>
    match ← session.transitionDurable .applied with
    | (session, .error error) => session.cleanUp error
    | (session, .ok ()) => return (session, .ok ())

def connect (session : ProductionRouteV3Session) : Call := do
  if session.record.isSome then
    session.failing (.contract .replayDetected)
  else
    match session.validateAuthority with
    | .error error => session.failing (.contract error)
    | .ok () =>
      match RouteLeaseJournalRecord.newHoldPending session.owner with
      | .error error => session.failing (.contract error)
      | .ok pending =>
        match ← Prog.perform (Act.persistDurable pending) with
        | .error error => session.failing (.journal error)
        | .ok () => holdPending { session with record := some pending }
where
  /-- The part of `connect` after the pending record is durable. -/
  holdPending (session : ProductionRouteV3Session) : Call := do
    match ← Prog.perform (Act.holdExact session.authorization.binding) with
    | .error error => session.failing (.broker error)
    | .ok confirmation =>
      match confirmation.require session.authorization.binding .held with
      | .error error => session.failing (.contract error)
      | .ok () => (session.transitionDurable .held).andThen applyHeld

def disconnect (session : ProductionRouteV3Session) : Call :=
  match session.validateAuthority with
  | .error error => session.failing (.contract error)
  | .ok () =>
    match session.journalState with
    | some .held | some .applied => session.rollbackThenRelease
    | some .retirementPending => session.release
    | some .holdPending =>
      -- The hold may have been granted, but no route was asked for.
      (session.transitionDurable .retirementPending).andThen release
    | some .released => session.failing (.contract .replayDetected)
    | some .recoveryOnly => session.failing (.contract .recoveryOnly)
    | none => session.failing (.contract .invalidStateTransition)

end ProductionRouteV3Session

end KyClash.Networking
