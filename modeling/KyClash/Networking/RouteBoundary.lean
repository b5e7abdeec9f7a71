import KyClash.Networking.RouteHelperClient
import KyClash.Networking.RouteSession
import KyClash.Production.ServiceGate
import KyClash.Profile.Validation

/-!
# The production route boundary

`DeferredV3ProductionRouteBoundary` of `networking/broker_bound_route_v3.rs`,
with the session `BrokerBoundRouteHelperV3` that it keeps for the operation in
progress.  Its methods are programs over the calls of the route-helper client.
The boundary is borrowed by a method until it returns.

The checks that the client repeats before it sends a request are not
modelled: any call may fail without being sent.
-/

namespace KyClash.Networking

open Program
open Production (ControllerStartReceipt ProductionRouteDisposition)
open Profile (NetworkProfile)
open RouteHelper (LeaseReferenceV3)

inductive ClientRequest where
  | discover
  | begin (owner : RouteLeaseOwnerV3)
  | apply (reference : RouteLeaseReferenceV3)
  | heartbeat (reference : RouteLeaseReferenceV3)
  | rollback (reference : RouteLeaseReferenceV3)
  deriving DecidableEq, Repr

namespace ClientRequest

/-- The reference that the reply has to name. -/
def expected : ClientRequest → Option RouteLeaseReferenceV3
  | .discover => none
  | .begin owner => some (.fromOwner owner)
  | .apply reference => some reference
  | .heartbeat reference => some reference
  | .rollback reference => some reference

def allowIdleWithoutReference : ClientRequest → Bool
  | .rollback _ => true
  | _ => false

end ClientRequest

/-- `connect` is `RouteHelperV3Client::connect`. -/
inductive ClientCall where
  | connect
  | send (request : ClientRequest)
  deriving DecidableEq, Repr

abbrev ClientCall.Res : ClientCall → Type
  | .connect => Except NetworkErrorCode Unit
  | .send _ => Except NetworkErrorCode RouteHelperV3Status

abbrev Client (α : Type) := Prog ClientCall ClientCall.Res α

/-- `BrokerBoundRouteHelperV3`, apart from its client. -/
structure BrokerBoundRouteHelperV3 where
  authorization : BrokerRouteAuthorization
  owner : RouteLeaseOwnerV3
  reference : RouteLeaseReferenceV3
  deriving DecidableEq, Repr

namespace BrokerBoundRouteHelperV3

def new (authorization : BrokerRouteAuthorization) (profileRevision : UInt64)
    (activeMihomoTunInterfaces privateCidrs : List Utf8) :
    Except NetworkErrorCode BrokerBoundRouteHelperV3 := do
  let owner := ownerFromAuthorization authorization profileRevision
    activeMihomoTunInterfaces privateCidrs
  networkChecked owner.validate
  let reference := RouteLeaseReferenceV3.fromOwner owner
  networkChecked reference.validate
  return ⟨authorization, owner, reference⟩

def validateAuthority (session : BrokerBoundRouteHelperV3) :
    Except NetworkErrorCode Unit := do
  networkChecked session.owner.validate
  if session.owner.binding ≠ session.authorization.binding ∨
      session.owner.tunnel ≠ session.authorization.tunnel then
    throw .authenticationFailed
  networkChecked (session.reference.matchesOwner session.owner)

/-- Every request checks the authority of the session first. -/
def request (session : BrokerBoundRouteHelperV3) (request : ClientRequest) :
    Client (Except NetworkErrorCode RouteHelperV3Status) :=
  match session.validateAuthority with
  | .error error => return .error error
  | .ok () => Prog.perform (ClientCall.send request)

def discover (session : BrokerBoundRouteHelperV3) :
    Client (Except NetworkErrorCode RouteHelperV3Status) :=
  session.request .discover

def begin (session : BrokerBoundRouteHelperV3) :
    Client (Except NetworkErrorCode RouteHelperV3Status) :=
  session.request (.begin session.owner)

def apply (session : BrokerBoundRouteHelperV3) :
    Client (Except NetworkErrorCode RouteHelperV3Status) :=
  session.request (.apply session.reference)

def heartbeat (session : BrokerBoundRouteHelperV3) :
    Client (Except NetworkErrorCode RouteHelperV3Status) :=
  session.request (.heartbeat session.reference)

def rollback (session : BrokerBoundRouteHelperV3) :
    Client (Except NetworkErrorCode RouteHelperV3Status) :=
  session.request (.rollback session.reference)

end BrokerBoundRouteHelperV3

/-- `MihomoTunSnapshot::validate_for`, on the interfaces of the snapshot. -/
def validateMihomoFor (interfaces : List Utf8) (kyclashInterface : Utf8) :
    Except NetworkErrorCode Unit :=
  if !Ipc.validUtunInterface kyclashInterface ||
      maxMihomoTunInterfaces < interfaces.length ||
      !(interfaces.zip interfaces.tail).all (fun (left, right) =>
        left < right) ||
      !interfaces.all Ipc.validUtunInterface then
    .error .invalidConfiguration
  else if interfaces.contains kyclashInterface then
    .error .routeConflict
  else
    .ok ()

def authorizeRoutes (receipt : ControllerStartReceipt)
    (tunnel : TunnelDeviceFacts) (leaseId operationId : Utf8) :
    Except NetworkErrorCode BrokerRouteAuthorization := do
  if !receipt.brokerReference.isValid then
    throw .unsupportedProtocolVersion
  if receipt.brokerReference.protocolVersion ≠ routeBrokerProtocolVersion then
    throw .unsupportedProtocolVersion
  let binding : RouteLeaseBinding := {
    brokerProtocolVersion := receipt.brokerReference.protocolVersion
    brokerGeneration := receipt.brokerReference.generation
    sidecarInstanceId := receipt.brokerReference.sidecarInstanceID
    leaseId, operationId }
  networkChecked binding.validate
  tunnel.validate binding.sidecarInstanceId
    (binding.operationId ++ prepareSuffix)
  return ⟨receipt.runtimeGeneration, binding, tunnel⟩

/-! ## The boundary -/

/-- `DeferredV3ProductionRouteBoundary`, without what only its retirement
receipt uses. -/
structure DeferredV3ProductionRouteBoundary where
  active : Option BrokerBoundRouteHelperV3
  activeOperationId : Option Utf8
  recoveryRequired : Bool
  retired : Bool
  deriving DecidableEq, Repr

abbrev BoundaryCall :=
    Client (DeferredV3ProductionRouteBoundary × Except NetworkErrorCode Unit)

/-- What an application asks routes for. -/
structure RouteDemand where
  profile : NetworkProfile
  operationId : Utf8
  tunnel : TunnelDeviceFacts
  profileRevision : UInt64
  mihomoInterfaces : List Utf8
  receipt : ControllerStartReceipt
  deriving DecidableEq, Repr

namespace DeferredV3ProductionRouteBoundary

def new : DeferredV3ProductionRouteBoundary where
  active := none
  activeOperationId := none
  recoveryRequired := false
  retired := false

variable (boundary : DeferredV3ProductionRouteBoundary)

def disposition : ProductionRouteDisposition :=
  if boundary.retired then .retired
  else if boundary.recoveryRequired then .recoveryOnly
  else if boundary.active.isSome || boundary.activeOperationId.isSome then
    .busy
  else
    .reusable

/-- Fail with an error and ask for recovery. -/
def freeze (error : NetworkErrorCode) :
    DeferredV3ProductionRouteBoundary × Except NetworkErrorCode Unit :=
  ({ boundary with recoveryRequired := true }, .error error)

/-- The checks that every status passes first. -/
def statusError (status : RouteHelperV3Status) : Option NetworkErrorCode :=
  if status.protocolVersion ≠ routeHelperV3ProtocolVersion then
    some .unsupportedProtocolVersion
  else
    status.errorCode

def validateActiveStatus (session : BrokerBoundRouteHelperV3)
    (status : RouteHelperV3Status) (expected : RouteHelperV3State)
    (expectedTransition : UInt64) : Except NetworkErrorCode Unit :=
  match statusError status with
  | some error => .error error
  | none =>
    if status.state ≠ expected ∨ status.reference ≠ some session.reference ∨
        status.transition ≠ expectedTransition then
      .error .authenticationFailed
    else
      .ok ()

def validateDiscoverStatus (status : RouteHelperV3Status) :
    Except NetworkErrorCode Unit :=
  match statusError status with
  | some error => .error error
  | none =>
    if status.state ≠ .idle ∨ status.reference.isSome ∨
        status.transition ≠ 0 then
      .error .invalidStateTransition
    else
      .ok ()

def validateRollbackStatus (session : BrokerBoundRouteHelperV3)
    (status : RouteHelperV3Status) : Except NetworkErrorCode Unit :=
  match statusError status with
  | some error => .error error
  | none =>
    if (status.state = .released ∧ status.reference = some session.reference ∧
          0 < status.transition) ∨
        (status.state = .idle ∧ status.reference = none ∧
          status.transition = 0) then
      .ok ()
    else
      .error .authenticationFailed

/-- `apply_broker_bound` behind the reply to `begin`. -/
def applyHeld (session : BrokerBoundRouteHelperV3) : BoundaryCall := do
  match ← session.apply with
  | .error error => return boundary.freeze error
  | .ok applied =>
    match validateActiveStatus session applied .applied 3 with
    | .error error => return boundary.freeze error
    | .ok () => return ({ boundary with recoveryRequired := false }, .ok ())

/-- `apply_broker_bound` behind the reply to `discover`. -/
def beginAndApply (session : BrokerBoundRouteHelperV3) : BoundaryCall := do
  match ← session.begin with
  | .error error => return boundary.freeze error
  | .ok begun =>
    match validateActiveStatus session begun .held 2 with
    | .error error => return boundary.freeze error
    | .ok () => boundary.applyHeld session

/-- `apply_broker_bound` with its session in place. -/
def establish (session : BrokerBoundRouteHelperV3) : BoundaryCall := do
  match ← session.discover with
  | .error error => return boundary.freeze error
  | .ok discovered =>
    match validateDiscoverStatus discovered with
    | .error error => return boundary.freeze error
    | .ok () => boundary.beginAndApply session

/-- The checks of `apply_broker_bound` before it opens a connection. -/
def authorize (libraries : Profile.Libraries) (demand : RouteDemand) :
    Except NetworkErrorCode BrokerRouteAuthorization := do
  if boundary.retired then
    throw .invalidStateTransition
  if boundary.active.isSome ∨ boundary.activeOperationId.isSome ∨
      boundary.recoveryRequired then
    throw .invalidStateTransition
  demand.profile.validate libraries
  validateMihomoFor demand.mihomoInterfaces demand.tunnel.interfaceName
  authorizeRoutes demand.receipt demand.tunnel demand.operationId
    demand.operationId

/-- `apply_broker_bound`.  The client is connected before the session is
built. -/
def applyBrokerBound (libraries : Profile.Libraries) (demand : RouteDemand) :
    BoundaryCall := do
  match boundary.authorize libraries demand with
  | .error error => return (boundary, .error error)
  | .ok authorization =>
    match ← Prog.perform ClientCall.connect with
    | .error error => return (boundary, .error error)
    | .ok () =>
      match BrokerBoundRouteHelperV3.new authorization
          demand.profileRevision demand.mihomoInterfaces
          demand.profile.privateCidrs with
      | .error error => return (boundary, .error error)
      | .ok session =>
        establish { boundary with
          activeOperationId := some demand.operationId
          active := some session } session

def heartbeat (operationId : Utf8) : BoundaryCall := do
  if boundary.retired then
    return (boundary, .error .invalidStateTransition)
  if boundary.activeOperationId ≠ some operationId then
    return (boundary, .error .invalidStateTransition)
  match boundary.active with
  | none => return boundary.freeze .invalidStateTransition
  | some session =>
    match ← session.heartbeat with
    | .error error => return boundary.freeze error
    | .ok status =>
      match validateActiveStatus session status .applied 3 with
      | .error error => return boundary.freeze error
      | .ok () => return (boundary, .ok ())

/-- `rollback` behind the reply of the helper. -/
def settleRollback (session : BrokerBoundRouteHelperV3) :
    Except NetworkErrorCode RouteHelperV3Status →
      DeferredV3ProductionRouteBoundary × Except NetworkErrorCode Unit
  | .error error => boundary.freeze error
  | .ok status =>
    match validateRollbackStatus session status with
    | .error error => boundary.freeze error
    | .ok () =>
      ({ boundary with
        active := none
        activeOperationId := none
        recoveryRequired := false }, .ok ())

def rollback (operationId : Utf8) : BoundaryCall := do
  if boundary.retired then
    return (boundary, .error .invalidStateTransition)
  match boundary.activeOperationId with
  | none =>
    if boundary.active.isNone then
      return (boundary, .ok ())
    else
      return boundary.freeze .invalidStateTransition
  | some activeOperationId =>
    if activeOperationId ≠ operationId then
      return (boundary, .error .invalidStateTransition)
    match boundary.active with
    | none => return boundary.freeze .invalidStateTransition
    | some session =>
      let reply ← session.rollback
      return boundary.settleRollback session reply

/-- `try_retire`, without its receipt. -/
def tryRetire : DeferredV3ProductionRouteBoundary :=
  if boundary.disposition = .reusable then { boundary with retired := true }
  else boundary

/-- `drop`; what the rollback returns is ignored.  The application goes on
with a new boundary. -/
def drop : BoundaryCall := do
  if boundary.retired then
    return (new, .ok ())
  match boundary.active with
  | none => return (new, .ok ())
  | some session =>
    let _ ← session.rollback
    return (new, .ok ())

theorem settleRollback_ok_iff (session : BrokerBoundRouteHelperV3)
    (live : boundary.retired = false)
    (reply : Except NetworkErrorCode RouteHelperV3Status) :
    ((boundary.settleRollback session reply).2 = .ok () ∧
        (boundary.settleRollback session reply).1.disposition = .reusable) ↔
      ∃ status, reply = .ok status ∧
        validateRollbackStatus session status = .ok () := by
  cases reply with
  | error error => simp [settleRollback, freeze]
  | ok status =>
    cases checked : validateRollbackStatus session status with
    | error error => simp [settleRollback, freeze, checked]
    | ok passed => simp [settleRollback, checked, disposition, live]

end DeferredV3ProductionRouteBoundary

end KyClash.Networking
