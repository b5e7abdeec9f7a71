import Mathlib.Data.Finset.Basic
import KyClash.Production.Controller

/-!
# The mutation gate of the production service

`ProductionMutationGate` of `networking/production_service.rs`, with the
decisions that are taken while its lock is held: the admission of a
connection, of a mutation and of a route task, and the stages of a
retirement.

What a decision reads beside the gate stands in `Seen`.  These cells are
written by the bodies of the operations, which are not modelled: a reading of
them may give anything at any time.
-/

namespace KyClash.Production

open Sidecar (Text Health)

def counterMax : Nat := 2 ^ 64 - 1

inductive ProductionRouteDisposition where
  | reusable
  | busy
  | recoveryOnly
  | retired
  deriving DecidableEq, Repr

structure ProductionRouteRetirementReceipt where
  boundaryIncarnation : Nat
  nativeGeneration : Nat
  deriving DecidableEq, Repr

inductive ProductionRouteRetirementResult where
  | retired (receipt : ProductionRouteRetirementReceipt)
  | busy
  | recoveryOnly
  | alreadyRetired
  deriving DecidableEq, Repr

inductive ProductionServiceGateState where
  | opened
  | retiring
  | recoveryOnly
  | retired
  deriving DecidableEq, Repr

structure ProductionServiceRetirementReceipt where
  serviceGeneration : Nat
  route : ProductionRouteRetirementReceipt
  controller : ControllerRetirementReceipt
  deriving DecidableEq, Repr

inductive ProductionServiceRetirementResult where
  | retired (receipt : ProductionServiceRetirementReceipt)
  | busy
  | recoveryOnly
  | alreadyRetired
  deriving DecidableEq, Repr

/-- The one admission of a connection, held by its caller. -/
structure ProductionConnectReservation where
  generation : Nat
  reservationID : Nat
  deriving DecidableEq, Repr

structure ProductionMutationLease where
  generation : Nat
  deriving DecidableEq, Repr

structure RouteTaskLifecycle where
  generation : Nat
  id : Nat
  completed : Bool
  joined : Bool
  deriving DecidableEq, Repr

/-- The attempts to retire the controller are known by a number. -/
abbrev ProgressID := Nat

structure ProductionMutationGate where
  generation : Nat
  state : ProductionServiceGateState
  nextReservationID : Nat
  reservations : Finset Nat
  inFlightMutations : Nat
  nextRouteTaskID : Nat
  routeTasks : Finset Nat
  routeReceipt : Option ProductionRouteRetirementReceipt
  controllerRetirement : Option ProgressID

/-- The status, as far as the decisions read it. -/
structure ProductionNetworkStatus where
  state : NetworkState
  sidecarState : SidecarLifecycleState
  activeTransport : Option TransportKind
  health : Option Health
  operationID : Option Text
  deriving DecidableEq, Repr

/-- What is read of the cells beside the gate. -/
structure Seen where
  startConsumed : Bool
  activeOperation : Bool
  routeHeartbeat : Bool
  routesActive : Bool
  lifecycleFree : Bool
  status : ProductionNetworkStatus
  disposition : ProductionRouteDisposition
  deriving DecidableEq, Repr

/-- `valid_production_operation_id`; 45, 95 and 46 are `-`, `_` and `.`. -/
def validProductionOperationID (value : Text) : Bool :=
  (8 ≤ value.length && value.length ≤ 56) && value.all fun byte =>
    Sidecar.alphaNumeric byte || byte = 45 || byte = 95 || byte = 46

inductive ServiceRetirementPreflight where
  | ready
  | busy
  | recoveryOnly
  deriving DecidableEq, Repr

/-- An error state that owns nothing. -/
def ProductionNetworkStatus.terminalCandidate
    (status : ProductionNetworkStatus) : Bool :=
  status.state = .error && status.operationID.isNone &&
    status.activeTransport.isNone && status.health.isNone &&
    status.sidecarState = .stopped

def serviceRetirementPreflight (seen : Seen) : ServiceRetirementPreflight :=
  if seen.activeOperation || seen.routeHeartbeat || seen.routesActive ||
      !seen.lifecycleFree then
    .busy
  else if seen.status.state = .error && !seen.status.terminalCandidate then
    .recoveryOnly
  else if (seen.status.state ≠ .disconnected &&
      !seen.status.terminalCandidate) ||
      seen.status.operationID.isSome || seen.status.activeTransport.isSome ||
      seen.status.health.isSome then
    .busy
  else if seen.status.sidecarState ≠ .stopped then
    .recoveryOnly
  else
    match seen.disposition with
    | .reusable => .ready
    | .busy => .busy
    | .recoveryOnly => .recoveryOnly
    | .retired => .recoveryOnly

namespace ProductionMutationGate

def new (generation : Nat) : ProductionMutationGate where
  generation := generation
  state := .opened
  nextReservationID := 0
  reservations := ∅
  inFlightMutations := 0
  nextRouteTaskID := 0
  routeTasks := ∅
  routeReceipt := none
  controllerRetirement := none

variable (gate : ProductionMutationGate)

/-- A call that failed with `InvalidStateTransition`. -/
def refuse {α : Type} : ProductionMutationGate × Except NetworkErrorCode α :=
  (gate, .error .invalidStateTransition)

def issueReservation :
    ProductionMutationGate × Except NetworkErrorCode
      ProductionConnectReservation :=
  if gate.state ≠ .opened ∨ gate.reservations ≠ ∅ then
    gate.refuse
  else if gate.nextReservationID = counterMax then
    { gate with state := .recoveryOnly }.refuse
  else
    let id := gate.nextReservationID + 1
    ({ gate with
        nextReservationID := id
        reservations := insert id gate.reservations },
      .ok ⟨gate.generation, id⟩)

def release (reservation : ProductionConnectReservation) :
    ProductionMutationGate :=
  if gate.generation = reservation.generation then
    { gate with
      reservations := gate.reservations.erase reservation.reservationID }
  else
    gate

def consumeReservation (reservation : ProductionConnectReservation) :
    ProductionMutationGate × Except NetworkErrorCode Unit :=
  if gate.state ≠ .opened ∨ gate.generation ≠ reservation.generation then
    gate.refuse
  else if gate.inFlightMutations = counterMax then
    { gate with state := .recoveryOnly }.refuse
  else if reservation.reservationID ∉ gate.reservations then
    gate.refuse
  else
    ({ gate with
        reservations := gate.reservations.erase reservation.reservationID
        inFlightMutations := gate.inFlightMutations + 1 },
      .ok ())

def beginMutation : ProductionMutationGate × Except NetworkErrorCode Unit :=
  if gate.state ≠ .opened ∨ gate.reservations ≠ ∅ then
    gate.refuse
  else if gate.inFlightMutations = counterMax then
    { gate with state := .recoveryOnly }.refuse
  else
    ({ gate with inFlightMutations := gate.inFlightMutations + 1 }, .ok ())

/-- `ProductionMutationLease::drop`. -/
def endMutation (lease : ProductionMutationLease) : ProductionMutationGate :=
  if gate.generation = lease.generation ∧ 0 < gate.inFlightMutations then
    { gate with inFlightMutations := gate.inFlightMutations - 1 }
  else
    gate

def queueRouteTask : ProductionMutationGate × Except NetworkErrorCode Nat :=
  if gate.state ≠ .opened ∨ gate.reservations ≠ ∅ then
    gate.refuse
  else if gate.nextRouteTaskID = counterMax then
    { gate with state := .recoveryOnly }.refuse
  else
    let id := gate.nextRouteTaskID + 1
    ({ gate with
        nextRouteTaskID := id
        routeTasks := insert id gate.routeTasks },
      .ok id)

/-- The locked part of `RouteTaskLifecycle::finish_if_joined`. -/
def finishRouteTask (task : RouteTaskLifecycle) : ProductionMutationGate :=
  if gate.generation = task.generation then
    { gate with routeTasks := gate.routeTasks.erase task.id }
  else
    gate

def canRetire : Bool :=
  gate.reservations = ∅ && gate.inFlightMutations = 0 && gate.routeTasks = ∅

/-- `reserve_connect`, which holds the gate while it reads the rest. -/
def reserveConnect (brokerBound : Bool) (seen : Seen) :
    ProductionMutationGate × Except NetworkErrorCode
      ProductionConnectReservation :=
  if brokerBound && seen.startConsumed then
    gate.refuse
  else if gate.state ≠ .opened ∨ gate.reservations ≠ ∅ ∨
      gate.inFlightMutations ≠ 0 ∨ gate.routeTasks ≠ ∅ then
    gate.refuse
  else if seen.activeOperation || seen.routeHeartbeat || seen.routesActive then
    gate.refuse
  else if seen.status.state ≠ .disconnected ||
      seen.status.operationID.isSome || seen.status.activeTransport.isSome ||
      seen.status.health.isSome || seen.status.sidecarState ≠ .stopped then
    gate.refuse
  else if !seen.lifecycleFree then
    gate.refuse
  else if seen.disposition ≠ .reusable then
    gate.refuse
  else
    gate.issueReservation

/-- `connect_reserved` up to the lease.  A reservation that is not consumed is
released. -/
def connectReserved (operationID : Text)
    (reservation : ProductionConnectReservation) :
    ProductionMutationGate × Except NetworkErrorCode ProductionMutationLease :=
  if !validProductionOperationID operationID then
    (gate.release reservation, .error .invalidConfiguration)
  else
    match gate.consumeReservation reservation with
    | (gate, .error error) => (gate.release reservation, .error error)
    | (gate, .ok ()) => (gate, .ok ⟨reservation.generation⟩)

def acquireMutation :
    ProductionMutationGate × Except NetworkErrorCode ProductionMutationLease :=
  match gate.beginMutation with
  | (gate, .error error) => (gate, .error error)
  | (gate, .ok ()) => (gate, .ok ⟨gate.generation⟩)

/-- How a call of `try_retire` goes on behind its first look at the gate. -/
inductive Admission where
  | returns (result : ProductionServiceRetirementResult)
  | resume
  | needsRouteReceipt
  deriving DecidableEq, Repr

/-- The first part of `try_retire`.  `pending` tells that the attempt to
retire the controller has no result yet. -/
def beginRetirement (pending : Bool) : ProductionMutationGate × Admission :=
  match gate.state with
  | .retired => (gate, .returns .alreadyRetired)
  | .retiring =>
    if gate.routeReceipt.isNone || pending then
      (gate, .returns .busy)
    else
      (gate, .resume)
  | .recoveryOnly =>
    if gate.routeReceipt.isNone then
      (gate, .returns .recoveryOnly)
    else if pending then
      (gate, .returns .busy)
    else
      ({ gate with state := .retiring }, .resume)
  | .opened =>
    if !gate.canRetire then
      (gate, .returns .busy)
    else
      ({ gate with state := .retiring }, .needsRouteReceipt)

def setGateOpenAfterPreflight : ProductionMutationGate :=
  if gate.state = .retiring ∧ gate.routeReceipt = none then
    { gate with state := .opened }
  else
    gate

def setGateRecoveryOnly : ProductionMutationGate :=
  { gate with state := .recoveryOnly }

def consumeRouteRetirementReceipt (receipt : ProductionRouteRetirementReceipt) :
    ProductionMutationGate × Bool :=
  if gate.state ≠ .retiring ∨ gate.routeReceipt.isSome then
    (gate, false)
  else
    ({ gate with routeReceipt := some receipt }, true)

/-- The failed attempt to retire the controller closes the gate. -/
def controllerRetirementFailed : ProductionMutationGate :=
  if gate.state = .retiring then
    { gate with state := .recoveryOnly }
  else
    gate

def finishServiceRetirement (controller : ControllerRetirementReceipt) :
    ProductionMutationGate × ProductionServiceRetirementResult :=
  if gate.state ≠ .retiring || !gate.canRetire then
    (gate.setGateRecoveryOnly, .recoveryOnly)
  else
    match gate.routeReceipt with
    | none => (gate.setGateRecoveryOnly, .recoveryOnly)
    | some route =>
      ({ gate with routeReceipt := none, state := .retired },
        .retired ⟨gate.generation, route, controller⟩)

end ProductionMutationGate

end KyClash.Production
