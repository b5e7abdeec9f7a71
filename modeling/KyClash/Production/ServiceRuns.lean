import KyClash.Production.ServiceGate

/-!
# Runs of the production service

The objects that exist beside the gate: the reservations that callers hold,
the leases of mutations in flight, the route tasks with their two flags, and
the calls of `try_retire`, each at a point between two critical sections.
They take their steps in any order.  A call that takes no more step is one
that was dropped.

A mutation may queue route tasks, and so may the monitor, at any time; what
else the bodies do does not touch the gate.
-/

namespace KyClash.Production

open Sidecar (Text)

structure ControllerRetirementProgress where
  result : Option (Except NetworkErrorCode ControllerRetirementReceipt)
  /-- The spawned task has reported its failure to the gate. -/
  settled : Bool
  deriving DecidableEq

inductive RetirementStage where
  | entering
  | preflight
  | retiringRoutes
  | reopening
  | freezing
  | consuming (receipt : ProductionRouteRetirementReceipt)
  | starting
  | waiting (progress : ProgressID)
  | finishing (receipt : ControllerRetirementReceipt)
  | returned (result : ProductionServiceRetirementResult)
  deriving DecidableEq

inductive Admitted where
  | reservation
  | mutation
  | routeTask
  deriving DecidableEq, Repr

/-- What the run shows. -/
inductive ServiceObservation where
  | admitted (kind : Admitted)
  | routeRetired (receipt : ProductionRouteRetirementReceipt)
  | controllerRetired (receipt : ControllerRetirementReceipt)
  | serviceRetired (receipt : ProductionServiceRetirementReceipt)
  deriving DecidableEq

/-- The newest observation stands first. -/
structure Service where
  gate : ProductionMutationGate
  brokerBound : Bool
  reservations : List ProductionConnectReservation
  leases : List ProductionMutationLease
  routeTasks : List RouteTaskLifecycle
  progress : List ControllerRetirementProgress
  retirements : List RetirementStage
  history : List ServiceObservation

/-- What a step of `try_retire` finds outside of the gate. -/
inductive Finding where
  | nothing
  | seen (seen : Seen)
  | routes (result : ProductionRouteRetirementResult)
  deriving DecidableEq

inductive ServiceEvent where
  | reserve (seen : Seen)
  | abandon (reservation : ProductionConnectReservation)
  | connect (operationID : Text) (reservation : ProductionConnectReservation)
  | disconnect (operationID : Text)
  | cancel
  | endMutation (lease : ProductionMutationLease)
  | routeCall
  | complete (id : Nat)
  | join (id : Nat)
  | joinFails (id : Nat)
  | finish (task : RouteTaskLifecycle)
  | retire
  | advance (call : Nat) (finding : Finding)
  | controllerAnswers (progress : ProgressID)
      (result : Except NetworkErrorCode ControllerRetirementReceipt)
  | controllerSettles (progress : ProgressID)

namespace Service

def start (generation : Nat) (brokerBound : Bool) : Service where
  gate := .new generation
  brokerBound := brokerBound
  reservations := []
  leases := []
  routeTasks := []
  progress := []
  retirements := []
  history := []

variable (service : Service)

def resultOf (progress : ProgressID) :
    Option (Except NetworkErrorCode ControllerRetirementReceipt) :=
  service.progress[progress]?.bind (·.result)

/-- The attempt to retire the controller has no result yet. -/
def pending : Bool :=
  service.gate.controllerRetirement.any fun id => (service.resultOf id).isNone

def spawnRetirement : Service × ProgressID :=
  ({ service with
      gate := { service.gate with
        controllerRetirement := some service.progress.length }
      progress := service.progress ++ [⟨none, false⟩] },
    service.progress.length)

def startOrResumeControllerRetirement : Service × ProgressID :=
  match service.gate.controllerRetirement with
  | none => service.spawnRetirement
  | some id =>
    match service.resultOf id with
    | some (.error _) => service.spawnRetirement
    | _ => (service, id)

def enter : Service × RetirementStage :=
  match service.gate.beginRetirement service.pending with
  | (gate, .returns result) => ({ service with gate }, .returned result)
  | (gate, .resume) => ({ service with gate }, .starting)
  | (gate, .needsRouteReceipt) => ({ service with gate }, .preflight)

def afterPreflight : ServiceRetirementPreflight → RetirementStage
  | .ready => .retiringRoutes
  | .busy => .reopening
  | .recoveryOnly => .freezing

/-- The boundary has answered to its `try_retire`. -/
def routesAnswered : ProductionRouteRetirementResult → Service × RetirementStage
  | .retired receipt =>
    ({ service with history := .routeRetired receipt :: service.history },
      .consuming receipt)
  | .busy => (service, .reopening)
  | .recoveryOnly => (service, .freezing)
  | .alreadyRetired => (service, .freezing)

def consume (receipt : ProductionRouteRetirementReceipt) :
    Service × RetirementStage :=
  match service.gate.consumeRouteRetirementReceipt receipt with
  | (gate, true) => ({ service with gate }, .starting)
  | (gate, false) => ({ service with gate }, .freezing)

def await (progress : ProgressID) : Option (Service × RetirementStage) :=
  match service.resultOf progress with
  | none => none
  | some (.ok receipt) => some (service, .finishing receipt)
  | some (.error _) => some (service, .freezing)

def finishRetirement (receipt : ControllerRetirementReceipt) :
    Service × RetirementStage :=
  match service.gate.finishServiceRetirement receipt with
  | (gate, .retired receipt) =>
    ({ service with
        gate
        history := .serviceRetired receipt :: service.history },
      .returned (.retired receipt))
  | (gate, result) => ({ service with gate }, .returned result)

def advanceStage :
    RetirementStage → Finding → Option (Service × RetirementStage)
  | .entering, .nothing => some service.enter
  | .preflight, .seen seen =>
    some (service, afterPreflight (serviceRetirementPreflight seen))
  | .retiringRoutes, .routes result => some (service.routesAnswered result)
  | .reopening, .nothing =>
    some ({ service with gate := service.gate.setGateOpenAfterPreflight },
      .returned .busy)
  | .freezing, .nothing =>
    some ({ service with gate := service.gate.setGateRecoveryOnly },
      .returned .recoveryOnly)
  | .consuming receipt, .nothing => some (service.consume receipt)
  | .starting, .nothing =>
    let (service, progress) := service.startOrResumeControllerRetirement
    some (service, .waiting progress)
  | .waiting progress, .nothing => service.await progress
  | .finishing receipt, .nothing => some (service.finishRetirement receipt)
  | _, _ => none

/-- `acquire_mutation`. -/
def mutate : Service :=
  match service.gate.acquireMutation with
  | (gate, .error _) => { service with gate }
  | (gate, .ok lease) =>
    { service with
      gate
      leases := lease :: service.leases
      history := .admitted .mutation :: service.history }

def updateTask (id : Nat) (change : RouteTaskLifecycle → RouteTaskLifecycle) :
    Service :=
  { service with routeTasks := service.routeTasks.map fun task =>
        if task.id = id then change task else task }

def step : ServiceEvent → Option Service
  | .reserve seen =>
    match service.gate.reserveConnect service.brokerBound seen with
    | (gate, .error _) => some { service with gate }
    | (gate, .ok reservation) =>
      some { service with
        gate
        reservations := reservation :: service.reservations
        history := .admitted .reservation :: service.history }
  | .abandon reservation =>
    if reservation ∈ service.reservations then
      some { service with
        gate := service.gate.release reservation
        reservations := service.reservations.erase reservation }
    else
      none
  | .connect operationID reservation =>
    if reservation ∈ service.reservations then
      match service.gate.connectReserved operationID reservation with
      | (gate, .error _) =>
        some { service with
          gate
          reservations := service.reservations.erase reservation }
      | (gate, .ok lease) =>
        some { service with
          gate
          reservations := service.reservations.erase reservation
          leases := lease :: service.leases
          history := .admitted .mutation :: service.history }
    else
      none
  | .disconnect operationID =>
    if validProductionOperationID operationID then
      some service.mutate
    else
      some service
  | .cancel => some service.mutate
  | .endMutation lease =>
    if lease ∈ service.leases then
      some { service with
        gate := service.gate.endMutation lease
        leases := service.leases.erase lease }
    else
      none
  | .routeCall =>
    match service.gate.queueRouteTask with
    | (gate, .error _) => some { service with gate }
    | (gate, .ok id) =>
      some { service with
        gate
        routeTasks := ⟨gate.generation, id, false, false⟩ :: service.routeTasks
        history := .admitted .routeTask :: service.history }
  | .complete id =>
    some (service.updateTask id fun task => { task with completed := true })
  | .join id =>
    some (service.updateTask id fun task => { task with joined := true })
  | .joinFails id =>
    if service.routeTasks.any fun task => task.id = id && !task.joined then
      some { service with gate := service.gate.setGateRecoveryOnly }
    else
      none
  | .finish task =>
    if task ∈ service.routeTasks ∧ task.completed ∧ task.joined then
      some { service with gate := service.gate.finishRouteTask task }
    else
      none
  | .retire =>
    some { service with retirements := service.retirements ++ [.entering] }
  | .advance call finding =>
    match service.retirements[call]? with
    | none => none
    | some stage =>
      match service.advanceStage stage finding with
      | none => none
      | some (next, stage) =>
        some { next with
          retirements := service.retirements.set call stage }
  | .controllerAnswers id result =>
    match service.progress[id]? with
    | some ⟨none, settled⟩ =>
      some { service with
        progress := service.progress.set id ⟨some result, settled⟩
        history := match result with
          | .ok receipt => .controllerRetired receipt :: service.history
          | .error _ => service.history }
    | _ => none
  | .controllerSettles id =>
    match service.progress[id]? with
    | some ⟨some (.error error), false⟩ =>
      some { service with
        gate := service.gate.controllerRetirementFailed
        progress := service.progress.set id ⟨some (.error error), true⟩ }
    | _ => none

end Service

/-! ## What a retired service is -/

def ServiceObservation.receipt? :
    ServiceObservation → Option ProductionServiceRetirementReceipt
  | .serviceRetired receipt => some receipt
  | _ => none

def ServiceObservation.isAdmission : ServiceObservation → Bool
  | .admitted _ => true
  | _ => false

/-- Nothing of the service is in use. -/
structure Service.Quiescent (service : Service) : Prop where
  reservations : service.reservations = []
  leases : service.leases = []
  routeTasks : ∀ task ∈ service.routeTasks, task.completed = true ∧
    task.joined = true

/-- At most one receipt, which follows both receipts that it consists of, and
no admission behind it. -/
structure Final (history : List ServiceObservation) : Prop where
  once : (history.filterMap ServiceObservation.receipt?).length ≤ 1
  backed : ∀ receipt earlier, .serviceRetired receipt :: earlier <:+ history →
    .routeRetired receipt.route ∈ earlier ∧
      .controllerRetired receipt.controller ∈ earlier
  closed : history.Pairwise fun later earlier =>
    earlier.receipt?.isSome = true → later.isAdmission = false

structure Service.Proper (service : Service) : Prop where
  final : Final service.history
  quiescent : ∀ receipt, .serviceRetired receipt ∈ service.history →
    service.Quiescent

end KyClash.Production
