import KyClash.Production.Controller

/-!
# The production controller at its runtime

The runtime is known by its child: whether it is alive, and whether there
ever was one.  A start may launch a child whatever it returns; a stop that
succeeds and a status that says `exited` leave none.  A child may also exit at
any time, and the handles change the table of cancellations.

While the controller has a proof of absence no child is alive, and once it
has issued its receipt it refuses every command that could change something
and calls the runtime no more.
-/

namespace KyClash.Production

open Program
open Sidecar (Text)

structure World where
  alive : Bool
  spawned : Bool
  cancellations : KeyTable Text Token

/-- How a call of the runtime turns out, with the child after it. -/
inductive Fortune where
  | start (result : Except NetworkErrorCode SidecarHandshake)
      (launched alive : Bool)
  | request (result : Option (Except NetworkErrorCode Sidecar.Response))
      (alive : Bool)
  | status (result : Except NetworkErrorCode SidecarProcessStatus)
      (alive : Bool)
  | stop (result : Option (Except NetworkErrorCode Unit)) (alive : Bool)

def SidecarProcessStatus.isExited : SidecarProcessStatus → Bool
  | .running => false
  | .exited _ => true

namespace World

/-- A call of the runtime; `none` where the outcome breaks its contract. -/
def runtime (world : World) :
    (call : RuntimeCall) → Fortune → Option (call.Res × World)
  | .start _, .start result launched alive =>
    if alive && !launched && !world.alive then
      none
    else
      some (result, { world with alive, spawned := world.spawned || launched })
  | .request _, .request result alive =>
    if alive && !world.alive then
      none
    else
      some (result, { world with alive })
  | .status, .status result alive =>
    if alive &&
        (!world.alive || result.toOption.any SidecarProcessStatus.isExited) then
      none
    else
      some (result, { world with alive })
  | .stop, .stop result alive =>
    if alive && (!world.alive || result.any Except.isOk) then
      none
    else
      some (result, { world with alive })
  | _, _ => none

def withoutCancellation (world : World) (operationID : Text) (token : Token) :
    World :=
  if world.cancellations.lookup operationID = some token then
    { world with cancellations := world.cancellations.erase operationID }
  else
    world

/-- An action of the actor.  Only the runtime needs a fortune. -/
def perform (world : World) (fortune : Option Fortune) :
    (action : Act) → Option (action.Res × World)
  | .runtime _ call =>
    match fortune with
    | none => none
    | some fortune => world.runtime call fortune
  | .noCancellations _ => some (decide (world.cancellations.keys = []), world)
  | .removeCancellation _ operationID token =>
    some ((), world.withoutCancellation operationID token)
  | .clearCancellations _ => some ((), { world with cancellations := ∅ })

end World

inductive Phase where
  | idle (controller : Controller)
  | handling (command : Command) (program : Actor (Controller × Reply))
  | closing (program : Actor Controller)
  | ended (controller : Controller)

/-- What can be seen of the actor. -/
inductive Observation where
  | called (call : RuntimeCall)
  | replied (command : Command) (reply : Reply)

structure System where
  world : World
  phase : Phase
  trace : List Observation

inductive Event where
  | command (command : Command)
  | act (fortune : Option Fortune)
  | returns
  | close
  | exit
  | register (operationID : Text) (token : Token)
  | unregister (operationID : Text) (token : Token)

/-- The calls of the runtime that an action makes. -/
def Act.observed : Act → List Observation
  | .runtime _ call => [.called call]
  | _ => []

namespace System

/-- A new controller; the child of a broker-bound one has been prepared. -/
def start (context : SidecarLaunchContext) (expectedAuthProof : Text)
    (mode : ControllerMode) : System where
  world := {
    alive := mode.isBrokerBound
    spawned := mode.isBrokerBound
    cancellations := ∅ }
  phase := .idle (newController context expectedAuthProof mode)
  trace := []

def step (system : System) : Event → Option System
  | .command command =>
    match system.phase with
    | .idle controller =>
      some { system with
        phase := .handling command (controller.handle command) }
    | _ => none
  | .act fortune =>
    match system.phase with
    | .handling command (.act action rest) =>
      match system.world.perform fortune action with
      | none => none
      | some (result, world) =>
        some {
          world
          phase := .handling command (rest result)
          trace := system.trace ++ action.observed }
    | .closing (.act action rest) =>
      match system.world.perform fortune action with
      | none => none
      | some (result, world) =>
        some {
          world
          phase := .closing (rest result)
          trace := system.trace ++ action.observed }
    | _ => none
  | .returns =>
    match system.phase with
    | .handling command (.ret (controller, reply)) =>
      some { system with
        phase := .idle controller
        trace := system.trace ++ [.replied command reply] }
    | .closing (.ret controller) =>
      some { system with phase := .ended controller }
    | _ => none
  | .close =>
    match system.phase with
    | .idle controller =>
      some { system with phase := .closing controller.close }
    | _ => none
  | .exit => some { system with world := { system.world with alive := false } }
  | .register operationID token =>
    if operationID ∈ system.world.cancellations then
      none
    else
      some { system with world := { system.world with
        cancellations := system.world.cancellations.insert operationID token } }
  | .unregister operationID token =>
    some { system with
      world := system.world.withoutCancellation operationID token }

/-- The state of the actor, also while it waits. -/
def current (system : System) : Controller :=
  match system.phase with
  | .idle controller => controller
  | .handling _ (.act action _) => action.waiting
  | .handling _ (.ret (controller, _)) => controller
  | .closing (.act action _) => action.waiting
  | .closing (.ret controller) => controller
  | .ended controller => controller

end System

/-- A command that may change something. -/
def Command.mutating : Command → Bool
  | .diagnostics => false
  | _ => true

def Reply.refused : Reply → Bool
  | .done (.error .invalidStateTransition) => true
  | .started (.error .invalidStateTransition) => true
  | .response (.error .invalidStateTransition) => true
  | .lifecycle (.error .invalidStateTransition) => true
  | .retirement (.error .invalidStateTransition) => true
  | _ => false

def Reply.receipt? : Reply → Option ControllerRetirementReceipt
  | .retirement (.ok receipt) => some receipt
  | _ => none

def Observation.receipt? : Observation → Option ControllerRetirementReceipt
  | .called _ => none
  | .replied _ reply => reply.receipt?

/-- No call of the runtime, and a refusal of what might change something. -/
def Observation.quiet : Observation → Bool
  | .called _ => false
  | .replied command reply => !command.mutating || reply.refused

/-- A receipt is true: no child is alive, and where it says so there never
was one. -/
structure Certifies (receipt : ControllerRetirementReceipt) (world : World) :
    Prop where
  absent : world.alive = false
  never : receipt.absence = .neverSpawned → world.spawned = false

/-- What holds of the observations: every receipt is true, there is at most
one, and what follows it is quiet. -/
structure Orderly (trace : List Observation) (world : World) : Prop where
  certified : ∀ receipt ∈ trace.filterMap Observation.receipt?,
    Certifies receipt world
  once : (trace.filterMap Observation.receipt?).length ≤ 1
  quiet : trace.Pairwise fun earlier later =>
    earlier.receipt?.isSome = true → later.quiet = true

/-- What the controller promises about its child. -/
structure System.Proper (system : System) : Prop where
  absent : ∀ proof, system.current.absence = some proof →
    system.world.alive = false
  orderly : Orderly system.trace system.world

end KyClash.Production
