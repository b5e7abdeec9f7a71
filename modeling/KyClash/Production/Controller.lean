import Mathlib.Algebra.Group.Nat.Even
import KyClash.Concurrency.Program
import KyClash.Concurrency.Transition
import KyClash.Data.KeyTable
import KyClash.Networking.Ipc
import KyClash.TunnelBroker.Lease

/-!
# The production controller

`networking/production_controller.rs`: the actor that owns the sidecar
runtime and handles one command after the other.  Its methods are programs
whose actions are the calls of the runtime and the accesses to the table of
cancellations, which the actor shares with its handles.  Every action carries
the state in which the actor waits for it.

The adapters behind `AsyncProductionRuntime` are not modelled: what a call of
the runtime may do is left to the world.
-/

namespace KyClash.Production

open Program
open Sidecar (Text)
open TunnelBroker (TunnelReference)

def diagnosticCapacity : Nat := 128
def uint64Max : UInt64 := 0xFFFFFFFFFFFFFFFF
def uint8Max : UInt8 := 0xFF

/-- Milliseconds. -/
abbrev Instant := Nat

inductive SidecarLifecycleState where
  | stopped
  | starting
  | running
  | backoff
  | crashLoop
  deriving DecidableEq, Repr

structure SidecarLaunchContext where
  instanceID : Text
  authToken : List UInt8
  privateKey : List UInt8
  deriving DecidableEq, Repr

structure SidecarHandshake where
  protocolVersion : UInt8
  instanceID : Text
  authProof : Text
  deriving DecidableEq, Repr

inductive SidecarProcessStatus where
  | running
  | exited (success : Bool)
  deriving DecidableEq, Repr

inductive ProductionEventKind where
  | started
  | requestCompleted
  | cancelled
  | timedOut
  | restarting
  | crashLoop
  | stopped
  | failed
  deriving DecidableEq, Repr

structure ProductionEvent where
  sequence : UInt64
  operationID : Option Text
  kind : ProductionEventKind
  error : Option NetworkErrorCode
  deriving DecidableEq, Repr

inductive ControllerAbsenceKind where
  | neverSpawned
  | reaped
  deriving DecidableEq, Repr

structure ControllerRetirementReceipt where
  runtimeGeneration : UInt64
  absence : ControllerAbsenceKind
  deriving DecidableEq, Repr

structure ControllerStartReceipt where
  runtimeGeneration : UInt64
  brokerReference : TunnelReference
  deriving DecidableEq, Repr

/-- Without tunnel facts, as the controller issues it. -/
def ControllerStartReceipt.issue (runtimeGeneration : UInt64)
    (brokerReference : TunnelReference) (handshake : SidecarHandshake)
    (expectedAuthProof : Text) :
    Except NetworkErrorCode ControllerStartReceipt :=
  if !brokerReference.isValid then
    .error .unsupportedProtocolVersion
  else if runtimeGeneration = 0 ∨ handshake.protocolVersion ≠
      Ipc.protocolVersion ∨
      handshake.instanceID ≠ brokerReference.sidecarInstanceID ∨
      handshake.authProof ≠ expectedAuthProof then
    .error .authenticationFailed
  else
    .ok { runtimeGeneration, brokerReference }

inductive ControllerMode where
  | reusable
  | brokerBound (reference : TunnelReference) (startConsumed : Bool)
  deriving DecidableEq, Repr

def ControllerMode.isBrokerBound : ControllerMode → Bool
  | .reusable => false
  | .brokerBound _ _ => true

structure Controller where
  context : Option SidecarLaunchContext
  expectedAuthProof : Text
  mode : ControllerMode
  state : SidecarLifecycleState
  events : List ProductionEvent
  nextSequence : UInt64
  crashes : UInt8
  retryAt : Option Instant
  runtimeGeneration : UInt64
  absence : Option ControllerAbsenceKind
  retired : Bool
  deriving DecidableEq, Repr

/-- `spawn_controller_actor`.  The child of a broker-bound controller has
been prepared before, so its absence is not known. -/
def newController (context : SidecarLaunchContext) (expectedAuthProof : Text)
    (mode : ControllerMode) : Controller where
  context := some context
  expectedAuthProof := expectedAuthProof
  mode := mode
  state := .stopped
  events := []
  nextSequence := 1
  crashes := 0
  retryAt := none
  runtimeGeneration := 0
  absence := if mode.isBrokerBound then none else some .neverSpawned
  retired := false

inductive RuntimeCall where
  | start (context : SidecarLaunchContext)
  | request (request : Ipc.Request)
  | status
  | stop
  deriving DecidableEq, Repr

/-- `none` stands for a call that was given up at its deadline. -/
def RuntimeCall.Res : RuntimeCall → Type
  | .start _ => Except NetworkErrorCode SidecarHandshake
  | .request _ => Option (Except NetworkErrorCode Sidecar.Response)
  | .status => Except NetworkErrorCode SidecarProcessStatus
  | .stop => Option (Except NetworkErrorCode Unit)

/-- Tokens of cancellations are known by a number. -/
abbrev Token := Nat

inductive Act where
  | runtime (waiting : Controller) (call : RuntimeCall)
  | noCancellations (waiting : Controller)
  | removeCancellation (waiting : Controller) (operationID : Text)
      (token : Token)
  | clearCancellations (waiting : Controller)

def Act.Res : Act → Type
  | .runtime _ call => call.Res
  | .noCancellations _ => Bool
  | .removeCancellation _ _ _ => Unit
  | .clearCancellations _ => Unit

/-- The state in which the actor waits for an action. -/
def Act.waiting : Act → Controller
  | .runtime waiting _ => waiting
  | .noCancellations waiting => waiting
  | .removeCancellation waiting _ _ => waiting
  | .clearCancellations waiting => waiting

abbrev Actor (α : Type) := Prog Act Act.Res α

/-- What a method leaves: the actor's state and the result. -/
abbrev Fallible (α : Type) := Controller × Except NetworkErrorCode α

namespace Controller

def callStart (controller : Controller) (context : SidecarLaunchContext) :
    Actor (Except NetworkErrorCode SidecarHandshake) :=
  Prog.perform (Act.runtime controller (.start context))

def callRequest (controller : Controller) (request : Ipc.Request) :
    Actor (Option (Except NetworkErrorCode Sidecar.Response)) :=
  Prog.perform (Act.runtime controller (.request request))

def callStatus (controller : Controller) :
    Actor (Except NetworkErrorCode SidecarProcessStatus) :=
  Prog.perform (Act.runtime controller .status)

def callStop (controller : Controller) :
    Actor (Option (Except NetworkErrorCode Unit)) :=
  Prog.perform (Act.runtime controller .stop)

def record (controller : Controller) (kind : ProductionEventKind)
    (operationID : Option Text) (error : Option NetworkErrorCode) :
    Controller :=
  let events := if controller.events.length = diagnosticCapacity then
    controller.events.tail else controller.events
  { controller with
    events :=
      events ++
      [{ sequence := controller.nextSequence, operationID, kind, error }]
    nextSequence := if controller.nextSequence = uint64Max then uint64Max
      else controller.nextSequence + 1 }

/-- The proof that a successful stop leaves. -/
def stopProof (controller : Controller) : ControllerAbsenceKind :=
  if controller.runtimeGeneration = 0 then
    if controller.mode.isBrokerBound then .reaped else .neverSpawned
  else
    .reaped

def stopRuntimeBounded (controller : Controller) (operationID : Option Text) :
    Actor (Fallible Unit) := do
  match (← controller.callStop).getD (.error .operationTimedOut) with
  | .error error =>
    return ({ controller with absence := none, state := .crashLoop }.record
      .failed operationID (some error), .error error)
  | .ok () =>
    return ({ controller with
      absence := some controller.stopProof, state := .stopped }, .ok ())

/-! ### Start -/

def nextGeneration (controller : Controller) : Option UInt64 :=
  if controller.mode.isBrokerBound ∧
      (controller.runtimeGeneration ≠ 0 ∨ controller.absence.isSome) then
    none
  else if controller.runtimeGeneration = uint64Max then
    none
  else
    some (controller.runtimeGeneration + 1)

/-- The checks of an accepted start, with the receipt of a broker-bound
one. -/
def acceptHandshake (controller : Controller) (context : SidecarLaunchContext)
    (handshake : SidecarHandshake) :
    Except NetworkErrorCode (Option ControllerStartReceipt) :=
  if handshake.protocolVersion ≠ Ipc.protocolVersion then
    .error .unsupportedProtocolVersion
  else if handshake.instanceID ≠ context.instanceID ∨
      handshake.authProof ≠ controller.expectedAuthProof then
    .error .authenticationFailed
  else
    match controller.mode with
    | .reusable => .ok none
    | .brokerBound reference _ =>
      match ControllerStartReceipt.issue controller.runtimeGeneration
          reference handshake controller.expectedAuthProof with
      | .error error => .error error
      | .ok receipt => .ok (some receipt)

/-- A start that failed behind the launch: stop, then report. -/
def abortStart (controller : Controller) (error : NetworkErrorCode) :
    Actor (Fallible (Option ControllerStartReceipt)) := do
  let (controller, _) ← controller.stopRuntimeBounded none
  return (controller.record .failed none (some error), .error error)

def launch (controller : Controller) (context : SidecarLaunchContext)
    (resetCrashHistory : Bool) :
    Actor (Fallible (Option ControllerStartReceipt)) := do
  match ← controller.callStart context with
  | .error primary => controller.abortStart primary
  | .ok handshake =>
    match controller.acceptHandshake context handshake with
    | .error error => controller.abortStart error
    | .ok outcome =>
      return ({ controller with
        state := .running
        retryAt := none
        crashes := if resetCrashHistory then 0
          else controller.crashes }.record .started none none,
        .ok outcome)

def start (controller : Controller) (resetCrashHistory : Bool) :
    Actor (Fallible (Option ControllerStartReceipt)) :=
  if controller.state ≠ .stopped then
    return (controller, .error .invalidStateTransition)
  else
    match controller.nextGeneration with
    | none => return (controller, .error .invalidStateTransition)
    | some generation =>
      let controller := { controller with
        runtimeGeneration := generation
        absence := none
        state := .starting }
      match controller.context with
      | none => return (controller, .error .invalidStateTransition)
      | some context => controller.launch context resetCrashHistory

def startBrokerBound (controller : Controller) :
    Actor (Fallible ControllerStartReceipt) :=
  match controller.mode with
  | .brokerBound reference false => do
      match ← { controller with
          mode := .brokerBound reference true }.start true with
      | (controller, .ok (some receipt)) => return (controller, .ok receipt)
      | (controller, .ok none) =>
        return (controller, .error .invalidStateTransition)
      | (controller, .error error) => return (controller, .error error)
  | _ => return (controller, .error .invalidStateTransition)

/-! ### Requests -/

/-- A request that failed for good: stop, then report. -/
def abortRequest (controller : Controller) (operationID : Text)
    (kind : ProductionEventKind) (error : NetworkErrorCode) :
    Actor (Fallible Sidecar.Response) := do
  let (controller, _) ← controller.stopRuntimeBounded (some operationID)
  return (controller.record kind (some operationID) (some error), .error error)

def responseError (response : Sidecar.Response) : Option NetworkErrorCode :=
  match response.result with
  | .ok _ => none
  | .err error => some error.code

def execute (controller : Controller) (operationID : Text)
    (request : Ipc.Request) : Actor (Fallible Sidecar.Response) :=
  if controller.state ≠ .running then
    return (controller, .error .invalidStateTransition)
  else
    match request.validateProtocol with
    | .error error => return (controller, .error error)
    | .ok () => do
        match ← controller.callRequest request with
        | none =>
          controller.abortRequest operationID .timedOut .operationTimedOut
        | some (.error .operationCancelled) =>
          return (controller.record .cancelled (some operationID)
            (some .operationCancelled), .error .operationCancelled)
        | some (.error .operationTimedOut) =>
          controller.abortRequest operationID .timedOut .operationTimedOut
        | some (.error error) =>
          controller.abortRequest operationID .failed error
        | some (.ok response) =>
          match Ipc.validateProtocol response request with
          | .error error => controller.abortRequest operationID .failed error
          | .ok () =>
            return (controller.record .requestCompleted
              (some operationID) (responseError response), .ok response)

/-! ### Poll -/

def backoffDelay (crashes : UInt8) : Nat :=
  min (100 * 2 ^ min (crashes.toNat - 1) 7) 10000

/-- The child has exited and was reaped. -/
def observeExit (controller : Controller) (now : Instant) :
    Fallible SidecarLifecycleState :=
  let controller := { controller with absence := some .reaped }
  if controller.mode.isBrokerBound then
    ({ controller with state := .crashLoop, retryAt := none }.record
      .crashLoop none (some .sidecarUnavailable), .error .sidecarUnavailable)
  else
    let crashes := if controller.crashes = uint8Max then uint8Max
      else controller.crashes + 1
    if 3 < crashes then
      ({ controller with crashes, state := .crashLoop }.record
        .crashLoop none (some .sidecarUnavailable),
        .error .sidecarUnavailable)
    else
      ({ controller with
        crashes
        state := .backoff
        retryAt := some (now + backoffDelay crashes) }.record
        .restarting none (some .sidecarUnavailable), .ok .backoff)

/-- `now` is read before the call of the runtime, `later` after it. -/
def poll (controller : Controller) (now later : Instant) :
    Actor (Fallible SidecarLifecycleState) :=
  if controller.state = .backoff then
    if controller.retryAt.any (· ≤ now) then do
      let restarting :=
        { controller with state := .stopped }.record .restarting none none
      match ← restarting.start false with
      | (controller, .error error) => return (controller, .error error)
      | (controller, .ok _) => return (controller, .ok controller.state)
    else
      return (controller, .ok controller.state)
  else if controller.state ≠ .running then
    return (controller, .ok controller.state)
  else do
    match ← controller.callStatus with
    | .error error =>
      let (controller, _) ← controller.stopRuntimeBounded none
      return (controller.record .failed none (some error), .error error)
    | .ok .running =>
      return ({ controller with crashes := 0, absence := none },
        .ok controller.state)
    | .ok (.exited _) => return controller.observeExit later

/-! ### Shutdown and retirement -/

def shutdown (controller : Controller) : Actor (Fallible Unit) := do
  let (controller, result) ← controller.stopRuntimeBounded none
  let controller := { controller with crashes := 0, retryAt := none }
  Prog.perform (Act.clearCancellations controller)
  match result with
  | .ok () => return (controller.record .stopped none none, .ok ())
  | .error error => return (controller, .error error)

/-- The last check of `retire`: the proof fits the generation. -/
def proofFits (controller : Controller) (absence : ControllerAbsenceKind) :
    Bool :=
  if controller.mode.isBrokerBound then
    absence = .reaped
  else
    (controller.runtimeGeneration = 0 : Bool) = (absence = .neverSpawned : Bool)

/-- The last part of `retire`, with the end of the secrets. -/
def issueRetirement (controller : Controller) :
    Fallible ControllerRetirementReceipt :=
  match controller.absence with
  | none => (controller, .error .sidecarUnavailable)
  | some absence =>
    if !controller.proofFits absence then
      (controller, .error .invalidStateTransition)
    else
      ({ controller with
        retired := true
        retryAt := none
        context := none
        expectedAuthProof := [] },
        .ok { runtimeGeneration := controller.runtimeGeneration, absence })

def retire (controller : Controller) :
    Actor (Fallible ControllerRetirementReceipt) := do
  let idle ← (Prog.perform (Act.noCancellations controller) : Actor Bool)
  if controller.retired || controller.state ≠ .stopped || !idle then
    return (controller, .error .invalidStateTransition)
  else if controller.absence.isNone then
    match ← controller.stopRuntimeBounded none with
    | (controller, .error error) => return (controller, .error error)
    | (controller, .ok ()) => return controller.issueRetirement
  else
    return controller.issueRetirement

end Controller

/-- `claimed` tells whether the caller of a bound start still waits for its
receipt. -/
inductive Command where
  | start
  | startBound (claimed : Bool)
  | request (operationID : Text) (request : Ipc.Request) (cancel : Token)
  | poll (now later : Instant)
  | health (operationID : Text) (request : Ipc.Request) (cancel : Token)
  | diagnostics
  | shutdown
  | retire
  deriving DecidableEq, Repr

inductive Reply where
  | done (result : Except NetworkErrorCode Unit)
  | started (result : Except NetworkErrorCode ControllerStartReceipt)
  | response (result : Except NetworkErrorCode Sidecar.Response)
  | lifecycle (result : Except NetworkErrorCode SidecarLifecycleState)
  | events (events : List ProductionEvent)
  | retirement (result : Except NetworkErrorCode ControllerRetirementReceipt)

namespace Controller

def refuse (controller : Controller) : Actor (Fallible α) :=
  return (controller, .error .invalidStateTransition)

/-- A method that a retired controller refuses. -/
def unlessRetired (controller : Controller) (method : Actor (Fallible α)) :
    Actor (Fallible α) :=
  if controller.retired then controller.refuse else method

/-- The response of a start without a receipt. -/
def startReusable (controller : Controller) : Actor (Fallible Unit) :=
  if controller.mode.isBrokerBound then
    controller.refuse
  else do
    match ← controller.start true with
    | (controller, .ok none) => return (controller, .ok ())
    | (controller, .ok (some _)) =>
      return (controller, .error .invalidStateTransition)
    | (controller, .error error) => return (controller, .error error)

/-- A receipt that nobody claims is given up with its child. -/
def deliverStart (controller : Controller) (claimed : Bool)
    (result : Except NetworkErrorCode ControllerStartReceipt) :
    Actor (Controller × Reply) :=
  match result, claimed with
  | .ok _, false => do
      match ← controller.stopRuntimeBounded none with
      | (controller, .ok ()) =>
        return (controller.record .stopped none none, .started result)
      | (controller, .error _) => return (controller, .started result)
  | _, _ => return (controller, .started result)

def handleRequest (controller : Controller) (operationID : Text)
    (request : Ipc.Request) (cancel : Token) : Actor (Controller × Reply) := do
  let (controller, result) ← controller.unlessRetired
    (controller.execute operationID request)
  Prog.perform (Act.removeCancellation controller operationID cancel)
  return (controller, .response result)

/-- A command that is one method. -/
def handleMethod (method : Actor (Fallible α))
    (reply : Except NetworkErrorCode α → Reply) :
    Actor (Controller × Reply) := do
  let (controller, result) ← method
  return (controller, reply result)

/-- One round of the loop of `run`. -/
def handle (controller : Controller) : Command → Actor (Controller × Reply)
  | .start =>
    handleMethod (controller.unlessRetired controller.startReusable) .done
  | .startBound claimed => do
      let (controller, result) ← controller.unlessRetired
        controller.startBrokerBound
      controller.deliverStart claimed result
  | .request operationID request cancel =>
    controller.handleRequest operationID request cancel
  | .poll now later =>
    handleMethod (controller.unlessRetired (controller.poll now later))
      .lifecycle
  | .health operationID request cancel =>
    controller.handleRequest operationID request cancel
  | .diagnostics => return (controller, .events controller.events)
  | .shutdown =>
    handleMethod (controller.unlessRetired controller.shutdown) .done
  | .retire => handleMethod controller.retire .retirement

/-- What `run` does when all handles are gone, up to the cancellations. -/
def stopAtClose (controller : Controller) : Actor Controller :=
  if !controller.retired &&
      (controller.state ≠ .stopped || controller.absence.isNone) then do
    let (controller, _) ← controller.stopRuntimeBounded none
    return controller
  else
    return controller

def close (controller : Controller) : Actor Controller := do
  let controller ← controller.stopAtClose
  Prog.perform (Act.clearCancellations controller)
  return controller

end Controller

end KyClash.Production
