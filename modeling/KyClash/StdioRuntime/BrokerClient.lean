import KyClash.StdioRuntime.Stop
import KyClash.TunnelBroker.Coordinator

/-!
# The broker's process-control client

`TunnelBrokerProcessControl` of `networking/tunnel_broker_client.rs`: how the
replies of one broker connection become the answers of the process-control
seam.  The connection is any implementation of `TunnelBrokerGeneration`.

A reply with the error `staleGeneration` quarantines the handle.  From then on
it answers neither a status nor a kill.
-/

namespace KyClash.StdioRuntime

open TunnelBroker

/-- The fields of `NativeReply` that a status or a stop reads. -/
structure NativeReply where
  transportStatus : Int
  protocolVersion : Int
  state : Int
  errorCode : Int
  deriving DecidableEq, Repr

/-- `KCTBFailureForTransport`. -/
def NativeReply.failure (transportStatus : Int) : NativeReply :=
  ⟨transportStatus, -1, -1, -1⟩

/-- `KCTBStateCode`. -/
def brokerStateCode : BrokerState → Int
  | .idle => 0
  | .running => 1
  | .routeHeld => 2

/-- `KCTBErrorCode`. -/
def brokerErrorCode : Option BrokerErrorCode → Int
  | none => 0
  | some .invalidRequest => 1
  | some .unavailable => 2
  | some .alreadyRunning => 3
  | some .ownershipMismatch => 4
  | some .staleGeneration => 5
  | some .routeHeld => 6
  | some .holdMismatch => 7
  | some .launchFailed => 8

/-- The result of `finishBrokerRequest` for a reply of the broker. -/
def NativeReply.ofBroker (reply : BrokerReply) : NativeReply where
  transportStatus := 0
  protocolVersion := brokerProtocolVersion.toNat
  state := brokerStateCode reply.state
  errorCode := brokerErrorCode reply.errorCode

def decodeTransportStatus : Int → Except NetworkErrorCode Unit
  | 0 => .ok ()
  | 1 => .error .operationTimedOut
  | 5 => .error .unsupportedProtocolVersion
  | 7 => .error .invalidConfiguration
  | 2 | 3 | 4 | 6 => .error .sidecarUnavailable
  | _ => .error .unsupportedProtocolVersion

def decodeState : Int → Except NetworkErrorCode BrokerState
  | 0 => .ok .idle
  | 1 => .ok .running
  | 2 => .ok .routeHeld
  | _ => .error .unsupportedProtocolVersion

def decodeErrorCode : Int → Except NetworkErrorCode (Option BrokerErrorCode)
  | 0 => .ok none
  | 1 => .ok (some .invalidRequest)
  | 2 => .ok (some .unavailable)
  | 3 => .ok (some .alreadyRunning)
  | 4 => .ok (some .ownershipMismatch)
  | 5 => .ok (some .staleGeneration)
  | 6 => .ok (some .routeHeld)
  | 7 => .ok (some .holdMismatch)
  | 8 => .ok (some .launchFailed)
  | _ => .error .unsupportedProtocolVersion

def decodeStatusReply (reply : NativeReply) :
    Except NetworkErrorCode BrokerReply := do
  decodeTransportStatus reply.transportStatus
  if reply.protocolVersion ≠ brokerProtocolVersion.toNat then
    throw .unsupportedProtocolVersion
  let state ← decodeState reply.state
  let error ← decodeErrorCode reply.errorCode
  return ⟨state, error⟩

@[simp]
theorem decodeStatusReply_ofBroker (reply : BrokerReply) :
    decodeStatusReply (.ofBroker reply) = .ok reply := by
  obtain ⟨state, error⟩ := reply
  cases state <;> rcases error with _ | error <;> try cases error
  all_goals rfl

def mapBrokerStatusError (status : BrokerReply) : NetworkErrorCode :=
  match status.errorCode with
  | some .invalidRequest => .invalidConfiguration
  | some .unavailable => .sidecarUnavailable
  | some .alreadyRunning => .invalidStateTransition
  | some .ownershipMismatch => .permissionDenied
  | some .staleGeneration => .invalidStateTransition
  | some .holdMismatch => .invalidStateTransition
  | some .routeHeld => .routeRollbackFailed
  | some .launchFailed => .tunnelStartFailed
  | none => .unsupportedProtocolVersion

def networkErrorToIo : NetworkErrorCode → IoErrorKind
  | .operationTimedOut => .timedOut
  | .sidecarUnavailable => .brokenPipe
  | .permissionDenied => .permissionDenied
  | .routeRollbackFailed => .wouldBlock
  | .invalidConfiguration => .invalidInput
  | .invalidStateTransition => .invalidInput
  | _ => .invalidData

def staleGenerationIoError : IoErrorKind := .notFound

/-- The trait `TunnelBrokerGeneration` after its start. -/
structure TunnelBrokerGeneration (β : Type) where
  status : β → β × NativeReply
  stop : β → β × NativeReply

/-- `TunnelBrokerProcessControl`, without the transferred pipe ends. -/
structure TunnelBrokerProcessControl (β : Type) where
  runtimeGeneration : Nat
  broker : β
  reaped : Option Bool
  recoveryOnly : Bool
  deriving DecidableEq, Repr

namespace TunnelBrokerProcessControl

variable {β : Type} (generation : TunnelBrokerGeneration β)

def enterRecoveryOnly (process : TunnelBrokerProcessControl β) :
    TunnelBrokerProcessControl β :=
  { process with recoveryOnly := true }

def tryWaitStatus (process : TunnelBrokerProcessControl β) :
    TunnelBrokerProcessControl β × Except IoErrorKind (Option Bool) :=
  match process.reaped with
  | some success => (process, .ok (some success))
  | none =>
    if process.recoveryOnly then
      (process, .error staleGenerationIoError)
    else
      let result := generation.status process.broker
      let process := { process with broker := result.1 }
      match decodeStatusReply result.2 with
      | .error error =>
        (process.enterRecoveryOnly, .error (networkErrorToIo error))
      | .ok ⟨_, some .staleGeneration⟩ =>
        (process.enterRecoveryOnly, .error staleGenerationIoError)
      | .ok ⟨.running, none⟩ => (process, .ok none)
      | .ok ⟨.routeHeld, none⟩ => (process, .ok none)
      | .ok status =>
        (process, .error (networkErrorToIo (mapBrokerStatusError status)))

def killOwned (process : TunnelBrokerProcessControl β) :
    TunnelBrokerProcessControl β × Except IoErrorKind Unit :=
  if process.recoveryOnly then
    (process, .error staleGenerationIoError)
  else if process.reaped.isSome then
    (process, .ok ())
  else
    let result := generation.stop process.broker
    let process := { process with broker := result.1 }
    match decodeStatusReply result.2 with
    | .error error =>
      (process.enterRecoveryOnly, .error (networkErrorToIo error))
    | .ok ⟨_, some .staleGeneration⟩ =>
      (process.enterRecoveryOnly, .error staleGenerationIoError)
    | .ok ⟨.idle, none⟩ => ({ process with reaped := some true }, .ok ())
    | .ok status =>
      (process, .error (networkErrorToIo (mapBrokerStatusError status)))

def control : ProcessControl (TunnelBrokerProcessControl β) where
  generation := runtimeGeneration
  tryWaitStatus := tryWaitStatus generation
  killOwned := killOwned generation

/-- A quarantined handle that never saw its child reaped. -/
structure Quarantined (process : TunnelBrokerProcessControl β) : Prop where
  unreaped : process.reaped = none
  recoveryOnly : process.recoveryOnly = true

variable {process : TunnelBrokerProcessControl β}

theorem Quarantined.tryWaitStatus_eq (quarantined : process.Quarantined) :
    tryWaitStatus generation process =
      (process, .error staleGenerationIoError) := by
  simp [tryWaitStatus, quarantined.unreaped, quarantined.recoveryOnly]

theorem Quarantined.killOwned_eq (quarantined : process.Quarantined) :
    killOwned generation process =
      (process, .error staleGenerationIoError) := by
  simp [killOwned, quarantined.recoveryOnly]

end TunnelBrokerProcessControl

end KyClash.StdioRuntime
