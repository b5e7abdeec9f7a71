import KyClash.Networking.State
import Mathlib.Data.List.Basic

/-!
# The wire contract of the sidecar

Requests and responses of `network-sidecar/internal/ipc/ipc.go`, with the
checks that do not need a session.  JSON is not modelled: a payload's data is
given by what each of the decoders makes of it.
-/

namespace KyClash.Sidecar

/-- Texts, as their UTF-8 bytes. -/
abbrev Text := List UInt8

def protocolVersion : UInt8 := 2

/-- The characters of an identifier; 46 is the dot. -/
def identifierByte (byte : UInt8) : Bool :=
  (97 ≤ byte && byte ≤ 122) || (65 ≤ byte && byte ≤ 90) ||
    (48 ≤ byte && byte ≤ 57) || byte = 45 || byte = 95 || byte = 46

/-- The loop of `identifier.Valid`. -/
def validFrom : (previousDot : Bool) → Text → Bool
  | _, [] => true
  | previousDot, byte :: rest =>
    identifierByte byte && !(byte = 46 && previousDot) &&
      validFrom (byte = 46) rest

def validID (value : Text) : Bool :=
  8 ≤ value.length && value.length ≤ 64 && value.head? ≠ some 46 &&
    value.getLast? ≠ some 46 && validFrom false value

def alphaNumeric (byte : UInt8) : Bool :=
  (97 ≤ byte && byte ≤ 122) || (65 ≤ byte && byte ≤ 90) ||
    (48 ≤ byte && byte ≤ 57)

/-- `validID` of a profile, with the bytes of `._:-`. -/
def validProfileID (value : Text) : Bool :=
  value ≠ [] && value.length ≤ 128 && value.zipIdx.all fun (byte, index) =>
    alphaNumeric byte || (index ≠ 0 && [46, 95, 58, 45].contains byte)

theorem validProfileID_letter : validProfileID [112] = true := by decide

structure NormalizedEndpoint where
  transport : TransportKind
  url : Text
  address : Text
  serverName : Text
  deriving DecidableEq, Repr

/-- The fields of `profile.Profile` that a session reads.  An endpoint stands
with what `normalize` makes of it.  A session only gets profiles that have
passed `Validate`, of which the check of the identifier is kept. -/
structure Profile where
  profileID : Text
  primary : TransportKind
  fallbacks : List TransportKind
  endpoints : List (TransportKind × Option NormalizedEndpoint)
  valid : validProfileID profileID = true
  deriving DecidableEq, Repr

namespace Profile

def hasTransport (profile : Profile) (transport : TransportKind) : Bool :=
  transport = profile.primary || profile.fallbacks.contains transport

/-- The first endpoint of the transport decides. -/
def endpoint (profile : Profile) (transport : TransportKind) :
    Option NormalizedEndpoint :=
  (profile.endpoints.lookup transport).join

end Profile

inductive RequestType where
  | getStatus
  | applyProfile
  | prepareTunnel
  | stopTunnel
  | connectTransport
  | disconnectTransport
  | sampleHealth
  | samplePrivateReachability
  | connect
  | disconnect
  | cancel
  | unknown
  deriving DecidableEq, Repr

/-- `empty` is `emptyData`.  The others are the results of decoding the data
as a transport (one of the three), as a cancel target and as a valid
profile. -/
structure Data where
  empty : Bool
  transport : Option TransportKind
  target : Option Text
  profile : Option Profile
  deriving DecidableEq, Repr

structure Request where
  protocolVersion : UInt8
  requestID : Text
  type : RequestType
  data : Data
  deriving DecidableEq, Repr

/-- The last check of `decodeRequest`. -/
def Request.accepted (request : Request) : Bool :=
  request.protocolVersion = Sidecar.protocolVersion && validID request.requestID

structure Health where
  reachable : Bool
  latencyMS : UInt32
  jitterMS : UInt32
  lossPercent : UInt8
  deriving DecidableEq, Repr

def Health.valid (health : Health) : Bool :=
  health.lossPercent ≤ 100

structure PrivateReachability where
  reachable : Bool
  latencyMS : UInt32
  mihomoCoexisting : Option Bool
  overlaySSHVerified : Option Bool
  systemSSHVerified : Option Bool
  deriving DecidableEq, Repr

def PrivateReachability.valid (_ : PrivateReachability) : Bool := true

structure TunnelDeviceFacts where
  interfaceName : Text
  mtu : Int
  hasIPv4 : Bool
  hasIPv6 : Bool
  instanceID : Text
  operationID : Text
  deriving DecidableEq, Repr

structure Status where
  state : NetworkState
  activeProfileID : Option Text
  activeTransport : Option TransportKind
  lastError : Option NetworkErrorCode
  deriving DecidableEq, Repr

inductive ErrorMessage where
  | invalidRequestPayload
  | invalidSidecarStateTransition
  | dataPlaneOperationFailed
  | operationCancelled
  | operationAlreadyCompleted
  | realNetworkingRemainsDisabled
  | unknownRequestType
  deriving DecidableEq, Repr

def ErrorMessage.text : ErrorMessage → String
  | .invalidRequestPayload => "invalid request payload"
  | .invalidSidecarStateTransition => "invalid sidecar state transition"
  | .dataPlaneOperationFailed => "data-plane operation failed"
  | .operationCancelled => "operation cancelled"
  | .operationAlreadyCompleted => "operation already completed"
  | .realNetworkingRemainsDisabled => "real networking remains disabled"
  | .unknownRequestType => "unknown request type"

structure Error where
  code : NetworkErrorCode
  message : ErrorMessage
  retryable : Bool
  deriving DecidableEq, Repr

inductive ResponsePayload where
  | acknowledged
  | cancelAccepted (targetRequestID : Text)
  | status (status : Status)
  | health (health : Health)
  | privateReachability (reachability : PrivateReachability)
  | tunnelPrepared (facts : TunnelDeviceFacts)
  deriving DecidableEq, Repr

inductive Result where
  | ok (payload : ResponsePayload)
  | err (error : Error)
  deriving DecidableEq, Repr

structure Response where
  protocolVersion : UInt8
  requestID : Text
  result : Result
  deriving DecidableEq, Repr

namespace Request

def respond (request : Request) (result : Result) : Response :=
  ⟨Sidecar.protocolVersion, request.requestID, result⟩

def invalidData (request : Request) : Response :=
  request.respond (.err ⟨.invalidConfiguration, .invalidRequestPayload, false⟩)

def invalidState (request : Request) : Response :=
  request.respond
    (.err ⟨.invalidStateTransition, .invalidSidecarStateTransition, false⟩)

/-- The response of a request that was cancelled. -/
def cancelled (request : Request) : Response :=
  request.respond (.err ⟨.operationCancelled, .operationCancelled, false⟩)

def cancelAccepted (request : Request) (targetRequestID : Text) : Response :=
  request.respond (.ok (.cancelAccepted targetRequestID))

def cancelTooLate (request : Request) : Response :=
  request.respond
    (.err ⟨.invalidStateTransition, .operationAlreadyCompleted, false⟩)

/-- A cancel names another request by a valid identifier. -/
def decodeCancelTarget (request : Request) : Option Text :=
  if request.data.empty then none
  else
    request.data.target.filter fun target =>
      validID target && target ≠ request.requestID

end Request

end KyClash.Sidecar
