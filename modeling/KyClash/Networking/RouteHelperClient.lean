import KyClash.Networking.RouteRecord
import KyClash.RouteHelper.Coordinator

/-!
# How the application reads a reply of the route helper

The reply of the v3 helper crosses two checks: the Objective-C bridge
`route-helper/client-v3.m` compares it with the request and projects it to a
plain record, and `decode_native_reply` of
`networking/route_helper_v3_client.rs` checks that record once more.

A reply that the bridge does not accept ends the client: it answers every
later call with a protocol failure and sends nothing.
-/

namespace KyClash.Networking

open RouteHelper (HelperReplyV3 LeaseReferenceV3 ReplyError ReplyState)

def RouteLeaseContractError.networkCode :
    RouteLeaseContractError → NetworkErrorCode
  | .unsupportedProtocolVersion | .recoveryOnly => .unsupportedProtocolVersion
  | .invalidConfiguration => .invalidConfiguration
  | .ownershipMismatch | .replayDetected => .authenticationFailed
  | .invalidStateTransition => .invalidStateTransition

/-- A check of the lease contract, with the code of its error. -/
def networkChecked {α : Type} :
    Except RouteLeaseContractError α → Except NetworkErrorCode α
  | .error error => .error error.networkCode
  | .ok value => .ok value

/-- The reference as the helper receives it. -/
def RouteLeaseReferenceV3.native (reference : RouteLeaseReferenceV3) :
    LeaseReferenceV3 where
  protocolVersion := reference.protocolVersion
  brokerProtocolVersion := reference.brokerProtocolVersion
  brokerGeneration := reference.brokerGeneration
  sidecarInstanceID := reference.sidecarInstanceId
  leaseID := reference.leaseId
  operationID := reference.operationId

/-- `KCRV3TransportStatus`, without the success. -/
inductive TransportFailure where
  | timeout
  | remoteFailure
  | interrupted
  | invalidated
  | protocolFailure
  | terminal
  | invalidArgument
  deriving DecidableEq, Repr

/-- `KCRV3ClientReply` of a successful transport, with its codes. -/
structure NativeReplyV3 where
  protocolVersion : Nat
  state : Nat
  errorCode : Nat
  transition : UInt64
  brokerGeneration : UInt64
  sidecarInstanceId : List UInt8
  routeLeaseId : List UInt8
  operationId : List UInt8
  deriving DecidableEq, Repr

/-- `KCRV3StateCode`. -/
def stateCode : ReplyState → Nat
  | .idle => 0
  | .journal .holdPending => 1
  | .journal .held => 2
  | .journal .applied => 3
  | .journal .retirementPending => 4
  | .journal .released => 5
  | .recoveryOnly => 6
  | .failedClosed => 7

/-- `KCRV3ErrorValue`, on the codes that the coordinator uses. -/
def errorValue : Option ReplyError → Nat
  | none => 0
  | some .journalWriteFailed => 4
  | some .routeApplyFailed => 6
  | some .rollbackFailed => 7
  | some .releaseFailed => 7
  | some .routeConflict => 8
  | some .recoveryRequired => 9
  | some .ownershipMismatch => 10
  | some .brokerProtocolFailure => 11
  | some .brokerStatusFailed => 12

/-- `KCRReplyV3.isValid`, and that its transition is decoded: it is sent as a
signed number. -/
def replyIsValid (reply : HelperReplyV3) : Bool :=
  reply.transition.toNat < 2 ^ 63 &&
    match reply.reference with
    | some reference => reference.isValid && 0 < reply.transition
    | none =>
      reply.transition = 0 &&
        (reply.state = .idle || reply.state = .recoveryOnly ||
          reply.state = .failedClosed)

/-- `KCRV3CopyString`: 65 bytes, of which the last is a zero. -/
def copyString (value : List UInt8) : List UInt8 :=
  let bytes := if 64 < value.length then [] else value
  bytes ++ List.replicate (65 - bytes.length) 0

/-- Whether the reply answers a request that expects this reference. -/
def answersRequest (reply : HelperReplyV3) (expected : Option LeaseReferenceV3)
    (allowIdleWithoutReference : Bool) : Bool :=
  match expected, reply.reference with
  | none, reference => reference.isNone
  | some _, none =>
    allowIdleWithoutReference && stateCode reply.state = 0 &&
      errorValue reply.errorCode = 0
  | some expected, some reference =>
    reference.isValid && expected.isValid && reference = expected

/-- `KCRV3ReplyValue`; `none` is a protocol failure. -/
def replyValue (reply : HelperReplyV3) (expected : Option LeaseReferenceV3)
    (allowIdleWithoutReference : Bool) : Option NativeReplyV3 :=
  if !replyIsValid reply then
    none
  else if !answersRequest reply expected allowIdleWithoutReference then
    none
  else
    let text (field : LeaseReferenceV3 → List UInt8) : List UInt8 :=
      copyString ((reply.reference.map field).getD [])
    some {
      protocolVersion := routeHelperV3ProtocolVersion.toNat
      state := stateCode reply.state
      errorCode := errorValue reply.errorCode
      transition := reply.transition
      brokerGeneration := (reply.reference.map (·.brokerGeneration)).getD 0
      sidecarInstanceId := text (·.sidecarInstanceID)
      routeLeaseId := text (·.leaseID)
      operationId := text (·.operationID) }

inductive RouteHelperV3State where
  | idle
  | holdPending
  | held
  | applied
  | retirementPending
  | released
  | recoveryOnly
  | failedClosed
  deriving DecidableEq, Repr

structure RouteHelperV3Status where
  protocolVersion : UInt8
  state : RouteHelperV3State
  transition : UInt64
  reference : Option RouteLeaseReferenceV3
  errorCode : Option NetworkErrorCode
  deriving DecidableEq, Repr

def TransportFailure.networkCode : TransportFailure → NetworkErrorCode
  | .timeout => .operationTimedOut
  | .remoteFailure | .invalidated | .terminal => .sidecarUnavailable
  | .interrupted => .operationCancelled
  | .protocolFailure => .unsupportedProtocolVersion
  | .invalidArgument => .invalidConfiguration

def decodeState : Nat → Option RouteHelperV3State
  | 0 => some .idle
  | 1 => some .holdPending
  | 2 => some .held
  | 3 => some .applied
  | 4 => some .retirementPending
  | 5 => some .released
  | 6 => some .recoveryOnly
  | 7 => some .failedClosed
  | _ => none

/-- `some none` is the absence of an error. -/
def decodeErrorCode : Nat → Option (Option NetworkErrorCode)
  | 0 => some none
  | 1 => some (some .sidecarUnavailable)
  | 2 => some (some .invalidConfiguration)
  | 3 => some (some .permissionDenied)
  | 4 => some (some .routeJournalUnavailable)
  | 5 => some (some .routeJournalCorrupted)
  | 6 | 7 => some (some .routeRollbackFailed)
  | 8 => some (some .routeConflict)
  | 9 => some (some .invalidStateTransition)
  | 10 => some (some .authenticationFailed)
  | 11 | 12 => some (some .sidecarUnavailable)
  | _ => none

/-- `bounded_text`.  The bridge copies valid UTF-8. -/
def boundedText (value : List UInt8) : Except NetworkErrorCode (Option Utf8) :=
  match value.idxOf? 0 with
  | none => .error .unsupportedProtocolVersion
  | some stop =>
    if (value.drop (stop + 1)).any (· ≠ 0) then
      .error .unsupportedProtocolVersion
    else if stop = 0 then
      .ok none
    else
      .ok (some (value.take stop))

def echoedReference (reply : NativeReplyV3) :
    Except NetworkErrorCode (Option RouteLeaseReferenceV3) := do
  let sidecar ← boundedText reply.sidecarInstanceId
  let lease ← boundedText reply.routeLeaseId
  let operation ← boundedText reply.operationId
  if sidecar.isNone && lease.isNone && operation.isNone &&
      reply.brokerGeneration = 0 then
    return none
  match sidecar, lease, operation with
  | some sidecarInstanceId, some leaseId, some operationId =>
    let reference : RouteLeaseReferenceV3 := {
      protocolVersion := routeHelperV3ProtocolVersion
      brokerProtocolVersion := routeBrokerProtocolVersion
      brokerGeneration := reply.brokerGeneration
      sidecarInstanceId, leaseId, operationId }
    networkChecked reference.validate
    return some reference
  | _, _, _ => throw .unsupportedProtocolVersion

/-- The `match expected` of `decode_native_reply`. -/
def echoIsExpected (reply : NativeReplyV3)
    (expected echoed : Option RouteLeaseReferenceV3)
    (errorCode : Option NetworkErrorCode) (allowIdleWithoutReference : Bool) :
    Bool :=
  match expected, echoed with
  | none, echoed =>
    echoed.isNone && reply.transition = 0 &&
      (reply.state = 0 || reply.state = 6 || reply.state = 7)
  | some expected, some actual => actual = expected
  | some _, none =>
    allowIdleWithoutReference && reply.state = 0 && errorCode.isNone

/-- `decode_native_reply` of a successful transport. -/
def decodeNativeReply (reply : NativeReplyV3)
    (expected : Option RouteLeaseReferenceV3)
    (allowIdleWithoutReference : Bool) :
    Except NetworkErrorCode RouteHelperV3Status :=
  if reply.protocolVersion ≠ routeHelperV3ProtocolVersion.toNat then
    .error .unsupportedProtocolVersion
  else
    match decodeState reply.state, decodeErrorCode reply.errorCode with
    | some state, some errorCode =>
      match echoedReference reply with
      | .error error => .error error
      | .ok echoed =>
        if !echoIsExpected reply expected echoed errorCode
            allowIdleWithoutReference then
          .error .authenticationFailed
        else if echoed.isSome && reply.transition = 0 then
          .error .unsupportedProtocolVersion
        else
          .ok {
            protocolVersion := routeHelperV3ProtocolVersion
            state
            transition := reply.transition
            reference := echoed
            errorCode }
    | _, _ => .error .unsupportedProtocolVersion

/-- What a call returns for this reply of the helper, and whether the bridge
has accepted the reply. -/
def readReply (reply : HelperReplyV3) (expected : Option RouteLeaseReferenceV3)
    (allowIdleWithoutReference : Bool) :
    Except NetworkErrorCode RouteHelperV3Status × Bool :=
  match replyValue reply (expected.map (·.native))
    allowIdleWithoutReference with
  | none => (.error TransportFailure.protocolFailure.networkCode, false)
  | some native =>
    (decodeNativeReply native expected allowIdleWithoutReference, true)

end KyClash.Networking
