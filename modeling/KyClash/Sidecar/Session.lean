import KyClash.Sidecar.Protocol

/-!
# A session of the sidecar

The session object of `session.go`, the cancellable operations of
`control.go` and the requests that `handleWithContext` serves without
starting one.

Of the backend the model keeps whether it has a carrier, and for which record
the carrier was opened; what its calls return is given from outside.  A
failed `Connect` opens no carrier and a `Disconnect` or `Close` that succeeds
leaves none.
-/

namespace KyClash.Sidecar

structure Session where
  profile : Option Profile
  tunnelPrepared : Bool
  activeTransport : Option TransportKind
  lastError : Option NetworkErrorCode
  deriving DecidableEq, Repr

/-- `carrier` is the position of the record that opened it. -/
structure Backend where
  carrier : Option Nat
  deriving DecidableEq, Repr

/-- What the backend's calls return while one request is handled; `none` and
`false` are errors. -/
structure Calls where
  prepare : Option TunnelDeviceFacts
  connect : Bool
  health : Option Health
  disconnect : Bool
  stop : Bool
  close : Bool
  deriving DecidableEq, Repr

structure CancellableOperation where
  request : Request
  transport : Option TransportKind
  endpoint : Option NormalizedEndpoint
  deriving DecidableEq, Repr

/-- `backendOperationResult`: the error, or what the call returned. -/
inductive BackendResult where
  | failed
  | connected
  | health (health : Health)
  | privateReachability (reachability : PrivateReachability)
  deriving DecidableEq, Repr

namespace Session

def new (profile : Option Profile) : Session where
  profile := profile
  tunnelPrepared := false
  activeTransport := none
  lastError := none

def status (session : Session) : Status where
  state :=
    match session.activeTransport with
    | some .quic => .connectedPrimary
    | some _ => .degradedFallback
    | none => if session.tunnelPrepared then .preparingTunnel
        else .disconnected
  activeProfileID := session.profile.map (·.profileID)
  activeTransport := session.activeTransport
  lastError := session.lastError

def backendFailure (session : Session) (request : Request) :
    Session × Response :=
  ({ session with lastError := some .sidecarUnavailable },
    request.respond
      (.err ⟨.sidecarUnavailable, .dataPlaneOperationFailed, true⟩))

/-- The checks that `connect_transport` makes before it dials. -/
def connectTarget (session : Session) (request : Request) :
    Except Response (TransportKind × NormalizedEndpoint) :=
  match (if request.data.empty then none else request.data.transport) with
  | none => .error request.invalidData
  | some transport =>
    match session.profile with
    | none => .error request.invalidState
    | some profile =>
      if !session.tunnelPrepared || session.activeTransport.isSome ||
          !profile.hasTransport transport then
        .error request.invalidState
      else
        match profile.endpoint transport with
        | none => .error request.invalidData
        | some endpoint => .ok (transport, endpoint)

def sampleTarget (session : Session) (request : Request) :
    Except Response Unit :=
  if !request.data.empty then .error request.invalidData
  else if session.activeTransport.isNone then .error request.invalidState
  else .ok ()

/-- `probes` tells whether the backend is a `PrivateReachabilityBackend`. -/
def prepareCancellable (probes : Bool) (session : Session) (request : Request) :
    Except Response CancellableOperation := do
  match request.type with
  | .connectTransport =>
    let (transport, endpoint) ← session.connectTarget request
    return ⟨request, some transport, some endpoint⟩
  | .sampleHealth =>
    session.sampleTarget request
    return ⟨request, none, none⟩
  | .samplePrivateReachability =>
    session.sampleTarget request
    if probes then return ⟨request, none, none⟩
    else throw request.invalidState
  | _ => throw request.invalidState

def completeCancellable (session : Session) (operation : CancellableOperation)
    (result : BackendResult) : Session × Response :=
  match operation.request.type, result with
  | .connectTransport, .connected =>
    let session :=
      { session with
        activeTransport := operation.transport
        lastError := none }
    (session, operation.request.respond (.ok (.status session.status)))
  | .sampleHealth, .health health =>
    if health.valid then
      (session, operation.request.respond (.ok (.health health)))
    else
      session.backendFailure operation.request
  | .samplePrivateReachability, .privateReachability reachability =>
    if reachability.valid then
      (session, operation.request.respond
        (.ok (.privateReachability reachability)))
    else
      session.backendFailure operation.request
  | _, _ => session.backendFailure operation.request

/-- What `handleWithContext` leaves and returns. -/
structure Handled where
  session : Session
  backend : Backend
  response : Response
  stop : Bool
  deriving DecidableEq, Repr

def answer (session : Session) (backend : Backend) (response : Response) :
    Handled :=
  ⟨session, backend, response, false⟩

/-- A backend call failed; the calls before it have happened. -/
def failed (session : Session) (backend : Backend) (request : Request) :
    Handled :=
  let failure := session.backendFailure request
  ⟨failure.1, backend, failure.2, false⟩

/-- A request that succeeds and reports the new status. -/
def succeeded (session : Session) (backend : Backend) (request : Request) :
    Handled :=
  let session := { session with lastError := none }
  ⟨session, backend, request.respond (.ok (.status session.status)), false⟩

/-- The shutdown request: the calls run in order and the first error ends
it, with the session as it was. -/
def shutDown (session : Session) (backend : Backend) (calls : Calls)
    (request : Request) : Handled :=
  if session.activeTransport.isSome && !calls.disconnect then
    session.failed backend request
  else
    let backend : Backend :=
      if session.activeTransport.isSome then ⟨none⟩ else backend
    if session.tunnelPrepared && !calls.stop then
      session.failed backend request
    else if !calls.close then
      session.failed backend request
    else
      ⟨.new none, ⟨none⟩, request.respond (.ok .acknowledged), true⟩

/-- `handleWithContext`.  The position is the one of the record. -/
def handle (session : Session) (backend : Backend) (calls : Calls)
    (position : Nat) (request : Request) : Handled :=
  let invalidData := session.answer backend request.invalidData
  let invalidState := session.answer backend request.invalidState
  match request.type with
  | .getStatus =>
    if !request.data.empty then invalidData
    else
      session.answer backend (request.respond (.ok (.status session.status)))
  | .disconnect =>
    if !request.data.empty then invalidData
    else session.shutDown backend calls request
  | .connectTransport =>
    match session.connectTarget request with
    | .error response => session.answer backend response
    | .ok (transport, _) =>
      if !calls.connect then session.failed backend request
      else
        succeeded { session with activeTransport := some transport }
          ⟨some position⟩ request
  | .cancel =>
    match request.decodeCancelTarget with
    | none => invalidData
    | some _ => session.answer backend request.cancelTooLate
  | .applyProfile =>
    match request.data.profile with
    | none => invalidData
    | some profile =>
      if session.tunnelPrepared || session.activeTransport.isSome then
        invalidState
      else
        answer { session with profile := some profile, lastError := none }
          backend (request.respond (.ok .acknowledged))
  | .prepareTunnel =>
    if !request.data.empty then invalidData
    else if session.profile.isNone || session.tunnelPrepared then
      invalidState
    else
      match calls.prepare with
      | none => session.failed backend request
      | some facts =>
        answer { session with tunnelPrepared := true, lastError := none }
          backend (request.respond (.ok (.tunnelPrepared facts)))
  | .disconnectTransport =>
    if !request.data.empty then invalidData
    else if session.activeTransport.isNone then invalidState
    else if !calls.disconnect then session.failed backend request
    else
      succeeded { session with activeTransport := none } ⟨none⟩ request
  | .stopTunnel =>
    if !request.data.empty then invalidData
    else if !session.tunnelPrepared || session.activeTransport.isSome then
      invalidState
    else if !calls.stop then session.failed backend request
    else
      succeeded { session with tunnelPrepared := false } backend request
  | .sampleHealth =>
    match session.sampleTarget request with
    | .error response => session.answer backend response
    | .ok _ =>
      match calls.health.filter (·.valid) with
      | none => session.failed backend request
      | some health =>
        session.answer backend (request.respond (.ok (.health health)))
  | .connect =>
    if !request.data.empty then invalidData
    else
      session.answer backend (request.respond (.err ⟨.sidecarUnavailable,
        .realNetworkingRemainsDisabled, true⟩))
  | .samplePrivateReachability | .unknown =>
    session.answer backend (request.respond (.err ⟨.invalidConfiguration,
      .unknownRequestType, false⟩))

end Session

/-- The results that the backend's call for this operation can have. -/
def CancellableOperation.mayReturn (operation : CancellableOperation)
    (result : BackendResult) : Bool :=
  match operation.request.type, result with
  | _, .failed => true
  | .connectTransport, .connected => true
  | .sampleHealth, .health _ => true
  | .samplePrivateReachability, .privateReachability _ => true
  | _, _ => false

end KyClash.Sidecar
