import KyClash.Sidecar.Protocol

/-!
# The IPC contract on the client's side

Requests and validation of `networking/ipc.rs`.  The client's types for
responses are those of the wire, which the sidecar writes; a record that they
cannot hold (a maximum transmission unit beyond `u16`) also fails the
validation below.
-/

namespace KyClash.Ipc

open Sidecar (Text Profile Response Status Health TunnelDeviceFacts)

def protocolVersion : UInt8 := 2

/-- A profile stands with what the sidecar's decoder makes of it. -/
inductive RequestPayload where
  | getStatus
  | applyProfile (decoded : Option Profile)
  | prepareTunnel
  | stopTunnel
  | connectTransport (transport : TransportKind)
  | disconnectTransport
  | sampleHealth
  | samplePrivateReachability
  | connect
  | disconnect
  | cancel (targetRequestID : Text)
  deriving DecidableEq, Repr

/-- `IpcRequest`. -/
structure Request where
  protocolVersion : UInt8
  requestID : Text
  payload : RequestPayload
  deriving DecidableEq, Repr

namespace RequestPayload

def type : RequestPayload → Sidecar.RequestType
  | .getStatus => .getStatus
  | .applyProfile _ => .applyProfile
  | .prepareTunnel => .prepareTunnel
  | .stopTunnel => .stopTunnel
  | .connectTransport _ => .connectTransport
  | .disconnectTransport => .disconnectTransport
  | .sampleHealth => .sampleHealth
  | .samplePrivateReachability => .samplePrivateReachability
  | .connect => .connect
  | .disconnect => .disconnect
  | .cancel _ => .cancel

/-- What the sidecar's decoders make of the encoded data.  Every decoder
rejects unknown fields, so at most one of them succeeds. -/
def data : RequestPayload → Sidecar.Data
  | .applyProfile decoded => ⟨false, none, none, decoded⟩
  | .connectTransport transport => ⟨false, some transport, none, none⟩
  | .cancel target => ⟨false, none, some target, none⟩
  | _ => ⟨true, none, none, none⟩

end RequestPayload

/-- The record that the sidecar decodes. -/
def Request.record (request : Request) : Sidecar.Request :=
  ⟨request.protocolVersion, request.requestID, request.payload.type,
    request.payload.data⟩

/-- `valid_ipc_id`; 46 is the dot. -/
def validIpcID (value : Text) : Bool :=
  (8 ≤ value.length && value.length ≤ 64) && value.head? ≠ some 46 &&
    value.getLast? ≠ some 46 && !(value.zip value.tail).any (· = (46, 46)) &&
    value.all fun byte => Sidecar.alphaNumeric byte || byte = 45 || byte = 95 ||
      byte = 46

def validProfileID (value : Text) : Bool :=
  value ≠ [] && value.length ≤ 128 &&
    value.zipIdx.all fun (ch, index) => Sidecar.alphaNumeric ch ||
      (index > 0 && (ch = 46 || ch = 95 || ch = 58 || ch = 45))

def isControl (ch : Char) : Bool :=
  ch.val < 0x20 || (0x7f ≤ ch.val && ch.val ≤ 0x9f)

def validateIpcError (error : Sidecar.Error) : Except NetworkErrorCode Unit :=
  if error.message.text.isEmpty || error.message.text.utf8ByteSize > 512 ||
      error.message.text.toList.any isControl then
    .error .invalidConfiguration
  else
    .ok ()

/-- `NetworkHealth::validate`. -/
def validateHealth (health : Health) : Except NetworkErrorCode Unit :=
  if health.lossPercent ≤ 100 then .ok () else .error .invalidConfiguration

/-- The last check of `validate_network_status`. -/
def validState (status : Status) : Bool :=
  match status.state with
  | .disconnected => status.activeTransport.isNone
  | .preparingTunnel =>
    status.activeProfileID.isSome && status.activeTransport.isNone
  | .connectedPrimary =>
    status.activeProfileID.isSome && status.activeTransport = some .quic
  | .degradedFallback =>
    status.activeProfileID.isSome && (status.activeTransport = some .wss ||
        status.activeTransport = some .tcp)
  | _ => false

def validateNetworkStatus (status : Status) : Except NetworkErrorCode Unit :=
  if status.activeProfileID.any (!validProfileID ·) then
    .error .invalidConfiguration
  else if validState status then
    .ok ()
  else
    .error .invalidConfiguration

def requireStatus (status : Status) (expectedState : NetworkState)
    (expectedTransport : Option TransportKind) : Except NetworkErrorCode Unit :=
  if status.state = expectedState &&
      status.activeTransport = expectedTransport &&
      status.lastError.isNone then
    .ok ()
  else
    .error .invalidConfiguration

/-- `valid_utun_interface`: "utun" and a decimal number without a leading
zero, in at most fifteen bytes. -/
def validUtunInterface (value : Text) : Bool :=
  5 ≤ value.length && value.length ≤ 15 &&
    value.take 4 = [117, 116, 117, 110] &&
    (value.length = 5 || value[4]? ≠ some 48) &&
    (value.drop 4).all fun byte => 48 ≤ byte && byte ≤ 57

/-- `validate_sidecar_response` for an instance that the facts name
themselves; the interface may also be "userspace". -/
def validateSidecarResponse (facts : TunnelDeviceFacts) (operationID : Text) :
    Except NetworkErrorCode Unit :=
  if facts.mtu ≠ 1420 || facts.operationID ≠ operationID then
    .error .authenticationFailed
  else if facts.interfaceName ≠ [117, 115, 101, 114, 115, 112, 97, 99, 101] &&
      !validUtunInterface facts.interfaceName then
    .error .authenticationFailed
  else
    .ok ()

def Request.validateProtocol (request : Request) :
    Except NetworkErrorCode Unit :=
  if request.protocolVersion ≠ Ipc.protocolVersion then
    .error .unsupportedProtocolVersion
  else if !validIpcID request.requestID then
    .error .invalidConfiguration
  else
    match request.payload with
    | .cancel target =>
      if !validIpcID target || target = request.requestID then
        .error .invalidConfiguration
      else
        .ok ()
    | _ => .ok ()

def validateResponsePayload (request : Request) :
    Sidecar.ResponsePayload → Except NetworkErrorCode Unit
  | .status status => do
      match request.payload with
      | .getStatus => validateNetworkStatus status
      | .connect =>
        validateNetworkStatus status
        requireStatus status .connectedPrimary (some .quic)
      | .stopTunnel =>
        validateNetworkStatus status
        requireStatus status .disconnected none
      | .connectTransport transport =>
        validateNetworkStatus status
        requireStatus status (if transport = .quic then .connectedPrimary
            else .degradedFallback) (some transport)
      | .disconnectTransport =>
        validateNetworkStatus status
        requireStatus status .preparingTunnel none
      | _ => throw .invalidConfiguration
  | .acknowledged =>
    match request.payload with
    | .applyProfile _ => .ok ()
    | .disconnect => .ok ()
    | _ => .error .invalidConfiguration
  | .cancelAccepted acceptedTarget =>
    match request.payload with
    | .cancel target =>
      if validIpcID target && target ≠ request.requestID &&
          acceptedTarget = target then
        .ok ()
      else
        .error .invalidConfiguration
    | _ => .error .invalidConfiguration
  | .tunnelPrepared facts =>
    match request.payload with
    | .prepareTunnel =>
      match validateSidecarResponse facts request.requestID with
      | .error _ => .error .invalidConfiguration
      | .ok () =>
        if !validIpcID facts.instanceID ||
            (!facts.hasIPv4 && !facts.hasIPv6) then
          .error .invalidConfiguration
        else
          .ok ()
    | _ => .error .invalidConfiguration
  | .health health =>
    match request.payload with
    | .sampleHealth => validateHealth health
    | _ => .error .invalidConfiguration
  | .privateReachability _ =>
    match request.payload with
    | .samplePrivateReachability => .ok ()
    | _ => .error .invalidConfiguration

def validateProtocol (response : Response) (request : Request) :
    Except NetworkErrorCode Unit := do
  request.validateProtocol
  if response.protocolVersion ≠ Ipc.protocolVersion then
    throw .unsupportedProtocolVersion
  if !validIpcID response.requestID ||
      response.requestID ≠ request.requestID then
    throw .authenticationFailed
  match response.result with
  | .ok payload => validateResponsePayload request payload
  | .err error => validateIpcError error

/-! ## Agreement with the sidecar -/

/-- The sidecar's loop remembers whether the last character was a dot; the
client looks at all pairs of neighbours. -/
theorem validFrom_eq (previousDot : Bool) (value : Text) :
    Sidecar.validFrom previousDot value =
      (!(previousDot && value.head? = some 46) &&
        !(value.zip value.tail).any (· = (46, 46)) &&
        value.all Sidecar.identifierByte) := by
  induction value generalizing previousDot with
  | nil => cases previousDot <;> rfl
  | cons byte rest ih =>
    rw [Sidecar.validFrom, ih]
    cases rest with
    | nil => cases previousDot <;> simp [Bool.and_comm]
    | cons second later =>
      by_cases dot : byte = 46
      · by_cases again : second = 46
        · cases previousDot <;> simp [dot, again]
        · cases previousDot <;> simp [dot, again, Bool.and_left_comm]
      · cases previousDot <;> simp [dot, Bool.and_left_comm]

theorem validIpcID_eq (value : Text) :
    validIpcID value = Sidecar.validID value := by
  simp only [validIpcID, Sidecar.validID, validFrom_eq, Bool.false_and,
    Bool.not_false, Bool.true_and, Bool.and_assoc]
  rfl

private theorem validProfileID_eq (value : Text) :
    validProfileID value = Sidecar.validProfileID value := by
  have same : ∀ (ch : UInt8) (index : Nat),
      (Sidecar.alphaNumeric ch ||
          (decide (index > 0) && (ch = 46 || ch = 95 || ch = 58 || ch = 45))) =
        (Sidecar.alphaNumeric ch ||
          (decide (index ≠ 0) && [46, 95, 58, 45].contains ch)) := by
    intro ch index
    simp [Nat.pos_iff_ne_zero, Bool.or_assoc]
  simp only [validProfileID, Sidecar.validProfileID, same]

theorem Profile.validProfileID (profile : Profile) :
    Ipc.validProfileID profile.profileID = true :=
  (validProfileID_eq _).trans profile.valid

private theorem validateIpcError_eq (error : Sidecar.Error) :
    validateIpcError error = .ok () := by
  have passes : (error.message.text.isEmpty ||
        error.message.text.utf8ByteSize > 512 ||
        error.message.text.toList.any isControl) = false := by
    cases error.message <;> decide
  rw [validateIpcError, passes]
  rfl

/-- What a request that passes is. -/
structure Request.Valid (request : Request) : Prop where
  version : request.protocolVersion = Ipc.protocolVersion
  id : validIpcID request.requestID = true
  target : ∀ target, request.payload = .cancel target →
    validIpcID target = true ∧ target ≠ request.requestID

theorem Request.validateProtocol_eq_ok_iff (request : Request) :
    request.validateProtocol = .ok () ↔ request.Valid := by
  unfold Request.validateProtocol
  constructor
  · intro passes
    split at passes
    · cases passes
    · next version =>
      split at passes
      · cases passes
      · next id =>
        refine ⟨not_not.mp version, by simpa using id, ?_⟩
        intro target payload
        rw [payload] at passes
        dsimp only at passes
        split at passes
        · cases passes
        · next named =>
          simpa only [Bool.or_eq_true, Bool.not_eq_true',
            decide_eq_true_eq, not_or, Bool.not_eq_false] using named
  · intro valid
    rw [if_neg (not_not.mpr valid.version), valid.id]
    cases payload : request.payload with
    | cancel target =>
      obtain ⟨proper, different⟩ := valid.target target payload
      simp [proper, different]
    | _ => simp

namespace Request.Valid

variable {request : Request}

theorem accepted (valid : request.Valid) : request.record.accepted = true := by
  have id := valid.id
  rw [validIpcID_eq] at id
  simp only [Sidecar.Request.accepted, Request.record, valid.version, id]
  rfl

theorem validateProtocol_respond (valid : request.Valid)
    (result : Sidecar.Result) :
    Ipc.validateProtocol (request.record.respond result) request =
      match result with
      | .ok payload => validateResponsePayload request payload
      | .err error => validateIpcError error := by
  have passes := request.validateProtocol_eq_ok_iff.mpr valid
  have same : request.record.requestID = request.requestID := rfl
  simp [Ipc.validateProtocol, passes, Sidecar.Request.respond, same,
    valid.id, Sidecar.protocolVersion, Ipc.protocolVersion,
    bind, Except.bind]

theorem validateProtocol_err (valid : request.Valid) (error : Sidecar.Error) :
    Ipc.validateProtocol (request.record.respond (.err error)) request =
      .ok () := by
  rw [valid.validateProtocol_respond]
  exact validateIpcError_eq error

end Request.Valid

end KyClash.Ipc
