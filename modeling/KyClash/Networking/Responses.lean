import KyClash.Data.Text
import KyClash.Networking.Ipc
import KyClash.Sidecar.DataPlane
import KyClash.Sidecar.Moves

/-!
# The client accepts the session's responses

Whatever requests a session has served and however its backend's calls ended,
its response to a request of the client passes the client's check.  The
session hands on the facts of a prepared tunnel as its backend gives them, so
the backends of the repository are described here by their facts.
-/

namespace KyClash.Ipc

open Sidecar (Session Calls Outcomes TunnelDeviceFacts BackendResult
  CancellableOperation DataPlane Served Service validID)

/-- The families of the local addresses; each of them is a parsed prefix. -/
inductive AddressFamily where
  | ipv4
  | ipv6
  deriving DecidableEq, Repr

def addressFamilies (addresses : List AddressFamily) : Bool × Bool :=
  (addresses.any (· = .ipv4), addresses.any (· = .ipv6))

/-- The device of `createTunnel`: the netstack of the default build, or the
utun device of the production build.  The system names the latter by its
unit. -/
inductive Device where
  | netstack
  | utun (unit : UInt32)
  deriving DecidableEq, Repr

def numeral (n : Nat) : Sidecar.Text :=
  (Nat.toDigits 10 n).map fun c => UInt8.ofNat c.toNat

def Device.name : Device → Sidecar.Text
  | .netstack => [117, 115, 101, 114, 115, 112, 97, 99, 101]
  | .utun unit => [117, 116, 117, 110] ++ numeral unit.toNat

/-- `contractBackend.Prepare`: "utun0" of "contract.instance". -/
def contractFacts (operationID : Sidecar.Text) : TunnelDeviceFacts where
  interfaceName := [117, 116, 117, 110, 48]
  mtu := 1420
  hasIPv4 := true
  hasIPv6 := true
  instanceID :=
    [99, 111, 110, 116, 114, 97, 99, 116, 46, 105, 110, 115, 116, 97, 110,
      99, 101]
  operationID := operationID

/-- The facts of `userspace.Backend.Prepare`. -/
def userspaceFacts (instanceID : Sidecar.Text) (device : Device)
    (addresses : List AddressFamily) (operationID : Sidecar.Text) :
    TunnelDeviceFacts where
  interfaceName := device.name
  mtu := 1420
  hasIPv4 := (addressFamilies addresses).1
  hasIPv6 := (addressFamilies addresses).2
  instanceID := instanceID
  operationID := operationID

/-- The facts that a backend of the repository gives for an operation.  The
constructor of the userspace backend checks its instance, and a profile that
has passed `Validate` has a local address.  The backends of the labs hand on
the facts of the userspace backend or fail. -/
inductive Prepares (operationID : Sidecar.Text) : TunnelDeviceFacts → Prop where
  | contract : Prepares operationID (contractFacts operationID)
  | userspace {instanceID : Sidecar.Text} {device : Device}
      {addresses : List AddressFamily} (instanceValid : validID instanceID)
      (addressed : addresses ≠ []) :
      Prepares operationID
        (userspaceFacts instanceID device addresses operationID)

private theorem addressFamilies_some {addresses : List AddressFamily}
    (addressed : addresses ≠ []) :
    ((addressFamilies addresses).1 || (addressFamilies addresses).2) =
      true := by
  cases addresses with
  | nil => exact absurd rfl addressed
  | cons family rest => cases family <;> simp [addressFamilies]

private theorem decimal_of_mem_numeral {n : Nat} {byte : UInt8}
    (member : byte ∈ numeral n) : 48 ≤ byte ∧ byte ≤ 57 := by
  obtain ⟨c, digit, rfl⟩ := List.mem_map.mp member
  have decimal := Texts.isDigit_of_mem_toDigits (by decide) (by decide) digit
  rw [Texts.isDigit_ten] at decimal
  obtain ⟨low, high⟩ := Texts.inRange_eq_true.mp decimal
  change 48 ≤ c.toNat at low
  change c.toNat ≤ 57 at high
  constructor
  · simp only [UInt8.le_iff_toNat_le, UInt8.toNat_ofNat']
    rw [Nat.mod_eq_of_lt (by omega)]
    exact low
  · simp only [UInt8.le_iff_toNat_le, UInt8.toNat_ofNat']
    rw [Nat.mod_eq_of_lt (by omega)]
    exact high

private theorem head_numeral {n : Nat} (zero : (numeral n).head? = some 48) :
    n = 0 := by
  rw [numeral, List.head?_map] at zero
  obtain ⟨c, head, same⟩ := Option.map_eq_some_iff.mp zero
  have digit :=
    Texts.isDigit_of_mem_toDigits (by decide) (by decide)
      (List.mem_of_head? head)
  rw [Texts.isDigit_ten] at digit
  obtain ⟨low, high⟩ := Texts.inRange_eq_true.mp digit
  change c.toNat ≤ 57 at high
  have value : c.toNat = 48 := by
    have bytes := congrArg UInt8.toNat same
    rwa [UInt8.toNat_ofNat', Nat.mod_eq_of_lt (by omega)] at bytes
  have character : c = '0' := Char.toNat_inj.mp value
  rw [character] at head
  exact Texts.head_toDigits (by decide) head

private theorem length_numeral (unit : UInt32) :
    0 < (numeral unit.toNat).length ∧ (numeral unit.toNat).length ≤ 10 := by
  rw [numeral, List.length_map]
  refine ⟨Nat.length_toDigits_pos, ?_⟩
  rw [Nat.length_toDigits_le_iff (by decide) (by decide)]
  have bound := unit.toNat_lt
  omega

private theorem validUtunInterface_utun (unit : UInt32) :
    validUtunInterface (Device.utun unit).name = true := by
  obtain ⟨positive, short⟩ := length_numeral unit
  have digits : (numeral unit.toNat).all (fun byte => 48 ≤ byte && byte ≤ 57) =
      true := by
    rw [List.all_eq_true]
    intro byte member
    simpa using decimal_of_mem_numeral member
  have canonical : (numeral unit.toNat).length = 1 ∨
      (numeral unit.toNat).head? ≠ some 48 := by
    by_cases zero : (numeral unit.toNat).head? = some 48
    · rw [head_numeral zero]
      exact .inl rfl
    · exact .inr zero
  simp only [validUtunInterface, Device.name, List.cons_append,
    List.nil_append, List.length_cons, List.take_succ_cons, List.take_zero,
    List.drop_succ_cons, List.drop_zero, digits, Bool.and_true,
    List.getElem?_cons_succ, Bool.and_eq_true, decide_eq_true_eq,
    Bool.or_eq_true, ← List.head?_eq_getElem?]
  refine ⟨⟨⟨decide_eq_true (by omega), decide_eq_true (by omega)⟩, trivial⟩, ?_⟩
  rcases canonical with single | proper
  · exact .inl (decide_eq_true (by omega))
  · exact .inr proper

/-- The client accepts the facts of every backend. -/
theorem Prepares.passes {request : Request} {facts : TunnelDeviceFacts}
    (payload : request.payload = .prepareTunnel)
    (prepares : Prepares request.requestID facts) :
    validateResponsePayload request (.tunnelPrepared facts) = .ok () := by
  have accepted : validateSidecarResponse facts request.requestID = .ok () ∧
      validIpcID facts.instanceID = true ∧
      (facts.hasIPv4 || facts.hasIPv6) = true := by
    cases prepares with
    | contract =>
      refine ⟨?_, rfl, rfl⟩
      simp [validateSidecarResponse, contractFacts, validUtunInterface]
    | @userspace instanceID device addresses instanceValid addressed =>
      refine ⟨?_, (validIpcID_eq _).trans instanceValid,
        addressFamilies_some addressed⟩
      cases device with
      | netstack => simp [validateSidecarResponse, userspaceFacts,
          Device.name]
      | utun unit =>
        simp [validateSidecarResponse, userspaceFacts, validUtunInterface_utun]
  obtain ⟨owner, instanceValid, families⟩ := accepted
  have addressed : (!facts.hasIPv4 && !facts.hasIPv6) = false := by
    rw [← Bool.not_or, families]
    rfl
  simp [validateResponsePayload, payload, owner, instanceValid, addressed]

/-- A tunnel needs a profile, and a carrier a tunnel. -/
structure Orderly (session : Session) : Prop where
  profile : session.tunnelPrepared = true → session.profile.isSome = true
  tunnel : session.activeTransport.isSome = true → session.tunnelPrepared = true

namespace Orderly

variable {session : Session}

theorem new (profile : Option Sidecar.Profile) :
    Orderly (Session.new profile) :=
  ⟨nofun, nofun⟩

variable {request : Sidecar.Request} {operation : CancellableOperation}

private theorem prepareCancellable_prepared {probes : Bool}
    (found : session.prepareCancellable probes request = .ok operation)
    (type : request.type = .connectTransport) :
    session.tunnelPrepared = true := by
  unfold Session.prepareCancellable at found
  rw [type] at found
  cases target : session.connectTarget request with
  | error response =>
    rw [target] at found
    cases found
  | ok value => exact (Session.connectTarget_ok target).2.1

section

variable (orderly : Orderly session)
include orderly

theorem noted (error : Option NetworkErrorCode) :
    Orderly { session with lastError := error } :=
  ⟨orderly.profile, orderly.tunnel⟩

private theorem validateNetworkStatus :
    Ipc.validateNetworkStatus session.status = .ok () := by
  have named : session.status.activeProfileID.any (!validProfileID ·) =
      false := by
    cases profile : session.profile with
    | none => simp [Session.status, profile]
    | some value => simp [Session.status, profile, Profile.validProfileID value]
  have state : validState session.status = true := by
    cases active : session.activeTransport with
    | none =>
      cases prepared : session.tunnelPrepared with
      | false => simp [validState, Session.status, active, prepared]
      | true =>
        have there := orderly.profile prepared
        simp [validState, Session.status, active, prepared, there]
    | some transport =>
      have there := orderly.profile (orderly.tunnel (by rw [active]; rfl))
      cases transport <;>
        simp [validState, Session.status, active, there]
  rw [Ipc.validateNetworkStatus, named, state]
  rfl

theorem connected (prepared : session.tunnelPrepared = true)
    (transport : Option TransportKind) (error : Option NetworkErrorCode) :
    Orderly { session with
      activeTransport := transport, lastError := error } :=
  ⟨orderly.profile, fun _ => prepared⟩

private theorem handle (backend : Sidecar.Backend) (calls : Calls)
    (position : Nat) (request : Sidecar.Request) :
    Orderly (session.handle backend calls position request).session := by
  unfold Session.handle
  cases request.type with simp only
  | getStatus | connect | cancel =>
    split <;> exact orderly
  | samplePrivateReachability | unknown => exact orderly
  | sampleHealth =>
    split
    · exact orderly
    split
    · exact orderly.noted _
    · exact orderly
  | disconnect =>
    split
    · exact orderly
    unfold Session.shutDown
    split
    · exact orderly.noted _
    simp only
    split
    · exact orderly.noted _
    split
    · exact orderly.noted _
    · exact .new none
  | connectTransport =>
    split
    · exact orderly
    · next found =>
      split
      · exact orderly.noted _
      · exact orderly.connected (Session.connectTarget_ok found).2.1 _ _
  | applyProfile =>
    split
    · exact orderly
    split
    · exact orderly
    · exact ⟨fun _ => rfl, orderly.tunnel⟩
  | prepareTunnel =>
    split
    · exact orderly
    split
    · exact orderly
    · next ready =>
      split
      · exact orderly.noted _
      · simp only [Bool.or_eq_true, not_or, Bool.not_eq_true,
          Option.isNone_eq_false_iff] at ready
        exact ⟨fun _ => ready.1, fun _ => rfl⟩
  | disconnectTransport =>
    split
    · exact orderly
    split
    · exact orderly
    split
    · exact orderly.noted _
    · exact ⟨orderly.profile, nofun⟩
  | stopTunnel =>
    split
    · exact orderly
    split
    · exact orderly
    · next ready =>
      split
      · exact orderly.noted _
      simp only [Bool.or_eq_true, not_or, Bool.not_eq_true] at ready
      refine ⟨nofun, fun active => ?_⟩
      change session.activeTransport.isSome = true at active
      rw [ready.2] at active
      cases active

private theorem completeCancellable {probes : Bool}
    (found : session.prepareCancellable probes request = .ok operation)
    (result : BackendResult) :
    Orderly (session.completeCancellable operation result).1 := by
  have same := (Session.prepareCancellable_ok found).same
  unfold Session.completeCancellable
  split
  · next type =>
    rw [same] at type
    exact orderly.connected (prepareCancellable_prepared found type) _ _
  · split
    · exact orderly
    · exact orderly.noted _
  · split
    · exact orderly
    · exact orderly.noted _
  · exact orderly.noted _

end

end Orderly

section Responses

variable {session : Session} {request : Request}

/-- The response passes the client's check for the request. -/
def Passes (request : Request) (response : Sidecar.Response) : Prop :=
  validateProtocol response request = .ok ()

variable {response : Sidecar.Response}

private theorem payload_of_type (request : Request) :
    (request.record.type = .connectTransport →
        ∃ transport, request.payload = .connectTransport transport) ∧
      (request.record.type = .sampleHealth → request.payload = .sampleHealth) ∧
      (request.record.type = .samplePrivateReachability →
        request.payload = .samplePrivateReachability) := by
  have type : request.record.type = request.payload.type := rfl
  rw [type]
  cases request.payload <;> simp [RequestPayload.type]

section

variable (valid : request.Valid)
include valid

theorem passes_err (error : Sidecar.Error) :
    Passes request (request.record.respond (.err error)) :=
  valid.validateProtocol_err error

theorem passes_ok {payload : Sidecar.ResponsePayload}
    (accepted : validateResponsePayload request payload = .ok ()) :
    Passes request (request.record.respond (.ok payload)) := by
  rw [Passes, valid.validateProtocol_respond]
  exact accepted

theorem passes_failed (session : Session) (backend : Sidecar.Backend) :
    Passes request (session.failed backend request.record).response :=
  passes_err valid _

theorem passes_refusal (refusal : request.record.Refusal response) :
    Passes request response := by
  rcases refusal with rfl | rfl
  all_goals exact passes_err valid _

theorem passes_connected {transport : TransportKind}
    (payload : request.payload = .connectTransport transport)
    (profiled : session.profile.isSome) :
    Passes request (request.record.respond (.ok (.status
      ({ session with
        activeTransport := some transport
        lastError := none } : Session).status))) := by
  apply passes_ok valid
  obtain ⟨profile, there⟩ := Option.isSome_iff_exists.mp profiled
  have named := Profile.validProfileID profile
  cases transport <;>
    simp [validateResponsePayload, payload, Session.status, there,
      validateNetworkStatus,
      validState, requireStatus, named, bind, Except.bind]

private theorem passes_shutDown (payload : request.payload = .disconnect)
    (session : Session) (backend : Sidecar.Backend) (calls : Calls) :
    Passes request
      (session.shutDown backend calls request.record).response := by
  unfold Session.shutDown
  split
  · exact passes_failed valid _ _
  simp only
  split
  · exact passes_failed valid _ _
  split
  · exact passes_failed valid _ _
  · apply passes_ok valid
    simp [validateResponsePayload, payload]

private theorem passes_handle (orderly : Orderly session)
    (backend : Sidecar.Backend) {calls : Calls} (position : Nat)
    (prepares : ∀ facts, calls.prepare = some facts →
      Prepares request.requestID facts) :
    Passes request
      (session.handle backend calls position request.record).response := by
  have type : request.record.type = request.payload.type := rfl
  have data : request.record.data = request.payload.data := rfl
  unfold Session.handle
  cases payload : request.payload with
    (rw [payload] at type data; simp only [type, RequestPayload.type])
  | getStatus =>
    simp only [data, RequestPayload.data, Bool.not_true, Bool.false_eq_true,
      if_false]
    apply passes_ok valid
    simpa only [validateResponsePayload,
      payload] using orderly.validateNetworkStatus
  | connect =>
    simp only [data, RequestPayload.data, Bool.not_true, Bool.false_eq_true,
      if_false]
    exact passes_err valid _
  | disconnect =>
    simp only [data, RequestPayload.data, Bool.not_true, Bool.false_eq_true,
      if_false]
    exact passes_shutDown valid payload session backend calls
  | cancel target =>
    split
    all_goals exact passes_err valid _
  | samplePrivateReachability =>
    exact passes_err valid _
  | applyProfile decoded =>
    split
    · exact passes_err valid _
    split
    · exact passes_err valid _
    · apply passes_ok valid
      simp [validateResponsePayload, payload]
  | prepareTunnel =>
    split
    · exact passes_err valid _
    split
    · exact passes_err valid _
    split
    · exact passes_failed valid _ _
    · next facts given =>
      exact passes_ok valid ((prepares facts given).passes payload)
  | sampleHealth =>
    split
    · next refused =>
      exact passes_refusal valid (Session.sampleTarget_error refused)
    split
    · exact passes_failed valid _ _
    · next health sampled =>
      have healthy := (Option.filter_eq_some_iff.mp sampled).2
      apply passes_ok valid
      simpa [validateResponsePayload, payload, validateHealth,
        Sidecar.Health.valid] using healthy
  | connectTransport transport =>
    split
    · next refused =>
      exact passes_refusal valid (Session.connectTarget_error refused)
    · next chosen _ found =>
      obtain ⟨same, -, -, profiled⟩ := Session.connectTarget_ok found
      rw [data] at same
      cases same
      split
      · exact passes_failed valid _ _
      · exact passes_connected valid payload profiled
  | disconnectTransport =>
    split
    · exact passes_err valid _
    split
    · exact passes_err valid _
    · next active =>
      split
      · exact passes_failed valid _ _
      have prepared :=
        orderly.tunnel (Option.isSome_iff_ne_none.mpr (by simpa using active))
      apply passes_ok valid
      have inactive : Orderly { session with
          activeTransport := none, lastError := none } :=
        ⟨orderly.profile, nofun⟩
      simp only [validateResponsePayload, payload,
        inactive.validateNetworkStatus]
      simp [requireStatus, Session.status, prepared, bind, Except.bind]
  | stopTunnel =>
    split
    · exact passes_err valid _
    split
    · exact passes_err valid _
    · next ready =>
      split
      · exact passes_failed valid _ _
      simp only [Bool.or_eq_true, not_or, Bool.not_eq_true] at ready
      have idle : session.activeTransport = none := by
        simpa using ready.2
      have stopped : Orderly { session with
          tunnelPrepared := false, lastError := none } :=
        ⟨nofun, fun active => by simp [idle] at active⟩
      apply passes_ok valid
      simp only [validateResponsePayload, payload,
        stopped.validateNetworkStatus]
      simp [requireStatus, Session.status, idle, bind, Except.bind]

theorem passes_completeCancellable {operation : CancellableOperation}
    (prepared : session.Prepared request.record operation)
    (result : BackendResult) :
    Passes request (session.completeCancellable operation result).2 := by
  obtain ⟨connects, samples, probesRoute⟩ := payload_of_type request
  unfold Session.completeCancellable
  rw [prepared.same]
  split
  · next type =>
    obtain ⟨transport, payload⟩ := connects type
    obtain ⟨chosen, -, -, profiled⟩ := prepared.connects type
    have data : request.record.data = request.payload.data := rfl
    rw [data, payload] at chosen
    rw [chosen]
    exact passes_connected valid payload profiled
  · next health type =>
    split
    · next healthy =>
      apply passes_ok valid
      simpa [validateResponsePayload, samples type, validateHealth,
        Sidecar.Health.valid] using healthy
    · exact passes_err valid _
  · next type =>
    split
    · apply passes_ok valid
      simp [validateResponsePayload, probesRoute type]
    · exact passes_err valid _
  · exact passes_err valid _

private theorem passes_operate {State : Type} {plane : DataPlane State}
    {served : Served State} {probes : Bool} {outcomes : Outcomes}
    {cancelled rollbackFails : Bool}
    (answered : (served.operate plane probes request.record outcomes cancelled
        rollbackFails).response = some response) :
    Passes request response := by
  unfold Served.operate at answered
  cases found : served.session.prepareCancellable probes request.record with
  | error refused =>
    rw [found] at answered
    cases answered
    exact passes_refusal valid (Session.prepareCancellable_error found)
  | ok operation =>
    have prepared := Session.prepareCancellable_ok found
    have ended : Passes request operation.request.cancelled := by
      rw [prepared.same]
      exact passes_err valid _
    rw [found] at answered
    cases cancelled with
    | false =>
      cases answered
      exact passes_completeCancellable valid prepared _
    | true =>
      simp only [if_true, Served.cancel] at answered
      split at answered
      · split at answered
        · cases answered
          exact ended
        · cases answered
      · cases answered
        exact ended

private theorem passes_cancelAccepted {target : Sidecar.Text}
    (payload : request.payload = .cancel target) :
    Passes request (request.record.cancelAccepted target) := by
  obtain ⟨proper, different⟩ := valid.target target payload
  apply passes_ok valid
  simp [validateResponsePayload, payload, proper, different]

end

end Responses

theorem Orderly.operate {State : Type} {plane : DataPlane State}
    {served : Served State} (orderly : Orderly served.session) (probes : Bool)
    (request : Sidecar.Request) (outcomes : Outcomes)
    (cancelled rollbackFails : Bool) :
    Orderly
      (served.operate plane probes request outcomes cancelled
        rollbackFails).session := by
  unfold Served.operate
  split
  · exact orderly
  · next operation found =>
    cases cancelled with
    | false => exact orderly.completeCancellable found _
    | true =>
      simp only [if_true, Served.cancel]
      split
      · split
        · exact orderly
        · exact orderly
      · exact orderly

/-- In every state that a session reaches, with any backend state and any
failures, the responses to every request of the client pass: those of
`handleWithContext`, of a cancellable operation that completes or is
cancelled, and of a cancel that is accepted. -/
theorem session_responses_pass {State : Type} (plane : DataPlane State)
    (probes : Bool) (profile : Option Sidecar.Profile) (backend : State)
    {served : Served State}
    (reached : Transition.Reaches (Served.step plane probes) (fun _ _ => True)
      (Served.initial profile backend) served)
    (request : Request) (sent : request.validateProtocol = .ok ())
    (outcomes : Outcomes)
    (prepares : Prepares request.requestID outcomes.facts) :
    (∀ response,
        (served.handle plane request.record outcomes).response = some response →
          validateProtocol response request = .ok ()) ∧
      (∀ cancelled rollbackFails response,
        (served.operate plane probes request.record outcomes cancelled
              rollbackFails).response = some response →
          validateProtocol response request = .ok ()) ∧
      ∀ target, request.payload = .cancel target →
        validateProtocol (request.record.cancelAccepted target) request =
          .ok () := by
  have valid := request.validateProtocol_eq_ok_iff.mp sent
  have orderly : Orderly served.session := by
    refine @Transition.Reaches.invariant _ _ _ _ _
      (fun current => Orderly current.session) _ reached ?_ ?_
    · exact .new profile
    · intro before service after orderly _ taken
      cases service with
      | handle other given =>
        obtain ⟨-, ⟨⟩⟩ := Option.ite_none_left_eq_some.mp taken
        exact orderly.handle _ _ _ _
      | operate other given cancelled rollbackFails =>
        obtain ⟨-, ⟨⟩⟩ := Option.ite_none_left_eq_some.mp taken
        exact orderly.operate _ _ _ _ _
  refine ⟨?_, ?_, ?_⟩
  · intro response answered
    cases answered
    apply passes_handle valid orderly
    intro facts given
    obtain ⟨-, ⟨⟩⟩ := Option.ite_none_right_eq_some.mp given
    exact prepares
  · intro cancelled rollbackFails response answered
    exact passes_operate valid answered
  · intro target payload
    exact passes_cancelAccepted valid payload

def prepareRequest : Request where
  protocolVersion := protocolVersion
  requestID := [107, 121, 99, 108, 97, 115, 104, 46, 49]
  payload := .prepareTunnel

def givenProfile : Sidecar.Profile where
  profileID := [112]
  primary := .quic
  fallbacks := []
  endpoints := []
  valid := by decide

def contractOutcomes : Outcomes where
  fails := fun _ => false
  facts := contractFacts prepareRequest.requestID
  health := ⟨true, 0, 0, 0⟩
  privateReachability := ⟨true, 0, none, none, none⟩

/-- The facts of a prepared tunnel pass. -/
theorem prepared_tunnel_passes :
    ∃ response,
      ((Served.initial (some givenProfile) Sidecar.Userspace.new).handle
            Sidecar.Userspace.plane prepareRequest.record
            contractOutcomes).response = some response ∧
        response.result =
          .ok (.tunnelPrepared (contractFacts prepareRequest.requestID)) ∧
        validateProtocol response prepareRequest = .ok () :=
  ⟨_, rfl, rfl, (session_responses_pass Sidecar.Userspace.plane false
    (some givenProfile) Sidecar.Userspace.new .start prepareRequest rfl
    contractOutcomes .contract).1 _ rfl⟩

end KyClash.Ipc
