import Mathlib.Data.Nat.Digits.Lemmas
import KyClash.Networking.Ipc
import KyClash.Sidecar.Server

/-!
# A cancellable request

`request_cancellable` of `networking/stdio_runtime.rs`, composed with the IPC
server over the two pipes of the child.

The client polls: it looks at the cancellation token, then waits a while for
a record.  The clock is not modelled; that a deadline passes is an event of
its own.  What `terminate_child` does to the child is not followed here, only
that it is called.
-/

namespace KyClash.StdioRuntime

open Sidecar (Text Response Server Calls)

def cancelDot : Text := [99, 97, 110, 99, 101, 108, 46]

/-- A number in decimal, with leading zeros up to sixteen digits. -/
def decimal (number : Nat) : Text :=
  ((Nat.digits 10 number).reverse.map fun digit =>
    UInt8.ofNat (48 + digit)).leftpad 16 48

def cancelID (sequence : UInt64) : Text :=
  cancelDot ++ decimal sequence.toNat

theorem toNat_succ_lt {sequence : UInt64} (room : sequence.toNat + 1 ≠ 2 ^ 64) :
    (sequence + 1).toNat = sequence.toNat + 1 := by
  have bound := sequence.toNat_lt
  rw [UInt64.toNat_add]
  exact Nat.mod_eq_of_lt (by simp only [UInt64.toNat_one]; omega)

/-- `cancellation_request`; it returns the next sequence number as well. -/
def cancellationRequest (sequence : UInt64) (targetRequestID : Text) :
    UInt64 × Except NetworkErrorCode Ipc.Request :=
  if sequence.toNat + 1 = 2 ^ 64 then
    (sequence, .error .invalidConfiguration)
  else if cancelID sequence = targetRequestID then
    cancellationRequest (sequence + 1) targetRequestID
  else
    let request : Ipc.Request :=
      ⟨Ipc.protocolVersion, cancelID sequence, .cancel targetRequestID⟩
    (sequence + 1,
      match request.validateProtocol with
      | .ok () => .ok request
      | .error error => .error error)
termination_by 2 ^ 64 - sequence.toNat
decreasing_by
  rw [toNat_succ_lt (by assumption)]
  have bound := sequence.toNat_lt
  omega

private theorem decimal_digit {number : Nat} {byte : UInt8}
    (member : byte ∈ decimal number) : 48 ≤ byte ∧ byte ≤ 57 := by
  rw [decimal, List.leftpad, List.mem_append] at member
  rcases member with padding | written
  · rw [List.eq_of_mem_replicate padding]
    decide
  · obtain ⟨digit, listed, rfl⟩ := List.mem_map.mp written
    have small :=
      Nat.digits_lt_base (by decide : 1 < 10) (List.mem_reverse.mp listed)
    interval_cases digit <;> decide

theorem length_decimal (number : Nat) :
    (decimal number).length = max (Nat.digits 10 number).length 16 := by
  simp only [decimal, List.leftpad, List.length_append,
    List.length_replicate, List.length_map, List.length_reverse]
  omega

private theorem length_decimal_le (sequence : UInt64) :
    (decimal sequence.toNat).length ≤ 20 := by
  have bound : sequence.toNat < 10 ^ 20 :=
    Nat.lt_trans sequence.toNat_lt (by decide)
  have digits := (Nat.digits_length_le_iff (by decide) _).mpr bound
  rw [length_decimal]
  exact max_le digits (by decide)

/-- The number that a decimal text denotes. -/
def denoted (text : Text) : Nat :=
  Nat.ofDigits 10 (text.reverse.map fun byte => byte.toNat - 48)

private theorem denoted_decimal (number : Nat) :
    denoted (decimal number) = number := by
  have small : ∀ digit ∈ Nat.digits 10 number,
      (UInt8.ofNat (48 + digit)).toNat - 48 = digit := by
    intro digit listed
    have bound := Nat.digits_lt_base (by decide : 1 < 10) listed
    interval_cases digit <;> rfl
  have digits : ((Nat.digits 10 number).map fun digit =>
      (UInt8.ofNat (48 + digit)).toNat - 48) = Nat.digits 10 number :=
    (List.map_congr_left small).trans (List.map_id' _)
  simp only [denoted, decimal, List.leftpad, List.reverse_append,
    ← List.map_reverse, List.reverse_reverse, List.map_append,
    List.map_map, Function.comp_def, digits, List.reverse_replicate,
    List.map_replicate, Nat.ofDigits_append, Nat.ofDigits_digits]
  have zero : UInt8.toNat 48 - 48 = 0 := rfl
  rw [zero, Nat.ofDigits_replicate_zero, Nat.mul_zero, Nat.add_zero]

private theorem cancelID_inj {first second : UInt64}
    (same : cancelID first = cancelID second) : first = second := by
  have texts := List.append_cancel_left same
  apply UInt64.toNat_inj.mp
  rw [← denoted_decimal first.toNat, ← denoted_decimal second.toNat, texts]

private theorem validFrom_digits (previousDot : Bool) {value : Text}
    (digits : ∀ byte ∈ value, 48 ≤ byte ∧ byte ≤ 57) :
    Sidecar.validFrom previousDot value = true := by
  induction value generalizing previousDot with
  | nil => rfl
  | cons byte rest ih =>
    obtain ⟨low, high⟩ := digits byte List.mem_cons_self
    have notDot : byte ≠ 46 := by
      intro dot
      rw [dot] at low
      exact absurd low (by decide)
    have later := ih false fun other member =>
      digits other (List.mem_cons_of_mem _ member)
    simp [Sidecar.validFrom, Sidecar.identifierByte, low, high, notDot, later]

private theorem validIpcID_cancelID (sequence : UInt64) :
    Ipc.validIpcID (cancelID sequence) = true := by
  have digits : ∀ byte ∈ decimal sequence.toNat, 48 ≤ byte ∧ byte ≤ 57 :=
    fun byte => decimal_digit
  have short := length_decimal_le sequence
  have long : 16 ≤ (decimal sequence.toNat).length := by
    rw [length_decimal]
    exact le_max_right _ _
  have last : (cancelID sequence).getLast? ≠ some 46 := by
    intro dot
    rw [cancelID, List.getLast?_append_of_ne_nil] at dot
    · exact absurd (digits _ (List.mem_of_getLast? dot)).1 (by decide)
    · exact List.ne_nil_of_length_pos (by omega)
  have shape : Sidecar.validFrom false (cancelID sequence) = true := by
    have rest := validFrom_digits true digits
    simpa [cancelID, cancelDot, Sidecar.validFrom,
      Sidecar.identifierByte] using rest
  have bounds : 8 ≤ (cancelID sequence).length ∧
      (cancelID sequence).length ≤ 64 := by
    simp only [cancelID, List.length_append, cancelDot, List.length_cons,
      List.length_nil]
    omega
  have first : (cancelID sequence).head? ≠ some 46 := by
    simp [cancelID, cancelDot]
  rw [Ipc.validIpcID_eq]
  simp [Sidecar.validID, shape, first, last, bounds.1, bounds.2]

theorem cancellationRequest_ok {sequence : UInt64} {target : Text}
    (room : sequence.toNat + 2 < 2 ^ 64)
    (proper : Ipc.validIpcID target = true) :
    ∃ next control, cancellationRequest sequence target = (next, .ok control) ∧
      control.payload = .cancel target ∧ control.Valid := by
  have built : ∀ number : UInt64, number.toNat + 1 ≠ 2 ^ 64 →
      cancelID number ≠ target →
      cancellationRequest number target =
          (number + 1, .ok
            ⟨Ipc.protocolVersion, cancelID number, .cancel target⟩) ∧
        (⟨Ipc.protocolVersion, cancelID number, .cancel target⟩ :
          Ipc.Request).Valid := by
    intro number left different
    have valid : (⟨Ipc.protocolVersion, cancelID number, .cancel target⟩ :
        Ipc.Request).Valid := by
      refine ⟨rfl, validIpcID_cancelID number, ?_⟩
      intro other named
      cases named
      exact ⟨proper, Ne.symm different⟩
    rw [cancellationRequest, if_neg left, if_neg different]
    simp only [(Ipc.Request.validateProtocol_eq_ok_iff _).mpr valid]
    exact ⟨trivial, valid⟩
  by_cases same : cancelID sequence = target
  · have left : sequence.toNat + 1 ≠ 2 ^ 64 := by omega
    have next := toNat_succ_lt left
    have different : cancelID (sequence + 1) ≠ target := by
      intro again
      have equal := cancelID_inj (again.trans same.symm)
      rw [equal] at next
      omega
    obtain ⟨result, valid⟩ := built (sequence + 1) (by omega) different
    rw [cancellationRequest, if_neg left, if_pos same]
    exact ⟨_, _, result, rfl, valid⟩
  · obtain ⟨result, valid⟩ := built sequence (by omega) same
    exact ⟨_, _, result, rfl, valid⟩

/-- The requests that can be cancelled. -/
def cancellable : Ipc.RequestPayload → Bool
  | .connectTransport _ => true
  | .sampleHealth => true
  | .samplePrivateReachability => true
  | _ => false

/-- Where the call is: before its first send, at the head of its loop, or
about to wait for a record. -/
inductive Point where
  | begin
  | check
  | receive
  deriving DecidableEq, Repr

/-- The variables of the loop. -/
structure Call where
  point : Point
  cancelRequest : Option Ipc.Request
  primaryResponse : Option Response
  cancelResponse : Option Response
  deriving DecidableEq, Repr

/-- The ways out of the call: a failure terminates the child first. -/
inductive Verdict where
  | returns (result : Except NetworkErrorCode Response)
  | fails (error : NetworkErrorCode)

/-- The response is an error with the code of a cancelled operation. -/
def operationCancelled (response : Response) : Bool :=
  match response.result with
  | .err error => error.code = .operationCancelled
  | .ok _ => false

def finishCancelPair (request : Ipc.Request) (primary control : Response) :
    Verdict :=
  let primaryCancelled : Bool :=
    match primary.result with
    | .err error => error.code = .operationCancelled && !error.retryable
    | .ok _ => false
  let late : Bool :=
    match control.result with
    | .err error =>
      error.code = .invalidStateTransition && !error.retryable &&
        !operationCancelled primary
    | .ok _ => false
  if control.result = .ok (.cancelAccepted request.requestID) then
    if primaryCancelled then .returns (.error .operationCancelled)
    else .fails .sidecarUnavailable
  else if late then
    .returns (.ok primary)
  else
    .fails .sidecarUnavailable

namespace Call

/-- A record is matched with one of the two requests; `none` is an
unexpected record. -/
def accept (request : Ipc.Request) (call : Call) (response : Response) :
    Option Call :=
  if response.requestID = request.requestID then
    match Ipc.validateProtocol response request, call.primaryResponse with
    | .ok (), none => some { call with primaryResponse := some response }
    | _, _ => none
  else
    match call.cancelRequest with
    | none => none
    | some control =>
      if response.requestID = control.requestID then
        match Ipc.validateProtocol response control, call.cancelResponse with
        | .ok (), none => some { call with cancelResponse := some response }
        | _, _ => none
      else
        none

/-- The end of an iteration: the call is over, or goes on. -/
def verdict (request : Ipc.Request) (call : Call) : Option Verdict :=
  match call.cancelRequest, call.primaryResponse, call.cancelResponse with
  | none, some response, _ =>
    if operationCancelled response then some (.fails .sidecarUnavailable)
    else some (.returns (.ok response))
  | some _, some primary, some control =>
    some (finishCancelPair request primary control)
  | _, _, _ => none

end Call

/-! ## Client and server -/

/-- One call of the client.  `stdin` are the records that the server has not
received yet and `heard` counts the responses that the client has taken.
`terminated` tells whether the client has terminated the child. -/
structure System where
  server : Server
  stdin : List Sidecar.Request
  heard : Nat
  token : Bool
  nextCancelSequence : UInt64
  terminated : Bool
  request : Ipc.Request
  call : Call
  result : Option (Except NetworkErrorCode Response)

inductive Event where
  /-- The server receives the next record. -/
  | handOver (calls : Calls)
  /-- A step of the server, of its backend or of their surroundings. -/
  | server (event : Sidecar.Event)
  /-- The token is set. -/
  | cancel
  /-- The call begins; its send may fail. -/
  | begin (sent : Except NetworkErrorCode Unit)
  /-- The head of the loop; the send of a control request may fail. -/
  | check (delivered : Bool)
  /-- The wait for a record ends, with one or without. -/
  | receive
  /-- A deadline passes. -/
  | expire
  /-- The reader reports an error or is gone. -/
  | broken

namespace System

def initial (server : Server) (request : Ipc.Request)
    (nextCancelSequence : UInt64) : System where
  server := server
  stdin := []
  heard := server.written.length
  token := false
  nextCancelSequence := nextCancelSequence
  terminated := false
  request := request
  call := ⟨.begin, none, none, none⟩
  result := none

/-- The responses that the client has not taken yet. -/
def stdout (system : System) : List Response :=
  (system.server.written.drop system.heard).map (·.2)

def fail (system : System) (error : NetworkErrorCode) : System :=
  { system with terminated := true, result := some (.error error) }

def finish (system : System) (result : Except NetworkErrorCode Response) :
    System :=
  { system with result := some result }

def settle (system : System) : Verdict → System
  | .returns result => system.finish result
  | .fails error => system.fail error

def goTo (system : System) (point : Point) : System :=
  { system with call := { system.call with point } }

def send (system : System) (request : Ipc.Request) : System :=
  { system with stdin := system.stdin ++ [request.record] }

def begin (system : System) (sent : Except NetworkErrorCode Unit) : System :=
  match system.request.validateProtocol with
  | .error error => system.finish (.error error)
  | .ok () =>
    if cancellable system.request.payload && system.token then
      system.finish (.error .operationCancelled)
    else
      match sent with
      | .error error => system.fail error
      | .ok () => (system.send system.request).goTo .check

def sendControl (system : System) (control : Ipc.Request) : System :=
  { system.send control with
    call := { system.call with
      point := .receive, cancelRequest := some control } }

def check (system : System) (delivered : Bool) : System :=
  if system.call.cancelRequest.isNone && cancellable system.request.payload &&
      system.token then
    let next :=
      cancellationRequest system.nextCancelSequence system.request.requestID
    let system := { system with nextCancelSequence := next.1 }
    match next.2 with
    | .error error => system.fail error
    | .ok control =>
      if !delivered then system.fail .sidecarUnavailable
      else system.sendControl control
  else
    system.goTo .receive

def receive (system : System) : System :=
  match system.stdout with
  | [] => system.goTo .check
  | response :: _ =>
    let system := { system with heard := system.heard + 1 }
    match system.call.accept system.request response with
    | none => system.fail .sidecarUnavailable
    | some call =>
      match call.verdict system.request with
      | none => { system with call := { call with point := .check } }
      | some verdict => { system with call }.settle verdict

/-- A passed deadline; the code depends on whether a cancel was sent. -/
def expire (system : System) : System :=
  system.fail (if system.call.cancelRequest.isSome then .sidecarUnavailable
    else .operationTimedOut)

/-- A step of the call, while it has not returned. -/
def clientStep (system : System) : Event → Option System
  | .begin sent =>
    if system.call.point = .begin then some (system.begin sent) else none
  | .check delivered =>
    if system.call.point = .check then some (system.check delivered)
    else none
  | .receive =>
    if system.call.point = .receive then some system.receive else none
  | .expire => if system.call.point = .begin then none else some system.expire
  | .broken =>
    if system.call.point = .receive then
      some (system.fail .sidecarUnavailable)
    else none
  | _ => none

def serverStep (probes : Bool) (system : System) (event : Sidecar.Event) :
    Option System :=
  (system.server.step probes event).map fun server => { system with server }

def step (probes : Bool) (system : System) (event : Event) : Option System :=
  match event with
  | .handOver calls =>
    match system.stdin with
    | [] => none
    | record :: rest =>
      { system with stdin := rest }.serverStep probes (.record record calls)
  | .server (.record _ _) => none
  | .server event => system.serverStep probes event
  | .cancel => if system.token then none else some { system with token := true }
  | event => if system.result.isSome then none else system.clientStep event

end System

end KyClash.StdioRuntime
