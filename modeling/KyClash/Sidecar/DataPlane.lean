import KyClash.Sidecar.Session
import KyClash.Concurrency.Transition

/-!
# A session over a backend with a state of its own

The session keeps two records of its backend: that a tunnel is prepared and
that a carrier is active.  A backend keeps its own state and refuses the calls
that this state does not allow; other calls fail from outside, and a call that
fails changes nothing.

`DataPlane` is any such backend, and `Userspace` the one of
`userspace/backend.go`.  One event handles one request, to its response:
`handle` is `handleWithContext`, and `operate` runs a cancellable operation
to its completion or to its cancellation.
-/

namespace KyClash.Sidecar

/-- The calls of the interface `Backend` and of its extension. -/
inductive Call where
  | prepare
  | connect
  | health
  | privateReachability
  | disconnect
  | stop
  | close
  deriving DecidableEq, Repr

structure DataPlane (State : Type) where
  allows : State → Call → Bool
  /-- The state after a call that succeeds. -/
  next : State → Call → State
  tunnel : State → Bool
  carrier : State → Bool

namespace DataPlane

variable {State : Type}

/-- What the calls of a backend do, and which of them its state check lets
pass. -/
structure Lawful (plane : DataPlane State) : Prop where
  prepared : ∀ state, plane.allows state .prepare →
    plane.tunnel (plane.next state .prepare) = true ∧
      plane.carrier (plane.next state .prepare) = plane.carrier state
  connected : ∀ state, plane.allows state .connect →
    plane.tunnel (plane.next state .connect) = plane.tunnel state ∧
      plane.carrier (plane.next state .connect) = true
  disconnected : ∀ state, plane.allows state .disconnect →
    plane.tunnel (plane.next state .disconnect) = plane.tunnel state ∧
      plane.carrier (plane.next state .disconnect) = false
  stopped : ∀ state, plane.allows state .stop →
    plane.tunnel (plane.next state .stop) = false ∧
      plane.carrier (plane.next state .stop) = plane.carrier state
  closed : ∀ state, plane.tunnel (plane.next state .close) = false ∧
    plane.carrier (plane.next state .close) = false
  sampled : ∀ state call, call = .health ∨ call = .privateReachability →
    plane.tunnel (plane.next state call) = plane.tunnel state ∧
      plane.carrier (plane.next state call) = plane.carrier state
  allowsDisconnect : ∀ state, plane.carrier state →
    plane.allows state .disconnect
  allowsStop : ∀ state, plane.tunnel state → plane.carrier state = false →
    plane.allows state .stop
  allowsClose : ∀ state, plane.allows state .close

/-- Make the calls in order, up to the first that is refused or fails.  The
result is the calls that succeeded. -/
def run (plane : DataPlane State) (fails : Call → Bool) (state : State) :
    List Call → List Call × State
  | [] => ([], state)
  | call :: calls =>
    if plane.allows state call && !fails call then
      let later := plane.run fails (plane.next state call) calls
      (call :: later.1, later.2)
    else
      ([], state)

end DataPlane

/-- The fields of `userspace.Backend` that its state checks read; a carrier
needs a tunnel, and nothing outlives `Close`. -/
structure Userspace where
  closed : Bool
  privateKey : Bool
  wireGuard : Bool
  active : Bool
  carried : active = true → wireGuard = true
  emptied : closed = true → wireGuard = false
  deriving DecidableEq, Repr

namespace Userspace

/-- `newBackend`. -/
def new : Userspace where
  closed := false
  privateKey := true
  wireGuard := false
  active := false
  carried := nofun
  emptied := nofun

/-- The state checks.  `operationCancel` is set only while a call runs. -/
def allows (backend : Userspace) : Call → Bool
  | .prepare => !backend.closed && !backend.wireGuard && backend.privateKey
  | .connect => !backend.closed && backend.wireGuard && !backend.active
  | .health => !backend.closed && backend.active && backend.wireGuard
  | .privateReachability => false
  | .disconnect => !backend.closed && backend.wireGuard && backend.active
  | .stop => !backend.closed && backend.wireGuard && !backend.active
  | .close => true

/-- A call that its state check refuses leaves the backend. -/
def next (backend : Userspace) (call : Call) : Userspace :=
  match call with
  | .prepare =>
    if open_ : backend.closed = false then
      { backend with
        privateKey := false
        wireGuard := true
        carried := fun _ => rfl
        emptied := fun closed => by rw [open_] at closed; cases closed }
    else
      backend
  | .connect =>
    if there : backend.wireGuard = true then
      { backend with active := true, carried := fun _ => there }
    else
      backend
  | .disconnect => { backend with active := false, carried := nofun }
  | .stop =>
    if idle : backend.active = false then
      { backend with
        wireGuard := false
        carried := fun active => by rw [idle] at active; cases active
        emptied := fun _ => rfl }
    else
      backend
  | .close =>
    { closed := true
      privateKey := false
      wireGuard := false
      active := false
      carried := nofun
      emptied := fun _ => rfl }
  | .health => backend
  | .privateReachability => backend

def plane : DataPlane Userspace where
  allows := allows
  next := next
  tunnel := wireGuard
  carrier := active

end Userspace

theorem Userspace.lawful : Userspace.plane.Lawful where
  prepared backend allowed := by
    have opened : backend.closed = false := by
      simp [Userspace.plane, Userspace.allows] at allowed
      exact allowed.1.1
    simp [Userspace.plane, Userspace.next, opened]
  connected backend allowed := by
    have there : backend.wireGuard = true := by
      simp [Userspace.plane, Userspace.allows] at allowed
      exact allowed.1.2
    simp [Userspace.plane, Userspace.next, there]
  disconnected backend _ := ⟨rfl, rfl⟩
  stopped backend allowed := by
    have idle : backend.active = false := by
      simp [Userspace.plane, Userspace.allows] at allowed
      exact allowed.2
    simp [Userspace.plane, Userspace.next, idle]
  closed _ := ⟨rfl, rfl⟩
  sampled backend call sample := by
    rcases sample with rfl | rfl
    all_goals exact ⟨rfl, rfl⟩
  allowsDisconnect backend active := by
    have there := backend.carried active
    have opened : backend.closed = false := by
      cases closed : backend.closed with
      | false => rfl
      | true =>
        rw [backend.emptied closed] at there
        cases there
    change backend.active = true at active
    simp [Userspace.plane, Userspace.allows, there, opened, active]
  allowsStop backend tunnel idle := by
    change backend.wireGuard = true at tunnel
    change backend.active = false at idle
    have opened : backend.closed = false := by
      cases closed : backend.closed with
      | false => rfl
      | true =>
        rw [backend.emptied closed] at tunnel
        cases tunnel
    simp [Userspace.plane, Userspace.allows, tunnel, opened, idle]
  allowsClose _ := rfl

/-- The backend calls of `handleWithContext` for a request, if all of them
succeed. -/
def Session.requestCalls (session : Session) (request : Request) : List Call :=
  match request.type with
  | .disconnect =>
    if request.data.empty then
      (if session.activeTransport.isSome then [.disconnect] else []) ++
        (if session.tunnelPrepared then [.stop] else []) ++ [.close]
    else
      []
  | .connectTransport =>
    match session.connectTarget request with
    | .error _ => []
    | .ok _ => [.connect]
  | .prepareTunnel =>
    if !request.data.empty || session.profile.isNone ||
        session.tunnelPrepared then
      []
    else
      [.prepare]
  | .disconnectTransport =>
    if !request.data.empty || session.activeTransport.isNone then []
    else [.disconnect]
  | .stopTunnel =>
    if !request.data.empty || !session.tunnelPrepared ||
        session.activeTransport.isSome then
      []
    else
      [.stop]
  | .sampleHealth =>
    match session.sampleTarget request with
    | .error _ => []
    | .ok _ => [.health]
  | _ => []

/-- What the backend's calls give for one request: which fail, and the values
of those that succeed. -/
structure Outcomes where
  fails : Call → Bool
  facts : TunnelDeviceFacts
  health : Health
  privateReachability : PrivateReachability

/-- The results of the calls, of which these have succeeded. -/
def Outcomes.calls (outcomes : Outcomes) (done : List Call) : Calls where
  prepare := if .prepare ∈ done then some outcomes.facts else none
  connect := .connect ∈ done
  health := if .health ∈ done then some outcomes.health else none
  disconnect := .disconnect ∈ done
  stop := .stop ∈ done
  close := .close ∈ done

/-- The call of `cancellableOperation.run`. -/
def CancellableOperation.call (operation : CancellableOperation) : Call :=
  match operation.request.type with
  | .connectTransport => .connect
  | .sampleHealth => .health
  | _ => .privateReachability

/-- `cancellableOperation.run`, once the call has succeeded. -/
def CancellableOperation.result (operation : CancellableOperation)
    (outcomes : Outcomes) : BackendResult :=
  match operation.call with
  | .connect => .connected
  | .health => .health outcomes.health
  | _ => .privateReachability outcomes.privateReachability

/-- `response` is the one of the last request; the server may return without
one. -/
structure Served (State : Type) where
  session : Session
  backend : State
  response : Option Response
  ended : Bool

inductive Service where
  | handle (request : Request) (outcomes : Outcomes)
  | operate (request : Request) (outcomes : Outcomes) (cancelled : Bool)
      (rollbackFails : Bool)

namespace Served

variable {State : Type} (plane : DataPlane State)

def initial (profile : Option Profile) (backend : State) : Served State where
  session := .new profile
  backend := backend
  response := none
  ended := false

/-- `handleWithContext`, whose own note of the carrier is not needed. -/
def handle (served : Served State) (request : Request) (outcomes : Outcomes) :
    Served State :=
  let ran :=
    plane.run outcomes.fails served.backend
    (served.session.requestCalls request)
  let handled := served.session.handle ⟨none⟩ (outcomes.calls ran.1) 0 request
  { session := handled.session
    backend := ran.2
    response := some handled.response
    ended := handled.stop }

/-- `cancelCancellable`: a connection that the backend has opened is closed
again; if that fails the server returns without a response. -/
def cancel (served : Served State) (operation : CancellableOperation)
    (backend : State) (connected rollbackFails : Bool) : Served State :=
  if connected then
    if plane.allows backend .disconnect && !rollbackFails then
      { served with
        backend := plane.next backend .disconnect
        response := some operation.request.cancelled }
    else
      { served with backend, response := none, ended := true }
  else
    { served with
      backend, response := some operation.request.cancelled }

/-- A cancellable request, to the end of its operation. -/
def operate (probes : Bool) (served : Served State) (request : Request)
    (outcomes : Outcomes) (cancelled rollbackFails : Bool) : Served State :=
  match served.session.prepareCancellable probes request with
  | .error response => { served with response := some response }
  | .ok operation =>
    let ran := plane.run outcomes.fails served.backend [operation.call]
    let succeeded := operation.call ∈ ran.1
    if cancelled then
      served.cancel plane operation ran.2
        (succeeded && operation.call = .connect) rollbackFails
    else
      let completed := served.session.completeCancellable operation
        (if succeeded then operation.result outcomes else .failed)
      { served with
        session := completed.1
        backend := ran.2
        response := some completed.2 }

def step (probes : Bool) (served : Served State) :
    Service → Option (Served State)
  | .handle request outcomes =>
    if served.ended then none
    else some (served.handle plane request outcomes)
  | .operate request outcomes cancelled rollbackFails =>
    if served.ended then none
    else
      some (served.operate plane probes request outcomes cancelled
        rollbackFails)

end Served

end KyClash.Sidecar
