import KyClash.Sidecar.Session

/-!
# The IPC server of the sidecar

`serveWithBackendContext` as a transition system.  The owner reads records and
writes responses; a cancellable operation runs on a worker of its own.  Owner
and worker meet in the compare-and-swap on `winner` and in the channel
`operations`, so each event is what one of them does between two such points.

The server is modelled up to its return.  Records are known by their position
in the input; `records`, `written`, `returned`, `accepted` and `opener` only
keep the history.
-/

namespace KyClash.Sidecar

/-- `winner`. -/
inductive Race where
  | running
  | cancelWon
  | completionWon
  deriving DecidableEq, Repr

/-- What the worker puts in the channel. -/
inductive Outcome where
  | completed (result : BackendResult)
  | cancelled
  | rollbackFailed
  deriving DecidableEq, Repr

inductive Worker where
  /-- The backend's call runs. -/
  | running
  /-- The call has returned; the compare-and-swap is next. -/
  | returned (result : BackendResult)
  /-- The compare-and-swap was lost; `cancelCancellable` is next. -/
  | lost (result : BackendResult)
  | finished (outcome : Outcome)
  deriving DecidableEq, Repr

/-- `activePrimary`, with its worker. -/
structure Active where
  position : Nat
  operation : CancellableOperation
  winner : Race
  controlSeen : Bool
  lateCancel : Option (Nat × Request)
  worker : Worker
  deriving DecidableEq, Repr

/-- The owner selects, or has won the race for a cancel and is about to write
its response. -/
inductive Owner where
  | selecting
  | accepting (position : Nat) (request : Request) (target : Text)
  deriving DecidableEq, Repr

/-- `returned` are the results of the backend's calls and `accepted` the
cancels that won, each with the request it cancels.  `opener` is the record
that set the session's transport. -/
structure Server where
  session : Session
  backend : Backend
  active : Option Active
  owner : Owner
  ended : Bool
  records : List Request
  written : List (Nat × Response)
  returned : List (Nat × BackendResult)
  accepted : List (Nat × Nat)
  opener : Option Nat
  deriving DecidableEq, Repr

inductive Event where
  /-- The owner receives a record; the calls are those of its handling. -/
  | record (request : Request) (calls : Calls)
  | writeAccepted
  | callReturns (result : BackendResult)
  | race
  /-- `cancelCancellable`, and whether its `Disconnect` succeeds. -/
  | rollback (succeeds : Bool)
  /-- The owner receives the worker's result. -/
  | deliver
  /-- The backend loses its carrier on its own. -/
  | carrierLost
  /-- The server returns: end of input, a malformed record, a failed write
  or the end of its context. -/
  | terminate
  deriving DecidableEq, Repr

/-- Who opened the carrier, after a call for this record. -/
def BackendResult.opener (result : BackendResult) (position : Nat)
    (before : Option Nat) : Option Nat :=
  if result = .connected then some position else before

namespace Server

def initial (profile : Option Profile) : Server where
  session := .new profile
  backend := ⟨none⟩
  active := none
  owner := .selecting
  ended := false
  records := []
  written := []
  returned := []
  accepted := []
  opener := none

def halt (server : Server) : Server :=
  { server with ended := true }

def write (server : Server) (position : Nat) (response : Response) : Server :=
  { server with written := server.written ++ [(position, response)] }

def receive (server : Server) (request : Request) : Server :=
  { server with records := server.records ++ [request] }

/-- A record that arrives while an operation is active. -/
def control (server : Server) (active : Active) (position : Nat)
    (request : Request) : Server :=
  if request.type ≠ .cancel || active.controlSeen then server.halt
  else
    match request.decodeCancelTarget with
    | none => server.halt
    | some target =>
      if target ≠ active.operation.request.requestID then server.halt
      else if active.winner = .running then
        { server with
          active := some { active with
            controlSeen := true, winner := .cancelWon }
          owner := .accepting position request target
          accepted := server.accepted ++ [(position, active.position)] }
      else
        { server with
          active := some { active with
            controlSeen := true, lateCancel := some (position, request) } }

def startOperation (server : Server) (position : Nat)
    (operation : CancellableOperation) : Server :=
  { server with
    active := some
      { position, operation
        winner := .running
        controlSeen := false
        lateCancel := none
        worker := .running } }

/-- A request that the owner handles itself. -/
def handle (server : Server) (calls : Calls) (position : Nat)
    (request : Request) : Server :=
  let handled := server.session.handle server.backend calls position request
  let server :=
    { server with
      session := handled.session
      backend := handled.backend
      opener := if handled.session.activeTransport.isSome
        then server.opener else none }
  let server := server.write position handled.response
  if handled.stop then server.halt else server

def cancellable : RequestType → Bool
  | .connectTransport => true
  | .sampleHealth => true
  | .samplePrivateReachability => true
  | _ => false

variable (probes : Bool)

/-- A record that arrives while no operation is active. -/
def idle (server : Server) (calls : Calls) (position : Nat)
    (request : Request) : Server :=
  if request.type = .cancel then
    server.write position
      (if request.decodeCancelTarget.isSome then request.cancelTooLate
        else request.invalidData)
  else if cancellable request.type then
    match server.session.prepareCancellable probes request with
    | .error response => server.write position response
    | .ok operation => server.startOperation position operation
  else
    server.handle calls position request

def dispatch (server : Server) (calls : Calls) (position : Nat)
    (request : Request) : Server :=
  match server.active with
  | some active => server.control active position request
  | none => server.idle probes calls position request

/-- The owner applies the worker's result. -/
def complete (server : Server) (active : Active) : Outcome → Server
  | .rollbackFailed => { server with active := none }.halt
  | .cancelled =>
    { server with active := none }.write active.position
      active.operation.request.cancelled
  | .completed result =>
    let completed := server.session.completeCancellable active.operation result
    let server :=
      { server with
        session := completed.1
        active := none
        opener := result.opener active.position server.opener }
    let server := server.write active.position completed.2
    match active.lateCancel with
    | none => server
    | some (position, request) => server.write position request.cancelTooLate

def work (server : Server) (active : Active) (worker : Worker) : Server :=
  { server with active := some { active with worker } }

def step (server : Server) (event : Event) : Option Server :=
  if server.ended then none
  else
    match event, server.owner, server.active with
    | .record request calls, .selecting, _ =>
      if request.accepted then
        some ((server.receive request).dispatch probes calls
          server.records.length request)
      else
        some server.halt
    | .writeAccepted, .accepting position request target, _ =>
      some ({ server with owner := .selecting }.write position
        (request.cancelAccepted target))
    | .callReturns result, _, some active =>
      if active.worker = .running ∧ active.operation.mayReturn result then
        some ({ server with
          backend := ⟨result.opener active.position server.backend.carrier⟩
          returned := server.returned ++ [(active.position, result)] }.work
            active (.returned result))
      else
        none
    | .race, _, some active =>
      match active.worker with
      | .returned result =>
        if active.winner = .running then
          some (server.work { active with winner := .completionWon }
            (.finished (.completed result)))
        else
          some (server.work active (.lost result))
      | _ => none
    | .rollback succeeds, _, some active =>
      match active.worker with
      | .lost .connected =>
        if succeeds then
          some ({ server with backend := ⟨none⟩ }.work active
            (.finished .cancelled))
        else
          some (server.work active (.finished .rollbackFailed))
      | .lost _ => some (server.work active (.finished .cancelled))
      | _ => none
    | .deliver, .selecting, some active =>
      match active.worker with
      | .finished outcome => some (server.complete active outcome)
      | _ => none
    | .carrierLost, _, _ =>
      if server.backend.carrier.isSome then
        some { server with backend := ⟨none⟩ }
      else
        none
    | .terminate, _, _ => some server.halt
    | _, _, _ => none

end Server

end KyClash.Sidecar
