import KyClash.Networking.Responses
import KyClash.Sidecar.Cancellation
import KyClash.StdioRuntime.Request

/-!
# The server's part of a cancellable request

A call sends its request and at most one control request.  `Stage` is how far
the server is with the two: what it has received and what it has answered.
The server follows the stages in every run in which no rollback fails.
-/

namespace KyClash.StdioRuntime

open Sidecar (Text Response Server Calls Active BackendResult Session)

/-- How far the server is with the control record while the operation
runs. -/
inductive Control where
  | unseen
  | accepting
  | accepted
  | late

inductive Stage where
  | waiting
  | running (control : Control)
  | answered (response : Response)
  | cancelled
  | late (response : Response)

namespace Stage

def taken : Stage → Nat
  | .waiting => 0
  | .running .unseen => 1
  | .running _ => 2
  | .answered _ => 1
  | .cancelled => 2
  | .late _ => 2

def answers (position : Nat) (primary control : Sidecar.Request) :
    Stage → List (Nat × Response)
  | .waiting => []
  | .running .accepted =>
    [(position + 1, control.cancelAccepted primary.requestID)]
  | .running _ => []
  | .answered response => [(position, response)]
  | .cancelled =>
    [(position + 1, control.cancelAccepted primary.requestID),
      (position, primary.cancelled)]
  | .late response =>
    [(position, response), (position + 1, control.cancelTooLate)]

inductive Receives : Stage → Stage → Prop where
  | refused (response : Response) : Receives .waiting (.answered response)
  | started : Receives .waiting (.running .unseen)
  | accepted : Receives (.running .unseen) (.running .accepting)
  | tooLate : Receives (.running .unseen) (.running .late)
  | afterwards (response : Response) :
      Receives (.answered response) (.late response)

inductive Advances : Stage → Stage → Prop where
  | stays (stage : Stage) : Advances stage stage
  | wrote : Advances (.running .accepting) (.running .accepted)
  | completed (response : Response) :
      Advances (.running .unseen) (.answered response)
  | cancelled : Advances (.running .accepted) .cancelled
  | late (response : Response) :
      Advances (.running .late) (.late response)

variable {before after : Stage}

theorem Receives.taken_eq (receives : Receives before after) :
    after.taken = before.taken + 1 := by
  cases receives <;> rfl

theorem Advances.taken_eq (advances : Advances before after) :
    after.taken = before.taken := by
  cases advances <;> rfl

variable (position : Nat) (primary control : Sidecar.Request)

theorem Receives.answers_eq (receives : Receives before after) :
    ∃ added, after.answers position primary control =
      before.answers position primary control ++ added := by
  cases receives <;> exact ⟨_, rfl⟩

theorem Advances.answers_eq (advances : Advances before after) :
    ∃ added, after.answers position primary control =
      before.answers position primary control ++ added := by
  cases advances with
  | stays => exact ⟨[], (List.append_nil _).symm⟩
  | _ => exact ⟨_, rfl⟩

end Stage

/-- A server that waits for a request. -/
structure Idle (server : Server) : Prop where
  inactive : server.active = none
  selecting : server.owner = .selecting

section Call

variable (probes : Bool) (start : Server) (request control : Ipc.Request)

/-- The response is the outcome that the request really had, and the client
takes it as a response to its request. -/
structure Truthful (server : Server) (response : Response) : Prop where
  outcome : start.session.prepareCancellable probes request.record =
      .error response ∨
    ∃ result, (start.records.length, result) ∈ server.returned ∧
      request.record.Reports response result
  passes : Ipc.validateProtocol response request = .ok ()
  plain : operationCancelled response = false
  id : response.requestID = request.requestID

/-- What the owner and the operation know of the control record. -/
def Control.Fits (server : Server) (active : Active) : Control → Prop
  | .unseen => server.owner = .selecting ∧ active.controlSeen = false
  | .accepting =>
    server.owner = .accepting (start.records.length + 1) control.record
      request.requestID ∧ active.controlSeen = true ∧
      active.winner = .cancelWon ∧ server.Cancelled start.records.length
  | .accepted =>
    server.owner = .selecting ∧ active.controlSeen = true ∧
      active.winner = .cancelWon ∧ server.Cancelled start.records.length
  | .late =>
    server.owner = .selecting ∧ active.controlSeen = true ∧
      active.lateCancel = some (start.records.length + 1, control.record)

/-- The operation of the call is active. -/
structure Operates (server : Server) (active : Active) : Prop where
  position : active.position = start.records.length
  prepared : start.session.Prepared request.record active.operation
  session : server.session = start.session
  healthy : active.worker ≠ .finished .rollbackFailed
  called : ∀ result, active.worker.result = some result →
    (start.records.length, result) ∈ server.returned

inductive Holds (server : Server) : Stage → Prop where
  | waiting (idle : Idle server) (session : server.session = start.session) :
      Holds server .waiting
  | running {known : Control} {active : Active}
      (found : server.active = some active)
      (operates : Operates start request server active)
      (fits : known.Fits start request control server active) :
      Holds server (.running known)
  | answered {response : Response} (idle : Idle server)
      (truthful : Truthful probes start request server response) :
      Holds server (.answered response)
  | cancelled (idle : Idle server)
      (cancelled : server.Cancelled start.records.length) :
      Holds server .cancelled
  | late {response : Response} (idle : Idle server)
      (truthful : Truthful probes start request server response) :
      Holds server (.late response)

/-- The server is at this stage of the call. -/
structure Follows (server : Server) (stage : Stage) : Prop where
  live : server.ended = false
  records : server.records =
    start.records ++ [request.record, control.record].take stage.taken
  written : server.written = start.written ++
    stage.answers start.records.length request.record control.record
  holds : Holds probes start request control server stage

end Call

/-- What an operation came to is never told as a cancellation. -/
theorem operationCancelled_completeCancellable (session : Session)
    (operation : Sidecar.CancellableOperation) (result : BackendResult) :
    operationCancelled (session.completeCancellable operation result).2 =
      false := by
  unfold Session.completeCancellable
  split
  · rfl
  · split <;> rfl
  · split <;> rfl
  · rfl

variable {record : Sidecar.Request} {server : Server} {probes : Bool}
  {calls : Calls}

theorem step_record_idle (idle : Idle server) (live : server.ended = false)
    (accepted : record.accepted = true) :
    server.step probes (.record record calls) =
      some
        ((server.receive record).idle probes calls server.records.length
          record) := by
  have inactive : (server.receive record).active = none := idle.inactive
  simp [Server.step, live, idle.selecting, accepted, Server.dispatch, inactive]

theorem step_record_active {active : Active}
    (found : server.active = some active)
    (selecting : server.owner = .selecting) (live : server.ended = false)
    (accepted : record.accepted = true) :
    server.step probes (.record record calls) =
      some
        ((server.receive record).control active server.records.length
          record) := by
  have same : (server.receive record).active = some active := found
  simp [Server.step, live, selecting, accepted, Server.dispatch, same]

section Steps

variable {probes : Bool} {start : Server} {request control : Ipc.Request}
  {server : Server} {response : Response} {after : Server} {calls : Calls}
  {stage : Stage} {active : Active} {worker : Sidecar.Worker}
  {event : Sidecar.Event}

theorem decodeCancelTarget_control (valid : control.Valid)
    (cancels : control.payload = .cancel request.requestID) :
    control.record.decodeCancelTarget = some request.requestID := by
  obtain ⟨proper, different⟩ := valid.target _ cancels
  rw [Ipc.validIpcID_eq] at proper
  simp [Sidecar.Request.decodeCancelTarget, Ipc.Request.record, cancels,
    Ipc.RequestPayload.data, proper, different]

theorem type_control (cancels : control.payload = .cancel request.requestID) :
    control.record.type = .cancel :=
  congrArg Ipc.RequestPayload.type cancels

/-- A refusal is what really became of the request. -/
theorem truthful_of_refused (valid : request.Valid)
    (refused : start.session.prepareCancellable probes request.record =
      .error response) :
    Truthful probes start request server response := by
  rcases Session.prepareCancellable_error refused with rfl | rfl
  all_goals exact ⟨.inl refused, valid.validateProtocol_err _, rfl, rfl⟩

theorem Truthful.later
    (truthful : Truthful probes start request server response)
    (returned : ∀ pair, pair ∈ server.returned → pair ∈ after.returned) :
    Truthful probes start request after response := by
  refine ⟨?_, truthful.passes, truthful.plain, truthful.id⟩
  rcases truthful.outcome with refused | ⟨result, member, reported⟩
  · exact .inl refused
  · exact .inr ⟨result, returned _ member, reported⟩

theorem Follows.receivePrimary
    (follows : Follows probes start request control server .waiting)
    (valid : request.Valid) (can : cancellable request.payload = true)
    (taken : server.step probes (.record request.record calls) = some after) :
    ∃ stage, Stage.Receives .waiting stage ∧
      Follows probes start request control after stage := by
  obtain ⟨live, records, written, holds⟩ := follows
  obtain ⟨idle, session⟩ := holds
  have notCancel : request.record.type ≠ .cancel := by
    intro type
    cases payload : request.payload <;>
      simp_all [Ipc.Request.record, Ipc.RequestPayload.type, cancellable]
  have proper : Server.cancellable request.record.type = true := by
    cases payload : request.payload <;>
      simp_all [Ipc.Request.record, Ipc.RequestPayload.type, cancellable,
        Server.cancellable]
  have count : server.records.length = start.records.length := by
    simp [records, Stage.taken]
  rw [step_record_idle idle live valid.accepted] at taken
  have after_eq := Option.some.inj taken
  have same : (server.receive request.record).session = start.session := session
  rw [Server.idle, if_neg notCancel, if_pos proper, same] at after_eq
  cases prepared : start.session.prepareCancellable probes request.record with
  | error response =>
    rw [prepared] at after_eq
    subst after_eq
    refine ⟨_, .refused response, live, ?_, ?_, .answered ?_ ?_⟩
    · simp [Server.write, Server.receive, records, Stage.taken]
    · simp [Server.write, Server.receive, written, Stage.answers, count]
    · exact { idle with }
    · exact truthful_of_refused valid prepared
  | ok operation =>
    rw [prepared] at after_eq
    subst after_eq
    refine ⟨_, .started, live, ?_, ?_,
      .running rfl ⟨count, ?_, session, ?_, ?_⟩ ⟨?_, rfl⟩⟩
    · simp [Server.startOperation, Server.receive, records, Stage.taken]
    · simp [Server.startOperation, Server.receive, written, Stage.answers]
    · exact Session.prepareCancellable_ok prepared
    · rintro ⟨⟩
    · rintro _ ⟨⟩
    · exact idle.selecting

theorem Follows.receiveAfterwards
    (follows : Follows probes start request control server (.answered response))
    (valid : control.Valid)
    (cancels : control.payload = .cancel request.requestID)
    (taken : server.step probes (.record control.record calls) = some after) :
    Follows probes start request control after (.late response) := by
  obtain ⟨live, records, written, holds⟩ := follows
  obtain _ | _ | ⟨idle, truthful⟩ := holds
  have count : server.records.length = start.records.length + 1 := by
    simp [records, Stage.taken]
  have decoded := decodeCancelTarget_control valid cancels
  rw [step_record_idle idle live valid.accepted] at taken
  have after_eq := Option.some.inj taken
  rw [Server.idle, if_pos (type_control cancels), decoded,
    Option.isSome_some, if_pos rfl] at after_eq
  subst after_eq
  refine ⟨live, ?_, ?_, .late ?_ (truthful.later fun _ => id)⟩
  · simp [Server.write, Server.receive, records, Stage.taken]
  · simp [Server.write, Server.receive, written, Stage.answers, count]
  · exact { idle with }

theorem Follows.receiveControl
    (follows : Follows probes start request control server (.running .unseen))
    (valid : control.Valid)
    (cancels : control.payload = .cancel request.requestID)
    (taken : server.step probes (.record control.record calls) = some after) :
    ∃ stage, Stage.Receives (.running .unseen) stage ∧
      Follows probes start request control after stage := by
  obtain ⟨live, records, written, holds⟩ := follows
  obtain _ | ⟨found, operates, selecting, unseen⟩ := holds
  rename_i active
  have count : server.records.length = start.records.length + 1 := by
    simp [records, Stage.taken]
  have decoded := decodeCancelTarget_control valid cancels
  have named : request.requestID = active.operation.request.requestID := by
    rw [operates.prepared.same]
    rfl
  rw [step_record_active found selecting live valid.accepted] at taken
  have after_eq := Option.some.inj taken
  rw [Server.control, if_neg (by simp [type_control cancels, unseen]),
    decoded] at after_eq
  dsimp only at after_eq
  rw [if_neg (not_not.mpr named)] at after_eq
  by_cases running : active.winner = .running
  · rw [if_pos running] at after_eq
    subst after_eq
    refine ⟨_, .accepted, live, ?_, written,
      .running rfl { operates with } ⟨?_, rfl, rfl, ?_⟩⟩
    · simp [Server.receive, records, Stage.taken]
    · rw [count]
    · refine ⟨server.records.length, ?_⟩
      rw [← operates.position]
      exact List.mem_append_right _ (List.mem_singleton.mpr rfl)
  · rw [if_neg running] at after_eq
    subst after_eq
    refine ⟨_, .tooLate, live, ?_, written,
      .running rfl { operates with } ⟨selecting, rfl, ?_⟩⟩
    · simp [Server.receive, records, Stage.taken]
    · rw [count]

/-- The events of a run in which no rollback fails and nothing ends the
server from outside. -/
def Benign : Sidecar.Event → Prop
  | .record _ _ => False
  | .terminate => False
  | .rollback succeeds => succeeds = true
  | _ => True

/-- No rollback has failed. -/
def Healthy (server : Server) : Prop :=
  ∀ active, server.active = some active →
    active.worker ≠ .finished .rollbackFailed

private theorem healthy_work (healthy : worker ≠ .finished .rollbackFailed) :
    Healthy (server.work active worker) := by
  intro other found
  cases found
  exact healthy

theorem benign_step (benign : Benign event) (healthy : Healthy server)
    (taken : server.step probes event = some after) :
    after.ended = false ∧ after.records = server.records ∧ Healthy after := by
  have live := Server.live_of_step taken
  unfold Server.step at taken
  split at taken
  · cases taken
  split at taken
  · cases benign
  · cases taken
    exact ⟨live, rfl, healthy⟩
  · split at taken
    · cases taken
      exact ⟨live, rfl, healthy_work nofun⟩
    · cases taken
  · split at taken
    · split at taken
      all_goals
        cases taken
        exact ⟨live, rfl, healthy_work nofun⟩
    · cases taken
  · split at taken
    · next succeeds _ _ _ _ =>
      cases benign
      cases taken
      exact ⟨live, rfl, healthy_work nofun⟩
    · cases taken
      exact ⟨live, rfl, healthy_work nofun⟩
    · cases taken
  · next found =>
    split at taken
    · next outcome worker =>
      cases taken
      cases outcome with
      | rollbackFailed => exact absurd worker (healthy _ found)
      | cancelled => exact ⟨live, rfl, by rintro _ ⟨⟩⟩
      | completed result =>
        unfold Server.complete
        dsimp only
        split
        all_goals exact ⟨live, rfl, by rintro _ ⟨⟩⟩
    · cases taken
  · split at taken
    · cases taken
      exact ⟨live, rfl, healthy⟩
    · cases taken
  · cases benign
  · cases taken

private theorem ne_append_singleton {α : Type} (items : List α) (item : α) :
    items ++ [item] ≠ items := by
  simp

section

variable (follows : Follows probes start request control server stage)
include follows

theorem Follows.receive (valid : request.Valid)
    (can : cancellable request.payload = true) (proper : control.Valid)
    (cancels : control.payload = .cancel request.requestID)
    (next : [request.record, control.record][stage.taken]? = some record)
    (taken : server.step probes (.record record calls) = some after) :
    ∃ later, Stage.Receives stage later ∧
      Follows probes start request control after later := by
  cases stage with
  | waiting =>
    cases next
    exact follows.receivePrimary valid can taken
  | running known =>
    cases known with
    | unseen =>
      cases next
      exact follows.receiveControl proper cancels taken
    | accepting | accepted | late => cases next
  | answered response =>
    cases next
    exact ⟨_, .afterwards response,
      follows.receiveAfterwards proper cancels taken⟩
  | cancelled | late => cases next

theorem Follows.running_of_active (found : server.active = some active) :
    ∃ known, stage = .running known ∧ Operates start request server active ∧
      known.Fits start request control server active := by
  have inactive : ¬ Idle server := by
    intro idle
    have none := idle.inactive
    rw [found] at none
    cases none
  obtain ⟨-, -, -, holds⟩ := follows
  cases holds with
  | running same operates fits =>
    rw [found] at same
    cases same
    exact ⟨_, rfl, operates, fits⟩
  | waiting idle | answered idle | cancelled idle | late idle =>
    exact absurd idle inactive

theorem Follows.work {backend : Sidecar.Backend}
    {returned : List (Nat × BackendResult)} {winner : Sidecar.Race}
    (found : server.active = some active)
    (kept : active.winner = .cancelWon → winner = .cancelWon)
    (healthy : worker ≠ .finished .rollbackFailed)
    (called : ∀ result, worker.result = some result →
      (start.records.length, result) ∈ returned) :
    ∃ next, Stage.Advances stage next ∧
      Follows probes start request control
        ({ server with backend, returned }.work { active with winner } worker)
        next := by
  obtain ⟨known, rfl, operates, fits⟩ := follows.running_of_active found
  refine ⟨_, .stays _, follows.live, follows.records, follows.written,
    .running rfl { operates with healthy, called } ?_⟩
  cases known with
  | unseen | late => exact fits
  | accepting | accepted =>
    obtain ⟨owner, seen, won, cancelled⟩ := fits
    exact ⟨owner, seen, kept won, cancelled⟩

theorem Follows.healthy : Healthy server := by
  intro active found
  obtain ⟨-, -, operates, -⟩ := follows.running_of_active found
  exact operates.healthy

theorem Follows.wroteAccepted {position : Nat} {target : Text}
    (accepting : server.owner = .accepting position record target) :
    ∃ next, Stage.Advances stage next ∧
      Follows probes start request control
        ({ server with owner := .selecting }.write position
          (record.cancelAccepted target))
        next := by
  have busy : ¬ server.owner = .selecting := by
    rw [accepting]
    exact nofun
  obtain ⟨live, records, written, holds⟩ := follows
  cases holds with
  | waiting idle | answered idle | cancelled idle | late idle =>
    exact absurd idle.selecting busy
  | @running known active found operates fits =>
    cases known with
    | unseen | accepted | late => exact absurd fits.1 busy
    | accepting =>
      obtain ⟨owner, seen, won, cancelled⟩ := fits
      rw [accepting] at owner
      cases owner
      refine ⟨_, .wrote, live, records, ?_,
        .running found { operates with } ⟨rfl, seen, won, cancelled⟩⟩
      simp only [Server.write, written, Stage.answers, List.append_nil]
      rfl

theorem Follows.deliverCancelled (consistent : active.Consistent)
    (selecting : server.owner = .selecting)
    (found : server.active = some active)
    (worker : active.worker = .finished .cancelled) :
    ∃ next, Stage.Advances stage next ∧
      Follows probes start request control
        ({ server with active := none }.write active.position
          active.operation.request.cancelled)
        next := by
  obtain ⟨known, rfl, operates, fits⟩ := follows.running_of_active found
  have won : active.winner = .cancelWon := by
    have fits := consistent.worker
    rw [worker] at fits
    exact fits
  cases known with
  | unseen => exact absurd won (consistent.unseen fits.2).1
  | accepting =>
    have owner := fits.1
    rw [selecting] at owner
    cases owner
  | late =>
    have late := consistent.late (by rw [won]; exact nofun)
    rw [fits.2.2] at late
    cases late
  | accepted =>
    refine ⟨_, .cancelled, follows.live, follows.records, ?_,
      .cancelled ⟨rfl, selecting⟩ fits.2.2.2⟩
    rw [operates.position, operates.prepared.same]
    simp [Server.write, follows.written, Stage.answers]

theorem Follows.deliverCompleted {result : BackendResult}
    (valid : request.Valid) (consistent : active.Consistent)
    (possible : active.operation.mayReturn result = true)
    (selecting : server.owner = .selecting)
    (found : server.active = some active)
    (worker : active.worker = .finished (.completed result)) :
    ∃ next, Stage.Advances stage next ∧
      Follows probes start request control
        (server.complete active (.completed result)) next := by
  obtain ⟨known, rfl, operates, fits⟩ := follows.running_of_active found
  have won : active.winner = .completionWon := by
    have fits := consistent.worker
    rw [worker] at fits
    exact fits
  have truthful : ∀ after : Server, after.returned = server.returned →
      Truthful probes start request after
        (start.session.completeCancellable active.operation result).2 := by
    intro after same
    have passes := Ipc.passes_completeCancellable valid operates.prepared result
    have plain :=
      operationCancelled_completeCancellable start.session active.operation
        result
    have connects : active.operation.request.type = .connectTransport →
        active.operation.transport =
          active.operation.request.data.transport := by
      rw [operates.prepared.same]
      exact fun type => (operates.prepared.connects type).1
    have reported := start.session.reports_completeCancellable possible connects
    have answers :=
      start.session.answers_completeCancellable active.operation result
    rw [operates.prepared.same] at reported answers
    refine ⟨.inr ⟨result, ?_, reported⟩, passes, plain, answers.id⟩
    rw [same]
    exact operates.called result (by rw [worker]; rfl)
  unfold Server.complete
  rw [operates.session, operates.position]
  cases known with
  | unseen =>
    rw [(consistent.unseen fits.2).2]
    refine ⟨_, .completed _, follows.live, follows.records, ?_,
      .answered ⟨rfl, selecting⟩ (truthful _ rfl)⟩
    simp [Server.write, follows.written, Stage.answers]
  | accepting | accepted =>
    have lost := fits.2.2.1
    rw [won] at lost
    cases lost
  | late =>
    rw [fits.2.2]
    refine ⟨_, .late _, follows.live, follows.records, ?_,
      .late ⟨rfl, selecting⟩ (truthful _ rfl)⟩
    simp [Server.write, follows.written, Stage.answers]

theorem Follows.advance (valid : request.Valid) (sound : server.Sound)
    (benign : Benign event) (taken : server.step probes event = some after) :
    ∃ next, Stage.Advances stage next ∧
      Follows probes start request control after next := by
  obtain ⟨live, records, healthy⟩ := benign_step benign follows.healthy taken
  have move := Server.move_of_step taken live
  have called : ∀ active, server.active = some active → ∀ result,
      active.worker.result = some result →
      (start.records.length, result) ∈ server.returned := by
    intro active found
    obtain ⟨-, -, operates, -⟩ := follows.running_of_active found
    exact operates.called
  cases move with
  | answered | started | accepted | late =>
    exact absurd records (ne_append_singleton _ _)
  | wroteAccepted accepting => exact follows.wroteAccepted accepting
  | @returned active result found =>
    obtain ⟨-, -, operates, -⟩ := follows.running_of_active found
    refine follows.work found id nofun ?_
    intro other same
    cases same
    rw [← operates.position]
    exact List.mem_append_right _ (List.mem_singleton.mpr rfl)
  | @completionWon active result found worker running =>
    refine follows.work found ?_ nofun ?_
    · intro won
      rw [running] at won
      cases won
    · intro other same
      exact called active found other (by rw [worker]; exact same)
  | @lost active result found worker =>
    refine follows.work found id nofun ?_
    intro other same
    exact called active found other (by rw [worker]; exact same)
  | rolledBack found | nothingOpened found =>
    exact follows.work found id nofun nofun
  | rollbackFailed => exact absurd rfl (healthy _ rfl)
  | cancelled selecting found worker =>
    exact follows.deliverCancelled (sound.consistent _ found) selecting found
      worker
  | @completed active result selecting found worker =>
    have possible :=
      (sound.settled.running active found).possible result (by rw [worker]; rfl)
    exact follows.deliverCompleted valid (sound.consistent _ found) possible
      selecting found worker
  | carrierLost =>
    obtain ⟨-, old, written, holds⟩ := follows
    refine ⟨_, .stays _, live, old, written, ?_⟩
    cases holds with
    | waiting idle session =>
      exact .waiting { idle with } session
    | @running known active found operates fits =>
      refine .running found { operates with } ?_
      cases known <;> exact fits
    | answered idle truthful =>
      exact .answered { idle with } (truthful.later fun _ => id)
    | cancelled idle cancelled => exact .cancelled { idle with } cancelled
    | late idle truthful =>
      exact .late { idle with } (truthful.later fun _ => id)

end

end Steps

end KyClash.StdioRuntime
