import KyClash.Sidecar.Server

/-!
# What a step of the server can do

`Move` lists the steps after which the server goes on, with what each of them
knows; every invariant of the server is proved from it.
-/

namespace KyClash.Sidecar

/-- A response that answers the request and accepts no cancel. -/
structure Request.Answers (request : Request) (response : Response) : Prop where
  id : response.requestID = request.requestID
  plain : ∀ target, response.result ≠ .ok (.cancelAccepted target)

namespace Request

variable (request : Request)

theorem answers_respond {result : Result}
    (plain : ∀ target, result ≠ .ok (.cancelAccepted target)) :
    request.Answers (request.respond result) :=
  ⟨rfl, plain⟩

theorem answers_invalidData : request.Answers request.invalidData :=
  request.answers_respond nofun

theorem answers_invalidState : request.Answers request.invalidState :=
  request.answers_respond nofun

theorem answers_cancelTooLate : request.Answers request.cancelTooLate :=
  request.answers_respond nofun

theorem answers_cancelled : request.Answers request.cancelled :=
  request.answers_respond nofun

end Request

/-- The answers to a request that its checks refuse. -/
def Request.Refusal (request : Request) (response : Response) : Prop :=
  response = request.invalidData ∨ response = request.invalidState

theorem Request.Refusal.answers {request : Request} {response : Response}
    (refusal : request.Refusal response) : request.Answers response := by
  rcases refusal with rfl | rfl
  · exact request.answers_invalidData
  · exact request.answers_invalidState

/-- What was there is still there, or gone. -/
def Kept {α : Type} (before after : Option α) : Prop :=
  after = before ∨ after = none

theorem Kept.eq_some {α : Type} {before after : Option α} {value : α}
    (kept : Kept before after) (found : after = some value) :
    before = some value := by
  rcases kept with same | gone
  · exact same.symm.trans found
  · rw [gone] at found
    cases found

namespace Session

variable {session : Session} {request : Request} {response : Response}
  {backend : Backend} {probes : Bool}

theorem answers_backendFailure (session : Session) (request : Request) :
    request.Answers (session.backendFailure request).2 :=
  request.answers_respond nofun

theorem connectTarget_error
    (refused : session.connectTarget request = .error response) :
    request.Refusal response := by
  unfold connectTarget at refused
  split at refused
  · cases refused
    exact .inl rfl
  split at refused
  · cases refused
    exact .inr rfl
  split at refused
  · cases refused
    exact .inr rfl
  split at refused
  · cases refused
    exact .inl rfl
  · cases refused

theorem connectTarget_ok {transport : TransportKind}
    {endpoint : NormalizedEndpoint}
    (found : session.connectTarget request = .ok (transport, endpoint)) :
    request.data.transport = some transport ∧ session.tunnelPrepared = true ∧
      session.activeTransport = none ∧ session.profile.isSome := by
  unfold connectTarget at found
  split at found
  · cases found
  · next chosen decoded =>
    split at found
    · cases found
    · next there =>
      split at found
      · cases found
      · next allowed =>
        split at found
        · cases found
        cases found
        simp only [Bool.or_eq_true, not_or, Bool.not_eq_true,
          Bool.not_eq_false',
          Option.isSome_eq_false_iff, Option.isNone_iff_eq_none] at allowed
        split at decoded
        · cases decoded
        · exact ⟨decoded, allowed.1.1, allowed.1.2,
            Option.isSome_of_eq_some there⟩

theorem sampleTarget_error
    (refused : session.sampleTarget request = .error response) :
    request.Refusal response := by
  unfold sampleTarget at refused
  split at refused
  · cases refused
    exact .inl rfl
  split at refused
  · cases refused
    exact .inr rfl
  · cases refused

/-- What a prepared operation is. -/
structure Prepared (session : Session) (request : Request)
    (operation : CancellableOperation) : Prop where
  same : operation.request = request
  connects : request.type = .connectTransport →
    operation.transport = request.data.transport ∧ operation.transport.isSome ∧
      session.activeTransport = none ∧ session.profile.isSome

theorem prepareCancellable_spec (session : Session) (request : Request)
    (probes : Bool) :
    match session.prepareCancellable probes request with
    | .error response => request.Refusal response
    | .ok operation => session.Prepared request operation := by
  unfold prepareCancellable
  cases type : request.type with
  | connectTransport =>
    cases target : session.connectTarget request with
    | error early => exact connectTarget_error target
    | ok found =>
      obtain ⟨chosen, -, inactive, there⟩ := connectTarget_ok target
      exact ⟨rfl, fun _ => ⟨chosen.symm, rfl, inactive, there⟩⟩
  | sampleHealth | samplePrivateReachability =>
    cases target : session.sampleTarget request with
    | error early => exact sampleTarget_error target
    | ok =>
      have sampled : session.Prepared request ⟨request, none, none⟩ :=
        ⟨rfl, fun connect => absurd (type.symm.trans connect) nofun⟩
      cases probes <;> first | exact sampled | exact .inr rfl
  | _ => exact .inr rfl

theorem prepareCancellable_error
    (refused : session.prepareCancellable probes request = .error response) :
    request.Refusal response := by
  have spec := session.prepareCancellable_spec request probes
  rwa [refused] at spec

theorem prepareCancellable_ok {operation : CancellableOperation}
    (prepared : session.prepareCancellable probes request = .ok operation) :
    session.Prepared request operation := by
  have spec := session.prepareCancellable_spec request probes
  rwa [prepared] at spec

/-- The answer of a request, and what becomes of the carrier and of the
session's transport. -/
structure Handled.Fair (handled : Handled) (request : Request)
    (session : Session) (backend : Backend) : Prop where
  answers : request.Answers handled.response
  carrier : Kept backend.carrier handled.backend.carrier
  transport : Kept session.activeTransport handled.session.activeTransport

private theorem fair_answer (answers : request.Answers response) :
    (session.answer backend response).Fair request session backend :=
  ⟨answers, .inl rfl, .inl rfl⟩

theorem fair_failed {after : Backend}
    (kept : Kept backend.carrier after.carrier) :
    (session.failed after request).Fair request session backend :=
  ⟨session.answers_backendFailure request, kept, .inl rfl⟩

private theorem fair_shutDown (calls : Calls) :
    (session.shutDown backend calls request).Fair request session backend := by
  have disconnected : Kept backend.carrier
      (if session.activeTransport.isSome then (⟨none⟩ : Backend)
        else backend).carrier := by
    split
    · exact .inr rfl
    · exact .inl rfl
  unfold shutDown
  split
  · exact fair_failed (.inl rfl)
  generalize (if session.activeTransport.isSome then (⟨none⟩ : Backend)
    else backend) = after at disconnected ⊢
  split
  · exact fair_failed disconnected
  split
  · exact fair_failed disconnected
  · exact ⟨request.answers_respond nofun, .inr rfl, .inr rfl⟩

private theorem fair_handle (session : Session) (backend : Backend)
    (calls : Calls) (position : Nat) (request : Request)
    (other : Server.cancellable request.type = false) :
    (session.handle backend calls position request).Fair request session
      backend := by
  have invalidData : (session.answer backend request.invalidData).Fair
      request session backend := fair_answer request.answers_invalidData
  have invalidState : (session.answer backend request.invalidState).Fair
      request session backend := fair_answer request.answers_invalidState
  unfold handle
  cases type : request.type with simp only
  | connectTransport | sampleHealth | samplePrivateReachability =>
    rw [type] at other
    cases other
  | getStatus | connect =>
    split
    · exact invalidData
    · exact fair_answer (request.answers_respond nofun)
  | unknown => exact fair_answer (request.answers_respond nofun)
  | disconnect =>
    split
    · exact invalidData
    · exact fair_shutDown calls
  | cancel =>
    split
    · exact invalidData
    · exact fair_answer request.answers_cancelTooLate
  | applyProfile =>
    split
    · exact invalidData
    split
    · exact invalidState
    · exact ⟨request.answers_respond nofun, .inl rfl, .inl rfl⟩
  | prepareTunnel =>
    split
    · exact invalidData
    split
    · exact invalidState
    split
    · exact fair_failed (.inl rfl)
    · exact ⟨request.answers_respond nofun, .inl rfl, .inl rfl⟩
  | disconnectTransport =>
    split
    · exact invalidData
    split
    · exact invalidState
    split
    · exact fair_failed (.inl rfl)
    · exact ⟨request.answers_respond nofun, .inr rfl, .inr rfl⟩
  | stopTunnel =>
    split
    · exact invalidData
    split
    · exact invalidState
    split
    · exact fair_failed (.inl rfl)
    · exact ⟨request.answers_respond nofun, .inl rfl, .inl rfl⟩

end Session

/-- The steps after which the server goes on.  Every one starts from a server
that has not ended. -/
inductive Move (server : Server) : Server → Prop where
  /-- A record is answered at once. -/
  | answered {request : Request} {response : Response} {session : Session}
      {backend : Backend} {opener : Option Nat}
      (selecting : server.owner = .selecting) (inactive : server.active = none)
      (answers : request.Answers response)
      (carrier : Kept server.backend.carrier backend.carrier)
      (transport : Kept server.session.activeTransport session.activeTransport)
      (openers : opener = server.opener ∨
        opener = none ∧ session.activeTransport = none) :
      Move server
        ({ server.receive request with session, backend, opener }.write
          server.records.length response)
  | started {request : Request} {operation : CancellableOperation}
      (selecting : server.owner = .selecting) (inactive : server.active = none)
      (prepared : server.session.Prepared request operation) :
      Move server
        ((server.receive request).startOperation server.records.length
          operation)
  /-- A cancel wins the race. -/
  | accepted {request : Request} {active : Active} {target : Text}
      (selecting : server.owner = .selecting)
      (found : server.active = some active)
      (unseen : active.controlSeen = false)
      (running : active.winner = .running)
      (decoded : request.decodeCancelTarget = some target)
      (same : target = active.operation.request.requestID) :
      Move server
        { server.receive request with
          active := some { active with
            controlSeen := true, winner := .cancelWon }
          owner := .accepting server.records.length request target
          accepted :=
            server.accepted ++ [(server.records.length, active.position)] }
  /-- A cancel loses the race. -/
  | late {request : Request} {active : Active}
      (selecting : server.owner = .selecting)
      (found : server.active = some active)
      (unseen : active.controlSeen = false)
      (decided : active.winner ≠ .running) :
      Move server
        { server.receive request with
          active := some { active with
            controlSeen := true
            lateCancel := some (server.records.length, request) } }
  | wroteAccepted {position : Nat} {request : Request} {target : Text}
      (accepting : server.owner = .accepting position request target) :
      Move server ({ server with owner := .selecting }.write position
        (request.cancelAccepted target))
  | returned {active : Active} {result : BackendResult}
      (found : server.active = some active)
      (worker : active.worker = .running)
      (possible : active.operation.mayReturn result = true) :
      Move server ({ server with
        backend := ⟨result.opener active.position server.backend.carrier⟩
        returned := server.returned ++ [(active.position, result)] }.work active
          (.returned result))
  | completionWon {active : Active} {result : BackendResult}
      (found : server.active = some active)
      (worker : active.worker = .returned result)
      (running : active.winner = .running) :
      Move server (server.work { active with winner := .completionWon }
        (.finished (.completed result)))
  | lost {active : Active} {result : BackendResult}
      (found : server.active = some active)
      (worker : active.worker = .returned result)
      (decided : active.winner ≠ .running) :
      Move server (server.work active (.lost result))
  | rolledBack {active : Active} (found : server.active = some active)
      (worker : active.worker = .lost .connected) :
      Move server
        ({ server with backend := ⟨none⟩ }.work active (.finished .cancelled))
  | rollbackFailed {active : Active} (found : server.active = some active)
      (worker : active.worker = .lost .connected) :
      Move server (server.work active (.finished .rollbackFailed))
  | nothingOpened {active : Active} {result : BackendResult}
      (found : server.active = some active)
      (worker : active.worker = .lost result)
      (unopened : result ≠ .connected) :
      Move server (server.work active (.finished .cancelled))
  | cancelled {active : Active} (selecting : server.owner = .selecting)
      (found : server.active = some active)
      (worker : active.worker = .finished .cancelled) :
      Move server ({ server with active := none }.write active.position
        active.operation.request.cancelled)
  | completed {active : Active} {result : BackendResult}
      (selecting : server.owner = .selecting)
      (found : server.active = some active)
      (worker : active.worker = .finished (.completed result)) :
      Move server (server.complete active (.completed result))
  | carrierLost (there : server.backend.carrier.isSome = true) :
      Move server { server with backend := ⟨none⟩ }

namespace Server

variable {server after : Server} {probes : Bool} {request : Request}
  {calls : Calls}

private theorem move_of_handle (selecting : server.owner = .selecting)
    (inactive : server.active = none) (other : cancellable request.type = false)
    (live : ((server.receive request).handle calls server.records.length
        request).ended = false) :
    Move server
      ((server.receive request).handle calls server.records.length
        request) := by
  have fair :=
    server.session.fair_handle server.backend calls server.records.length
      request other
  unfold handle at live ⊢
  dsimp only at live ⊢
  split at live
  · cases live
  · next goesOn =>
    rw [if_neg goesOn]
    refine .answered selecting inactive fair.answers fair.carrier
      fair.transport ?_
    split
    · exact .inl rfl
    · next unset => exact .inr ⟨rfl, Option.not_isSome_iff_eq_none.mp unset⟩

private theorem move_of_idle (selecting : server.owner = .selecting)
    (inactive : server.active = none)
    (live : ((server.receive request).idle probes calls server.records.length
        request).ended = false) :
    Move server
      ((server.receive request).idle probes calls server.records.length
        request) := by
  have answered : ∀ response, request.Answers response →
      Move server
        ((server.receive request).write server.records.length response) := by
    intro response answers
    exact .answered selecting inactive answers (.inl rfl) (.inl rfl) (.inl rfl)
  unfold idle at live ⊢
  split
  · apply answered
    split
    · exact request.answers_cancelTooLate
    · exact request.answers_invalidData
  · next notCancel =>
    rw [if_neg notCancel] at live
    split
    · split
      · next response refused =>
        exact answered _ (Session.prepareCancellable_error refused).answers
      · next operation prepared =>
        exact .started selecting inactive
          (Session.prepareCancellable_ok prepared)
    · next other =>
      rw [if_neg other] at live
      exact move_of_handle selecting inactive (Bool.eq_false_iff.mpr other) live

private theorem move_of_control {active : Active}
    (selecting : server.owner = .selecting)
    (found : server.active = some active)
    (live : ((server.receive request).control active server.records.length
        request).ended = false) :
    Move server
      ((server.receive request).control active server.records.length
        request) := by
  unfold control at live ⊢
  split at live
  · cases live
  · next admitted =>
    rw [if_neg admitted]
    simp only [Bool.or_eq_true, decide_eq_true_eq, not_or,
      Bool.not_eq_true] at admitted
    split at live
    · cases live
    · next target decoded =>
      split at live
      · cases live
      · next same =>
        rw [if_neg same]
        split
        · next running =>
          exact .accepted selecting found admitted.2 running decoded
            (not_not.mp same)
        · next decided =>
          exact .late selecting found admitted.2 decided

theorem move_of_step {event : Event}
    (taken : server.step probes event = some after)
    (live : after.ended = false) : Move server after := by
  unfold step at taken
  split at taken
  · cases taken
  split at taken
  · next request calls selecting =>
    split at taken
    · cases taken
      unfold dispatch at live ⊢
      cases found : server.active with
      | none =>
        have same : (server.receive request).active = none := found
        rw [same] at live ⊢
        exact move_of_idle selecting found live
      | some active =>
        have same : (server.receive request).active = some active := found
        rw [same] at live ⊢
        exact move_of_control selecting found live
    · cases taken
      cases live
  · next accepting =>
    cases taken
    exact .wroteAccepted accepting
  · next found =>
    obtain ⟨allowed, ⟨⟩⟩ := Option.ite_none_right_eq_some.mp taken
    exact .returned found allowed.1 allowed.2
  · next found =>
    split at taken
    · next worker =>
      split at taken
      · next running =>
        cases taken
        exact .completionWon found worker running
      · next decided =>
        cases taken
        exact .lost found worker decided
    · cases taken
  · next found =>
    split at taken
    · next worker =>
      split at taken
      · cases taken
        exact .rolledBack found worker
      · cases taken
        exact .rollbackFailed found worker
    · next result unopened worker =>
      cases taken
      exact .nothingOpened found worker unopened
    · cases taken
  · next selecting found =>
    split at taken
    · next outcome worker =>
      cases taken
      cases outcome with
      | completed result => exact .completed selecting found worker
      | cancelled => exact .cancelled selecting found worker
      | rollbackFailed => cases live
    · cases taken
  · obtain ⟨there, ⟨⟩⟩ := Option.ite_none_right_eq_some.mp taken
    exact .carrierLost there
  · cases taken
    cases live
  · cases taken

end Server

end KyClash.Sidecar
