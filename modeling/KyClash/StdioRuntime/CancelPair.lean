import KyClash.StdioRuntime.CallProgress

/-!
# Client and server agree on a cancellation

The contract of `request_cancellable` over the IPC server: whatever the race
between the token, the request and its control request, the call returns the
true outcome or the cancellation, the child stays, and both pipes are empty
for the next call.
-/

namespace KyClash.StdioRuntime

open Sidecar (Response Server Profile)
open Transition

/-- A response with which the call may return: the one to its request, and
what really became of it. -/
def System.Answered (probes : Bool) (start : Server) (system : System)
    (response : Response) : Prop :=
  (start.records.length, response) ∈ system.server.written ∧
    (start.session.prepareCancellable probes system.request.record =
        .error response ∨
      ∃ result, (start.records.length, result) ∈ system.server.returned ∧
        system.request.record.Reports response result)

/-- The request was never sent. -/
def System.NeverSent (start : Server) (system : System) : Prop :=
  system.server.records = start.records ∧ system.stdin = []

/-- The server has answered the request as cancelled and holds no carrier
opened by it. -/
def System.CancelledCleanly (start : Server) (system : System) : Prop :=
  (start.records.length, system.request.record.cancelled) ∈
      system.server.written ∧
    system.server.OpenedByOther start.records.length ∧
    system.server.backend.carrier ≠ some start.records.length

/-- What a call promises, in every state until it has returned and after. -/
structure System.Fulfils (probes : Bool) (profile : Option Profile)
    (start : Server) (system : System) : Prop where
  kept : system.terminated = false ∧ system.server.ended = false
  answer : ∀ response, system.result = some (.ok response) →
    system.Answered probes start response
  cancellation : ∀ error, system.result = some (.error error) →
    error = .operationCancelled ∧
      (system.NeverSent start ∨ system.CancelledCleanly start)
  clean : system.result ≠ none →
    Ready probes profile system.server ∧ system.stdin = [] ∧ system.stdout = []

section Promises

variable {probes : Bool} {profile : Option Profile} {start : Server}
  {request control : Ipc.Request} {sequence : UInt64} {system : System}
  {stage : Stage}

/-- A cancelled request has left no carrier. -/
theorem Joined.cancelledCleanly
    (joined : Joined start request control probes profile sequence system
      .cancelled) :
    system.CancelledCleanly start := by
  obtain ⟨rfl, -, -, reached, follows, -⟩ := joined
  have sound := Server.Reached.sound reached follows.live
  obtain ⟨live, -, written, holds⟩ := follows
  cases holds with
  | cancelled idle cancelled =>
    refine ⟨?_, sound.settled.openedByOther cancelled, ?_⟩
    · rw [written]
      simp [Stage.answers]
    · intro carried
      rcases sound.settled.carrier _ carried with
        ⟨active, found, -⟩ | rightful
      · rw [idle.inactive] at found
        cases found
      · exact rightful.kept cancelled

theorem Joined.answered {response : Response}
    (joined : Joined start request control probes profile sequence system stage)
    (answered : stage = .answered response ∨ stage = .late response) :
    system.Answered probes start response := by
  obtain ⟨rfl, -, -, -, follows, -⟩ := joined
  refine ⟨?_, (follows.truthful answered).outcome⟩
  rw [follows.written]
  rcases answered with rfl | rfl
  · simp [Stage.answers]
  · simp [Stage.answers]

variable {result : Except NetworkErrorCode Response}

theorem Follows.idle {server : Server}
    (follows : Follows probes start request control server stage)
    (concludes : Concludes stage result) : Idle server := by
  obtain ⟨-, -, -, holds⟩ := follows
  cases concludes <;> cases holds <;> assumption

section

variable
  (joined : Joined start request control probes profile sequence system stage)
include joined

theorem Joined.returned (returned : system.result = some result) :
    Concludes stage result ∧ system.stdin = [] ∧ system.stdout = [] := by
  cases joined.phase with
  | fresh _ _ _ _ result | asking _ _ _ _ _ _ result
  | cancelling _ _ _ _ _ _ _ result =>
    rw [result] at returned
    cases returned
  | returned concludes stdin heard result =>
    rw [result] at returned
    cases returned
    exact ⟨concludes, stdin,
      stdout_eq joined.follows (List.append_nil _).symm heard⟩

theorem Joined.fulfils : system.Fulfils probes profile start := by
  refine ⟨⟨joined.kept, joined.follows.live⟩, ?_, ?_, ?_⟩
  · intro response result
    obtain ⟨concludes, -, -⟩ := joined.returned result
    cases concludes with
    | answered => exact joined.answered (.inl rfl)
    | late => exact joined.answered (.inr rfl)
  · intro error result
    obtain ⟨concludes, stdin, -⟩ := joined.returned result
    cases concludes with
    | unsent =>
      refine ⟨rfl, .inl ⟨?_, stdin⟩⟩
      rw [joined.follows.records]
      exact List.append_nil _
    | cancelled => exact ⟨rfl, .inr joined.cancelledCleanly⟩
  · intro some
    obtain ⟨result, result_eq⟩ := Option.ne_none_iff_exists'.mp some
    obtain ⟨concludes, stdin, stdout⟩ := joined.returned result_eq
    have idle := joined.follows.idle concludes
    exact ⟨⟨joined.reached, joined.follows.live,
      Server.pending_of_inactive idle.inactive idle.selecting⟩, stdin,
      stdout⟩

end

end Promises

/-- The states of a call over reliable pipes. -/
abbrev CallReached (probes : Bool) (start : Server) (request : Ipc.Request)
    (sequence : UInt64) : System → Prop :=
  Reaches (System.step probes) (fun _ event => Reliable event)
    (System.initial start request sequence)

/-- The contract of a cancellable request, on every server that has answered
all earlier ones and for every client that has two sequence numbers left:
what the call promises holds throughout, and the call returns. -/
theorem cancellable_request_fulfils {probes : Bool} {profile : Option Profile}
    {start : Server} {request : Ipc.Request} {sequence : UInt64}
    {system : System} (ready : Ready probes profile start)
    (valid : request.validateProtocol = .ok ())
    (can : cancellable request.payload = true)
    (room : sequence.toNat + 2 < 2 ^ 64)
    (reached : CallReached probes start request sequence system) :
    system.Fulfils probes profile start ∧ system.Progresses probes := by
  have passes := request.validateProtocol_eq_ok_iff.mp valid
  obtain ⟨next, control, built, cancels, proper⟩ :=
    cancellationRequest_ok room passes.id
  have agreed : Agreed request control sequence :=
    ⟨passes, can, proper, cancels, next, built⟩
  have joined : ∃ stage, Joined start request control probes profile
      sequence system stage := by
    apply reached.invariant ⟨.waiting, joined_initial ready⟩
    intro before event after holds reliable taken
    obtain ⟨stage, joined⟩ := holds
    exact joined.step agreed reliable taken
  obtain ⟨stage, joined⟩ := joined
  exact ⟨joined.fulfils, joined.progresses agreed⟩

/-! ## A connect that is cancelled -/

/-- A profile is applied and the tunnel is prepared. -/
def prepare : List Sidecar.Event :=
  [Server.exampleRecord 97 .applyProfile
    ⟨false, none, none, some Server.exampleProfile⟩,
    Server.exampleRecord 98 .prepareTunnel ⟨true, none, none, none⟩]

def exampleConnect : Ipc.Request :=
  ⟨Ipc.protocolVersion, List.replicate 8 99, .connectTransport .quic⟩

/-- The backend connects, but the cancel has won. -/
def cancelConnect : List Event :=
  [.begin (.ok ()), .handOver Server.exampleCalls, .cancel, .check true,
    .handOver Server.exampleCalls, .server .writeAccepted, .receive,
    .server (.callReturns .connected), .server .race,
    .server (.rollback true), .server .deliver, .check true, .receive]

/-- The call returns the cancellation, and the carrier is gone. -/
theorem cancelled_connect_fulfils :
    ∃ start system, Ready false none start ∧
      CallReached false start exampleConnect 1 system ∧
      system.result = some (.error .operationCancelled) ∧
      system.CancelledCleanly start ∧ system.Fulfils false none start := by
  have final : ((run (Server.step false) (Server.initial none) prepare).bind
      fun start => (run (System.step false)
        (System.initial start exampleConnect 1) cancelConnect).map
        fun system => (start.ended, start.pending, system.result,
          decide (system.server.records = start.records))) =
      some (false, [], some (.error .operationCancelled), false) := by
    decide +kernel
  obtain ⟨start, prepared, called⟩ := Option.bind_eq_some_iff.mp final
  obtain ⟨system, replayed, seen⟩ := Option.map_eq_some_iff.mp called
  simp only [Prod.mk.injEq, decide_eq_false_iff_not] at seen
  obtain ⟨live, answered, result, sent⟩ := seen
  have ready : Ready false none start :=
    ⟨reaches_of_run .start prepare (fun _ _ _ => trivial) prepared, live,
      answered⟩
  have reached : CallReached false start exampleConnect 1 system :=
    reaches_of_run .start cancelConnect
      (by simp [cancelConnect, Reliable, Benign]) replayed
  have contract :=
    (cancellable_request_fulfils ready (by decide) rfl (by decide) reached).1
  refine ⟨start, system, ready, reached, result, ?_, contract⟩
  rcases (contract.cancellation _ result).2 with never | cleanly
  · exact absurd never.1 sent
  · exact cleanly

/-- A request whose identifier is too short. -/
def shortRequest : Ipc.Request :=
  ⟨Ipc.protocolVersion, [99], .connectTransport .quic⟩

/-- A request that does not pass is returned as invalid; and with the last
sequence number reached, a cancel terminates the child. -/
theorem exhausted_counter_terminates_child :
    Ready false none (Server.initial none) ∧
      (∃ system, CallReached false (Server.initial none) shortRequest 1 system ∧
        system.result = some (.error .invalidConfiguration)) ∧
      ∃ system,
        CallReached false (Server.initial none) exampleConnect
            (UInt64.ofNat (2 ^ 64 - 1)) system ∧
          system.result = some (.error .invalidConfiguration) ∧
          system.terminated = true := by
  have refused : (run (System.step false)
          (System.initial (Server.initial none) shortRequest 1)
          [.begin (.ok ())]).map
        (·.result) = some (some (.error .invalidConfiguration)) := by
    decide +kernel
  have failed : (run (System.step false)
          (System.initial (Server.initial none) exampleConnect
            (UInt64.ofNat (2 ^ 64 - 1)))
          [.begin (.ok ()), .cancel, .check true]).map
        (fun system => (system.result, system.terminated)) =
      some (some (.error .invalidConfiguration), true) := by
    decide +kernel
  obtain ⟨first, refused_eq, result⟩ := Option.map_eq_some_iff.mp refused
  obtain ⟨second, failed_eq, seen⟩ := Option.map_eq_some_iff.mp failed
  obtain ⟨error, terminated⟩ := Prod.mk.inj seen
  refine ⟨⟨.start, rfl, rfl⟩, ⟨first, ?_, result⟩, second, ?_, error,
    terminated⟩
  · exact reaches_of_run .start _ (by simp [Reliable]) refused_eq
  · exact reaches_of_run .start _ (by simp [Reliable]) failed_eq

end KyClash.StdioRuntime
