import KyClash.Sidecar.DataPlane
import KyClash.Sidecar.Moves

/-!
# The session's records of its backend

After each response the session's records of a tunnel and of a carrier agree
with the backend, as long as no shutdown request fails half way: it changes
the backend call by call but its records only at the end.  Once the records
differ, a shutdown request asks the backend for a call that the backend
refuses, and so do all later ones.
-/

namespace KyClash.Sidecar

open Transition
open Session (backendFailure requestCalls)

variable {State : Type} {plane : DataPlane State}

/-- Whether a carrier is active and whether a tunnel is prepared. -/
structure Records where
  carrier : Bool
  tunnel : Bool
  deriving DecidableEq, Repr

def Session.records (session : Session) : Records where
  carrier := session.activeTransport.isSome
  tunnel := session.tunnelPrepared

def DataPlane.records (plane : DataPlane State) (state : State) : Records where
  carrier := plane.carrier state
  tunnel := plane.tunnel state

/-- The session's records are the backend's. -/
def Served.Agrees (plane : DataPlane State) (served : Served State) : Prop :=
  served.session.records = plane.records served.backend

/-- No call fails after another call of the same request has succeeded. -/
def Undivided (served : Served State) : Service → Prop
  | .handle request outcomes =>
    (served.session.requestCalls request).head?.any outcomes.fails = true ∨
      ∀ call ∈ (served.session.requestCalls request).tail,
      outcomes.fails call = false
  | .operate .. => True

instance (served : Served State) :
    ∀ service, Decidable (Undivided served service)
  | .handle _ _ => inferInstanceAs (Decidable (_ ∨ _))
  | .operate .. => inferInstanceAs (Decidable True)

namespace DataPlane

variable {fails : Call → Bool} {state : State} {call : Call} {calls : List Call}

private theorem run_cons_of_fails (failed : fails call = true) :
    plane.run fails state (call :: calls) = ([], state) := by
  simp [run, failed]

theorem run_cons_of_succeeds (allowed : plane.allows state call = true)
    (succeeds : fails call = false) :
    plane.run fails state (call :: calls) =
      (call ::
        (plane.run fails (plane.next state call) calls).1,
          (plane.run fails (plane.next state call) calls).2) := by
  simp [run, allowed, succeeds]

private theorem run_optional {state final : State}
    {needed : Bool} (allowed : needed → plane.allows state call)
    (succeeds : needed → fails call = false)
    (later : plane.run fails (if needed then plane.next state call else state)
      calls =
      (calls, final)) :
    plane.run fails state ((if needed then [call] else []) ++ calls) =
      ((if needed then [call] else []) ++ calls, final) := by
  cases needed with
  | false => exact later
  | true =>
    rw [if_pos rfl] at later ⊢
    rw [List.singleton_append,
      run_cons_of_succeeds (allowed rfl) (succeeds rfl), later]

theorem run_singleton (plane : DataPlane State) (fails : Call → Bool)
    (state : State) (call : Call) :
    (plane.allows state call ∧
        plane.run fails state [call] = ([call], plane.next state call)) ∨
      plane.run fails state [call] = ([], state) := by
  rw [run]
  split
  · next succeeds =>
    rw [Bool.and_eq_true] at succeeds
    exact .inl ⟨succeeds.1, rfl⟩
  · exact .inr rfl

theorem records_next (after : Records)
    (left : plane.tunnel (plane.next state call) = after.tunnel ∧
      plane.carrier (plane.next state call) = after.carrier) :
    plane.records (plane.next state call) = after := by
  rw [records, left.1, left.2]

end DataPlane

namespace Served

variable {served : Served State} {request : Request} {outcomes : Outcomes}
  {operation : CancellableOperation}

/-- The session after a request of which these calls have succeeded. -/
def sessionAfter (served : Served State) (request : Request)
    (outcomes : Outcomes) (done : List Call) : Session :=
  (served.session.handle ⟨none⟩ (outcomes.calls done) 0 request).session

theorem Agrees.handle_of_no_call (agrees : served.Agrees plane)
    (calls : served.session.requestCalls request = [])
    (kept : (served.sessionAfter request outcomes []).records =
      served.session.records) :
    (served.handle plane request outcomes).Agrees plane := by
  rw [Agrees, Served.handle, calls]
  exact kept.trans agrees

theorem Agrees.handle_of_call (call : Call) (change : Records → Records)
    (agrees : served.Agrees plane)
    (left : plane.allows served.backend call →
      plane.records (plane.next served.backend call) =
        change (plane.records served.backend))
    (calls : served.session.requestCalls request = [] ∨
      served.session.requestCalls request = [call] ∧
        (served.sessionAfter request outcomes [call]).records =
          change served.session.records)
    (failed : (served.sessionAfter request outcomes []).records =
      served.session.records) :
    (served.handle plane request outcomes).Agrees plane := by
  rcases calls with none | ⟨one, succeeded⟩
  · exact agrees.handle_of_no_call none failed
  · rw [Agrees, Served.handle, one]
    rcases plane.run_singleton outcomes.fails served.backend
      call with ⟨allowed, ran⟩ | ran
    · rw [ran]
      exact succeeded.trans (agrees ▸ (left allowed).symm)
    · rw [ran]
      exact failed.trans agrees

section

variable (lawful : plane.Lawful) (agrees : served.Agrees plane)
include lawful agrees

theorem Agrees.handle_connectTransport
    (type : request.type = .connectTransport) :
    (served.handle plane request outcomes).Agrees plane := by
  refine agrees.handle_of_call .connect ({ · with carrier := true })
    (fun allowed => DataPlane.records_next _ (lawful.connected _ allowed)) ?_ ?_
  all_goals rcases target : served.session.connectTarget request with response |
    ⟨_, _⟩
  all_goals simp [requestCalls, sessionAfter, Session.handle, type, target,
    Outcomes.calls, Session.answer, Session.failed, backendFailure,
    Session.succeeded,
    Session.records]

theorem Agrees.handle_prepareTunnel (type : request.type = .prepareTunnel) :
    (served.handle plane request outcomes).Agrees plane := by
  refine agrees.handle_of_call .prepare ({ · with tunnel := true })
    (fun allowed => DataPlane.records_next _ (lawful.prepared _ allowed)) ?_ ?_
  all_goals simp only [requestCalls, sessionAfter, Session.handle, type,
    Outcomes.calls]
  all_goals grind
    [Session.answer, Session.failed, backendFailure, Session.records]

theorem Agrees.handle_disconnectTransport
    (type : request.type = .disconnectTransport) :
    (served.handle plane request outcomes).Agrees plane := by
  refine agrees.handle_of_call .disconnect ({ · with carrier := false })
    (fun allowed => DataPlane.records_next _ (lawful.disconnected _ allowed)) ?_
    ?_
  all_goals simp only [requestCalls, sessionAfter, Session.handle, type,
    Outcomes.calls]
  all_goals grind
    [Session.answer, Session.failed, backendFailure, Session.succeeded,
    Session.records]

theorem Agrees.handle_stopTunnel (type : request.type = .stopTunnel) :
    (served.handle plane request outcomes).Agrees plane := by
  refine agrees.handle_of_call .stop ({ · with tunnel := false })
    (fun allowed => DataPlane.records_next _ (lawful.stopped _ allowed)) ?_ ?_
  all_goals simp only [requestCalls, sessionAfter, Session.handle, type,
    Outcomes.calls]
  all_goals grind
    [Session.answer, Session.failed, backendFailure, Session.succeeded,
    Session.records]

theorem Agrees.handle_sampleHealth (type : request.type = .sampleHealth) :
    (served.handle plane request outcomes).Agrees plane := by
  have kept : ∀ done, (served.sessionAfter request outcomes done).records =
        served.session.records := by
    intro done
    simp only [sessionAfter, Session.handle, type]
    split
    · rfl
    · split <;> rfl
  refine agrees.handle_of_call .health id
    (fun _ => DataPlane.records_next _ (lawful.sampled _ _ (.inl rfl))) ?_
    (kept [])
  cases target : served.session.sampleTarget request with
  | error response => simp [requestCalls, type, target]
  | ok _ => simp [requestCalls, type, target, kept]

/-! ### The shutdown request -/

/-- The calls of a shutdown request succeed in their order, if none of them
fails from outside. -/
theorem Agrees.run_shutdown {fails : Call → Bool}
    (type : request.type = .disconnect) (data : request.data.empty = true)
    (succeeds : ∀ call ∈ served.session.requestCalls request, fails call =
      false) :
    ∃ final,
      plane.run fails served.backend (served.session.requestCalls request) =
          (served.session.requestCalls request, final) ∧
        plane.records final = ⟨false, false⟩ := by
  have carrier : served.session.activeTransport.isSome =
      plane.carrier served.backend := congrArg Records.carrier agrees
  have tunnel : served.session.tunnelPrepared =
      plane.tunnel served.backend := congrArg Records.tunnel agrees
  have calls : served.session.requestCalls request =
      (if plane.carrier served.backend then [.disconnect] else []) ++
        ((if plane.tunnel served.backend then [.stop] else []) ++
          [.close]) := by
    simp [requestCalls, type, data, carrier, tunnel]
  rw [calls] at succeeds ⊢
  -- No carrier is left for `Stop`.
  have idle : ∀ between, between = (if plane.carrier served.backend then
        plane.next served.backend .disconnect else served.backend) →
      plane.tunnel between = plane.tunnel served.backend ∧
        plane.carrier between = false := by
    rintro _ rfl
    cases there : plane.carrier served.backend with
    | false => exact ⟨rfl, there⟩
    | true => exact lawful.disconnected _ (lawful.allowsDisconnect _ there)
  refine ⟨_,
    DataPlane.run_optional (lawful.allowsDisconnect _)
      (fun there => succeeds _ (by simp [there]))
      (DataPlane.run_optional (fun there => ?_)
        (fun there => succeeds _ (by simp [there]))
        (DataPlane.run_cons_of_succeeds (lawful.allowsClose _)
          (succeeds _ (by simp)))),
    DataPlane.records_next _ (lawful.closed _)⟩
  exact lawful.allowsStop _ ((idle _ rfl).1.trans there) (idle _ rfl).2

end

theorem sessionAfter_shutdown (type : request.type = .disconnect)
    (data : request.data.empty = true) :
    served.sessionAfter request outcomes (served.session.requestCalls request) =
      .new none := by
  simp only [sessionAfter, Session.handle, Session.shutDown,
    requestCalls, type, data, Outcomes.calls]
  cases served.session.activeTransport.isSome <;>
    cases served.session.tunnelPrepared <;> rfl

private theorem sessionAfter_shutdown_failed (type : request.type = .disconnect)
    (data : request.data.empty = true) :
    (served.sessionAfter request outcomes []).records =
      served.session.records := by
  simp only [sessionAfter, Session.handle, Session.shutDown, type, data,
    Outcomes.calls]
  cases served.session.activeTransport.isSome <;>
    cases served.session.tunnelPrepared <;> rfl

/-! ### Cancellable operations -/

theorem records_completeCancellable {session : Session}
    (result : BackendResult) (prepared : session.Prepared request operation) :
    (session.completeCancellable operation result).1.records =
      if operation.request.type = .connectTransport ∧ result = .connected then
        { session.records with carrier := true }
      else
        session.records := by
  obtain ⟨same, target⟩ := prepared
  unfold Session.completeCancellable
  split
  · next type =>
    rw [if_pos ⟨type, rfl⟩]
    rw [same] at type
    obtain ⟨-, chosen, -⟩ := target type
    simp [Session.records, chosen]
  · split <;> simp [backendFailure, Session.records]
  · split <;> simp [backendFailure, Session.records]
  · next other _ _ =>
    rw [if_neg fun both => other both.1 both.2]
    rfl

private theorem call_cases (operation : CancellableOperation) :
    (operation.request.type = .connectTransport ∧ operation.call = .connect) ∨
      (operation.request.type ≠ .connectTransport ∧
        (operation.call = .health ∨
          operation.call = .privateReachability)) := by
  unfold CancellableOperation.call
  split
  · next type => exact .inl ⟨type, rfl⟩
  · next type => exact .inr ⟨by simp [type], .inl rfl⟩
  · next other _ => exact .inr ⟨other, .inr rfl⟩

/-- The records agree, unless the server has returned without an answer. -/
def Settled (plane : DataPlane State) (served : Served State) : Prop :=
  served.Agrees plane ∨ (served.ended = true ∧ served.response = none)

/-! ### Runs -/

/-- Neither the session nor the backend has a carrier or a tunnel. -/
structure Clears (plane : DataPlane State) (served : Served State) : Prop where
  session : served.session.records = ⟨false, false⟩
  backend : plane.records served.backend = ⟨false, false⟩

section

variable (lawful : plane.Lawful)
include lawful

section

variable (agrees : served.Agrees plane)
include agrees

theorem Agrees.handle_disconnect (type : request.type = .disconnect)
    (undivided : Undivided served (.handle request outcomes)) :
    (served.handle plane request outcomes).Agrees plane := by
  cases data : request.data.empty with
  | false =>
    apply agrees.handle_of_no_call
    · simp [requestCalls, type, data]
    · simp [sessionAfter, Session.handle, type, data, Session.answer]
  | true =>
    rw [Undivided] at undivided
    by_cases succeeds : ∀ call ∈ served.session.requestCalls request,
      outcomes.fails call = false
    · obtain ⟨final, ran, empty⟩ :=
        agrees.run_shutdown lawful type data succeeds
      rw [Agrees, Served.handle, ran, empty]
      exact congrArg Session.records (sessionAfter_shutdown type data)
    · have ran : plane.run outcomes.fails served.backend
          (served.session.requestCalls request) = ([], served.backend) := by
        cases calls : served.session.requestCalls request with
        | nil => rfl
        | cons first rest =>
          rw [calls] at undivided succeeds
          rcases undivided with failed | later
          · exact DataPlane.run_cons_of_fails (by simpa using failed)
          · cases failed : outcomes.fails first with
            | false =>
              have all : ∀ call ∈ first :: rest, outcomes.fails call = false :=
                List.forall_mem_cons.mpr ⟨failed, later⟩
              exact absurd all succeeds
            | true => exact DataPlane.run_cons_of_fails failed
      rw [Agrees, Served.handle, ran]
      exact (sessionAfter_shutdown_failed type data).trans agrees

theorem Agrees.handle
    (undivided : Undivided served (.handle request outcomes)) :
    (served.handle plane request outcomes).Agrees plane := by
  cases type : request.type with
  | connectTransport => exact agrees.handle_connectTransport lawful type
  | prepareTunnel => exact agrees.handle_prepareTunnel lawful type
  | disconnectTransport => exact agrees.handle_disconnectTransport lawful type
  | stopTunnel => exact agrees.handle_stopTunnel lawful type
  | sampleHealth => exact agrees.handle_sampleHealth lawful type
  | disconnect => exact agrees.handle_disconnect lawful type undivided
  | applyProfile =>
    apply agrees.handle_of_no_call
    · simp [requestCalls, type]
    · simp only [sessionAfter, Session.handle, type]
      split
      · rfl
      · split <;> rfl
  | getStatus | connect | cancel =>
    apply agrees.handle_of_no_call
    · simp [requestCalls, type]
    · simp only [sessionAfter, Session.handle, type]
      split <;> rfl
  | samplePrivateReachability | unknown =>
    apply agrees.handle_of_no_call
    · simp [requestCalls, type]
    · simp only [sessionAfter, Session.handle, type]
      rfl

theorem Agrees.after_connect
    (prepared : served.session.Prepared request operation)
    (type : operation.request.type = .connectTransport)
    (allowed : plane.allows served.backend .connect) :
    (served.session.completeCancellable operation .connected).1.records =
        plane.records (plane.next served.backend .connect) ∧
      ∀ after, plane.records after =
          { plane.records (plane.next served.backend .connect) with
            carrier := false } →
        served.session.records = plane.records after := by
  rw [records_completeCancellable .connected prepared, if_pos ⟨type, rfl⟩,
    DataPlane.records_next { plane.records served.backend with carrier := true }
      (lawful.connected _ allowed), ← agrees]
  refine ⟨rfl, ?_⟩
  intro after closed
  rw [prepared.same] at type
  obtain ⟨-, -, inactive, -⟩ := prepared.connects type
  rw [closed, Session.records, inactive]
  rfl

theorem Agrees.operate (probes cancelled rollbackFails : Bool) :
    (served.operate plane probes request outcomes cancelled
        rollbackFails).Settled
      plane := by
  unfold Served.operate
  cases found : served.session.prepareCancellable probes request with
  | error response => exact .inl agrees
  | ok operation =>
    have prepared := Session.prepareCancellable_ok found
    dsimp only
    rcases plane.run_singleton outcomes.fails served.backend operation.call
      with ⟨allowed, ran⟩ | ran
    · rw [ran]
      rcases call_cases operation with ⟨type, call⟩ | ⟨type, call⟩
      · rw [call] at allowed ⊢
        obtain ⟨completed, undone⟩ :=
          agrees.after_connect lawful prepared type allowed
        cases cancelled with
        | false =>
          apply Or.inl
          simpa [Agrees, CancellableOperation.result, call] using completed
        | true =>
          simp only [List.mem_singleton, decide_true, Bool.and_self,
            Served.cancel, if_true]
          split
          · next passes =>
            rw [Bool.and_eq_true] at passes
            exact .inl
              (undone _
                (DataPlane.records_next _ (lawful.disconnected _ passes.1)))
          · exact .inr ⟨rfl, rfl⟩
      · have kept : plane.records (plane.next served.backend
            operation.call) = plane.records served.backend :=
          DataPlane.records_next _ (lawful.sampled _ _ call)
        have sampled : operation.call ≠ .connect := by
          rcases call with call | call <;> simp [call]
        apply Or.inl
        cases cancelled with
        | false =>
          simp only [Bool.false_eq_true, if_false, Agrees]
          rw [records_completeCancellable _ prepared,
            if_neg fun both => type both.1, kept]
          exact agrees
        | true =>
          simp only [sampled, decide_false, Bool.and_false, Served.cancel,
            Bool.false_eq_true, if_true, if_false, Agrees, kept]
          exact agrees
    · rw [ran]
      apply Or.inl
      cases cancelled with
      | false =>
        simpa [Agrees, records_completeCancellable .failed prepared]
          using agrees
      | true => simpa [Agrees, Served.cancel] using agrees

theorem Agrees.clears (type : request.type = .disconnect)
    (data : request.data.empty = true)
    (succeeds : ∀ call, outcomes.fails call = false) :
    (served.handle plane request outcomes).Clears plane := by
  obtain ⟨final, ran, empty⟩ :=
    agrees.run_shutdown lawful type data fun call _ => succeeds call
  constructor
  · rw [Served.handle, ran]
    exact congrArg Session.records (sessionAfter_shutdown type data)
  · rw [Served.handle, ran]
    exact empty

end

theorem Settled.step {probes : Bool} {before after : Served State}
    {service : Service} (settled : before.Settled plane)
    (undivided : Undivided before service)
    (taken : before.step plane probes service = some after) :
    after.Settled plane := by
  have running : before.ended = false := by
    cases ended : before.ended with
    | false => rfl
    | true => cases service <;> simp [Served.step, ended] at taken
  have agrees : before.Agrees plane := by
    rcases settled with agrees | ⟨ended, -⟩
    · exact agrees
    · rw [ended] at running
      cases running
  cases service with
  | handle request outcomes =>
    rw [Served.step, running] at taken
    cases taken
    exact .inl (agrees.handle lawful undivided)
  | operate request outcomes cancelled rollbackFails =>
    rw [Served.step, running] at taken
    cases taken
    exact agrees.operate lawful probes cancelled rollbackFails

end

/-- In every run without a shutdown request that fails half way, the records
agree after each response, and a shutdown request that nothing but the
backend's state check can stop leaves neither a carrier nor a tunnel. -/
theorem session_agrees_with_backend {State : Type} {plane : DataPlane State}
    (lawful : plane.Lawful) (probes : Bool) (profile : Option Profile)
    (backend : State) (fresh : plane.records backend = ⟨false, false⟩)
    {served : Served State}
    (reached : Reaches (Served.step plane probes) Undivided
      (Served.initial profile backend) served) :
    (served.response.isSome → served.Agrees plane) ∧
      (served.ended = false →
        ∀ request outcomes, request.type = .disconnect →
          request.data.empty = true → (∀ call, outcomes.fails call = false) →
          (served.handle plane request outcomes).Clears plane) := by
  have settled : served.Settled plane := by
    apply reached.invariant
    · exact .inl fresh.symm
    · intro before service after settled undivided taken
      exact settled.step lawful undivided taken
  constructor
  · intro answered
    rcases settled with agrees | ⟨-, silent⟩
    · exact agrees
    · rw [silent] at answered
      cases answered
  · intro running request outcomes type data succeeds
    rcases settled with agrees | ⟨ended, -⟩
    · exact agrees.clears lawful type data succeeds
    · rw [ended] at running
      cases running

/-! ### A shutdown request that fails half way -/

def requestOf (type : RequestType) (data : Data) : Request where
  protocolVersion := protocolVersion
  requestID := [97, 98, 99, 100, 101, 102, 103, 104]
  type
  data

def emptyData : Data where
  empty := true
  transport := none
  target := none
  profile := none

def quicProfile : Profile where
  profileID := [112]
  primary := .quic
  fallbacks := []
  endpoints := [(.quic, some ⟨.quic, [117], [97], [115]⟩)]
  valid := validProfileID_letter

/-- The calls fail that the test picks. -/
def outcomesOf (fails : Call → Bool) : Outcomes where
  fails
  facts := ⟨[117], 1420, true, true, [105], [111]⟩
  health := ⟨true, 1, 1, 0⟩
  privateReachability := ⟨true, 1, none, none, none⟩

/-- A profile, a tunnel and a carrier. -/
def connecting : List Service :=
  [.handle (requestOf .applyProfile
    { emptyData with empty := false, profile := some quicProfile })
      (outcomesOf fun _ => false),
    .handle (requestOf .prepareTunnel emptyData) (outcomesOf fun _ => false),
    .operate (requestOf .connectTransport
      { emptyData with empty := false, transport := some .quic })
      (outcomesOf fun _ => false) false false]

def shuttingDown (fails : Call → Bool) : Service :=
  .handle (requestOf .disconnect emptyData) (outcomesOf fails)

/-- `Disconnect` succeeds and `Stop` fails, as that of the lab backends does,
which have the same state checks, when a route cannot be deleted: the session
still has a carrier on record.  A later shutdown request, of which no call
fails from outside, is refused by the backend and leaves the tunnel. -/
theorem half_shutdown_is_never_finished : ∃ served,
      run (Served.step Userspace.plane false)
        (Served.initial none Userspace.new)
          (connecting ++ [shuttingDown (· = .stop)]) = some served ∧
        served.response.isSome ∧ served.ended = false ∧
        served.session.records = ⟨true, true⟩ ∧
        Userspace.plane.records served.backend = ⟨false, true⟩ ∧
        (served.handle Userspace.plane (requestOf .disconnect emptyData)
          (outcomesOf fun _ => false)).session.records = ⟨true, true⟩ ∧
        Userspace.plane.records
          (served.handle Userspace.plane (requestOf .disconnect emptyData)
            (outcomesOf fun _ => false)).backend = ⟨false, true⟩ :=
  ⟨_, rfl, rfl, rfl, rfl, rfl, rfl, rfl⟩

/-- The first call of a shutdown request fails; the next request ends with
neither a carrier nor a tunnel. -/
theorem refused_shutdown_is_finished :
    ∃ served,
      Reaches (Served.step Userspace.plane false) Undivided
          (Served.initial none Userspace.new) served ∧
        served.response.isSome ∧ served.session.records = ⟨true, true⟩ ∧
        served.Agrees Userspace.plane ∧
        (served.handle Userspace.plane (requestOf .disconnect emptyData)
            (outcomesOf fun _ => false)).Clears
          Userspace.plane := by
  have replay : ∃ served, run (fun state service =>
          if Undivided state service then
            Served.step Userspace.plane false state service
          else none)
        (Served.initial none Userspace.new)
        (connecting ++ [shuttingDown (· = .disconnect)]) = some served ∧
      served.response.isSome ∧ served.ended = false ∧
      served.session.records = ⟨true, true⟩ :=
    ⟨_, rfl, rfl, rfl, rfl⟩
  obtain ⟨served, replayed, answered, running, records⟩ := replay
  have reached := reaches_of_guarded .start _ replayed
  obtain ⟨agrees, clears⟩ := session_agrees_with_backend Userspace.lawful
    false none Userspace.new rfl reached
  exact ⟨served, reached, answered, records, agrees answered,
    clears running _ _ rfl rfl fun _ => rfl⟩

end Served

end KyClash.Sidecar
