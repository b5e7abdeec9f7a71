import KyClash.Sidecar.Outcomes

/-!
# Cancellation of sidecar requests

The contract of the IPC server towards its client, in every run: whatever the
client sends, whenever the backend's calls return, and however the race
between a cancel and a completion ends.
-/

namespace KyClash.Sidecar

open Transition

/-- How many steps the worker has left; a call that returns may also open a
carrier. -/
def Worker.rank : Worker → Nat
  | .running => 5
  | .returned _ => 3
  | .lost _ => 2
  | .finished _ => 1

/-- The steps of the server and of its backend's calls. -/
def Event.Internal : Event → Prop
  | .record _ _ => False
  | .carrierLost => False
  | .terminate => False
  | _ => True

namespace Server

/-- A bound on the steps until nothing waits any more. -/
def remaining (server : Server) : Nat :=
  match server.active with
  | none => 0
  | some active =>
    active.worker.rank + (if active.controlSeen then 0 else 2) +
      server.owner.pending.length + server.backend.carrier.toList.length

/-- While a record waits the server can go on, and whatever step is taken, it
ends, or nothing waits any more, or fewer steps remain. -/
def Progresses (probes : Bool) (server : Server) : Prop :=
  server.pending ≠ [] →
    (∃ event, event.Internal ∧ (server.step probes event).isSome) ∧
      ∀ event after, server.step probes event = some after →
        after.ended = true ∨ after.pending = [] ∨
          after.remaining < server.remaining

/-- Every record waits for its response, or has exactly one, under its own
identifier. -/
def EveryRecordAnswered (server : Server) : Prop :=
  ∀ position request, server.records[position]? = some request →
    (position ∈ server.pending ∧ server.written.filter (·.1 = position) = []) ∨
    (position ∉ server.pending ∧ ∃ response,
      server.written.filter (·.1 = position) = [(position, response)] ∧
        response.requestID = request.requestID)

/-- A cancel that is answered as accepted was accepted for a request of that
name, which is still to be answered, or was answered as cancelled and has left
no carrier in the session or the backend. -/
def AcceptedCancelsHold (server : Server) : Prop :=
  ∀ cancel response target, (cancel, response) ∈ server.written →
    response.result = .ok (.cancelAccepted target) →
    ∃ primary request, (cancel, primary) ∈ server.accepted ∧
      server.records[primary]? = some request ∧ request.requestID = target ∧
      (server.ActiveAt primary ∨
        ((primary, request.cancelled) ∈ server.written ∧
          server.OpenedByOther primary ∧
          server.backend.carrier ≠ some primary))

/-- After a cancel that came too late, the request it names is answered with
the outcome of its backend call, unless a cancel of it was accepted. -/
def LateCancelsHold (server : Server) : Prop :=
  ∀ cancel request target, server.records[cancel]? = some request →
    request.decodeCancelTarget = some target →
    (cancel, request.cancelTooLate) ∈ server.written →
    ∀ primary named result, server.records[primary]? = some named →
      named.requestID = target → primary < cancel →
      (primary, result) ∈ server.returned →
      ¬ server.Cancelled primary → server.Reported primary result

variable {written : List (Nat × Response)} {server : Server} {active : Active}
  {position : Nat}

theorem filter_eq_nil_of_not_mem (absent : position ∉ written.map (·.1)) :
    written.filter (·.1 = position) = [] := by
  apply List.filter_eq_nil_iff.mpr
  intro pair member same
  apply absent
  rw [← of_decide_eq_true same]
  exact List.mem_map_of_mem member

private theorem filter_eq_singleton {response : Response}
    (distinct : (written.map (·.1)).Nodup)
    (member : (position, response) ∈ written) :
    written.filter (·.1 = position) = [(position, response)] := by
  induction written with
  | nil => cases member
  | cons first rest ih =>
    obtain ⟨fresh, later⟩ := List.nodup_cons.mp distinct
    rcases List.mem_cons.mp member with same | older
    · subst same
      rw [List.filter_cons_of_pos (by simp), filter_eq_nil_of_not_mem fresh]
    · have different : first.1 ≠ position := by
        intro same
        exact fresh (List.mem_map.mpr ⟨_, older, same.symm⟩)
      rw [List.filter_cons_of_neg (by simpa using different)]
      exact ih later older

theorem pending_of_inactive (inactive : server.active = none)
    (selecting : server.owner = .selecting) : server.pending = [] := by
  simp [pending, inactive, selecting, Owner.pending]

theorem exists_internal (probes : Bool) (live : server.ended = false)
    (found : server.active = some active) :
    ∃ event, event.Internal ∧ event ≠ .rollback false ∧
      (server.step probes event).isSome := by
  cases owner : server.owner with
  | accepting position request target =>
    exact ⟨.writeAccepted, trivial, by rintro ⟨⟩, by simp [step, live, owner]⟩
  | selecting =>
    cases worker : active.worker with
    | running =>
      refine ⟨.callReturns .failed, trivial, by rintro ⟨⟩, ?_⟩
      simp [step, live, found, worker, CancellableOperation.mayReturn]
    | returned result =>
      refine ⟨.race, trivial, by rintro ⟨⟩, ?_⟩
      simp only [step, live, found, worker, Bool.false_eq_true, if_false]
      split <;> rfl
    | lost result =>
      refine ⟨.rollback true, trivial, by rintro ⟨⟩, ?_⟩
      cases result <;> simp [step, live, found, worker]
    | finished outcome =>
      exact ⟨.deliver, trivial, by rintro ⟨⟩, by
        simp [step, live, owner, found, worker]⟩

theorem remaining_active (found : server.active = some active) :
    server.remaining = active.worker.rank +
      (if active.controlSeen then 0 else 2) + server.owner.pending.length +
        server.backend.carrier.toList.length := by
  simp [remaining, found]

theorem length_opener_le (result : BackendResult) (position : Nat)
    (before : Option Nat) :
    (result.opener position before).toList.length ≤
      before.toList.length + 1 := by
  unfold BackendResult.opener
  split
  · simp
  · exact Nat.le_succ _

theorem remaining_lt_of_move {after : Server}
    (found : server.active = some active) (move : Move server after) :
    after.pending = [] ∨ after.remaining < server.remaining := by
  cases move with
  | answered _ inactive | started _ inactive =>
    rw [found] at inactive
    cases inactive
  | cancelled selecting => exact .inl (pending_of_inactive rfl selecting)
  | completed selecting =>
    refine .inl ?_
    unfold complete
    dsimp only
    split <;> exact pending_of_inactive rfl selecting
  | accepted selecting found unseen =>
    refine .inr ?_
    rw [remaining_active rfl, remaining_active found]
    simp [receive, unseen, selecting, Owner.pending]
  | late _ found unseen =>
    refine .inr ?_
    rw [remaining_active rfl, remaining_active found]
    simp [receive, unseen]
  | wroteAccepted owner =>
    refine .inr ?_
    simp [remaining, write, found, owner, Owner.pending]
  | @returned active result found worker =>
    have opened :=
      length_opener_le result active.position server.backend.carrier
    refine .inr ?_
    rw [remaining_active rfl, remaining_active found]
    simp only [work, worker, Worker.rank]
    omega
  | completionWon found worker | lost found worker | nothingOpened found worker
  | rollbackFailed found worker =>
    refine .inr ?_
    rw [remaining_active rfl, remaining_active found]
    simp only [work, worker, Worker.rank]
    omega
  | rolledBack found worker =>
    refine .inr ?_
    rw [remaining_active rfl, remaining_active found]
    simp only [work, worker, Worker.rank, Option.toList_none, List.length_nil]
    omega
  | carrierLost there =>
    obtain ⟨position, carried⟩ := Option.isSome_iff_exists.mp there
    refine .inr ?_
    simp [remaining, found, carried]

section

variable (sound : server.Sound)
include sound

theorem Sound.everyRecordAnswered : server.EveryRecordAnswered := by
  intro position request found
  have bound := (List.getElem?_eq_some_iff.mp found).1
  have listed : position ∈ server.written.map (·.1) ++ server.pending :=
    sound.balanced.mem_iff.mpr (List.mem_range.mpr bound)
  have distinct := sound.balanced.nodup_iff.mpr List.nodup_range
  obtain ⟨once, -, apart⟩ := List.nodup_append.mp distinct
  rcases List.mem_append.mp listed with answered | waiting
  · obtain ⟨⟨place, response⟩, member, same⟩ := List.mem_map.mp answered
    obtain rfl : place = position := same
    obtain ⟨other, other_eq, named⟩ :=
      sound.placed.filed.matching place response member
    rw [found] at other_eq
    cases other_eq
    refine .inr ⟨?_, response, filter_eq_singleton once member, named⟩
    exact fun waiting => apart _ answered _ waiting rfl
  · refine .inl ⟨waiting, filter_eq_nil_of_not_mem ?_⟩
    exact fun answered => apart _ answered _ waiting rfl

theorem Sound.acceptedCancelsHold : server.AcceptedCancelsHold := by
  intro cancel response target member result
  obtain ⟨primary, request, pair, found, same⟩ :=
    sound.placed.filed.granted cancel response target member result
  have cancelled : server.Cancelled primary := ⟨cancel, pair⟩
  refine ⟨primary, request, pair, found, same.symm, ?_⟩
  by_cases running : server.ActiveAt primary
  · exact .inl running
  rcases sound.settled.cancelled primary cancelled with
    active | ⟨other, other_eq, answered⟩
  · exact absurd active running
  · rw [found] at other_eq
    cases other_eq
    refine .inr ⟨answered, sound.settled.openedByOther cancelled, ?_⟩
    · intro carried
      rcases sound.settled.carrier primary carried with
        ⟨active, active_eq, place, -⟩ | rightful
      · exact running ⟨active, active_eq, place⟩
      · exact rightful.kept cancelled

theorem Sound.lateCancelsHold : server.LateCancelsHold := by
  intro cancel request target _ _ member primary named result _ _ earlier
    returned uncancelled
  obtain ⟨-, fate⟩ := sound.settled.returned primary result returned
  rcases fate with ⟨active, found, rfl⟩ | cancelled | reported
  · -- While the operation runs, only its own cancel is answered.
    have pair :=
      (sound.settled.running active found).order cancel _ member earlier
    exact absurd ⟨cancel, pair⟩ uncancelled
  · exact absurd cancelled uncancelled
  · exact reported

theorem Sound.active_of_pending (waiting : server.pending ≠ []) :
    ∃ active, server.active = some active := by
  cases found : server.active with
  | some active => exact ⟨active, rfl⟩
  | none =>
    cases owner : server.owner with
    | selecting => exact absurd (pending_of_inactive found owner) waiting
    | accepting position request target =>
      obtain ⟨active, active_eq, -⟩ :=
        sound.settled.accepting position request target owner
      rw [found] at active_eq
      cases active_eq

theorem Sound.progresses (probes : Bool) (live : server.ended = false) :
    server.Progresses probes := by
  intro waiting
  obtain ⟨active, found⟩ := sound.active_of_pending waiting
  obtain ⟨event, internal, -, enabled⟩ := exists_internal probes live found
  refine ⟨⟨event, internal, enabled⟩, ?_⟩
  intro event after taken
  cases ended : after.ended with
  | true => exact .inl rfl
  | false => exact .inr (remaining_lt_of_move found (move_of_step taken ended))

end

/-- The contract of the server, in every state of every run before it ends.
The clients are not restricted: one that breaks the protocol ends the run. -/
theorem requests_answered_and_cancels_hold {probes : Bool}
    {profile : Option Profile} {server : Server}
    (reached : Reached probes profile server) (live : server.ended = false) :
    server.EveryRecordAnswered ∧ server.Progresses probes ∧
      server.AcceptedCancelsHold ∧ server.LateCancelsHold := by
  have sound := reached.sound live
  exact ⟨sound.everyRecordAnswered, sound.progresses probes live,
    sound.acceptedCancelsHold, sound.lateCancelsHold⟩

/-! ## A connect that is cancelled, and cancelled again -/

def exampleProfile : Profile where
  profileID := [112]
  primary := .quic
  fallbacks := []
  endpoints := [(.quic, some ⟨.quic, [49], [49], [49]⟩)]
  valid := validProfileID_letter

def exampleCalls : Calls where
  prepare := some ⟨[117], 1420, true, true, [49], [49]⟩
  connect := true
  health := none
  disconnect := true
  stop := true
  close := true

/-- A request whose identifier repeats one letter. -/
def exampleRequest (letter : UInt8) (type : RequestType) (data : Data) :
    Request :=
  ⟨protocolVersion, List.replicate 8 letter, type, data⟩

def exampleRecord (letter : UInt8) (type : RequestType) (data : Data) : Event :=
  .record (exampleRequest letter type data) exampleCalls

def exampleCancel (letter : UInt8) : Request :=
  exampleRequest letter .cancel ⟨false, none, some (List.replicate 8 99), none⟩

/-- The tunnel is prepared and a connect is started, at position 2. -/
def startConnect : List Event :=
  [exampleRecord 97 .applyProfile ⟨false, none, none, some exampleProfile⟩,
    exampleRecord 98 .prepareTunnel ⟨true, none, none, none⟩,
    exampleRecord 99 .connectTransport ⟨false, some .quic, none, none⟩]

/-- The connect succeeds, but its cancel has won and it is rolled back. -/
def cancelConnect : List Event :=
  startConnect ++ [.record (exampleCancel 100) exampleCalls, .writeAccepted,
      .callReturns .connected, .race, .rollback true, .deliver]

/-- The client, with nothing running, cancels the same connect again. -/
def cancelAgain : List Event :=
  cancelConnect ++ [.record (exampleCancel 101) exampleCalls]

theorem reached_of_run {events : List Event}
    (replayed : run (step false) (initial none) events = some server) :
    Reached false none server :=
  reaches_of_run .start events (fun _ _ _ => trivial) replayed

/-- The cancelled connect: its response is written and no carrier is left. -/
theorem cancelled_connect_leaves_no_carrier :
    ∃ server, Reached false none server ∧ server.ended = false ∧
      server.session.activeTransport = none ∧ server.backend.carrier = none ∧
      server.AcceptedCancelsHold ∧ server.EveryRecordAnswered := by
  have final : (run (step false) (initial none) cancelConnect).map
      (fun server => (server.ended, server.session.activeTransport,
        server.backend.carrier)) = some (false, none, none) := by
    decide +kernel
  obtain ⟨server, replayed, seen⟩ := Option.map_eq_some_iff.mp final
  obtain ⟨live, seen⟩ := Prod.mk.inj seen
  obtain ⟨unset, gone⟩ := Prod.mk.inj seen
  have reached := reached_of_run replayed
  obtain ⟨answered, -, accepted, -⟩ :=
    requests_answered_and_cancels_hold reached live
  exact ⟨server, reached, live, unset, gone, accepted, answered⟩

/-- The second cancel is answered as too late, although the connect it names
was answered as cancelled and not with the success its call had. -/
theorem second_cancel_is_too_late_for_cancelled_connect :
    ∃ server, Reached false none server ∧ server.ended = false ∧
      (2, BackendResult.connected) ∈ server.returned ∧
      (4, (exampleCancel 101).cancelTooLate) ∈ server.written ∧
      (exampleCancel 101).decodeCancelTarget =
        server.records[2]?.map (·.requestID) ∧
      ¬ server.Reported 2 .connected := by
  have calls : (run (step false) (initial none)
      cancelAgain).map (fun server => (server.ended, server.returned)) =
      some (false, [(2, .connected)]) := by
    decide +kernel
  have responses : (run (step false) (initial none) cancelAgain).map
        (fun server => server.written.filter (fun pair => 2 ≤ pair.1)) =
      some
        [(3, (exampleCancel 100).cancelAccepted (List.replicate 8 99)),
          (2,
            (exampleRequest 99 .connectTransport
              ⟨false, some .quic, none, none⟩).cancelled),
          (4, (exampleCancel 101).cancelTooLate)] := by
    decide +kernel
  have named : (run (step false) (initial none) cancelAgain).map (fun server =>
        server.records[2]?.map (·.requestID)) =
      some (some (List.replicate 8 99)) := by
    decide +kernel
  obtain ⟨server, replayed, seen⟩ := Option.map_eq_some_iff.mp calls
  obtain ⟨live, returned⟩ := Prod.mk.inj seen
  rw [replayed, Option.map_some] at responses named
  have written := Option.some.inj responses
  have identifier := Option.some.inj named
  refine ⟨server, reached_of_run replayed, live, ?_, ?_, ?_, ?_⟩
  · rw [returned]
    exact List.mem_singleton.mpr rfl
  · have member : (4, (exampleCancel 101).cancelTooLate) ∈
        server.written.filter (fun pair => 2 ≤ pair.1) := by
      rw [written]
      simp
    exact (List.mem_filter.mp member).1
  · rw [identifier]
    decide +kernel
  · rintro ⟨request, response, -, member, status, rfl, -⟩
    have kept : (2, request.respond (.ok (.status status))) ∈
        server.written.filter (fun pair => 2 ≤ pair.1) :=
      List.mem_filter.mpr ⟨member, rfl⟩
    rw [written] at kept
    simp [Request.respond, Request.cancelled] at kept

end Server

end KyClash.Sidecar
