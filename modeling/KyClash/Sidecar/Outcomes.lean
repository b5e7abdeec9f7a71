import KyClash.Sidecar.Exchange

/-!
# Outcomes and carriers

What became of every backend call and of every accepted cancel, and which
record opened the carrier that the session or the backend has.
-/

namespace KyClash.Sidecar

/-- The result of the backend's call, while the worker still has it. -/
def Worker.result : Worker → Option BackendResult
  | .running => none
  | .returned result => some result
  | .lost result => some result
  | .finished (.completed result) => some result
  | .finished .cancelled => none
  | .finished .rollbackFailed => none

/-- The call has opened a carrier that was not taken back. -/
def Worker.Opened (worker : Worker) : Prop :=
  worker.result = some .connected ∨ worker = .finished .rollbackFailed

namespace Server

def ActiveAt (server : Server) (position : Nat) : Prop :=
  ∃ active, server.active = some active ∧ active.position = position

/-- A cancel of this record was accepted. -/
def Cancelled (server : Server) (position : Nat) : Prop :=
  ∃ cancel, (cancel, position) ∈ server.accepted

/-- The record is answered with the outcome of its backend call. -/
def Reported (server : Server) (position : Nat) (result : BackendResult) :
    Prop :=
  ∃ request response, server.records[position]? = some request ∧
    (position, response) ∈ server.written ∧
    request.Reports response result

/-- The record is answered as cancelled. -/
def AnsweredCancelled (server : Server) (position : Nat) : Prop :=
  ∃ request, server.records[position]? = some request ∧
    (position, request.cancelled) ∈ server.written

/-- The record has set the session's transport: it asks for this one, and its
response reports that it is connected. -/
structure Opened (server : Server) (position : Nat)
    (transport : TransportKind) : Prop where
  opener : server.opener = some position
  asked : ∃ request, server.records[position]? = some request ∧
    request.data.transport = some transport
  reported : server.Reported position .connected

/-- If the session has a transport, another record has set it. -/
def OpenedByOther (server : Server) (position : Nat) : Prop :=
  ∀ transport, server.session.activeTransport = some transport →
    ∃ other, other ≠ position ∧ server.Opened other transport

/-- What holds of the operation that is active. -/
structure Running (server : Server) (active : Active) : Prop where
  raced : server.Cancelled active.position ↔ active.winner = .cancelWon
  called : ∀ result, (active.position, result) ∈ server.returned →
    active.worker.result = some result ∨ active.winner = .cancelWon
  possible : ∀ result, active.worker.result = some result →
    active.operation.mayReturn result = true
  order : ∀ position response, (position, response) ∈ server.written →
    active.position < position → (position, active.position) ∈ server.accepted

/-- Someone who opened a carrier and was not cancelled. -/
structure Rightful (server : Server) (position : Nat) : Prop where
  bound : position < server.records.length
  inactive : ¬ server.ActiveAt position
  kept : ¬ server.Cancelled position

structure Settled (server : Server) : Prop where
  running : ∀ active, server.active = some active → server.Running active
  accepting : ∀ position request target,
    server.owner = .accepting position request target →
      ∃ active, server.active = some active ∧
        (position, active.position) ∈ server.accepted
  returned : ∀ position result, (position, result) ∈ server.returned →
    position < server.records.length ∧
      (server.ActiveAt position ∨ server.Cancelled position ∨
        server.Reported position result)
  cancelled : ∀ position, server.Cancelled position →
    server.ActiveAt position ∨ server.AnsweredCancelled position
  opener : ∀ position, server.opener = some position → server.Rightful position
  transport : ∀ transport, server.session.activeTransport = some transport →
    ∃ position, server.Opened position transport
  carrier : ∀ position, server.backend.carrier = some position →
    (∃ active, server.active = some active ∧ active.position = position ∧
        active.worker.Opened) ∨
      server.Rightful position

variable {server after : Server} {active : Active} {position : Nat}
  {request : Request} {target : Text} {result : BackendResult}
  {response : Response} {probes : Bool}

theorem not_activeAt (inactive : server.active = none) (position : Nat) :
    ¬ server.ActiveAt position := by
  rintro ⟨active, found, -⟩
  rw [inactive] at found
  cases found

theorem Filed.written_lt (filed : server.Filed)
    (member : (position, response) ∈ server.written) :
    position < server.records.length := by
  obtain ⟨request, found, -⟩ := filed.matching position response member
  exact (List.getElem?_eq_some_iff.mp found).1

theorem Filed.cancelled_lt (filed : server.Filed)
    (cancelled : server.Cancelled position) :
    position < server.records.length := by
  obtain ⟨cancel, member⟩ := cancelled
  obtain ⟨-, request, -, found, -⟩ := filed.accepted cancel position member
  exact (List.getElem?_eq_some_iff.mp found).1

theorem Extends.lt (grows : server.Extends after)
    (bound : position < server.records.length) :
    position < after.records.length := by
  have found := grows.records (List.getElem?_eq_getElem bound)
  exact (List.getElem?_eq_some_iff.mp found).1

namespace Settled

variable (settled : server.Settled) (grows : server.Extends after)
  (written : ∀ pair ∈ server.written, pair ∈ after.written)
include settled grows written

theorem fate (member : (position, result) ∈ server.returned) :
    position < after.records.length ∧
      (server.ActiveAt position ∨ after.Cancelled position ∨
        after.Reported position result) := by
  obtain ⟨bound, fate⟩ := settled.returned position result member
  refine ⟨grows.lt bound, fate.imp_right (Or.imp ?_ ?_)⟩
  · rintro ⟨cancel, member⟩
    exact ⟨cancel, grows.accepted member⟩
  · rintro ⟨request, response, found, member, reports⟩
    exact ⟨request, response, grows.records found, written _ member, reports⟩

theorem cancelled_fate (cancelled : server.Cancelled position) :
    server.ActiveAt position ∨ after.AnsweredCancelled position := by
  refine (settled.cancelled position cancelled).imp_right ?_
  rintro ⟨request, found, member⟩
  exact ⟨request, grows.records found, written _ member⟩

theorem opened {transport : TransportKind}
    (opener : after.opener = server.opener)
    (set : server.session.activeTransport = some transport) :
    ∃ position, after.Opened position transport := by
  obtain ⟨position, opened, ⟨asking, place, asks⟩, request, response, found,
    member, reports⟩ := settled.transport transport set
  exact ⟨position, opener.trans opened, ⟨asking, grows.records place, asks⟩,
    request, response, grows.records found, written _ member, reports⟩

end Settled

theorem Settled.openedByOther (settled : server.Settled)
    (cancelled : server.Cancelled position) :
    server.OpenedByOther position := by
  intro transport set
  obtain ⟨other, opened⟩ := settled.transport transport set
  refine ⟨other, ?_, opened⟩
  rintro rfl
  exact (settled.opener other opened.opener).kept cancelled

/-- The operation stays active at its place, and no other request is newly
cancelled. -/
structure Continues (server after : Server) (active next : Active) : Prop where
  found : server.active = some active
  now : after.active = some next
  position : next.position = active.position
  grows : server.Extends after
  written : ∀ pair ∈ server.written, pair ∈ after.written
  cancelled : ∀ position, after.Cancelled position →
    position = active.position ∨ server.Cancelled position
  opener : after.opener = server.opener
  session : after.session = server.session

namespace Continues

variable {next : Active}

section

variable (step : Continues server after active next)
include step

theorem activeAt_iff (position : Nat) :
    after.ActiveAt position ↔ server.ActiveAt position := by
  simp [ActiveAt, step.found, step.now, step.position]

theorem here : server.ActiveAt active.position :=
  ⟨active, step.found, rfl⟩

private theorem rightful (before : server.Rightful position) :
    after.Rightful position := by
  refine ⟨step.grows.lt before.bound, ?_, ?_⟩
  · intro now
    exact before.inactive ((step.activeAt_iff position).mp now)
  · intro cancelled
    rcases step.cancelled position cancelled with rfl | earlier
    · exact before.inactive step.here
    · exact before.kept earlier

end

theorem settled (next : Active) (step : Continues server after active next)
    (settled : server.Settled) (placed : server.Placed)
    (running : after.Running next)
    (accepting : ∀ position request target,
      after.owner = .accepting position request target →
        (position, next.position) ∈ after.accepted)
    (returned : ∀ pair ∈ after.returned, pair ∈ server.returned ∨
      pair.1 = active.position)
    (carrier : ∀ position, after.backend.carrier = some position →
      (position = active.position ∧ next.worker.Opened) ∨
        server.Rightful position) :
    after.Settled := by
  have here : after.ActiveAt active.position :=
    (step.activeAt_iff _).mpr step.here
  refine ⟨?_, ?_, ?_, ?_, ?_, ?_, ?_⟩
  · intro other other_eq
    rw [step.now] at other_eq
    cases other_eq
    exact running
  · intro position request target owner_eq
    exact ⟨next, step.now, accepting position request target owner_eq⟩
  · intro position result member
    rcases returned _ member with older | place
    · obtain ⟨bound, fate⟩ := settled.fate step.grows step.written older
      exact ⟨bound, fate.imp_left (step.activeAt_iff position).mpr⟩
    · obtain rfl : position = active.position := place
      have request := (placed.operation active step.found).request
      have bound := (List.getElem?_eq_some_iff.mp request).1
      exact ⟨step.grows.lt bound, .inl here⟩
  · intro position cancelled
    rcases step.cancelled position cancelled with rfl | earlier
    · exact .inl here
    · exact (settled.cancelled_fate step.grows step.written earlier).imp_left
        (step.activeAt_iff position).mpr
  · intro position found
    rw [step.opener] at found
    exact step.rightful (settled.opener position found)
  · intro transport set
    rw [step.session] at set
    exact settled.opened step.grows step.written step.opener set
  · intro position found
    rcases carrier position found with ⟨rfl, opened⟩ | rightful
    · exact .inl ⟨next, step.now, step.position, opened⟩
    · exact .inr (step.rightful rightful)

end Continues

section

variable (settled : server.Settled)
include settled

theorem Settled.carrierLost :
    ({ server with backend := ⟨none⟩ } : Server).Settled :=
  { settled with
    running := fun active found =>
      { settled.running active found with }
    opener := fun position found =>
      { settled.opener position found with }
    transport := by
      intro transport set
      refine settled.opened ?_ ?_ ?_ set
      · exact extends_of_eq rfl rfl
      · exact fun _ member => member
      · rfl
    carrier := nofun }

theorem Settled.carrier_idle (inactive : server.active = none)
    (found : server.backend.carrier = some position) :
    server.Rightful position := by
  rcases settled.carrier position found with ⟨active, active_eq, -⟩ | rightful
  · rw [inactive] at active_eq
    cases active_eq
  · exact rightful

theorem Settled.idle (grows : server.Extends after)
    (written : ∀ pair ∈ server.written, pair ∈ after.written)
    (accepted : after.accepted = server.accepted)
    (returned : after.returned = server.returned)
    (inactive : after.active = none) (selecting : after.owner = .selecting)
    (fate : ∀ position result, server.ActiveAt position →
      (position, result) ∈ server.returned →
      server.Cancelled position ∨ after.Reported position result)
    (cancelled : ∀ position, server.ActiveAt position →
      server.Cancelled position → after.AnsweredCancelled position)
    (opener : ∀ position, after.opener = some position →
      position < server.records.length ∧ ¬ server.Cancelled position)
    (transport : ∀ transport, after.session.activeTransport = some transport →
      ∃ position, after.Opened position transport)
    (carrier : ∀ position, after.backend.carrier = some position →
      position < server.records.length ∧ ¬ server.Cancelled position) :
    after.Settled := by
  have same : ∀ position, after.Cancelled position ↔
      server.Cancelled position := by
    simp [Cancelled, accepted]
  have rightful : ∀ position,
      position < server.records.length ∧ ¬ server.Cancelled position →
        after.Rightful position :=
    fun position ⟨bound, kept⟩ =>
      ⟨grows.lt bound, not_activeAt inactive position,
        mt (same position).mp kept⟩
  refine ⟨?_, ?_, ?_, ?_, ?_, transport, ?_⟩
  · intro active found
    rw [inactive] at found
    cases found
  · intro position request target found
    rw [selecting] at found
    cases found
  · intro position result member
    rw [returned] at member
    obtain ⟨bound, known⟩ := settled.fate grows written member
    refine ⟨bound, .inr (known.elim (fun running => ?_) id)⟩
    exact (fate position result running member).imp_left (same position).mpr
  · intro position now
    have earlier := (same position).mp now
    refine .inr
      ((settled.cancelled_fate grows written earlier).elim (fun running => ?_)
        id)
    exact cancelled position running earlier
  · exact fun position found => rightful position (opener position found)
  · exact fun position found => .inr
      (rightful position (carrier position found))

theorem Settled.answered {session : Session} {backend : Backend}
    {opener : Option Nat} (selecting : server.owner = .selecting)
    (inactive : server.active = none)
    (carrier : Kept server.backend.carrier backend.carrier)
    (transport : Kept server.session.activeTransport session.activeTransport)
    (openers : opener = server.opener ∨
      opener = none ∧ session.activeTransport = none) :
    ({ server.receive request with session, backend, opener }.write
      server.records.length response).Settled := by
  have grows : server.Extends
      ({ server.receive request with session, backend, opener }.write
        server.records.length response) := extends_receive rfl id
  have written : ∀ pair ∈ server.written, pair ∈
      ({ server.receive request with session, backend, opener }.write
        server.records.length response).written :=
    fun _ member => List.mem_append_left _ member
  refine settled.idle grows written rfl rfl inactive selecting ?_ ?_ ?_ ?_ ?_
  · exact fun position _ running => absurd running
      (not_activeAt inactive position)
  · exact fun position running => absurd running
      (not_activeAt inactive position)
  · intro position found
    have kept : Kept server.opener opener := openers.imp_right And.left
    have before := settled.opener position (kept.eq_some found)
    exact ⟨before.bound, before.kept⟩
  · intro transport_ set
    rcases openers with same | ⟨-, unset⟩
    · exact settled.opened grows written same (transport.eq_some set)
    · cases unset.symm.trans set
  · intro position found
    have before := settled.carrier_idle inactive (carrier.eq_some found)
    exact ⟨before.bound, before.kept⟩

theorem Settled.started {operation : CancellableOperation}
    (filed : server.Filed) (selecting : server.owner = .selecting)
    (inactive : server.active = none) :
    ((server.receive request).startOperation server.records.length
      operation).Settled := by
  have grows : server.Extends
      ((server.receive request).startOperation server.records.length
        operation) :=
    extends_receive rfl id
  have fresh : ¬ server.Cancelled server.records.length :=
    fun cancelled => Nat.lt_irrefl _ (filed.cancelled_lt cancelled)
  -- The operation is at a new place, which nothing in the history names.
  have rightful : ∀ position, server.Rightful position →
      ((server.receive request).startOperation server.records.length
        operation).Rightful position := by
    intro position before
    refine ⟨grows.lt before.bound, ?_, before.kept⟩
    rintro ⟨active, ⟨⟩, rfl⟩
    exact Nat.lt_irrefl _ before.bound
  refine ⟨?_, ?_, ?_, ?_, ?_, ?_, ?_⟩
  · rintro active ⟨⟩
    refine ⟨iff_of_false fresh nofun, ?_, nofun, ?_⟩
    · intro result member
      obtain ⟨bound, -⟩ := settled.returned _ _ member
      exact absurd bound (Nat.lt_irrefl _)
    · intro position response member later
      exact absurd (filed.written_lt member) (Nat.not_lt_of_gt later)
  · intro position other target owner
    exact absurd owner (not_accepting selecting)
  · intro position result member
    obtain ⟨bound, fate⟩ := settled.fate grows (fun _ known => known) member
    exact ⟨bound, .inr (fate.resolve_left (not_activeAt inactive position))⟩
  · intro position cancelled
    have fate := settled.cancelled_fate grows (fun _ known => known) cancelled
    exact .inr (fate.resolve_left (not_activeAt inactive position))
  · exact fun position found => rightful position
      (settled.opener position found)
  · exact fun _ set => settled.opened grows (fun _ member => member) rfl set
  · exact fun position found => .inr
      (rightful position (settled.carrier_idle inactive found))

section

variable (found : server.active = some active)
include found

theorem Settled.accepting_active {position : Nat}
    (owner : server.owner = .accepting position request target) :
    (position, active.position) ∈ server.accepted := by
  obtain ⟨other, other_eq, member⟩ :=
    settled.accepting position request target owner
  rw [found] at other_eq
  cases other_eq
  exact member

/-- The carrier that is there has an opener: the operation, or a rightful
one. -/
theorem Settled.carrier_active (position : Nat)
    (carrier : server.backend.carrier = some position) :
    (position = active.position ∧ active.worker.Opened) ∨
      server.Rightful position := by
  rcases settled.carrier position carrier with
    ⟨other, other_eq, place, opened⟩ | rightful
  · rw [found] at other_eq
    cases other_eq
    exact .inl ⟨place.symm, opened⟩
  · exact .inr rightful

variable (placed : server.Placed)
include placed

theorem Settled.returnedMove (worker : active.worker = .running)
    (possible : active.operation.mayReturn result = true) :
    ({ server with
      backend := ⟨result.opener active.position server.backend.carrier⟩
      returned := server.returned ++ [(active.position, result)] }.work
        active (.returned result)).Settled := by
  have running := settled.running active found
  refine Continues.settled { active with worker := .returned result }
    ⟨found, rfl, rfl, extends_of_eq rfl rfl, fun _ member => member,
      fun _ cancelled => .inr cancelled, rfl, rfl⟩
    settled placed ⟨running.raced, ?_, ?_, running.order⟩
    (fun _ _ _ owner => settled.accepting_active found owner) ?_ ?_
  · intro other member
    rcases List.mem_append.mp member with older | newest
    · rcases running.called other older with early | cancelled
      · rw [worker] at early
        cases early
      · exact .inr cancelled
    · obtain ⟨-, rfl⟩ := Prod.mk.inj (List.mem_singleton.mp newest)
      exact .inl rfl
  · rintro other ⟨⟩
    exact possible
  · intro pair member
    rcases List.mem_append.mp member with older | newest
    · exact .inl older
    · rw [List.mem_singleton.mp newest]
      exact .inr rfl
  · intro position carrier
    have opened : result.opener active.position server.backend.carrier =
        some position := carrier
    unfold BackendResult.opener at opened
    split at opened
    · next connected =>
      cases opened
      exact .inl ⟨rfl, .inl (congrArg some connected)⟩
    · rcases settled.carrier_active found position opened with ⟨-, early⟩ |
        rightful
      · -- A call that has not returned has opened nothing.
        rw [Worker.Opened, worker] at early
        rcases early with early | early <;> cases early
      · exact .inr rightful

theorem Settled.workMove {worker : Worker} {winner : Race}
    (same : winner = .cancelWon ↔ active.winner = .cancelWon)
    (result : worker.result = active.worker.result ∨
      worker.result = none ∧ winner = .cancelWon)
    (opened : server.backend.carrier ≠ none → active.worker.Opened →
      worker.Opened) :
    (server.work { active with winner } worker).Settled := by
  have running := settled.running active found
  refine Continues.settled { active with winner, worker }
    ⟨found, rfl, rfl, extends_of_eq rfl rfl, fun _ member => member,
      fun _ cancelled => .inr cancelled, rfl, rfl⟩
    settled placed ⟨running.raced.trans same.symm, ?_, ?_, running.order⟩
    (fun _ _ _ owner => settled.accepting_active found owner)
    (fun _ member => .inl member) ?_
  · intro other member
    rcases running.called other member with known | cancelled
    · rcases result with kept | ⟨-, won⟩
      · exact .inl (kept.trans known)
      · exact .inr won
    · exact .inr (same.mpr cancelled)
  · intro other other_eq
    rcases result with kept | ⟨gone, -⟩
    · exact running.possible other (kept.symm.trans other_eq)
    · have nothing : worker.result = some other := other_eq
      rw [gone] at nothing
      cases nothing
  · intro position carrier
    have there : server.backend.carrier ≠ none := by
      rw [show server.backend.carrier = some position from carrier]
      nofun
    exact (settled.carrier_active found position carrier).imp_left
      fun ⟨place, early⟩ => ⟨place, opened there early⟩

theorem Settled.cancelWon :
    Settled { server.receive request with
      active := some { active with controlSeen := true, winner := .cancelWon }
      owner := .accepting server.records.length request target
      accepted :=
        server.accepted ++ [(server.records.length, active.position)] } := by
  have before := settled.running active found
  refine Continues.settled
    { active with controlSeen := true, winner := .cancelWon }
    ⟨found, rfl, rfl, extends_receive rfl (List.mem_append_left _),
      fun _ member => member, ?_, rfl, rfl⟩
    settled placed ⟨?_, ?_, before.possible, ?_⟩ ?_
    (fun _ member => .inl member)
    (settled.carrier_active found)
  · rintro position ⟨cancel, member⟩
    rcases List.mem_append.mp member with older | newest
    · exact .inr ⟨cancel, older⟩
    · exact .inl (Prod.mk.inj (List.mem_singleton.mp newest)).2
  · refine iff_of_true ⟨server.records.length, ?_⟩ rfl
    exact List.mem_append_right _ (List.mem_singleton.mpr rfl)
  · exact fun _ _ => .inr rfl
  · intro position response member later
    exact List.mem_append_left _ (before.order position response member later)
  · rintro position other name ⟨⟩
    exact List.mem_append_right _ (List.mem_singleton.mpr rfl)

theorem Settled.lateCancel :
    Settled { server.receive request with
      active := some { active with
        controlSeen := true
        lateCancel := some (server.records.length, request) } } := by
  have before := settled.running active found
  exact Continues.settled _
    ⟨found, rfl, rfl, extends_receive rfl id, fun _ member => member,
      fun _ cancelled => .inr cancelled, rfl, rfl⟩
    settled placed { before with }
    (fun _ _ _ owner => settled.accepting_active found owner)
    (fun _ member => .inl member)
    (settled.carrier_active found)

theorem Settled.deliver (inactive : after.active = none)
    (selecting : after.owner = .selecting)
    (records : after.records = server.records)
    (accepted : after.accepted = server.accepted)
    (returned : after.returned = server.returned)
    (backend : after.backend = server.backend)
    (written : ∀ pair ∈ server.written, pair ∈ after.written)
    (fate : ∀ result, (active.position, result) ∈ server.returned →
      server.Cancelled active.position ∨ after.Reported active.position result)
    (cancelled : server.Cancelled active.position →
      after.AnsweredCancelled active.position)
    (opener : ∀ position, after.opener = some position →
      position = active.position ∧ ¬ server.Cancelled active.position ∨
        server.opener = some position)
    (transport : ∀ transport, after.session.activeTransport = some transport →
      ∃ position, after.Opened position transport)
    (opened : active.worker.Opened → ¬ server.Cancelled active.position) :
    after.Settled := by
  have place : ∀ position, server.ActiveAt position →
      position = active.position := by
    rintro position ⟨other, other_eq, rfl⟩
    rw [found] at other_eq
    cases other_eq
    rfl
  have bound :=
    (List.getElem?_eq_some_iff.mp (placed.operation active found).request).1
  refine settled.idle (extends_of_eq records accepted) written accepted
    returned inactive selecting ?_ ?_ ?_ transport ?_
  · intro position result running member
    obtain rfl := place position running
    exact fate result member
  · intro position running now
    obtain rfl := place position running
    exact cancelled now
  · intro position now
    rcases opener position now with ⟨rfl, kept⟩ | earlier
    · exact ⟨bound, kept⟩
    · have before := settled.opener position earlier
      exact ⟨before.bound, before.kept⟩
  · intro position now
    rw [backend] at now
    rcases settled.carrier_active found position now with ⟨rfl, early⟩ | before
    · exact ⟨bound, opened early⟩
    · exact ⟨before.bound, before.kept⟩

theorem Settled.deliverCancelled
    (consistent : server.Consistent) (selecting : server.owner = .selecting)
    (worker : active.worker = .finished .cancelled) :
    ({ server with active := none }.write active.position
      active.operation.request.cancelled).Settled := by
  have fits := (consistent active found).worker
  rw [worker] at fits
  have won : server.Cancelled active.position :=
    (settled.running active found).raced.mpr fits
  refine settled.deliver found placed rfl selecting rfl rfl rfl rfl
    (fun _ known => List.mem_append_left _ known) (fun _ _ => .inl won) ?_
    (fun _ earlier => .inr earlier) ?_ ?_
  · intro _
    exact ⟨active.operation.request, (placed.operation active found).request,
      List.mem_append_right _ (List.mem_singleton.mpr rfl)⟩
  · intro transport set
    refine settled.opened ?_ (fun _ known => List.mem_append_left _ known) rfl
      set
    exact extends_of_eq rfl rfl
  · -- The rollback has taken the carrier back.
    intro opened
    rw [Worker.Opened, worker] at opened
    rcases opened with opened | opened <;> cases opened

/-- After a completed operation the transport is the one that it asked for, or
the one from before. -/
private theorem Settled.openedCompleted
    (possible : active.operation.mayReturn result = true)
    (records : after.records = server.records)
    (accepted : after.accepted = server.accepted)
    (written : ∀ pair ∈ server.written, pair ∈ after.written)
    (session : after.session =
      (server.session.completeCancellable active.operation result).1)
    (opener : after.opener = result.opener active.position server.opener)
    (reported : after.Reported active.position result)
    (transport : TransportKind)
    (set : after.session.activeTransport = some transport) :
    ∃ position, after.Opened position transport := by
  have operation := placed.operation active found
  rw [session,
    server.session.activeTransport_completeCancellable possible] at set
  unfold BackendResult.opener at opener
  split at set
  · next connected =>
    subst connected
    rw [if_pos rfl] at opener
    have connects := CancellableOperation.connects possible
    refine ⟨active.position, opener, ⟨active.operation.request, ?_, ?_⟩,
      reported⟩
    · rw [records]
      exact operation.request
    · rw [← operation.connects connects]
      exact set
  · next other =>
    rw [if_neg other] at opener
    exact settled.opened (extends_of_eq records accepted) written opener set

private theorem Settled.deliverResult (consistent : server.Consistent)
    (worker : active.worker = .finished (.completed result))
    (inactive : after.active = none) (selecting : after.owner = .selecting)
    (records : after.records = server.records)
    (accepted : after.accepted = server.accepted)
    (returned : after.returned = server.returned)
    (backend : after.backend = server.backend)
    (session : after.session =
      (server.session.completeCancellable active.operation result).1)
    (opener : after.opener = result.opener active.position server.opener)
    (written : ∀ pair ∈ server.written, pair ∈ after.written)
    (reported : after.Reported active.position result) : after.Settled := by
  have fits := (consistent active found).worker
  rw [worker] at fits
  have won : active.winner = .completionWon := fits
  have running := settled.running active found
  have kept : ¬ server.Cancelled active.position := by
    rw [running.raced, won]
    nofun
  have possible := running.possible result (by rw [worker]; rfl)
  refine settled.deliver found placed inactive selecting records accepted
    returned backend written ?_ (fun cancelled => absurd cancelled kept) ?_
    (settled.openedCompleted found placed possible records accepted written
      session opener reported)
    (fun _ => kept)
  · intro other member
    rcases running.called other member with known | cancelled
    · rw [worker] at known
      cases known
      exact .inr reported
    · rw [won] at cancelled
      cases cancelled
  · intro position opened
    rw [opener] at opened
    unfold BackendResult.opener at opened
    split at opened
    · cases opened
      exact .inl ⟨rfl, kept⟩
    · exact .inr opened

theorem Settled.deliverCompleted (consistent : server.Consistent)
    (selecting : server.owner = .selecting)
    (worker : active.worker = .finished (.completed result)) :
    (server.complete active (.completed result)).Settled := by
  have operation := placed.operation active found
  have possible :=
    (settled.running active found).possible result (by rw [worker]; rfl)
  have reports :=
    server.session.reports_completeCancellable possible operation.connects
  have answer (earlier : List (Nat × Response)) (response : Response) :
      (active.position, response) ∈
        earlier ++ [(active.position, response)] :=
    List.mem_append_right _ (List.mem_singleton.mpr rfl)
  unfold complete
  dsimp only
  split
  · exact settled.deliverResult found placed consistent worker rfl selecting
      rfl rfl rfl rfl rfl rfl (fun _ => List.mem_append_left _)
      ⟨_, _, operation.request, answer _ _, reports⟩
  · exact settled.deliverResult found placed consistent worker rfl selecting
      rfl rfl rfl rfl rfl rfl
      (fun _ earlier => List.mem_append_left _ (List.mem_append_left _ earlier))
      ⟨_, _, operation.request, List.mem_append_left _ (answer _ _), reports⟩

end

theorem Settled.wroteAccepted (placed : server.Placed)
    (owner : server.owner = .accepting position request target) :
    ({ server with owner := .selecting }.write position
      (request.cancelAccepted target)).Settled := by
  obtain ⟨active, found, member⟩ :=
    settled.accepting position request target owner
  have before := settled.running active found
  refine Continues.settled active
    ⟨found, found, rfl, extends_of_eq rfl rfl, fun _ known =>
      List.mem_append_left _ known,
      fun _ cancelled => .inr cancelled, rfl, rfl⟩
    settled placed { before with order := ?_ } ?_
    (fun _ known => .inl known)
    (settled.carrier_active found)
  · intro place response written later
    rcases List.mem_append.mp written with older | newest
    · exact before.order place response older later
    · obtain ⟨rfl, -⟩ := Prod.mk.inj (List.mem_singleton.mp newest)
      exact member
  · intro place other name selecting
    cases selecting

theorem Settled.move (placed : server.Placed) (consistent : server.Consistent)
    (move : Move server after) : after.Settled := by
  cases move with
  | answered selecting inactive _ carrier transport openers =>
    exact settled.answered selecting inactive carrier transport openers
  | started selecting inactive =>
    exact settled.started placed.filed selecting inactive
  | accepted _ found => exact settled.cancelWon found placed
  | late _ found => exact settled.lateCancel found placed
  | wroteAccepted owner => exact settled.wroteAccepted placed owner
  | returned found worker possible =>
    exact settled.returnedMove found placed worker possible
  | completionWon found worker running =>
    refine settled.workMove found placed ?_ (.inl (by rw [worker]; rfl)) ?_
    · rw [running]
      exact iff_of_false nofun nofun
    · rw [Worker.Opened, worker]
      exact fun _ opened => .inl (opened.resolve_right nofun)
  | lost found worker =>
    refine settled.workMove found placed Iff.rfl (.inl (by rw [worker]; rfl)) ?_
    rw [Worker.Opened, worker]
    exact fun _ opened => .inl (opened.resolve_right nofun)
  | @rolledBack active found worker =>
    have fits := (consistent active found).worker
    rw [worker] at fits
    exact settled.carrierLost.workMove found placed.carrierLost
      Iff.rfl (.inr ⟨rfl, fits⟩) (fun there => absurd rfl there)
  | @rollbackFailed active found worker =>
    have fits := (consistent active found).worker
    rw [worker] at fits
    exact settled.workMove found placed Iff.rfl (.inr ⟨rfl, fits⟩)
      (fun _ _ => .inr rfl)
  | @nothingOpened active result found worker unopened =>
    have fits := (consistent active found).worker
    rw [worker] at fits
    refine settled.workMove found placed Iff.rfl (.inr ⟨rfl, fits⟩) ?_
    rw [Worker.Opened, worker]
    rintro - (opened | opened)
    · exact absurd (Option.some.inj opened) unopened
    · cases opened
  | cancelled selecting found worker =>
    exact settled.deliverCancelled found placed consistent selecting worker
  | completed selecting found worker =>
    exact settled.deliverCompleted found placed consistent selecting worker
  | carrierLost => exact settled.carrierLost

end

/-- What holds of a server that has not ended. -/
structure Sound (server : Server) : Prop where
  consistent : server.Consistent
  balanced : server.Balanced
  placed : server.Placed
  settled : server.Settled

private theorem sound_initial (profile : Option Profile) :
    (initial profile).Sound := by
  have filed : (initial profile).Filed := by
    refine ⟨?_, ?_, ?_⟩
    · intro position response member
      cases member
    · intro position response target member
      cases member
    · intro position primary member
      cases member
  have balanced : (initial profile).Balanced := by
    rw [balanced_idle_iff rfl rfl]
    simp [initial]
  refine ⟨consistent_of_inactive rfl, balanced, filed.placed rfl rfl, ?_⟩
  refine ⟨?_, ?_, ?_, ?_, ?_, ?_, ?_⟩
  · intro active found
    cases found
  · intro position request target owner
    cases owner
  · intro position result member
    cases member
  · rintro position ⟨cancel, member⟩
    cases member
  · intro position found
    cases found
  · intro transport set
    cases set
  · intro position found
    cases found

theorem Sound.move (sound : server.Sound) (move : Move server after) :
    after.Sound :=
  ⟨sound.consistent.move move, sound.balanced.move sound.consistent move,
    sound.placed.move move,
    sound.settled.move sound.placed sound.consistent move⟩

/-- The states of the runs of a server. -/
abbrev Reached (probes : Bool) (profile : Option Profile) : Server → Prop :=
  Transition.Reaches (step probes) (fun _ _ => True) (initial profile)

theorem live_of_step {event : Event}
    (taken : server.step probes event = some after) : server.ended = false := by
  obtain ⟨live, taken⟩ := Option.ite_none_left_eq_some.mp taken
  exact Bool.eq_false_iff.mpr live

theorem Reached.sound {profile : Option Profile}
    (reached : Reached probes profile server) (live : server.ended = false) :
    server.Sound := by
  induction reached with
  | start => exact sound_initial profile
  | next _ _ taken ih =>
    exact (ih (live_of_step taken)).move (move_of_step taken live)

end Server

end KyClash.Sidecar
