import KyClash.Concurrency.Transition
import KyClash.Sidecar.Moves

/-!
# Requests, cancels and responses

In every run of the server, whatever the client sends: each record is answered
exactly once, under its own identifier; a request whose cancel was accepted is
answered as cancelled and leaves no carrier; and any other request whose
backend call returned is answered with the outcome of that call.
-/

namespace KyClash.Sidecar

open Transition

/-- The response tells the outcome of the backend's call. -/
def Request.Reports (request : Request) (response : Response) :
    BackendResult → Prop
  | .failed => response = request.respond
      (.err ⟨.sidecarUnavailable, .dataPlaneOperationFailed, true⟩)
  | .connected => ∃ status, response = request.respond (.ok (.status status)) ∧
      status.activeTransport = request.data.transport ∧
      status.lastError = none
  | .health health => response = request.respond
      (if health.valid then .ok (.health health)
        else .err ⟨.sidecarUnavailable, .dataPlaneOperationFailed, true⟩)
  | .privateReachability reachability =>
    response = request.respond (.ok (.privateReachability reachability))

theorem CancellableOperation.connects {operation : CancellableOperation}
    (possible : operation.mayReturn .connected = true) :
    operation.request.type = .connectTransport := by
  cases type : operation.request.type with
  | connectTransport => rfl
  | _ => simp [CancellableOperation.mayReturn, type] at possible

namespace Session

theorem answers_completeCancellable (session : Session)
    (operation : CancellableOperation) (result : BackendResult) :
    operation.request.Answers
      (session.completeCancellable operation result).2 := by
  have failure := session.answers_backendFailure operation.request
  unfold completeCancellable
  split
  · exact operation.request.answers_respond nofun
  · split
    · exact operation.request.answers_respond nofun
    · exact failure
  · split
    · exact operation.request.answers_respond nofun
    · exact failure
  · exact failure

theorem reports_completeCancellable (session : Session)
    {operation : CancellableOperation} {result : BackendResult}
    (possible : operation.mayReturn result = true)
    (connects : operation.request.type = .connectTransport →
      operation.transport = operation.request.data.transport) :
    operation.request.Reports (session.completeCancellable operation result).2
      result := by
  unfold completeCancellable
  cases result with
  | failed => cases operation.request.type <;> rfl
  | connected =>
    have type := CancellableOperation.connects possible
    rw [type]
    exact ⟨_, rfl, connects type, rfl⟩
  | health health =>
    cases type : operation.request.type with
    | sampleHealth =>
      unfold Request.Reports
      dsimp only
      split <;> rfl
    | _ => simp [CancellableOperation.mayReturn, type] at possible
  | privateReachability reachability =>
    cases type : operation.request.type with
    | samplePrivateReachability => rfl
    | _ => simp [CancellableOperation.mayReturn, type] at possible

theorem activeTransport_completeCancellable (session : Session)
    {operation : CancellableOperation} {result : BackendResult}
    (possible : operation.mayReturn result = true) :
    (session.completeCancellable operation result).1.activeTransport =
      if result = .connected then operation.transport
      else session.activeTransport := by
  unfold completeCancellable
  cases result with
  | failed => cases operation.request.type <;> rfl
  | connected =>
    rw [CancellableOperation.connects possible]
    rfl
  | health =>
    cases operation.request.type with
    | sampleHealth =>
      dsimp only
      split <;> rfl
    | _ => rfl
  | privateReachability => cases operation.request.type <;> rfl

end Session

/-! ## The race of an operation -/

/-- How far the worker is, and who has won. -/
def Worker.Fits : Worker → Race → Prop
  | .running, winner => winner ≠ .completionWon
  | .returned _, winner => winner ≠ .completionWon
  | .lost _, winner => winner = .cancelWon
  | .finished (.completed _), winner => winner = .completionWon
  | .finished .cancelled, winner => winner = .cancelWon
  | .finished .rollbackFailed, winner => winner = .cancelWon

structure Active.Consistent (active : Active) : Prop where
  worker : active.worker.Fits active.winner
  unseen : active.controlSeen = false →
    active.winner ≠ .cancelWon ∧ active.lateCancel = none
  late : active.winner ≠ .completionWon → active.lateCancel = none

namespace Server

/-- The operation that is active is in a possible state of its race. -/
def Consistent (server : Server) : Prop :=
  ∀ active, server.active = some active → active.Consistent

variable {server : Server}

theorem consistent_of_inactive (inactive : server.active = none) :
    server.Consistent := by
  intro active found
  rw [inactive] at found
  cases found

private theorem consistent_of_active {active : Active}
    (found : server.active = some active) (fits : active.Consistent) :
    server.Consistent := by
  intro other same
  rw [found] at same
  cases same
  exact fits

theorem Consistent.move {after : Server} (consistent : server.Consistent)
    (move : Move server after) : after.Consistent := by
  cases move with
  | answered _ inactive => exact consistent_of_inactive inactive
  | cancelled => exact consistent_of_inactive rfl
  | completed =>
    apply consistent_of_inactive
    simp only [complete]
    split <;> rfl
  | started =>
    refine consistent_of_active rfl ⟨?_, ?_, fun _ => rfl⟩
    · exact nofun
    · exact fun _ => ⟨nofun, rfl⟩
  | accepted _ found unseen running =>
    obtain ⟨worker, fresh, late⟩ := consistent _ found
    refine consistent_of_active rfl ⟨?_, nofun, ?_⟩
    · -- Before the race is decided the worker is at most back from its call.
      revert worker
      rw [running]
      cases state : Active.worker _ with
      | running | returned => exact fun _ => nofun
      | lost => exact nofun
      | finished outcome => cases outcome <;> exact nofun
    · exact fun _ => (fresh unseen).2
  | late _ found unseen decided =>
    obtain ⟨worker, fresh, late⟩ := consistent _ found
    refine consistent_of_active rfl ⟨worker, nofun, ?_⟩
    intro open_
    cases winner : Active.winner _ with
    | running => exact absurd winner decided
    | cancelWon => exact absurd winner (fresh unseen).1
    | completionWon => exact absurd winner open_
  | wroteAccepted | carrierLost => exact consistent
  | completionWon found worker running =>
    obtain ⟨fits, fresh, late⟩ := consistent _ found
    refine consistent_of_active rfl ⟨rfl, ?_, fun open_ => absurd rfl open_⟩
    exact fun unseen => ⟨nofun, (fresh unseen).2⟩
  | lost found worker decided =>
    obtain ⟨fits, fresh, late⟩ := consistent _ found
    rw [worker] at fits
    refine consistent_of_active rfl ⟨?_, fresh, late⟩
    cases winner : Active.winner _ with
    | running => exact absurd winner decided
    | cancelWon => rfl
    | completionWon => exact absurd winner fits
  | returned found worker | rolledBack found worker
  | rollbackFailed found worker
  | nothingOpened found worker =>
    obtain ⟨fits, fresh, late⟩ := consistent _ found
    rw [worker] at fits
    exact consistent_of_active rfl ⟨fits, fresh, late⟩

end Server

/-! ## The records that wait for their response -/

def Owner.pending : Owner → List Nat
  | .selecting => []
  | .accepting position _ _ => [position]

def Active.pending (active : Active) : List Nat :=
  active.position :: active.lateCancel.toList.map (·.1)

namespace Server

def pending (server : Server) : List Nat :=
  server.active.toList.flatMap Active.pending ++ server.owner.pending

/-- Every record is answered or waits, and none is both or twice. -/
def Balanced (server : Server) : Prop :=
  (server.written.map (·.1) ++ server.pending).Perm
    (List.range server.records.length)

private theorem perm_range_succ {positions : List Nat} {count : Nat}
    (known : positions.Perm (List.range count)) :
    (positions ++ [count]).Perm (List.range (count + 1)) := by
  rw [List.range_succ]
  exact known.append_right [count]

variable {server : Server} {active : Active} {after : Server} {position : Nat}
  {target : Text} {request : Request} {returned : List (Nat × BackendResult)}
  {response : Response} {backend : Backend} {worker : Worker} {winner : Race}

theorem balanced_active_iff (found : server.active = some active) :
    server.Balanced ↔
      (server.written.map (·.1) ++
          (active.pending ++ server.owner.pending)).Perm
        (List.range server.records.length) := by
  simp [Balanced, pending, found]

theorem balanced_idle_iff (inactive : server.active = none)
    (selecting : server.owner = .selecting) :
    server.Balanced ↔
      (server.written.map (·.1)).Perm (List.range server.records.length) := by
  simp [Balanced, pending, inactive, selecting, Owner.pending]

theorem Balanced.work
    (balanced : server.Balanced) (found : server.active = some active) :
    Balanced
    { server with
      backend, returned, active := some { active with winner, worker } } := by
  rw [balanced_active_iff found] at balanced
  apply (balanced_active_iff rfl).mpr
  exact balanced

theorem Balanced.move (balanced : server.Balanced)
    (consistent : server.Consistent) (move : Move server after) :
    after.Balanced := by
  cases move with
  | @answered request response session backend opener selecting inactive =>
    rw [balanced_idle_iff inactive selecting] at balanced
    refine (balanced_idle_iff (by exact inactive) (by exact selecting)).mpr ?_
    simpa [write, receive] using perm_range_succ balanced
  | @started request operation selecting inactive =>
    rw [balanced_idle_iff inactive selecting] at balanced
    apply (balanced_active_iff rfl).mpr
    simpa [startOperation, receive, Active.pending, selecting,
      Owner.pending] using perm_range_succ balanced
  | @accepted request active target selecting found =>
    rw [balanced_active_iff found, selecting] at balanced
    apply (balanced_active_iff rfl).mpr
    simpa [receive, Active.pending, Owner.pending] using perm_range_succ
      balanced
  | @late request active selecting found unseen =>
    have none_late := ((consistent active found).unseen unseen).2
    rw [balanced_active_iff found, selecting] at balanced
    apply (balanced_active_iff rfl).mpr
    simpa [receive, Active.pending, Owner.pending, none_late, selecting]
      using perm_range_succ balanced
  | @wroteAccepted position request target accepting =>
    unfold Balanced at balanced ⊢
    have before : server.pending =
        server.active.toList.flatMap Active.pending ++ [position] := by
      simp [pending, accepting, Owner.pending]
    rw [before] at balanced
    refine List.Perm.trans ?_ balanced
    simp only [write, pending, Owner.pending, List.map_append,
      List.map_cons, List.map_nil, List.append_nil, List.append_assoc]
    exact List.Perm.append_left _ List.perm_append_comm
  | returned found | completionWon found | lost found | rolledBack found
  | rollbackFailed found | nothingOpened found =>
    exact (balanced.work found : Balanced _)
  | @cancelled active selecting found worker =>
    have fits := (consistent active found).worker
    rw [worker] at fits
    have won : active.winner = .cancelWon := fits
    have none_late : active.lateCancel = none := by
      apply (consistent active found).late
      rw [won]
      nofun
    rw [balanced_active_iff found, selecting] at balanced
    refine (balanced_idle_iff (by rfl) (by exact selecting)).mpr ?_
    simpa [write, Active.pending, Owner.pending, none_late] using balanced
  | @completed active result selecting found =>
    rw [balanced_active_iff found, selecting] at balanced
    unfold complete
    dsimp only
    split
    all_goals
      next late =>
      refine (balanced_idle_iff (by rfl) (by exact selecting)).mpr ?_
      simpa [write, Active.pending, Owner.pending, late] using balanced
  | carrierLost => exact balanced

/-! ## Responses and cancels belong to their records -/

/-- The cancel was accepted for a request with this identifier. -/
def Granted (server : Server) (position : Nat) (target : Text) : Prop :=
  ∃ primary request, (position, primary) ∈ server.accepted ∧
    server.records[primary]? = some request ∧ target = request.requestID

/-- The operation belongs to its record. -/
structure Placed.Operation (server : Server) (active : Active) : Prop where
  request : server.records[active.position]? = some active.operation.request
  connects : active.operation.request.type = .connectTransport →
    active.operation.transport = active.operation.request.data.transport
  late : ∀ position request, active.lateCancel = some (position, request) →
    server.records[position]? = some request

/-- The written responses and the accepted cancels belong to their
records. -/
structure Filed (server : Server) : Prop where
  matching : ∀ position response, (position, response) ∈ server.written →
    ∃ request, server.records[position]? = some request ∧
      response.requestID = request.requestID
  granted : ∀ position response target, (position, response) ∈ server.written →
    response.result = .ok (.cancelAccepted target) →
    server.Granted position target
  accepted : ∀ position primary, (position, primary) ∈ server.accepted →
    ∃ cancel request, server.records[position]? = some cancel ∧
      server.records[primary]? = some request ∧
      cancel.decodeCancelTarget = some request.requestID

/-- What the server works on belongs to its records. -/
structure Placed (server : Server) : Prop where
  filed : server.Filed
  operation : ∀ active, server.active = some active →
    Placed.Operation server active
  accepting : ∀ position request target,
    server.owner = .accepting position request target →
      server.records[position]? = some request ∧ server.Granted position target

/-- The history only grows. -/
structure Extends (server after : Server) : Prop where
  records : ∀ {position : Nat} {request : Request},
    server.records[position]? = some request →
      after.records[position]? = some request
  accepted : ∀ {pair : Nat × Nat}, pair ∈ server.accepted →
    pair ∈ after.accepted

theorem Granted.extends (granted : server.Granted position target)
    (grows : server.Extends after) : after.Granted position target := by
  obtain ⟨primary, request, pair, found, same⟩ := granted
  exact ⟨primary, request, grows.accepted pair, grows.records found, same⟩

theorem Placed.Operation.extends (operation : Placed.Operation server active)
    (grows : server.Extends after) : Placed.Operation after active :=
  ⟨grows.records operation.request, operation.connects,
    fun _ _ found => grows.records (operation.late _ _ found)⟩

theorem extends_receive (records : after.records = server.records ++ [request])
    (accepted : ∀ {pair : Nat × Nat}, pair ∈ server.accepted →
      pair ∈ after.accepted) :
    server.Extends after := by
  refine ⟨?_, accepted⟩
  intro position other found
  have bound : position < server.records.length :=
    (List.getElem?_eq_some_iff.mp found).1
  rw [records, List.getElem?_append_left bound]
  exact found

theorem extends_of_eq (records : after.records = server.records)
    (accepted : after.accepted = server.accepted) : server.Extends after := by
  constructor
  · rw [records]
    exact id
  · rw [accepted]
    exact id

section

variable (filed : server.Filed)
include filed

/-- What is new in the history belongs to its records. -/
theorem Filed.grow (grows : server.Extends after)
    (written : ∀ place response, (place, response) ∈ after.written →
      (place, response) ∈ server.written ∨
        (∃ request, after.records[place]? = some request ∧
            response.requestID = request.requestID) ∧
          ∀ target, response.result = .ok (.cancelAccepted target) →
            after.Granted place target)
    (accepted : ∀ place primary, (place, primary) ∈ after.accepted →
      (place, primary) ∈ server.accepted ∨
        ∃ cancel request, after.records[place]? = some cancel ∧
          after.records[primary]? = some request ∧
          cancel.decodeCancelTarget = some request.requestID) :
    after.Filed := by
  refine ⟨?_, ?_, ?_⟩
  · intro place response member
    rcases written place response member with older | ⟨named, -⟩
    · obtain ⟨known, found, same⟩ := filed.matching place response older
      exact ⟨known, grows.records found, same⟩
    · exact named
  · intro place response target member result
    rcases written place response member with older | ⟨-, grant⟩
    · exact (filed.granted place response target older result).extends grows
    · exact grant target result
  · intro place primary member
    rcases accepted place primary member with older | named
    · obtain ⟨cancel, request, first, second, decoded⟩ :=
        filed.accepted place primary older
      exact ⟨cancel, request, grows.records first, grows.records second,
        decoded⟩
    · exact named

theorem Filed.extends (grows : server.Extends after)
    (written : after.written = server.written)
    (accepted : after.accepted = server.accepted) : after.Filed :=
  filed.grow grows (fun _ _ member => .inl (written ▸ member))
    (fun _ _ member => .inl (accepted ▸ member))

theorem Filed.respond (grows : server.Extends after)
    (written : after.written = server.written ++ [(position, response)])
    (found : after.records[position]? = some request)
    (same : response.requestID = request.requestID)
    (grant : ∀ target, response.result = .ok (.cancelAccepted target) →
      after.Granted position target)
    (accepted : after.accepted = server.accepted) : after.Filed := by
  refine filed.grow grows ?_ (fun _ _ member => .inl (accepted ▸ member))
  intro place other member
  rw [written] at member
  rcases List.mem_append.mp member with older | newest
  · exact .inl older
  · obtain ⟨rfl, rfl⟩ := Prod.mk.inj (List.mem_singleton.mp newest)
    exact .inr ⟨⟨request, found, same⟩, grant⟩

theorem Filed.write (found : server.records[position]? = some request)
    (answers : request.Answers response) :
    (server.write position response).Filed :=
  filed.respond (extends_of_eq rfl rfl) rfl found answers.id
    (fun target result => absurd result (answers.plain target)) rfl

theorem Filed.placed (inactive : server.active = none)
    (selecting : server.owner = .selecting) : server.Placed := by
  refine ⟨filed, ?_, ?_⟩
  · intro active found
    rw [inactive] at found
    cases found
  · intro position request target found
    rw [selecting] at found
    cases found

end

theorem not_accepting (selecting : server.owner = .selecting) :
    server.owner ≠ .accepting position request target := by
  rw [selecting]
  nofun

section

variable (placed : server.Placed)
include placed

theorem Placed.started {operation : CancellableOperation}
    (selecting : server.owner = .selecting)
    (prepared : server.session.Prepared request operation) :
    ((server.receive request).startOperation server.records.length
      operation).Placed := by
  refine ⟨placed.filed.extends (extends_receive rfl id) rfl rfl, ?_, ?_⟩
  · rintro active ⟨⟩
    refine ⟨?_, ?_, nofun⟩
    · simp [startOperation, receive, prepared.same]
    · intro connects
      rw [prepared.same] at connects ⊢
      exact (prepared.connects connects).1
  · intro position other target owner_eq
    exact absurd owner_eq (not_accepting selecting)

theorem Placed.carrierLost :
    ({ server with backend := ⟨none⟩ } : Server).Placed := by
  refine ⟨placed.filed.extends (extends_of_eq rfl rfl) rfl rfl, ?_,
    placed.accepting⟩
  intro active found
  exact (placed.operation active found).extends (extends_of_eq rfl rfl)

section

variable (found : server.active = some active)
include found

theorem Placed.work :
    Placed
    { server with
      backend, returned, active := some { active with winner, worker } } := by
  refine ⟨placed.filed.extends (extends_of_eq rfl rfl) rfl rfl, ?_,
    placed.accepting⟩
  rintro other ⟨⟩
  exact { placed.operation active found with }

theorem Placed.cancelWon
    (decoded : request.decodeCancelTarget = some target)
    (same : target = active.operation.request.requestID) :
    Placed { server.receive request with
      active := some { active with controlSeen := true, winner := .cancelWon }
      owner := .accepting server.records.length request target
      accepted :=
        server.accepted ++ [(server.records.length, active.position)] } := by
  have grows : server.Extends { server.receive request with
      accepted :=
        server.accepted ++ [(server.records.length, active.position)] } :=
    extends_receive rfl (List.mem_append_left _)
  have arrived : (server.receive request).records[server.records.length]? =
      some request := by
    simp [receive]
  have operation := (placed.operation active found).extends grows
  refine ⟨placed.filed.grow { grows with } (fun _ _ member => .inl member) ?_,
    ?_, ?_⟩
  · intro position primary member
    rcases List.mem_append.mp member with older | newest
    · exact .inl older
    · obtain ⟨rfl, rfl⟩ := Prod.mk.inj (List.mem_singleton.mp newest)
      exact .inr
        ⟨request, active.operation.request, arrived, operation.request,
          same ▸ decoded⟩
  · rintro other ⟨⟩
    exact { operation with }
  · rintro position other name ⟨⟩
    exact ⟨arrived, active.position, active.operation.request,
      List.mem_append_right _ (List.mem_singleton.mpr rfl), operation.request,
      same⟩

theorem Placed.lateCancel (selecting : server.owner = .selecting) :
    Placed { server.receive request with
      active := some { active with
        controlSeen := true
        lateCancel := some (server.records.length, request) } } := by
  refine ⟨placed.filed.extends (extends_receive rfl id) rfl rfl, ?_, ?_⟩
  · rintro other ⟨⟩
    have grows : server.Extends (server.receive request) :=
      extends_receive rfl id
    have operation := (placed.operation active found).extends grows
    refine ⟨operation.request, operation.connects, ?_⟩
    rintro position late ⟨⟩
    simp [receive]
  · intro position other target owner_eq
    exact absurd owner_eq (not_accepting selecting)

theorem Placed.completed {result : BackendResult}
    (selecting : server.owner = .selecting) :
    (server.complete active (.completed result)).Placed := by
  have operation := placed.operation active found
  have answers :=
    server.session.answers_completeCancellable active.operation result
  unfold complete
  dsimp only
  have filed : ({ server with
      session := (server.session.completeCancellable active.operation result).1
      active := none
      opener := result.opener active.position server.opener } : Server).Filed :=
    placed.filed.extends (extends_of_eq rfl rfl) rfl rfl
  have answered := filed.write operation.request answers
  split
  · exact answered.placed rfl selecting
  · next position request late =>
    have tooLate := answered.write (operation.late position request late)
      request.answers_cancelTooLate
    exact tooLate.placed rfl selecting

end

theorem Placed.move (move : Move server after) : after.Placed := by
  cases move with
  | @answered request response session backend opener selecting inactive
      answers =>
      have filed : ({ server.receive request with
          session, backend, opener } : Server).Filed :=
        placed.filed.extends (extends_receive rfl id) rfl rfl
      refine Filed.placed (filed.write ?_ answers) inactive selecting
      simp [receive]
  | started selecting _ prepared => exact placed.started selecting prepared
  | accepted _ found _ _ decoded same =>
    exact placed.cancelWon found decoded same
  | late selecting found => exact placed.lateCancel found selecting
  | wroteAccepted accepting =>
    obtain ⟨at_, granted⟩ := placed.accepting _ _ _ accepting
    refine ⟨?_, ?_, nofun⟩
    · refine placed.filed.respond (extends_of_eq rfl rfl) rfl at_ rfl ?_ rfl
      rintro target ⟨⟩
      exact granted
    · intro active found
      exact (placed.operation active found).extends (extends_of_eq rfl rfl)
  | returned found | completionWon found | lost found | rolledBack found
  | rollbackFailed found | nothingOpened found =>
    exact (placed.work found : Placed _)
  | @cancelled active selecting found =>
    have filed : ({ server with active := none } : Server).Filed :=
      placed.filed.extends (extends_of_eq rfl rfl) rfl rfl
    have answered := filed.write (placed.operation active found).request
      active.operation.request.answers_cancelled
    exact answered.placed rfl selecting
  | completed selecting found => exact placed.completed found selecting
  | carrierLost => exact placed.carrierLost

end

end Server

end KyClash.Sidecar
