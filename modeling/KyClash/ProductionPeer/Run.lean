import KyClash.ProductionPeer.Service

/-!
# Run of the production peer service

`Run` starts the service, reads two of its leases after `Start` has given
`operationMu` back, waits on them and calls `Stop`.  Other goroutines call
`Start` and `Stop` at any time.
-/

namespace KyClash.ProductionPeer

open Transition

/-- Where `Run` stands; `own` is the number of its `Start`. -/
inductive RunPhase where
  | idle
  | starting
  | started (own : Nat)
  /-- The leases whose `Done` the `select` calls. -/
  | selecting (own : Nat) (forwarding carriers : Option Lease)
  | woken (own : Nat)
  | stopping (own stopped : Nat)
  | panicked
  deriving DecidableEq, Repr

/-- The `Start` of a `Run` that has not called `Stop` yet. -/
def RunPhase.own : RunPhase → Option Nat
  | .started own | .selecting own _ _ | .woken own => some own
  | _ => none

/-- `Run` has not read the leases of its own start yet. -/
def RunPhase.unread : RunPhase → Bool
  | .started _ => true
  | _ => false

structure Runner where
  service : Service
  phase : RunPhase

inductive RunEvent where
  | run
  /-- A call of another goroutine, or a step of the call that has the lock. -/
  | call (event : Event)
  | read
  | wake
  | stop

namespace Runner

def start : Runner := ⟨.newService, .idle⟩

/-- `Run` goes on when its own call has given the lock back. -/
def returned (service : Service) : RunPhase → RunPhase
  | .starting =>
    if service.operation.isSome then .starting
    else if service.state = .ready then .started service.starts
    else .idle
  | .stopping own stopped =>
    if service.operation.isSome then .stopping own stopped else .idle
  | phase => phase

def step (runner : Runner) (event : RunEvent) : Option Runner :=
  match runner.phase, event with
  | .idle, .run => (runner.service.step .start).map fun service =>
    ⟨service, if service.operation.isSome then .starting else .idle⟩
  | phase, .call event => (runner.service.step event).map fun service =>
    ⟨service, returned service phase⟩
  | .started own, .read =>
    some { runner with
      phase :=
        .selecting own runner.service.leases.forwarding
        runner.service.leases.carriers }
  -- `Done` of an absent lease is a call on a nil interface.
  | .selecting own forwarding carriers, .wake =>
    some { runner with
      phase :=
        if forwarding.isSome && carriers.isSome then .woken own else .panicked }
  | .woken own, .stop => (runner.service.step .stop).map fun service =>
    ⟨service, if service.operation.isSome then .stopping own service.starts
      else .idle⟩
  | _, _ => none

/-- `Run` uses the leases of its own start and stops no other one. -/
structure Proper (runner : Runner) : Prop where
  present : runner.phase ≠ .panicked
  waits : ∀ own forwarding carriers,
    runner.phase = .selecting own forwarding carriers →
      forwarding = some ⟨own, .forwarding⟩ ∧ carriers = some ⟨own, .carriers⟩
  stops : ∀ own stopped, runner.phase = .stopping own stopped → stopped = own

/-- No other goroutine stops what a `Run` has started before the leases are
read, and none starts again what was stopped in the place of `Run`. -/
def Undisturbed (runner : Runner) : RunEvent → Prop
  | .call .stop => runner.phase.unread = false
  | .call .start =>
    runner.phase.own.isSome = true → runner.service.state ≠ .stopped
  | _ => True

instance (runner : Runner) :
    (event : RunEvent) → Decidable (runner.Undisturbed event)
  | .call .stop => inferInstanceAs (Decidable (runner.phase.unread = false))
  | .call .start => inferInstanceAs (Decidable
      (runner.phase.own.isSome = true → runner.service.state ≠ .stopped))
  | .call (.answer _) | .call (.close _) | .call .finish
  | .run | .read | .wake | .stop => .isTrue trivial

/-- The service is what the `Start` of this number has made ready. -/
structure Owned (service : Service) (own : Nat) : Prop where
  operation : service.operation = none
  ready : service.state = .ready
  starts : service.starts = own

def Placed (service : Service) : RunPhase → Prop
  | .idle | .starting => True
  | .started own => Owned service own
  | .woken own => service.starts = own
  | .selecting own forwarding carriers => service.starts = own ∧
    forwarding = some ⟨own, .forwarding⟩ ∧ carriers = some ⟨own, .carriers⟩
  | .stopping own stopped => stopped = own
  | .panicked => False

structure Attached (runner : Runner) : Prop where
  sound : Phase runner.service
  placed : Placed runner.service runner.phase

variable {runner next : Runner} {service after : Service} {own : Nat}
  {event : Event}

theorem Owned.leases (owned : Owned service own) (phase : Phase service) :
    service.leases.forwarding = some ⟨own, .forwarding⟩ ∧
      service.leases.carriers = some ⟨own, .carriers⟩ := by
  obtain ⟨operation, ready, rfl⟩ := owned
  cases phase with
  | ready _ _ leases =>
    rw [leases]
    exact ⟨rfl, rfl⟩
  | _ => grind

/-- A ready service ignores every call but `Stop`. -/
theorem Owned.step (owned : Owned service own) (other : event ≠ .stop)
    (taken : service.step event = some after) : after = service := by
  obtain ⟨operation, ready, -⟩ := owned
  cases event <;> simp_all [Service.step]

private theorem starts_answered (kind : Kind) (held : Leases)
    (answer : Answer) :
    (service.answered kind held answer).starts = service.starts := by
  unfold Service.answered
  dsimp only
  split
  · rfl
  · split <;> rfl

/-- Only a `Start` of a stopped service begins a new generation. -/
theorem starts_step (same : event = .start → service.state ≠ .stopped)
    (taken : service.step event = some after) :
    after.starts = service.starts := by
  unfold Service.step at taken
  split at taken
  · rw [if_pos (.inl (same rfl))] at taken
    cases taken
    rfl
  · split at taken <;>
    · cases taken
      rfl
  · cases taken
    exact starts_answered _ _ _
  · cases taken
    rfl
  · cases taken
    rfl
  · cases taken

theorem Placed.call (placed : Placed runner.service runner.phase)
    (undisturbed : runner.Undisturbed (.call event))
    (taken : runner.service.step event = some after) :
    Placed after (returned after runner.phase) := by
  obtain ⟨service, phase⟩ := runner
  have same (busy : phase.own.isSome) : after.starts = service.starts := by
    refine starts_step ?_ taken
    rintro rfl
    exact undisturbed busy
  cases phase with
  | idle => trivial
  | starting =>
    rw [returned]
    split
    · trivial
    · next free =>
      split
      · next ready => exact ⟨Option.not_isSome_iff_eq_none.mp free, ready, rfl⟩
      · trivial
  | started own =>
    have other : event ≠ .stop := by
      rintro rfl
      cases undisturbed
    obtain rfl := Owned.step placed other taken
    exact placed
  | woken own => exact (same rfl).trans placed
  | selecting own forwarding carriers =>
    exact ⟨(same rfl).trans placed.1, placed.2⟩
  | stopping own stopped =>
    rw [returned]
    split
    · exact placed
    · trivial
  | panicked => exact placed

theorem Attached.step {event : RunEvent} (attached : runner.Attached)
    (undisturbed : runner.Undisturbed event)
    (taken : runner.step event = some next) : next.Attached := by
  obtain ⟨sound, placed⟩ := attached
  unfold Runner.step at taken
  split at taken
  · obtain ⟨service, begun, rfl⟩ := Option.map_eq_some_iff.mp taken
    refine ⟨sound.step begun, ?_⟩
    dsimp only
    split <;> trivial
  · obtain ⟨service, called, rfl⟩ := Option.map_eq_some_iff.mp taken
    exact ⟨sound.step called, placed.call undisturbed called⟩
  · next own started =>
    cases taken
    rw [started] at placed
    exact ⟨sound, placed.starts, Owned.leases placed sound⟩
  · next own forwarding carriers selecting =>
    cases taken
    rw [selecting] at placed
    obtain ⟨owned, rfl, rfl⟩ := placed
    exact ⟨sound, owned⟩
  · next own woken =>
    obtain ⟨service, stopped, rfl⟩ := Option.map_eq_some_iff.mp taken
    rw [woken] at placed
    refine ⟨sound.step stopped, ?_⟩
    have same : service.starts = own :=
      (starts_step (by rintro ⟨⟩) stopped).trans placed
    dsimp only
    split
    · exact same
    · trivial
  · cases taken

end Runner

/-- In every run in which no other goroutine stops what `Run` has started
before the leases are read, nor starts the service again before `Run` stops
it: `Run` waits on the leases of its own start, which are there, and stops
only that one. -/
theorem run_uses_its_own_leases {runner : Runner}
    (reached : Reaches Runner.step Runner.Undisturbed .start runner) :
    runner.Proper := by
  have attached : runner.Attached := by
    apply reached.invariant
    · exact ⟨Service.Reached.phase .start, trivial⟩
    · intro before event after attached undisturbed taken
      exact attached.step undisturbed taken
  obtain ⟨service, phase⟩ := runner
  obtain ⟨-, placed⟩ := attached
  refine ⟨?_, ?_, ?_⟩
  · rintro ⟨⟩
    exact placed
  · rintro own forwarding carriers ⟨⟩
    exact placed.2
  · rintro own stopped ⟨⟩
    exact placed

/-! ### Runs among other goroutines -/

/-- A `Run` up to its start, with a call of `Start` that is ignored. -/
def runStarts : List RunEvent :=
  [.run, .call granted, .call granted, .call granted, .call .start]

/-- Another goroutine stops the service after the leases are read. -/
def stoppedByOther : List RunEvent :=
  [.read, .call .stop, .call (.close false), .call (.close false),
    .call (.close false),
    .call .finish, .wake, .stop]

/-- The first `Run` finds the service stopped, and the second one stops what
it has started. -/
theorem run_stops_its_own_start :
    ∃ runner : Runner, Reaches Runner.step Runner.Undisturbed .start runner ∧
      runner.Proper ∧ runner.phase = .stopping 2 2 := by
  have reached : Reaches Runner.step Runner.Undisturbed .start
      ⟨⟨.stopping, .none, _, 2, _, _⟩, .stopping 2 2⟩ :=
    reaches_of_guarded .start
      (runStarts ++ stoppedByOther ++ runStarts ++ [.read, .wake, .stop]) rfl
  exact ⟨_, reached, run_uses_its_own_leases reached, rfl⟩

/-- Another goroutine stops the service before `Run` reads its leases, which
are then absent. -/
theorem run_may_use_absent_leases :
    ∃ runner : Runner, Reaches Runner.step (fun _ _ => True) .start runner ∧
      runner.phase = .panicked ∧ ¬ runner.Proper := by
  refine ⟨⟨⟨.stopping, .none, _, 1, _, _⟩, .panicked⟩,
    reaches_of_run .start (runStarts ++ [.call .stop, .read, .wake])
      (fun _ _ _ => trivial) rfl,
    rfl, ?_⟩
  intro proper
  exact proper.present rfl

end KyClash.ProductionPeer
