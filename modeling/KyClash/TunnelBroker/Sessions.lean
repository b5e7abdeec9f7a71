import KyClash.Concurrency.Transition
import KyClash.TunnelBroker.Coordinator

/-!
# The tunnel broker and its children

All interleavings of the broker's locked sections with the sidecar children.
An operation that reaps a child is between its two sections while it is in
`pending`; during that time any other section may run, the reap may signal
the child, and the child may exit.

In every such run a session that has ended stays ended.
-/

namespace KyClash.TunnelBroker

open Transition

/-- The operations that reap a child. -/
inductive Cause where
  | stop
  | appInvalidated
  | release
  | releaseV3 (binding : TunnelRouteBindingV3)
  deriving DecidableEq, Repr

/-- An operation that has left its first section. -/
inductive Pending where
  | refused (error : BrokerErrorCode) (binding : Option TunnelRouteBindingV3)
  | reaping (cause : Cause) (reference : TunnelReference)
  deriving DecidableEq, Repr

inductive Reply where
  | session (reply : SessionReply)
  | broker (reply : BrokerReply)
  | routeV3 (reply : RouteReplyV3)
  deriving DecidableEq, Repr

/-- `alive` are the running children and `notices` the exited ones whose
termination handler has not run yet. -/
structure World where
  broker : Broker
  alive : List TunnelReference
  notices : List TunnelReference
  pending : List Pending
  deriving DecidableEq, Repr

inductive Event where
  | start (app : ConnectionID) (sidecarInstanceID : Identifier)
      (launch : Launch)
  | stop (app : ConnectionID) (reference : TunnelReference)
  | appStatus (app : ConnectionID) (reference : TunnelReference)
  | appInvalidated (app : ConnectionID)
  | hold (binding : TunnelRouteBinding)
  | release (binding : TunnelRouteBinding)
  | routeStatus (binding : TunnelRouteBinding)
  | holdV3 (binding : TunnelRouteBindingV3) (now : Date)
  | releaseV3 (binding : TunnelRouteBindingV3)
  | routeStatusV3 (binding : TunnelRouteBindingV3) (now : Date)
  | watchdogTick (now : Date)
  /-- A reap signals its child: `terminate` or SIGKILL. -/
  | terminate (index : Nat)
  /-- The reap is over, or the reply of a refused operation is made. -/
  | resume (index : Nat)
  | childExit (reference : TunnelReference)
  | childExited (reference : TunnelReference)
  deriving DecidableEq, Repr

namespace World

def initial : World where
  broker := .initial
  alive := []
  notices := []
  pending := []

/-- The second section of a reaping operation whose child is gone. -/
def reaped (broker : Broker) (reference : TunnelReference) :
    Cause → Broker × Option Reply
  | .stop => (broker.stopReaped reference, some (.broker ⟨.idle, none⟩))
  | .appInvalidated => (broker.disconnectedReaped reference, none)
  | .release =>
    (broker.disconnectedReaped reference, some (.broker ⟨.idle, none⟩))
  | .releaseV3 binding =>
    (broker.releaseV3Reaped binding reference,
      some (.routeV3 ⟨binding, .idle, none⟩))

/-- The reply of a reaping operation whose child did not go away in time. -/
def reapFailed : Cause → Option Reply
  | .appInvalidated => none
  | .stop => some (.broker ⟨.running, some .unavailable⟩)
  | .release => some (.broker ⟨.running, some .unavailable⟩)
  | .releaseV3 binding => some (.routeV3 ⟨binding, .running, some .unavailable⟩)

/-- Reply to the caller or leave the operation pending. -/
def afterSection (world : World) (broker : Broker) (cause : Cause)
    (wrap : reply → Reply) (binding : Option TunnelRouteBindingV3) :
    Section reply → World × Option Reply
  | .refused error =>
    ({ world with
        broker, pending := world.pending ++ [.refused error binding] },
      none)
  | .reply value => ({ world with broker }, some (wrap value))
  | .reap reference =>
    ({ world with
        broker, pending := world.pending ++ [.reaping cause reference] },
      none)

def resume (world : World) (index : Nat) : Option (World × Option Reply) :=
  match world.pending[index]? with
  | none => none
  | some operation =>
    let world := { world with pending := world.pending.eraseIdx index }
    match operation with
    | .refused error none =>
      some (world, some (.broker ⟨world.broker.currentState, some error⟩))
    | .refused error (some binding) =>
      some (world,
        some (.routeV3 ⟨binding, world.broker.currentState, some error⟩))
    | .reaping cause reference =>
      if reference ∈ world.alive then
        some (world, reapFailed cause)
      else
        let result := reaped world.broker reference cause
        some ({ world with broker := result.1 }, result.2)

def step (world : World) : Event → Option (World × Option Reply)
  | .start app sidecarInstanceID launch =>
    let result := world.broker.start app sidecarInstanceID launch
    some ({ world with
        broker := result.1
        alive := result.2.reference.toList ++ world.alive },
      some (.session result.2))
  | .stop app reference =>
    some (world.afterSection world.broker .stop .broker none
      (world.broker.stop reference app))
  | .appStatus app reference =>
    some (world, some (.broker (world.broker.appStatus reference app)))
  | .appInvalidated app =>
    let result := world.broker.appInvalidated app
    match result.2 with
    | none => some ({ world with broker := result.1 }, none)
    | some reference =>
      some ({ world with
          broker := result.1
          pending := world.pending ++ [.reaping .appInvalidated reference] },
        none)
  | .hold binding =>
    let result := world.broker.hold binding
    some ({ world with broker := result.1 }, some (.broker result.2))
  | .release binding =>
    let result := world.broker.release binding
    some (world.afterSection result.1 .release .broker none result.2)
  | .routeStatus binding =>
    some (world, some (.broker (world.broker.routeStatus binding)))
  | .holdV3 binding now =>
    let result := world.broker.holdV3 binding now
    some ({ world with broker := result.1 }, some (.routeV3 result.2))
  | .releaseV3 binding =>
    let result := world.broker.releaseV3 binding
    some (world.afterSection result.1 (.releaseV3 binding) .routeV3
      (some binding) result.2)
  | .routeStatusV3 binding now =>
    let result := world.broker.routeStatusV3 binding now
    some ({ world with broker := result.1 }, some (.routeV3 result.2))
  | .watchdogTick now =>
    some ({ world with broker := world.broker.heartbeatWatchdogTick now }, none)
  | .terminate index =>
    match world.pending[index]? with
    | some (.reaping _ reference) =>
      if reference ∈ world.alive then some (world, none) else none
    | _ => none
  | .resume index => world.resume index
  | .childExit reference =>
    if reference ∈ world.alive then
      some ({ world with
          alive := world.alive.filter (· ≠ reference)
          notices := world.notices ++ [reference] },
        none)
    else
      none
  | .childExited reference =>
    if reference ∈ world.notices then
      some ({ world with
          broker := world.broker.childExited reference
          notices := world.notices.filter (· ≠ reference) },
        none)
    else
      none

def next (world : World) (event : Event) : Option World :=
  (world.step event).map Prod.fst

theorem reaped_quiet (broker : Broker) (reference : TunnelReference)
    (cause : Cause) : broker.Quiet (reaped broker reference cause).1 := by
  cases cause with
  | stop => exact broker.stopReaped_quiet reference
  | appInvalidated | release => exact broker.disconnectedReaped_quiet reference
  | releaseV3 binding => exact broker.releaseV3Reaped_quiet binding reference

end World

/-- A session that is active after a section was active before it, or is new
and has the next generation. -/
structure Broker.Succeeds (before after : Broker) : Prop where
  generation : before.nextGeneration ≤ after.nextGeneration
  active : ∀ lease, after.active = some lease →
    (∃ old, before.active = some old ∧ old.reference = lease.reference) ∨
      (before.nextGeneration ≤ lease.reference.generation ∧
        lease.reference.generation < after.nextGeneration)

variable {before after : Broker} {world later : World}
  {reference : TunnelReference}

theorem Broker.Quiet.succeeds (quiet : before.Quiet after) :
    before.Succeeds after := by
  refine ⟨quiet.generation ▸ UInt64.le_refl _, ?_⟩
  intro lease found
  obtain ⟨old, active, same⟩ := quiet.active lease found
  exact .inl ⟨old, active, same.reference.symm⟩

theorem Broker.Granted.succeeds (granted : before.Granted after reference) :
    before.Succeeds after := by
  refine ⟨granted.generation ▸ UInt64.le_refl _, ?_⟩
  intro lease found
  obtain ⟨old, current, active, same, oldNamed, named, -⟩ := granted.active
  cases Option.some.inj (same.symm.trans found)
  exact .inl ⟨old, active, oldNamed.trans named.symm⟩

theorem Broker.start_succeeds (broker : Broker) (app : ConnectionID)
    (sidecarInstanceID : Identifier) (launch : Launch) :
    broker.Succeeds (broker.start app sidecarInstanceID launch).1 := by
  rcases broker.start_cases app sidecarInstanceID launch with same |
    ⟨available, advanced, fresh⟩
  · rw [same]
    exact (Broker.Quiet.refl broker).succeeds
  · have later := Broker.lt_next_generation available
    rw [← advanced] at later
    refine ⟨UInt64.le_of_lt later, ?_⟩
    intro lease found
    obtain ⟨reference, rfl, generation⟩ := fresh lease found
    change _ ∨ (_ ≤ reference.generation ∧ reference.generation < _)
    rw [generation]
    exact .inr ⟨UInt64.le_refl _, later⟩

theorem World.broker_afterSection (broker : Broker) (cause : Cause)
    (wrap : reply → Reply) (binding : Option TunnelRouteBindingV3)
    (decision : Section reply) :
    (world.afterSection broker cause wrap binding decision).1.broker =
      broker := by
  cases decision <;> rfl

theorem World.step_succeeds {event : Event} {reply : Option Reply}
    (taken : world.step event = some (later, reply)) :
    world.broker.Succeeds later.broker := by
  have still := (Broker.Quiet.refl world.broker).succeeds
  cases event with
  | start app sidecarInstanceID launch =>
    cases taken
    exact world.broker.start_succeeds app sidecarInstanceID launch
  | appStatus | routeStatus =>
    cases taken
    exact still
  | stop =>
    obtain rfl : _ = later := congrArg Prod.fst (Option.some.inj taken)
    rw [World.broker_afterSection]
    exact still
  | release binding =>
    obtain rfl : _ = later := congrArg Prod.fst (Option.some.inj taken)
    rw [World.broker_afterSection]
    exact (world.broker.release_released binding).quiet.succeeds
  | releaseV3 binding =>
    obtain rfl : _ = later := congrArg Prod.fst (Option.some.inj taken)
    rw [World.broker_afterSection]
    exact (world.broker.releaseV3_released binding).quiet.succeeds
  | appInvalidated app =>
    have quiet := (world.broker.appInvalidated_spec app).1.succeeds
    simp only [World.step] at taken
    split at taken
    all_goals
      cases taken
      exact quiet
  | hold binding =>
    cases taken
    rcases world.broker.hold_cases binding with ⟨same, -⟩ | granted
    · rw [same]
      exact still
    · exact granted.succeeds
  | holdV3 binding now =>
    cases taken
    rcases world.broker.holdV3_cases binding now with ⟨same, -⟩ | granted
    · rw [same]
      exact still
    · exact granted.succeeds
  | routeStatusV3 binding now =>
    cases taken
    exact (world.broker.routeStatusV3_quiet binding now).succeeds
  | watchdogTick now =>
    cases taken
    exact (world.broker.heartbeatWatchdogTick_quiet now).succeeds
  | terminate index =>
    simp only [World.step] at taken
    split at taken
    · obtain ⟨-, ⟨⟩⟩ := Option.ite_none_right_eq_some.mp taken
      exact still
    · cases taken
  | resume index =>
    simp only [World.step, World.resume] at taken
    split at taken
    · cases taken
    split at taken
    · cases taken
      exact still
    · cases taken
      exact still
    split at taken
    · cases taken
      exact still
    · cases taken
      exact (World.reaped_quiet _ _ _).succeeds
  | childExit reference =>
    obtain ⟨-, ⟨⟩⟩ := Option.ite_none_right_eq_some.mp taken
    exact still
  | childExited reference =>
    obtain ⟨-, ⟨⟩⟩ := Option.ite_none_right_eq_some.mp taken
    exact (world.broker.childExited_quiet reference).succeeds

/-- Every event may happen. -/
abbrev Leads : World → World → Prop :=
  Reaches World.next fun _ _ => True

def World.Runs (world : World) (reference : TunnelReference) : Prop :=
  ∃ lease, world.broker.active = some lease ∧ lease.reference = reference

/-- The generation of the session has been given out. -/
def World.Past (reference : TunnelReference) (world : World) : Prop :=
  reference.generation < world.broker.nextGeneration

theorem World.Past.step {event : Event} {reply : Option Reply}
    (past : world.Past reference)
    (taken : world.step event = some (later, reply)) :
    later.Past reference ∧
      (¬ world.Runs reference → ¬ later.Runs reference) := by
  have succeeds := step_succeeds taken
  refine ⟨UInt64.lt_of_lt_of_le past succeeds.generation, ?_⟩
  rintro absent ⟨lease, found, rfl⟩
  rcases succeeds.active lease found with ⟨old, active, same⟩ | ⟨new, -⟩
  · exact absent ⟨old, active, same⟩
  · exact UInt64.lt_irrefl _ (UInt64.lt_of_lt_of_le past new)

theorem World.Past.lasts (past : world.Past reference)
    (reached : Leads world later) :
    later.Past reference ∧
      (¬ world.Runs reference → ¬ later.Runs reference) := by
  induction reached with
  | start => exact ⟨past, id⟩
  | next _ _ taken ih =>
    obtain ⟨⟨_, _⟩, stepped, rfl⟩ := Option.map_eq_some_iff.mp taken
    obtain ⟨still, gone⟩ := World.Past.step ih.1 stepped
    exact ⟨still, fun absent => gone (ih.2 absent)⟩

theorem World.reaches_past (reached : Leads .initial world)
    (runs : world.Runs reference) : world.Past reference := by
  induction reached generalizing reference with
  | start => obtain ⟨lease, ⟨⟩, -⟩ := runs
  | next _ _ taken ih =>
    obtain ⟨⟨_, _⟩, stepped, rfl⟩ := Option.map_eq_some_iff.mp taken
    obtain ⟨lease, found, rfl⟩ := runs
    have succeeds := step_succeeds stepped
    rcases succeeds.active lease found with ⟨old, active, same⟩ | ⟨-, new⟩
    · exact UInt64.lt_of_lt_of_le (ih ⟨old, active, same⟩) succeeds.generation
    · exact new

/-- In every run, whatever holds, stops and exits come in between, a session
that has ended never becomes active again: its reference is not given out a
second time. -/
theorem ended_session_never_returns {world gone after : World}
    {reference : TunnelReference} (reached : Leads .initial world)
    (runs : world.Runs reference) (left : Leads world gone)
    (ended : ¬ gone.Runs reference) (later : Leads gone after) :
    ¬ after.Runs reference :=
  (((World.reaches_past reached runs).lasts left).1.lasts later).2 ended

def exampleInstance : Identifier := List.replicate 8 0x61

def exampleReference : TunnelReference where
  protocolVersion := brokerProtocolVersion
  generation := 1
  sidecarInstanceID := exampleInstance

/-- The session is running and its only app connection is number 0. -/
def runningWorld : World :=
  (World.initial.next (.start 0 exampleInstance .launched)).getD .initial

def stoppingWorld : World :=
  (runningWorld.next (.stop 0 exampleReference)).getD .initial

def vacatedWorld : World :=
  (run World.next stoppingWorld [.childExit exampleReference, .resume 0]).getD
    .initial

def restartedWorld : World :=
  (vacatedWorld.next (.start 0 exampleInstance .launched)).getD .initial

theorem stopped_session_never_returns :
    runningWorld.Runs exampleReference ∧
      restartedWorld.broker.active.isSome = true ∧
      ¬ restartedWorld.Runs exampleReference := by
  have running : Leads .initial runningWorld :=
    reaches_of_run .start [.start 0 exampleInstance .launched]
      (fun _ _ _ => trivial) (by decide)
  have left : Leads runningWorld vacatedWorld :=
    reaches_of_run .start
      [.stop 0 exampleReference, .childExit exampleReference, .resume 0]
      (fun _ _ _ => trivial) (by decide)
  refine ⟨⟨_, rfl, rfl⟩, by decide, ?_⟩
  refine ended_session_never_returns running ⟨_, rfl, rfl⟩ left ?_
    (reaches_of_run .start [.start 0 exampleInstance .launched]
      (fun _ _ _ => trivial) (by decide))
  rintro ⟨lease, ⟨⟩, -⟩

end KyClash.TunnelBroker
