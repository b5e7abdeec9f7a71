import KyClash.StdioRuntime.BrokerClient
import KyClash.TunnelBroker.Sessions

/-!
# Stopping a sidecar that the tunnel broker owns

The stdio runtime, the process-control client, the bridge and the tunnel
broker together, for one session whose sidecar exits after it acknowledged the
shutdown request.  Every request is answered.

The sidecar exits at one moment and the broker handles its termination at
another; both are placed anywhere between the broker's locked sections.  Once
the broker has handled the termination it has forgotten the session, and its
stale reply quarantines the client.  So `stop` succeeds exactly when the
handling comes after the first section of the broker's own stop.
-/

namespace KyClash.StdioRuntime

open TunnelBroker
open TunnelBrokerProcessControl (enterRecoveryOnly killOwned tryWaitStatus)

/-- When the sidecar exits and when its termination handler may run, counted
in locked sections of the broker after the acknowledgement. -/
structure ChildTiming where
  exitAt : Nat
  noticedAt : Nat
  deriving DecidableEq, Repr

/-- The section before which the broker has handled the sidecar's exit. -/
def ChildTiming.forgottenAt (timing : ChildTiming) : Nat :=
  max timing.exitAt timing.noticedAt

/-- `KCTBClient` with the broker behind it.  `reference` is the bridge's own
copy of the session and `served` counts the locked sections. -/
structure BrokerLink where
  app : ConnectionID
  session : TunnelReference
  reference : Option TunnelReference
  world : World
  timing : ChildTiming
  served : Nat
  deriving DecidableEq, Repr

namespace BrokerLink

/-- An event of the sidecar, where it can happen. -/
def occur (world : World) (event : TunnelBroker.Event) : World :=
  (world.next event).getD world

/-- What the sidecar does before the next section. -/
def childSteps (link : BrokerLink) : World :=
  let world :=
    if link.timing.exitAt ≤ link.served then
      occur link.world (.childExit link.session)
    else
      link.world
  if link.timing.noticedAt ≤ link.served then
    occur world (.childExited link.session)
  else
    world

/-- The moment of the next section. -/
def advance (link : BrokerLink) : BrokerLink :=
  { link with world := link.childSteps, served := link.served + 1 }

/-- `finishBrokerRequest`; a request without a reply times out. -/
def answer : Option Reply → NativeReply
  | some (.broker reply) => .ofBroker reply
  | _ => .failure 1

def status (link : BrokerLink) : BrokerLink × NativeReply :=
  match link.reference with
  | none => (link, .failure 7)
  | some reference =>
    let link := link.advance
    (link, .ofBroker (link.world.broker.appStatus reference link.app))

/-- The broker's `stop`.  A reap ends the child if it still runs, and the
operation resumes in a later section. -/
def brokerStop (link : BrokerLink) (reference : TunnelReference) :
    BrokerLink × NativeReply :=
  let link := link.advance
  let index := link.world.pending.length
  match link.world.step (.stop link.app reference) with
  | none => (link, .failure 1)
  | some (world, some reply) => ({ link with world }, answer (some reply))
  | some (world, none) =>
    let reaped :=
      match world.pending[index]? with
      | some (.reaping _ child) => occur world (.childExit child)
      | _ => world
    let link := { link with world := reaped }.advance
    match link.world.step (.resume index) with
    | none => (link, .failure 1)
    | some (world, reply) => ({ link with world }, answer reply)

def stop (link : BrokerLink) : BrokerLink × NativeReply :=
  match link.reference with
  | none => (link, .failure 7)
  | some reference =>
    let result := link.brokerStop reference
    if result.2.transportStatus = 0 ∧ result.2.state = 0 ∧
        result.2.errorCode = 0 then
      ({ result.1 with reference := none }, result.2)
    else
      result

def generation : TunnelBrokerGeneration BrokerLink where
  status := status
  stop := stop

@[simp]
theorem session_advance (link : BrokerLink) :
    link.advance.session = link.session := rfl

@[simp]
theorem app_advance (link : BrokerLink) : link.advance.app = link.app := rfl

theorem occur_childExit (world : World) (child : TunnelReference) :
    occur world (.childExit child) =
      if child ∈ world.alive then
        { world with
          alive := world.alive.filter (· ≠ child)
          notices := world.notices ++ [child] }
      else
        world := by
  by_cases running : child ∈ world.alive <;>
    simp [occur, World.next, World.step, running]

theorem occur_childExited (world : World) (child : TunnelReference) :
    occur world (.childExited child) =
      if child ∈ world.notices then
        { world with
          broker := world.broker.childExited child
          notices := world.notices.filter (· ≠ child) }
      else
        world := by
  by_cases noticed : child ∈ world.notices <;>
    simp [occur, World.next, World.step, noticed]

theorem not_mem_alive_childExit (world : World) (child : TunnelReference) :
    child ∉ (occur world (.childExit child)).alive := by
  rw [occur_childExit]
  split
  · simp
  · assumption

private theorem alive_occur_childExited (world : World)
    (child : TunnelReference) :
    (occur world (.childExited child)).alive = world.alive := by
  rw [occur_childExited]
  split <;> rfl

theorem pending_childSteps (link : BrokerLink) :
    link.childSteps.pending = link.world.pending := by
  simp only [childSteps, occur_childExit, occur_childExited]
  split_ifs <;> rfl

variable {link : BrokerLink} {before : List Pending} {world : World}

private theorem not_mem_alive_childSteps
    (gone : link.session ∉ link.world.alive) :
    link.session ∉ link.childSteps.alive := by
  have exited : link.session ∉ (if link.timing.exitAt ≤ link.served then
        occur link.world (.childExit link.session)
      else link.world).alive := by
    split
    · exact not_mem_alive_childExit _ _
    · exact gone
  by_cases handled : link.timing.noticedAt ≤ link.served
  · simp only [childSteps, if_pos handled, alive_occur_childExited]
    exact exited
  · simp only [childSteps, if_neg handled]
    exact exited

/-- The broker serves the unheld session of this client, and has not handled
the exit of its child. -/
structure Serving (link : BrokerLink) : Prop where
  bound : link.reference = some link.session
  valid : link.session.isValid = true
  active : ∃ lease, link.world.broker.active = some lease ∧
    lease.reference = link.session ∧ lease.appConnectionID = link.app ∧
    lease.hasRouteHold = false
  child : link.session ∈ link.world.alive ∨ link.session ∈ link.world.notices
  exited : link.session ∈ link.world.notices → link.timing.exitAt < link.served

/-- The world after the first section of the broker's stop. -/
def reapingWorld (link : BrokerLink) : World :=
  { link.world with
    pending := link.world.pending ++ [.reaping .stop link.session] }

private theorem step_stop_forgotten
    (forgotten : link.world.broker.active = none) :
    link.world.step (.stop link.app link.session) =
      some ({ link.world with
        pending := link.world.pending ++ [.refused .staleGeneration none] },
          none) := by
  simp [World.step, Broker.stop, forgotten, World.afterSection]

private theorem resume_reaped {child : TunnelReference}
    (pending : world.pending = before ++ [.reaping .stop child])
    (gone : child ∉ world.alive) :
    ∃ after, world.step (.resume before.length) =
      some (after, some (.broker ⟨.idle, none⟩)) := by
  simp [World.step, World.resume, pending, gone, World.reaped]

private theorem resume_refused {error : BrokerErrorCode}
    (pending : world.pending = before ++ [.refused error none]) :
    ∃ after state, world.step (.resume before.length) =
      some (after, some (.broker ⟨state, some error⟩)) := by
  simp [World.step, World.resume, pending]

/-- The link when the reap of a stop has seen the child gone. -/
def reapedLink (link : BrokerLink) : BrokerLink :=
  { link.advance with
    world := occur link.advance.reapingWorld (.childExit link.session) }

private theorem pending_reapedLink (link : BrokerLink) :
    link.reapedLink.advance.world.pending =
      link.advance.world.pending ++ [.reaping .stop link.session] := by
  change link.reapedLink.childSteps.pending = _
  rw [pending_childSteps]
  change (occur link.advance.reapingWorld _).pending = _
  rw [occur_childExit]
  split <;> rfl

private theorem brokerStop_forgotten
    (forgotten : link.advance.world.broker.active = none) :
    ∃ state, (link.brokerStop link.session).2 =
      .ofBroker ⟨state, some .staleGeneration⟩ := by
  have first := step_stop_forgotten forgotten
  let refused : BrokerLink :=
    { link.advance with
      world := { link.advance.world with
        pending :=
          link.advance.world.pending ++ [.refused .staleGeneration none] } }
  have pending : refused.advance.world.pending =
      link.advance.world.pending ++ [.refused .staleGeneration none] :=
    pending_childSteps refused
  obtain ⟨after, state, resumed⟩ := resume_refused pending
  refine ⟨state, ?_⟩
  simp only [app_advance, session_advance] at first
  simp only [brokerStop, app_advance, first, List.getElem?_concat_length]
  change (match refused.advance.world.step _ with
    | none => _
    | some (world, reply) => _ : BrokerLink × NativeReply).2 = _
  rw [resumed]
  rfl

section

variable (serving : link.Serving)
include serving

theorem Serving.step_stop :
    link.world.step (.stop link.app link.session) =
      some (link.reapingWorld, none) := by
  obtain ⟨lease, active, same, owner, unheld⟩ := serving.active
  simp [World.step, Broker.stop, active, serving.valid, same, owner, unheld,
    World.afterSection, reapingWorld]

section

variable (early : link.served < link.timing.forgottenAt)
include early

theorem Serving.advance : link.advance.Serving := by
  by_cases exits : link.timing.exitAt ≤ link.served
  · -- The child is gone, so its termination cannot have been handled.
    have unhandled : ¬ link.timing.noticedAt ≤ link.served := by
      simp only [ChildTiming.forgottenAt] at early
      omega
    have steps : link.childSteps =
        occur link.world (.childExit link.session) := by
      simp [childSteps, exits, unhandled]
    have broker : link.childSteps.broker = link.world.broker := by
      rw [steps, occur_childExit]
      split <;> rfl
    refine ⟨serving.bound, serving.valid, ?_, ?_, ?_⟩
    · change ∃ lease, link.childSteps.broker.active = some lease ∧ _
      rw [broker]
      exact serving.active
    · right
      change link.session ∈ link.childSteps.notices
      rw [steps, occur_childExit]
      split
      · simp
      · next ended => exact serving.child.resolve_left ended
    · intro _
      exact Nat.lt_succ_of_le exits
  · -- The child still runs and there is no termination to handle.
    have unnoticed : link.session ∉ link.world.notices := by
      intro noticed
      exact exits (Nat.le_of_lt (serving.exited noticed))
    have steps : link.childSteps = link.world := by
      simp [childSteps, exits, occur_childExited, unnoticed]
    refine ⟨serving.bound, serving.valid, ?_, ?_, ?_⟩
    · change ∃ lease, link.childSteps.broker.active = some lease ∧ _
      rw [steps]
      exact serving.active
    · change _ ∈ link.childSteps.alive ∨ _ ∈ link.childSteps.notices
      rw [steps]
      exact serving.child
    · intro noticed
      change _ ∈ link.childSteps.notices at noticed
      rw [steps] at noticed
      exact absurd noticed unnoticed

theorem Serving.status_eq :
    link.status = (link.advance, .ofBroker ⟨.running, none⟩) := by
  have later := serving.advance early
  obtain ⟨lease, active, same, owner, unheld⟩ := later.active
  simp [status, serving.bound, Broker.appStatus, active, serving.valid, same,
    owner, Broker.currentState, unheld]

theorem Serving.brokerStop_eq :
    (link.brokerStop link.session).2 = .ofBroker ⟨.idle, none⟩ := by
  have first := (serving.advance early).step_stop
  have last :
      link.advance.reapingWorld.pending[link.advance.world.pending.length]? =
        some (.reaping .stop link.session) := by
    simp [reapingWorld]
  have gone : link.session ∉ link.reapedLink.advance.world.alive :=
    not_mem_alive_childSteps (not_mem_alive_childExit _ _)
  obtain ⟨after, resumed⟩ := resume_reaped link.pending_reapedLink gone
  simp only [app_advance, session_advance] at first
  simp only [brokerStop, app_advance, first, last]
  change (match link.reapedLink.advance.world.step _ with
    | none => _
    | some (world, reply) => _ : BrokerLink × NativeReply).2 = _
  rw [resumed]
  rfl

/-- The broker's stop comes before the child's termination is handled. -/
theorem Serving.stop_eq : link.stop.2 = .ofBroker ⟨.idle, none⟩ := by
  have answered := serving.brokerStop_eq early
  simp [stop, serving.bound, answered, NativeReply.ofBroker, brokerStateCode,
    brokerErrorCode]

end

variable (late : link.timing.forgottenAt ≤ link.served)
include late

theorem Serving.forgotten : link.advance.world.broker.active = none := by
  obtain ⟨exits, handled⟩ := Nat.max_le.mp late
  obtain ⟨lease, active, same, -, unheld⟩ := serving.active
  have noticed : link.session ∈
      (occur link.world (.childExit link.session)).notices := by
    rw [occur_childExit]
    split
    · simp
    · next ended => exact serving.child.resolve_left ended
  have broker : (occur link.world (.childExit link.session)).broker =
      link.world.broker := by
    rw [occur_childExit]
    split <;> rfl
  change link.childSteps.broker.active = none
  simp [childSteps, exits, handled, occur_childExited, noticed, broker,
    Broker.childExited, active, same, unheld, Broker.retire]

theorem Serving.status_forgotten :
    link.status = (link.advance, .ofBroker ⟨.idle, some .staleGeneration⟩) := by
  have forgotten := serving.forgotten late
  simp [status, serving.bound, Broker.appStatus, forgotten, Broker.currentState]

theorem Serving.stop_forgotten :
    ∃ state, link.stop.2 = .ofBroker ⟨state, some .staleGeneration⟩ := by
  obtain ⟨state, answered⟩ := brokerStop_forgotten (serving.forgotten late)
  refine ⟨state, ?_⟩
  simp [stop, serving.bound, answered, NativeReply.ofBroker, brokerErrorCode]

end

end BrokerLink

abbrev BrokerRuntime := Runtime (TunnelBrokerProcessControl BrokerLink)

/-- Process control through the broker. -/
def brokerControl : ProcessControl (TunnelBrokerProcessControl BrokerLink) :=
  TunnelBrokerProcessControl.control BrokerLink.generation

namespace BrokerRuntime

/-- The runtime owns the child of its generation. -/
structure Owned (runtime : BrokerRuntime) : Prop where
  attached : runtime.attached = true
  generation : runtime.generation = some runtime.control.runtimeGeneration

/-- The broker has served `served` sections and still knows the session. -/
structure Watching (timing : ChildTiming) (served : Nat)
    (runtime : BrokerRuntime) : Prop where
  unreaped : runtime.control.reaped = none
  authoritative : runtime.control.recoveryOnly = false
  serving : runtime.control.broker.Serving
  timing : runtime.control.broker.timing = timing
  served : runtime.control.broker.served = served

/-- The runtime after `served` polls: the client watches the session until
the broker has handled its end, and is quarantined afterwards. -/
structure Polled (timing : ChildTiming) (served : Nat)
    (runtime : BrokerRuntime) : Prop where
  owned : Owned runtime
  phase : (served ≤ timing.forgottenAt ∧ Watching timing served runtime) ∨
    (timing.forgottenAt < served ∧ runtime.control.Quarantined)

variable {timing : ChildTiming} {served : Nat} {runtime : BrokerRuntime}

theorem pollExited_quarantined (quarantined : runtime.control.Quarantined) :
    runtime.pollExited brokerControl = (runtime, false) := by
  have refused := quarantined.tryWaitStatus_eq BrokerLink.generation
  simp [Runtime.pollExited, brokerControl, TunnelBrokerProcessControl.control,
    refused]

theorem Watching.tryWaitStatus_early (watching : Watching timing served runtime)
    (early : served < timing.forgottenAt) :
    brokerControl.tryWaitStatus runtime.control =
      ({ runtime.control with broker := runtime.control.broker.advance }, .ok
        none) := by
  have answered : runtime.control.broker.status = _ :=
    watching.serving.status_eq
      (by rw [watching.served, watching.timing]; exact early)
  simp [brokerControl, TunnelBrokerProcessControl.control,
    tryWaitStatus, watching.unreaped,
    watching.authoritative, BrokerLink.generation, answered]

theorem Watching.tryWaitStatus_late (watching : Watching timing served runtime)
    (late : timing.forgottenAt ≤ served) :
    brokerControl.tryWaitStatus runtime.control =
      ({ runtime.control with
          broker := runtime.control.broker.advance
          recoveryOnly := true },
        .error staleGenerationIoError) := by
  have answered : runtime.control.broker.status = _ :=
    watching.serving.status_forgotten
      (by rw [watching.served, watching.timing]; exact late)
  simp [brokerControl, TunnelBrokerProcessControl.control,
    tryWaitStatus, watching.unreaped,
    watching.authoritative, BrokerLink.generation, answered,
    enterRecoveryOnly]

private theorem awaitExit_quarantined (polls : Nat)
    (quarantined : runtime.control.Quarantined) :
    runtime.awaitExit brokerControl polls =
      (runtime, .error .sidecarUnavailable) := by
  induction polls with
  | zero => simp [Runtime.awaitExit, pollExited_quarantined quarantined]
  | succ polls ih =>
    unfold Runtime.awaitExit
    simp [pollExited_quarantined quarantined, ih]

private theorem awaitExit_reaped (polls : Nat) {success : Bool}
    (reaped : runtime.control.reaped = some success) :
    (runtime.awaitExit brokerControl polls).2 = .ok () := by
  unfold Runtime.awaitExit
  simp [Runtime.pollExited, brokerControl, TunnelBrokerProcessControl.control,
    tryWaitStatus, reaped]

section

variable (polled : Polled timing served runtime)
include polled

/-- A poll never observes an exit: the broker answers running or stale. -/
theorem Polled.poll :
    (runtime.pollExited brokerControl).2 = false ∧
      Polled timing (served + 1) (runtime.pollExited brokerControl).1 := by
  obtain ⟨⟨attached, generation⟩, phase⟩ := polled
  rcases phase with ⟨-, watching⟩ | ⟨late, quarantined⟩
  · by_cases early : served < timing.forgottenAt
    · have answered := watching.tryWaitStatus_early early
      have serving := watching.serving.advance
        (by rw [watching.served, watching.timing]; exact early)
      simp only [Runtime.pollExited, answered]
      refine ⟨trivial, ⟨attached, generation⟩, .inl ⟨early, ?_⟩⟩
      refine ⟨watching.unreaped, watching.authoritative, serving,
        watching.timing, ?_⟩
      change runtime.control.broker.served + 1 = served + 1
      rw [watching.served]
    · have late := Nat.le_of_not_lt early
      simp only [Runtime.pollExited, watching.tryWaitStatus_late late]
      exact ⟨trivial, ⟨attached, generation⟩,
        .inr ⟨Nat.lt_succ_of_le late, watching.unreaped, rfl⟩⟩
  · rw [pollExited_quarantined quarantined]
    exact ⟨rfl, ⟨attached, generation⟩,
      .inr ⟨Nat.lt_succ_of_lt late, quarantined⟩⟩

theorem Polled.awaitGraceful (polls : Nat) :
    (runtime.awaitGraceful brokerControl polls).2 = false ∧
      Polled timing (served + polls)
        (runtime.awaitGraceful brokerControl polls).1 := by
  induction polls generalizing served runtime with
  | zero => exact ⟨rfl, polled⟩
  | succ polls ih =>
    obtain ⟨running, next⟩ := polled.poll
    have rest := ih next
    simp only [Runtime.awaitGraceful, running, Bool.false_eq_true, if_false]
    rw [show served + (polls + 1) = served + 1 + polls by omega]
    exact rest

theorem Polled.killOwned_early (early : served < timing.forgottenAt) :
    (brokerControl.killOwned runtime.control).1.reaped = some true := by
  rcases polled.phase with ⟨-, watching⟩ | ⟨late, -⟩
  · have answered := watching.serving.stop_eq
      (by rw [watching.served, watching.timing]; exact early)
    simp [brokerControl, TunnelBrokerProcessControl.control,
      killOwned, watching.unreaped,
      watching.authoritative, BrokerLink.generation, answered]
  · omega

theorem Polled.killOwned_late (late : timing.forgottenAt ≤ served) :
    (brokerControl.killOwned runtime.control).1.Quarantined := by
  rcases polled.phase with ⟨-, watching⟩ | ⟨-, quarantined⟩
  · obtain ⟨state, answered⟩ := watching.serving.stop_forgotten
      (by rw [watching.served, watching.timing]; exact late)
    constructor <;>
      simp [brokerControl, TunnelBrokerProcessControl.control,
        killOwned, watching.unreaped,
        watching.authoritative, BrokerLink.generation, answered,
        enterRecoveryOnly]
  · have refused := quarantined.killOwned_eq BrokerLink.generation
    simp only [brokerControl, TunnelBrokerProcessControl.control, refused]
    exact quarantined

theorem Polled.terminateChildHandle (killPolls : Nat) :
    (runtime.terminateChildHandle brokerControl killPolls).2 =
      if served + 1 < timing.forgottenAt then .ok ()
      else .error .sidecarUnavailable := by
  obtain ⟨running, next⟩ := polled.poll
  simp only [Runtime.terminateChildHandle, polled.owned.attached, running,
    Bool.not_true, Bool.false_eq_true, if_false]
  split
  · next early =>
    exact awaitExit_reaped killPolls (next.killOwned_early early)
  · next late =>
    rw [awaitExit_quarantined killPolls
      (next.killOwned_late (Nat.le_of_not_lt late))]

theorem Polled.terminateChild (killPolls : Nat)
    (cancelPrepared : Except NetworkErrorCode Unit) :
    (runtime.terminateChild brokerControl killPolls cancelPrepared).2 =
      if served + 1 < timing.forgottenAt then .ok ()
      else .error .sidecarUnavailable := by
  have handled := polled.terminateChildHandle killPolls
  have same : brokerControl.generation runtime.control =
      runtime.control.runtimeGeneration := rfl
  simp only [Runtime.terminateChild, polled.owned.generation,
    polled.owned.attached, same, Bool.not_true, Bool.false_eq_true,
    ne_eq, not_true_eq_false, if_false]
  split <;> simp_all

end

/-- The client is attached to a running, unheld session that the broker
serves, and the sidecar has just acknowledged the shutdown. -/
structure Acknowledged (timing : ChildTiming) (runtime : BrokerRuntime) :
    Prop where
  owned : Owned runtime
  watching : Watching timing 0 runtime

/-- After an acknowledged shutdown, `stop` succeeds exactly when the broker
handles the sidecar's exit after the first section of its own stop: that is
after the `polls` graceful polls, the poll of the termination and the kill. -/
theorem stop_eq_ok_iff (requestPolls polls killPolls : Nat)
    (cancelPrepared : Except NetworkErrorCode Unit)
    (acknowledged : Acknowledged timing runtime) :
    (runtime.stop brokerControl true requestPolls polls killPolls
          cancelPrepared).2 = .ok () ↔
      polls + 1 < timing.forgottenAt := by
  have start : Polled timing 0 runtime :=
    ⟨acknowledged.owned, .inl ⟨Nat.zero_le _, acknowledged.watching⟩⟩
  obtain ⟨running, polled⟩ := start.awaitGraceful polls
  have ended := polled.terminateChild killPolls cancelPrepared
  simp only [Runtime.stop, acknowledged.owned.attached, running,
    Bool.not_true, Bool.false_eq_true, if_false, if_true]
  rw [ended]
  split <;> simp_all

/-! ## Both sides of the condition -/

/-- The runtime of a session that the broker has just started. -/
def exampleRuntime (timing : ChildTiming) : BrokerRuntime where
  control :=
    { runtimeGeneration := 1
      broker :=
        { app := 0
          session := exampleReference
          reference := some exampleReference
          world := runningWorld
          timing := timing
          served := 0 }
      reaped := none
      recoveryOnly := false }
  attached := true
  generation := some 1

theorem exampleRuntime_acknowledged (timing : ChildTiming) :
    Acknowledged timing (exampleRuntime timing) := by
  have valid : exampleReference.isValid = true := by decide
  have alive : exampleReference ∈ runningWorld.alive := by decide
  have unnoticed : exampleReference ∉ runningWorld.notices := by decide
  have serving : (exampleRuntime timing).control.broker.Serving := by
    refine ⟨rfl, valid, ⟨_, rfl, rfl, rfl, rfl⟩, .inl alive, ?_⟩
    intro noticed
    exact absurd noticed unnoticed
  exact ⟨⟨rfl, rfl⟩, rfl, rfl, serving, rfl, rfl⟩

theorem stop_before_notice_is_ok :
    ((exampleRuntime ⟨1, 5⟩).stop brokerControl true 2 3 2 (.ok ())).2 =
      .ok () := by
  apply (stop_eq_ok_iff 2 3 2 (.ok ()) (exampleRuntime_acknowledged ⟨1, 5⟩)).mpr
  decide

/-- The broker handles the exit between two status polls: its stale reply
quarantines the client and `stop` fails. -/
theorem stop_after_notice_fails :
    Transition.Reaches World.next (fun _ _ => True) .initial runningWorld ∧
      Acknowledged ⟨1, 2⟩ (exampleRuntime ⟨1, 2⟩) ∧
      ((exampleRuntime ⟨1, 2⟩).stop brokerControl true 2 3 2 (.ok ())).2 =
        .error .sidecarUnavailable := by
  refine ⟨?_, exampleRuntime_acknowledged _, by decide +kernel⟩
  exact Transition.reaches_of_run .start [.start 0 exampleInstance .launched]
    (fun _ _ _ => trivial) (by decide)

end BrokerRuntime

end KyClash.StdioRuntime
