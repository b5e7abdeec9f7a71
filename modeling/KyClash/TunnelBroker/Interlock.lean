import KyClash.TunnelBroker.Sessions

/-!
# The route interlock of the tunnel broker

The interlock says that a held session's child is never terminated, that no
hold is granted on a session whose stop or invalidation has ever started to
reap, and that a stop that answers idle leaves no session behind.  A hold
breaks it when it is handled while such a reap is under way, or after one
whose bounded wait has run out; nothing else does.
-/

namespace KyClash.TunnelBroker

open Transition

/-- The session whose child a stop or an invalidation reaps. -/
def Pending.stops : Pending → Option TunnelReference
  | .reaping .stop reference => some reference
  | .reaping .appInvalidated reference => some reference
  | _ => none

theorem Pending.reaping_of_stops {reference : TunnelReference}
    (operation : Pending) (stops : operation.stops = some reference) :
    ∃ cause, operation = .reaping cause reference := by
  unfold Pending.stops at stops
  split at stops <;> cases stops <;> exact ⟨_, rfl⟩

/-- The session that a request to hold names. -/
def Event.holds : Event → Option TunnelReference
  | .hold binding => some binding.reference
  | .holdV3 binding _ => some binding.session
  | _ => none

/-- What the first section of a reaping operation has left in the lease. -/
def Cause.Marks (lease : SessionLeaseState) : Cause → Prop
  | .stop => True
  | .appInvalidated => lease.appConnected = false
  | .release => lease.hasReleased = true
  | .releaseV3 _ => lease.hasReleased = true

theorem Cause.Marks.quiet {cause : Cause} {lease after : SessionLeaseState}
    (marks : cause.Marks lease) (quiet : lease.Quiet after) :
    cause.Marks after := by
  cases cause with
  | stop => trivial
  | appInvalidated => exact quiet.disconnected marks
  | release | releaseV3 => exact quiet.released marks

namespace World

def Held (world : World) (reference : TunnelReference) : Prop :=
  ∃ lease, world.broker.active = some lease ∧
    lease.reference = reference ∧ lease.hasRouteHold = true

/-- A stop or an invalidation of the session is between its two sections. -/
def Reaping (world : World) (reference : TunnelReference) : Prop :=
  ∃ operation ∈ world.pending, operation.stops = some reference

/-- The stop or invalidation whose bounded wait runs out in this step. -/
def givenUp (world : World) : Event → List TunnelReference
  | .resume index =>
    ((world.pending[index]?.bind Pending.stops).filter
      (· ∈ world.alive)).toList
  | _ => []

end World

/-- The world with the sessions whose stop or invalidation has ever started to
reap, and those for which one has ended with the child alive. -/
structure Traced where
  world : World
  started : List TunnelReference
  failed : List TunnelReference
  deriving DecidableEq, Repr

namespace Traced

def initial : Traced := ⟨.initial, [], []⟩

/-- The history after a step to this world. -/
def advance (traced : Traced) (event : Event) (after : World) : Traced where
  world := after
  started := traced.started ++
    (after.pending.drop traced.world.pending.length).filterMap Pending.stops
  failed := traced.failed ++ traced.world.givenUp event

def next (traced : Traced) (event : Event) : Option Traced :=
  (traced.world.next event).map (traced.advance event)

/-- A stop or an invalidation of the session is reaping, or has given up. -/
def Unfinished (traced : Traced) (reference : TunnelReference) : Prop :=
  traced.world.Reaping reference ∨ reference ∈ traced.failed

/-- What the interlock asks of one step. -/
structure Interlocked (traced : Traced) (event : Event) (after : World)
    (reply : Option Reply) : Prop where
  unterminated : ∀ index cause reference, event = .terminate index →
    traced.world.pending[index]? = some (.reaping cause reference) →
    ¬ traced.world.Held reference
  ungranted : ∀ binding, event = .hold binding →
    reply = some (.broker ⟨.routeHeld, none⟩) →
    binding.reference ∉ traced.started
  ungrantedV3 : ∀ binding now, event = .holdV3 binding now →
    reply = some (.routeV3 ⟨binding, .routeHeld, none⟩) →
    binding.session ∉ traced.started
  vacated : ∀ index reference, event = .resume index →
    traced.world.pending[index]? = some (.reaping .stop reference) →
    reply = some (.broker ⟨.idle, none⟩) → ¬ after.Runs reference

/-- No request to hold a session is handled while a stop or an invalidation
of that session is reaping, or after one that has given up. -/
def HoldsWait (traced : Traced) (event : Event) : Prop :=
  ∀ session, event.holds = some session → ¬ traced.Unfinished session

end Traced

namespace World

/-- The invariant behind the interlock.  Generations are never reused, so a
pending reap can only meet the session it was started for. -/
structure Guarded (world : World) : Prop where
  active : ∀ lease, world.broker.active = some lease →
    lease.Sound ∧ lease.reference.generation < world.broker.nextGeneration
  reaped : ∀ cause reference, .reaping cause reference ∈ world.pending →
    reference.generation < world.broker.nextGeneration ∧
      ∀ lease, world.broker.active = some lease → lease.reference = reference →
        lease.hasRouteHold = false ∧ cause.Marks lease

private theorem initial_guarded : initial.Guarded := by
  constructor
  · intro lease found
    cases found
  · intro cause reference member
    cases member

variable {world : World} {broker : Broker} {cause : Cause}

theorem Guarded.quiet {pending : List Pending} (guarded : world.Guarded)
    (quiet : world.broker.Quiet broker) (fewer : pending ⊆ world.pending)
    (alive notices : List TunnelReference) :
    Guarded { broker, alive, notices, pending } := by
  constructor
  · intro lease found
    obtain ⟨old, wasActive, same⟩ := quiet.active lease found
    obtain ⟨sound, generation⟩ := guarded.active old wasActive
    rw [quiet.generation, same.reference]
    exact ⟨same.sound sound, generation⟩
  · intro cause reference member
    obtain ⟨generation, unheld⟩ := guarded.reaped cause reference (fewer member)
    refine ⟨quiet.generation ▸ generation, ?_⟩
    intro lease found named
    obtain ⟨old, wasActive, same⟩ := quiet.active lease found
    obtain ⟨noHold, marks⟩ := unheld old wasActive (same.reference ▸ named)
    refine ⟨?_, marks.quiet same⟩
    by_contra held
    have wasHeld := same.hold (by simpa using held)
    simp [noHold] at wasHeld

section

variable (guarded : world.Guarded)
include guarded

theorem Guarded.push {lease : SessionLeaseState}
    (found : world.broker.active = some lease)
    (unheld : lease.hasRouteHold = false) (marks : cause.Marks lease) :
    Guarded { world with
      pending := world.pending ++ [.reaping cause lease.reference] } := by
  refine ⟨guarded.active, ?_⟩
  intro other reference member
  rcases List.mem_append.mp member with old | new
  · exact guarded.reaped other reference old
  · cases List.mem_singleton.mp new
    refine ⟨(guarded.active lease found).2, ?_⟩
    intro current same _
    have equal : lease = current := Option.some.inj (found.symm.trans same)
    exact equal ▸ ⟨unheld, marks⟩

theorem Guarded.refuse (error : BrokerErrorCode)
    (binding : Option TunnelRouteBindingV3) :
    Guarded { world with
      pending := world.pending ++ [.refused error binding] } := by
  refine ⟨guarded.active, ?_⟩
  intro cause reference member
  rcases List.mem_append.mp member with old | new
  · exact guarded.reaped cause reference old
  · cases List.mem_singleton.mp new

theorem Guarded.grant {session : TunnelReference}
    (granted : world.broker.Granted broker session)
    (waits : ¬world.Reaping session) : Guarded { world with broker } := by
  obtain ⟨old, lease, wasActive, isActive, oldNamed, named, fresh, sound⟩ :=
    granted.active
  obtain ⟨wasSound, generation⟩ := guarded.active old wasActive
  constructor
  · intro current found
    cases Option.some.inj (isActive.symm.trans found)
    rw [granted.generation, named, ← oldNamed]
    exact ⟨sound wasSound, generation⟩
  · intro cause reference member
    obtain ⟨older, unheld⟩ := guarded.reaped cause reference member
    refine ⟨granted.generation ▸ older, ?_⟩
    intro current found same
    exfalso
    cases Option.some.inj (isActive.symm.trans found)
    have isSession : session = reference := named.symm.trans same
    obtain ⟨noHold, marks⟩ := unheld old wasActive (oldNamed.trans isSession)
    -- The reap is neither a stop nor an invalidation, so it follows a
    -- release, after which no hold is granted.
    cases cause with
    | stop | appInvalidated => exact waits ⟨_, member, isSession ▸ rfl⟩
    | release | releaseV3 =>
      have released : old.hasReleased = true := marks
      simp [released, noHold] at fresh

theorem Guarded.started (app : ConnectionID)
    (sidecarInstanceID : Identifier) (launch : Launch)
    (alive : List TunnelReference) :
    Guarded { world with
      broker := (world.broker.start app sidecarInstanceID launch).1
      alive := alive } := by
  rcases world.broker.start_cases app sidecarInstanceID launch with
    same | ⟨available, advanced, fresh⟩
  · rw [same]
    exact ⟨guarded.active, guarded.reaped⟩
  · have later := Broker.lt_next_generation available
    constructor
    · intro lease found
      obtain ⟨reference, rfl, generation⟩ := fresh lease found
      refine ⟨SessionLeaseState.new_sound _ _, ?_⟩
      change reference.generation < _
      rw [generation]
      exact advanced ▸ later
    · intro cause reference member
      have older := (guarded.reaped cause reference member).1
      refine ⟨?_, ?_⟩
      · exact UInt64.lt_trans older (advanced ▸ later)
      · intro lease found same
        obtain ⟨newReference, rfl, generation⟩ := fresh lease found
        have clash : newReference = reference := same
        rw [← clash, generation] at older
        exact (UInt64.lt_irrefl _ older).elim

end

theorem Guarded.afterSection (guarded : Guarded { world with broker })
    (wrap : reply → Reply) (binding : Option TunnelRouteBindingV3)
    (decision : Section reply)
    (reaps : ∀ child, decision = .reap child →
      ∃ lease, broker.active = some lease ∧ child = lease.reference ∧
        lease.hasRouteHold = false ∧ cause.Marks lease) :
    (world.afterSection broker cause wrap binding decision).1.Guarded := by
  cases decision with
  | refused error => exact guarded.refuse error binding
  | reply value => exact guarded
  | reap child =>
    obtain ⟨lease, found, rfl, unheld, marks⟩ := reaps child rfl
    exact guarded.push found unheld marks

theorem Guarded.released {outcome : Broker × Section reply}
    (guarded : world.Guarded) (released : world.broker.Released outcome)
    (marks : ∀ lease : SessionLeaseState, lease.hasReleased = true →
      cause.Marks lease)
    (wrap : reply → Reply) (binding : Option TunnelRouteBindingV3) :
    (world.afterSection outcome.1 cause wrap binding outcome.2).1.Guarded := by
  have kept : Guarded { world with broker := outcome.1 } :=
    guarded.quiet released.quiet (List.Subset.refl _) _ _
  refine kept.afterSection _ _ _ ?_
  intro child reaps
  obtain ⟨lease, found, same, gone⟩ := released.reaps child reaps
  exact ⟨lease, found, same, (kept.active lease found).1.final gone,
    marks lease gone⟩

variable {reply : Option Reply} {after : World} {reference : TunnelReference}
  {index : Nat}

theorem Guarded.resumed (guarded : world.Guarded)
    (taken : world.resume index = some (after, reply)) : after.Guarded := by
  unfold resume at taken
  have fewer : world.pending.eraseIdx index ⊆ world.pending :=
    (List.eraseIdx_sublist _ _).subset
  split at taken
  · cases taken
  · next operation found =>
    cases operation with
    | refused error binding =>
      cases binding with
      | none | some =>
        cases taken
        exact guarded.quiet (.refl _) fewer _ _
    | reaping cause reference =>
      dsimp only at taken
      split at taken
      · cases taken
        exact guarded.quiet (.refl _) fewer _ _
      · cases taken
        exact guarded.quiet (reaped_quiet _ _ _) fewer _ _

theorem Guarded.step {event : Event} (guarded : world.Guarded)
    (waits : ∀ session, event.holds = some session → ¬ world.Reaping session)
    (taken : world.step event = some (after, reply)) : after.Guarded := by
  have all := List.Subset.refl world.pending
  cases event with
  | start app sidecarInstanceID launch =>
    cases taken
    exact guarded.started app sidecarInstanceID launch _
  | stop app reference =>
    obtain rfl : _ = after := congrArg Prod.fst (Option.some.inj taken)
    refine Guarded.afterSection guarded _ _ _ ?_
    intro child reaps
    obtain ⟨lease, found, same, unheld⟩ := Broker.stop_reap reaps
    exact ⟨lease, found, same, unheld, trivial⟩
  | appStatus | routeStatus =>
    cases taken
    exact guarded
  | appInvalidated app =>
    obtain ⟨quiet, reaped⟩ := world.broker.appInvalidated_spec app
    have kept : Guarded
        { world with broker := (world.broker.appInvalidated app).1 } :=
      guarded.quiet quiet all _ _
    simp only [World.step] at taken
    split at taken
    · cases taken
      exact kept
    · next child reaps =>
      cases taken
      obtain ⟨lease, found, rfl, unheld, gone⟩ := reaped child reaps
      exact kept.push found unheld gone
  | hold binding =>
    cases taken
    rcases world.broker.hold_cases binding with ⟨same, -⟩ | granted
    · rw [same]
      exact guarded
    · exact guarded.grant granted (waits _ rfl)
  | release binding =>
    obtain rfl : _ = after := congrArg Prod.fst (Option.some.inj taken)
    refine guarded.released (world.broker.release_released binding) ?_ _ _
    exact fun _ released => released
  | holdV3 binding now =>
    cases taken
    rcases world.broker.holdV3_cases binding now with ⟨same, -⟩ | granted
    · rw [same]
      exact guarded
    · exact guarded.grant granted (waits _ rfl)
  | releaseV3 binding =>
    obtain rfl : _ = after := congrArg Prod.fst (Option.some.inj taken)
    refine guarded.released (world.broker.releaseV3_released binding) ?_ _ _
    exact fun _ released => released
  | routeStatusV3 binding now =>
    cases taken
    exact guarded.quiet (world.broker.routeStatusV3_quiet binding now) all _ _
  | watchdogTick now =>
    cases taken
    exact guarded.quiet (world.broker.heartbeatWatchdogTick_quiet now) all _ _
  | terminate index =>
    simp only [World.step] at taken
    split at taken
    · split at taken
      · cases taken
        exact guarded
      · cases taken
    · cases taken
  | resume index => exact guarded.resumed taken
  | childExit reference =>
    obtain ⟨-, ⟨⟩⟩ := Option.ite_none_right_eq_some.mp taken
    exact ⟨guarded.active, guarded.reaped⟩
  | childExited reference =>
    obtain ⟨-, ⟨⟩⟩ := Option.ite_none_right_eq_some.mp taken
    exact guarded.quiet (world.broker.childExited_quiet reference) all _ _

theorem Guarded.not_held (guarded : world.Guarded)
    (member : .reaping cause reference ∈ world.pending) :
    ¬world.Held reference := by
  rintro ⟨lease, found, named, held⟩
  have unheld := ((guarded.reaped cause reference member).2 lease found named).1
  simp [unheld] at held

/-- A stop or an invalidation that finds its child gone forgets the session,
unless a hold came in between. -/
theorem Guarded.reaped_vacates (guarded : world.Guarded)
    (member : .reaping cause reference ∈ world.pending)
    (stops : (Pending.reaping cause reference).stops = some reference) :
    ∀ lease, (World.reaped world.broker reference cause).1.active = some lease →
      lease.reference ≠ reference := by
  intro lease found same
  obtain ⟨-, unheld⟩ := guarded.reaped cause reference member
  cases active : world.broker.active with
  | none =>
    cases cause <;> simp [World.reaped, Broker.stopReaped,
      Broker.disconnectedReaped, Pending.stops, active] at found stops
  | some old =>
    cases cause with
    | release | releaseV3 => cases stops
    | stop =>
      simp only [World.reaped, Broker.stopReaped, active] at found
      split at found
      · cases found
      · next kept =>
        cases active.symm.trans found
        simp [same, (unheld lease active same).1] at kept
    | appInvalidated =>
      simp only [World.reaped, Broker.disconnectedReaped, active] at found
      split at found
      · cases found
      · next kept =>
        cases active.symm.trans found
        obtain ⟨noHold, gone⟩ := unheld lease active same
        have gone : lease.appConnected = false := gone
        simp [same, noHold, gone] at kept

theorem Guarded.resume_vacates (guarded : world.Guarded)
    (found : world.pending[index]? = some (.reaping cause reference))
    (stops : (Pending.reaping cause reference).stops = some reference)
    (gone : reference ∉ world.alive)
    (taken : world.resume index = some (after, reply)) :
    ¬ after.Runs reference := by
  simp only [resume, found, if_neg gone] at taken
  cases taken
  rintro ⟨lease, active, same⟩
  exact guarded.reaped_vacates (List.mem_of_getElem? found) stops lease active
    same

/-- Only the end of an operation takes it out of `pending`. -/
theorem pending_step {event : Event}
    (taken : world.step event = some (after, reply)) :
    (∃ index, event = .resume index ∧
        after.pending = world.pending.eraseIdx index) ∨
      world.pending <+: after.pending := by
  cases event with
  | resume index =>
    refine .inl ⟨index, rfl, ?_⟩
    simp only [step, resume] at taken
    split at taken
    · cases taken
    split at taken
    · cases taken
      rfl
    · cases taken
      rfl
    split at taken
    all_goals
      cases taken
      rfl
  | stop | release | releaseV3 =>
    obtain rfl : _ = after := congrArg Prod.fst (Option.some.inj taken)
    refine .inr ?_
    unfold afterSection
    split <;> simp
  | appInvalidated =>
    refine .inr ?_
    simp only [step] at taken
    split at taken <;> cases taken <;> simp
  | terminate =>
    refine .inr ?_
    simp only [step] at taken
    split at taken
    · obtain ⟨-, ⟨⟩⟩ := Option.ite_none_right_eq_some.mp taken
      exact List.prefix_rfl
    · cases taken
  | childExit | childExited =>
    obtain ⟨-, ⟨⟩⟩ := Option.ite_none_right_eq_some.mp taken
    exact .inr List.prefix_rfl
  | _ =>
    cases taken
    exact .inr List.prefix_rfl

end World

namespace Traced

variable {traced : Traced} {event : Event} {after : World}
  {reply : Option Reply} {reference : TunnelReference}

/-- A session whose stop has started to reap is gone, or its stop is
unfinished. -/
structure Kept (traced : Traced) : Prop where
  guarded : traced.world.Guarded
  fate : ∀ reference ∈ traced.started, traced.world.Past reference ∧
    (traced.Unfinished reference ∨ ¬ traced.world.Runs reference)

section

variable (kept : traced.Kept)
  (taken : traced.world.step event = some (after, reply))
include kept taken

theorem Kept.unfinished (unfinished : traced.Unfinished reference) :
    (traced.advance event after).Unfinished reference ∨
      ¬ after.Runs reference := by
  rcases unfinished with ⟨operation, member, stops⟩ | failed
  · rcases World.pending_step taken with ⟨index, rfl, left⟩ | grows
    · obtain ⟨place, found⟩ := List.getElem?_of_mem member
      by_cases ending : place = index
      · subst place
        obtain ⟨cause, rfl⟩ := operation.reaping_of_stops stops
        by_cases alive : reference ∈ traced.world.alive
        · refine .inl (.inr (List.mem_append_right _ ?_))
          simp [World.givenUp, found, stops, alive]
        · exact .inr (kept.guarded.resume_vacates found stops alive taken)
      · refine .inl (.inl ⟨operation, ?_, stops⟩)
        change operation ∈ after.pending
        rw [left, List.mem_eraseIdx_iff_getElem?]
        exact ⟨place, ending, found⟩
    · exact .inl (.inl ⟨operation, grows.subset member, stops⟩)
  · exact .inl (.inr (List.mem_append_left _ failed))

theorem Kept.step (waits : traced.HoldsWait event) :
    (traced.advance event after).Kept := by
  have guarded : after.Guarded :=
    kept.guarded.step (fun session named reaping =>
      waits session named (.inl reaping)) taken
  refine ⟨guarded, ?_⟩
  intro reference member
  rcases List.mem_append.mp member with older | new
  · obtain ⟨past, fate⟩ := kept.fate reference older
    obtain ⟨still, gone⟩ := World.Past.step past taken
    exact ⟨still, fate.elim (kept.unfinished taken) fun absent =>
      .inr (gone absent)⟩
  · obtain ⟨operation, pushed, stops⟩ := List.mem_filterMap.mp new
    have pending := List.mem_of_mem_drop pushed
    obtain ⟨cause, rfl⟩ := operation.reaping_of_stops stops
    exact ⟨(guarded.reaped cause reference pending).1,
      .inl (.inl ⟨_, pending, stops⟩)⟩

end

private theorem reaches_kept
    (reached : Reaches next HoldsWait .initial traced) : traced.Kept := by
  refine reached.invariant ⟨World.initial_guarded, nofun⟩ ?_
  intro before event later kept waits taken
  obtain ⟨world, moved, rfl⟩ := Option.map_eq_some_iff.mp taken
  obtain ⟨⟨_, reply⟩, stepped, rfl⟩ := Option.map_eq_some_iff.mp moved
  exact kept.step stepped waits

/-- A session that is granted a hold is active. -/
theorem Kept.ungranted {session : TunnelReference} {broker : Broker}
    (kept : traced.Kept) (waits : ¬ traced.Unfinished session)
    (granted : traced.world.broker.Granted broker session) :
    session ∉ traced.started := by
  intro member
  obtain ⟨old, -, active, -, named, -⟩ := granted.active
  rcases (kept.fate session member).2 with unfinished | absent
  · exact waits unfinished
  · exact absent ⟨old, active, named⟩

end Traced

open Traced

/-- In every run in which no hold request is handled while a stop or an
invalidation of its session is reaping, or after one that has given up, every
step keeps the interlock. -/
theorem route_interlock_of_waiting_holds {traced : Traced} {after : World}
    {event : Event} {reply : Option Reply}
    (reached : Reaches Traced.next HoldsWait .initial traced)
    (waits : traced.HoldsWait event)
    (taken : traced.world.step event = some (after, reply)) :
    Interlocked traced event after reply := by
  have kept := reaches_kept reached
  constructor
  · intro index cause reference _ reaping
    exact kept.guarded.not_held (List.mem_of_getElem? reaping)
  · rintro binding rfl rfl
    obtain ⟨-, replied⟩ := Prod.mk.inj (Option.some.inj taken)
    rcases traced.world.broker.hold_cases binding with ⟨-, refused⟩ | granted
    · exact absurd (congrArg (·.errorCode) (Reply.broker.inj
        (Option.some.inj replied))) refused
    · exact kept.ungranted (waits _ rfl) granted
  · rintro binding now rfl rfl
    obtain ⟨-, replied⟩ := Prod.mk.inj (Option.some.inj taken)
    rcases traced.world.broker.holdV3_cases binding now with
      ⟨-, refused⟩ | granted
    · exact absurd (congrArg (·.errorCode) (Reply.routeV3.inj
        (Option.some.inj replied))) refused
    · exact kept.ungranted (waits _ rfl) granted
  · rintro index reference rfl stopping rfl
    have gone : reference ∉ traced.world.alive := by
      intro alive
      simp [World.step, World.resume, stopping, alive,
        World.reapFailed] at taken
    exact kept.guarded.resume_vacates stopping rfl gone taken

/-! ## A hold between the two sections of a stop -/

def exampleBinding : TunnelRouteBindingV3 where
  protocolVersion := routeHelperV3ProtocolVersion
  brokerProtocolVersion := routeBrokerProtocolVersion
  brokerGeneration := 1
  sidecarInstanceID := exampleInstance
  routeLeaseID := List.replicate 8 0x62
  operationID := List.replicate 8 0x63

def runningTraced : Traced := ⟨runningWorld, [], []⟩

def stoppingTraced : Traced := ⟨stoppingWorld, [exampleReference], []⟩

def startAndStop : List Event :=
  [.start 0 exampleInstance .launched, .stop 0 exampleReference]

/-- A hold is granted before the stop, and the stop signals the child of a
session without a hold. -/
theorem held_or_stopped_session_is_interlocked :
    (∃ held,
        runningWorld.step (.holdV3 exampleBinding 0) =
            some (held, some (.routeV3 ⟨exampleBinding, .routeHeld, none⟩)) ∧
          exampleBinding.session ∉ runningTraced.started) ∧
      stoppingWorld.step (.terminate 0) = some (stoppingWorld, none) ∧
      ¬ stoppingWorld.Held exampleReference := by
  have waits : ∀ event ∈ startAndStop, ∀ traced : Traced,
      traced.HoldsWait event := by
    intro event member traced session named
    simp only [startAndStop, List.mem_cons, List.not_mem_nil,
      or_false] at member
    rcases member with rfl | rfl <;> cases named
  have running : Reaches Traced.next HoldsWait .initial runningTraced :=
    .next .start (waits _ List.mem_cons_self _) rfl
  have stopping : Reaches Traced.next HoldsWait .initial stoppingTraced :=
    reaches_of_run .start startAndStop waits (by decide)
  have unfinished : runningTraced.HoldsWait (.holdV3 exampleBinding 0) := by
    rintro session - (⟨operation, member, -⟩ | failed)
    · cases member
    · cases failed
  refine ⟨⟨_, rfl, ?_⟩, by decide, ?_⟩
  · exact (route_interlock_of_waiting_holds running unfinished rfl).ungrantedV3
      exampleBinding 0 rfl rfl
  · have taken : stoppingTraced.world.step (.terminate 0) =
        some (stoppingWorld, none) := by
      decide
    have waits : stoppingTraced.HoldsWait (.terminate 0) := by
      rintro session ⟨⟩
    exact (route_interlock_of_waiting_holds stopping waits taken).unterminated
      0 .stop exampleReference rfl (by decide)

/-- The broker grants the hold, signals the held session's child, and the
stop answers idle while the held session is still active. -/
theorem hold_races_stop :
    Reaches Traced.next (fun _ _ => True) .initial stoppingTraced ∧
      exampleBinding.session ∈ stoppingTraced.started ∧
      ∃ held exited after,
        stoppingWorld.step (.holdV3 exampleBinding 0) =
            some (held, some (.routeV3 ⟨exampleBinding, .routeHeld, none⟩)) ∧
          held.Held exampleReference ∧
          held.pending[0]? = some (.reaping .stop exampleReference) ∧
          held.step (.terminate 0) = some (held, none) ∧
          held.step (.childExit exampleReference) = some (exited, none) ∧
          exited.step (.resume 0) = some (after, some (.broker ⟨.idle, none⟩)) ∧
          after.Held exampleReference := by
  refine ⟨?_, by decide, _, _, _, rfl, ⟨_, rfl, by decide, by decide⟩,
    by decide, by decide, rfl, rfl, ⟨_, rfl, by decide, by decide⟩⟩
  exact reaches_of_run .start startAndStop (fun _ _ _ => trivial) (by decide)

end KyClash.TunnelBroker
