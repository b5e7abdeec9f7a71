import KyClash.Networking.RouteBoundary
import KyClash.RouteHelper.KnownLeases
import KyClash.RouteHelper.OwnerAgreement

/-!
# Runs of the route boundary with the route helper

One boundary of the application talks to the v3 helper over connections that
may be lost at any time.  The helper serves other requests too: those whose
reply is lost, those of earlier connections and the ticks of its watchdog.  It
may crash during a request, and power may fail.

An operation that was never begun at the helper can be rolled back exactly
when the helper holds no journal.  A journal of an earlier lease makes the
helper refuse the rollback, and the bridge takes the refusal for a protocol
failure.
-/

namespace KyClash.Networking

open Transition
open Program TunnelBroker
open Profile (Libraries)
open RouteHelper (Fortune HelperReplyV3 LeaseOwnerV3 LeaseReferenceV3 Memory
  Operation Request RouteRules World exampleRules leaseOwnerV3 loaded
  reconcileStartup register
  startupConnectionID v3OwnershipFailure OfLease)

namespace ClientRequest

variable (rules : RouteRules)

/-- The operation of the coordinator behind the request. -/
def operation (memory : Memory) (connectionID : ConnectionID) :
    ClientRequest → Operation
  | .discover => return (memory, RouteHelper.discover memory connectionID)
  | .begin owner =>
    RouteHelper.begin rules memory (leaseOwnerV3 owner) connectionID
  | .apply reference =>
    RouteHelper.apply rules memory reference.native connectionID
  | .heartbeat reference =>
    RouteHelper.heartbeat memory reference.native connectionID
  | .rollback reference =>
    RouteHelper.rollback rules memory reference.native connectionID

/-- The operation behind `activeReply` of the connection's service, which
refuses everything once the connection is closed. -/
def service (closed : List ConnectionID) (memory : Memory)
    (connectionID : ConnectionID) (request : ClientRequest) : Operation :=
  if connectionID ∈ closed then
    return (memory, v3OwnershipFailure)
  else
    request.operation rules memory connectionID

def begins : ClientRequest → Option LeaseReferenceV3
  | .begin owner => some (leaseOwnerV3 owner).begun
  | _ => none

end ClientRequest

inductive BoundaryMethod where
  | applyBrokerBound (demand : RouteDemand)
  | heartbeat (operationId : Utf8)
  | rollback (operationId : Utf8)
  | tryRetire
  | drop
  deriving DecidableEq, Repr

def BoundaryMethod.program (libraries : Libraries)
    (boundary : DeferredV3ProductionRouteBoundary) :
    BoundaryMethod → BoundaryCall
  | .applyBrokerBound demand => boundary.applyBrokerBound libraries demand
  | .heartbeat operationId => boundary.heartbeat operationId
  | .rollback operationId => boundary.rollback operationId
  | .tryRetire => return (boundary.tryRetire, .ok ())
  | .drop => boundary.drop

/-- The failures after which the client opens a new connection. -/
def TransportFailure.transient : TransportFailure → Bool
  | .timeout | .remoteFailure | .interrupted | .invalidated => true
  | .protocolFailure | .terminal | .invalidArgument => false

namespace RouteBoundary

/-- The boundary, its client, the connection and the helper.  `terminal` is
the client's own flag; `closed` are the connections whose service has ended.
`delivered` remembers every lease for which a `begin` has reached the
helper. -/
structure System where
  boundary : DeferredV3ProductionRouteBoundary
  running : Option BoundaryCall
  terminal : Bool
  connection : Option ConnectionID
  helper : Option Memory
  closed : List ConnectionID
  world : World
  delivered : List LeaseReferenceV3

/-- A new installation: no journal, no process. -/
def System.initial : System where
  boundary := .new
  running := none
  terminal := false
  connection := none
  helper := none
  closed := []
  world := .initial
  delivered := []

def closes : Request → Option ConnectionID
  | .invalidate connectionID => some connectionID
  | _ => none

variable (rules : RouteRules) (libraries : Libraries)

/-- The request of the running call reaches the helper and its reply comes
back. -/
inductive Answered : System → System → Prop where
  | intro {system : System} {request : ClientRequest}
      {rest : ClientCall.Res (.send request) → BoundaryCall}
      {connectionID : ConnectionID} {memory left : Memory}
      {reply : HelperReplyV3} {world : World}
      (running : system.running = some (.act (.send request) rest))
      (live : system.terminal = false)
      (connected : system.connection = some connectionID)
      (present : system.helper = some memory)
      (served : Yields (World.Acts rules)
        (request.service rules system.closed memory connectionID)
        system.world (left, reply) world) :
      Answered system
        { system with
          running := some (rest (readReply reply request.expected
            request.allowIdleWithoutReference).1)
          terminal :=
            !(readReply reply request.expected
              request.allowIdleWithoutReference).2
          helper := some left
          world
          delivered := request.begins.toList ++ system.delivered }

inductive Step : System → System → Prop where
  | call {system : System} (method : BoundaryMethod)
      (idle : system.running = none) :
      Step system
        { system with
          running := some (method.program libraries system.boundary) }
  | finish {system : System} {boundary : DeferredV3ProductionRouteBoundary}
      {result : Except NetworkErrorCode Unit}
      (running : system.running = some (.ret (boundary, result))) :
      Step system { system with boundary, running := none }
  /-- A new client, which has not reached the helper yet. -/
  | connect {system : System}
      {rest : ClientCall.Res .connect → BoundaryCall}
      (running : system.running = some (.act .connect rest)) :
      Step system
        { system with
          running := some (rest (.ok ()))
          terminal := false
          connection := none }
  | connectFailed {system : System}
      {rest : ClientCall.Res .connect → BoundaryCall}
      (running : system.running = some (.act .connect rest)) :
      Step system
        { system with running := some (rest (.error .sidecarUnavailable)) }
  /-- The helper's listener admits a connection of the client. -/
  | accept {system : System} {memory registered : Memory}
      {connectionID : ConnectionID} (present : system.helper = some memory)
      (fresh : connectionID ∉ system.closed)
      (admitted : register memory connectionID = (registered, true)) :
      Step system
        { system with
          helper := some registered, connection := some connectionID }
  | answered {system after : System} (answered : Answered rules system after) :
      Step system after
  /-- No reply: the request was not sent, not delivered or not answered. -/
  | failed {system : System} {request : ClientRequest}
      {rest : ClientCall.Res (.send request) → BoundaryCall}
      (failure : TransportFailure)
      (running : system.running = some (.act (.send request) rest))
      (ended : system.terminal = true → failure = .protocolFailure) :
      Step system
        { system with
          running := some (rest (.error failure.networkCode))
          connection :=
            if failure.transient then none else system.connection }
  /-- A request whose reply does not reach the boundary. -/
  | served {system : System} {memory left : Memory} {world : World}
      (request : Request) (present : system.helper = some memory)
      (served : Yields (World.Acts rules) (request.program rules memory)
        system.world left world) :
      Step system
        { system with
          helper := some left
          world
          closed := (closes request).toList ++ system.closed
          delivered := request.begins.toList ++ system.delivered }
  /-- The helper ends during a request. -/
  | cut {system : System} {memory : Memory} {world : World}
      (request : Request) (present : system.helper = some memory)
      (cut : Cut (World.Acts rules) (request.program rules memory) system.world
        world) :
      Step system
        { system with
          helper := none
          connection := none
          world
          delivered := request.begins.toList ++ system.delivered }
  | start {system : System} {memory : Memory} {reply : HelperReplyV3}
      {world : World} (absent : system.helper = none)
      (served : Yields (World.Acts rules) (reconcileStartup rules
          (loaded rules system.world.file)
          startupConnectionID)
        { system.world with current := system.world.file }
        (memory, reply) world) :
      Step system { system with helper := some memory, world }
  | startCut {system : System} {world : World}
      (absent : system.helper = none)
      (cut : Cut (World.Acts rules) (reconcileStartup rules
          (loaded rules system.world.file)
          startupConnectionID)
        { system.world with current := system.world.file } world) :
      Step system { system with world }
  /-- The application ends and starts again. -/
  | restart {system : System} :
      Step system
        { system with
          boundary := .new
          running := none
          terminal := false
          connection := none }
  | powerLoss {system : System} {content : Option RouteHelper.RouteJournalV3}
      (possible : content ∈ system.world.file :: system.world.unsynced) :
      Step system
        { system with
          boundary := .new
          running := none
          terminal := false
          connection := none
          helper := none
          world := .afterPowerLoss content }
  /-- An abandoned route command takes effect after all. -/
  | late {system : System} {command : RouteHelper.RouteCommand}
      (abandoned : command ∈ system.world.abandoned) :
      Step system
        { system with
          world :=
            { system.world.changed command with
              abandoned := system.world.abandoned.erase command } }

inductive Reached : System → Prop where
  | start : Reached .initial
  | next {system after : System} (reached : Reached system)
      (taken : Step rules libraries system after) : Reached after

variable {rules libraries} {memory : Memory}
  {fewer more : LeaseReferenceV3 → Prop} {world : World} {system : System}
  {after : System} {reference : RouteLeaseReferenceV3}
  {session : BrokerBoundRouteHelperV3}

/-! ## The helper knows only the leases that were begun -/

structure System.Sound (system : System) : Prop where
  helper : ∀ memory, system.helper = some memory →
    memory.Names (OfLease (· ∈ system.delivered))
  world : system.world.Names (OfLease (· ∈ system.delivered))

theorem names_mono_memory (names : memory.Names (OfLease fewer))
    (wider : ∀ reference, fewer reference → more reference) :
    memory.Names (OfLease more) :=
  fun journal found => wider _ (names journal found)

private theorem names_mono_world (names : world.Names (OfLease fewer))
    (wider : ∀ reference, fewer reference → more reference) :
    world.Names (OfLease more) :=
  ⟨fun journal found => wider _ (names.file journal found),
    fun journal member => wider _ (names.unsynced journal member)⟩

private theorem names_service {known : LeaseReferenceV3 → Prop}
    (names : memory.Names (OfLease known)) (closed : List ConnectionID)
    (connectionID : ConnectionID) (request : ClientRequest)
    (named : ∀ reference, request.begins = some reference → known reference) :
    Operation.Names (OfLease known)
      (request.service rules closed memory connectionID) := by
  unfold ClientRequest.service
  split
  · exact names
  cases request with
  | discover => exact names
  | begin owner =>
    exact RouteHelper.names_begin connectionID names RouteHelper.lasting_ofLease
      (named _ rfl)
  | apply reference =>
    exact RouteHelper.names_apply _ connectionID names
      RouteHelper.lasting_ofLease
  | heartbeat reference =>
    exact RouteHelper.names_heartbeat _ connectionID names
  | rollback reference =>
    exact RouteHelper.names_retireLocked _ connectionID names

theorem System.Sound.initial : System.initial.Sound := by
  refine ⟨?_, nofun, nofun⟩
  rintro _ ⟨⟩

theorem System.Sound.startup (sound : system.Sound) :
    Operation.Names (OfLease (· ∈ system.delivered))
      (reconcileStartup rules (loaded rules system.world.file)
        startupConnectionID) :=
  RouteHelper.names_reconcileStartup (RouteHelper.names_loaded sound.world.file)
    _

theorem System.Sound.step (sound : system.Sound)
    (taken : Step rules libraries system after) : after.Sound := by
  have wider (begun : Option LeaseReferenceV3) (reference : LeaseReferenceV3)
      (old : reference ∈ system.delivered) :
      reference ∈ begun.toList ++ system.delivered :=
    List.mem_append_right _ old
  have named (begun : Option LeaseReferenceV3) (reference : LeaseReferenceV3)
      (begins : begun = some reference) :
      reference ∈ begun.toList ++ system.delivered := by
    simp [begins]
  have entered : World.Names (OfLease (· ∈ system.delivered))
      { system.world with current := system.world.file } :=
    ⟨sound.world.file, sound.world.unsynced⟩
  cases taken with
  | call | finish | connect | connectFailed | failed | restart =>
    exact ⟨sound.helper, sound.world⟩
  | accept present fresh admitted =>
    refine ⟨?_, sound.world⟩
    rintro memory ⟨⟩ journal found
    unfold register at admitted
    split at admitted
    · cases admitted
      exact sound.helper _ present journal found
    · cases admitted
  | answered answered =>
    cases answered with
    | @intro request _ connectionID memory left reply world _ _ _ present
        served =>
        have names :=
          names_mono_memory (sound.helper memory present) (wider request.begins)
        obtain ⟨kept, known⟩ := (names_service names system.closed
          connectionID request (named request.begins)).yields
            (names_mono_world sound.world (wider request.begins))
            World.Names.acts served
        exact ⟨by rintro other ⟨⟩; exact kept, known⟩
  | @served memory left world request present served =>
    have names :=
      names_mono_memory (sound.helper memory present) (wider request.begins)
    obtain ⟨kept, known⟩ :=
      (RouteHelper.names_program names request (named request.begins)).yields
        (names_mono_world sound.world (wider request.begins)) World.Names.acts
        served
    exact ⟨by rintro other ⟨⟩; exact kept, known⟩
  | @cut memory world request present cut =>
    have names :=
      names_mono_memory (sound.helper memory present) (wider request.begins)
    have known :=
      (RouteHelper.names_program names request (named request.begins)).cut
        (names_mono_world sound.world (wider request.begins)) World.Names.acts
        cut
    exact ⟨by rintro _ ⟨⟩, known⟩
  | start absent served =>
    obtain ⟨kept, known⟩ := sound.startup.yields entered World.Names.acts served
    exact ⟨by rintro other ⟨⟩; exact kept, known⟩
  | startCut absent cut =>
    have known := sound.startup.cut entered World.Names.acts cut
    refine ⟨?_, known⟩
    intro memory present
    rw [absent] at present
    cases present
  | powerLoss possible =>
    refine ⟨by rintro _ ⟨⟩, ?_, nofun⟩
    intro journal found
    cases found
    rcases List.mem_cons.mp possible with visible | older
    · exact sound.world.file journal visible.symm
    · exact sound.world.unsynced journal older
  | late abandoned =>
    refine ⟨sound.helper, ?_, ?_⟩
    · intro journal found
      exact sound.world.file journal (by simpa using found)
    · intro journal member
      exact sound.world.unsynced journal (by simpa using member)

theorem Reached.sound (reached : Reached rules libraries system) :
    system.Sound := by
  induction reached with
  | start => exact .initial
  | next _ taken ih => exact ih.step taken

/-! ## The rollback of an operation that was never begun -/

private theorem networkChecked_eq_ok {α : Type}
    {check : Except RouteLeaseContractError α} {value : α}
    (passed : networkChecked check = .ok value) : check = .ok value := by
  cases check with
  | error error => cases passed
  | ok checked =>
    cases passed
    rfl

private theorem matchesOwner_ok {owner : RouteLeaseOwnerV3}
    (passed : reference.matchesOwner owner = .ok ()) :
    reference = .fromOwner owner := by
  unfold RouteLeaseReferenceV3.matchesOwner at passed
  cases valid : reference.validate with
  | error error =>
    rw [valid] at passed
    cases passed
  | ok checked =>
    cases owned : owner.validate with
    | error error =>
      rw [valid, owned] at passed
      cases passed
    | ok accepted =>
      rw [valid, owned] at passed
      change (if _ then _ else _) = _ at passed
      split at passed
      · cases passed
      · next same =>
        exact not_ne_iff.mp same

private theorem reference_of_validateAuthority
    (valid : session.validateAuthority = .ok ()) :
    session.reference = .fromOwner session.owner := by
  unfold BrokerBoundRouteHelperV3.validateAuthority at valid
  cases owned : networkChecked session.owner.validate with
  | error error =>
    rw [owned] at valid
    cases valid
  | ok passed =>
    rw [owned] at valid
    change (if _ then _ else _) = _ at valid
    split at valid
    · cases valid
    · exact matchesOwner_ok (networkChecked_eq_ok valid)

private theorem rollback_cases {boundary : DeferredV3ProductionRouteBoundary}
    (active : boundary.active = some session) (operationId : Utf8) :
    (∃ outcome, boundary.rollback operationId = .ret outcome) ∨
      (boundary.retired = false ∧ session.validateAuthority = .ok () ∧
        boundary.rollback operationId =
          .act (.send (.rollback session.reference)) fun reply => .ret
            (boundary.settleRollback session reply)) := by
  unfold DeferredV3ProductionRouteBoundary.rollback
  cases retired : boundary.retired with
  | true => exact .inl ⟨_, rfl⟩
  | false =>
    cases operation : boundary.activeOperationId with
    | none =>
      refine .inl ?_
      simp [active]
    | some activeOperationId =>
      by_cases same : activeOperationId = operationId
      · cases valid : session.validateAuthority with
        | error error =>
          refine .inl ?_
          simp [same, active, valid, BrokerBoundRouteHelperV3.rollback,
            BrokerBoundRouteHelperV3.request]
        | ok passed =>
          refine .inr ⟨rfl, rfl, ?_⟩
          simp [same, active, valid, BrokerBoundRouteHelperV3.rollback,
            BrokerBoundRouteHelperV3.request, Prog.perform]
      · refine .inl ?_
        simp [same]

/-- The helper has no journal, and the service of the connection has not
ended. -/
def System.Vacant (system : System) : Prop :=
  ∃ memory connectionID, system.helper = some memory ∧
    system.connection = some connectionID ∧ connectionID ∉ system.closed ∧
    memory.journal = none

private theorem rollback_of_unknown {connectionID : ConnectionID}
    {result : Memory × HelperReplyV3} (present : system.helper = some memory)
    (connected : system.connection = some connectionID)
    (unknown : ∀ journal, memory.journal = some journal →
      journal.reference ≠ reference.native)
    (served : Yields (World.Acts rules)
      ((ClientRequest.rollback reference).service rules system.closed memory
        connectionID)
      system.world result world) :
    (system.Vacant ∧ result.2 = .plain .idle none) ∨
      (¬ system.Vacant ∧ result.2 = v3OwnershipFailure) := by
  unfold ClientRequest.service at served
  split at served
  · next ended =>
    cases served
    refine .inr ⟨?_, rfl⟩
    rintro ⟨other, used, -, same, serves, -⟩
    rw [connected] at same
    cases same
    exact serves ended
  · next serves =>
    unfold ClientRequest.operation RouteHelper.rollback
      RouteHelper.retireLocked at served
    cases found : memory.journal with
    | none =>
      simp only [found] at served
      cases served
      exact .inl
        ⟨⟨memory, connectionID, present, connected, serves, found⟩, rfl⟩
    | some journal =>
      have other := unknown journal found
      simp only [found, ne_eq, other, not_false_eq_true, or_true,
        if_true] at served
      cases served
      refine .inr ⟨?_, rfl⟩
      rintro ⟨held, used, same, -, -, vacant⟩
      rw [present] at same
      cases same
      rw [found] at vacant
      cases vacant

/-- In every run, a rollback of an operation whose `begin` has not reached the
helper, and to which the helper replies, returns `Ok` with a reusable boundary
exactly when the helper has no journal and still serves the connection. -/
theorem undelivered_rollback_succeeds_iff {system after : System}
    {operationId : Utf8} {session : BrokerBoundRouteHelperV3}
    (reached : Reached rules libraries system)
    (active : system.boundary.active = some session)
    (running : system.running = some (system.boundary.rollback operationId))
    (undelivered : (leaseOwnerV3 session.owner).begun ∉ system.delivered)
    (answered : Answered rules system after) :
    ∃ boundary result, after.running = some (.ret (boundary, result)) ∧
      ((result = .ok () ∧ boundary.disposition = .reusable) ↔
        system.Vacant) := by
  have sound := Reached.sound reached
  cases answered with
  | @intro request rest connectionID memory left reply world waiting live
      connected present served =>
      rcases rollback_cases active operationId with
        ⟨outcome, returns⟩ | ⟨unretired, valid, waits⟩
      · rw [running, returns] at waiting
        cases waiting
      · rw [running, waits] at waiting
        cases waiting
        have same := reference_of_validateAuthority valid
        have unknown : ∀ journal, memory.journal = some journal →
            journal.reference ≠ session.reference.native := by
          intro journal found known
          apply undelivered
          have named : journal.reference ∈ system.delivered :=
            sound.helper memory present journal found
          rwa [known, same] at named
        let read := (readReply reply (some session.reference) true).1
        let settled := system.boundary.settleRollback session read
        refine ⟨settled.1, settled.2, rfl, ?_⟩
        refine (system.boundary.settleRollback_ok_iff session unretired
          read).trans ?_
        rcases rollback_of_unknown present connected unknown served with
          ⟨vacant, idle⟩ | ⟨occupied, refused⟩
        · have passes : read =
              .ok ⟨routeHelperV3ProtocolVersion, .idle, 0, none, none⟩ := by
            cases idle
            rfl
          exact iff_of_true ⟨_, passes, rfl⟩ vacant
        · have fails : read = .error .unsupportedProtocolVersion := by
            cases refused
            rfl
          refine iff_of_false ?_ occupied
          rintro ⟨status, passes, -⟩
          rw [fails] at passes
          cases passes

/-! ## Replaying a run -/

inductive Event where
  | call (method : BoundaryMethod)
  | finish
  | connect
  | accept (connectionID : ConnectionID)
  | answered (fortunes : List Fortune)
  | failed (failure : TransportFailure)
  | served (request : Request) (fortunes : List Fortune)
  | start (fortunes : List Fortune)
  deriving DecidableEq, Repr

variable (rules libraries)

/-- Run an operation of the helper with these outcomes of its actions. -/
def play {α : Type} (program : RouteHelper.Helper α) (world : World)
    (fortunes : List Fortune) : Option (α × World) :=
  program.replay (fun world fortune => world.perform rules fortune) world
    fortunes

def System.replayAnswer (system : System) (fortunes : List Fortune) :
    Option System :=
  match system.running, system.connection, system.helper with
  | some (.act (.send request) rest), some connectionID, some memory =>
    if system.terminal then
      none
    else
      (play rules (request.service rules system.closed memory connectionID)
          system.world fortunes).map fun ((left, reply), world) =>
        { system with
          running := some (rest (readReply reply request.expected
            request.allowIdleWithoutReference).1)
          terminal :=
            !(readReply reply request.expected
              request.allowIdleWithoutReference).2
          helper := some left
          world
          delivered := request.begins.toList ++ system.delivered }
  | _, _, _ => none

def System.replay (system : System) : Event → Option System
  | .call method =>
    if system.running.isNone then
      some { system with
        running := some (method.program libraries system.boundary) }
    else
      none
  | .finish =>
    match system.running with
    | some (.ret (boundary, _)) =>
      some { system with boundary, running := none }
    | _ => none
  | .connect =>
    match system.running with
    | some (.act .connect rest) =>
      some { system with
        running := some (rest (.ok ()))
        terminal := false
        connection := none }
    | _ => none
  | .accept connectionID =>
    match system.helper with
    | none => none
    | some memory =>
      if connectionID ∉ system.closed ∧ (register memory connectionID).2 then
        some { system with
          helper := some (register memory connectionID).1
          connection := some connectionID }
      else
        none
  | .answered fortunes => system.replayAnswer rules fortunes
  | .failed failure =>
    match system.running with
    | some (.act (.send _) rest) =>
      if system.terminal ∧ failure ≠ .protocolFailure then
        none
      else
        some { system with
          running := some (rest (.error failure.networkCode))
          connection :=
            if failure.transient then none else system.connection }
    | _ => none
  | .served request fortunes =>
    match system.helper with
    | none => none
    | some memory =>
      (play rules (request.program rules memory) system.world fortunes).map
        fun (left, world) =>
        { system with
          helper := some left
          world
          closed := (closes request).toList ++ system.closed
          delivered := request.begins.toList ++ system.delivered }
  | .start fortunes =>
    if system.helper.isSome then
      none
    else
      (play rules (reconcileStartup rules (loaded rules system.world.file)
            startupConnectionID)
          { system.world with current := system.world.file }
          fortunes).map fun ((memory, _), world) =>
        { system with helper := some memory, world }

variable {rules libraries} {fortunes : List Fortune} {events : List Event}

theorem yields_of_play {α : Type} {program : RouteHelper.Helper α}
    {after : World} {value : α}
    (played : play rules program world fortunes = some (value, after)) :
    Yields (World.Acts rules) program world value after :=
  yields_of_replay (fun performed => (World.perform_acts performed).1) played

theorem answered_of_replayAnswer
    (replayed : system.replayAnswer rules fortunes = some after) :
    Answered rules system after := by
  unfold System.replayAnswer at replayed
  split at replayed
  · next request rest connectionID memory running connected present =>
    split at replayed
    · cases replayed
    · next live =>
      obtain ⟨⟨⟨left, reply⟩, world⟩, played, same⟩ :=
        Option.map_eq_some_iff.mp replayed
      cases same
      exact .intro running (Bool.eq_false_iff.mpr live) connected present
        (yields_of_play played)
  · cases replayed

private theorem step_of_replay {event : Event}
    (replayed : system.replay rules libraries event = some after) :
    Step rules libraries system after := by
  cases event with simp only [System.replay] at replayed
  | call method =>
    obtain ⟨idle, ⟨⟩⟩ := Option.ite_none_right_eq_some.mp replayed
    exact .call method (Option.isNone_iff_eq_none.mp idle)
  | finish =>
    split at replayed
    · next running =>
      cases replayed
      exact .finish running
    · cases replayed
  | connect =>
    split at replayed
    · next running =>
      cases replayed
      exact .connect running
    · cases replayed
  | accept connectionID =>
    split at replayed
    · cases replayed
    · next memory present =>
      obtain ⟨admitted, ⟨⟩⟩ := Option.ite_none_right_eq_some.mp replayed
      exact .accept present admitted.1 (Prod.ext rfl admitted.2)
  | answered fortunes => exact .answered (answered_of_replayAnswer replayed)
  | failed failure =>
    split at replayed
    · next running =>
      obtain ⟨possible, ⟨⟩⟩ := Option.ite_none_left_eq_some.mp replayed
      refine .failed failure running ?_
      intro ended
      by_contra other
      exact possible ⟨ended, other⟩
    · cases replayed
  | served request fortunes =>
    split at replayed
    · cases replayed
    · next memory present =>
      obtain ⟨⟨left, world⟩, played, same⟩ := Option.map_eq_some_iff.mp replayed
      cases same
      exact .served request present (yields_of_play played)
  | start fortunes =>
    obtain ⟨absent, replayed⟩ := Option.ite_none_left_eq_some.mp replayed
    obtain ⟨⟨⟨memory, reply⟩, world⟩, played, same⟩ :=
      Option.map_eq_some_iff.mp replayed
    cases same
    exact .start (by simpa using absent) (yields_of_play played)

theorem Reached.replay (reached : Reached rules libraries system)
    (replayed : run (System.replay rules libraries) system events =
      some after) :
    Reached rules libraries after :=
  run_keeps (fun _ _ _ _ reached taken => .next reached (step_of_replay taken))
    reached replayed

/-! ## A lost discovery, and a lease of an earlier process -/

def exampleLibraries : Libraries where
  parseUrl :=
    fun _ => some ⟨Profile.https, [], none, some [], none, [], none, none⟩
  decodeBase64 := fun _ => some (List.replicate 32 0)

def exampleProfile : Profile.NetworkProfile where
  schemaVersion := 1
  profileId := ascii "profile-1"
  controlPlane := []
  identityRef := ascii "keychain:identity-1"
  siteId := ascii "site-one-1"
  displayName := ascii "site"
  privateCidrs := [ascii "10.7.0.0/16"]
  localAddresses := [ascii "10.8.0.1/32"]
  peerPublicKey := []
  keepaliveSeconds := 25
  primary := .quic
  fallbacks := []
  endpoints := [⟨.quic, []⟩]
  connectTimeoutSeconds := 1
  healthIntervalSeconds := 1
  fallbackThreshold := 1

def exampleDemand : RouteDemand where
  profile := exampleProfile
  operationId := ascii "operation-2"
  tunnel := {
    interfaceName := ascii "utun5"
    mtu := 1420
    hasIpv4 := true
    hasIpv6 := false
    instanceId := ascii "sidecar-2"
    operationId := ascii "operation-2.prepare" }
  profileRevision := 1
  mihomoInterfaces := []
  receipt := ⟨1, ⟨1, 2, ascii "sidecar-2"⟩⟩

/-- The operation of the active session has not been begun. -/
def System.unbegun (system : System) : Option Bool :=
  system.boundary.active.map fun session =>
    (leaseOwnerV3 session.owner).begun ∉ system.delivered

/-- What the helper's reply makes of a rollback that is called now. -/
def System.rolledBack (rules : RouteRules) (system : System)
    (operationId : Utf8) :
    Option
      (Production.ProductionRouteDisposition × Except NetworkErrorCode Unit) :=
  match ({ system with
      running := some (system.boundary.rollback operationId) } :
        System).replayAnswer rules [] with
  | some ⟨_, some (.ret (boundary, result)), _, _, _, _, _, _⟩ =>
    some (boundary.disposition, result)
  | _ => none

theorem rollback_after_replay {operationId : Utf8}
    {disposition : Production.ProductionRouteDisposition}
    {result : Except NetworkErrorCode Unit}
    (observed : (run (System.replay rules libraries) .initial
      events).map (fun system => (system.running.isNone, system.unbegun,
        system.rolledBack rules operationId)) =
      some (true, some true, some (disposition, result))) :
    ∃ system after session boundary, Reached rules libraries system ∧
      system.boundary.active = some session ∧
      system.running = some (system.boundary.rollback operationId) ∧
      (leaseOwnerV3 session.owner).begun ∉ system.delivered ∧
      Answered rules system after ∧
      after.running = some (.ret (boundary, result)) ∧
      boundary.disposition = disposition := by
  obtain ⟨idle, replayed, seen⟩ := Option.map_eq_some_iff.mp observed
  obtain ⟨resting, seen⟩ := Prod.mk.inj seen
  obtain ⟨unbegun, answer⟩ := Prod.mk.inj seen
  obtain ⟨session, active, undelivered⟩ := Option.map_eq_some_iff.mp unbegun
  have called : Step rules libraries idle
      { idle with running := some (idle.boundary.rollback operationId) } :=
    .call (.rollback operationId) (Option.isNone_iff_eq_none.mp resting)
  unfold System.rolledBack at answer
  split at answer
  · next boundary returned _ _ _ _ _ _ replayed_answer =>
    cases answer
    exact ⟨_, _, session, boundary,
      .next (Reached.replay .start replayed) called, active, rfl,
      of_decide_eq_true undelivered, answered_of_replayAnswer replayed_answer,
      rfl, rfl⟩
  · cases answer

/-- The reply to the discovery is lost and the connection with it. -/
def lostDiscovery : List Event :=
  [.start [], .call (.applyBrokerBound exampleDemand), .connect, .accept 1,
    .failed .timeout, .finish, .served (.invalidate 1) [], .accept 2]

/-- An earlier process has begun a lease, and the broker's answer to its
release is lost.  The helper keeps the journal and reports it. -/
def staleLease : List Event :=
  [.start [], .served (.register 0) [],
    .served (.begin RouteHelper.exampleOwner 0) (List.replicate 6 .good),
    .served (.invalidate 0) [.good, .answered .ambiguous],
    .call (.applyBrokerBound exampleDemand), .connect, .accept 1,
    .answered [], .finish]

/-- After a lost discovery the helper has no journal, and the operation is
rolled back. -/
theorem lost_discovery_is_rolled_back :
    ∃ system after session boundary result,
      Reached exampleRules exampleLibraries system ∧
        system.boundary.active = some session ∧
        (leaseOwnerV3 session.owner).begun ∉ system.delivered ∧
        Answered exampleRules system after ∧
        after.running = some (.ret (boundary, result)) ∧ result = .ok () ∧
        boundary.disposition = .reusable ∧ system.Vacant := by
  have observed : (run (System.replay exampleRules
      exampleLibraries) .initial lostDiscovery).map (fun system =>
        (system.running.isNone, system.unbegun, system.rolledBack
          exampleRules exampleDemand.operationId)) =
      some (true, some true, some (.reusable, .ok ())) := by
    decide +kernel
  obtain ⟨system, after, session, boundary, reached, active, running,
    undelivered, answered, returned, reusable⟩ := rollback_after_replay observed
  obtain ⟨other, result, same, exactly⟩ := undelivered_rollback_succeeds_iff
    reached active running undelivered answered
  rw [returned] at same
  cases same
  exact ⟨system, after, session, boundary, .ok (), reached, active,
    undelivered, answered, returned, rfl, reusable,
    exactly.mp ⟨rfl, reusable⟩⟩

/-- While the helper keeps a lease of an earlier process, a rollback of an
operation that was never begun is answered, fails and freezes the
boundary. -/
theorem stale_lease_refuses_rollback :
    ∃ system after session boundary,
      Reached exampleRules exampleLibraries system ∧
        system.boundary.active = some session ∧
        system.running =
          some (system.boundary.rollback exampleDemand.operationId) ∧
        (leaseOwnerV3 session.owner).begun ∉ system.delivered ∧
        Answered exampleRules system after ∧
        after.running =
          some (.ret (boundary, .error .unsupportedProtocolVersion)) ∧
        boundary.disposition = .recoveryOnly := by
  have observed : (run (System.replay exampleRules
      exampleLibraries) .initial staleLease).map (fun system =>
        (system.running.isNone, system.unbegun, system.rolledBack
          exampleRules exampleDemand.operationId)) =
      some (true, some true,
        some (.recoveryOnly, .error .unsupportedProtocolVersion)) := by
    decide +kernel
  exact rollback_after_replay observed

/-- In every run every journal, on file or in memory, is of a lease that a
client has begun, and so is everything that the helper may do next: at startup
or for any request, which may begin one more lease itself. -/
theorem helper_works_for_begun_leases {system : System}
    (reached : Reached rules libraries system) :
    system.world.Names (OfLease (· ∈ system.delivered)) ∧
      Operation.Names (OfLease (· ∈ system.delivered))
        (reconcileStartup rules (loaded rules system.world.file)
          startupConnectionID) ∧
      ∀ memory, system.helper = some memory →
        memory.Names (OfLease (· ∈ system.delivered)) ∧
          ∀ request : Request,
            Each
              (RouteHelper.Act.Names
                (OfLease (· ∈ request.begins.toList ++ system.delivered)))
              (Memory.Names
                (OfLease (· ∈ request.begins.toList ++ system.delivered)))
              (request.program rules memory) := by
  have sound := Reached.sound reached
  refine ⟨sound.world, sound.startup, ?_⟩
  intro memory present
  have names := sound.helper memory present
  refine ⟨names, ?_⟩
  intro request
  refine RouteHelper.names_program
    (names_mono_memory names fun _ => List.mem_append_right _) request ?_
  intro reference begins
  simp [begins]

theorem stale_lease_was_begun :
    ∃ system memory journal, Reached exampleRules exampleLibraries system ∧
      system.helper = some memory ∧ memory.journal = some journal ∧
      journal.reference ∈ system.delivered := by
  have observed : (run (System.replay exampleRules exampleLibraries) .initial
          staleLease).map
        (fun system => (system.helper.bind (·.journal)).isSome) =
      some true := by
    decide +kernel
  obtain ⟨system, replayed, kept⟩ := Option.map_eq_some_iff.mp observed
  obtain ⟨journal, found⟩ := Option.isSome_iff_exists.mp kept
  obtain ⟨memory, present, held⟩ := Option.bind_eq_some_iff.mp found
  have reached : Reached exampleRules exampleLibraries system :=
    Reached.replay .start replayed
  exact ⟨system, memory, journal, reached, present, held,
    ((helper_works_for_begun_leases reached).2.2 memory present).1 journal held⟩

end RouteBoundary

end KyClash.Networking
