import KyClash.Concurrency.Transition
import KyClash.Networking.RouteSessionWorld

/-!
# Runs of the broker-bound route session

The runs of one authorization: connect and disconnect in any order, with the
end of the process between any two actions and a resumption from the record
that is durable then.

A record fits the world when what its state says about the broker and the
routes is true.  Every call keeps both the record in memory and the durable
one fitting; the two differ after a journal write that failed.
-/

namespace KyClash.Networking.RouteSession

open Transition
open Program

open World ProductionRouteV3Session

variable {authorization : BrokerRouteAuthorization} {world : World}
  {session : ProductionRouteV3Session}
  {owner : RouteLeaseOwnerV3} {record : RouteLeaseJournalRecord} {setup : Setup}
  {system after : System}

/-- A session of this authorization, with its one tuple. -/
structure Authorized (authorization : BrokerRouteAuthorization)
    (session : ProductionRouteV3Session) : Prop where
  same : session.authorization = authorization
  owner : session.owner.binding = authorization.binding
  reference : RouteLeaseReferenceV3.fromOwner session.owner =
    sessionReference authorization
  named : session.reference = sessionReference authorization
  record : ∀ record, session.record = some record → record.owner = session.owner

/-- A call leaves a session whose record is true of the world. -/
def Left (authorization : BrokerRouteAuthorization)
    (result : ProductionRouteV3Session × Except Error Unit) (world : World) :
    Prop :=
  Authorized authorization result.1 ∧ world.Recorded authorization ∧
    world.Fits result.1.journalState

theorem secure_andThen {call : Call} {next : ProductionRouteV3Session → Call}
    {middle : ProductionRouteV3Session → World → Prop}
    (first : Secure authorization
      (fun result after => Left authorization result after ∧
        (result.2 = .ok () → middle result.1 after))
      call world)
    (continues : ∀ session after, Authorized authorization session →
      after.Recorded authorization → after.Fits session.journalState →
      middle session after →
      Secure authorization (Left authorization) (next session) after) :
    Secure authorization (Left authorization) (call.andThen next) world := by
  refine first.bind ?_
  rintro ⟨left, result⟩ after ⟨kept, succeeded⟩
  cases result with
  | error error => exact kept
  | ok => exact continues left after kept.1 kept.2.1 kept.2.2 (succeeded rfl)

/-- The record was durably moved to this state, and nothing else happened. -/
structure Advanced (before : World) (next : RouteLeaseJournalState)
    (session : ProductionRouteV3Session) (after : World) : Prop where
  held : after.held = before.held
  confirmed : after.confirmed = before.confirmed
  durable : after.durable = session.record
  state : session.journalState = some next

theorem secure_transitionDurable (next : RouteLeaseJournalState)
    (authorized : Authorized authorization session)
    (recorded : world.Recorded authorization)
    (before : world.Fits session.journalState) (fits : world.Fits (some next)) :
    Secure authorization
      (fun result after => Left authorization result after ∧
        (result.2 = .ok () → Advanced world next result.1 after))
      (session.transitionDurable next) world := by
  unfold transitionDurable
  cases found : session.record with
  | none => exact ⟨⟨authorized, recorded, before⟩, nofun⟩
  | some current =>
    dsimp only
    cases advanced : current.advance next session.reference with
    | error error => exact ⟨⟨authorized, recorded, before⟩, nofun⟩
    | ok record =>
      obtain ⟨state, owner, -⟩ := RouteLeaseJournalRecord.advance_ok advanced
      have fitting : world.Fits (some record.state) := state ▸ fits
      have own : record.owner = session.owner :=
        owner.trans (authorized.record current found)
      refine secure_persist recorded fitting ?_ ?_
      · intro after less held confirmed durable kept
        refine ⟨⟨⟨authorized.same, authorized.owner,
          authorized.reference, authorized.named, ?_⟩, kept,
          fitting.mono less⟩, fun _ =>
          ⟨held, confirmed, durable, congrArg some state⟩⟩
        rintro _ ⟨⟩
        exact own
      · intro error after less kept
        exact ⟨⟨authorized, kept, before.mono less⟩, nofun⟩

theorem require_ok {confirmation : BrokerRouteConfirmation}
    {expected : RouteLeaseBinding} {disposition : BrokerRouteDisposition}
    (required : confirmation.require expected disposition = .ok ()) :
    confirmation = ⟨expected, disposition⟩ := by
  unfold BrokerRouteConfirmation.require at required
  obtain ⟨_, -, required⟩ := bind_eq_ok required
  split at required
  · cases required
  · next same =>
    simp only [not_or, not_not] at same
    cases same.1
    cases same.2
    rfl

private theorem proof_require_ok {proof : RouteAbsenceProofV3}
    {expected : RouteLeaseReferenceV3}
    (required : proof.require expected = .ok ()) : proof = ⟨expected⟩ := by
  unfold RouteAbsenceProofV3.require at required
  obtain ⟨_, -, required⟩ := bind_eq_ok required
  split at required
  · cases required
  · next same => exact congrArg RouteAbsenceProofV3.mk (not_not.mp same)

section

variable (authorized : Authorized authorization session)
  (recorded : world.Recorded authorization)
  (fits : world.Fits session.journalState)
include authorized recorded fits

theorem secure_releaseCall :
    Secure authorization (Left authorization) session.release world := by
  unfold release
  split
  · exact ⟨authorized, recorded, fits⟩
  · next retiring =>
    have pending : session.journalState = some .retirementPending :=
      not_not.mp retiring
    have absent : world.exposed = [] := by
      rw [pending] at fits
      exact fits
    rw [authorized.same]
    refine World.secure_release recorded absent ?_
    intro result after less kept released
    cases result with
    | error error => exact ⟨authorized, kept, fits.mono less⟩
    | ok confirmation =>
      dsimp only
      cases required : confirmation.require authorization.binding .released with
      | error error => exact ⟨authorized, kept, fits.mono less⟩
      | ok =>
        obtain rfl := require_ok required
        have free : after.Fits (some .released) := by
          refine ⟨released rfl, ?_⟩
          have still := fits.mono less
          rw [pending] at still
          exact still
        exact (secure_transitionDurable .released authorized kept
          (fits.mono less) free).mono fun _ _ done => done.1

theorem secure_retire (absent : world.exposed = []) :
    Secure authorization (Left authorization)
      ((session.transitionDurable .retirementPending).andThen release)
      world := by
  refine secure_andThen
    (secure_transitionDurable .retirementPending authorized recorded fits
      absent)
    ?_
  intro left after own kept still _
  exact secure_releaseCall own kept still

theorem secure_rollbackThenRelease :
    Secure authorization (Left authorization) session.rollbackThenRelease
      world := by
  unfold rollbackThenRelease
  rw [authorized.named]
  refine World.secure_rollback recorded ?_
  intro result after less kept proved
  cases result with
  | error error => exact ⟨authorized, kept, fits.mono less⟩
  | ok proof =>
    dsimp only
    cases required : proof.require (sessionReference authorization) with
    | error error => exact ⟨authorized, kept, fits.mono less⟩
    | ok =>
      obtain rfl := proof_require_ok required
      exact secure_retire authorized kept (fits.mono less) (proved rfl)

private theorem secure_cleanUp {error : Error} :
    Secure authorization (Left authorization) (session.cleanUp error)
      world := by
  refine (secure_rollbackThenRelease authorized recorded fits).bind ?_
  rintro ⟨left, result⟩ after kept
  cases result with
  | error _ => exact kept
  | ok => exact kept

end

private theorem newHoldPending_ok
    (created : RouteLeaseJournalRecord.newHoldPending owner = .ok record) :
    record.state = .holdPending ∧ record.owner = owner := by
  unfold RouteLeaseJournalRecord.newHoldPending at created
  obtain ⟨_, -, created⟩ := bind_eq_ok created
  cases created
  exact ⟨rfl, rfl⟩

section

variable (authorized : Authorized authorization session)
  (recorded : world.Recorded authorization)
include authorized recorded

private theorem secure_applyHeld (state : session.journalState = some .held)
    (durable : world.durable = session.record)
    (confirmed : authorization.binding ∈ world.confirmed)
    (held : authorization.binding ∈ world.held) :
    Secure authorization (Left authorization) session.applyHeld world := by
  obtain ⟨record, found, recordState⟩ := Option.map_eq_some_iff.mp state
  refine World.secure_apply recorded authorized.owner authorized.reference
    confirmed held (durable.trans found) recordState
    (authorized.record record found) ?_
  intro result after kept
  have fits : after.Fits session.journalState := by
    rw [state]
    trivial
  cases result with
  | error error => exact secure_cleanUp authorized kept fits
  | ok =>
    refine (secure_transitionDurable .applied authorized kept fits trivial).bind
      ?_
    rintro ⟨left, outcome⟩ last ⟨⟨own, recordedLast, still⟩, -⟩
    cases outcome with
    | error error => exact secure_cleanUp own recordedLast still
    | ok => exact ⟨own, recordedLast, still⟩

private theorem secure_holdPending
    (state : session.journalState = some .holdPending)
    (durable : world.durable = session.record) :
    Secure authorization (Left authorization) (connect.holdPending session)
      world := by
  unfold connect.holdPending
  rw [authorized.same]
  have pending : world.durable.map (·.state) = some .holdPending := by
    rw [durable]
    exact state
  have absent : world.exposed = [] := by
    have fits := recorded.fits
    rw [pending] at fits
    exact fits
  refine World.secure_hold recorded pending ?_
  intro result after same exposed kept answered
  have fits : after.Fits session.journalState := by
    rw [state]
    exact exposed.trans absent
  cases result with
  | error error => exact ⟨authorized, kept, fits⟩
  | ok confirmation =>
    dsimp only
    cases required : confirmation.require authorization.binding .held with
    | error error => exact ⟨authorized, kept, fits⟩
    | ok =>
      obtain rfl := require_ok required
      obtain ⟨held, confirmed⟩ := answered _ rfl
      refine secure_andThen
        (secure_transitionDurable .held authorized kept fits trivial) ?_
      intro left last own keptLast _ advanced
      exact secure_applyHeld own keptLast advanced.state
        advanced.durable (advanced.confirmed ▸ confirmed)
        (advanced.held ▸ held)

private theorem secure_connect (fits : world.Fits session.journalState) :
    Secure authorization (Left authorization) session.connect world := by
  have unchanged : ∀ error, Secure authorization (Left authorization)
      (session.failing error) world :=
    fun _ => ⟨authorized, recorded, fits⟩
  unfold connect
  split
  · exact unchanged _
  · next fresh =>
    have absent : session.record = none := by simpa using fresh
    cases session.validateAuthority with
    | error error => exact unchanged _
    | ok =>
      cases created : RouteLeaseJournalRecord.newHoldPending session.owner with
      | error error => exact unchanged _
      | ok pending =>
        obtain ⟨state, owner⟩ := newHoldPending_ok created
        have exposed : world.exposed = [] := by
          rw [journalState, absent] at fits
          exact fits.2
        have fitting : world.Fits (some pending.state) := by
          rw [state]
          exact exposed
        refine World.secure_persist recorded fitting ?_ ?_
        · intro after less held confirmed durable kept
          refine secure_holdPending ⟨authorized.same, authorized.owner,
            authorized.reference, authorized.named, ?_⟩ kept
            (congrArg some state) durable
          rintro _ ⟨⟩
          exact owner
        · intro error after less kept
          exact ⟨authorized, kept, fits.mono less⟩

private theorem secure_disconnect (fits : world.Fits session.journalState) :
    Secure authorization (Left authorization) session.disconnect world := by
  have unchanged : ∀ error, Secure authorization (Left authorization)
      (session.failing error) world :=
    fun _ => ⟨authorized, recorded, fits⟩
  unfold disconnect
  cases session.validateAuthority with
  | error error => exact unchanged _
  | ok =>
    dsimp only
    split
    · exact secure_rollbackThenRelease authorized recorded fits
    · exact secure_rollbackThenRelease authorized recorded fits
    · exact secure_releaseCall authorized recorded fits
    · next pending =>
      have absent : world.exposed = [] := by
        rw [pending] at fits
        exact fits
      exact secure_retire authorized recorded fits absent
    · exact unchanged _
    · exact unchanged _
    · exact unchanged _

end

private theorem authorized_new {profileRevision : UInt64}
    {activeMihomoTunInterfaces privateCidrs : List Utf8}
    (created : ProductionRouteV3Session.new authorization profileRevision
        activeMihomoTunInterfaces privateCidrs = .ok session) :
    Authorized authorization session ∧ session.record = none := by
  unfold ProductionRouteV3Session.new at created
  obtain ⟨_, -, created⟩ := bind_eq_ok created
  cases created
  exact ⟨⟨rfl, rfl, rfl, rfl, nofun⟩, rfl⟩

private theorem protocolVersion_of_validate (valid : owner.validate = .ok ()) :
    owner.protocolVersion = routeHelperV3ProtocolVersion := by
  unfold RouteLeaseOwnerV3.validate at valid
  split at valid
  · cases valid
  · next version =>
    exact not_not.mp version

private theorem requireOwnerAuthority_ok
    (required : requireOwnerAuthority owner authorization = .ok ()) :
    owner.protocolVersion = routeHelperV3ProtocolVersion ∧
      owner.binding = authorization.binding := by
  unfold requireOwnerAuthority at required
  obtain ⟨_, valid, required⟩ := bind_eq_ok required
  split at required
  · cases required
  · next same =>
    exact ⟨protocolVersion_of_validate valid, not_not.mp (not_or.mp same).1⟩

private theorem reference_of_binding
    (version : owner.protocolVersion = routeHelperV3ProtocolVersion)
    (binding : owner.binding = authorization.binding) :
    RouteLeaseReferenceV3.fromOwner owner = sessionReference authorization := by
  unfold RouteLeaseReferenceV3.fromOwner sessionReference
  rw [version, ← binding]
  rfl

private theorem authorized_resume
    (resumed : ProductionRouteV3Session.resume authorization record =
      .ok session) :
    Authorized authorization session ∧ session.record = some record := by
  unfold ProductionRouteV3Session.resume at resumed
  obtain ⟨_, -, resumed⟩ := bind_eq_ok resumed
  obtain ⟨_, required, resumed⟩ := bind_eq_ok resumed
  cases resumed
  obtain ⟨version, binding⟩ := requireOwnerAuthority_ok required
  refine ⟨⟨rfl, binding, ?_, ?_, ?_⟩, rfl⟩
  · exact reference_of_binding version binding
  · exact reference_of_binding version binding
  · rintro _ ⟨⟩
    rfl

/-- What a session is created from. -/
structure Setup where
  authorization : BrokerRouteAuthorization
  profileRevision : UInt64
  activeMihomoTunInterfaces : List Utf8
  privateCidrs : List Utf8
  deriving DecidableEq, Repr

/-- There is no session after the end of the process.  `running` is what is
left of the call that borrows the session. -/
structure System where
  world : World
  session : Option ProductionRouteV3Session
  running : Option Call

def System.initial : System where
  world := .initial
  session := none
  running := none

inductive Event where
  | connect
  | disconnect
  | act (fortune : Fortune)
  | finish
  | crash
  | resume

/-- The session that a new process starts with: one resumed from the durable
record, or a new one if there is none. -/
def Setup.start (setup : Setup) (durable : Option RouteLeaseJournalRecord) :
    Except RouteLeaseContractError ProductionRouteV3Session :=
  match durable with
  | none =>
    new setup.authorization setup.profileRevision
      setup.activeMihomoTunInterfaces setup.privateCidrs
  | some record => resume setup.authorization record

/-- A call starts when no other borrows the session. -/
def System.call (system : System) (call : ProductionRouteV3Session → Call) :
    Option System :=
  match system.session, system.running with
  | some session, none => some { system with running := some (call session) }
  | _, _ => none

def System.step (setup : Setup) (system : System) : Event → Option System
  | .connect => system.call (·.connect)
  | .disconnect => system.call (·.disconnect)
  | .act fortune =>
    match system.running with
    | some (.act action rest) =>
      (system.world.perform action fortune).map fun outcome =>
        { system with
          world := outcome.2
          running := some (rest outcome.1) }
    | _ => none
  | .finish =>
    match system.running with
    | some (.ret (session, _)) =>
      some { system with session := some session, running := none }
    | _ => none
  | .crash => some { system with session := none, running := none }
  | .resume =>
    match system.session, system.running with
    | none, none =>
      match setup.start system.world.durable with
      | .ok session => some { system with session := some session }
      | .error _ => none
    | _, _ => none

/-- What holds in every state of a run. -/
structure System.Sound (authorization : BrokerRouteAuthorization)
    (system : System) : Prop where
  recorded : system.world.Recorded authorization
  idle : system.running = none → ∀ session, system.session = some session →
    Authorized authorization session ∧ system.world.Fits session.journalState
  busy : ∀ call, system.running = some call →
    Secure authorization (Left authorization) call system.world

theorem System.Sound.initial : System.initial.Sound authorization := by
  refine ⟨⟨⟨rfl, rfl⟩, nofun, nofun, nofun⟩, ?_, ?_⟩
  · rintro - _ ⟨⟩
  · rintro _ ⟨⟩

/-- A new process's record is the durable one, so it fits. -/
theorem authorized_setup (recorded : world.Recorded setup.authorization)
    (created : setup.start world.durable = .ok session) :
    Authorized setup.authorization session ∧
      world.Fits session.journalState := by
  have fits := recorded.fits
  cases durable : world.durable with
  | none =>
    rw [durable] at created fits
    obtain ⟨authorized, record⟩ := authorized_new created
    refine ⟨authorized, ?_⟩
    rw [journalState, record]
    exact fits
  | some record =>
    rw [durable] at created fits
    obtain ⟨authorized, same⟩ := authorized_resume created
    refine ⟨authorized, ?_⟩
    rw [journalState, same]
    exact fits

theorem System.Sound.call {call : ProductionRouteV3Session → Call}
    (sound : system.Sound setup.authorization)
    (secure : ∀ session, Authorized setup.authorization session →
      system.world.Fits session.journalState →
      Secure setup.authorization (Left setup.authorization) (call session)
        system.world)
    (taken : system.call call = some after) :
    after.Sound setup.authorization := by
  unfold System.call at taken
  split at taken
  · next session found running =>
    cases taken
    obtain ⟨authorized, fits⟩ := sound.idle running session found
    refine ⟨sound.recorded, nofun, ?_⟩
    rintro program ⟨⟩
    exact secure session authorized fits
  · cases taken

theorem System.Sound.step {event : Event}
    (sound : system.Sound setup.authorization)
    (taken : system.step setup event = some after) :
    after.Sound setup.authorization := by
  cases event with simp only [System.step] at taken
  | connect =>
    exact sound.call (fun session authorized fits =>
      secure_connect authorized sound.recorded fits) taken
  | disconnect =>
    exact sound.call (fun session authorized fits =>
      secure_disconnect authorized sound.recorded fits) taken
  | act fortune =>
    split at taken
    · next action rest running =>
      obtain ⟨⟨result, world⟩, performed, same⟩ :=
        Option.map_eq_some_iff.mp taken
      subst same
      obtain ⟨recorded, continues⟩ :=
        (sound.busy _ running).2 result world ⟨fortune, performed⟩
      refine ⟨recorded, nofun, ?_⟩
      rintro program ⟨⟩
      exact continues trivial
    · cases taken
  | finish =>
    split at taken
    · next session outcome running =>
      cases taken
      obtain ⟨authorized, recorded, fits⟩ := sound.busy _ running
      refine ⟨recorded, ?_, nofun⟩
      rintro - _ ⟨⟩
      exact ⟨authorized, fits⟩
    · cases taken
  | crash =>
    cases taken
    refine ⟨sound.recorded, ?_, ?_⟩
    · rintro - _ ⟨⟩
    · rintro _ ⟨⟩
  | resume =>
    split at taken
    · next absent running =>
      split at taken
      · next session created =>
        cases taken
        refine ⟨sound.recorded, ?_, ?_⟩
        · rintro - _ ⟨⟩
          exact authorized_setup sound.recorded created
        · intro call busy
          cases running.symm.trans busy
      · cases taken
    · cases taken

/-- In every run of the sessions of one authorization, every call of an
adapter is permitted where it is made, and a session that permits the sidecar
to stop has nothing held and no route installed. -/
theorem session_keeps_interlock {setup : Setup} {system : System}
    (reached : Reaches (System.step setup) (fun _ _ => True) .initial system) :
    (∀ action rest, system.running = some (.act action rest) →
        system.world.Permits setup.authorization action) ∧
      (system.running = none →
        ∀ session, system.session = some session →
          session.permitsSidecarStop = true →
          system.world.held = [] ∧ system.world.installed = []) := by
  have sound : system.Sound setup.authorization :=
    reached.invariant .initial fun _ _ _ held _ taken => held.step taken
  constructor
  · intro action rest running
    exact (sound.busy _ running).1
  · intro idle session found permits
    obtain ⟨-, fits⟩ := sound.idle idle session found
    have clear : system.world.held = [] ∧ system.world.exposed = [] := by
      simp only [permitsSidecarStop, Bool.or_eq_true,
        decide_eq_true_eq] at permits
      rcases permits with state | state
      all_goals
        rw [state] at fits
        exact fits
    refine ⟨clear.1, List.eq_nil_iff_forall_not_mem.mpr ?_⟩
    intro reference member
    have exposed := sound.recorded.installed reference member
    rw [clear.2] at exposed
    cases exposed

/-! ## A crash after the routes were applied -/

def sampleSetup : Setup where
  authorization := {
    runtimeGeneration := 1
    binding := {
      brokerProtocolVersion := 1
      brokerGeneration := 17
      sidecarInstanceId := ascii "instance.test"
      leaseId := ascii "lease.test.001"
      operationId := ascii "operation.test" }
    tunnel := {
      interfaceName := ascii "utun42"
      mtu := 1420
      hasIpv4 := true
      hasIpv6 := true
      instanceId := ascii "instance.test"
      operationId := ascii "operation.test.prepare" } }
  profileRevision := 7
  activeMihomoTunInterfaces := []
  privateCidrs := [ascii "10.127.0.0/16"]

/-- The process ends once the routes are applied; the next one resumes the
held record and disconnects. -/
def crashWhileHeld : List Event :=
  let binding := sampleSetup.authorization.binding
  let written := Event.act (.persisted (.ok ()) true)
  [.resume, .connect, written, .act (.answered (.ok ⟨binding, .held⟩) true),
    written, .act (.applied (.ok ()) true), .crash, .resume, .disconnect,
    .act (.rolledBack (.ok ⟨sessionReference sampleSetup.authorization⟩) true),
    written, .act (.answered (.ok ⟨binding, .released⟩) true), written,
    .finish]

theorem resumed_session_releases :
    ∃ system : System, system.running.isNone ∧
      system.session.any (·.permitsSidecarStop) ∧
      system.world.confirmed = [sampleSetup.authorization.binding] ∧
      system.world.held = [] ∧ system.world.installed = [] := by
  have replayed : (run (System.step sampleSetup) .initial
      crashWhileHeld).map (fun system => (system.running.isNone,
        system.session.any (·.permitsSidecarStop),
        system.world.confirmed)) =
      some (true, true, [sampleSetup.authorization.binding]) := by
    decide +kernel
  obtain ⟨system, reached, seen⟩ := exists_of_replay replayed
  simp only [Prod.mk.injEq] at seen
  obtain ⟨idle, permits, confirmed⟩ := seen
  refine ⟨system, idle, permits, confirmed, ?_⟩
  obtain ⟨session, found, allowed⟩ := (Option.any_eq_true _ _).mp permits
  exact (session_keeps_interlock reached).2
    (Option.isNone_iff_eq_none.mp idle) session found allowed

end KyClash.Networking.RouteSession
