import KyClash.RouteHelper.Operations

/-!
# Runs of the v3 route helper

A run interleaves requests, the single actions of the operation that is being
handled, ends of the process, power losses and late route commands.  After a
crash the startup pass runs before any request is accepted.

In every run that is not disturbed, the durable journal lists every installed
route and a release is asked for only under a durable retirement record.  A
run is disturbed when the process lives on after a spoiled release, when it
ends while its retirement record is visible but not synced and a new one finds
that record, or when an abandoned route command takes effect after all.
-/

namespace KyClash.RouteHelper

open Program World TunnelBroker

inductive Request where
  | register (connectionID : ConnectionID)
  | discover (connectionID : ConnectionID)
  | begin (owner : LeaseOwnerV3) (connectionID : ConnectionID)
  | apply (reference : LeaseReferenceV3) (connectionID : ConnectionID)
  | rollback (reference : LeaseReferenceV3) (connectionID : ConnectionID)
  | recover (owner : LeaseOwnerV3) (connectionID : ConnectionID)
  | heartbeat (reference : LeaseReferenceV3) (connectionID : ConnectionID)
  | status (reference : LeaseReferenceV3) (connectionID : ConnectionID)
  | invalidate (connectionID : ConnectionID)
  | watchdogTick
  deriving DecidableEq, Repr

variable (rules : RouteRules)

def Operation.memory (operation : Operation) : Helper Memory := do
  return (← operation).1

def Request.program (memory : Memory) : Request → Helper Memory
  | .register connectionID =>
    return (RouteHelper.register memory connectionID).1
  | .discover _ => return memory
  | .begin owner connectionID =>
    (RouteHelper.begin rules memory owner connectionID).memory
  | .apply reference connectionID =>
    (RouteHelper.apply rules memory reference connectionID).memory
  | .rollback reference connectionID =>
    (RouteHelper.rollback rules memory reference connectionID).memory
  | .recover owner connectionID =>
    (RouteHelper.recover rules memory owner connectionID).memory
  | .heartbeat reference connectionID =>
    (RouteHelper.heartbeat memory reference connectionID).memory
  | .status reference connectionID =>
    (RouteHelper.status memory reference connectionID).memory
  | .invalidate connectionID =>
    (RouteHelper.invalidate rules memory connectionID).memory
  | .watchdogTick => heartbeatWatchdogTick rules memory

/-- The helper process with the world around it.  `running` is what is left
of the operation that holds the lock. -/
structure System where
  world : World
  memory : Memory
  running : Option (Helper Memory)

/-- The memory of a new process: a file that is no valid record is corrupt. -/
def loaded : Option RouteJournalV3 → Memory
  | none => .new none false
  | some journal =>
    if journal.isValid rules then .new (some journal) false
    else .new none true

/-- The identity of the startup pass. -/
def startupConnectionID : ConnectionID := 8

def System.restarted (world : World) : System where
  world := { world with current := world.file }
  memory := loaded rules world.file
  running :=
    some (reconcileStartup rules (loaded rules world.file)
      startupConnectionID).memory

/-- Power loss clears the routing table and kills every command. -/
def World.afterPowerLoss (content : Option RouteJournalV3) : World where
  file := content
  unsynced := []
  current := content
  installed := []
  abandoned := []

def System.initial : System := .restarted rules .initial

/-- A retirement record is visible, but an older record may come back. -/
def World.Unsettled (world : World) : Prop :=
  ∃ journal, world.file = some journal ∧
    journal.state = .retirementPending ∧ world.unsynced ≠ []

/-- One step, and whether it disturbs the run. -/
inductive System.Step : System → (disturbed : Prop) → System → Prop where
  | request {system : System} (request : Request)
      (idle : system.running = none) :
      Step system False
        { system with running := some (request.program rules system.memory) }
  | act {system : System} {action : Act}
      {rest : Act.Res action → Helper Memory} {result : Act.Res action}
      {after : World} (running : system.running = some (.act action rest))
      (done : Acts rules system.world action result after) :
      Step system (Spoiled system.world action result after)
        { system with world := after, running := some (rest result) }
  | finish {system : System} {memory : Memory}
      (running : system.running = some (.ret memory)) :
      Step system False { system with memory, running := none }
  | crash {system : System} :
      Step system system.world.Unsettled (.restarted rules system.world)
  /-- The process ends during an action, whatever that action did. -/
  | crashDuring {system : System} {action : Act}
      {rest : Act.Res action → Helper Memory} {result : Act.Res action}
      {after : World} (running : system.running = some (.act action rest))
      (done : Acts rules system.world action result after) :
      Step system after.Unsettled (.restarted rules after)
  | powerLoss {system : System} {content : Option RouteJournalV3}
      (possible : content ∈ system.world.file :: system.world.unsynced) :
      Step system False (.restarted rules (.afterPowerLoss content))
  | late {system : System} {command : RouteCommand}
      (abandoned : command ∈ system.world.abandoned) :
      Step system True
        { system with
          world :=
            { system.world.changed command with
              abandoned := system.world.abandoned.erase command } }

/-- The states of the runs whose steps all satisfy `admitted`. -/
inductive System.Reached (admitted : Prop → Prop) : System → Prop where
  | start : Reached admitted (.initial rules)
  | next {system after : System} {disturbed : Prop}
      (reached : Reached admitted system)
      (taken : system.Step rules disturbed after)
      (allowed : admitted disturbed) : Reached admitted after

/-- The runs without a disturbance. -/
abbrev System.Undisturbed : System → Prop := System.Reached rules Not

variable {rules} {world : World} {system : System} {after : System}
  {action : Act}

theorem Keeps.memory {operation : Operation}
    (keeps : Keeps rules operation world) :
    Secure rules (Ready rules) operation.memory world := by
  refine keeps.bind ?_
  intro result after ready
  exact ready

private theorem secure_program {memory : Memory}
    (ready : Ready rules memory world) (request : Request) :
    Secure rules (Ready rules) (request.program rules memory) world := by
  cases request with
  | register connectionID =>
    have same : (register memory connectionID).1.journal = memory.journal ∧
        (register memory connectionID).1.recoveryOnly =
          memory.recoveryOnly := by
      unfold register
      split <;> exact ⟨rfl, rfl⟩
    exact ready.of_journal same.1 (fun mode => same.2.symm.trans mode)
  | discover => exact ready
  | begin owner connectionID =>
    exact (keeps_begin ready owner connectionID).memory
  | apply reference connectionID =>
    exact (keeps_apply ready reference connectionID).memory
  | rollback reference connectionID =>
    exact (keeps_retireLocked ready reference connectionID).memory
  | recover owner connectionID =>
    exact (keeps_recover ready owner connectionID).memory
  | heartbeat reference connectionID =>
    exact (keeps_heartbeat ready reference connectionID).memory
  | status reference connectionID =>
    exact (keeps_status ready reference connectionID).memory
  | invalidate connectionID =>
    exact (keeps_invalidate ready connectionID).memory
  | watchdogTick => exact keeps_heartbeatWatchdogTick ready

/-- Every content that a power loss may bring back is a valid record. -/
def World.HistoryValid (rules : RouteRules) (world : World) : Prop :=
  ∀ journal, some journal ∈ world.unsynced → journal.isValid rules = true

theorem World.HistoryValid.acts {after : World} {result : Act.Res action}
    (valid : ∀ journal, world.file = some journal →
      journal.isValid rules = true)
    (history : world.HistoryValid rules)
    (done : Acts rules world action result after) :
    after.HistoryValid rules := by
  have renamed : ∀ content, (world.renamed content).HistoryValid rules := by
    intro content journal member
    rcases List.mem_cons.mp member with visible | older
    · exact valid journal visible.symm
    · exact history journal older
  cases done with
  | persisted | removed =>
    intro journal member
    cases member
  | persistUnsynced | removeUnsynced => exact renamed _
  | mutated =>
    intro journal member
    rw [unsynced_changed] at member
    exact history journal member
  | _ => exact history

private theorem steady_loaded (recorded : world.Recorded rules)
    (settled : ¬ world.Unsettled) :
    Steady rules (loaded rules world.file)
      { world with current := world.file } := by
  have kept : ({ world with current := world.file } : World).Recorded
      rules := recorded.of_same rfl rfl rfl
  cases file : world.file with
  | none =>
    have vacant : world.installed = [] := by
      apply List.eq_nil_iff_forall_not_mem.mpr
      intro route member
      obtain ⟨journal, found, -⟩ :=
        recorded.listed route member _ List.mem_cons_self
      rw [file] at found
      cases found
    exact ⟨file ▸ kept, nofun, fun _ => vacant, nofun, nofun⟩
  | some journal =>
    have valid := recorded.valid journal file
    have memory : loaded rules (some journal) = .new (some journal) false := by
      simp [loaded, valid]
    rw [memory]
    refine ⟨file ▸ kept, ?_, nofun, ?_, ?_⟩
    · rintro other ⟨⟩ route member
      obtain ⟨listing, found, lists, -⟩ :=
        recorded.listed route member _ List.mem_cons_self
      rw [file] at found
      cases found
      exact lists
    · rintro other ⟨⟩ state
      refine ⟨rfl, ?_⟩
      by_contra older
      exact settled ⟨journal, file, state, older⟩
    · rintro other ⟨⟩ state
      rcases RouteJournalV3.mutable_of_isValid valid with
        held | applied | unlisted
      · rw [state] at held
        cases held
      · rw [state] at applied
        cases applied
      · exact unlisted

/-- What holds in every state of an undisturbed run. -/
structure System.Sound (rules : RouteRules) (system : System) : Prop where
  recorded : system.world.Recorded rules
  history : system.world.HistoryValid rules
  idle : system.running = none → Ready rules system.memory system.world
  busy : ∀ program, system.running = some program →
    Secure rules (Ready rules) program system.world

theorem System.Sound.restarted (recorded : world.Recorded rules)
    (history : world.HistoryValid rules) (settled : ¬ world.Unsettled) :
    (System.restarted rules world).Sound rules := by
  refine ⟨recorded.of_same rfl rfl rfl, history, nofun, ?_⟩
  rintro program ⟨⟩
  exact (keeps_reconcileStartup (steady_loaded recorded settled) _).memory

theorem System.Sound.step {disturbed : Prop} (sound : system.Sound rules)
    (taken : system.Step rules disturbed after) (undisturbed : ¬ disturbed) :
    after.Sound rules := by
  cases taken with
  | request request idle =>
    refine ⟨sound.recorded, sound.history, nofun, ?_⟩
    rintro program ⟨⟩
    exact secure_program (sound.idle idle) request
  | act running done =>
    have safe := sound.busy _ running
    obtain ⟨recorded, continues⟩ := safe.2 _ _ done
    refine ⟨recorded, sound.history.acts sound.recorded.valid done, nofun, ?_⟩
    rintro program ⟨⟩
    exact continues undisturbed
  | finish running =>
    refine ⟨sound.recorded, sound.history, ?_, nofun⟩
    intro _
    exact sound.busy _ running
  | crash => exact .restarted sound.recorded sound.history undisturbed
  | crashDuring running done =>
    obtain ⟨recorded, -⟩ := (sound.busy _ running).2 _ _ done
    exact .restarted recorded (sound.history.acts sound.recorded.valid done)
      undisturbed
  | powerLoss possible =>
    apply System.Sound.restarted
    · refine ⟨nofun, ?_⟩
      rintro journal rfl
      rcases List.mem_cons.mp possible with visible | older
      · exact sound.recorded.valid journal visible.symm
      · exact sound.history journal older
    · intro journal member
      cases member
    · rintro ⟨journal, -, -, older⟩
      exact older rfl
  | late abandoned => exact absurd trivial undisturbed

theorem System.Undisturbed.sound (reached : System.Undisturbed rules system) :
    system.Sound rules := by
  induction reached with
  | start =>
    refine .restarted ⟨nofun, nofun⟩ nofun ?_
    rintro ⟨journal, ⟨⟩, -⟩
  | next _ taken allowed ih => exact ih.step taken allowed

/-- In every undisturbed run, each installed route is listed by the durable
journal of its lease, in state held or applied, and a release that is about to
be asked for is permitted. -/
theorem routes_listed_and_releases_permitted {system : System}
    (reached : System.Undisturbed rules system) :
    system.world.Listed ∧
      ∀ reference rest, system.running = some (.act (.release reference) rest) →
        system.world.Permits (.release reference) := by
  have sound := System.Undisturbed.sound reached
  refine ⟨sound.recorded.listed, ?_⟩
  intro reference rest running
  exact (sound.busy _ running).1

/-! ## Replaying a run -/

/-- How an action of a replayed run turns out. -/
inductive Fortune where
  | good
  | bad
  | answered (reply : RouteBrokerV3Result)
  deriving DecidableEq, Repr

/-- The inspection of a table in which only the helper installs routes. -/
def World.inspection (world : World) (cidrs : List Text)
    (interfaceName : Text) : List (Text × RouteInspection) :=
  cidrs.map fun cidr =>
    (cidr, ⟨world.installed.any fun route =>
      route.cidr = cidr && route.interfaceName = interfaceName, false⟩)

variable (rules)

def World.perform (world : World) (fortune : Fortune) :
    (action : Act) → Option (Act.Res action × World)
  | .inspect cidrs interfaceName _ =>
    some (some (world.inspection cidrs interfaceName), world)
  | .mutate action cidr interfaceName lease =>
    some (true, world.changed ⟨action, ⟨lease, cidr, interfaceName⟩⟩)
  | .persist value =>
    if fortune = .bad then some (false, world)
    else if value.isValid rules then some (true, world.synced (some value))
    else none
  | .remove reference =>
    if fortune = .bad then some (false, world)
    else if world.current.any (·.reference = reference) ∧
        world.file = world.current then
      some (true, world.synced none)
    else none
  | .hold _ =>
    match fortune with
    | .answered reply => some (reply, world)
    | _ => some (.held, world)
  | .release _ =>
    match fortune with
    | .answered reply => some (reply, world)
    | _ => some (.released, world)
  | .status _ =>
    match fortune with
    | .answered reply => some (reply, world)
    | _ => some (.held, world)
  | .now => some (0, world)

/-- One step of a replay: a request, or the next action of the running
operation.  A finished operation is left on the way. -/
def System.replayStep (system : System) : Request ⊕ Fortune → Option System
  | .inl request =>
    match system.running with
    | none =>
      some { system with
        running := some (request.program rules system.memory) }
    | some (.ret memory) =>
      some { system with
        memory, running := some (request.program rules memory) }
    | some (.act _ _) => none
  | .inr fortune =>
    match system.running with
    | some (.act action rest) =>
      (system.world.perform rules fortune action).map fun outcome =>
        { system with
          world := outcome.2, running := some (rest outcome.1) }
    | _ => none

def System.replay (system : System) : List (Request ⊕ Fortune) → Option System
  | [] => some system
  | choice :: rest => (system.replayStep rules choice).bind (·.replay rest)

variable {rules}

theorem World.inspection_truthful (world : World) (cidrs : List Text)
    (interfaceName : Text) :
    ∀ cidr inspection,
      (world.inspection cidrs interfaceName).lookup cidr = some inspection →
        world.Installed cidr interfaceName → inspection.ownedExact = true := by
  intro cidr inspection found installed
  obtain ⟨route, member, same, interface_eq⟩ := installed
  induction cidrs with
  | nil => cases found
  | cons first rest ih =>
    simp only [World.inspection, List.map_cons, List.lookup_cons] at found
    split at found
    · next equal =>
      obtain rfl : cidr = first := by simpa using equal
      cases found
      simp only [List.any_eq_true, Bool.and_eq_true, decide_eq_true_eq]
      exact ⟨route, member, same, interface_eq⟩
    · exact ih found

theorem World.perform_acts {after : World} {fortune : Fortune}
    {result : Act.Res action}
    (performed : world.perform rules fortune action = some (result, after)) :
    Acts rules world action result after ∧
      (fortune ≠ .bad → ¬ Spoiled world action result after) := by
  cases action with simp only [World.perform] at performed
  | inspect cidrs interfaceName trusted =>
    cases performed
    exact ⟨.inspect (world.inspection_truthful cidrs interfaceName),
      fun _ spoiled => nomatch spoiled⟩
  | mutate action cidr interfaceName lease =>
    cases performed
    exact ⟨.mutated true, fun _ spoiled => nomatch spoiled⟩
  | persist value =>
    split at performed
    · next bad =>
      cases performed
      exact ⟨.unpersisted, fun lucky => absurd bad lucky⟩
    · obtain ⟨valid, ⟨⟩⟩ := Option.ite_none_right_eq_some.mp performed
      exact ⟨.persisted valid, fun _ spoiled => nomatch spoiled⟩
  | remove reference =>
    split at performed
    · next bad =>
      cases performed
      exact ⟨.unremoved, fun lucky => absurd bad lucky⟩
    · obtain ⟨owned, ⟨⟩⟩ := Option.ite_none_right_eq_some.mp performed
      cases current : world.current with
      | none => simp [current] at owned
      | some journal =>
        simp only [current, Option.any_some, decide_eq_true_eq] at owned
        exact ⟨.removed current owned.1 owned.2,
          fun _ spoiled => nomatch spoiled⟩
  | hold reference =>
    split at performed <;> cases performed <;>
      exact ⟨.hold _, fun _ spoiled => nomatch spoiled⟩
  | release reference =>
    split at performed <;> cases performed <;>
      exact ⟨.release _, fun _ spoiled => nomatch spoiled⟩
  | status reference =>
    split at performed <;> cases performed <;>
      exact ⟨.status _, fun _ spoiled => nomatch spoiled⟩
  | now =>
    cases performed
    exact ⟨.now _, fun _ spoiled => nomatch spoiled⟩

/-- Every replayed state is reached, without a disturbance if no action had
bad luck. -/
theorem System.Reached.replay {admitted : Prop → Prop}
    (harmless : admitted False) {choices : List (Request ⊕ Fortune)}
    (reached : System.Reached rules admitted system)
    (allowed : ∀ fortune, .inr fortune ∈ choices →
      ∀ disturbed : Prop, (fortune ≠ .bad → ¬ disturbed) → admitted disturbed)
    (replayed : system.replay rules choices = some after) :
    System.Reached rules admitted after := by
  induction choices generalizing system with
  | nil =>
    cases replayed
    exact reached
  | cons choice rest ih =>
    obtain ⟨middle, stepped, remaining⟩ := Option.bind_eq_some_iff.mp replayed
    have later : ∀ fortune, .inr fortune ∈ rest → ∀ disturbed : Prop,
        (fortune ≠ .bad → ¬ disturbed) → admitted disturbed := by
      intro fortune member
      exact allowed fortune (List.mem_cons_of_mem _ member)
    refine ih ?_ later remaining
    cases choice with
    | inl request =>
      simp only [System.replayStep] at stepped
      split at stepped
      · next idle =>
        cases stepped
        exact .next reached (.request request idle) harmless
      · next memory running =>
        cases stepped
        have finished := System.Reached.next reached (.finish running) harmless
        exact .next finished (.request request rfl) harmless
      · cases stepped
    | inr fortune =>
      simp only [System.replayStep] at stepped
      split at stepped
      · next action rest running =>
        obtain ⟨⟨result, world⟩, performed, same⟩ :=
          Option.map_eq_some_iff.mp stepped
        cases same
        obtain ⟨done, unspoiled⟩ := World.perform_acts performed
        exact .next reached (.act running done)
          (allowed fortune List.mem_cons_self _ unspoiled)
      · cases stepped

/-! ## A route under its record, and a release asked for twice -/

/-- Rules under which every text is an IPv4 network of its own. -/
def exampleRules : RouteRules where
  validCIDR := fun _ => true
  ipv4 := fun _ => some true
  overlap := fun _ _ => false

def exampleLease : LeaseReferenceV3 where
  protocolVersion := routeHelperV3ProtocolVersion
  brokerProtocolVersion := routeBrokerProtocolVersion
  brokerGeneration := 1
  sidecarInstanceID := List.replicate 8 0x61
  leaseID := List.replicate 8 0x62
  operationID := List.replicate 8 0x63

/-- The interface is "utun4". -/
def exampleOwner : LeaseOwnerV3 where
  reference := exampleLease
  sidecarInstanceID := exampleLease.sidecarInstanceID
  interfaceName := [117, 116, 117, 110, 52]
  tunnelOperationID := exampleLease.operationID ++ prepareSuffix
  mtu := 1420
  profileRevision := 1
  hasIPv4 := true
  hasIPv6 := false
  activeMihomoTunInterfaces := []
  privateCIDRs := [[49]]

/-- A connection begins the lease; every action succeeds. -/
def beginLease : List (Request ⊕ Fortune) :=
  [.inl (.register 0), .inl (.begin exampleOwner 0), .inr .good, .inr .good,
    .inr .good, .inr .good, .inr .good, .inr .good]

/-- The route is marked and added. -/
def installRoute : List (Request ⊕ Fortune) :=
  beginLease ++ [.inl (.apply exampleLease 0), .inr .good, .inr .good]

/-- The lease is rolled back and released, but the journal file cannot be
removed; then the rollback is asked for again. -/
def repeatRollback : List (Request ⊕ Fortune) :=
  beginLease ++
    [.inl (.rollback exampleLease 0), .inr .good, .inr .good, .inr .good,
      .inr .bad, .inl (.rollback exampleLease 0)]

/-- The release that the running operation is about to ask for. -/
def System.nextRelease (system : System) : Option LeaseReferenceV3 :=
  match system.running with
  | some (.act (.release reference) _) => some reference
  | _ => none

theorem System.running_of_nextRelease {reference : LeaseReferenceV3}
    (next : system.nextRelease = some reference) :
    ∃ rest, system.running = some (.act (.release reference) rest) := by
  unfold System.nextRelease at next
  split at next
  · next other rest running =>
    cases next
    exact ⟨rest, running⟩
  · cases next

private theorem undisturbed_replay {choices : List (Request ⊕ Fortune)}
    (lucky : .inr .bad ∉ choices)
    (replayed : (System.initial rules).replay rules choices = some system) :
    System.Undisturbed rules system := by
  refine System.Reached.replay not_false .start ?_ replayed
  intro fortune member disturbed undisturbed
  apply undisturbed
  rintro rfl
  exact lucky member

/-- A lease with a route in the table, and one whose release is about to be
asked for, in undisturbed runs. -/
theorem installed_route_is_listed :
    (∃ system, System.Undisturbed exampleRules system ∧
      system.world.installed =
        [⟨exampleLease, [49], exampleOwner.interfaceName⟩] ∧
      system.world.Listed) ∧
    ∃ system, System.Undisturbed exampleRules system ∧
      system.world.Permits (.release exampleLease) := by
  have installed : ((System.initial exampleRules).replay exampleRules
      installRoute).map (·.world.installed) =
        some [⟨exampleLease, [49], exampleOwner.interfaceName⟩] := by
    decide +kernel
  have retiring : ((System.initial exampleRules).replay exampleRules
      (beginLease ++ [.inl (.rollback exampleLease 0), .inr .good])).map
        System.nextRelease = some (some exampleLease) := by
    decide +kernel
  obtain ⟨system, replayed, routes⟩ := Option.map_eq_some_iff.mp installed
  obtain ⟨later, rolled, next⟩ := Option.map_eq_some_iff.mp retiring
  have reached := undisturbed_replay (by simp [installRoute, beginLease]) replayed
  have releasing := undisturbed_replay (by simp [beginLease]) rolled
  obtain ⟨rest, running⟩ := System.running_of_nextRelease next
  exact ⟨⟨system, reached, routes,
      (routes_listed_and_releases_permitted reached).1⟩,
    later, releasing,
    (routes_listed_and_releases_permitted releasing).2 _ rest running⟩

/-- After the failed removal the file says released, and the next rollback is
about to ask the broker for the release again. -/
theorem release_is_asked_for_under_released_record :
    ∃ system, System.Reached exampleRules (fun _ => True) system ∧
      (∃ rest, system.running = some (.act (.release exampleLease) rest)) ∧
      system.world.file.map (·.state) = some .released ∧
      ¬ system.world.Permits (.release exampleLease) := by
  have stuck : ((System.initial exampleRules).replay exampleRules
          repeatRollback).map
        (fun system => (system.nextRelease, system.world.file.map (·.state))) =
      some (some exampleLease, some .released) := by
    decide +kernel
  obtain ⟨system, replayed, seen⟩ := Option.map_eq_some_iff.mp stuck
  obtain ⟨next, state⟩ := Prod.mk.inj seen
  have reached : System.Reached exampleRules (fun _ => True) system :=
    System.Reached.replay trivial .start (fun _ _ _ _ => trivial) replayed
  refine ⟨system, reached, System.running_of_nextRelease next, state, ?_⟩
  rintro ⟨durable, -⟩
  obtain ⟨journal, file, -, retiring⟩ := durable _ List.mem_cons_self
  rw [file] at state
  have released : journal.state = .released := Option.some.inj state
  rw [retiring] at released
  cases released

end KyClash.RouteHelper
