import KyClash.Concurrency.Transition
import KyClash.RouteHelper.V2.Operations

/-!
# Runs of the v2 route coordinator

A run interleaves requests, the timer, the single actions of the operation
that holds the lock, and ends of the process between any two actions.  After
the end of a process a new one reads the journal and reconciles it before it
accepts a request; it may end during that as well.

In every run, the first success that is reported for a lease leaves an empty
table and no journal, and only routes that the lease has durably marked are
deleted.
-/

namespace KyClash.RouteHelper.V2

open Transition
open Program World
open TunnelBroker (ConnectionID)

inductive Request where
  | register (connectionID : ConnectionID)
  | discover (connectionID : ConnectionID)
  | begin (owner : LeaseOwner) (connectionID : ConnectionID)
  | apply (reference : LeaseReference) (connectionID : ConnectionID)
  | rollback (reference : LeaseReference) (connectionID : ConnectionID)
  | recover (owner : LeaseOwner) (connectionID : ConnectionID)
  | heartbeat (reference : LeaseReference) (connectionID : ConnectionID)
  | status (reference : LeaseReference) (connectionID : ConnectionID)
  | unregister (connectionID : ConnectionID)
  | expireLease
  deriving DecidableEq, Repr

/-- What the process is doing: the pass of `init`, or a request. -/
inductive Task where
  | startup
  | request (request : Request)
  deriving DecidableEq, Repr

/-- The memory that a task leaves, and its reply if it has one. -/
abbrev Outcome := Memory × Option HelperReply

/-- The reply of an operation is sent. -/
def Operation.replied (operation : Operation) : Helper Outcome := do
  let (memory, reply) ← operation
  return (memory, some reply)

def unreplied (program : Helper Memory) : Helper Outcome := do
  return (← program, none)

variable (rules : RouteRules)

def Request.program (memory : Memory) : Request → Helper Outcome
  | .register connectionID => return ((V2.register memory connectionID).1, none)
  | .discover connectionID =>
    return (memory, some (V2.discover memory connectionID))
  | .begin owner connectionID =>
    (V2.begin rules memory owner connectionID).replied
  | .apply reference connectionID =>
    (V2.apply rules memory reference connectionID).replied
  | .rollback reference connectionID =>
    (V2.rollback rules memory reference connectionID).replied
  | .recover owner connectionID =>
    (V2.recover rules memory owner connectionID).replied
  | .heartbeat reference connectionID =>
    (V2.heartbeat rules memory reference connectionID).replied
  | .status reference connectionID =>
    (V2.status rules memory reference connectionID).replied
  | .unregister connectionID =>
    (V2.unregister rules memory connectionID).replied
  | .expireLease => unreplied (V2.expireLease rules memory)

/-- The lease for which the task reports a successful rollback: the one that
it held and holds no longer, or the one whose rollback it answers with
idle. -/
def Task.reported (task : Task) (before : Memory) (outcome : Outcome) :
    Option Lease :=
  if before.lease ≠ none ∧ outcome.1.lease = none then before.lease
  else
    match task, outcome.2 with
    | .request (.rollback reference _), some reply =>
      if reply.state = .idle then some (leaseOf reference) else none
    | _, _ => none

/-- The lease that the task has begun. -/
def Task.begun (task : Task) (outcome : Outcome) : Option Lease :=
  match task, outcome.2 with
  | .request (.begin owner _), some reply =>
    if reply.state = .prepared then some (leaseOf owner.reference)
    else none
  | _, _ => none

/-- The process with the world around it.  `running` is what is left of the
task that holds the lock, and `completed` are the leases for which a success
was reported since they were last begun. -/
structure System where
  world : World
  memory : Memory
  running : Option (Task × Helper Outcome)
  completed : List Lease

namespace System

/-- The report of the task that has just returned. -/
def report (system : System) : Option Lease :=
  match system.running with
  | some (task, .ret outcome) => task.reported system.memory outcome
  | _ => none

/-- What a new process reads; the read may fail whatever is on file. -/
def journalRead (file : Option Content) (readable : Bool) : JournalRead :=
  if readable then
    match file with
    | none => .absent
    | some content => .data content
  else .invalid

def restarted (world : World) (readable : Bool) (completed : List Lease) :
    System where
  world := world
  memory := .loaded rules (journalRead world.file readable)
  running := some (.startup, unreplied
    (reconcile rules (.loaded rules (journalRead world.file readable))))
  completed := completed

end System

inductive Event where
  | request (request : Request)
  | act (fortune : Fortune)
  | finish
  | crash (readable : Bool)
  deriving DecidableEq, Repr

def System.step (system : System) : Event → Option System
  | .request request =>
    match system.running with
    | none =>
      some { system with
        running :=
          some (.request request, request.program rules system.memory) }
    | some _ => none
  | .act fortune =>
    match system.running with
    | some (task, .act action rest) =>
      (system.world.perform rules action fortune).map fun outcome =>
        { system with
          world := outcome.2
          running := some (task, rest outcome.1) }
    | _ => none
  | .finish =>
    match system.running with
    | some (task, .ret outcome) =>
      some { system with
        memory := outcome.1
        running := none
        completed := system.completed.filter (task.begun outcome ≠ some ·) ++
            (task.reported system.memory outcome).toList }
    | _ => none
  | .crash readable =>
    some (.restarted rules system.world readable system.completed)

variable {rules} {task : Task} {world : World} {memory : Memory}
  {system : System} {outcome : Outcome} {before : Memory}

/-- What a task has established when it returns. -/
structure Answered (rules : RouteRules) (task : Task) (before : Memory)
    (outcome : Outcome) (world : World) : Prop where
  ended : Ended rules before outcome.1 world
  idle : ∀ reference connectionID reply,
    task = .request (.rollback reference connectionID) →
      outcome.2 = some reply → reply.state = .idle →
      before.lease = some (leaseOf reference) ∧ outcome.1.lease = none ∨
        before.lastCompletedReference = some reference
  prepared : ∀ lease, task.begun outcome = some lease →
    outcome.1.lastCompletedReference = none

/-- Most tasks neither begin nor answer a rollback. -/
def Task.Plain : Task → Prop
  | .request (.begin _ _) => False
  | .request (.rollback _ _) => False
  | _ => True

theorem Ended.answered (ended : Ended rules before outcome.1 world)
    (plain : task.Plain) : Answered rules task before outcome world := by
  refine ⟨ended, ?_, ?_⟩
  · rintro reference connectionID _ rfl
    exact plain.elim
  · intro lease begun
    unfold Task.begun at begun
    split at begun
    · exact plain.elim
    · cases begun

private theorem secure_replied {operation : Operation}
    (secure : Secure rules (fun result => Ended rules memory result.1) operation
      world)
    (plain : task.Plain) :
    Secure rules (Answered rules task memory) operation.replied world := by
  refine secure.bind ?_
  rintro ⟨remaining, reply⟩ after ended
  exact Ended.answered ended plain

theorem secure_unreplied {program : Helper Memory}
    (secure : Secure rules (Ended rules memory) program world)
    (plain : task.Plain) :
    Secure rules (Answered rules task memory) (unreplied program) world := by
  refine secure.bind ?_
  intro remaining after ended
  exact Ended.answered ended plain

private theorem secure_program (steady : Steady rules memory world)
    (request : Request) :
    Secure rules (Answered rules (.request request) memory)
      (request.program rules memory) world := by
  cases request with
  | register connectionID =>
    have same : Ended rules memory (register memory connectionID).1 world := by
      unfold register
      split
      · exact steady.ended
      · exact steady.ended.of_same rfl rfl rfl rfl
    exact Ended.answered same trivial
  | discover connectionID => exact Ended.answered steady.ended trivial
  | begin owner connectionID =>
    refine (secure_begin steady owner connectionID).bind ?_
    rintro ⟨remaining, reply⟩ after ⟨ended, prepared⟩
    refine ⟨ended, nofun, ?_⟩
    intro lease begun
    simp only [Task.begun, Option.ite_none_right_eq_some] at begun
    exact prepared begun.1
  | apply reference connectionID =>
    exact secure_replied (secure_apply steady _ _) trivial
  | rollback reference connectionID =>
    refine (secure_rollback steady reference connectionID).bind ?_
    rintro ⟨remaining, reply⟩ after ⟨ended, idle⟩
    refine ⟨ended, ?_, nofun⟩
    rintro _ _ _ ⟨⟩ ⟨⟩
    exact idle
  | recover owner connectionID =>
    exact secure_replied (secure_recover steady _ _) trivial
  | heartbeat reference connectionID =>
    exact secure_replied (secure_heartbeat steady _ _) trivial
  | status reference connectionID =>
    exact secure_replied (secure_status steady _ _) trivial
  | unregister connectionID =>
    exact secure_replied (secure_unregister steady _) trivial
  | expireLease =>
    exact secure_unreplied (secure_expireLease steady) trivial

/-- A new process whose journal cannot be used does nothing with the table. -/
theorem steady_corrupt (recorded : world.Recorded) :
    Steady rules { Memory.new with journalCorrupt := true } world :=
  ⟨recorded, nofun, nofun, nofun, .inl rfl⟩

private theorem covered_of_file {content : Content} (recorded : world.Recorded)
    (file : world.file = some content) : world.Covered content := by
  intro route member
  obtain ⟨other, found, marked⟩ := recorded route member
  rw [file] at found
  cases found
  exact marked

private theorem steady_loaded (recorded : world.Recorded) (readable : Bool) :
    Steady rules (.loaded rules (System.journalRead world.file readable))
      world := by
  cases readable with
  | false => exact steady_corrupt recorded
  | true =>
    cases file : world.file with
    | none =>
      have empty : world.installed = [] := by
        apply List.eq_nil_iff_forall_not_mem.mpr
        intro route member
        obtain ⟨content, found, -⟩ := recorded route member
        rw [file] at found
        cases found
      exact ⟨recorded, nofun, nofun, fun _ _ _ => empty, .inl rfl⟩
    | some content =>
      have covered := covered_of_file recorded file
      cases content with
      | route journal =>
        simp only [System.journalRead, if_true, Memory.loaded]
        split
        · next valid =>
          refine ⟨recorded, ?_, nofun, nofun, .inr rfl⟩
          rintro _ ⟨⟩
          exact ⟨covered, valid⟩
        · exact steady_corrupt recorded
      | legacy journal =>
        simp only [System.journalRead, if_true, Memory.loaded]
        split
        · refine ⟨recorded, nofun, ?_, nofun, .inl rfl⟩
          rintro _ ⟨⟩
          exact covered
        · exact steady_corrupt recorded
      | undecodable => exact steady_corrupt recorded

/-- What holds in every state of a run. -/
structure System.Sound (rules : RouteRules) (system : System) : Prop where
  recorded : system.world.Recorded
  completed : ∀ reference,
    system.memory.lastCompletedReference = some reference →
      leaseOf reference ∈ system.completed
  idle : system.running = none → Steady rules system.memory system.world
  busy : ∀ task program, system.running = some (task, program) →
    Secure rules (Answered rules task system.memory) program system.world

theorem Memory.lastCompletedReference_loaded (read : JournalRead) :
    (Memory.loaded rules read).lastCompletedReference = none := by
  unfold Memory.loaded
  split
  · rfl
  · split <;> rfl
  · split <;> rfl
  · rfl
  · rfl

theorem System.Sound.restarted {readable : Bool} {completed : List Lease}
    (recorded : world.Recorded) :
    (System.restarted rules world readable completed).Sound rules := by
  refine ⟨recorded, ?_, nofun, ?_⟩
  · intro reference found
    cases (Memory.lastCompletedReference_loaded _).symm.trans found
  · rintro task program ⟨⟩
    exact secure_unreplied (secure_reconcile (steady_loaded recorded readable))
      trivial

theorem Answered.completed {leases : List Lease}
    (answered : Answered rules task before outcome world)
    (known : ∀ reference, before.lastCompletedReference = some reference →
      leaseOf reference ∈ leases)
    (reference : LeaseReference)
    (last : outcome.1.lastCompletedReference = some reference) :
    leaseOf reference ∈
      leases.filter (task.begun outcome ≠ some ·) ++
        (task.reported before outcome).toList := by
  rcases answered.ended.completed reference last with earlier | now
  · apply List.mem_append_left
    refine List.mem_filter.mpr ⟨known reference earlier, ?_⟩
    rw [decide_eq_true_eq]
    intro begun
    cases (answered.prepared _ begun).symm.trans last
  · apply List.mem_append_right
    have holds : before.lease ≠ none := by
      rw [now.1]
      exact Option.some_ne_none _
    unfold Task.reported
    rw [if_pos ⟨holds, now.2⟩, now.1]
    exact List.mem_singleton_self _

theorem System.Sound.step {after : System} {event : Event}
    (sound : system.Sound rules)
    (taken : system.step rules event = some after) : after.Sound rules := by
  cases event with
  | request request =>
    cases running : system.running with
    | some current => simp [System.step, running] at taken
    | none =>
      simp only [System.step, running, Option.some.injEq] at taken
      subst taken
      refine ⟨sound.recorded, sound.completed, nofun, ?_⟩
      rintro task program ⟨⟩
      exact secure_program (sound.idle running) request
  | act fortune =>
    simp only [System.step] at taken
    split at taken
    · next task action rest running =>
      obtain ⟨⟨result, world⟩, performed, same⟩ :=
        Option.map_eq_some_iff.mp taken
      subst same
      obtain ⟨recorded, continues⟩ :=
        (sound.busy task _ running).2 result world ⟨fortune, performed⟩
      refine ⟨recorded, sound.completed, nofun, ?_⟩
      rintro other program ⟨⟩
      exact continues trivial
    · cases taken
  | finish =>
    simp only [System.step] at taken
    split at taken
    · next task outcome running =>
      cases taken
      have answered := sound.busy task _ running
      exact ⟨sound.recorded, answered.completed sound.completed,
        fun _ => answered.ended.steady, nofun⟩
    · cases taken
  | crash readable =>
    cases taken
    exact .restarted sound.recorded

theorem System.Sound.retired {lease : Lease} (sound : system.Sound rules)
    (report : system.report = some lease) (first : lease ∉ system.completed) :
    system.world.installed = [] ∧ system.world.file = none := by
  unfold System.report at report
  split at report
  · next task outcome running =>
    have answered := sound.busy task _ running
    unfold Task.reported at report
    split at report
    · next gone =>
      exact answered.ended.retired gone.1 gone.2
    · next kept =>
      split at report
      · next reference connectionID reply replied =>
        simp only [Option.ite_none_right_eq_some, Option.some.injEq] at report
        obtain ⟨idle, rfl⟩ := report
        rcases answered.idle reference connectionID reply rfl replied idle
          with ⟨held, gone⟩ | repeated
        · exact absurd ⟨by simp [held], gone⟩ kept
        · exact absurd (sound.completed reference repeated) first
      · cases report
  · cases report

/-- In every run from a journal that marks every installed route, the first
success that is reported for a lease leaves no installed route and no journal;
a route is deleted only for the lease on file, which has marked exactly this
route on its interface as pending or applied; and every installed route is
marked so. -/
theorem first_success_retires_and_deletions_are_marked {world : World}
    {readable : Bool} {system : System} (recorded : world.Recorded)
    (reached : Reaches (System.step rules) (fun _ _ => True)
      (.restarted rules world readable []) system) :
    (∀ lease, system.report = some lease → lease ∉ system.completed →
        system.world.installed = [] ∧ system.world.file = none) ∧
      (∀ task cidr interfaceName lease rest,
        system.running =
            some (task, .act (.mutate .delete cidr interfaceName lease) rest) →
          ∃ content, system.world.file = some content ∧
            content.lease = some lease ∧
            ⟨cidr, interfaceName⟩ ∈ content.routes) ∧
      ∀ route ∈ system.world.installed, ∃ content,
        system.world.file = some content ∧ route ∈ content.routes := by
  have sound : system.Sound rules :=
    reached.invariant (.restarted recorded) fun _ _ _ sound _ taken =>
      sound.step taken
  refine ⟨fun lease report first => sound.retired report first, ?_,
    sound.recorded⟩
  intro task cidr interfaceName lease rest running
  exact (sound.busy task _ running).1

/-! ## A crash during apply -/

/-- Rules under which every text is an IPv4 network of its own. -/
def sampleRules : RouteRules where
  validCIDR := fun _ => true
  ipv4 := fun _ => some true
  overlap := fun _ _ => false

/-- The interface is "utun4". -/
def sampleOwner : LeaseOwner where
  reference := ⟨protocolVersion, List.replicate 8 0x62, List.replicate 8 0x63⟩
  sidecarInstanceID := List.replicate 8 0x61
  interfaceName := [117, 116, 117, 110, 52]
  tunnelOperationID := List.replicate 8 0x63 ++ prepareSuffix
  mtu := 1420
  profileRevision := 1
  hasIPv4 := true
  hasIPv6 := false
  activeMihomoTunInterfaces := []
  privateCIDRs := [[49]]

/-- An inspection of the one route. -/
def sampleSeen (ownedExact : Bool) : Event :=
  .act (.seen [([49], ⟨ownedExact, false⟩)])

/-- The process ends right after the first route was added.  The next one
finds the route, deletes it and removes the journal. -/
def crashDuringApply : List Event :=
  [.finish, .request (.register 0), .finish, .request (.begin sampleOwner 0),
    sampleSeen false,
    .act (.done true true), .act (.date 0), .finish,
    .request (.apply sampleOwner.reference 0), sampleSeen false,
    .act (.done true true), .act (.done true true), .crash true,
    sampleSeen true, .act (.done true true), sampleSeen true,
    .act (.done true true), sampleSeen false, .act (.done true true),
    .act (.done true true)]

theorem startup_retires_crashed_lease :
    ∃ system : System, system.report = some (leaseOf sampleOwner.reference) ∧
      leaseOf sampleOwner.reference ∉ system.completed ∧
      system.world.installed = [] ∧ system.world.file = none := by
  have replayed : (run (System.step sampleRules)
      (.restarted sampleRules ⟨none, []⟩ true []) crashDuringApply).map
        (fun system => (system.report, system.completed)) =
      some (some (leaseOf sampleOwner.reference), []) := by
    decide +kernel
  obtain ⟨system, reached, seen⟩ := exists_of_replay replayed
  obtain ⟨report, completed⟩ := Prod.mk.inj seen
  have first : leaseOf sampleOwner.reference ∉ system.completed := by
    rw [completed]
    exact List.not_mem_nil
  exact ⟨system, report, first, (first_success_retires_and_deletions_are_marked
      (recorded_of_empty rfl) reached).1 _ report first⟩

end KyClash.RouteHelper.V2
