import KyClash.RouteHelper.BrokerAnswer
import KyClash.RouteHelper.Records
import KyClash.RouteHelper.Runs

/-!
# Startup reconciliation against the broker

The startup pass of a new helper process over the journal that a crash left
behind, together with the tunnel broker.  Every inspection, route command and
journal write succeeds, and the broker answers as it is coded.

The pass ends clean exactly when the journal is absent or released already, or
the broker still knows the lease's tuple.
-/

namespace KyClash.RouteHelper

open Program World
open TunnelBroker (Broker ConnectionID)

/-- The helper's world with the broker. -/
structure Site where
  world : World
  broker : Broker
  deriving DecidableEq, Repr

variable (rules : RouteRules)

/-- What each action does when everything succeeds.  A write checks its
record and a removal its file, as they are coded. -/
def Site.outcome (site : Site) : (action : Act) → Act.Res action × Site
  | .inspect cidrs interfaceName _ =>
    (some (site.world.inspection cidrs interfaceName), site)
  | .mutate action cidr interfaceName lease =>
    (true, { site with
      world := site.world.changed ⟨action, ⟨lease, cidr, interfaceName⟩⟩ })
  | .persist value =>
    if value.isValid rules then
      (true, { site with world := site.world.synced (some value) })
    else
      (false, site)
  | .remove reference =>
    if site.world.current.any (·.reference = reference) ∧
        site.world.file = site.world.current then
      (true, { site with world := site.world.synced none })
    else
      (false, site)
  | .hold reference =>
    let result := site.broker.holdV3 reference.binding 0
    (RootBrokerRouteV3Adapter.hold result.2, { site with broker := result.1 })
  | .release reference =>
    let result := brokerRelease site.broker reference.binding
    (RootBrokerRouteV3Adapter.release result.2,
      { site with broker := result.1 })
  | .status reference =>
    let result := site.broker.routeStatusV3 reference.binding 0
    (RootBrokerRouteV3Adapter.status result.2, { site with broker := result.1 })
  | .now => (0, site)

/-- What a crash of the process leaves for the next one, at any point and
during any action. -/
inductive System.Crashed (system : System) : World → Prop where
  | death : Crashed system system.world
  | during {action : Act} {rest : Act.Res action → Helper Memory}
      {result : Act.Res action} {after : World}
      (running : system.running = some (.act action rest))
      (done : Acts rules system.world action result after) :
      Crashed system after
  | powerLoss {content : Option RouteJournalV3}
      (possible : content ∈ system.world.file :: system.world.unsynced) :
      Crashed system (.afterPowerLoss content)

def startup (site : Site) : (Memory × HelperReplyV3) × Site :=
  (reconcileStartup rules (loaded rules site.world.file)
    startupConnectionID).exec (Site.outcome rules)
      { site with
        world := { site.world with current := site.world.file } }

/-- No journal is left and a new connection finds the helper idle. -/
structure Clean (memory : Memory) (world : World) : Prop where
  file : world.file = none
  mode : memory.recoveryOnly = false
  discover : ∀ connectionID,
    RouteHelper.discover (register memory connectionID).1 connectionID =
      .plain .idle none

variable {rules} {site : Site} {journal : RouteJournalV3} {cidr : Text}
  {memory : Memory} {α : Type} {world : World} {system : System}

/-- The record is on file, and the store remembers it. -/
structure World.Written (world : World) (journal : RouteJournalV3) : Prop where
  file : world.file = some journal
  current : world.current = some journal

theorem written_synced (world : World) (journal : RouteJournalV3) :
    (world.synced (some journal)).Written journal :=
  ⟨rfl, rfl⟩

theorem exec_persist (valid : journal.isValid rules = true)
    (next : Bool → Helper α) :
    (Seam.persist journal >>= next).exec (Site.outcome rules) site =
      (next true).exec (Site.outcome rules)
        { site with world := site.world.synced (some journal) } := by
  simp [Seam.persist, Site.outcome, valid]

theorem exec_remove (journal : RouteJournalV3) {reference : LeaseReferenceV3}
    (written : site.world.Written journal)
    (same : journal.reference = reference) (next : Bool → Helper α) :
    (Seam.remove reference >>= next).exec (Site.outcome rules) site =
      (next true).exec (Site.outcome rules)
        { site with world := site.world.synced none } := by
  simp [Seam.remove, Site.outcome, written.file, written.current, same]

theorem exec_inspect (interfaceName : Text) (trusted : List Text)
    (next : Option (List (Text × RouteInspection)) → Helper α) :
    (Seam.inspect [cidr] interfaceName trusted >>= next).exec
        (Site.outcome rules) site =
      (next
          (some
            [(cidr,
                ⟨site.world.installed.any fun route => route.cidr = cidr &&
                    route.interfaceName = interfaceName,
                  false⟩)])).exec
        (Site.outcome rules) site := rfl

private theorem exec_delete (next : Bool → Helper α) :
    (Seam.mutate .delete cidr journal >>= next).exec (Site.outcome rules) site =
      (next true).exec (Site.outcome rules)
        { site with
          world := site.world.changed ⟨.delete,
            ⟨journal.reference, cidr, journal.owner.interfaceName⟩⟩ } := rfl

private theorem any_changed_delete (world : World) (lease : LeaseReferenceV3)
    (cidr interfaceName : Text) :
    ((world.changed ⟨.delete, ⟨lease, cidr, interfaceName⟩⟩).installed.any
        fun route => route.cidr = cidr && route.interfaceName = interfaceName) =
      false := by
  simp only [changed, List.any_eq_false, List.mem_filter, decide_eq_true_eq,
    Bool.and_eq_true]
  rintro route ⟨-, different⟩ ⟨same, interface_eq⟩
  rcases different with other | other
  · exact other same
  · exact other interface_eq

private theorem exec_release (reference : LeaseReferenceV3)
    (next : RouteBrokerV3Result → Helper α) :
    (Seam.release reference >>= next).exec (Site.outcome rules) site =
      (next (RootBrokerRouteV3Adapter.release
        (brokerRelease site.broker reference.binding).2)).exec
          (Site.outcome rules)
          { site with
            broker := (brokerRelease site.broker reference.binding).1 } :=
  rfl

/-- The condition under which a startup pass ends clean: the record left on
file is released already, or the broker knows its tuple. -/
def Answerable (site : Site) : Prop :=
  ∀ journal, site.world.file = some journal → journal.state = .released ∨
      KnowsTuple site.broker journal.reference.binding

/-- How a retirement ends: an answered release clears the memory and leaves no
file, and otherwise the lease is unreleased. -/
structure Settles (answered : Prop) (memory : Memory)
    (outcome : (Memory × HelperReplyV3) × Site) : Prop where
  cleared : answered →
    outcome.1.1 = memory.cleared ∧ outcome.1.2.unreleased = false ∧
      outcome.2.world.file = none
  failed : ¬answered → outcome.1.2.unreleased = true

section

variable (site) (memory)

private theorem exec_deleteRoute
    (valid : ({ journal with pendingCIDR := some cidr } :
          RouteJournalV3).isValid
        rules = true) :
    ∃ world, (deleteRoute memory journal cidr).exec (Site.outcome rules) site =
      (.ok { journal with pendingCIDR := some cidr }, { site with world }) := by
  let marked := { journal with pendingCIDR := some cidr }
  refine ⟨(site.world.synced (some marked)).changed ⟨.delete,
    ⟨marked.reference, cidr, marked.owner.interfaceName⟩⟩, ?_⟩
  unfold deleteRoute
  rw [exec_persist valid]
  simp only [Bool.not_true, Bool.false_eq_true, if_false]
  rw [exec_delete]
  simp only [Bool.not_true, Bool.false_eq_true, if_false]
  rw [exec_inspect]
  simp only [List.lookup_cons, beq_self_eq_true, any_changed_delete,
    Bool.or_self, Bool.false_eq_true, if_false]
  rfl

variable (fields : journal.Fields rules)
include fields

private theorem exec_retireRoute
    (mutable : journal.state = .held ∨ journal.state = .applied)
    (valid : rules.validCIDR cidr = true)
    (owned : cidr ∈ journal.owner.privateCIDRs) :
    ∃ world,
      (retireRoute memory journal cidr).exec (Site.outcome rules) site =
          (.ok (without journal cidr), { site with world }) ∧
        world.Written (without journal cidr) := by
  have removable : (without journal cidr).isValid rules = true :=
    RouteJournalV3.isValid_iff_fields.mpr (fields.without mutable)
  have markable :=
    RouteJournalV3.isValid_iff_fields.mpr (fields.marked mutable valid owned)
  unfold retireRoute
  rw [exec_inspect]
  simp only [List.lookup_cons, beq_self_eq_true, Bool.false_eq_true, if_false]
  -- The record without the route is the same whether it was marked or not.
  split
  · obtain ⟨world, deleted⟩ := exec_deleteRoute site memory markable
    rw [Prog.exec_bind, deleted]
    refine ⟨world.synced (some (without journal cidr)), ?_, written_synced _ _⟩
    exact exec_persist removable _
  · refine ⟨site.world.synced (some (without journal cidr)), ?_,
      written_synced _ _⟩
    exact exec_persist removable _

private theorem exec_retireRoutes {cidrs : List Text}
    (written : site.world.Written journal)
    (retirable : ∀ cidr ∈ cidrs, journal.Retirable rules cidr) :
    ∃ result world,
      (retireRoutes memory journal cidrs).exec (Site.outcome rules) site =
          (.ok result, { site with world }) ∧
        world.Written result ∧ result.Fields rules ∧
        result.owner = journal.owner ∧ result.state = journal.state := by
  induction cidrs generalizing site journal with
  | nil => exact ⟨journal, site.world, rfl, written, fields, rfl, rfl⟩
  | cons cidr rest ih =>
    obtain ⟨mutable, valid, owned⟩ := retirable cidr List.mem_cons_self
    obtain ⟨world, removed, kept⟩ :=
      exec_retireRoute site memory fields mutable valid owned
    have later : ∀ other ∈ rest,
        (without journal cidr).Retirable rules other := by
      intro other member
      obtain ⟨state, valid, owned⟩ :=
        retirable other (List.mem_cons_of_mem _ member)
      exact ⟨state, valid, owned⟩
    obtain ⟨result, final, finished, facts⟩ :=
      ih { site with world } (fields.without mutable) kept later
    refine ⟨result, final, ?_, facts⟩
    unfold retireRoutes
    rw [Prog.exec_bind, removed]
    exact finished

private theorem exec_persistRetirement (written : site.world.Written journal)
    (unreleased : journal.state ≠ .released) :
    ∃ retirement world,
      (persistRetirement rules memory journal journal.reference).exec
            (Site.outcome rules) site = (.ok retirement, { site with world }) ∧
        world.Written retirement ∧ retirement.Fields rules ∧
        retirement.state = .retirementPending ∧
        retirement.reference = journal.reference := by
  unfold persistRetirement
  have valid := RouteJournalV3.isValid_iff_fields.mpr fields
  by_cases retiring : journal.state = .retirementPending
  · refine ⟨journal, site.world, ?_, written, fields, retiring, rfl⟩
    simp only [retiring, valid, if_true]
    rfl
  · have allowed : isValidTransitionV3 journal.state .retirementPending =
        true := by
      cases state : journal.state with
      | holdPending | held | applied => rfl
      | retirementPending => exact absurd state retiring
      | released => exact absurd state unreleased
    obtain ⟨advanced, -⟩ := fields.advanced (.inl rfl) allowed
    have retired := RouteJournalV3.isValid_iff_fields.mpr advanced
    refine ⟨journal.advanced .retirementPending,
      site.world.synced (some (journal.advanced .retirementPending)), ?_,
      written_synced _ _, advanced, rfl, rfl⟩
    rw [if_neg retiring, fields.transitioned (.inl rfl) allowed]
    simp only [exec_persist retired, if_true, retired]
    rfl

theorem RouteJournalV3.Fields.binding :
    journal.reference.binding.isValid = true :=
  fields.reference

private theorem settles_releaseRetirement
    (retiring : journal.state = .retirementPending) :
    Settles (KnowsTuple site.broker journal.reference.binding) memory
      ((releaseRetirement rules memory journal journal.reference).exec
        (Site.outcome rules) site) := by
  have released := brokerRelease_eq_released_iff site.broker fields.binding
  unfold releaseRetirement
  rw [exec_release]
  by_cases known : KnowsTuple site.broker journal.reference.binding
  · have allowed : isValidTransitionV3 journal.state .released = true := by
      rw [retiring]
      rfl
    have valid :=
      RouteJournalV3.isValid_iff_fields.mpr
        (fields.advanced (.inr rfl) allowed).1
    simp only [released.mpr known, ne_eq, not_true_eq_false, if_false,
      fields.transitioned (.inr rfl) allowed]
    have same : (journal.advanced .released).reference = journal.reference :=
      rfl
    rw [exec_persist valid]
    simp only [Bool.not_true, Bool.false_eq_true, if_false]
    rw [exec_remove _ (by exact written_synced _ _) same]
    exact ⟨fun _ => ⟨rfl, rfl, rfl⟩, fun unknown => absurd known unknown⟩
  · rw [if_pos (mt released.mp known)]
    refine ⟨fun answered => absurd answered known, fun _ => ?_⟩
    simp [HelperReplyV3.unreleased, v3Reply]

private theorem settles_retireLocked {connectionID : ConnectionID}
    (found : memory.journal = some journal)
    (active : memory.activeConnectionID = some connectionID)
    (written : site.world.Written journal) :
    Settles
      (journal.state = .released ∨
        KnowsTuple site.broker journal.reference.binding)
      memory
      ((retireLocked rules memory journal.reference connectionID).exec
        (Site.outcome rules) site) := by
  unfold retireLocked
  by_cases released : journal.state = .released
  · simp only [found, active, ne_eq, not_true_eq_false, or_self, if_false,
      released, if_true]
    rw [exec_remove journal written rfl]
    refine ⟨fun _ => ⟨rfl, ?_, rfl⟩,
      fun unanswered => absurd (.inl trivial) unanswered⟩
    simp [HelperReplyV3.unreleased, v3Reply, released]
  · obtain ⟨rolled, world, looped, kept, rolledFields, owner, state⟩ :=
      exec_retireRoutes site memory fields written
        (fun _ member => fields.retirable
          (RouteJournalV3.mem_listed_of_mem_owned member))
    have same : rolled.reference = journal.reference :=
      congrArg JournalOwnerV3.reference owner
    obtain ⟨retirement, later, persisted, -, retired, retiring, kin⟩ :=
      exec_persistRetirement { site with world } memory rolledFields kept
        (state ▸ released)
    have lease : retirement.reference = journal.reference := kin.trans same
    simp only [found, active, ne_eq, not_true_eq_false, or_self, if_false,
      released, false_or]
    rw [Prog.exec_bind, looped]
    rw [Prog.exec_bind, ← same, persisted, same, ← lease]
    exact settles_releaseRetirement { site with world := later } memory retired
      retiring

end

/-- The memory of the startup pass while it retires the lease. -/
def startupMemory (journal : RouteJournalV3) : Memory :=
  { Memory.new (some journal) false with
    registeredConnectionIDs := [startupConnectionID]
    activeConnectionID := some startupConnectionID }

private theorem reconcileStartup_new (journal : RouteJournalV3) :
    reconcileStartup rules (.new (some journal) false) startupConnectionID = (do
      let (memory, reply) ← retireLocked rules (startupMemory journal)
        journal.reference startupConnectionID
      let left :=
        { memory with
          registeredConnectionIDs := memory.registeredConnectionIDs.filter
              (· ≠ startupConnectionID) }
      if reply.unreleased then
        return ({ left with recoveryOnly := true, activeConnectionID := none },
          reply)
      return (left, reply)) := rfl

private theorem clean_startup_iff
    (valid : ∀ journal, site.world.file = some journal →
      journal.isValid rules = true) :
    Clean (startup rules site).1.1 (startup rules site).2.world ↔
      Answerable site := by
  cases file : site.world.file with
  | none =>
    refine iff_of_true ?_ ?_
    · unfold startup
      rw [file]
      refine ⟨file, rfl, ?_⟩
      intro connectionID
      simp [reconcileStartup, loaded, Memory.new, register, discover]
    · intro journal found
      rw [file] at found
      cases found
  | some journal =>
    have fields := RouteJournalV3.isValid_iff_fields.mp (valid journal file)
    have answerable : Answerable site ↔ journal.state = .released ∨
        KnowsTuple site.broker journal.reference.binding := by
      simp [Answerable, file]
    have memory : loaded rules (some journal) = .new (some journal) false := by
      simp [loaded, valid journal file]
    have settles := settles_retireLocked
        { site with world := { site.world with current := some journal } }
        (startupMemory journal) fields rfl rfl ⟨file, rfl⟩
    have ran : startup rules site =
      (reconcileStartup rules (.new (some journal) false)
          startupConnectionID).exec (Site.outcome rules)
            { site with
              world := { site.world with current := some journal } } := by
      unfold startup
      rw [file, memory]
    rw [ran, reconcileStartup_new, Prog.exec_bind, answerable]
    generalize Prog.exec _ (retireLocked _ _ _ _) _ = outcome at settles
    obtain ⟨⟨left, reply⟩, after⟩ := outcome
    by_cases known : journal.state = .released ∨
      KnowsTuple site.broker journal.reference.binding
    · obtain ⟨rfl, released, gone⟩ : left = _ ∧ _ := settles.cleared known
      refine iff_of_true ?_ known
      simp only [released, Bool.false_eq_true, if_false]
      refine ⟨gone, rfl, ?_⟩
      intro connectionID
      simp [Memory.cleared, startupMemory, register, discover]
    · refine iff_of_false ?_ known
      simp only [settles.failed known, if_true]
      intro clean
      exact Bool.noConfusion clean.mode

/-! ## Crashes of any run -/

/-- Every journal that a crash may leave is a valid record. -/
structure World.Stored (rules : RouteRules) (world : World) : Prop where
  file : ∀ journal, world.file = some journal → journal.isValid rules = true
  history : world.HistoryValid rules

theorem World.Stored.acts {after : World} {action : Act}
    {result : Act.Res action} (stored : world.Stored rules)
    (done : Acts rules world action result after) : after.Stored rules := by
  refine ⟨?_, stored.history.acts stored.file done⟩
  cases done with
  | persisted valid | persistUnsynced valid =>
    rintro journal ⟨⟩
    exact valid
  | removed | removeUnsynced => exact nofun
  | mutated =>
    rw [file_changed]
    exact stored.file
  | _ => exact stored.file

theorem World.Stored.afterPowerLoss {content : Option RouteJournalV3}
    (stored : world.Stored rules)
    (possible : content ∈ world.file :: world.unsynced) :
    (World.afterPowerLoss content).Stored rules := by
  refine ⟨?_, nofun⟩
  rintro journal rfl
  rcases List.mem_cons.mp possible with visible | older
  · exact stored.file journal visible.symm
  · exact stored.history journal older

theorem World.Stored.step {after : System} {disturbed : Prop}
    (stored : system.world.Stored rules)
    (taken : system.Step rules disturbed after) : after.world.Stored rules := by
  cases taken with
  | request | finish => exact stored
  | crash => exact ⟨stored.file, stored.history⟩
  | act _ done => exact stored.acts done
  | crashDuring _ done =>
    have kept := stored.acts done
    exact ⟨kept.file, kept.history⟩
  | powerLoss possible =>
    have kept := stored.afterPowerLoss possible
    exact ⟨kept.file, kept.history⟩
  | @late command abandoned =>
    refine ⟨?_, ?_⟩
    · intro journal found
      exact stored.file journal
        ((system.world.file_changed command).symm.trans found)
    · intro journal member
      have older : some journal ∈ (system.world.changed command).unsynced :=
        member
      rw [unsynced_changed] at older
      exact stored.history journal older

theorem System.Reached.stored {admitted : Prop → Prop}
    (reached : System.Reached rules admitted system) :
    system.world.Stored rules := by
  induction reached with
  | start => exact ⟨nofun, nofun⟩
  | next _ taken _ ih => exact ih.step taken

theorem System.Crashed.stored (crashed : system.Crashed rules world)
    (stored : system.world.Stored rules) : world.Stored rules := by
  cases crashed with
  | death => exact stored
  | during _ done => exact stored.acts done
  | powerLoss possible => exact stored.afterPowerLoss possible

/-- After every crash of every run, with the broker in whatever state, the
startup pass ends clean exactly when the record left on file is released or
the broker knows its tuple. -/
theorem startup_clean_iff_answerable {system : System} {world : World}
    (reached : System.Reached rules (fun _ => True) system)
    (crashed : system.Crashed rules world) (broker : Broker) :
    Clean (startup rules ⟨world, broker⟩).1.1
        (startup rules ⟨world, broker⟩).2.world ↔
      Answerable ⟨world, broker⟩ :=
  clean_startup_iff (crashed.stored reached.stored).file

/-! ## A held lease and a restarted broker -/

/-- The site after a connection began the example lease, over a broker that
runs its session. -/
def begunSite : Site :=
  ((begin exampleRules
    { Memory.new none false with registeredConnectionIDs := [0] }
    exampleOwner 0).exec (Site.outcome exampleRules)
      ⟨.initial,
        (Broker.initial.start 0 exampleLease.sidecarInstanceID .launched).1⟩).2

theorem exists_reached_begun :
    ∃ system, System.Reached exampleRules (fun _ => True) system ∧
      system.world = begunSite.world := by
  have begun : ((System.initial exampleRules).replay exampleRules
      beginLease).map (·.world) = some begunSite.world := by
    decide +kernel
  obtain ⟨system, replayed, same⟩ := Option.map_eq_some_iff.mp begun
  exact ⟨system,
    System.Reached.replay trivial .start (fun _ _ _ _ => trivial) replayed,
    same⟩

/-- The helper dies while it holds the lease and the broker lives on. -/
theorem startup_after_helper_crash_is_clean :
    ∃ system, System.Reached exampleRules (fun _ => True) system ∧
      system.Crashed exampleRules begunSite.world ∧
      Clean (startup exampleRules begunSite).1.1
        (startup exampleRules begunSite).2.world := by
  obtain ⟨system, reached, same⟩ := exists_reached_begun
  have crashed : system.Crashed exampleRules begunSite.world := same ▸ .death
  refine ⟨system, reached, crashed,
    (startup_clean_iff_answerable reached crashed begunSite.broker).mpr ?_⟩
  have file : begunSite.world.file.map (·.reference) =
      some exampleLease := by
    decide +kernel
  have facts : begunSite.broker.active.any
        (fun lease => exampleLease.binding.session = lease.reference ∧
          lease.routeLeaseID = none ∧ lease.releasedLegacyRouteLeaseID = none ∧
          lease.releasedRouteBindingV3 = none ∧
          lease.routeBindingV3 = some exampleLease.binding) = true := by
    decide +kernel
  intro journal found
  rw [found] at file
  have same : journal.reference = exampleLease := Option.some.inj file
  rw [same]
  obtain ⟨lease, active, known⟩ := Option.any_eq_true _ _ |>.mp facts
  obtain ⟨session, hold, legacy, released, tuple⟩ := of_decide_eq_true known
  exact .inr
    (.inr ⟨lease, active, session, hold, legacy, .inr ⟨released, .inr tuple⟩⟩)

/-- Helper and broker die while the lease is held.  The restarted broker
refuses the release, and the helper stays in recovery-only mode. -/
theorem startup_after_joint_crash_is_recovery_only :
    ∃ system, System.Reached exampleRules (fun _ => True) system ∧
      system.Crashed exampleRules begunSite.world ∧
      begunSite.broker.active.map (·.routeBindingV3) =
        some (some exampleLease.binding) ∧
      (startup exampleRules ⟨begunSite.world, .initial⟩).1.1.recoveryOnly =
        true ∧
      (startup exampleRules ⟨begunSite.world, .initial⟩).2.world.file.map
          (·.state) = some .retirementPending ∧
      ¬ Clean (startup exampleRules ⟨begunSite.world, .initial⟩).1.1
        (startup exampleRules ⟨begunSite.world, .initial⟩).2.world := by
  obtain ⟨system, reached, same⟩ := exists_reached_begun
  have stuck :
      (startup exampleRules ⟨begunSite.world, .initial⟩).1.1.recoveryOnly =
        true := by
    decide +kernel
  refine ⟨system, reached, same ▸ .death, by decide +kernel,
    stuck, by decide +kernel, ?_⟩
  intro clean
  rw [clean.mode] at stuck
  cases stuck

end KyClash.RouteHelper
