import KyClash.RouteHelper.V2.Rollback

/-!
# The operations of the v2 coordinator

Between operations the memory is steady: the journal it holds marks every
route of the table, and the table is empty when it holds none.  Every
operation keeps this.  An operation after which the memory holds no lease any
more, although it held one before, has left an empty table and no file.
-/

namespace KyClash.RouteHelper.V2

open Program World
open TunnelBroker (ConnectionID)

/-- The lease that the coordinator holds. -/
def Memory.lease (memory : Memory) : Option Lease :=
  match memory.journal with
  | some journal => some (routeSchema.lease journal.owner)
  | none =>
    memory.legacyJournal.map fun journal => legacySchema.lease journal.owner

structure Steady (rules : RouteRules) (memory : Memory) (world : World) :
    Prop where
  recorded : world.Recorded
  journal : ∀ journal, memory.journal = some journal →
    world.Covered (.route journal) ∧ RouteJournal.isValid rules journal = true
  legacy : ∀ journal, memory.legacyJournal = some journal →
    world.Covered (.legacy journal)
  vacant : memory.journalCorrupt = false → memory.journal = none →
    memory.legacyJournal = none → world.installed = []
  exclusive : memory.journal = none ∨ memory.legacyJournal = none

/-- What an operation that started with this memory has done when it ends
with that one. -/
structure Ended (rules : RouteRules) (before memory : Memory) (world : World) :
    Prop where
  steady : Steady rules memory world
  kept : before.lease ≠ none → memory.lease = none ∨ memory.lease = before.lease
  retired : before.lease ≠ none → memory.lease = none →
    world.installed = [] ∧ world.file = none
  completed : ∀ reference, memory.lastCompletedReference = some reference →
    before.lastCompletedReference = some reference ∨
      before.lease = some (leaseOf reference) ∧ memory.lease = none

/-- An operation of the coordinator with this memory. -/
abbrev Ends {α : Type} (rules : RouteRules) (memory : Memory)
    (operation : Helper (Memory × α)) (world : World) : Prop :=
  Secure rules (fun result => Ended rules memory result.1) operation world

variable {rules : RouteRules} {before memory other : Memory} {world : World}
  {journal current : RouteJournal} {holder : JournalOwner}

theorem Memory.lease_eq_none :
    memory.lease = none ↔
      memory.journal = none ∧ memory.legacyJournal = none := by
  unfold Memory.lease
  cases memory.journal <;> simp

theorem Ended.of_same (ended : Ended rules before memory world)
    (journal : other.journal = memory.journal)
    (legacy : other.legacyJournal = memory.legacyJournal)
    (corrupt : other.journalCorrupt = memory.journalCorrupt)
    (last : other.lastCompletedReference = memory.lastCompletedReference) :
    Ended rules before other world := by
  have lease : other.lease = memory.lease := by
    simp only [Memory.lease, journal, legacy]
  refine ⟨⟨ended.steady.recorded, ?_, ?_, ?_, ?_⟩, ?_, ?_, ?_⟩
  · rw [journal]
    exact ended.steady.journal
  · rw [legacy]
    exact ended.steady.legacy
  · rw [journal, legacy, corrupt]
    exact ended.steady.vacant
  · rw [journal, legacy]
    exact ended.steady.exclusive
  · rw [lease]
    exact ended.kept
  · rw [lease]
    exact ended.retired
  · rw [lease, last]
    exact ended.completed

/-- The operation may be said to have started with another memory that holds
the same lease. -/
theorem Ended.rebase (ended : Ended rules other memory world)
    (lease : other.lease = before.lease)
    (last : ∀ reference, other.lastCompletedReference = some reference →
      before.lastCompletedReference = some reference) :
    Ended rules before memory world := by
  refine ⟨ended.steady, ?_, ?_, ?_⟩
  · rw [← lease]
    exact ended.kept
  · rw [← lease]
    exact ended.retired
  · rw [← lease]
    intro reference found
    exact (ended.completed reference found).imp_left (last reference)

theorem Held.steady (held : Held rules routeSchema current.owner journal world)
    (exclusive : memory.legacyJournal = none) :
    Steady rules { memory with journal := some journal } world := by
  refine ⟨held.recorded, ?_, ?_, nofun, .inr exclusive⟩
  · rintro _ ⟨⟩
    exact ⟨held.covered, held.valid⟩
  · intro legacy found
    cases exclusive.symm.trans found

theorem lease_of_owner (found : memory.journal = some current)
    (same : journal.owner = current.owner) :
    Memory.lease { memory with journal := some journal } = memory.lease := by
  simp only [Memory.lease, found, same]

theorem Memory.lease_of_valid {reference : LeaseReference}
    (valid : memory.valid reference = true) :
    memory.lease = some (leaseOf reference) := by
  simp only [Memory.valid, Bool.and_eq_true, Option.any_eq_true,
    decide_eq_true_eq] at valid
  obtain ⟨-, journal, found, leaseID, operationID⟩ := valid
  simp only [Memory.lease, found, leaseOf, leaseID, operationID]
  rfl

/-- Adding the marked route keeps every route marked, and the journal that
says it was added marks the same routes. -/
theorem secure_applyRoutes {rest : List Text}
    (held : Held rules routeSchema holder current world)
    (settled : world.Covered (.route current.settled)) :
    Secure rules
      (OnResult (fun failure => Held rules routeSchema holder failure.1)
        (Held rules routeSchema holder))
      (applyRoutes current rest) world := by
  induction rest generalizing current world with
  | nil => exact held
  | cons cidr rest ih =>
    unfold applyRoutes
    split
    · exact ih held settled
    have covered : world.Covered (.route (current.adding cidr)) := by
      refine settled.mono ?_
      intro route member
      rw [← show routeSchema.content = .route from rfl,
        Schema.mem_routes, Journal.mem_listed] at member ⊢
      obtain ⟨applied | pending, own⟩ := member
      · exact ⟨.inl applied, own⟩
      · cases pending
    refine secure_persist held.recorded covered ?_ ?_
    · intro marked same file valid
      have marks : (⟨cidr, current.owner.interfaceName⟩ : Route) ∈
          (Content.route (current.adding cidr)).routes := by
        rw [← show routeSchema.content = .route from rfl, Schema.mem_routes,
          Journal.mem_listed]
        exact ⟨.inr rfl, rfl⟩
      refine secure_mutate (covered.of_installed same) file rfl marks ?_
      intro reported after written still
      cases reported with
      | false => exact ⟨still.recorded written, still, valid, held.owner⟩
      | true =>
        have added : after.Covered
            (.route ((current.adding cidr).added cidr)) := by
          refine still.mono ?_
          intro route member
          rw [← show routeSchema.content = .route from rfl,
            Schema.mem_routes] at member ⊢
          simpa [Journal.listed, Journal.adding, Journal.added] using member
        have accepted := RouteJournal.isValid_added valid
        refine secure_persist (still.recorded written) added ?_ ?_
        · intro last unchanged recordedFile _
          have kept := added.of_installed unchanged
          exact ih ⟨kept.recorded recordedFile, kept, accepted, held.owner⟩ kept
        · intro last unchanged recorded
          exact ⟨recorded, added.of_installed unchanged, accepted, held.owner⟩
    · intro after same recorded
      exact held.of_installed same recorded

private theorem secure_preflight
    (held : Held rules routeSchema holder current world) :
    Secure rules
      (fun result after => after = world ∧
        (result = true → world.Covered (.route current.settled)))
      (preflight current) world := by
  have progress := RouteJournal.isValid_iff.mp held.valid
  -- A pending route is not applied, so it is among the remaining ones.
  have remains : ∀ cidr, current.pendingCIDR = some cidr →
      cidr ∈ current.owner.privateCIDRs.filter fun cidr =>
        !current.appliedCIDRs.contains cidr := by
    intro cidr pending
    obtain ⟨⟨-, own⟩, fresh⟩ := progress.pending cidr pending
    exact List.mem_filter.mpr ⟨own, by simpa using fresh⟩
  have settle : (∀ cidr, current.pendingCIDR = some cidr →
        ⟨cidr, current.owner.interfaceName⟩ ∉ world.installed) →
      world.Covered (.route current.settled) := by
    intro absent
    cases pending : current.pendingCIDR with
    | none =>
      have same : current.settled = current := by
        unfold Journal.settled
        rw [← pending]
      rw [same]
      exact held.covered
    | some cidr =>
      exact covered_settled held.covered pending (absent cidr pending)
  unfold preflight
  dsimp only
  split
  · next complete =>
    refine ⟨rfl, fun _ => settle ?_⟩
    intro cidr pending
    have member := remains cidr pending
    rw [List.isEmpty_iff.mp complete] at member
    cases member
  · refine secure_inspect held.recorded ?_ ⟨rfl, nofun⟩
    intro entries reports
    refine ⟨rfl, fun available => settle ?_⟩
    intro cidr pending installed
    have free := List.all_eq_true.mp available cidr (remains cidr pending)
    obtain ⟨inspection, found, usable⟩ := Option.any_eq_true _ _ |>.mp free
    simp [RouteInspection.isAvailable,
      reports cidr inspection found installed] at usable

private theorem secure_postflight (recorded : world.Recorded) :
    Secure rules (fun _ after => after = world) (postflight current) world :=
  secure_inspect recorded (fun _ _ => rfl) rfl

section

variable (steady : Steady rules memory world)
include steady

theorem Steady.ended : Ended rules memory memory world :=
  ⟨steady, fun _ => .inr rfl, fun some_lease no_lease =>
    absurd no_lease some_lease,
    fun _ found => .inl found⟩

theorem Steady.held (found : memory.journal = some journal) :
    Held rules routeSchema journal.owner journal world := by
  obtain ⟨covered, valid⟩ := steady.journal journal found
  exact ⟨steady.recorded, covered, valid, rfl⟩

theorem secure_rollbackLocked :
    Secure rules
      (fun result after => Ended rules memory result.1 after ∧
        (result.2 = true → memory.journal ≠ none → result.1.lease = none))
      (rollbackLocked rules memory) world := by
  unfold rollbackLocked
  cases found : memory.journal with
  | none => exact ⟨steady.ended, fun _ some_journal => absurd rfl some_journal⟩
  | some current =>
    have held := steady.held found
    have legacy : memory.legacyJournal = none :=
      steady.exclusive.resolve_left (by simp [found])
    have valid : RouteJournal.isValid rules current = true := held.valid
    simp only [valid, Bool.not_true, Bool.false_eq_true, if_false]
    refine (secure_rollbackJournal held (retiring_owned current)).bind ?_
    rintro ⟨journal, removed⟩ after ⟨same, rolledBack⟩
    cases removed with
    | true =>
      obtain ⟨empty, gone⟩ := rolledBack
      have absent : (memory.completed journal).lease = none := by
        simp [Memory.lease_eq_none, Memory.completed, legacy]
      refine ⟨⟨?_, fun _ => .inl absent, fun _ _ => ⟨empty, gone⟩, ?_⟩,
        fun _ _ => absent⟩
      · refine ⟨recorded_of_empty empty, nofun, ?_, fun _ _ _ => empty,
          .inl rfl⟩
        intro other present
        cases legacy.symm.trans present
      · rintro reference ⟨⟩
        refine .inr ⟨?_, absent⟩
        simp only [Memory.lease, found, ← same]
        rfl
    | false =>
      refine ⟨⟨rolledBack.steady legacy,
        fun _ => .inr (lease_of_owner found same), fun _ no_lease => ?_,
        fun _ last => .inl last⟩, nofun⟩
      cases no_lease

theorem secure_rollbackLegacyLocked :
    Ends rules memory (rollbackLegacyLocked rules memory) world := by
  unfold rollbackLegacyLocked
  cases found : memory.legacyJournal with
  | none => exact steady.ended
  | some current =>
    have journal : memory.journal = none :=
      steady.exclusive.resolve_right (by simp [found])
    dsimp only
    split
    · refine ⟨⟨steady.recorded, steady.journal, ?_, nofun, .inl journal⟩,
        fun _ => .inr ?_, fun _ no_lease => ?_, fun _ last => .inl last⟩
      · intro other same
        exact steady.legacy other (found.trans same)
      · simp only [Memory.lease, journal, found]
      · cases (Memory.lease_eq_none.mp no_lease).2
    · next checked =>
      have valid : LegacyRouteJournal.isValid rules current = true := by
        simpa using checked
      have held : Held rules legacySchema current.owner current world :=
        ⟨steady.recorded, steady.legacy current found, valid, rfl⟩
      refine (secure_rollbackJournal held (retiring_eraseDups current)).bind ?_
      rintro ⟨remaining, removed⟩ after ⟨same, rolledBack⟩
      cases removed with
      | true =>
        obtain ⟨empty, gone⟩ := rolledBack
        have absent : memory.completedLegacy.lease = none :=
          Memory.lease_eq_none.mpr ⟨journal, rfl⟩
        refine ⟨⟨recorded_of_empty empty, ?_, nofun,
          fun _ _ _ => empty, .inr rfl⟩, fun _ => .inl absent,
          fun _ _ => ⟨empty, gone⟩, fun _ last => .inl last⟩
        intro other present
        cases journal.symm.trans present
      | false =>
        refine ⟨⟨rolledBack.recorded, ?_, ?_, nofun, .inl journal⟩,
          fun _ => .inr ?_, fun _ no_lease => ?_, fun _ last => .inl last⟩
        · intro other present
          cases journal.symm.trans present
        · rintro _ ⟨⟩
          exact rolledBack.covered
        · have owner : remaining.owner = current.owner := same
          simp only [Memory.lease, journal, found, Option.map_some, owner]
        · cases (Memory.lease_eq_none.mp no_lease).2

variable (owner : LeaseOwner) (reference : LeaseReference)
  (connectionID : ConnectionID)

theorem secure_begin :
    Secure rules
      (fun result after => Ended rules memory result.1 after ∧
        (result.2.state = .prepared → result.1.lastCompletedReference = none))
      (begin rules memory owner connectionID) world := by
  have refused : ∀ errorCode : ReplyError, Ended rules memory memory world ∧
        ((HelperReply.failure errorCode).state = .prepared →
          memory.lastCompletedReference = none) :=
    fun _ => ⟨steady.ended, nofun⟩
  unfold begin
  split
  · exact refused _
  split
  · exact refused _
  · next free =>
    simp only [Bool.or_eq_true, not_or, Bool.not_eq_true,
      Option.isSome_eq_false_iff, Option.isNone_iff_eq_none] at free
    obtain ⟨⟨⟨⟨sound, legacy⟩, -⟩, -⟩, journal⟩ := free
    have empty := steady.vacant sound journal legacy
    have covered : ∀ content, world.Covered content := by
      intro content route member
      rw [empty] at member
      cases member
    refine secure_inspect steady.recorded ?_ (refused _)
    intro entries _
    dsimp only
    split
    · exact refused _
    refine secure_persist steady.recorded (covered _) ?_ ?_
    · intro after same file valid
      have vacant : after.installed = [] := same.trans empty
      refine secure_now (recorded_of_empty vacant) ?_
      intro date
      have absent := Memory.lease_eq_none.mpr ⟨journal, legacy⟩
      refine ⟨⟨⟨recorded_of_empty vacant, ?_, ?_, nofun, .inr legacy⟩,
        fun some_lease => absurd absent some_lease,
        fun some_lease => absurd absent some_lease, nofun⟩,
        fun _ => rfl⟩
      · rintro _ ⟨⟩
        exact ⟨(covered _).of_installed same, valid⟩
      · intro other found
        cases legacy.symm.trans found
    · intro after same recorded
      have vacant : after.installed = [] := same.trans empty
      refine ⟨Steady.ended
          ⟨recorded, ?_, ?_, fun _ _ _ => vacant, steady.exclusive⟩,
        nofun⟩
      · intro other found
        cases journal.symm.trans found
      · intro other found
        cases legacy.symm.trans found

private theorem secure_abortApply {errorCode : ReplyError} :
    Ends rules memory (abortApply rules memory errorCode) world := by
  refine (secure_rollbackLocked steady).bind ?_
  rintro ⟨memory, cleaned⟩ after ⟨ended, -⟩
  exact ended

theorem secure_apply :
    Ends rules memory (apply rules memory reference connectionID) world := by
  unfold apply
  split
  · exact steady.ended
  cases found : memory.journal with
  | none => exact steady.ended
  | some current =>
    have held := steady.held found
    have legacy : memory.legacyJournal = none :=
      steady.exclusive.resolve_left (by simp [found])
    -- Whatever stops the loop, the rollback starts from a journal of
    -- the same owner.
    have abort : ∀ (journal : RouteJournal) (errorCode : ReplyError)
        (after : World), Held rules routeSchema current.owner journal after →
        Ends rules memory
        (abortApply rules { memory with journal := some journal } errorCode)
        after := by
      intro journal errorCode after still
      refine (secure_abortApply (still.steady legacy)).mono ?_
      intro result last ended
      exact ended.rebase (lease_of_owner found still.owner) fun _ => id
    refine (secure_preflight held).bind ?_
    rintro available after ⟨rfl, settled⟩
    cases available with
    | false => exact secure_abortApply steady
    | true =>
      refine (secure_applyRoutes held (settled rfl)).bind ?_
      rintro (⟨journal, errorCode⟩ | journal) last still
      · exact abort journal errorCode last still
      · refine (secure_postflight still.recorded).bind ?_
        rintro complete _ rfl
        cases complete with
        | true =>
          exact (still.steady legacy).ended.rebase
            (lease_of_owner found still.owner) fun _ => id
        | false => exact abort journal .routeConflict _ still

/-- A rollback that answers idle has just rolled the lease back, or says again
that it was rolled back before. -/
theorem secure_rollback :
    Secure rules
      (fun result after => Ended rules memory result.1 after ∧
        (result.2.state = .idle →
          memory.lease = some (leaseOf reference) ∧ result.1.lease = none ∨
            memory.lastCompletedReference = some reference))
      (rollback rules memory reference connectionID) world := by
  unfold rollback
  split
  · exact ⟨steady.ended, nofun⟩
  split
  · next completed =>
    exact ⟨steady.ended, fun _ => .inr completed.2.2⟩
  split
  · exact ⟨steady.ended, nofun⟩
  · next owned =>
    simp only [Bool.or_eq_true, not_or, Bool.not_eq_true,
      Bool.not_eq_false'] at owned
    have lease := Memory.lease_of_valid owned.2
    have journal : memory.journal ≠ none := by
      intro absent
      simp [Memory.valid, absent] at owned
    refine (secure_rollbackLocked steady).bind ?_
    rintro ⟨remaining, rolledBack⟩ after ⟨ended, success⟩
    refine ⟨ended, ?_⟩
    intro idle
    cases rolledBack with
    | true => exact .inl ⟨lease, success rfl journal⟩
    | false => cases idle

theorem secure_statusLocked :
    Secure rules (fun _ after => after = world) (statusLocked rules memory)
      world := by
  unfold statusLocked
  split
  · rfl
  split
  · rfl
  refine secure_inspect steady.recorded ?_ rfl
  intro entries _
  dsimp only
  split <;> rfl

theorem secure_recover :
    Ends rules memory (recover rules memory owner connectionID) world := by
  unfold recover
  split
  · exact steady.ended
  split
  · exact steady.ended
  split
  · exact steady.ended
  refine (secure_statusLocked steady).bind ?_
  rintro live _ rfl
  split
  · exact steady.ended
  refine secure_now steady.recorded ?_
  intro date
  exact steady.ended.of_same rfl rfl rfl rfl

theorem secure_heartbeat :
    Ends rules memory (heartbeat rules memory reference connectionID)
      world := by
  unfold heartbeat
  split
  · exact steady.ended
  split
  · exact steady.ended
  split
  · exact steady.ended
  refine secure_now steady.recorded ?_
  intro date
  have extended : Ended rules memory
      { memory with heartbeatDeadline := some (date + heartbeatExpiry) }
      world :=
    steady.ended.of_same rfl rfl rfl rfl
  refine (secure_statusLocked extended.steady).bind ?_
  rintro reply _ rfl
  exact extended

theorem secure_status :
    Ends rules memory (status rules memory reference connectionID) world := by
  unfold status
  split
  · exact steady.ended
  split
  · exact steady.ended
  split
  · refine (secure_statusLocked steady).bind ?_
    rintro reply _ rfl
    exact steady.ended
  · exact steady.ended

private theorem secure_rollbackOwned :
    Ends rules memory (rollbackOwned rules memory connectionID) world := by
  unfold rollbackOwned
  split
  · refine (secure_rollbackLocked steady).bind ?_
    rintro ⟨remaining, rolledBack⟩ after ⟨ended, -⟩
    cases rolledBack with
    | true => exact ended.of_same rfl rfl rfl rfl
    | false => exact ended
  · exact steady.ended

theorem secure_unregister :
    Ends rules memory (unregister rules memory connectionID) world := by
  unfold unregister
  split
  · exact steady.ended
  refine (secure_rollbackOwned steady connectionID).bind ?_
  rintro ⟨remaining, rolledBack⟩ after ended
  exact ended.of_same rfl rfl rfl rfl

theorem secure_expireLease :
    Secure rules (Ended rules memory) (expireLease rules memory) world := by
  refine secure_now steady.recorded ?_
  intro date
  split
  · exact steady.ended
  split
  · refine (secure_rollbackLocked steady).bind ?_
    rintro result after ⟨ended, -⟩
    exact ended
  · split
    · refine (secure_rollbackLegacyLocked steady).bind ?_
      intro result after ended
      exact ended
    · exact steady.ended.of_same rfl rfl rfl rfl

theorem secure_reconcile :
    Secure rules (Ended rules memory) (reconcile rules memory) world := by
  have legacy : ∀ middle after, Steady rules middle after →
      Secure rules (Ended rules middle)
        (ignoringResult (rollbackLegacyLocked rules middle)) after := by
    intro middle after still
    refine (secure_rollbackLegacyLocked still).bind ?_
    intro result last ended
    exact ended
  unfold reconcile
  cases found : memory.journal with
  | none =>
    simp only [Option.isSome_none, Bool.false_eq_true, if_false, Prog.pure_eq,
      Prog.ret_bind]
    split
    · exact legacy memory world steady
    · exact steady.ended
  | some journal =>
    have some_lease : memory.lease ≠ none := by
      simp [Memory.lease, found]
    have rolled : Secure rules (Ended rules memory)
        (ignoringResult (rollbackLocked rules memory)) world := by
      refine (secure_rollbackLocked steady).bind ?_
      rintro result after ⟨ended, -⟩
      exact ended
    simp only [Option.isSome_some, if_true]
    refine rolled.bind ?_
    intro middle after ended
    split
    · next present =>
      -- The lease is still held, so it is the same one.
      have holds : middle.lease ≠ none := by
        intro absent
        simp [(Memory.lease_eq_none.mp absent).2] at present
      refine (legacy middle after ended.steady).mono ?_
      intro last final again
      refine again.rebase ((ended.kept some_lease).resolve_left holds) ?_
      intro reference completed
      rcases ended.completed reference completed with before | retired
      · exact before
      · exact absurd retired.2 holds
    · exact ended

end

end KyClash.RouteHelper.V2
