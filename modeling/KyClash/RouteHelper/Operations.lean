import KyClash.RouteHelper.Retirement

/-!
# Every operation keeps the ledger

Safety of the helper's requests, its watchdog and its startup pass.
-/

namespace KyClash.RouteHelper

open Program World

/-- Outside recovery-only mode no route is in flight.  So `apply` never
overwrites the mark of another route. -/
def Memory.Clean (memory : Memory) : Prop :=
  memory.recoveryOnly = false → ∀ journal, memory.journal = some journal →
    journal.pendingCIDR = none

/-- The helper is ready for its next request. -/
structure Ready (rules : RouteRules) (memory : Memory) (world : World) :
    Prop where
  steady : Steady rules memory world
  clean : memory.Clean

/-- An operation that leaves the helper ready. -/
abbrev Keeps (rules : RouteRules) (operation : Operation) (world : World) :
    Prop :=
  Secure rules (fun result after => Ready rules result.1 after) operation world

variable {rules : RouteRules} {memory : Memory} {world : World}
  {journal : RouteJournalV3} {other : Memory}

theorem Faulted.ready (faulted : Faulted rules memory world) :
    Ready rules memory world := by
  refine ⟨faulted.steady, ?_⟩
  intro open_mode
  rw [faulted.recoveryOnly] at open_mode
  cases open_mode

theorem Ended.ready {result : Memory × HelperReplyV3} (clean : memory.Clean)
    (ended : Ended rules memory result world) : Ready rules result.1 world := by
  refine ⟨ended.steady, ?_⟩
  rcases ended.settled with recovering | gone | ⟨unchanged, -⟩
  · intro open_mode
    rw [recovering] at open_mode
    cases open_mode
  · intro _ journal found
    rw [gone] at found
    cases found
  · rw [unchanged]
    exact clean

theorem Steady.of_journal (steady : Steady rules memory world)
    (same : other.journal = memory.journal) : Steady rules other world := by
  constructor
  · exact steady.recorded
  · rw [same]
    exact steady.covered
  · rw [same]
    exact steady.vacant
  · rw [same]
    exact steady.retiring
  · rw [same]
    exact steady.released

theorem Ready.of_journal (ready : Ready rules memory world)
    (same : other.journal = memory.journal)
    (mode : other.recoveryOnly = false → memory.recoveryOnly = false) :
    Ready rules other world := by
  refine ⟨ready.steady.of_journal same, ?_⟩
  intro open_mode found
  rw [same]
  exact ready.clean (mode open_mode) found

/-- What the loop of `apply` leaves after each turn. -/
structure Applying (rules : RouteRules) (before after : RouteJournalV3)
    (world : World) : Prop where
  recorded : world.Recorded rules
  covered : world.Covered after
  unmarked : after.pendingCIDR = none
  state : after.state = before.state

section

variable (recorded : world.Recorded rules)
include recorded

theorem Ready.of_live (covered : world.Covered journal) (live : journal.Live)
    (unmarked : journal.pendingCIDR = none)
    (stored : memory.journal = some journal) : Ready rules memory world := by
  have faulted : Faulted rules (memory.recovering journal) world :=
    .recovering recorded covered live
  refine ⟨faulted.steady.of_journal stored, ?_⟩
  intro _ other found
  rw [stored] at found
  cases found
  exact unmarked

private theorem keeps_settleHold {pending : RouteJournalV3}
    {reference : LeaseReferenceV3} (vacant : world.installed = [])
    (live : pending.Live) (unmarked : pending.pendingCIDR = none)
    (reply : RouteBrokerV3Result) :
    Keeps rules (settleHold rules memory pending reference reply) world := by
  have failed : ∀ after : World, after.Recorded rules → after.installed = [] →
      Ready rules (memory.recovering pending) after := by
    intro after kept empty
    have faulted : Faulted rules (memory.recovering pending) after :=
      .recovering kept (covered_of_vacant empty pending) live
    exact faulted.ready
  cases reply with
  | held =>
    unfold settleHold
    cases next : pending.transitioned rules .held reference with
    | error error => exact failed world recorded vacant
    | ok held =>
      obtain ⟨rfl, valid, -⟩ := RouteJournalV3.transitioned_eq_ok next
      apply secure_persist recorded (covered_of_vacant vacant _)
      · intro after routes written _
        have kept : after.Recorded rules :=
          .of_written (covered_of_vacant vacant _) routes written valid
        apply secure_now kept
        intro date
        have still : (pending.advanced .held).pendingCIDR = none := by
          simp [RouteJournalV3.advanced, unmarked]
        have held : (pending.advanced .held).Live := ⟨nofun, nofun⟩
        exact Ready.of_live kept (covered_of_vacant (routes.trans vacant) _)
          held still rfl
      · intro after routes kept _
        exact failed after kept (routes.trans vacant)
  | rejected =>
    apply secure_remove recorded vacant
    · intro after empty absent
      refine ⟨⟨recorded_of_absent empty absent, nofun, fun _ => empty, nofun,
          nofun⟩,
        ?_⟩
      intro _ journal found
      cases found
    · intro after empty kept _
      exact failed after kept empty
  | released | running | idle | ambiguous => exact failed world recorded vacant

private theorem secure_applyRoute {cidr : Text}
    (covered : world.Covered journal) (live : journal.Live)
    (unmarked : journal.pendingCIDR = none) :
    Secure rules (Outcome rules (Applying rules journal))
      (applyRoute memory journal cidr) world := by
  -- With no route in flight, the mark adds a route to what is listed.
  have marked : world.Covered { journal with pendingCIDR := some cidr } := by
    intro route member
    obtain ⟨lease, interfaceName, listed⟩ := covered route member
    refine ⟨lease, interfaceName, List.mem_append_left _ ?_⟩
    simpa [RouteJournalV3.listed, unmarked] using listed
  have recordedLater : ∀ after : World,
      after.Covered { journal with pendingCIDR := some cidr } →
      after.Covered
        { journal with
          appliedCIDRs := journal.appliedCIDRs ++ [cidr]
          pendingCIDR := none } := by
    intro after covers route member
    obtain ⟨lease, interfaceName, listed⟩ := covers route member
    refine ⟨lease, interfaceName, ?_⟩
    simpa [RouteJournalV3.listed] using listed
  apply secure_persist recorded marked
  · intro first same written valid
    have kept : first.Recorded rules := .of_written marked same written valid
    apply secure_mutate kept (marked.of_sameRoutes same) written
      (by simp [RouteJournalV3.listed])
    intro reported second covers records
    have failed : Faulted rules
        (memory.recovering { journal with pendingCIDR := some cidr }) second :=
      .recovering records covers live
    cases reported with
    | false => exact failed
    | true =>
      apply secure_inspect records
      · intro entries _
        cases found : entries.lookup cidr with
        | none =>
          simp only [found]
          exact failed
        | some entry =>
          simp only [found]
          split
          · exact failed
          apply secure_persist records (recordedLater second covers)
          · intro last routes written valid
            exact ⟨.of_written (recordedLater second covers) routes written
                valid,
              (recordedLater second covers).of_sameRoutes routes, rfl, rfl⟩
          · intro last routes kept _
            exact .recovering kept
              ((recordedLater second covers).of_sameRoutes routes) live
      · exact failed
  · intro first same kept _
    exact .recovering kept (marked.of_sameRoutes same) live

private theorem secure_applyRoutes {cidrs : List Text}
    (covered : world.Covered journal) (live : journal.Live)
    (unmarked : journal.pendingCIDR = none) :
    Secure rules (Outcome rules (Applying rules journal))
      (applyRoutes memory journal cidrs) world := by
  induction cidrs generalizing journal world with
  | nil => exact ⟨recorded, covered, unmarked, rfl⟩
  | cons cidr rest ih =>
    unfold applyRoutes
    split
    · exact ih recorded covered live unmarked
    refine (secure_applyRoute recorded covered live unmarked).bind ?_
    intro result after outcome
    cases result with
    | error reply => exact outcome
    | ok next =>
      have still : next.Live := by
        simpa [RouteJournalV3.Live, outcome.state] using live
      refine (ih outcome.recorded outcome.covered still outcome.unmarked).mono
        ?_
      intro result final ended
      cases result with
      | error reply => exact ended
      | ok last =>
        exact { ended with
          state := ended.state.trans outcome.state }

end

section

variable (ready : Ready rules memory world) (owner : LeaseOwnerV3)
  (reference : LeaseReferenceV3) (connectionID : TunnelBroker.ConnectionID)
include ready

theorem keeps_retireLocked :
    Keeps rules (retireLocked rules memory reference connectionID) world := by
  refine (secure_retireLocked ready.steady reference connectionID).mono ?_
  intro result after ended
  exact ended.ready ready.clean

theorem keeps_begin :
    Keeps rules (begin rules memory owner connectionID) world := by
  unfold begin
  split
  · exact ready
  · next admitted =>
    have absent : memory.journal = none := by
      simp only [not_or, Option.not_isSome_iff_eq_none] at admitted
      exact admitted.2.2.1
    have vacant := ready.steady.vacant absent
    have recorded := ready.steady.recorded
    apply secure_inspect recorded
    · intro entries _
      dsimp only
      split
      · exact ready
      apply secure_persist recorded (covered_of_vacant vacant _)
      · intro after routes written valid
        have kept : after.Recorded rules :=
          .of_written (covered_of_vacant vacant _) routes written valid
        apply secure_now kept
        intro date
        apply secure_hold kept
        intro reply
        have live : (RouteJournalV3.holdPending owner).Live := ⟨nofun, nofun⟩
        exact keeps_settleHold kept (routes.trans vacant) live rfl reply
      · intro after routes kept _
        refine ⟨⟨kept, ?_, ?_, ?_, ?_⟩, ready.clean⟩
        · intro journal _
          exact covered_of_vacant (routes.trans vacant) journal
        · intro _
          exact routes.trans vacant
        · intro journal found
          rw [absent] at found
          cases found
        · exact ready.steady.released
    · exact ready

theorem keeps_apply :
    Keeps rules (apply rules memory reference connectionID) world := by
  unfold apply
  cases found : memory.journal with
  | none => exact ready
  | some journal =>
    dsimp only
    split
    · exact ready
    next admitted =>
    split
    · exact ready
    next open_mode =>
    split
    · exact ready
    next unapplied =>
    have held : journal.state = .held := by
      simp only [not_or, not_and_or, not_not] at admitted
      exact admitted.2.2.2.resolve_right unapplied
    have live : journal.Live := by
      constructor <;> simp [held]
    have unmarked := ready.clean (by simpa using open_mode) journal found
    refine (secure_applyRoutes ready.steady.recorded
      (ready.steady.covered journal found) live unmarked).bind ?_
    intro result after outcome
    cases result with
    | error reply => exact Faulted.ready outcome
    | ok last =>
      have still : last.Live := by
        simpa [RouteJournalV3.Live, outcome.state] using live
      cases next : last.transitioned rules .applied reference with
      | error error =>
        simp only [next]
        exact Faulted.ready (.recovering outcome.recorded outcome.covered still)
      | ok applied =>
        obtain ⟨rfl, valid, -⟩ := RouteJournalV3.transitioned_eq_ok next
        simp only [next]
        have covered : after.Covered (last.advanced .applied) := by
          intro route member
          obtain ⟨lease, interfaceName, listed⟩ := outcome.covered route member
          refine ⟨lease, interfaceName, ?_⟩
          simpa [RouteJournalV3.listed, RouteJournalV3.advanced] using listed
        apply secure_persist outcome.recorded covered
        · intro final routes written _
          have unmarked : (last.advanced .applied).pendingCIDR = none := by
            simp [RouteJournalV3.advanced, outcome.unmarked]
          have applied : (last.advanced .applied).Live :=
            ⟨by rintro ⟨⟩, by rintro ⟨⟩⟩
          exact Ready.of_live (.of_written covered routes written valid)
            (covered.of_sameRoutes routes) applied unmarked rfl
        · intro final routes kept _
          exact Faulted.ready
            (.recovering kept (outcome.covered.of_sameRoutes routes) still)

theorem keeps_statusWithBrokerLocked (journal : RouteJournalV3) :
    Keeps rules (statusWithBrokerLocked memory journal) world := by
  unfold statusWithBrokerLocked
  split
  · exact ready
  split
  · exact ready.of_journal rfl id
  apply secure_status ready.steady.recorded
  intro reply
  split
  · exact ready.of_journal rfl nofun
  apply secure_now ready.steady.recorded
  intro date
  exact ready.of_journal rfl id

theorem keeps_heartbeat :
    Keeps rules (heartbeat memory reference connectionID) world := by
  unfold heartbeat
  cases found : memory.journal with
  | none => exact ready
  | some journal =>
    dsimp only
    split
    · exact ready
    · exact keeps_statusWithBrokerLocked ready journal

theorem keeps_status :
    Keeps rules (status memory reference connectionID) world := by
  unfold status
  cases found : memory.journal with
  | none => exact ready
  | some journal =>
    dsimp only
    split
    · exact ready
    · exact keeps_statusWithBrokerLocked ready journal

theorem keeps_recover :
    Keeps rules (recover rules memory owner connectionID) world := by
  unfold recover
  cases found : memory.journal with
  | none => exact ready
  | some journal =>
    dsimp only
    split
    · exact ready
    split
    · exact keeps_retireLocked ready _ _
    split
    · have taken : Ready rules
          { memory with
            journal := some journal
            activeConnectionID := some connectionID } world :=
        ready.of_journal found.symm id
      exact keeps_retireLocked taken _ _
    · exact ready

theorem keeps_invalidate :
    Keeps rules (invalidate rules memory connectionID) world := by
  unfold invalidate
  split
  · exact ready
  have left : Ready rules
      { memory with
        registeredConnectionIDs :=
          memory.registeredConnectionIDs.filter (· ≠ connectionID) }
      world := ready.of_journal rfl id
  dsimp only
  split
  · exact left
  split
  · exact keeps_retireLocked left _ _
  · exact left

theorem keeps_heartbeatWatchdogTick :
    Secure rules (Ready rules) (heartbeatWatchdogTick rules memory) world := by
  unfold heartbeatWatchdogTick
  split
  · next journal connectionID found _ =>
    split
    · exact ready
    apply secure_now ready.steady.recorded
    intro date
    dsimp only
    split
    · refine (keeps_retireLocked ready _ _).bind ?_
      rintro ⟨retired, reply⟩ after left
      split
      · exact left.of_journal rfl nofun
      · exact left
    · exact ready
  · exact ready

end

/-- The startup pass needs no clean memory: whatever it loaded, it ends
the lease or enters recovery-only mode. -/
theorem keeps_reconcileStartup (steady : Steady rules memory world)
    (recoveryID : TunnelBroker.ConnectionID) :
    Keeps rules (reconcileStartup rules memory recoveryID) world := by
  unfold reconcileStartup
  cases found : memory.journal with
  | none =>
    refine ⟨steady, ?_⟩
    intro _ journal stored
    rw [found] at stored
    cases stored
  | some journal =>
    have entered : Steady rules
        { memory with
          journal := some journal
          registeredConnectionIDs :=
            memory.registeredConnectionIDs.insert recoveryID
          activeConnectionID := some recoveryID } world :=
      steady.of_journal found.symm
    refine (secure_retireLocked entered _ _).bind ?_
    rintro ⟨retired, reply⟩ after ended
    dsimp only
    split
    · refine ⟨ended.steady.of_journal rfl, ?_⟩
      rintro ⟨⟩
    · next clean_release =>
      refine ⟨ended.steady.of_journal rfl, ?_⟩
      rcases ended.settled with recovering | gone | ⟨-, unreleased⟩
      · intro open_mode
        have closed : retired.recoveryOnly = true := recovering
        have opened : retired.recoveryOnly = false := open_mode
        rw [closed] at opened
        cases opened
      · intro _ other stored
        have absent : retired.journal = none := gone
        have present : retired.journal = some other := stored
        rw [absent] at present
        cases present
      · exact absurd unreleased clean_release

end KyClash.RouteHelper
