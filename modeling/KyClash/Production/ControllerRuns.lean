import KyClash.Production.ControllerAbsence

/-!
# Runs of the production controller

The invariant of all runs: the program that the actor is in keeps `Trusts`,
and is quiet once a receipt has been issued.
-/

namespace KyClash.Production

open Transition
open Program
open Sidecar (Text)

variable {controller : Controller} {world after : World} {α : Type}
  {command : Command} {method : Actor (Fallible α)} {reply : Reply}
  {phase : Phase}

theorem runs_unlessRetired (trusts : Trusts controller world)
    (runs : Runs false Leaves method world) :
    Runs false Leaves (controller.unlessRetired method) world := by
  unfold Controller.unlessRetired
  split
  · exact trusts
  · exact runs

private theorem unlessRetired_retired (retired : controller.retired = true) :
    controller.unlessRetired method = controller.refuse :=
  if_pos retired

/-- What a handled command leaves.  `quiet` tells that a receipt had been
issued before. -/
structure Finished (quiet : Bool) (command : Command)
    (result : Controller × Reply) (world : World) : Prop where
  trusts : Trusts result.1 world
  stays : quiet = true → result.1.retired = true
  unissued : quiet = true → result.2.receipt? = none
  refused : quiet = true → command.mutating = true → result.2.refused = true
  issued : ∀ receipt, result.2.receipt? = some receipt →
    result.1.retired = true ∧ Certifies receipt world

theorem Finished.open (trusts : Trusts controller world)
    (unissued : reply.receipt? = none) :
    Finished false command (controller, reply) world := by
  refine ⟨trusts, by rintro ⟨⟩, by rintro ⟨⟩, by rintro ⟨⟩, ?_⟩
  intro receipt issued
  rw [unissued] at issued
  cases issued

theorem Finished.quiet (trusts : Trusts controller world)
    (retired : controller.retired = true) (unissued : reply.receipt? = none)
    (refused : command.mutating = true → reply.refused = true) :
    Finished true command (controller, reply) world := by
  refine ⟨trusts, fun _ => retired, fun _ => unissued, fun _ => refused, ?_⟩
  intro receipt issued
  rw [unissued] at issued
  cases issued

section

variable (trusts : Trusts controller world)
include trusts

private theorem runs_deliverStart (claimed : Bool)
    (result : Except NetworkErrorCode ControllerStartReceipt) :
    Runs false (Finished false command) (controller.deliverStart claimed result)
      world := by
  unfold Controller.deliverStart
  split
  · apply Runs.bind (runs_stopRuntimeBounded trusts none)
    rintro ⟨stopped, outcome⟩ after leaves
    cases outcome with
    | ok value =>
      exact Finished.open { leaves with } rfl
    | error error => exact Finished.open leaves rfl
  · exact Finished.open trusts rfl

private theorem runs_handleRequest (operationID : Text) (request : Ipc.Request)
    (cancel : Token) :
    Runs false (Finished false command)
      (controller.handleRequest operationID request cancel) world := by
  apply Runs.bind
    (runs_unlessRetired trusts (runs_execute trusts operationID request))
  rintro ⟨next, result⟩ between leaves
  apply Runs.access (.removeCancellation next operationID cancel) rfl leaves
  intro _ after later _
  exact Finished.open later rfl

private theorem runs_handleMethod {reply : Except NetworkErrorCode α → Reply}
    (runs : Runs false Leaves method world)
    (unissued : ∀ result, (reply result).receipt? = none) :
    Runs false (Finished false command)
      (Controller.handleMethod (controller.unlessRetired method) reply)
      world := by
  apply Runs.bind (runs_unlessRetired trusts runs)
  intro result after leaves
  exact Finished.open leaves (unissued result.2)

private theorem runs_startReusable :
    Runs false Leaves controller.startReusable world := by
  unfold Controller.startReusable
  split
  · exact trusts
  apply Runs.bind (runs_start trusts true)
  rintro ⟨started, outcome⟩ after leaves
  match outcome with
  | .ok none => exact leaves
  | .ok (some receipt) => exact leaves
  | .error error => exact leaves

private theorem runs_handle (command : Command) :
    Runs false (Finished false command) (controller.handle command) world := by
  cases command with
  | start =>
    exact runs_handleMethod trusts (runs_startReusable trusts) (fun _ => rfl)
  | startBound claimed =>
    apply Runs.bind (runs_unlessRetired trusts (runs_startBrokerBound trusts))
    rintro ⟨next, result⟩ after leaves
    exact runs_deliverStart leaves claimed result
  | request operationID request cancel | health operationID request cancel =>
    exact runs_handleRequest trusts operationID request cancel
  | poll now later =>
    exact runs_handleMethod trusts (runs_poll trusts now later) (fun _ => rfl)
  | diagnostics => exact Finished.open trusts rfl
  | shutdown =>
    exact runs_handleMethod trusts (runs_shutdown trusts) (fun _ => rfl)
  | retire =>
    apply Runs.bind (runs_retire trusts)
    rintro ⟨next, result⟩ after retires
    refine ⟨retires.trusts, by rintro ⟨⟩, by rintro ⟨⟩, by rintro ⟨⟩, ?_⟩
    intro receipt issued
    cases result with
    | error error => cases issued
    | ok other =>
      cases issued
      exact retires.issued receipt rfl

private theorem quiet_handle (retired : controller.retired = true)
    (command : Command) :
    Runs true (Finished true command) (controller.handle command) world := by
  have request (operationID : Text) (request : Ipc.Request)
      (cancel : Token) : Runs true (Finished true command)
      (controller.handleRequest operationID request cancel) world := by
    unfold Controller.handleRequest
    rw [unlessRetired_retired retired]
    apply Runs.access (.removeCancellation controller operationID cancel) rfl
      trusts
    intro _ after later _
    exact Finished.quiet later retired rfl (fun _ => rfl)
  have refused {α : Type} (method : Actor (Fallible α))
    (reply : Except NetworkErrorCode α → Reply)
      (unissued : (reply (.error .invalidStateTransition)).receipt? = none)
      (refuses : (reply (.error .invalidStateTransition)).refused = true) :
      Runs true (Finished true command)
        (Controller.handleMethod (controller.unlessRetired method) reply)
        world := by
    rw [unlessRetired_retired retired]
    exact Finished.quiet trusts retired unissued (fun _ => refuses)
  cases command with
  | start | poll | shutdown => exact refused _ _ rfl rfl
  | startBound claimed =>
    simp only [Controller.handle, unlessRetired_retired retired]
    have finished : Finished true (.startBound claimed)
        (controller, .started (.error .invalidStateTransition)) world :=
      .quiet trusts retired rfl (fun _ => rfl)
    exact finished
  | request operationID body cancel | health operationID body cancel =>
    exact request operationID body cancel
  | diagnostics => exact Finished.quiet trusts retired rfl nofun
  | retire =>
    apply Runs.access (.noCancellations controller) rfl trusts
    intro idle after later _
    simp only [retired, Bool.true_or, if_true]
    exact Finished.quiet later retired rfl (fun _ => rfl)

private theorem runs_close : Runs false Trusts controller.close world := by
  have stopped : Runs false Trusts controller.stopAtClose world := by
    unfold Controller.stopAtClose
    split
    · apply Runs.bind (runs_stopRuntimeBounded trusts none)
      intro result after leaves
      exact leaves
    · exact trusts
  apply Runs.bind stopped
  intro next between leaves
  apply Runs.access (.clearCancellations next) rfl leaves
  intro _ after later _
  exact later

private theorem quiet_close (retired : controller.retired = true) :
    Runs true Trusts controller.close world := by
  have stays : controller.stopAtClose = .ret controller := by
    simp [Controller.stopAtClose, retired]
  rw [Controller.close, stays]
  apply Runs.access (.clearCancellations controller) rfl trusts
  intro _ after later _
  exact later

end

def issued (trace : List Observation) : Bool :=
  trace.any (·.receipt?.isSome)

/-- What holds of the actor in each phase. -/
def Phase.Sound (quiet : Bool) (world : World) : Phase → Prop
  | .idle controller =>
    Trusts controller world ∧ (quiet = true → controller.retired = true)
  | .handling command program =>
    Runs quiet (Finished quiet command) program world
  | .closing program => Runs quiet Trusts program world
  | .ended controller => Trusts controller world

structure System.Sound (system : System) : Prop where
  phase : system.phase.Sound (issued system.trace) system.world
  orderly : Orderly system.trace system.world

theorem Runs.drifts {quiet : Bool} {post : α → World → Prop} {program : Actor α}
    (runs : Runs quiet post program world) (drifts : Drifts world after)
    (stable : ∀ {before between : World} {value : α}, Drifts before between →
      post value before → post value between) :
    Runs quiet post program after := by
  apply Safe.stable runs drifts _ (fun _ admitted => admitted) _ stable
  · rintro before between action result last moved
      ⟨middle, fortune, later, performed⟩
    exact ⟨middle, fortune, moved.trans later, performed⟩
  · rintro before between action moved ⟨trusts, unobserved⟩
    exact ⟨trusts.drifts moved, unobserved⟩

theorem Finished.drifts {quiet : Bool} {result : Controller × Reply}
    (finished : Finished quiet command result world)
    (drifts : Drifts world after) : Finished quiet command result after := by
  refine ⟨finished.trusts.drifts drifts, finished.stays, finished.unissued,
    finished.refused, ?_⟩
  intro receipt issued
  obtain ⟨retired, certifies⟩ := finished.issued receipt issued
  exact ⟨retired, certifies.drifts drifts⟩

theorem Phase.Sound.drifts {quiet : Bool} (sound : phase.Sound quiet world)
    (drifts : Drifts world after) : phase.Sound quiet after := by
  cases phase with
  | idle controller => exact ⟨sound.1.drifts drifts, sound.2⟩
  | handling command program =>
    exact Runs.drifts sound drifts fun moved finished =>
      finished.drifts moved
  | closing program =>
    exact Runs.drifts sound drifts fun moved trusts => trusts.drifts moved
  | ended controller => exact Trusts.drifts sound drifts

section Observations

variable {trace : List Observation} {observation : Observation}

theorem issued_append :
    issued (trace ++ [observation]) =
      (issued trace || observation.receipt?.isSome) := by
  simp [issued]

private theorem receipts_of_not_issued (unissued : issued trace = false) :
    trace.filterMap Observation.receipt? = [] := by
  rw [List.filterMap_eq_nil_iff]
  intro observation member
  have none := List.any_eq_false.mp unissued observation member
  simpa using none

theorem Orderly.drifts (orderly : Orderly trace world)
    (drifts : Drifts world after) : Orderly trace after :=
  ⟨fun receipt member => (orderly.certified receipt member).drifts drifts,
    orderly.once, orderly.quiet⟩

theorem Orderly.append (orderly : Orderly trace world)
    (quiet : issued trace = true →
      observation.quiet = true ∧ observation.receipt? = none ∧
        Drifts world after)
    (certified : ∀ receipt, observation.receipt? = some receipt →
      Certifies receipt after) :
    Orderly (trace ++ [observation]) after := by
  have ordered : (trace ++ [observation]).Pairwise fun earlier later =>
      earlier.receipt?.isSome = true → later.quiet = true := by
    rw [List.pairwise_append]
    refine ⟨orderly.quiet, List.pairwise_singleton _ _, ?_⟩
    intro earlier member later last receipt
    obtain rfl := List.mem_singleton.mp last
    exact (quiet (List.any_eq_true.mpr ⟨earlier, member, receipt⟩)).1
  cases before : issued trace with
  | false =>
    have only : (trace ++ [observation]).filterMap Observation.receipt? =
        observation.receipt?.toList := by
      rw [List.filterMap_append, receipts_of_not_issued before]
      cases found : observation.receipt? with
      | none | some => simp [found]
    refine ⟨?_, ?_, ordered⟩
    · rw [only]
      intro receipt member
      exact certified receipt (Option.mem_toList.mp member)
    · rw [only]
      cases observation.receipt? with
      | none | some => simp
  | true =>
    obtain ⟨-, unissued, drifts⟩ := quiet before
    have same : (trace ++ [observation]).filterMap Observation.receipt? =
        trace.filterMap Observation.receipt? := by
      simp [List.filterMap_append, unissued]
    refine ⟨?_, ?_, ordered⟩
    · rw [same]
      exact (orderly.drifts drifts).certified
    · rw [same]
      exact orderly.once

end Observations

namespace System.Sound

variable {system next : System} {fortune : Option Fortune}

private theorem drifts (sound : system.Sound)
    (drifts : Drifts system.world after) :
    { system with world := after }.Sound :=
  ⟨sound.phase.drifts drifts, sound.orderly.drifts drifts⟩

section

variable (sound : system.Sound)
include sound

private theorem observe {action : Act}
    (permits : Permits (issued system.trace) system.world action)
    {result : action.Res}
    (performed : system.world.perform fortune action = some (result, after))
    (proceeds : phase.Sound (issued system.trace) after) :
    System.Sound ⟨after, phase, system.trace ++ action.observed⟩ := by
  by_cases unobserved : action.observed = []
  · have moved := perform_unobserved unobserved performed
    rw [unobserved, List.append_nil]
    exact ⟨proceeds, sound.orderly.drifts moved⟩
  · cases action with
    | runtime waiting call =>
      refine ⟨?_, ?_⟩
      · show phase.Sound (issued (system.trace ++ [.called call])) after
        rw [issued_append]
        simpa [Observation.receipt?] using proceeds
      · apply sound.orderly.append
        · intro before
          exact absurd (permits.2 before) unobserved
        · intro receipt found
          cases found
    | _ => exact absurd rfl unobserved

private theorem act (taken : system.step (.act fortune) = some next) :
    next.Sound := by
  have phase := sound.phase
  simp only [System.step] at taken
  split at taken
  rotate_left 2
  · cases taken
  all_goals
    next current =>
    rw [current] at phase
    split at taken
    · cases taken
    · next result after performed =>
      cases taken
      obtain ⟨-, proceeds⟩ :=
        phase.2 result after ⟨_, fortune, .refl _, performed⟩
      exact sound.observe phase.1 performed (proceeds trivial)

private theorem returns (taken : system.step .returns = some next) :
    next.Sound := by
  have phase := sound.phase
  simp only [System.step] at taken
  split at taken
  · next command controller reply current =>
    cases taken
    rw [current] at phase
    have finished : Finished (issued system.trace) command (controller, reply)
        system.world := phase
    refine ⟨⟨finished.trusts, ?_⟩, ?_⟩
    · intro after
      rw [issued_append, Bool.or_eq_true] at after
      rcases after with before | receipt
      · exact finished.stays before
      · obtain ⟨receipt, found⟩ := Option.isSome_iff_exists.mp receipt
        exact (finished.issued receipt found).1
    · apply sound.orderly.append
      · intro before
        refine ⟨?_, finished.unissued before, .refl _⟩
        cases mutating : command.mutating with
        | false => simp [Observation.quiet, mutating]
        | true => simp [Observation.quiet, finished.refused before mutating]
      · intro receipt found
        exact (finished.issued receipt found).2
  · next controller current =>
    cases taken
    rw [current] at phase
    exact ⟨phase, sound.orderly⟩
  · cases taken

private theorem step {event : Event} (taken : system.step event = some next) :
    next.Sound := by
  cases event with
  | command command =>
    have phase := sound.phase
    simp only [System.step] at taken
    split at taken
    · next controller current =>
      cases taken
      rw [current] at phase
      obtain ⟨trusts, retired⟩ := phase
      refine ⟨?_, sound.orderly⟩
      cases before : issued system.trace with
      | false => simpa [Phase.Sound, before] using runs_handle trusts command
      | true =>
        simpa [Phase.Sound, before] using quiet_handle trusts (retired before)
          command
    · cases taken
  | act fortune => exact sound.act taken
  | returns => exact sound.returns taken
  | close =>
    have phase := sound.phase
    simp only [System.step] at taken
    split at taken
    · next controller current =>
      cases taken
      rw [current] at phase
      obtain ⟨trusts, retired⟩ := phase
      refine ⟨?_, sound.orderly⟩
      cases before : issued system.trace with
      | false => simpa [Phase.Sound, before] using runs_close trusts
      | true =>
        simpa [Phase.Sound, before] using quiet_close trusts (retired before)
    · cases taken
  | exit =>
    cases taken
    exact sound.drifts ⟨nofun, rfl⟩
  | register operationID token =>
    obtain ⟨-, ⟨⟩⟩ := Option.ite_none_left_eq_some.mp taken
    exact sound.drifts ⟨id, rfl⟩
  | unregister operationID token =>
    cases taken
    exact sound.drifts (drifts_withoutCancellation _ operationID token)

/-- The state of the actor is trusted at every moment. -/
theorem current : Trusts system.current system.world := by
  have phase := sound.phase
  unfold System.current
  split
  all_goals
    rename_i current
    rw [current] at phase
  · exact phase.1
  · exact phase.1.1
  · exact Finished.trusts phase
  · exact phase.1.1
  · exact phase
  · exact phase

end

private theorem start (context : SidecarLaunchContext)
    (expectedAuthProof : Text) (mode : ControllerMode) :
    (System.start context expectedAuthProof mode).Sound := by
  refine ⟨⟨?_, nofun⟩, nofun, Nat.zero_le 1, .nil⟩
  cases mode with
  | reusable => exact ⟨fun _ _ => rfl, fun _ _ => rfl, fun _ => ⟨rfl, rfl⟩⟩
  | brokerBound reference startConsumed => exact ⟨nofun, nofun, nofun⟩

end System.Sound

theorem controller_absence_is_certified (context : SidecarLaunchContext)
    (expectedAuthProof : Text) (mode : ControllerMode) (system : System)
    (reached : Reaches System.step (fun _ _ => True)
      (System.start context expectedAuthProof mode) system) :
    system.Proper := by
  have sound : system.Sound := by
    apply reached.invariant (System.Sound.start context expectedAuthProof mode)
    intro before event after sound _ taken
    exact sound.step taken
  exact ⟨sound.current.absent, sound.orderly⟩

/-- A start, a shutdown, the receipt and a refused poll. -/
def retiredRun : List Event :=
  [.command .start,
    .act (some (.start (.ok ⟨Ipc.protocolVersion, [1], [2]⟩) true true)),
    .returns,
    .command .shutdown, .act (some (.stop (some (.ok ())) false)), .act none,
    .returns,
    .command .retire, .act none, .returns,
    .command (.poll 0 0), .returns]

theorem retired_controller_is_certified :
    ∃ system,
      Reaches System.step (fun _ _ => True)
          (System.start ⟨[1], [], []⟩ [2] .reusable) system ∧
        issued system.trace = true ∧ system.world.spawned = true ∧
        system.trace.length = 6 ∧ system.Proper := by
  have seen : (run System.step (System.start ⟨[1], [], []⟩ [2] .reusable)
          retiredRun).map
        (fun system =>
          (issued system.trace, system.world.spawned, system.trace.length)) =
      some (true, true, 6) := by
    decide +kernel
  obtain ⟨system, reached, facts⟩ := exists_of_replay seen
  simp only [Prod.mk.injEq] at facts
  exact ⟨system, reached, facts.1, facts.2.1, facts.2.2,
    controller_absence_is_certified _ _ _ system reached⟩

end KyClash.Production
