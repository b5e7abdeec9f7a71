import KyClash.Production.ControllerSystem

/-!
# The proof of absence

`Trusts` relates the controller to its child: a recorded proof of absence is
true, and a reusable controller that has started no generation never had a
child.  Every method of the actor keeps it, at every action and where it
returns, whatever the runtime does within its contract.
-/

namespace KyClash.Production

open Program
open Sidecar (Text)

structure Trusts (controller : Controller) (world : World) : Prop where
  absent : ∀ proof, controller.absence = some proof → world.alive = false
  unspawned : controller.mode.isBrokerBound = false →
    controller.runtimeGeneration = 0 → world.spawned = false
  never : controller.absence = some .neverSpawned →
    controller.mode.isBrokerBound = false ∧ controller.runtimeGeneration = 0

/-- What the world may do to the child by itself. -/
structure Drifts (world after : World) : Prop where
  alive : after.alive = true → world.alive = true
  spawned : after.spawned = world.spawned

variable {controller : Controller} {world after : World} {quiet : Bool}

theorem Drifts.refl (world : World) : Drifts world world :=
  ⟨id, rfl⟩

theorem Drifts.trans {between : World} (first : Drifts world between)
    (second : Drifts between after) : Drifts world after :=
  ⟨first.alive ∘ second.alive, second.spawned.trans first.spawned⟩

theorem Drifts.absent (drifts : Drifts world after)
    (absent : world.alive = false) : after.alive = false := by
  cases alive : after.alive with
  | false => rfl
  | true => exact absent.symm.trans (drifts.alive alive) |>.symm

theorem Trusts.drifts (trusts : Trusts controller world)
    (drifts : Drifts world after) : Trusts controller after := by
  constructor
  · intro proof recorded
    exact drifts.absent (trusts.absent proof recorded)
  · intro reusable unstarted
    rw [drifts.spawned]
    exact trusts.unspawned reusable unstarted
  · exact trusts.never

/-- Without a proof, a started generation may be anything. -/
theorem Trusts.started (world : World) (unproved : controller.absence = none)
    (started : controller.runtimeGeneration ≠ 0) : Trusts controller world := by
  constructor
  · intro proof recorded
    rw [unproved] at recorded
    cases recorded
  · intro _ unstarted
    exact absurd unstarted started
  · intro recorded
    rw [unproved] at recorded
    cases recorded

section Calls

variable {fortune : Fortune}

private theorem runtime_request {request : Ipc.Request}
    {result : Option (Except NetworkErrorCode Sidecar.Response)}
    (done : world.runtime (.request request) fortune = some (result, after)) :
    Drifts world after := by
  cases fortune with
  | request answer alive =>
    obtain ⟨kept, ⟨⟩⟩ := Option.ite_none_left_eq_some.mp done
    refine ⟨?_, rfl⟩
    intro (lives : alive = true)
    simpa [lives] using kept
  | _ => cases done

private theorem runtime_status
    {result : Except NetworkErrorCode SidecarProcessStatus}
    (done : world.runtime .status fortune = some (result, after)) :
    Drifts world after ∧
      ∀ success, result = .ok (.exited success) → after.alive = false := by
  cases fortune with
  | status answer alive =>
    obtain ⟨kept, ⟨⟩⟩ := Option.ite_none_left_eq_some.mp done
    refine ⟨⟨?_, rfl⟩, ?_⟩
    · intro (lives : alive = true)
      simp only [lives, Bool.true_and, Bool.or_eq_true, not_or] at kept
      simpa using kept.1
    · rintro success rfl
      simpa [Except.toOption, SidecarProcessStatus.isExited] using kept
  | _ => cases done

private theorem runtime_stop {result : Option (Except NetworkErrorCode Unit)}
    (done : world.runtime .stop fortune = some (result, after)) :
    Drifts world after ∧ (result = some (.ok ()) → after.alive = false) := by
  cases fortune with
  | stop answer alive =>
    obtain ⟨kept, ⟨⟩⟩ := Option.ite_none_left_eq_some.mp done
    refine ⟨⟨?_, rfl⟩, ?_⟩
    · intro (lives : alive = true)
      simp only [lives, Bool.true_and, Bool.or_eq_true, not_or] at kept
      simpa using kept.1
    · rintro rfl
      simpa [Except.isOk, Except.toBool] using kept
  | _ => cases done

end Calls

/-- An action as the actor sees it: the world moves on before it. -/
def Does : Effect Act Act.Res World := fun world action result after =>
  ∃ between fortune, Drifts world between ∧ between.perform fortune action =
    some (result, after)

/-- A quiet actor does not call the runtime. -/
def Permits (quiet : Bool) (world : World) (action : Act) : Prop :=
  Trusts action.waiting world ∧ (quiet = true → action.observed = [])

def Runs {α : Type} (quiet : Bool) (post : α → World → Prop) (program : Actor α)
    (world : World) : Prop :=
  Safe Does (fun _ _ _ _ => True) (Permits quiet) (fun _ => True) post program
    world

/-- The postcondition of the methods. -/
def Leaves {α : Type} (result : Controller × α) (world : World) : Prop :=
  Trusts result.1 world

theorem Runs.bind {α β : Type} {first : α → World → Prop}
    {second : β → World → Prop} {program : Actor α} {next : α → Actor β}
    (runs : Runs quiet first program world)
    (continues : ∀ value after, first value after →
      Runs quiet second (next value) after) :
    Runs quiet second (program >>= next) world :=
  Safe.bind runs continues

theorem drifts_withoutCancellation (world : World) (operationID : Text)
    (token : Token) :
    Drifts world (world.withoutCancellation operationID token) := by
  unfold World.withoutCancellation
  split
  · exact ⟨id, rfl⟩
  · exact .refl world

theorem perform_unobserved {action : Act} {fortune : Option Fortune}
    {result : action.Res} (unobserved : action.observed = [])
    (performed : world.perform fortune action = some (result, after)) :
    Drifts world after := by
  cases action with
  | runtime waiting call => cases unobserved
  | noCancellations waiting =>
    cases performed
    exact .refl world
  | removeCancellation waiting operationID token =>
    cases performed
    exact drifts_withoutCancellation world operationID token
  | clearCancellations waiting =>
    cases performed
    exact ⟨id, rfl⟩

theorem Runs.access {α : Type} {post : α → World → Prop} (action : Act)
    {next : action.Res → Actor α} (unobserved : action.observed = [])
    (trusts : Trusts action.waiting world)
    (continues : ∀ result after, Trusts action.waiting after →
      Drifts world after → Runs quiet post (next result) after) :
    Runs quiet post (Prog.perform action >>= next) world := by
  refine ⟨⟨trusts, fun _ => unobserved⟩, ?_⟩
  rintro result after ⟨between, fortune, drifts, performed⟩
  have moved := drifts.trans (perform_unobserved unobserved performed)
  exact ⟨trivial, fun _ =>
    continues result after (trusts.drifts moved) moved⟩

private theorem nextGeneration_ne_zero {generation : UInt64}
    (next : controller.nextGeneration = some generation) : generation ≠ 0 := by
  obtain ⟨-, next⟩ := Option.ite_none_left_eq_some.mp next
  obtain ⟨below, ⟨⟩⟩ := Option.ite_none_left_eq_some.mp next
  intro wrapped
  apply below
  have added : controller.runtimeGeneration =
      controller.runtimeGeneration + 1 - 1 := by simp
  rw [added, wrapped]
  rfl

theorem Certifies.drifts {receipt : ControllerRetirementReceipt}
    (certifies : Certifies receipt world) (drifts : Drifts world after) :
    Certifies receipt after := by
  refine ⟨drifts.absent certifies.absent, ?_⟩
  intro never
  rw [drifts.spawned]
  exact certifies.never never

/-- The postcondition of a retirement. -/
structure Retires (result : Fallible ControllerRetirementReceipt)
    (world : World) : Prop where
  trusts : Trusts result.1 world
  issued : ∀ receipt, result.2 = .ok receipt →
    result.1.retired = true ∧ Certifies receipt world

section

variable (trusts : Trusts controller world)
include trusts

theorem runs_call (call : RuntimeCall) {post : call.Res → World → Prop}
    (leaves : ∀ between fortune result after, Drifts world between →
      between.runtime call fortune = some (result, after) → post result after) :
    Runs false post (Prog.perform (Act.runtime controller call)) world := by
  refine ⟨⟨trusts, by rintro ⟨⟩⟩, ?_⟩
  rintro result after ⟨between, fortune, drifts, performed⟩
  cases fortune with
  | none => cases performed
  | some fortune =>
    exact ⟨trivial, fun _ =>
      leaves between fortune result after drifts performed⟩

private theorem runs_callRequest (request : Ipc.Request) :
    Runs false (fun _ after => Trusts controller after)
      (controller.callRequest request) world := by
  apply runs_call trusts
  intro between fortune result after drifts called
  exact trusts.drifts (drifts.trans (runtime_request called))

private theorem runs_callStatus :
    Runs false
      (fun result after => Trusts controller after ∧
        ∀ success, result = .ok (.exited success) → after.alive = false)
      controller.callStatus world := by
  apply runs_call trusts
  intro between fortune result after drifts called
  obtain ⟨moved, exited⟩ := runtime_status called
  exact ⟨trusts.drifts (drifts.trans moved), exited⟩

private theorem runs_callStop :
    Runs false
      (fun result after => Trusts controller after ∧
        (result = some (.ok ()) → after.alive = false))
      controller.callStop world := by
  apply runs_call trusts
  intro between fortune result after drifts called
  obtain ⟨moved, stopped⟩ := runtime_stop called
  exact ⟨trusts.drifts (drifts.trans moved), stopped⟩

omit trusts in
/-- Nothing needs to be known of the child where nothing is claimed. -/
theorem runs_callStart (unproved : controller.absence = none)
    (started : controller.runtimeGeneration ≠ 0)
    (context : SidecarLaunchContext) :
    Runs false (fun _ after => Trusts controller after)
      (controller.callStart context) world := by
  apply runs_call (.started world unproved started)
  intro between fortune result after drifts called
  exact .started after unproved started

theorem runs_stopRuntimeBounded (operationID : Option Text) :
    Runs false Leaves (controller.stopRuntimeBounded operationID) world := by
  apply Runs.bind (runs_callStop trusts)
  rintro result after ⟨later, stopped⟩
  have failed (error : NetworkErrorCode) :
      Trusts ({ controller with absence := none, state := .crashLoop }.record
        .failed operationID (some error)) after :=
    ⟨nofun, later.unspawned, nofun⟩
  match result, stopped with
  | none, _ => exact failed _
  | some (.error error), _ => exact failed error
  | some (.ok ()), stopped =>
    refine ⟨fun _ _ => stopped rfl, later.unspawned, ?_⟩
    intro recorded
    have proof : controller.stopProof = .neverSpawned :=
      Option.some.inj recorded
    unfold Controller.stopProof at proof
    split at proof
    · next unstarted =>
      split at proof
      · cases proof
      · next reusable => exact ⟨by simpa using reusable, unstarted⟩
    · cases proof

private theorem runs_abortStart (error : NetworkErrorCode) :
    Runs false Leaves (controller.abortStart error) world := by
  apply Runs.bind (runs_stopRuntimeBounded trusts none)
  intro stopped after leaves
  exact { leaves with }

omit trusts in
private theorem runs_launch (unproved : controller.absence = none)
    (started : controller.runtimeGeneration ≠ 0)
    (context : SidecarLaunchContext) (resetCrashHistory : Bool) :
    Runs false Leaves (controller.launch context resetCrashHistory) world := by
  apply Runs.bind (runs_callStart unproved started context)
  intro result after trusts
  cases result with
  | error primary => exact runs_abortStart trusts primary
  | ok handshake =>
    dsimp only
    cases controller.acceptHandshake context handshake with
    | error error => exact runs_abortStart trusts error
    | ok outcome => exact { trusts with }

theorem runs_start (resetCrashHistory : Bool) :
    Runs false Leaves (controller.start resetCrashHistory) world := by
  unfold Controller.start
  split
  · exact trusts
  split
  · exact trusts
  · next generation next =>
    have started := nextGeneration_ne_zero next
    dsimp only
    split
    · exact .started world rfl started
    · exact runs_launch rfl started _ resetCrashHistory

theorem runs_startBrokerBound :
    Runs false Leaves controller.startBrokerBound world := by
  unfold Controller.startBrokerBound
  split
  · next reference unused =>
    have marked : Trusts { controller with
        mode := .brokerBound reference true } world := by
      refine ⟨trusts.absent, nofun, ?_⟩
      intro recorded
      have bound := (trusts.never recorded).1
      rw [unused] at bound
      cases bound
    apply Runs.bind (runs_start marked true)
    rintro ⟨stopped, outcome⟩ after leaves
    match outcome with
    | .ok (some receipt) => exact leaves
    | .ok none => exact leaves
    | .error error => exact leaves
  · exact trusts

private theorem runs_abortRequest (operationID : Text)
    (kind : ProductionEventKind) (error : NetworkErrorCode) :
    Runs false Leaves (controller.abortRequest operationID kind error)
      world := by
  apply Runs.bind (runs_stopRuntimeBounded trusts (some operationID))
  intro stopped after leaves
  exact { leaves with }

theorem runs_execute (operationID : Text) (request : Ipc.Request) :
    Runs false Leaves (controller.execute operationID request) world := by
  unfold Controller.execute
  split
  · exact trusts
  split
  · exact trusts
  apply Runs.bind (runs_callRequest trusts request)
  intro result after later
  have recorded (kind : ProductionEventKind) (error : Option NetworkErrorCode) :
      Trusts (controller.record kind (some operationID) error) after :=
    { later with }
  split
  · exact runs_abortRequest later _ _ _
  · exact recorded _ _
  · exact runs_abortRequest later _ _ _
  · exact runs_abortRequest later _ _ _
  · split
    · exact runs_abortRequest later _ _ _
    · exact recorded _ _

private theorem trusts_observeExit (absent : world.alive = false)
    (now : Instant) : Leaves (controller.observeExit now) world := by
  unfold Controller.observeExit
  dsimp only
  generalize (if controller.crashes = uint8Max then uint8Max
    else controller.crashes + 1) = crashes
  split
  · exact ⟨fun _ _ => absent, trusts.unspawned, nofun⟩
  split
  all_goals exact ⟨fun _ _ => absent, trusts.unspawned, nofun⟩

theorem runs_poll (now later : Instant) :
    Runs false Leaves (controller.poll now later) world := by
  unfold Controller.poll
  split
  · split
    · have stopped : Trusts ({ controller with state := .stopped }.record
          .restarting none none) world :=
        { trusts with }
      apply Runs.bind (runs_start stopped false)
      rintro ⟨restarted, outcome⟩ after leaves
      cases outcome with
      | error | ok => exact leaves
    · exact trusts
  split
  · exact trusts
  apply Runs.bind (runs_callStatus trusts)
  rintro result after ⟨kept, exited⟩
  match result, exited with
  | .error error, _ =>
    apply Runs.bind (runs_stopRuntimeBounded kept none)
    intro stopped after leaves
    exact { leaves with }
  | .ok .running, _ => exact ⟨nofun, kept.unspawned, nofun⟩
  | .ok (.exited success), exited =>
    exact trusts_observeExit kept (exited success rfl) later

theorem runs_shutdown : Runs false Leaves controller.shutdown world := by
  apply Runs.bind (runs_stopRuntimeBounded trusts none)
  rintro ⟨stopped, result⟩ between leaves
  have cleared : Trusts { stopped with crashes := 0, retryAt := none }
      between :=
    { leaves with }
  apply Runs.access (.clearCancellations _) rfl cleared
  intro _ after later _
  cases result with
  | ok value => exact { later with }
  | error error => exact later

theorem Retires.refused (error : NetworkErrorCode) :
    Retires (controller, .error error) world :=
  ⟨trusts, nofun⟩

private theorem retires_issueRetirement :
    Retires controller.issueRetirement world := by
  unfold Controller.issueRetirement
  split
  · exact .refused trusts _
  · next absence recorded =>
    split
    · exact .refused trusts _
    refine ⟨{ trusts with }, ?_⟩
    rintro receipt issued
    cases issued
    refine ⟨rfl, trusts.absent absence recorded, ?_⟩
    rintro rfl
    obtain ⟨reusable, unstarted⟩ := trusts.never recorded
    exact trusts.unspawned reusable unstarted

theorem runs_retire : Runs false Retires controller.retire world := by
  apply Runs.access (.noCancellations controller) rfl trusts
  intro idle after later _
  split
  · exact Retires.refused later _
  split
  · apply Runs.bind (runs_stopRuntimeBounded later none)
    rintro ⟨stopped, result⟩ last leaves
    cases result with
    | error error => exact Retires.refused leaves error
    | ok value => exact retires_issueRetirement leaves
  · exact retires_issueRetirement later

end

end KyClash.Production
