import KyClash.Production.ServiceRetirement

/-!
# A retired gate

A second call of `try_retire` may share the retirement of the controller with
the first.  The call that finishes last finds the gate retired, which it
takes for a failure, and closes the gate again.  If no call is overtaken by a
later one, a retired gate stays retired.
-/

namespace KyClash.Production

open Transition

/-- A change of the gate that neither retires it nor undoes its retirement. -/
structure Calm (gate next : ProductionMutationGate) : Prop where
  stays : gate.state = .retired →
    next.state = .retired ∧ next.routeTasks ⊆ gate.routeTasks
  fresh : next.state = .retired → gate.state = .retired

namespace Calm

variable {gate next last : ProductionMutationGate}

theorem refl (gate : ProductionMutationGate) : Calm gate gate :=
  ⟨fun retired => ⟨retired, Finset.Subset.refl _⟩, id⟩

private theorem trans (first : Calm gate next) (second : Calm next last) :
    Calm gate last := by
  constructor
  · intro retired
    obtain ⟨stays, tasks⟩ := first.stays retired
    obtain ⟨still, fewer⟩ := second.stays stays
    exact ⟨still, fewer.trans tasks⟩
  · exact first.fresh ∘ second.fresh

theorem of_ne (before : gate.state ≠ .retired) (after : next.state ≠ .retired) :
    Calm gate next :=
  ⟨fun retired => absurd retired before, fun retired => absurd retired after⟩

theorem of_state (same : next.state = gate.state)
    (tasks : next.routeTasks ⊆ gate.routeTasks) : Calm gate next :=
  ⟨fun retired => ⟨same.trans retired, tasks⟩, same.symm.trans⟩

theorem turns (turns : Turns gate next) : Calm gate next := by
  cases turns with
  | still => exact refl gate
  | frozen usable | retires usable => exact of_ne usable nofun
  | reopens retiring => exact of_ne (by simp [retiring]) nofun

private theorem admits {α : Type} {grown : ProductionMutationGate}
    {allowed : Prop} {value : α}
    {outcome : ProductionMutationGate × Except NetworkErrorCode α}
    (admits : Admits gate grown allowed value outcome)
    (state : grown.state = gate.state) : Calm gate outcome.1 := by
  cases admits with
  | refused error => exact refl gate
  | frozen error opened => exact turns (.frozen (by simp [opened]))
  | granted opened held =>
    apply of_ne
    · rw [opened]
      exact nofun
    · rw [state, opened]
      exact nofun

variable (gate)

theorem release (reservation : ProductionConnectReservation) :
    Calm gate (gate.release reservation) := by
  unfold ProductionMutationGate.release
  split
  · exact of_state rfl (Finset.Subset.refl _)
  · exact refl gate

private theorem connectReserved (operationID : Sidecar.Text)
    (reservation : ProductionConnectReservation) :
    Calm gate (gate.connectReserved operationID reservation).1 := by
  rcases connectReserved_cases gate operationID reservation with
    ⟨error, outcome⟩ | ⟨opened, error, outcome⟩ | ⟨opened, outcome⟩
  · rw [outcome]
    exact release gate reservation
  · rw [outcome]
    exact (turns (.frozen (by simp [opened]))).trans (release _ reservation)
  · rw [outcome]
    exact of_state rfl (Finset.Subset.refl _)

private theorem endMutation (lease : ProductionMutationLease) :
    Calm gate (gate.endMutation lease) := by
  unfold ProductionMutationGate.endMutation
  split
  · exact of_state rfl (Finset.Subset.refl _)
  · exact refl gate

private theorem finishRouteTask (task : RouteTaskLifecycle) :
    Calm gate (gate.finishRouteTask task) := by
  unfold ProductionMutationGate.finishRouteTask
  split
  · exact of_state rfl (Finset.erase_subset _ _)
  · exact refl gate

private theorem consumeRouteRetirementReceipt
    (receipt : ProductionRouteRetirementReceipt) :
    Calm gate (gate.consumeRouteRetirementReceipt receipt).1 := by
  unfold ProductionMutationGate.consumeRouteRetirementReceipt
  split
  · exact refl gate
  · exact of_state rfl (Finset.Subset.refl _)

end Calm

/-- A call that is about to write the state of the gate whatever it finds. -/
def RetirementStage.closes : RetirementStage → Bool
  | .freezing => true
  | .finishing _ => true
  | _ => false

variable {service next : Service} {event : ServiceEvent} {call : Nat}
  {stage : RetirementStage} {finding : Finding}

private theorem calm_enter (service : Service) :
    Calm service.gate service.enter.1.gate := by
  have calm := Calm.turns (turns_beginRetirement service.gate service.pending)
  unfold Service.enter
  split <;> next begun => rw [begun] at calm; exact calm

private theorem calm_startOrResume (service : Service) :
    Calm service.gate service.startOrResumeControllerRetirement.1.gate := by
  have spawned : Calm service.gate service.spawnRetirement.1.gate :=
    Calm.of_state rfl (Finset.Subset.refl _)
  unfold Service.startOrResumeControllerRetirement
  split
  · exact spawned
  split
  · exact spawned
  · exact Calm.refl _

private theorem calm_consume (service : Service)
    (receipt : ProductionRouteRetirementReceipt) :
    Calm service.gate (service.consume receipt).1.gate := by
  have calm := Calm.consumeRouteRetirementReceipt service.gate receipt
  unfold Service.consume
  split <;> next consumed => rw [consumed] at calm; exact calm

private theorem calm_advanceStage {stage later : RetirementStage}
    (open_ : stage.closes = false)
    (moved : service.advanceStage stage finding = some (next, later)) :
    Calm service.gate next.gate := by
  unfold Service.advanceStage at moved
  split at moved
  · rw [Option.some.injEq] at moved
    have calm := calm_enter service
    rw [moved] at calm
    exact calm
  · cases moved
    exact Calm.refl _
  · next result =>
    cases result <;> cases moved <;> exact Calm.refl _
  · cases moved
    exact .turns (turns_setGateOpenAfterPreflight _)
  · cases open_
  · next receipt =>
    rw [Option.some.injEq] at moved
    have calm := calm_consume service receipt
    rw [moved] at calm
    exact calm
  · cases moved
    exact calm_startOrResume service
  · next progress =>
    simp only [Service.await] at moved
    split at moved
    · cases moved
    · cases moved
      exact Calm.refl _
    · cases moved
      exact Calm.refl _
  · cases open_
  · cases moved

/-- Only a failed join and the end of a retirement write the state of the
gate whatever it is. -/
theorem calm_step (taken : service.step event = some next) :
    Calm service.gate next.gate ∨ (∃ id, event = .joinFails id) ∨
      ∃ call finding stage, event = .advance call finding ∧
        service.retirements[call]? = some stage ∧ stage.closes = true := by
  have mutated : Calm service.gate service.mutate.gate := by
    have calm := Calm.admits (acquireMutation_admits service.gate) rfl
    unfold Service.mutate
    split <;> next acquired => rw [acquired] at calm; exact calm
  cases event with
  | reserve seen =>
    left
    have calm :=
      Calm.admits (reserveConnect_admits service.gate service.brokerBound seen)
        rfl
    simp only [Service.step] at taken
    split at taken
    all_goals next outcome => cases taken; rw [outcome] at calm; exact calm
  | abandon reservation =>
    left
    obtain ⟨-, ⟨⟩⟩ := Option.ite_none_right_eq_some.mp taken
    exact Calm.release service.gate reservation
  | connect operationID reservation =>
    left
    have calm := Calm.connectReserved service.gate operationID reservation
    obtain ⟨-, taken⟩ := Option.ite_none_right_eq_some.mp taken
    split at taken
    all_goals next outcome => cases taken; rw [outcome] at calm; exact calm
  | disconnect operationID =>
    left
    simp only [Service.step] at taken
    split at taken
    · cases taken
      exact mutated
    · cases taken
      exact Calm.refl _
  | cancel =>
    left
    cases taken
    exact mutated
  | endMutation lease =>
    left
    obtain ⟨-, ⟨⟩⟩ := Option.ite_none_right_eq_some.mp taken
    exact Calm.endMutation service.gate lease
  | routeCall =>
    left
    have calm := Calm.admits (queueRouteTask_admits service.gate) rfl
    simp only [Service.step] at taken
    split at taken
    all_goals next outcome => cases taken; rw [outcome] at calm; exact calm
  | complete | join | retire =>
    left
    cases taken
    exact Calm.refl _
  | joinFails id => exact .inr (.inl ⟨id, rfl⟩)
  | finish task =>
    left
    obtain ⟨-, ⟨⟩⟩ := Option.ite_none_right_eq_some.mp taken
    exact Calm.finishRouteTask service.gate task
  | advance call finding =>
    obtain ⟨stage, moved, later, present, outcome, rfl, -⟩ :=
      Service.advance_cases taken
    cases closes : stage.closes with
    | true => exact .inr (.inr ⟨call, finding, stage, rfl, present, closes⟩)
    | false =>
      have calm := calm_advanceStage closes outcome
      exact .inl calm
  | controllerAnswers id result =>
    left
    simp only [Service.step] at taken
    split at taken
    · cases taken
      exact Calm.refl _
    · cases taken
  | controllerSettles id =>
    left
    simp only [Service.step] at taken
    split at taken
    · cases taken
      exact .turns (turns_controllerRetirementFailed _)
    · cases taken

private theorem retirements_step (taken : service.step event = some next)
    (present : service.retirements[call]? = some stage)
    (other : ∀ finding, event ≠ .advance call finding) :
    next.retirements[call]? = some stage := by
  have mutated : service.mutate.retirements = service.retirements := by
    unfold Service.mutate
    split <;> rfl
  cases event
  case advance acting finding =>
    obtain ⟨_, _, _, -, -, rfl, -⟩ := Service.advance_cases taken
    have differ : acting ≠ call := by
      rintro rfl
      exact other finding rfl
    rw [List.getElem?_set_ne differ]
    exact present
  case retire =>
    cases taken
    have within := (List.getElem?_eq_some_iff.mp present).1
    exact (List.getElem?_append_left within).trans present
  case cancel =>
    cases taken
    rw [mutated]
    exact present
  case disconnect operationID =>
    simp only [Service.step] at taken
    split at taken
    · cases taken
      rw [mutated]
      exact present
    · cases taken
      exact present
  case connect operationID reservation =>
    obtain ⟨-, taken⟩ := Option.ite_none_right_eq_some.mp taken
    split at taken <;> cases taken <;> exact present
  -- The other events have one condition at most.
  case complete | join =>
    cases taken
    exact present
  all_goals
    simp only [Service.step] at taken
    split at taken <;> cases taken <;> exact present

/-! ## Calls that are not overtaken -/

/-- The service, with the last call of `try_retire` that went on behind its
first look at the gate. -/
structure Attended where
  service : Service
  latest : Option Nat

namespace Attended

def start (generation : Nat) (brokerBound : Bool) : Attended where
  service := .start generation brokerBound
  latest := none

/-- A call that has just entered goes on. -/
def goesOn : Option RetirementStage → Bool
  | some .preflight => true
  | some .starting => true
  | _ => false

/-- The call that goes on behind its first look at the gate. -/
def enters (before after : Service) : ServiceEvent → Option Nat
  | .advance call _ =>
    if before.retirements[call]? = some .entering ∧
        goesOn after.retirements[call]? then
      some call
    else
      none
  | _ => none

def step (state : Attended) (event : ServiceEvent) : Option Attended :=
  (state.service.step event).map fun next =>
    ⟨next, (enters state.service next event).or state.latest⟩

/-- A call takes no step when a later one has gone on: it has returned, or
it was dropped. -/
def Admitted (state : Attended) : ServiceEvent → Prop
  | .advance call _ =>
    state.service.retirements[call]? = some .entering ∨ state.latest = some call
  | _ => True

instance (state : Attended) :
    (event : ServiceEvent) → Decidable (state.Admitted event)
  | .advance call _ => inferInstanceAs (Decidable
      (state.service.retirements[call]? = some .entering ∨
        state.latest = some call))
  | .reserve _ => .isTrue trivial
  | .abandon _ => .isTrue trivial
  | .connect _ _ => .isTrue trivial
  | .disconnect _ => .isTrue trivial
  | .cancel => .isTrue trivial
  | .endMutation _ => .isTrue trivial
  | .routeCall => .isTrue trivial
  | .complete _ => .isTrue trivial
  | .join _ => .isTrue trivial
  | .joinFails _ => .isTrue trivial
  | .finish _ => .isTrue trivial
  | .retire => .isTrue trivial
  | .controllerAnswers _ _ => .isTrue trivial
  | .controllerSettles _ => .isTrue trivial

/-- A retired gate counts no route task, and the call that may take a step has
returned. -/
structure Steady (state : Attended) : Prop where
  sound : state.service.Sound
  tasks : state.service.gate.state = .retired →
    state.service.gate.routeTasks = ∅
  latest : state.service.gate.state = .retired →
    ∀ call, state.latest = some call →
      ∃ result, state.service.retirements[call]? = some (.returned result)

variable {state after : Attended} {event : ServiceEvent}

private theorem enter_retired (retired : service.gate.state = .retired) :
    service.enter = (service, .returned .alreadyRetired) := by
  simp only [Service.enter, ProductionMutationGate.beginRetirement, retired]

private theorem enters_retired (taken : service.step event = some next)
    (retired : service.gate.state = .retired) :
    enters service next event = none := by
  cases event with
  | advance call finding =>
    obtain ⟨stage, moved, later, present, outcome, -, reached⟩ :=
      Service.advance_cases taken
    rw [enters, if_neg]
    rintro ⟨entering, goes⟩
    rw [present, Option.some.injEq] at entering
    subst entering
    cases finding with
    | nothing =>
      rw [Service.advanceStage, enter_retired retired] at outcome
      cases outcome
      rw [reached] at goes
      cases goes
    | seen | routes => cases outcome
  | _ => rfl

theorem Steady.latest_step (steady : state.Steady)
    (taken : state.service.step event = some next)
    (retired : state.service.gate.state = .retired)
    (latest : (enters state.service next event).or state.latest = some call) :
    ∃ result, next.retirements[call]? = some (.returned result) := by
  rw [enters_retired taken retired, Option.none_or] at latest
  obtain ⟨result, present⟩ := steady.latest retired call latest
  refine ⟨result, retirements_step taken present ?_⟩
  rintro finding rfl
  obtain ⟨stage, moved, later, found, outcome, -⟩ := Service.advance_cases taken
  rw [present, Option.some.injEq] at found
  subst found
  cases outcome

theorem Steady.close (steady : state.Steady)
    (admitted : state.Admitted (.advance call finding))
    (taken : state.service.step (.advance call finding) = some next)
    (present : state.service.retirements[call]? = some stage)
    (closes : stage.closes = true) :
    state.service.gate.state ≠ .retired ∧
      Steady
        ⟨next,
          (enters state.service next (.advance call finding)).or
            state.latest⟩ := by
  have closing : ∀ other, state.service.retirements[call]? = some other →
      other.closes = true := by
    intro other found
    rw [present, Option.some.injEq] at found
    exact found ▸ closes
  have latest : state.latest = some call := by
    rcases admitted with entering | latest
    · cases closing _ entering
    · exact latest
  have entered : enters state.service next (.advance call finding) = none := by
    rw [enters, if_neg]
    rintro ⟨entering, -⟩
    cases closing _ entering
  have unretired : state.service.gate.state ≠ .retired := by
    intro retired
    obtain ⟨result, returned⟩ := steady.latest retired call latest
    cases closing _ returned
  rw [entered, Option.none_or]
  have sound := steady.sound.step taken
  obtain ⟨found, moved, later, same, outcome, rfl, reached⟩ :=
    Service.advance_cases taken
  rw [present, Option.some.injEq] at same
  subst same
  have frozen (other : moved.gate.state ≠ .retired) : Steady
      ⟨{ moved with retirements := state.service.retirements.set call later },
        state.latest⟩ :=
    ⟨sound, fun retired => absurd retired other, fun retired =>
      absurd retired other⟩
  refine ⟨unretired, ?_⟩
  cases stage with
  | freezing =>
    cases finding with
    | nothing =>
      cases outcome
      exact frozen nofun
    | seen | routes => cases outcome
  | finishing receipt =>
    cases finding with
    | nothing =>
      rw [Service.advanceStage, Option.some.injEq,
        Service.finishRetirement] at outcome
      rcases finishServiceRetirement_cases state.service.gate receipt with
        failed | ⟨route, -, -, empty, retires⟩
      · rw [failed] at outcome
        cases outcome
        exact frozen nofun
      · rw [retires] at outcome
        cases outcome
        refine ⟨sound, fun _ => ?_, ?_⟩
        · rw [canRetire_iff] at empty
          exact empty.2
        · intro _ other same
          rw [latest, Option.some.injEq] at same
          subst same
          exact ⟨_, reached⟩
    | seen | routes => cases outcome
  | _ => cases closes

theorem Steady.step (steady : state.Steady) (admitted : state.Admitted event)
    (moved : state.step event = some after) :
    after.Steady ∧
      (state.service.gate.state = .retired →
        after.service.gate.state = .retired) := by
  obtain ⟨next, taken, rfl⟩ := Option.map_eq_some_iff.mp moved
  have sound := steady.sound.step taken
  rcases calm_step taken with
    calm | ⟨id, rfl⟩ | ⟨call, finding, stage, rfl, present, closes⟩
  · refine ⟨⟨sound, ?_, ?_⟩, fun retired => (calm.stays retired).1⟩
    · intro retired
      have before := calm.fresh retired
      exact Finset.subset_empty.mp (steady.tasks before ▸ (calm.stays before).2)
    · intro retired call latest
      exact steady.latest_step taken (calm.fresh retired) latest
  · obtain ⟨unjoined, ⟨⟩⟩ := Option.ite_none_right_eq_some.mp taken
    refine ⟨⟨sound, by rintro ⟨⟩, by rintro ⟨⟩⟩, ?_⟩
    intro retired
    obtain ⟨task, member, held⟩ := List.any_eq_true.mp unjoined
    have unfinished : (task.completed && task.joined) = false := by
      have open_ : task.joined = false := by
        simpa using (Bool.and_eq_true_iff.mp held).2
      rw [open_, Bool.and_false]
    have queued : task.id ∈ state.service.gate.routeTasks :=
      steady.sound.core.ledger.queued task member unfinished
    rw [steady.tasks retired] at queued
    exact absurd queued (Finset.notMem_empty _)
  · obtain ⟨unretired, kept⟩ := steady.close admitted taken present closes
    exact ⟨kept, fun retired => absurd retired unretired⟩

private theorem steady_start (generation : Nat) (brokerBound : Bool) :
    (start generation brokerBound).Steady :=
  ⟨Service.Sound.start generation brokerBound, nofun, nofun⟩

private theorem reached_steady {generation : Nat} {brokerBound : Bool}
    (reached : Reaches step Admitted (start generation brokerBound) state) :
    state.Steady := by
  apply reached.invariant (steady_start generation brokerBound)
  intro before event after steady admitted taken
  exact (steady.step admitted taken).1

/-- In a run in which no call of `try_retire` takes a step after a later one
has gone on, a gate that is retired stays retired. -/
theorem retired_gate_stays_retired {generation : Nat} {brokerBound : Bool}
    (reached : Reaches step Admitted (start generation brokerBound) state)
    (retired : state.service.gate.state = .retired)
    (later : Reaches step Admitted state after) :
    after.service.gate.state = .retired := by
  have kept : after.Steady ∧ after.service.gate.state = .retired := by
    apply later.invariant ⟨reached_steady reached, retired⟩
    rintro before event next ⟨steady, retired⟩ admitted taken
    obtain ⟨kept, stays⟩ := steady.step admitted taken
    exact ⟨kept, stays retired⟩
  exact kept.2

/-! ### Two calls that share a retirement of the controller -/

/-- The first call has the receipt of the routes. -/
def retiresRoutes : List ServiceEvent :=
  [.retire, .advance 0 .nothing, .advance 0 (.seen idleSeen),
    .advance 0 (.routes (.retired ⟨1, 1⟩)), .advance 0 .nothing]

/-- The second call is dropped while it waits for the controller; a third one
takes the result and retires the gate. -/
def resumesRetirement : List ServiceEvent :=
  [.retire, .advance 1 .nothing, .advance 1 .nothing,
    .controllerAnswers 0 (.ok ⟨1, .reaped⟩),
    .retire, .advance 2 .nothing, .advance 2 .nothing, .advance 2 .nothing,
    .advance 2 .nothing]

/-- The second call goes on beside the first, which retires the gate. -/
def overtakesRetirement : List ServiceEvent :=
  [.retire, .advance 1 .nothing, .advance 0 .nothing, .advance 1 .nothing,
    .controllerAnswers 0 (.ok ⟨1, .reaped⟩), .advance 0 .nothing,
    .advance 1 .nothing, .advance 0 .nothing]

/-- Attempts to use the service and to retire it again. -/
def usesService : List ServiceEvent :=
  [.reserve idleSeen, .cancel, .routeCall, .retire, .advance 3 .nothing]

theorem resumed_retirement_is_final :
    ∃ state after : Attended, Reaches step Admitted (start 1 false) state ∧
      state.service.gate.state = .retired ∧ Reaches step Admitted state after ∧
      after.service.retirements[3]? = some (.returned .alreadyRetired) ∧
      after.service.gate.state = .retired := by
  let guarded (state : Attended) (event : ServiceEvent) : Option Attended :=
    if state.Admitted event then state.step event else none
  have seen : ((run guarded (start 1 false)
      (retiresRoutes ++ resumesRetirement)).bind fun state =>
        (run guarded state usesService).map fun after =>
          (state.service.gate.state, after.service.retirements[3]?)) =
      some (.retired, some (.returned .alreadyRetired)) := by
    decide +kernel
  obtain ⟨state, first, seen⟩ := Option.bind_eq_some_iff.mp seen
  obtain ⟨after, second, facts⟩ := Option.map_eq_some_iff.mp seen
  obtain ⟨retired, returned⟩ := Prod.mk.inj facts
  have reached : Reaches step Admitted (start 1 false) state :=
    reaches_of_guarded .start _ first
  have later : Reaches step Admitted state after :=
    reaches_of_guarded .start _ second
  exact ⟨state, after, reached, retired, later, returned,
    retired_gate_stays_retired reached retired later⟩

/-- The call that finishes second closes the gate. -/
theorem overtaken_call_undoes_retirement :
    ∃ service after : Service,
      Reaches Service.step (fun _ _ => True) (.start 1 false) service ∧
        service.gate.state = .retired ∧
        service.step (.advance 1 .nothing) = some after ∧
        after.gate.state = .recoveryOnly := by
  have seen : ((run Service.step (.start 1 false)
      (retiresRoutes ++ overtakesRetirement)).bind fun service =>
        (service.step (.advance 1 .nothing)).map fun after =>
          (service.gate.state, after.gate.state)) =
      some (.retired, .recoveryOnly) := by
    decide +kernel
  obtain ⟨service, replayed, seen⟩ := Option.bind_eq_some_iff.mp seen
  obtain ⟨after, taken, facts⟩ := Option.map_eq_some_iff.mp seen
  obtain ⟨retired, closed⟩ := Prod.mk.inj facts
  exact ⟨service, after, reaches_of_run .start _
    (fun _ _ _ => trivial) replayed, retired, taken, closed⟩

end Attended

end KyClash.Production
