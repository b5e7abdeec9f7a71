import KyClash.Production.ServiceLedger

/-!
# The retirement of the production service

In every run the service returns at most one receipt.  It is returned when
nothing is in use and both the route boundary and the controller have issued
theirs, and nothing is admitted after it.
-/

namespace KyClash.Production

open Transition
open Sidecar (Text)

/-- The receipt of the service has been returned. -/
def retirementIssued (history : List ServiceObservation) : Bool :=
  history.any (·.receipt?.isSome)

section History

variable {history : List ServiceObservation} {observation : ServiceObservation}

private theorem retirementIssued_cons (plain : observation.receipt? = none) :
    retirementIssued (observation :: history) = retirementIssued history := by
  simp [retirementIssued, plain]

theorem Final.nil : Final [] := by
  refine ⟨Nat.zero_le 1, ?_, .nil⟩
  intro receipt earlier suffix
  cases List.suffix_nil.mp suffix

theorem Final.cons (final : Final history) (plain : observation.receipt? = none)
    (admissible : retirementIssued history = true →
      observation.isAdmission = false) :
    Final (observation :: history) := by
  refine ⟨?_, ?_, ?_⟩
  · rw [List.filterMap_cons_none plain]
    exact final.once
  · intro receipt earlier suffix
    rcases List.suffix_cons_iff.mp suffix with whole | suffix
    · cases whole
      cases plain
    · exact final.backed receipt earlier suffix
  · refine List.pairwise_cons.mpr ⟨?_, final.closed⟩
    intro earlier member receipt
    exact admissible (List.any_eq_true.mpr ⟨earlier, member, receipt⟩)

theorem Final.retire (final : Final history)
    (first : retirementIssued history = false)
    {receipt : ProductionServiceRetirementReceipt}
    (route : .routeRetired receipt.route ∈ history)
    (controller : .controllerRetired receipt.controller ∈ history) :
    Final (.serviceRetired receipt :: history) := by
  have none : history.filterMap ServiceObservation.receipt? = [] := by
    rw [List.filterMap_eq_nil_iff]
    intro observation member
    have plain := List.any_eq_false.mp first observation member
    simpa using plain
  refine ⟨?_, ?_, ?_⟩
  · simp [ServiceObservation.receipt?, none]
  · intro other earlier suffix
    rcases List.suffix_cons_iff.mp suffix with whole | suffix
    · cases whole
      exact ⟨route, controller⟩
    · exact final.backed other earlier suffix
  · exact List.pairwise_cons.mpr ⟨fun _ _ _ => rfl, final.closed⟩

end History

/-- A receipt that a call carries has been issued. -/
def RetirementStage.Vouched (history : List ServiceObservation) :
    RetirementStage → Prop
  | .consuming receipt => .routeRetired receipt ∈ history
  | .finishing receipt => .controllerRetired receipt ∈ history
  | _ => True

theorem RetirementStage.Vouched.mono {stage : RetirementStage}
    {history later : List ServiceObservation} (vouched : stage.Vouched history)
    (grows : history ⊆ later) : stage.Vouched later := by
  cases stage with
  | consuming | finishing => exact grows vouched
  | _ => trivial

/-- The invariant but for the calls of `try_retire`. -/
structure Service.Core (service : Service) : Prop where
  ledger : Ledger service.gate.counts service.reservations service.leases
    service.routeTasks
  guarded : Guarded (retirementIssued service.history) service.gate
  route : ∀ receipt, service.gate.routeReceipt = some receipt →
    .routeRetired receipt ∈ service.history
  controller : ∀ entry ∈ service.progress, ∀ receipt,
    entry.result = some (.ok receipt) →
      .controllerRetired receipt ∈ service.history
  final : Final service.history

structure Service.Sound (service : Service) : Prop where
  core : service.Core
  stages : ∀ stage ∈ service.retirements, stage.Vouched service.history

variable {service next : Service} {gate : ProductionMutationGate}
  {receipt : ControllerRetirementReceipt} {finding : Finding}

section

variable (core : service.Core)
include core

theorem Service.Core.resultOf {progress : ProgressID}
    (found : service.resultOf progress = some (.ok receipt)) :
    .controllerRetired receipt ∈ service.history := by
  obtain ⟨entry, present, result⟩ := Option.bind_eq_some_iff.mp found
  exact core.controller entry (List.mem_of_getElem? present) receipt result

theorem Service.Core.setGate (counts : gate.counts = service.gate.counts)
    (guarded : Guarded (retirementIssued service.history) gate)
    (receipt : gate.routeReceipt = service.gate.routeReceipt) :
    { service with gate }.Core := by
  refine ⟨?_, guarded, ?_, core.controller, core.final⟩
  · show Ledger gate.counts _ _ _
    rw [counts]
    exact core.ledger
  · show ∀ route, gate.routeReceipt = some route → _
    rw [receipt]
    exact core.route

theorem Service.Core.turns (turns : Turns service.gate gate) :
    { service with gate }.Core := by
  refine core.setGate ?_ (core.guarded.turns turns) ?_
  all_goals cases turns <;> rfl

theorem Service.Core.frozen :
    { service with gate := service.gate.setGateRecoveryOnly }.Core :=
  core.setGate rfl core.guarded.frozen rfl

theorem Service.Core.observe (observation : ServiceObservation)
    (plain : observation.receipt? = none)
    (admissible : retirementIssued service.history = true →
      observation.isAdmission = false) :
    { service with history := observation :: service.history }.Core := by
  refine ⟨core.ledger, ?_, ?_, ?_, core.final.cons plain admissible⟩
  · show Guarded (retirementIssued (_ :: _)) _
    rw [retirementIssued_cons plain]
    exact core.guarded
  · intro receipt kept
    exact List.mem_cons_of_mem _ (core.route receipt kept)
  · intro entry member receipt result
    exact List.mem_cons_of_mem _ (core.controller entry member receipt result)

end

/-- What one step of a call leaves. -/
structure Service.Proceeds (service : Service)
    (outcome : Service × RetirementStage) : Prop where
  core : outcome.1.Core
  vouched : outcome.2.Vouched outcome.1.history
  grows : service.history ⊆ outcome.1.history

namespace Service.Core

section

variable (core : service.Core)
include core

private theorem enter : service.Proceeds service.enter := by
  have gate := core.turns (turns_beginRetirement service.gate service.pending)
  unfold Service.enter
  split
  all_goals
    next begun =>
    rw [begun] at gate
    exact ⟨gate, trivial, List.Subset.refl _⟩

private theorem spawnRetirement : service.spawnRetirement.1.Core := by
  refine { core with guarded := ?_, controller := ?_ }
  · exact core.guarded.shrinks rfl rfl id
  · intro entry member receipt result
    rcases List.mem_append.mp member with present | fresh
    · exact core.controller entry present receipt result
    · obtain rfl := List.mem_singleton.mp fresh
      cases result

private theorem startOrResume :
    service.startOrResumeControllerRetirement.1.Core ∧
      service.startOrResumeControllerRetirement.1.history =
        service.history := by
  unfold Service.startOrResumeControllerRetirement
  split
  · exact ⟨core.spawnRetirement, rfl⟩
  split
  · exact ⟨core.spawnRetirement, rfl⟩
  · exact ⟨core, rfl⟩

private theorem consume {receipt : ProductionRouteRetirementReceipt}
    (issued : .routeRetired receipt ∈ service.history) :
    service.Proceeds (service.consume receipt) := by
  have guarded := core.guarded.consumeRouteRetirementReceipt receipt
  unfold Service.consume
  unfold ProductionMutationGate.consumeRouteRetirementReceipt at guarded ⊢
  split at guarded
  · next refused =>
    rw [if_pos refused]
    exact ⟨core, trivial, List.Subset.refl _⟩
  · next usable =>
    rw [if_neg usable]
    refine ⟨⟨core.ledger, guarded, ?_, core.controller, core.final⟩, trivial,
      List.Subset.refl _⟩
    rintro other kept
    cases kept
    exact issued

private theorem finishRetirement
    (issued : .controllerRetired receipt ∈ service.history) :
    service.Proceeds (service.finishRetirement receipt) := by
  unfold Service.finishRetirement
  rcases finishServiceRetirement_cases service.gate receipt with
    failed | ⟨route, kept, retiring, empty, retired⟩
  · rw [failed]
    exact ⟨core.frozen, trivial, List.Subset.refl _⟩
  · rw [retired]
    refine ⟨⟨core.ledger, ?_, nofun, ?_, ?_⟩, trivial,
      List.subset_cons_self _ _⟩
    · refine ⟨?_, nofun, fun _ => ⟨nofun, nofun, rfl, empty⟩⟩
      rintro (impossible | impossible)
      · cases impossible
      · cases impossible
    · intro entry member other result
      exact List.mem_cons_of_mem _ (core.controller entry member other result)
    · exact core.final.retire (core.guarded.not_issued (.inr retiring))
        (core.route route kept) issued

private theorem routesAnswered (result : ProductionRouteRetirementResult) :
    service.Proceeds (service.routesAnswered result) := by
  cases result with
  | retired receipt =>
    exact ⟨core.observe _ rfl (fun _ => rfl), List.mem_cons_self,
      List.subset_cons_self _ _⟩
  | busy | recoveryOnly | alreadyRetired =>
    exact ⟨core, trivial, List.Subset.refl _⟩

private theorem advanceStage {stage : RetirementStage}
    (vouched : stage.Vouched service.history)
    {outcome : Service × RetirementStage}
    (taken : service.advanceStage stage finding = some outcome) :
    service.Proceeds outcome := by
  unfold Service.advanceStage at taken
  split at taken
  · rw [← Option.some.inj taken]
    exact core.enter
  · next seen =>
    cases taken
    refine ⟨core, ?_, List.Subset.refl _⟩
    cases serviceRetirementPreflight seen with
    | ready | busy | recoveryOnly => trivial
  · next result =>
    rw [← Option.some.inj taken]
    exact core.routesAnswered result
  · cases taken
    exact ⟨core.turns (turns_setGateOpenAfterPreflight _), trivial,
      List.Subset.refl _⟩
  · cases taken
    exact ⟨core.frozen, trivial, List.Subset.refl _⟩
  · rw [← Option.some.inj taken]
    exact core.consume vouched
  · rw [← Option.some.inj taken]
    obtain ⟨kept, same⟩ := core.startOrResume
    exact ⟨kept, trivial,
      List.Subset.trans (List.Subset.refl _) (same ▸ List.Subset.refl _)⟩
  · unfold Service.await at taken
    split at taken
    · cases taken
    · next receipt found =>
      cases taken
      exact ⟨core, core.resultOf found, List.Subset.refl _⟩
    · cases taken
      exact ⟨core, trivial, List.Subset.refl _⟩
  · rw [← Option.some.inj taken]
    exact core.finishRetirement vouched
  · cases taken

end

variable {gate : ProductionMutationGate}
  {reservation : ProductionConnectReservation}

section

variable (core : service.Core)
include core

theorem refused {α : Type} {grown : ProductionMutationGate} {allowed : Prop}
    {value : α} {error : NetworkErrorCode}
    (admits : Admits service.gate grown allowed value (gate, .error error)) :
    { service with gate }.Core := by
  cases admits with
  | refused error => exact core
  | frozen error opened => exact core.frozen

private theorem admissible (opened : service.gate.state = .opened)
    (observation : ServiceObservation)
    (issued : retirementIssued service.history = true) :
    observation.isAdmission = false := by
  rw [core.guarded.not_issued (.inl opened)] at issued
  cases issued

theorem grant {reservations : List ProductionConnectReservation}
    {leases : List ProductionMutationLease}
    {routeTasks : List RouteTaskLifecycle}
    (ledger : Ledger gate.counts reservations leases routeTasks)
    (opened : service.gate.state = .opened) (stays : gate.state = .opened)
    (receipt : gate.routeReceipt = service.gate.routeReceipt)
    (kind : Admitted) :
    Service.Core { service with
      gate, reservations, leases, routeTasks
      history := .admitted kind :: service.history } := by
  have counted : Service.Core
      { service with gate, reservations, leases, routeTasks } := by
    refine ⟨ledger, core.guarded.admits opened (.inl stays) receipt, ?_,
      core.controller, core.final⟩
    show ∀ route, gate.routeReceipt = some route → _
    rw [receipt]
    exact core.route
  exact counted.observe _ rfl (core.admissible opened _)

private theorem mutate :
    service.mutate.Core ∧ service.history ⊆ service.mutate.history ∧
      service.mutate.retirements = service.retirements := by
  have admits := acquireMutation_admits service.gate
  unfold Service.mutate
  split
  · next gate error outcome =>
    rw [outcome] at admits
    exact ⟨core.refused admits, List.Subset.refl _, rfl⟩
  · next gate lease outcome =>
    rw [outcome] at admits
    cases admits with
    | granted opened held =>
      refine ⟨?_, List.subset_cons_self _ _, rfl⟩
      apply core.grant
      · exact core.ledger.lease
      · exact opened
      · exact opened
      · rfl

private theorem updateTask (id : Nat)
    (change : RouteTaskLifecycle → RouteTaskLifecycle)
    (generation : ∀ task, (change task).generation = task.generation)
    (sameID : ∀ task, (change task).id = task.id)
    (forward : ∀ task,
      ((change task).completed && (change task).joined) = false →
        (task.completed && task.joined) = false) :
    (service.updateTask id change).Core := by
  refine { core with ledger := ?_ }
  apply core.ledger.update
  · intro task
    split
    · exact generation task
    · rfl
  · intro task
    split
    · exact sameID task
    · rfl
  · intro task
    split
    · exact forward task
    · exact fun unfinished => unfinished

end

section

variable (core : service.Core)
include core

private theorem reserve {seen : Seen}
    (outcome : service.gate.reserveConnect service.brokerBound seen =
      (gate, .ok reservation)) :
    Service.Core { service with
      gate
      reservations := reservation :: service.reservations
      history := .admitted .reservation :: service.history } := by
  have admits := reserveConnect_admits service.gate service.brokerBound seen
  rw [outcome] at admits
  cases admits with
  | granted opened none =>
    apply core.grant
    · exact core.ledger.reserve none _
    · exact opened
    · exact opened
    · rfl

private theorem queue {id : Nat}
    (outcome : service.gate.queueRouteTask = (gate, .ok id)) :
    Service.Core { service with
      gate
      routeTasks := ⟨gate.generation, id, false, false⟩ :: service.routeTasks
      history := .admitted .routeTask :: service.history } := by
  have admits := queueRouteTask_admits service.gate
  rw [outcome] at admits
  cases admits with
  | granted opened none =>
    apply core.grant
    · exact core.ledger.queue
    · exact opened
    · exact opened
    · rfl

theorem release (member : reservation ∈ service.reservations) :
    Service.Core { service with
      gate := service.gate.release reservation
      reservations := service.reservations.erase reservation } := by
  have guarded := core.guarded.release reservation
  have generation : service.gate.generation = reservation.generation :=
    (core.ledger.reserved reservation member).1.symm
  unfold ProductionMutationGate.release at guarded ⊢
  rw [if_pos generation] at guarded ⊢
  exact { core with ledger := core.ledger.release member _, guarded }

private theorem connect (member : reservation ∈ service.reservations)
    (opened : service.gate.state = .opened) :
    Service.Core { service with
      gate := { service.gate with
        reservations :=
          service.gate.reservations.erase reservation.reservationID
        inFlightMutations := service.gate.inFlightMutations + 1 }
      reservations := service.reservations.erase reservation
      leases := ⟨reservation.generation⟩ :: service.leases
      history := .admitted .mutation :: service.history } := by
  have generation : reservation.generation = service.gate.generation :=
    (core.ledger.reserved reservation member).1
  have ledger := (core.ledger.release member reservation.reservationID).lease
  rw [generation]
  apply core.grant
  · exact ledger
  · exact opened
  · exact opened
  · rfl

private theorem endMutation {lease : ProductionMutationLease}
    (member : lease ∈ service.leases) :
    Service.Core { service with
      gate := service.gate.endMutation lease
      leases := service.leases.erase lease } := by
  have guarded := core.guarded.endMutation lease
  have held : service.gate.generation = lease.generation ∧
      0 < service.gate.inFlightMutations := by
    refine ⟨(core.ledger.leased lease member).symm, ?_⟩
    have counted : service.gate.inFlightMutations = service.leases.length :=
      core.ledger.mutations
    rw [counted]
    exact List.length_pos_of_mem member
  unfold ProductionMutationGate.endMutation at guarded ⊢
  rw [if_pos held] at guarded ⊢
  exact { core with ledger := core.ledger.endLease member, guarded }

private theorem finish {task : RouteTaskLifecycle}
    (member : task ∈ service.routeTasks)
    (finished : task.completed = true ∧ task.joined = true) :
    Service.Core { service with
      gate := service.gate.finishRouteTask task } := by
  have guarded := core.guarded.finishRouteTask task
  have generation : service.gate.generation = task.generation :=
    (core.ledger.numbered task member).1.symm
  unfold ProductionMutationGate.finishRouteTask at guarded ⊢
  rw [if_pos generation] at guarded ⊢
  exact { core with ledger := core.ledger.finish member finished, guarded }

/-- The controller answers with a receipt that has been issued, or an error. -/
theorem answer (id : ProgressID) (settled : Bool)
    {result : Except NetworkErrorCode ControllerRetirementReceipt}
    (issued : ∀ receipt, result = .ok receipt → .controllerRetired receipt ∈
      service.history) :
    Service.Core
    { service with
      progress := service.progress.set id ⟨some result, settled⟩ } := by
  refine { core with controller := ?_ }
  intro entry member receipt found
  rcases List.mem_or_eq_of_mem_set member with before | rfl
  · exact core.controller entry before receipt found
  · exact issued receipt (Option.some.inj found)

end

end Service.Core

theorem Service.advance_cases {call : Nat}
    (taken : service.step (.advance call finding) = some next) :
    ∃ stage moved later, service.retirements[call]? = some stage ∧
      service.advanceStage stage finding = some (moved, later) ∧
      { moved with retirements := service.retirements.set call later } = next ∧
      next.retirements[call]? = some later := by
  simp only [Service.step] at taken
  split at taken
  · cases taken
  · next stage present =>
    split at taken
    · cases taken
    · next moved later outcome =>
      cases taken
      have within := (List.getElem?_eq_some_iff.mp present).1
      exact ⟨stage, moved, later, present, outcome, rfl,
        List.getElem?_set_self within⟩

namespace Service.Sound

theorem start (generation : Nat) (brokerBound : Bool) :
    (Service.start generation brokerBound).Sound := by
  have ledger : Ledger (ProductionMutationGate.new generation).counts [] []
      [] :=
    ⟨by rintro _ ⟨⟩, Nat.zero_le 1, by rintro _ ⟨⟩,
      rfl, by rintro _ ⟨⟩, by rintro _ ⟨⟩, .nil⟩
  have guarded : Guarded false (ProductionMutationGate.new generation) :=
    ⟨fun _ => rfl, fun _ => rfl, by rintro ⟨⟩⟩
  exact ⟨⟨ledger, guarded, by rintro _ ⟨⟩, by rintro _ ⟨⟩,
    .nil⟩, by rintro _ ⟨⟩⟩

section

variable (sound : service.Sound)
include sound

theorem keep (core : next.Core)
    (grows : service.history ⊆ next.history := by exact List.Subset.refl _)
    (same : next.retirements = service.retirements := by rfl) : next.Sound := by
  refine ⟨core, ?_⟩
  rw [same]
  intro stage member
  exact (sound.stages stage member).mono grows

private theorem advance {call : Nat}
    (taken : service.step (.advance call finding) = some next) :
    next.Sound := by
  obtain ⟨stage, moved, later, present, outcome, rfl, -⟩ :=
    Service.advance_cases taken
  have vouched := sound.stages stage (List.mem_of_getElem? present)
  have proceeds := sound.core.advanceStage vouched outcome
  refine ⟨{ proceeds.core with }, ?_⟩
  intro other member
  rcases List.mem_or_eq_of_mem_set member with before | rfl
  · exact (sound.stages other before).mono proceeds.grows
  · exact proceeds.vouched

private theorem connect {operationID : Text}
    {reservation : ProductionConnectReservation}
    (taken : service.step (.connect operationID reservation) = some next) :
    next.Sound := by
  obtain ⟨member, taken⟩ := Option.ite_none_right_eq_some.mp taken
  rcases connectReserved_cases service.gate operationID reservation with
    ⟨error, outcome⟩ | ⟨-, error, outcome⟩ | ⟨opened, outcome⟩
  · rw [outcome] at taken
    cases taken
    exact sound.keep (sound.core.release member)
  · rw [outcome] at taken
    cases taken
    exact sound.keep (sound.core.frozen.release member)
  · rw [outcome] at taken
    cases taken
    exact sound.keep (sound.core.connect member opened)
      (List.subset_cons_self _ _)

theorem step {event : ServiceEvent} (taken : service.step event = some next) :
    next.Sound := by
  have core := sound.core
  cases event with
  | reserve seen =>
    simp only [Service.step] at taken
    split at taken
    · next gate error outcome =>
      cases taken
      have admits := reserveConnect_admits service.gate service.brokerBound seen
      rw [outcome] at admits
      exact sound.keep (core.refused admits)
    · next gate reservation outcome =>
      cases taken
      exact sound.keep (core.reserve outcome) (List.subset_cons_self _ _)
  | abandon reservation =>
    obtain ⟨member, ⟨⟩⟩ := Option.ite_none_right_eq_some.mp taken
    exact sound.keep (core.release member)
  | connect operationID reservation => exact sound.connect taken
  | disconnect operationID =>
    obtain ⟨mutated, grows, same⟩ := core.mutate
    simp only [Service.step] at taken
    split at taken
    · cases taken
      exact sound.keep mutated grows same
    · cases taken
      exact sound
  | cancel =>
    obtain ⟨mutated, grows, same⟩ := core.mutate
    cases taken
    exact sound.keep mutated grows same
  | endMutation lease =>
    obtain ⟨member, ⟨⟩⟩ := Option.ite_none_right_eq_some.mp taken
    exact sound.keep (core.endMutation member)
  | routeCall =>
    simp only [Service.step] at taken
    split at taken
    · next gate error outcome =>
      cases taken
      have admits := queueRouteTask_admits service.gate
      rw [outcome] at admits
      exact sound.keep (core.refused admits)
    · next gate id outcome =>
      cases taken
      exact sound.keep (core.queue outcome) (List.subset_cons_self _ _)
  | complete id =>
    cases taken
    refine sound.keep (core.updateTask id _ (fun _ => rfl) (fun _ => rfl) ?_)
    intro task unfinished
    have unjoined : task.joined = false := by simpa using unfinished
    rw [unjoined, Bool.and_false]
  | join id =>
    cases taken
    refine sound.keep (core.updateTask id _ (fun _ => rfl) (fun _ => rfl) ?_)
    intro task unfinished
    have uncompleted : task.completed = false := by simpa using unfinished
    rw [uncompleted, Bool.false_and]
  | joinFails id =>
    obtain ⟨-, ⟨⟩⟩ := Option.ite_none_right_eq_some.mp taken
    exact sound.keep core.frozen
  | finish task =>
    obtain ⟨held, ⟨⟩⟩ := Option.ite_none_right_eq_some.mp taken
    exact sound.keep (core.finish held.1 held.2)
  | retire =>
    cases taken
    refine ⟨{ core with }, ?_⟩
    intro stage member
    rcases List.mem_append.mp member with before | fresh
    · exact sound.stages stage before
    · obtain rfl := List.mem_singleton.mp fresh
      trivial
  | advance call finding => exact sound.advance taken
  | controllerAnswers id result =>
    simp only [Service.step] at taken
    split at taken
    · next settled present =>
      cases taken
      cases result with
      | ok receipt =>
        have observed :=
          core.observe (.controllerRetired receipt) rfl (fun _ => rfl)
        refine sound.keep (observed.answer id settled ?_)
          (List.subset_cons_self _ _)
        rintro _ ⟨⟩
        exact List.mem_cons_self
      | error error => exact sound.keep (core.answer id settled nofun)
    · cases taken
  | controllerSettles id =>
    simp only [Service.step] at taken
    split at taken
    · next error present =>
      cases taken
      refine sound.keep
        ((core.answer id true ?_).turns (turns_controllerRetirementFailed _))
      exact nofun
    · cases taken

private theorem quiescent (issued : retirementIssued service.history = true) :
    service.Quiescent := by
  obtain ⟨-, -, -, empty⟩ := sound.core.guarded.closed issued
  rw [canRetire_iff] at empty
  obtain ⟨⟨reservations, mutations⟩, routeTasks⟩ := empty
  have ledger := sound.core.ledger
  refine ⟨ledger.no_reservations reservations, ?_, ?_⟩
  · have counted : service.gate.inFlightMutations = service.leases.length :=
      ledger.mutations
    exact List.length_eq_zero_iff.mp (counted.symm.trans mutations)
  · intro task member
    cases finished : task.completed && task.joined with
    | false =>
      have queued : task.id ∈ service.gate.routeTasks :=
        ledger.queued task member finished
      rw [routeTasks] at queued
      exact absurd queued (Finset.notMem_empty _)
    | true => exact Bool.and_eq_true_iff.mp finished

end

end Service.Sound

theorem service_retirement_is_final (generation : Nat) (brokerBound : Bool)
    (service : Service)
    (reached : Reaches Service.step (fun _ _ => True)
      (Service.start generation brokerBound) service) :
    service.Proper := by
  have sound : service.Sound := by
    apply reached.invariant (Service.Sound.start generation brokerBound)
    intro before event after sound _ taken
    exact sound.step taken
  refine ⟨sound.core.final, ?_⟩
  intro receipt member
  apply sound.quiescent
  exact List.any_eq_true.mpr ⟨_, member, rfl⟩

/-- A service at rest. -/
def idleSeen : Seen where
  startConsumed := false
  activeOperation := false
  routeHeartbeat := false
  routesActive := false
  lifecycleFree := true
  status := ⟨.disconnected, .stopped, none, none, none⟩
  disposition := .reusable

/-- A connection with one route task, then three calls of `try_retire`, of
which the first returns the receipt while the third waits for the same
controller, and attempts to use the service after that. -/
def retiredServiceRun : List ServiceEvent :=
  [.reserve idleSeen, .connect (List.replicate 8 97) ⟨1, 1⟩, .routeCall,
    .complete 1, .join 1, .finish ⟨1, 1, true, true⟩, .endMutation ⟨1⟩,
    .retire, .advance 0 .nothing, .advance 0 (.seen idleSeen),
    .advance 0 (.routes (.retired ⟨1, 1⟩)), .advance 0 .nothing,
    .advance 0 .nothing,
    .retire, .advance 1 .nothing,
    .controllerAnswers 0 (.ok ⟨1, .reaped⟩), .advance 0 .nothing,
    .retire, .advance 2 .nothing, .advance 2 .nothing, .advance 2 .nothing,
    .advance 0 .nothing, .advance 2 .nothing,
    .reserve idleSeen, .cancel, .routeCall]

theorem retired_service_stays_retired :
    ∃ service,
      Reaches Service.step (fun _ _ => True) (Service.start 1 false) service ∧
        retirementIssued service.history = true ∧ service.history.length = 6 ∧
        service.retirements =
          [.returned (.retired ⟨1, ⟨1, 1⟩, ⟨1, .reaped⟩⟩), .returned .busy,
            .returned .recoveryOnly] ∧
        service.Proper := by
  have seen : (run Service.step (Service.start 1 false)
      retiredServiceRun).map (fun service =>
        (retirementIssued service.history, service.history.length,
          service.retirements)) =
      some (true, 6,
        [.returned (.retired ⟨1, ⟨1, 1⟩, ⟨1, .reaped⟩⟩), .returned .busy,
          .returned .recoveryOnly]) := by
    decide +kernel
  obtain ⟨service, reached, facts⟩ := exists_of_replay seen
  simp only [Prod.mk.injEq] at facts
  exact ⟨service, reached, facts.1, facts.2.1, facts.2.2,
    service_retirement_is_final 1 false service reached⟩

/-- In every run the gate accounts for every reservation, mutation and route
task that is under way. -/
theorem gate_accounts_for_all_work (generation : Nat) (brokerBound : Bool)
    (service : Service)
    (reached : Reaches Service.step (fun _ _ => True)
      (Service.start generation brokerBound) service) :
    Ledger service.gate.counts service.reservations service.leases
      service.routeTasks := by
  have sound : service.Sound := by
    apply reached.invariant (Service.Sound.start generation brokerBound)
    intro before event after sound _ taken
    exact sound.step taken
  exact sound.core.ledger

theorem connected_service_is_accounted_for :
    ∃ service,
      Reaches Service.step (fun _ _ => True) (Service.start 1 false) service ∧
        service.leases.length = 1 ∧ service.routeTasks.length = 1 ∧
        Ledger service.gate.counts service.reservations service.leases
          service.routeTasks := by
  have seen : (run Service.step (Service.start 1 false)
          (retiredServiceRun.take 3)).map
        (fun service => (service.leases.length, service.routeTasks.length)) =
      some (1, 1) := by
    decide +kernel
  obtain ⟨service, reached, facts⟩ := exists_of_replay seen
  exact ⟨service, reached, congrArg Prod.fst facts, congrArg Prod.snd facts,
    gate_accounts_for_all_work 1 false service reached⟩

end KyClash.Production
