import Mathlib.Tactic.SplitIfs
import KyClash.Production.ServiceRuns

/-!
# What the mutation gate guards and counts

From the moment a retirement has begun, and while the gate keeps a route
receipt, nothing is counted; after the receipt of the service the gate
neither opens nor retires again (`Guarded`).  The gate counts at least what
exists (`Ledger`).
-/

namespace KyClash.Production

variable {gate next : ProductionMutationGate}

theorem canRetire_iff :
    gate.canRetire = true ↔
      (gate.reservations = ∅ ∧ gate.inFlightMutations = 0) ∧
        gate.routeTasks = ∅ := by
  simp [ProductionMutationGate.canRetire]

/-- `issued` tells that the receipt of the service has been returned. -/
structure Guarded (issued : Bool) (gate : ProductionMutationGate) : Prop where
  quiet : gate.state = .retiring ∨ gate.routeReceipt.isSome = true →
    gate.canRetire = true
  opened : gate.state = .opened → gate.routeReceipt = none
  closed : issued = true → gate.state ≠ .opened ∧ gate.state ≠ .retiring ∧
    gate.routeReceipt = none ∧ gate.canRetire = true

/-- A change of the gate's state alone. -/
inductive Turns (gate : ProductionMutationGate) :
    ProductionMutationGate → Prop where
  | still : Turns gate gate
  | frozen (usable : gate.state ≠ .retired) :
      Turns gate gate.setGateRecoveryOnly
  | retires (usable : gate.state ≠ .retired)
      (quiet : gate.state = .opened ∧ gate.canRetire = true ∨
        gate.routeReceipt.isSome = true) :
      Turns gate { gate with state := .retiring }
  | reopens (retiring : gate.state = .retiring)
      (none : gate.routeReceipt = none) :
      Turns gate { gate with state := .opened }

theorem turns_beginRetirement (gate : ProductionMutationGate) (pending : Bool) :
    Turns gate (gate.beginRetirement pending).1 := by
  unfold ProductionMutationGate.beginRetirement
  split
  · exact .still
  · split <;> exact .still
  · next recovery =>
    split
    · exact .still
    · next kept =>
      split
      · exact .still
      · -- Only a gate that keeps a route receipt goes on.
        exact .retires (by simp [recovery]) (.inr (Option.isSome_iff_ne_none.mpr
          fun none => kept (by rw [none]; rfl)))
  · next opened =>
    split
    · exact .still
    · next empty =>
        exact .retires (by simp [opened]) (.inl ⟨opened, by simpa using empty⟩)

theorem turns_setGateOpenAfterPreflight (gate : ProductionMutationGate) :
    Turns gate gate.setGateOpenAfterPreflight := by
  unfold ProductionMutationGate.setGateOpenAfterPreflight
  split
  · next held => exact .reopens held.1 held.2
  · exact .still

theorem turns_controllerRetirementFailed (gate : ProductionMutationGate) :
    Turns gate gate.controllerRetirementFailed := by
  unfold ProductionMutationGate.controllerRetirementFailed
  split
  · next retiring => exact .frozen (by simp [retiring])
  · exact .still

namespace Guarded

variable {issued : Bool}

section

variable (guarded : Guarded issued gate)
include guarded

theorem not_issued (usable : gate.state = .opened ∨ gate.state = .retiring) :
    issued = false := by
  cases issued with
  | false => rfl
  | true =>
    obtain ⟨notOpened, notRetiring, -⟩ := guarded.closed rfl
    rcases usable with opened | retiring
    · exact absurd opened notOpened
    · exact absurd retiring notRetiring

theorem admits (opened : gate.state = .opened)
    (stays : next.state = .opened ∨ next.state = .recoveryOnly)
    (receipt : next.routeReceipt = gate.routeReceipt) :
    Guarded issued next := by
  have none : next.routeReceipt = none := receipt.trans (guarded.opened opened)
  refine ⟨?_, fun _ => none, ?_⟩
  · rintro (retiring | kept)
    · rcases stays with same | same <;> rw [same] at retiring <;> cases retiring
    · rw [none] at kept
      cases kept
  · rw [guarded.not_issued (.inl opened)]
    rintro ⟨⟩

theorem shrinks (state : next.state = gate.state)
    (receipt : next.routeReceipt = gate.routeReceipt)
    (counts : gate.canRetire = true → next.canRetire = true) :
    Guarded issued next := by
  constructor
  · rw [state, receipt]
    exact counts ∘ guarded.quiet
  · rw [state, receipt]
    exact guarded.opened
  · intro before
    rw [state, receipt]
    obtain ⟨notOpened, notRetiring, none, empty⟩ := guarded.closed before
    exact ⟨notOpened, notRetiring, none, counts empty⟩

theorem frozen : Guarded issued gate.setGateRecoveryOnly := by
  refine ⟨?_, nofun, ?_⟩
  · rintro (retiring | kept)
    · cases retiring
    · exact guarded.quiet (.inr kept)
  · intro before
    obtain ⟨-, -, none, empty⟩ := guarded.closed before
    exact ⟨nofun, nofun, none, empty⟩

theorem turns (turns : Turns gate next) : Guarded issued next := by
  cases turns with
  | still => exact guarded
  | frozen => exact guarded.frozen
  | retires _ quiet =>
    refine ⟨fun _ => ?_, by rintro ⟨⟩, fun before => ?_⟩
    · exact quiet.elim And.right fun kept => guarded.quiet (.inr kept)
    · obtain ⟨notOpened, -, none, -⟩ := guarded.closed before
      rcases quiet with ⟨opened, -⟩ | kept
      · exact absurd opened notOpened
      · rw [none] at kept
        cases kept
  | reopens retiring none =>
    refine ⟨?_, fun _ => none, ?_⟩
    · rintro (impossible | kept)
      · cases impossible
      · exact guarded.quiet (.inr kept)
    · rw [guarded.not_issued (.inr retiring)]
      rintro ⟨⟩

theorem release (reservation : ProductionConnectReservation) :
    Guarded issued (gate.release reservation) := by
  unfold ProductionMutationGate.release
  split
  · refine guarded.shrinks rfl rfl ?_
    intro empty
    rw [canRetire_iff] at empty ⊢
    simpa [empty.1.1] using ⟨empty.1.2, empty.2⟩
  · exact guarded

theorem endMutation (lease : ProductionMutationLease) :
    Guarded issued (gate.endMutation lease) := by
  unfold ProductionMutationGate.endMutation
  split
  · refine guarded.shrinks rfl rfl ?_
    intro empty
    rw [canRetire_iff] at empty ⊢
    exact ⟨⟨empty.1.1, by rw [empty.1.2]⟩, empty.2⟩
  · exact guarded

theorem finishRouteTask (task : RouteTaskLifecycle) :
    Guarded issued (gate.finishRouteTask task) := by
  unfold ProductionMutationGate.finishRouteTask
  split
  · refine guarded.shrinks rfl rfl ?_
    intro empty
    rw [canRetire_iff] at empty ⊢
    simpa [empty.2] using empty.1
  · exact guarded

theorem consumeRouteRetirementReceipt
    (receipt : ProductionRouteRetirementReceipt) :
    Guarded issued (gate.consumeRouteRetirementReceipt receipt).1 := by
  unfold ProductionMutationGate.consumeRouteRetirementReceipt
  split
  · exact guarded
  · next usable =>
    simp only [not_or, not_not] at usable
    refine ⟨fun _ => guarded.quiet (.inl usable.1), ?_, ?_⟩
    · intro opened
      have both := usable.1.symm.trans opened
      cases both
    · rw [guarded.not_issued (.inr usable.1)]
      rintro ⟨⟩

end

end Guarded

theorem finishServiceRetirement_cases (gate : ProductionMutationGate)
    (controller : ControllerRetirementReceipt) :
    gate.finishServiceRetirement controller =
        (gate.setGateRecoveryOnly, .recoveryOnly) ∨
      ∃ route, gate.routeReceipt = some route ∧ gate.state = .retiring ∧
        gate.canRetire = true ∧
        gate.finishServiceRetirement controller =
          ({ gate with routeReceipt := none, state := .retired }, .retired
            ⟨gate.generation, route, controller⟩) := by
  unfold ProductionMutationGate.finishServiceRetirement
  split
  · exact .inl rfl
  · next usable =>
    simp only [Bool.or_eq_true, decide_eq_true_eq, Bool.not_eq_true',
      not_or, not_not, Bool.not_eq_false] at usable
    split
    · exact .inl rfl
    · next route kept => exact .inr ⟨route, kept, usable.1, usable.2, rfl⟩

/-- How an admission may end: refused, with the gate closed because a number
is used up, or granted by an open gate. -/
inductive Admits {α : Type} (gate grown : ProductionMutationGate)
    (allowed : Prop) (value : α) :
    ProductionMutationGate × Except NetworkErrorCode α → Prop where
  | refused (error : NetworkErrorCode) :
      Admits gate grown allowed value (gate, .error error)
  | frozen (error : NetworkErrorCode) (opened : gate.state = .opened) :
      Admits gate grown allowed value (gate.setGateRecoveryOnly, .error error)
  | granted (opened : gate.state = .opened) (held : allowed) :
      Admits gate grown allowed value (grown, .ok value)

section

variable (gate)

private theorem issueReservation_admits : Admits gate { gate with
        nextReservationID := gate.nextReservationID + 1
        reservations :=
          insert (gate.nextReservationID + 1) gate.reservations }
      (gate.reservations = ∅)
      ⟨gate.generation, gate.nextReservationID + 1⟩
      gate.issueReservation := by
  unfold ProductionMutationGate.issueReservation
  split
  · exact .refused _
  · next usable =>
    simp only [not_or, not_not] at usable
    split
    · exact .frozen _ usable.1
    · exact .granted usable.1 usable.2

theorem reserveConnect_admits (brokerBound : Bool) (seen : Seen) :
    Admits gate { gate with
        nextReservationID := gate.nextReservationID + 1
        reservations :=
          insert (gate.nextReservationID + 1) gate.reservations }
      (gate.reservations = ∅)
      ⟨gate.generation, gate.nextReservationID + 1⟩
      (gate.reserveConnect brokerBound seen) := by
  unfold ProductionMutationGate.reserveConnect
  iterate 6
    split
    · exact .refused _
  exact issueReservation_admits gate

theorem acquireMutation_admits :
    Admits gate { gate with inFlightMutations := gate.inFlightMutations + 1 }
      True (⟨gate.generation⟩ : ProductionMutationLease)
      gate.acquireMutation := by
  unfold ProductionMutationGate.acquireMutation
    ProductionMutationGate.beginMutation
  split
  · next begun =>
    split at begun
    · cases begun
      exact .refused _
    · next usable =>
      simp only [not_or, not_not] at usable
      split at begun
      · cases begun
        exact .frozen _ usable.1
      · cases begun
  · next begun =>
    split at begun
    · cases begun
    · next usable =>
      simp only [not_or, not_not] at usable
      split at begun
      · cases begun
      · cases begun
        exact .granted usable.1 trivial

theorem queueRouteTask_admits : Admits gate { gate with
        nextRouteTaskID := gate.nextRouteTaskID + 1
        routeTasks := insert (gate.nextRouteTaskID + 1) gate.routeTasks }
      True (gate.nextRouteTaskID + 1) gate.queueRouteTask := by
  unfold ProductionMutationGate.queueRouteTask
  split
  · exact .refused _
  · next usable =>
    simp only [not_or, not_not] at usable
    split
    · exact .frozen _ usable.1
    · exact .granted usable.1 trivial

theorem connectReserved_cases
    (operationID : Sidecar.Text) (reservation : ProductionConnectReservation) :
    (∃ error, gate.connectReserved operationID reservation =
        (gate.release reservation, .error error)) ∨
      (gate.state = .opened ∧
        ∃ error, gate.connectReserved operationID reservation =
          (gate.setGateRecoveryOnly.release reservation, .error error)) ∨
      (gate.state = .opened ∧ gate.connectReserved operationID reservation =
          ({ gate with
              reservations :=
                gate.reservations.erase reservation.reservationID
              inFlightMutations := gate.inFlightMutations + 1 },
            .ok ⟨reservation.generation⟩)) := by
  unfold ProductionMutationGate.connectReserved
    ProductionMutationGate.consumeReservation
  by_cases valid : validProductionOperationID operationID = true
  · rw [if_neg (by simpa using valid)]
    split_ifs with closed full known
    · exact .inl ⟨_, rfl⟩
    · simp only [not_or, not_not] at closed
      exact .inr (.inl ⟨closed.1, _, rfl⟩)
    · simp only [not_or, not_not] at closed
      exact .inr (.inr ⟨closed.1, rfl⟩)
    · exact .inl ⟨_, rfl⟩
  · rw [if_pos (by simpa using valid)]
    exact .inl ⟨_, rfl⟩

end

/-! ## The ledger -/

/-- What the gate counts. -/
structure Counts where
  generation : Nat
  reservations : Finset Nat
  mutations : Nat
  nextRouteTaskID : Nat
  routeTasks : Finset Nat

def ProductionMutationGate.counts (gate : ProductionMutationGate) : Counts where
  generation := gate.generation
  reservations := gate.reservations
  mutations := gate.inFlightMutations
  nextRouteTaskID := gate.nextRouteTaskID
  routeTasks := gate.routeTasks

/-- The gate counts at least what exists. -/
structure Ledger (counts : Counts)
    (reservations : List ProductionConnectReservation)
    (leases : List ProductionMutationLease) (tasks : List RouteTaskLifecycle) :
    Prop where
  reserved : ∀ reservation ∈ reservations,
    reservation.generation = counts.generation ∧
      reservation.reservationID ∈ counts.reservations
  single : reservations.length ≤ 1
  leased : ∀ lease ∈ leases, lease.generation = counts.generation
  mutations : counts.mutations = leases.length
  numbered : ∀ task ∈ tasks, task.generation = counts.generation ∧
    task.id ≤ counts.nextRouteTaskID
  queued : ∀ task ∈ tasks, (task.completed && task.joined) = false →
    task.id ∈ counts.routeTasks
  distinct : (tasks.map (·.id)).Nodup

namespace Ledger

variable {counts : Counts} {reservations : List ProductionConnectReservation}
  {leases : List ProductionMutationLease} {tasks : List RouteTaskLifecycle}

section

variable (ledger : Ledger counts reservations leases tasks)
include ledger

theorem no_reservations (none : counts.reservations = ∅) :
    reservations = [] := by
  rw [List.eq_nil_iff_forall_not_mem]
  intro reservation member
  have counted := (ledger.reserved reservation member).2
  rw [none] at counted
  exact Finset.notMem_empty _ counted

theorem reserve (none : counts.reservations = ∅) (id : Nat) :
    Ledger { counts with reservations := insert id counts.reservations }
      (⟨counts.generation, id⟩ :: reservations) leases tasks := by
  rw [ledger.no_reservations none]
  refine { ledger with reserved := ?_, single := Nat.le_refl 1 }
  intro reservation member
  obtain rfl := List.mem_singleton.mp member
  exact ⟨rfl, Finset.mem_insert_self _ _⟩

theorem release {reservation : ProductionConnectReservation}
    (member : reservation ∈ reservations) (id : Nat) :
    Ledger { counts with reservations := counts.reservations.erase id }
      (reservations.erase reservation) leases tasks := by
  -- It was the only one.
  have empty : reservations.erase reservation = [] := by
    apply List.length_eq_zero_iff.mp
    rw [List.length_erase_of_mem member]
    exact Nat.sub_eq_zero_of_le ledger.single
  rw [empty]
  exact { ledger with reserved := nofun, single := Nat.zero_le 1 }

theorem lease :
    Ledger { counts with mutations := counts.mutations + 1 } reservations
      (⟨counts.generation⟩ :: leases) tasks := by
  refine { ledger with leased := ?_, mutations := ?_ }
  · intro lease member
    rcases List.mem_cons.mp member with rfl | member
    · rfl
    · exact ledger.leased lease member
  · simp [ledger.mutations]

theorem endLease {lease : ProductionMutationLease} (member : lease ∈ leases) :
    Ledger { counts with mutations := counts.mutations - 1 } reservations
      (leases.erase lease) tasks := by
  refine { ledger with leased := ?_, mutations := ?_ }
  · intro other remains
    exact ledger.leased other (List.mem_of_mem_erase remains)
  · rw [List.length_erase_of_mem member, ← ledger.mutations]

theorem queue : Ledger { counts with
        nextRouteTaskID := counts.nextRouteTaskID + 1
        routeTasks := insert (counts.nextRouteTaskID + 1) counts.routeTasks }
      reservations leases
      (⟨counts.generation, counts.nextRouteTaskID + 1, false, false⟩ ::
        tasks) := by
  refine { ledger with numbered := ?_, queued := ?_, distinct := ?_ }
  · intro task member
    rcases List.mem_cons.mp member with rfl | member
    · exact ⟨rfl, Nat.le_refl _⟩
    · obtain ⟨generation, below⟩ := ledger.numbered task member
      exact ⟨generation, Nat.le_succ_of_le below⟩
  · intro task member unfinished
    rcases List.mem_cons.mp member with rfl | member
    · exact Finset.mem_insert_self _ _
    · exact Finset.mem_insert_of_mem (ledger.queued task member unfinished)
  · rw [List.map_cons, List.nodup_cons]
    refine ⟨?_, ledger.distinct⟩
    intro reused
    obtain ⟨task, member, same⟩ := List.mem_map.mp reused
    have below := (ledger.numbered task member).2
    exact absurd (same ▸ below) (Nat.not_succ_le_self _)

theorem update (change : RouteTaskLifecycle → RouteTaskLifecycle)
    (generation : ∀ task, (change task).generation = task.generation)
    (sameID : ∀ task, (change task).id = task.id)
    (forward : ∀ task,
      ((change task).completed && (change task).joined) = false →
        (task.completed && task.joined) = false) :
    Ledger counts reservations leases (tasks.map change) := by
  refine { ledger with numbered := ?_, queued := ?_, distinct := ?_ }
  · intro task member
    obtain ⟨before, present, rfl⟩ := List.mem_map.mp member
    rw [generation, sameID]
    exact ledger.numbered before present
  · intro task member unfinished
    obtain ⟨before, present, rfl⟩ := List.mem_map.mp member
    rw [sameID]
    exact ledger.queued before present (forward before unfinished)
  · rw [List.map_map]
    have same : (fun task => (change task).id) =
        fun task : RouteTaskLifecycle => task.id :=
      funext sameID
    exact (congrArg (fun f => (tasks.map f).Nodup) same).mpr ledger.distinct

theorem finish {task : RouteTaskLifecycle} (member : task ∈ tasks)
    (finished : task.completed = true ∧ task.joined = true) :
    Ledger { counts with routeTasks := counts.routeTasks.erase task.id }
      reservations leases tasks := by
  refine { ledger with queued := ?_ }
  intro other present unfinished
  refine Finset.mem_erase.mpr ⟨?_, ledger.queued other present unfinished⟩
  intro same
  obtain rfl : other = task :=
    List.inj_on_of_nodup_map ledger.distinct present member same
  simp [finished] at unfinished

end

end Ledger

end KyClash.Production
