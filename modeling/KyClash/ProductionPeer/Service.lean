import KyClash.Concurrency.Transition

/-!
# The production peer service

`Start` and `Stop` of `productionpeer/service.go`.  `operationMu` lets one of
them run at a time; `Status` reads the state between any two of their steps.
-/

namespace KyClash.ProductionPeer

open Transition

inductive State where
  | stopped | starting | ready | stopping | failedClosed
  deriving DecidableEq, Repr

/-- The dependencies, in the order in which `Start` asks them. -/
inductive Kind where
  | identity | forwarding | carriers
  deriving DecidableEq, Repr

def Kind.next : Kind → Option Kind
  | .identity => some .forwarding
  | .forwarding => some .carriers
  | .carriers => none

/-- A lease, named by the call of `Start` that acquired it. -/
structure Lease where
  start : Nat
  kind : Kind
  deriving DecidableEq, Repr

structure Leases where
  identity : Option Lease
  forwarding : Option Lease
  carriers : Option Lease
  deriving DecidableEq, Repr

namespace Leases

def none : Leases := ⟨.none, .none, .none⟩

def put (leases : Leases) (lease : Lease) : Leases :=
  match lease.kind with
  | .identity => { leases with identity := some lease }
  | .forwarding => { leases with forwarding := some lease }
  | .carriers => { leases with carriers := some lease }

/-- The calls of `closeLeases`. -/
def closeLeases (leases : Leases) : List Lease :=
  leases.carriers.toList ++ leases.forwarding.toList ++ leases.identity.toList

end Leases

/-- What a dependency returns, and whether the context is done then. -/
structure Answer where
  error : Bool
  lease : Bool
  validFor : Bool
  done : Bool

inductive Operation where
  | opening (kind : Kind) (held : Leases)
  /-- `failStart` is the cleanup of a call of `Start`. -/
  | cleanup (rest : List Lease) (failed failStart : Bool)

/-- `acquired` and `closed` record what the dependencies have seen. -/
structure Service where
  state : State
  leases : Leases
  operation : Option Operation
  starts : Nat
  acquired : List Lease
  closed : List Lease

inductive Event where
  | start
  | answer (answer : Answer)
  | close (fails : Bool)
  | finish
  | stop

namespace Service

def newService : Service := ⟨.stopped, .none, none, 0, [], []⟩

/-- `Start` goes on with the answer of a dependency. -/
def answered (service : Service) (kind : Kind) (held : Leases)
    (answer : Answer) : Service :=
  let lease : Lease := ⟨service.starts, kind⟩
  let held := if answer.lease then held.put lease else held
  let service := { service with
    acquired :=
      if answer.lease then lease :: service.acquired else service.acquired }
  if answer.error || !answer.lease || !answer.validFor || answer.done then
    { service with operation := some (.cleanup held.closeLeases false true) }
  else
    match kind.next with
    | some next => { service with operation := some (.opening next held) }
    | none =>
      { service with leases := held, state := .ready, operation := none }

/-- One step; calls that return at once change nothing. -/
def step (service : Service) (event : Event) : Option Service :=
  match service.operation, event with
  | none, .start =>
    if service.state ≠ .stopped ∨ service.leases ≠ .none then some service
    else some { service with
      state := .starting
      operation := some (.opening .identity .none)
      starts := service.starts + 1 }
  | none, .stop =>
    if service.state ≠ .ready then some service
    else some { service with
      state := .stopping
      leases := .none
      operation := some (.cleanup service.leases.closeLeases false false) }
  | some (.opening kind held), .answer answer =>
    some (service.answered kind held answer)
  | some (.cleanup (lease :: rest) failed failStart), .close fails =>
    some { service with
      closed := service.closed ++ [lease]
      operation := some (.cleanup rest (failed || fails) failStart) }
  | some (.cleanup [] failed failStart), .finish =>
    some { service with
      state := if failStart || failed then .failedClosed else .stopped
      leases := .none
      operation := none }
  | _, _ => none

def Reached : Service → Prop :=
  Reaches step (fun _ _ => True) newService

end Service

/-! ## The leases of a run -/

/-- The calls of `Start` in their order, and for each of them carriers,
forwarding, identity. -/
def Lease.turn (lease : Lease) : Nat :=
  3 * lease.start + match lease.kind with
    | .carriers => 0
    | .forwarding => 1
    | .identity => 2

/-- What a call of `Start` holds when it asks for a kind. -/
def heldBefore (start : Nat) : Kind → Leases
  | .identity => .none
  | .forwarding => ⟨some ⟨start, .identity⟩, none, none⟩
  | .carriers => ⟨some ⟨start, .identity⟩, some ⟨start, .forwarding⟩, none⟩

/-- Every lease is closed or in `rest`, each in its turn. -/
structure Books (service : Service) (rest : List Lease) : Prop where
  ordered : (service.closed ++ rest).Pairwise (·.turn < ·.turn)
  accounted : ∀ lease, lease ∈ service.acquired ↔ lease ∈ service.closed ++ rest
  past : ∀ lease ∈ service.closed ++ rest, lease.start ≤ service.starts

inductive Phase (service : Service) : Prop where
  | idle (operation : service.operation = none)
      (leases : service.leases = .none)
      (state : service.state = .stopped ∨ service.state = .failedClosed)
      (books : Books service [])
  | opening (kind : Kind) (state : service.state = .starting)
      (operation : service.operation =
        some (.opening kind (heldBefore service.starts kind)))
      (earlier : ∀ lease ∈ service.closed, lease.start < service.starts)
      (books : Books service (heldBefore service.starts kind).closeLeases)
  | ready (operation : service.operation = none)
      (state : service.state = .ready)
      (leases : service.leases =
        (heldBefore service.starts .carriers).put ⟨service.starts, .carriers⟩)
      (earlier : ∀ lease ∈ service.closed, lease.start < service.starts)
      (books : Books service service.leases.closeLeases)
  | cleanup (rest : List Lease) (failed failStart : Bool)
      (operation : service.operation = some (.cleanup rest failed failStart))
      (state : service.state = if failStart then .starting else .stopping)
      (books : Books service rest)

variable {service : Service} {kind : Kind}

private theorem closeLeases_put (start : Nat) (kind : Kind) :
    ((heldBefore start kind).put ⟨start, kind⟩).closeLeases =
      ⟨start, kind⟩ :: (heldBefore start kind).closeLeases := by
  cases kind <;> rfl

private theorem turn_lt_of_held (start : Nat) (kind : Kind) :
    ∀ lease ∈ (heldBefore start kind).closeLeases, Lease.turn ⟨start, kind⟩ <
      lease.turn := by
  cases kind <;> simp [heldBefore, Leases.none, Leases.closeLeases, Lease.turn]

theorem Books.acquire
    (earlier : ∀ lease ∈ service.closed, lease.start < service.starts)
    (books : Books service (heldBefore service.starts kind).closeLeases) :
    Books
      { service with acquired := ⟨service.starts, kind⟩ :: service.acquired }
      ((heldBefore service.starts kind).put
        ⟨service.starts, kind⟩).closeLeases := by
  obtain ⟨ordered, accounted, past⟩ := books
  rw [closeLeases_put]
  obtain ⟨before, held, apart⟩ := List.pairwise_append.mp ordered
  refine ⟨List.pairwise_append.mpr ⟨before, List.pairwise_cons.mpr
    ⟨turn_lt_of_held _ _, held⟩, ?_⟩, ?_, ?_⟩
  · intro old closed lease member
    rcases List.mem_cons.mp member with rfl | member
    · have := earlier old closed
      unfold Lease.turn
      cases old.kind <;> dsimp only <;> omega
    · exact apart old closed lease member
  · grind
  · grind

theorem Phase.answered (answer : Answer) (state : service.state = .starting)
    (earlier : ∀ lease ∈ service.closed, lease.start < service.starts)
    (books : Books service (heldBefore service.starts kind).closeLeases) :
    Phase (service.answered kind (heldBefore service.starts kind) answer) := by
  unfold Service.answered
  cases present : answer.lease with
  | false =>
    simp only [Bool.false_eq_true, if_false, Bool.not_false, Bool.or_true,
      Bool.true_or, if_true]
    exact .cleanup _ _ _ rfl state ⟨books.1, books.2, books.3⟩
  | true =>
    have more := books.acquire earlier
    dsimp only
    split
    · exact .cleanup _ _ _ rfl state ⟨more.1, more.2, more.3⟩
    cases kind with
    | identity =>
      exact .opening .forwarding state rfl earlier ⟨more.1, more.2, more.3⟩
    | forwarding =>
      exact .opening .carriers state rfl earlier ⟨more.1, more.2, more.3⟩
    | carriers => exact .ready rfl rfl rfl earlier ⟨more.1, more.2, more.3⟩

theorem Phase.step {event : Event} {next : Service} (phase : Phase service)
    (taken : service.step event = some next) : Phase next := by
  unfold Service.step at taken
  cases phase with rw [operation] at taken
  | idle operation leases state books =>
    cases event with
    | start =>
      dsimp only at taken
      split at taken
      · cases taken
        exact .idle operation leases state books
      cases taken
      have earlier (lease : Lease) (member : lease ∈ service.closed) :
          lease.start < service.starts + 1 :=
        Nat.lt_succ_of_le (books.past lease (List.mem_append_left _ member))
      exact .opening .identity rfl rfl earlier
        ⟨books.1, books.2,
          fun lease member => Nat.le_succ_of_le (books.past lease member)⟩
    | stop =>
      have unready : service.state ≠ .ready := by
        rcases state with state | state <;> simp [state]
      rw [if_pos unready] at taken
      cases taken
      exact .idle operation leases state books
    | _ => cases taken
  | opening kind state operation earlier books =>
    cases event with
    | answer answer =>
      cases taken
      exact .answered answer state earlier books
    | _ => cases taken
  | ready operation state leases earlier books =>
    cases event with
    | start =>
      rw [if_pos (.inl (by simp [state]))] at taken
      cases taken
      exact .ready operation state leases earlier books
    | stop =>
      dsimp only at taken
      rw [if_neg (by simp [state])] at taken
      cases taken
      exact .cleanup _ _ _ rfl rfl ⟨books.1, books.2, books.3⟩
    | _ => cases taken
  | cleanup rest failed failStart operation state books =>
    cases rest with
    | nil =>
      cases event with
      | finish =>
        cases taken
        refine .idle rfl rfl ?_ ⟨books.1, books.2, books.3⟩
        cases failStart || failed <;> simp
      | _ => cases taken
    | cons lease rest =>
      cases event with
      | close fails =>
        cases taken
        obtain ⟨ordered, accounted, past⟩ := books
        rw [List.append_cons] at ordered accounted past
        exact .cleanup rest _ failStart rfl state ⟨ordered, accounted, past⟩
      | _ => cases taken

theorem Service.Reached.phase (reached : service.Reached) : Phase service :=
  Reaches.invariant reached
    (.idle rfl rfl (.inl rfl)
      ⟨.nil, by simp [newService], by simp [newService]⟩)
    fun _ _ _ phase _ taken => phase.step taken

/-- In every run: leases are closed at most once and in their turn, all of
them when a cleanup returns, a ready service holds three leases that are not
closed, and `FailedClosed` is never left. -/
theorem leases_are_closed_in_turn (reached : service.Reached) :
    service.closed.Nodup ∧ service.closed.Pairwise (·.turn < ·.turn) ∧
      (∀ next, service.step .finish = some next →
        ∀ lease ∈ next.acquired, lease ∈ next.closed) ∧
      (service.state = .ready →
        ∃ identity forwarding carriers,
          service.leases = ⟨some identity, some forwarding, some carriers⟩ ∧
            ∀ lease ∈ [identity, forwarding, carriers],
              lease ∈ service.acquired ∧ lease ∉ service.closed) ∧
      (service.state = .failedClosed →
        ∀ event next, service.step event = some next →
          next.state = .failedClosed) := by
  have phase := reached.phase
  have ordered : service.closed.Pairwise (·.turn < ·.turn) := by
    cases phase
    all_goals next books => exact (List.pairwise_append.mp books.ordered).1
  refine ⟨ordered.imp fun less same => by simp [same] at less, ordered, ?_,
    ?_, ?_⟩
  · intro next taken lease member
    cases phase with
    | cleanup rest _ _ operation _ books =>
      cases rest with
      | nil =>
        simp only [Service.step, operation, Option.some.injEq] at taken
        subst taken
        simpa using (books.accounted lease).mp member
      | cons => simp [Service.step, operation] at taken
    | idle operation | opening _ _ operation | ready operation =>
      simp [Service.step, operation] at taken
  · intro ready
    cases phase with
    | ready _ _ leases earlier books =>
      refine ⟨_, _, _, leases, fun lease member => ?_⟩
      have held : lease ∈ service.leases.closeLeases ∧
          lease.start = service.starts := by
        rw [leases]
        simp only [List.mem_cons, List.not_mem_nil, or_false] at member
        rcases member with rfl | rfl | rfl <;>
          simp [heldBefore, Leases.put, Leases.closeLeases]
      exact ⟨(books.accounted lease).mpr (List.mem_append_right _ held.1),
        fun closed => Nat.ne_of_lt (earlier lease closed) held.2⟩
    | _ => grind
  · intro closed event next taken
    have operation : service.operation = none := by
      cases phase with
      | idle operation => exact operation
      | _ => grind
    cases event <;> simp_all [Service.step]

/-! ### A second start that fails -/

def granted : Event := .answer ⟨false, true, true, false⟩

def startsAndStops : List Event :=
  [.start, granted, granted, granted, .stop, .close false, .close false,
    .close false, .finish]

/-- The forwarding comes with an error, and a lease is not closed cleanly. -/
def failsToStart : List Event :=
  [.start, granted, .answer ⟨true, true, true, false⟩, .close true,
    .close false]

theorem failed_start_has_closed_its_leases :
    ∃ ready closing failed : Service, ready.Reached ∧ ready.state = .ready ∧
      (∃ identity forwarding carriers,
        ready.leases = ⟨some identity, some forwarding, some carriers⟩ ∧
          ∀ lease ∈ [identity, forwarding, carriers], lease ∈ ready.acquired ∧
            lease ∉ ready.closed) ∧
      closing.Reached ∧ closing.step .finish = some failed ∧
      (∀ lease ∈ failed.acquired, lease ∈ failed.closed) ∧ failed.Reached ∧
      failed.closed.Nodup ∧ failed.closed.Pairwise (·.turn < ·.turn) ∧
      failed.closed =
        [⟨1, .carriers⟩, ⟨1, .forwarding⟩, ⟨1, .identity⟩, ⟨2, .forwarding⟩,
          ⟨2, .identity⟩] ∧
      ∀ event next, failed.step event = some next →
        next.state = .failedClosed := by
  have ready : Service.Reached ⟨.ready, _, none, 1, _, _⟩ :=
    reaches_of_run .start (startsAndStops.take 4) (fun _ _ _ => trivial) rfl
  have closing : Service.Reached
      ⟨.starting, .none, some (.cleanup [] true true), 2, _, _⟩ :=
    reaches_of_run .start (startsAndStops ++ failsToStart)
      (fun _ _ _ => trivial) rfl
  have failed : Service.Reached ⟨.failedClosed, .none, none, 2, _, _⟩ :=
    reaches_of_run .start (startsAndStops ++ failsToStart ++ [.finish])
      (fun _ _ _ => trivial) rfl
  obtain ⟨-, -, -, holds, -⟩ := leases_are_closed_in_turn ready
  obtain ⟨-, -, closes, -, -⟩ := leases_are_closed_in_turn closing
  obtain ⟨once, ordered, -, -, stays⟩ := leases_are_closed_in_turn failed
  exact ⟨_, _, _, ready, rfl, holds rfl, closing, rfl, closes _ rfl, failed,
    once, ordered, rfl, stays rfl⟩

end KyClash.ProductionPeer
