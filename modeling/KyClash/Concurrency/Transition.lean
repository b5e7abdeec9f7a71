import Mathlib.Logic.Relation

/-!
# Runs of a step function

A system is a partial step function: `step state event` is the next state, or
`none` if the event cannot happen.  `Reaches` collects the states of the runs
in which every event is admitted where it is taken, so that a result about
all runs and one about the runs that meet a condition have the same form.
`run` replays a given list of events.
-/

namespace Transition

variable {State Event : Type} {step : State → Event → Option State}
  {admitted : State → Event → Prop} {initial : State} {before after : State}
  {holds : State → Prop} {events : List Event}

inductive Reaches (step : State → Event → Option State)
    (admitted : State → Event → Prop) (initial : State) : State → Prop where
  | start : Reaches step admitted initial initial
  | next {before after : State} {event : Event} :
      Reaches step admitted initial before →
      admitted before event →
      step before event = some after →
      Reaches step admitted initial after

/-- A property of the initial state that every admitted step keeps holds in
every reached state. -/
theorem Reaches.invariant {state : State}
    (reached : Reaches step admitted initial state) (atStart : holds initial)
    (kept : ∀ before event after, holds before → admitted before event →
      step before event = some after → holds after) :
    holds state := by
  induction reached with
  | start => exact atStart
  | next _ allowed taken ih => exact kept _ _ _ ih allowed taken

def run (step : State → Event → Option State) :
    State → List Event → Option State
  | state, [] => some state
  | state, event :: events =>
    match step state event with
    | none => none
    | some next => run step next events

theorem run_keeps
    (kept : ∀ event ∈ events, ∀ state next, holds state →
      step state event = some next → holds next)
    (atStart : holds before) (replayed : run step before events = some after) :
    holds after := by
  induction events generalizing before with
  | nil =>
    cases replayed
    exact atStart
  | cons event events ih =>
    rw [run] at replayed
    cases taken : step before event with
    | none => simp [taken] at replayed
    | some next =>
      rw [taken] at replayed
      have later :=
        fun other member => kept other (List.mem_cons_of_mem _ member)
      exact ih later (kept event List.mem_cons_self before next atStart taken)
        replayed

theorem reaches_of_run (reached : Reaches step admitted initial before)
    (events : List Event)
    (allowed : ∀ event ∈ events, ∀ state, admitted state event)
    (replayed : run step before events = some after) :
    Reaches step admitted initial after :=
  run_keeps (fun event member state _ reached taken =>
    .next reached (allowed event member state) taken) reached replayed

/-- What a replay shows of its last state holds of a reached state. -/
theorem exists_of_replay {α : Type} {view : State → α} {value : α}
    (replay : (run step initial events).map view = some value) :
    ∃ state, Reaches step (fun _ _ => True) initial state ∧
      view state = value := by
  obtain ⟨state, ran, seen⟩ := Option.map_eq_some_iff.mp replay
  exact ⟨state, reaches_of_run .start events (fun _ _ _ => trivial) ran, seen⟩

/-- A replay that stops at an event that is not admitted is a run. -/
theorem reaches_of_guarded [∀ state event, Decidable (admitted state event)]
    (reached : Reaches step admitted initial before) (events : List Event)
    (replayed : run
      (fun state event =>
        if admitted state event then step state event else none)
      before events = some after) : Reaches step admitted initial after := by
  refine run_keeps ?_ reached replayed
  intro event _ state next reached taken
  obtain ⟨allowed, taken⟩ := Option.ite_none_right_eq_some.mp taken
  exact .next reached allowed taken

end Transition
