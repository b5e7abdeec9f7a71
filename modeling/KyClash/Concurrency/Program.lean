import Mathlib.Logic.Basic

/-!
# Programs with effects, and a logic with a crash invariant

A program either returns or performs an action and goes on with its result.
What an action does is a relation between the states before and after it, so
an action may fail or behave ambiguously.

`exec` runs a program where every action has one outcome.  `Yields` relates a
program to the values that it may return, and `Cut` to the states in which it
may be cut short.  `Each` says that every action is an allowed one, whatever
the results of the actions before it are.

`Safe` is the logic: its postcondition holds if the program returns, every
action is performed in a state that permits it, and the invariant holds after
every outcome of every action.  The program needs to go on safely only after
the admitted outcomes.  A program that is cut short anywhere, even by an
outcome that is not admitted, therefore leaves a state in which the invariant
holds.
-/

namespace Program

/-- A program over the actions `Act`, whose results have the types `Res`. -/
inductive Prog (Act : Type) (Res : Act → Type) (α : Type) where
  | ret (value : α)
  | act (action : Act) (next : Res action → Prog Act Res α)

namespace Prog

variable {Act : Type} {Res : Act → Type} {α β : Type}
  {State : Type} {outcome : State → (action : Act) → Res action × State}

def bind (program : Prog Act Res α) (next : α → Prog Act Res β) :
    Prog Act Res β :=
  match program with
  | .ret value => next value
  | .act action rest => .act action fun result => (rest result).bind next

instance : Monad (Prog Act Res) where
  pure := .ret
  bind := bind

def perform (action : Act) : Prog Act Res (Res action) :=
  .act action .ret

@[simp]
theorem pure_eq (value : α) : (pure value : Prog Act Res α) = .ret value := rfl

@[simp]
theorem ret_bind (value : α) (next : α → Prog Act Res β) :
    (.ret value : Prog Act Res α) >>= next = next value := rfl

@[simp]
theorem act_bind (action : Act) (rest : Res action → Prog Act Res α)
    (next : α → Prog Act Res β) :
    (.act action rest) >>= next =
      .act action fun result => rest result >>= next := rfl

/-- Run a program to its end, with what each action does and returns. -/
def exec {State : Type} (outcome : State → (action : Act) → Res action × State)
    (program : Prog Act Res α) (state : State) : α × State :=
  match program with
  | .ret value => (value, state)
  | .act action rest =>
    (rest (outcome state action).1).exec outcome (outcome state action).2

@[simp]
theorem exec_ret (value : α) (state : State) :
    (.ret value : Prog Act Res α).exec outcome state = (value, state) := rfl

@[simp]
theorem exec_perform_bind (action : Act) (next : Res action → Prog Act Res α)
    (state : State) :
    (perform action >>= next).exec outcome state =
      (next (outcome state action).1).exec outcome
        (outcome state action).2 := rfl

theorem exec_bind (program : Prog Act Res α) (next : α → Prog Act Res β)
    (state : State) :
    (program >>= next).exec outcome state =
      (next (program.exec outcome state).1).exec outcome
        (program.exec outcome state).2 := by
  induction program generalizing state with
  | ret value => rfl
  | act action rest ih => exact ih _ _

end Prog

section Logic

variable {Act : Type} {Res : Act → Type} {α β State : Type}

/-- How an action with its result changes the state. -/
abbrev Effect (Act : Type) (Res : Act → Type) (State : Type) :=
  State → (action : Act) → Res action → State → Prop

variable (effect admits : Effect Act Res State)
  (permits : State → Act → Prop) (invariant : State → Prop)

/-- Every action is permitted and keeps the invariant, and every return
meets `post`. -/
def Safe (post : α → State → Prop) : Prog Act Res α → State → Prop
  | .ret value, state => post value state
  | .act action rest, state =>
    permits state action ∧ ∀ result after, effect state action result after →
        invariant after ∧
        (admits state action result after → Safe post (rest result) after)

variable {effect admits permits invariant} {first : α → State → Prop}
  {program : Prog Act Res α} {state : State} {second : β → State → Prop}
  {next : α → Prog Act Res β} {after : State} {allowed : Act → Prop}
  {post : α → State → Prop}

theorem Safe.bind
    (safe : Safe effect admits permits invariant first program state)
    (continues : ∀ value after, first value after →
      Safe effect admits permits invariant second (next value) after) :
    Safe effect admits permits invariant second (program >>= next) state := by
  induction program generalizing state with
  | ret value => exact continues value state safe
  | act action rest ih =>
    refine ⟨safe.1, ?_⟩
    intro result after done
    obtain ⟨kept, remains⟩ := safe.2 result after done
    exact ⟨kept, fun admitted => ih result (remains admitted)⟩

theorem Safe.mono {second : α → State → Prop}
    (safe : Safe effect admits permits invariant first program state)
    (weaker : ∀ value after, first value after → second value after) :
    Safe effect admits permits invariant second program state := by
  induction program generalizing state with
  | ret value => exact weaker value state safe
  | act action rest ih =>
    refine ⟨safe.1, ?_⟩
    intro result after done
    obtain ⟨kept, remains⟩ := safe.2 result after done
    exact ⟨kept, fun admitted => ih result (remains admitted)⟩

theorem Safe.withInvariant
    (safe : Safe effect admits permits invariant post program state)
    (holds : invariant state) :
    Safe effect admits permits invariant
      (fun value after => post value after ∧ invariant after) program
      state := by
  induction program generalizing state with
  | ret value => exact ⟨safe, holds⟩
  | act action rest ih =>
    refine ⟨safe.1, ?_⟩
    intro result after done
    obtain ⟨kept, remains⟩ := safe.2 result after done
    exact ⟨kept, fun admitted => ih result (remains admitted) kept⟩

/-- A program stays safe when others change the state between its actions, if
every outcome from the changed state is one from the state before. -/
theorem Safe.stable {shift : State → State → Prop} {other : State}
    (safe : Safe effect admits permits invariant post program state)
    (shifted : shift state other)
    (outcomes : ∀ {before between : State} {action : Act} {result : Res action}
      {after : State}, shift before between → effect between action result
      after → effect before action result after)
    (admitted : ∀ {before between : State} {action : Act} {result : Res action}
      {after : State}, shift before between → admits between action result
      after → admits before action result after)
    (permitted : ∀ {before between : State} {action : Act},
      shift before between → permits before action → permits between action)
    (finished : ∀ {before between : State} {value : α}, shift before between →
      post value before → post value between) :
    Safe effect admits permits invariant post program other := by
  cases program with
  | ret value => exact finished shifted safe
  | act action rest =>
    refine ⟨permitted shifted safe.1, ?_⟩
    intro result after done
    obtain ⟨kept, remains⟩ := safe.2 result after (outcomes shifted done)
    exact ⟨kept, fun allowed => remains (admitted shifted allowed)⟩

/-- The postcondition of a program that may fail. -/
def OnResult {ε : Type} (failure : ε → State → Prop)
    (success : α → State → Prop) : Except ε α → State → Prop
  | .error error, state => failure error state
  | .ok value, state => success value state

theorem Safe.andThen {ε : Type} {failure : ε → State → Prop}
    {program : ExceptT ε (Prog Act Res) α}
    {next : α → ExceptT ε (Prog Act Res) β}
    (safe : Safe effect admits permits invariant (OnResult failure first)
      program.run state)
    (continues : ∀ value after, first value after →
      Safe effect admits permits invariant (OnResult failure second)
        (next value).run after) :
    Safe effect admits permits invariant (OnResult failure second)
      (program >>= next).run state := by
  apply Safe.bind safe
  intro result after done
  cases result with
  | error error => exact done
  | ok value => exact continues value after done

/-- The program returns this value in that state. -/
inductive Yields (effect : Effect Act Res State) :
    Prog Act Res α → State → α → State → Prop where
  | ret {value : α} {state : State} :
      Yields effect (.ret value) state value state
  | act {action : Act} {rest : Res action → Prog Act Res α}
      {result : Res action} {before between after : State} {value : α} :
      effect before action result between →
      Yields effect (rest result) between value after →
      Yields effect (.act action rest) before value after

/-- Run a program with one choice for the outcome of each action. -/
def Prog.replay {Choice : Type}
    (outcome : State → Choice → (action : Act) → Option (Res action × State)) :
    Prog Act Res α → State → List Choice → Option (α × State)
  | .ret value, state, [] => some (value, state)
  | .act action rest, state, choice :: choices =>
    match outcome state choice action with
    | none => none
    | some (result, after) => (rest result).replay outcome after choices
  | _, _, _ => none

theorem yields_of_replay {Choice : Type}
    {outcome : State → Choice → (action : Act) → Option (Res action × State)}
    {value : α} {choices : List Choice}
    (sound : ∀ {before : State} {choice : Choice} {action : Act}
      {result : Res action} {next : State}, outcome before choice action = some
      (result, next) → effect before action result next)
    (replayed : program.replay outcome state choices = some (value, after)) :
    Yields effect program state value after := by
  induction program generalizing state choices with
  | ret returned =>
    cases choices with
    | nil =>
      cases replayed
      exact .ret
    | cons choice choices => cases replayed
  | act action rest ih =>
    cases choices with
    | nil => cases replayed
    | cons choice choices =>
      rw [Prog.replay] at replayed
      split at replayed
      · cases replayed
      · next result between done =>
        exact .act (sound done) (ih result replayed)

/-- The program is cut short in that state. -/
inductive Cut (effect : Effect Act Res State) :
    Prog Act Res α → State → State → Prop where
  | here {program : Prog Act Res α} {state : State} :
      Cut effect program state state
  | act {action : Act} {rest : Res action → Prog Act Res α}
      {result : Res action} {before between after : State} :
      effect before action result between →
      Cut effect (rest result) between after →
      Cut effect (.act action rest) before after

/-- Every action is allowed and every value that may be returned meets
`post`. -/
def Each (allowed : Act → Prop) (post : α → Prop) : Prog Act Res α → Prop
  | .ret value => post value
  | .act action rest =>
    allowed action ∧ ∀ result, Each allowed post (rest result)

theorem Each.bind {first : α → Prop} {second : β → Prop}
    (each : Each allowed first program)
    (continues : ∀ value, first value → Each allowed second (next value)) :
    Each allowed second (program >>= next) := by
  induction program with
  | ret value => exact continues value each
  | act action rest ih =>
    exact ⟨each.1, fun result => ih result (each.2 result)⟩

theorem Each.perform {second : β → Prop} {action : Act}
    {next : Res action → Prog Act Res β} (permitted : allowed action)
    (continues : ∀ result, Each allowed second (next result)) :
    Each allowed second (Prog.perform action >>= next) :=
  ⟨permitted, continues⟩

section

variable {post : α → Prop} {before : State} (each : Each allowed post program)
  (holds : invariant before)
  (kept : ∀ {state : State} {action : Act} {result : Res action}
    {next : State}, invariant state → allowed action →
    effect state action result next →
      invariant next)
include each holds kept

theorem Each.yields {value : α}
    (yields : Yields effect program before value after) :
    post value ∧ invariant after := by
  induction yields with
  | ret => exact ⟨each, holds⟩
  | act done _ ih => exact ih (each.2 _) (kept holds each.1 done)

theorem Each.cut (cut : Cut effect program before after) : invariant after := by
  induction cut with
  | here => exact holds
  | act done _ ih => exact ih (each.2 _) (kept holds each.1 done)

end

end Logic

end Program
