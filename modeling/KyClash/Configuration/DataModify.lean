import KyClash.Concurrency.Transition
import KyClash.Configuration.Draft

/-!
# Changes of the committed data

`with_data_modify` of the crate `clash-verge-draft` copies the committed data,
lets its body change the copy, and puts the copy back only if the committed
data are still the ones it copied.  A permit admits one call at a time; the
other accesses do not ask for it.  Every access under the lock of the pair is
one step, so that anything may happen between two steps of a call.

The committed data are compared by their allocation.  A call keeps the
allocation that it copied, so no other one takes its address, and a draft is
an allocation of its own.  It is therefore enough to count the replacements.
-/

namespace KyClash.Configuration

inductive ModifyError (E : Type) where
  | body (error : E)
  | optimisticLock
  deriving DecidableEq

/-- Where a call of `with_data_modify` is.  The permit is held from
`permitted` to `leaving`. -/
inductive ModifyStage (T E : Type) where
  | waiting
  | permitted
  | editing (copy : T) (stamp : Nat)
  | leaving (result : Except (ModifyError E) Unit)
  | returned (result : Except (ModifyError E) Unit)
  | dropped

structure ModifyCall (T E : Type) where
  body : T → Except E T
  stage : ModifyStage T E

/-- `DraftInner`, with the calls that work on it. -/
structure Shared (T E : Type) where
  data : Draft T
  stamp : Nat
  modifying : Bool
  calls : List (ModifyCall T E)

inductive Access (T E : Type) where
  | begin (body : T → Except E T)
  | acquire (call : Nat)
  | copy (call : Nat)
  | finish (call : Nat)
  | leave (call : Nat)
  /-- The future of the call is dropped while it waits. -/
  | drop (call : Nat)
  | editDraft (edit : T → T)
  | apply
  | discard

/-- The accesses that calls of `with_data_modify` make. -/
def Access.ofCall {T E : Type} : Access T E → Bool
  | .editDraft _ => false
  | .apply => false
  | .discard => false
  | _ => true

namespace Shared

variable {T E : Type}

def new (data : Draft T) : Shared T E where
  data := data
  stamp := 0
  modifying := false
  calls := []

variable (shared : Shared T E)

def dataArc : T := shared.data.dataArc

def editDraft (edit : T → T) : Shared T E :=
  { shared with data := shared.data.editDraft edit }

/-- A draft takes the place of the committed data. -/
def apply : Shared T E :=
  match shared.data.draft with
  | some _ =>
    { shared with data := shared.data.apply, stamp := shared.stamp + 1 }
  | none => shared

def discard : Shared T E :=
  { shared with data := shared.data.discard }

/-- The end of a call whose body has changed its copy. -/
def commit (changed : T) (stamp : Nat) :
    Shared T E × Except (ModifyError E) Unit :=
  if shared.stamp = stamp then
    ({ shared with
        data := { shared.data with committed := changed }
        stamp := shared.stamp + 1 },
      .ok ())
  else
    (shared, .error .optimisticLock)

/-- The body is done with its copy. -/
def finish (body : T → Except E T) (copy : T) (stamp : Nat) :
    Shared T E × Except (ModifyError E) Unit :=
  match body copy with
  | .error error => (shared, .error (.body error))
  | .ok changed => shared.commit changed stamp

def put (call : Nat) (body : T → Except E T) (stage : ModifyStage T E) :
    Shared T E :=
  { shared with calls := shared.calls.set call ⟨body, stage⟩ }

def step : Access T E → Option (Shared T E)
  | .begin body =>
    some { shared with calls := shared.calls ++ [⟨body, .waiting⟩] }
  | .acquire call =>
    match shared.calls[call]? with
    | some ⟨body, .waiting⟩ =>
      if shared.modifying then none
      else
        some ({ shared with modifying := true }.put call body .permitted)
    | _ => none
  | .copy call =>
    match shared.calls[call]? with
    | some ⟨body, .permitted⟩ =>
      some (shared.put call body (.editing shared.dataArc shared.stamp))
    | _ => none
  | .finish call =>
    match shared.calls[call]? with
    | some ⟨body, .editing copy stamp⟩ =>
      let (next, result) := shared.finish body copy stamp
      some (next.put call body (.leaving result))
    | _ => none
  | .leave call =>
    match shared.calls[call]? with
    | some ⟨body, .leaving result⟩ =>
      some ({ shared with modifying := false }.put call body (.returned result))
    | _ => none
  | .drop call =>
    match shared.calls[call]? with
    | some ⟨body, .waiting⟩ => some (shared.put call body .dropped)
    | some ⟨body, .editing _ _⟩ =>
      some ({ shared with modifying := false }.put call body .dropped)
    | _ => none
  | .editDraft edit => some (shared.editDraft edit)
  | .apply => some shared.apply
  | .discard => some shared.discard

def commits : Access T E → Option T
  | .finish call =>
    match shared.calls[call]? with
    | some ⟨body, .editing copy stamp⟩ =>
      if shared.stamp = stamp then (body copy).toOption else none
    | _ => none
  | _ => none

/-! ## The copies are copies -/

/-- A call that still finds the allocation it copied has a copy of what the
committed data are. -/
def Coherent : Prop :=
  ∀ (call : Nat) (body : T → Except E T) (copy : T) (stamp : Nat),
    shared.calls[call]? = some ⟨body, .editing copy stamp⟩ →
      stamp ≤ shared.stamp ∧ (stamp = shared.stamp → copy = shared.dataArc)

@[simp]
theorem dataArc_put (call : Nat) (body : T → Except E T)
    (stage : ModifyStage T E) :
    (shared.put call body stage).dataArc = shared.dataArc := rfl

theorem dataArc_apply : shared.apply.dataArc = shared.data.latestArc := by
  unfold apply dataArc
  split
  · exact Draft.dataArc_apply shared.data
  · next absent => rw [Draft.latestArc, absent, Option.getD_none, Draft.dataArc]

private theorem stamp_apply :
    shared.apply.stamp = shared.stamp ∧ shared.apply.dataArc = shared.dataArc ∨
      shared.apply.stamp = shared.stamp + 1 := by
  unfold apply
  split
  · exact .inr rfl
  · exact .inl ⟨rfl, rfl⟩

theorem calls_apply : shared.apply.calls = shared.calls := by
  unfold apply
  split <;> rfl

theorem finish_cases (body : T → Except E T) (copy : T) (stamp : Nat) :
    (∃ error, shared.finish body copy stamp = (shared, .error error)) ∨
      ∃ changed, body copy = .ok changed ∧ shared.stamp = stamp ∧
      shared.finish body copy stamp =
          ({ shared with
              data := { shared.data with committed := changed }
              stamp := shared.stamp + 1 },
            .ok ()) := by
  unfold finish
  split
  · exact .inl ⟨_, rfl⟩
  · next changed done =>
    by_cases same : shared.stamp = stamp
    · exact .inr ⟨changed, done, same, by rw [commit, if_pos same]⟩
    · exact .inl ⟨_, by rw [commit, if_neg same]⟩

theorem calls_finish (body : T → Except E T) (copy : T) (stamp : Nat) :
    (shared.finish body copy stamp).1.calls = shared.calls := by
  rcases shared.finish_cases body copy stamp with
    ⟨error, done⟩ | ⟨changed, -, -, done⟩ <;> rw [done]

variable {shared} {next : Shared T E} {access : Access T E}
  {body : T → Except E T} {call : Nat} {stage : ModifyStage T E}

theorem data_step (call : access.ofCall = true)
    (taken : shared.step access = some next) :
    next.data = { shared.data with
      committed := (shared.commits access).getD shared.dataArc } := by
  cases access with simp only [step] at taken
  | begin body =>
    cases taken
    rfl
  | acquire call =>
    split at taken
    · split at taken <;> cases taken
      rfl
    · cases taken
  | copy | leave =>
    split at taken <;> cases taken
    rfl
  | finish call =>
    split at taken
    · next body copy stamp editing =>
      cases taken
      rw [commits, editing]
      simp only [put, finish, commit]
      by_cases same : shared.stamp = stamp
      · simp only [if_pos same]
        cases body copy <;> rfl
      · simp only [if_neg same]
        cases body copy <;> rfl
    · cases taken
  | drop call =>
    split at taken <;> cases taken <;> rfl
  | editDraft | apply | discard => cases call

private theorem body_put {call other : Nat} {owner : T → Except E T}
    {stage moved : ModifyStage T E} (calls : next.calls = shared.calls)
    (found : shared.calls[other]? = some ⟨owner, stage⟩)
    (same : call = other → body = owner) :
    ∃ later, (next.put call body moved).calls[other]? =
      some ⟨owner, later⟩ := by
  rw [put, calls, List.getElem?_set]
  split
  · next equal =>
    rw [if_pos (equal ▸ (List.getElem?_eq_some_iff.mp found).1), same equal]
    exact ⟨moved, rfl⟩
  · exact ⟨stage, found⟩

theorem body_step (taken : shared.step access = some next)
    (found : shared.calls[call]? = some ⟨body, stage⟩) :
    ∃ later, next.calls[call]? = some ⟨body, later⟩ := by
  have owner {other : Nat} {owner : T → Except E T} {at_ : ModifyStage T E}
      (looked : shared.calls[other]? = some ⟨owner, at_⟩)
      (equal : other = call) : owner = body := by
    rw [equal, found] at looked
    cases looked
    rfl
  cases access with
  | begin body =>
    cases taken
    have inside := (List.getElem?_eq_some_iff.mp found).1
    exact ⟨stage, (List.getElem?_append_left inside).trans found⟩
  | acquire other =>
    simp only [step] at taken
    split at taken
    · next looked =>
      split at taken <;> cases taken
      exact body_put rfl found (owner looked)
    · cases taken
  | copy | leave =>
    simp only [step] at taken
    split at taken
    · next looked =>
      cases taken
      exact body_put rfl found (owner looked)
    · cases taken
  | finish other =>
    simp only [step] at taken
    split at taken
    · next looked =>
      cases taken
      exact body_put (shared.calls_finish _ _ _) found (owner looked)
    · cases taken
  | drop other =>
    simp only [step] at taken
    split at taken
    · next looked =>
      cases taken
      exact body_put rfl found (owner looked)
    · next looked =>
      cases taken
      exact body_put rfl found (owner looked)
    · cases taken
  | editDraft | discard =>
    cases taken
    exact ⟨stage, found⟩
  | apply =>
    cases taken
    rw [calls_apply]
    exact ⟨stage, found⟩

namespace Coherent

/-- A step that leaves the committed data alone, or replaces their
allocation, keeps every copy of a call that stays where it is. -/
theorem keep (coherent : shared.Coherent)
    (data : next.stamp = shared.stamp ∧ next.dataArc = shared.dataArc ∨
      shared.stamp < next.stamp)
    (calls : ∀ (call : Nat) (body : T → Except E T) (copy : T) (stamp : Nat),
      next.calls[call]? = some ⟨body, .editing copy stamp⟩ →
        shared.calls[call]? = some ⟨body, .editing copy stamp⟩ ∨
          stamp = next.stamp ∧ copy = next.dataArc) :
    next.Coherent := by
  intro call body copy stamp editing
  rcases calls call body copy stamp editing with before | ⟨same, copied⟩
  · obtain ⟨bound, current⟩ := coherent call body copy stamp before
    rcases data with ⟨equal, arc⟩ | newer
    · rw [equal, arc]
      exact ⟨bound, current⟩
    · exact ⟨by omega, fun equal => by omega⟩
  · exact ⟨by omega, fun _ => copied⟩

private theorem put (coherent : shared.Coherent)
    (calls : next.calls = shared.calls)
    (data : next.stamp = shared.stamp ∧ next.dataArc = shared.dataArc ∨
      shared.stamp < next.stamp)
    (without : ∀ copy stamp, stage ≠ .editing copy stamp) :
    (next.put call body stage).Coherent := by
  refine coherent.keep data ?_
  intro other owner copy stamp editing
  rw [Shared.put, calls, List.getElem?_set] at editing
  split at editing
  · split at editing
    · cases editing
      exact absurd rfl (without copy stamp)
    · cases editing
  · exact .inl editing

end Coherent

theorem coherent_new (data : Draft T) : (new data : Shared T E).Coherent := by
  intro call body copy stamp editing
  simp [new] at editing

section

variable (coherent : shared.Coherent)
include coherent

theorem Coherent.step (taken : shared.step access = some next) :
    next.Coherent := by
  cases access with simp only [Shared.step] at taken
  | begin body =>
    cases taken
    refine coherent.keep (.inl ⟨rfl, rfl⟩) ?_
    intro call owner copy stamp editing
    rw [List.getElem?_append] at editing
    split at editing
    · exact .inl editing
    · next late =>
      rw [List.getElem?_singleton] at editing
      split at editing <;> cases editing
  | acquire call =>
    split at taken
    · split at taken
      · cases taken
      · cases taken
        exact coherent.put rfl (.inl ⟨rfl, rfl⟩) nofun
    · cases taken
  | copy call =>
    split at taken
    · next body found =>
      cases taken
      refine coherent.keep (.inl ⟨rfl, rfl⟩) ?_
      intro other owner copy stamp editing
      rw [Shared.put, List.getElem?_set] at editing
      split at editing
      · obtain ⟨-, ⟨⟩⟩ := Option.ite_none_right_eq_some.mp editing
        exact .inr ⟨rfl, rfl⟩
      · exact .inl editing
    · cases taken
  | finish call =>
    split at taken
    · next body copy stamp found =>
      cases taken
      refine coherent.put (shared.calls_finish body copy stamp) ?_ nofun
      rcases shared.finish_cases body copy stamp with
        ⟨error, done⟩ | ⟨changed, -, -, done⟩
      · rw [done]
        exact .inl ⟨rfl, rfl⟩
      · rw [done]
        exact .inr (Nat.lt_succ_self _)
    · cases taken
  | leave call =>
    split at taken
    · cases taken
      exact coherent.put rfl (.inl ⟨rfl, rfl⟩) nofun
    · cases taken
  | drop call =>
    split at taken
    · cases taken
      exact coherent.put rfl (.inl ⟨rfl, rfl⟩) nofun
    · cases taken
      exact coherent.put rfl (.inl ⟨rfl, rfl⟩) nofun
    · cases taken
  | editDraft | discard =>
    cases taken
    exact coherent.keep (.inl ⟨rfl, rfl⟩) fun _ _ _ _ editing => .inl editing
  | apply =>
    cases taken
    refine coherent.keep ?_ fun call body copy stamp editing => ?_
    · rcases shared.stamp_apply with same | newer
      · exact .inl same
      · exact .inr (by omega)
    · rw [calls_apply] at editing
      exact .inl editing

theorem Coherent.editDraft (edit : T → T) :
    (shared.editDraft edit).Coherent := by
  have taken : shared.step (.editDraft edit) = some (shared.editDraft edit) :=
    rfl
  exact coherent.step taken

theorem Coherent.apply : shared.apply.Coherent := by
  have taken : shared.step .apply = some shared.apply := rfl
  exact coherent.step taken

theorem Coherent.discard : shared.discard.Coherent := by
  have taken : shared.step .discard = some shared.discard := rfl
  exact coherent.step taken

end

/-- The runs of all accesses in any order. -/
abbrev Reached (data : Draft T) (shared : Shared T E) : Prop :=
  Transition.Reaches step (fun _ _ => True) (new data) shared

theorem Reached.coherent {data : Draft T} (reached : Reached data shared) :
    shared.Coherent :=
  Transition.Reaches.invariant reached (coherent_new data)
    fun _ _ _ holds _ taken => holds.step taken

theorem Coherent.commits (coherent : shared.Coherent)
    (taken : shared.step (.finish call) = some next)
    (succeeds : next.calls[call]? = some ⟨body, .leaving (.ok ())⟩) :
    body shared.dataArc = .ok next.dataArc := by
  simp only [Shared.step] at taken
  split at taken
  · next owner copy stamp editing =>
    cases taken
    have inside : call < shared.calls.length :=
      (List.getElem?_eq_some_iff.mp editing).1
    rw [Shared.put, calls_finish, List.getElem?_set_self inside] at succeeds
    injection succeeds with moved
    injection moved with same result
    subst same
    obtain ⟨-, current⟩ := coherent call owner copy stamp editing
    rcases shared.finish_cases owner copy stamp with
      ⟨error, failed⟩ | ⟨changed, made, equal, committed⟩
    · rw [failed] at result
      cases result
    · rw [dataArc_put, committed, ← current equal.symm]
      exact made
  · cases taken

end Shared

end KyClash.Configuration
