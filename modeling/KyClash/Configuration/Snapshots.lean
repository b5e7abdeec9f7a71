import KyClash.Configuration.DataModify
import Mathlib.Logic.Function.Basic

/-!
# Snapshots

The committed data, the draft, every snapshot and every running
`with_data_modify` refer to allocations.  An allocation that only the draft
refers to is edited in place, any other one is copied first.  The allocator
may give any address that nothing refers to, so an address can come back.

A call of `with_data_modify` keeps the address that it copied from in the
place of the stamp.
-/

namespace KyClash.Configuration

open Transition

/-- A snapshot in the hands of a reader, with what it showed at first. -/
structure Snapshot (T : Type) where
  address : Nat
  shown : T

/-- `DraftInner` over its allocations, with the calls and the readers. -/
structure Cell (T E : Type) where
  heap : Nat → T
  committed : Nat
  draft : Option Nat
  modifying : Bool
  calls : List (ModifyCall T E)
  snapshots : List (Snapshot T)

/-- What a call of `with_data_modify` does next. -/
inductive Turn where
  | acquire
  | copy
  | finish (fresh : Nat)
  | leave
  | drop

inductive CellAccess (T E : Type) where
  | begin (body : T → Except E T)
  | call (index : Nat) (turn : Turn)
  | editDraft (edit : T → T) (fresh : Nat)
  | apply
  | discard
  | dataArc
  | latestArc
  /-- A reader drops its snapshot. -/
  | release (index : Nat)

def ModifyStage.permit {T E : Type} : ModifyStage T E → Bool
  | .permitted => true
  | .editing _ _ => true
  | .leaving _ => true
  | _ => false

/-- The body works on its copy. -/
def ModifyCall.Runs {T E : Type} (call : ModifyCall T E) : Prop :=
  ∃ copy original, call.stage = .editing copy original

theorem ModifyCall.Runs.permit {T E : Type} {call : ModifyCall T E}
    (runs : call.Runs) : call.stage.permit = true := by
  obtain ⟨copy, original, at_⟩ := runs
  rw [at_]
  rfl

namespace Cell

variable {T E : Type}

def new (data : T) : Cell T E where
  heap := fun _ => data
  committed := 0
  draft := none
  modifying := false
  calls := []
  snapshots := []

variable (cell : Cell T E)

def value : T := cell.heap cell.committed

/-- Something other than the draft refers to the allocation. -/
def Shares (address : Nat) : Prop :=
  address = cell.committed ∨
    (∃ snapshot ∈ cell.snapshots, snapshot.address = address) ∨
      ∃ call ∈ cell.calls, match call.stage with
        | .editing _ original => original = address
        | _ => False

instance (address : Nat) : Decidable (cell.Shares address) := by
  unfold Shares
  have (call : ModifyCall T E) : Decidable (match call.stage with
      | .editing _ original => original = address
      | _ => False) := by
    split <;> infer_instance
  infer_instance

/-- `Arc::new`, at an address that nothing refers to. -/
def allocate (fresh : Nat) (value : T) : Option (Cell T E) :=
  if cell.Shares fresh ∨ cell.draft = some fresh then none
  else some { cell with heap := Function.update cell.heap fresh value }

/-- `edit_draft`; `make_mut` copies what is shared. -/
def editDraft (edit : T → T) (fresh : Nat) : Option (Cell T E) :=
  let source := cell.draft.getD cell.committed
  if cell.Shares source then
    (cell.allocate fresh (edit (cell.heap source))).map
      ({ · with draft := some fresh })
  else
    some { cell with
      heap := Function.update cell.heap source (edit (cell.heap source)) }

def apply : Cell T E :=
  match cell.draft with
  | some draft => { cell with committed := draft, draft := none }
  | none => cell

/-- The end of a call, once its body is done with its copy. -/
def finish (body : T → Except E T) (copy : T) (original fresh : Nat) :
    Option (Cell T E × Except (ModifyError E) Unit) :=
  match body copy with
  | .error error => some (cell, .error (.body error))
  | .ok changed =>
    if cell.committed = original then
      (cell.allocate fresh changed).map ({ · with committed := fresh }, .ok ())
    else
      some (cell, .error .optimisticLock)

def advance (body : T → Except E T) :
    ModifyStage T E → Turn → Option (Cell T E × ModifyStage T E)
  | .waiting, .acquire =>
    if cell.modifying then none
    else some ({ cell with modifying := true }, .permitted)
  | .permitted, .copy => some (cell, .editing cell.value cell.committed)
  | .editing copy original, .finish fresh =>
    (cell.finish body copy original fresh).map fun (next, result) =>
      (next, .leaving result)
  | .leaving result, .leave =>
    some ({ cell with modifying := false }, .returned result)
  | .waiting, .drop => some (cell, .dropped)
  | .editing _ _, .drop => some ({ cell with modifying := false }, .dropped)
  | _, _ => none

def show_ (address : Nat) : Cell T E :=
  { cell with snapshots := ⟨address, cell.heap address⟩ :: cell.snapshots }

def step : CellAccess T E → Option (Cell T E)
  | .begin body =>
    some { cell with calls := cell.calls ++ [⟨body, .waiting⟩] }
  | .call index turn =>
    match cell.calls[index]? with
    | some ⟨body, stage⟩ =>
      (cell.advance body stage turn).map fun (next, stage) =>
        { next with calls := cell.calls.set index ⟨body, stage⟩ }
    | none => none
  | .editDraft edit fresh => cell.editDraft edit fresh
  | .apply => some cell.apply
  | .discard => some { cell with draft := none }
  | .dataArc => some (cell.show_ cell.committed)
  | .latestArc => some (cell.show_ (cell.draft.getD cell.committed))
  | .release index =>
    some { cell with snapshots := cell.snapshots.eraseIdx index }

/-- What others refer to is left as it is. -/
def Keeps (next : Cell T E) : Prop :=
  ∀ address, cell.Shares address → next.heap address = cell.heap address

variable {cell} {next : Cell T E} {fresh : Nat} {body : T → Except E T}
  {stage later : ModifyStage T E} {turn : Turn} {index : Nat}
  {access : CellAccess T E}

theorem keeps_allocate {value : T}
    (taken : cell.allocate fresh value = some next) :
    next = { cell with heap := Function.update cell.heap fresh value } ∧
      cell.Keeps next := by
  obtain ⟨unused, ⟨⟩⟩ := Option.ite_none_left_eq_some.mp taken
  refine ⟨rfl, ?_⟩
  intro address shared
  apply Function.update_of_ne
  rintro rfl
  exact unused (.inl shared)

/-- A draft is edited where nobody else looks. -/
theorem keeps_editDraft {edit : T → T}
    (taken : cell.editDraft edit fresh = some next) :
    cell.Keeps next ∧ next.committed = cell.committed ∧
      next.modifying = cell.modifying ∧ next.calls = cell.calls ∧
      next.snapshots = cell.snapshots := by
  unfold editDraft at taken
  dsimp only at taken
  split at taken
  · obtain ⟨copied, allocated, rfl⟩ := Option.map_eq_some_iff.mp taken
    obtain ⟨rfl, kept⟩ := keeps_allocate allocated
    exact ⟨kept, rfl, rfl, rfl, rfl⟩
  · next alone =>
    cases taken
    refine ⟨?_, rfl, rfl, rfl, rfl⟩
    intro address shared
    apply Function.update_of_ne
    rintro rfl
    exact alone shared

theorem finish_cases {copy : T} {original : Nat}
    {result : Except (ModifyError E) Unit}
    (taken : cell.finish body copy original fresh = some (next, result)) :
    (next = cell ∧ result ≠ .ok ()) ∨
      (cell.committed = original ∧ result = .ok () ∧
        body copy = .ok next.value ∧ cell.Keeps next ∧
        next.modifying = cell.modifying ∧ next.snapshots = cell.snapshots) := by
  unfold finish at taken
  split at taken
  · cases taken
    exact .inl ⟨rfl, nofun⟩
  · next changed made =>
    split at taken
    · next same =>
      obtain ⟨copied, allocated, equal⟩ := Option.map_eq_some_iff.mp taken
      cases equal
      obtain ⟨rfl, kept⟩ := keeps_allocate allocated
      refine .inr ⟨same, rfl, ?_, kept, rfl, rfl⟩
      rw [made]
      change Except.ok changed =
        Except.ok (Function.update cell.heap fresh changed fresh)
      rw [Function.update_self]
    · cases taken
      exact .inl ⟨rfl, nofun⟩

private theorem advance_cases
    (taken : cell.advance body stage turn = some (next, later)) :
    cell.Keeps next ∧ next.snapshots = cell.snapshots ∧
      (∀ copy original, later = .editing copy original →
        copy = cell.value ∧ original = cell.committed ∧ next = cell) ∧
      (stage.permit = false ∧ cell.modifying = false ∧ next.modifying = true ∨
        stage.permit = later.permit ∧ next.modifying = cell.modifying ∨
        stage.permit = true ∧ later.permit = false) := by
  unfold advance at taken
  split at taken
  · obtain ⟨free, ⟨⟩⟩ := Option.ite_none_left_eq_some.mp taken
    exact ⟨fun _ _ => rfl, rfl, nofun, .inl ⟨rfl, by simpa using free, rfl⟩⟩
  · cases taken
    refine ⟨fun _ _ => rfl, rfl, ?_, .inr (.inl ⟨rfl, rfl⟩)⟩
    rintro copy original ⟨⟩
    exact ⟨rfl, rfl, rfl⟩
  · obtain ⟨⟨moved, result⟩, finished, equal⟩ := Option.map_eq_some_iff.mp taken
    cases equal
    rcases finish_cases finished with ⟨rfl, -⟩ | ⟨-, -, -, kept, flag, held⟩
    · exact ⟨fun _ _ => rfl, rfl, nofun, .inr (.inl ⟨rfl, rfl⟩)⟩
    · exact ⟨kept, held, nofun, .inr (.inl ⟨rfl, flag⟩)⟩
  · cases taken
    exact ⟨fun _ _ => rfl, rfl, nofun, .inr (.inr ⟨rfl, rfl⟩)⟩
  · cases taken
    exact ⟨fun _ _ => rfl, rfl, nofun, .inr (.inl ⟨rfl, rfl⟩)⟩
  · cases taken
    exact ⟨fun _ _ => rfl, rfl, nofun, .inr (.inr ⟨rfl, rfl⟩)⟩
  · cases taken

def Permitted (cell : Cell T E) (index : Nat) : Prop :=
  ∃ call, cell.calls[index]? = some call ∧ call.stage.permit = true

/-- Snapshots and copies show what they were taken from, and one call at most
has the permit. -/
structure Sound (cell : Cell T E) : Prop where
  shown : ∀ snapshot ∈ cell.snapshots, cell.heap snapshot.address =
    snapshot.shown
  copied : ∀ body copy original, ⟨body, .editing copy original⟩ ∈ cell.calls →
    cell.heap original = copy
  flagged : ∀ index, cell.Permitted index → cell.modifying = true
  single : ∀ index other, cell.Permitted index → cell.Permitted other →
    index = other

private theorem sound_new (data : T) : (new data : Cell T E).Sound := by
  constructor
  · nofun
  · nofun
  · rintro index ⟨call, found, -⟩
    cases found
  · rintro index other ⟨call, found, -⟩
    cases found

theorem Sound.keep (sound : cell.Sound) (kept : cell.Keeps next)
    (calls : next.calls = cell.calls)
    (modifying : next.modifying = cell.modifying)
    (snapshots : ∀ snapshot ∈ next.snapshots, snapshot ∈ cell.snapshots ∨
      next.heap snapshot.address = snapshot.shown) :
    next.Sound := by
  have permits (index : Nat) : next.Permitted index ↔ cell.Permitted index := by
    simp only [Permitted, calls]
  refine ⟨?_, ?_, ?_, ?_⟩
  · intro snapshot member
    rcases snapshots snapshot member with old | shown
    · rw [kept _ (.inr (.inl ⟨snapshot, old, rfl⟩))]
      exact sound.shown snapshot old
    · exact shown
  · intro body copy original member
    rw [calls] at member
    rw [kept _ (.inr (.inr ⟨_, member, rfl⟩))]
    exact sound.copied body copy original member
  · intro index permitted
    rw [modifying]
    exact sound.flagged index ((permits index).mp permitted)
  · intro index other first second
    exact sound.single index other ((permits index).mp first)
      ((permits other).mp second)

private theorem permitted_set {other : Nat} {call : ModifyCall T E}
    (calls : next.calls = cell.calls.set index call)
    (permitted : next.Permitted other) :
    other = index ∧ call.stage.permit = true ∨
      other ≠ index ∧ cell.Permitted other := by
  obtain ⟨found, looked, permit⟩ := permitted
  rw [calls, List.getElem?_set] at looked
  split at looked
  · next same =>
    split at looked
    · cases looked
      exact .inl ⟨same.symm, permit⟩
    · cases looked
  · next different => exact .inr ⟨Ne.symm different, found, looked, permit⟩

theorem Sound.call (sound : cell.Sound)
    (found : cell.calls[index]? = some ⟨body, stage⟩)
    (moved : cell.advance body stage turn = some (next, later)) :
    Sound { next with calls := cell.calls.set index ⟨body, later⟩ } := by
  obtain ⟨kept, held, copies, permit⟩ := advance_cases moved
  have mine (has : stage.permit = true) : cell.Permitted index :=
    ⟨_, found, has⟩
  refine ⟨?_, ?_, ?_, ?_⟩
  · intro snapshot member
    have old : snapshot ∈ cell.snapshots := held ▸ member
    exact (kept _ (.inr (.inl ⟨snapshot, old, rfl⟩))).trans
      (sound.shown snapshot old)
  · intro owner copy original member
    rcases List.mem_or_eq_of_mem_set member with old | equal
    · exact (kept _ (.inr (.inr ⟨_, old, rfl⟩))).trans
        (sound.copied owner copy original old)
    · injection equal with _ entered
      obtain ⟨rfl, rfl, rfl⟩ := copies copy original entered.symm
      rfl
  · intro other permitted
    rcases permitted_set rfl permitted with ⟨rfl, has⟩ | ⟨different, had⟩
    · rcases permit with ⟨-, -, flag⟩ | ⟨same, flag⟩ | ⟨-, lost⟩
      · exact flag
      · exact flag.trans (sound.flagged _ (mine (same.trans has)))
      · rw [lost] at has
        cases has
    · have flag := sound.flagged other had
      rcases permit with ⟨-, -, taken⟩ | ⟨-, same⟩ | ⟨has, -⟩
      · exact taken
      · exact same.trans flag
      · exact absurd (sound.single other index had (mine has)) different
  · -- The permit is only taken while no other call has it.
    have alone {other : Nat} (has : later.permit = true)
        (different : other ≠ index) (had : cell.Permitted other) : False := by
      rcases permit with ⟨-, free, -⟩ | ⟨same, -⟩ | ⟨-, lost⟩
      · rw [sound.flagged other had] at free
        cases free
      · exact different (sound.single other index had (mine (same.trans has)))
      · rw [lost] at has
        cases has
    intro first second one two
    rcases permitted_set rfl one with ⟨rfl, has⟩ | ⟨different, had⟩
    · rcases permitted_set rfl two with ⟨rfl, -⟩ | ⟨other, held⟩
      · rfl
      · exact (alone has other held).elim
    · rcases permitted_set rfl two with ⟨rfl, has⟩ | ⟨-, held⟩
      · exact (alone has different had).elim
      · exact sound.single first second had held

theorem Sound.step (sound : cell.Sound) (taken : cell.step access = some next) :
    next.Sound := by
  cases access with
  | begin body =>
    cases taken
    have before {index : Nat} {call : ModifyCall T E}
        (looked : (cell.calls ++ [⟨body, .waiting⟩])[index]? = some call)
        (permit : call.stage.permit = true) : cell.Permitted index := by
      rw [List.getElem?_append] at looked
      split at looked
      · exact ⟨call, looked, permit⟩
      rw [List.getElem?_singleton] at looked
      split at looked <;> cases looked
      cases permit
    refine ⟨sound.shown, ?_, ?_, ?_⟩
    · intro owner copy original member
      rcases List.mem_append.mp member with old | last
      · exact sound.copied owner copy original old
      · cases List.mem_singleton.mp last
    · rintro index ⟨call, looked, permit⟩
      exact sound.flagged index (before looked permit)
    · rintro index other ⟨call, looked, permit⟩ ⟨second, found, has⟩
      exact sound.single index other (before looked permit) (before found has)
  | call index turn =>
    simp only [Cell.step] at taken
    split at taken
    · next body stage found =>
      obtain ⟨⟨moved, later⟩, advanced, rfl⟩ := Option.map_eq_some_iff.mp taken
      exact sound.call found advanced
    · cases taken
  | editDraft edit fresh =>
    obtain ⟨kept, -, flag, calls, held⟩ := keeps_editDraft taken
    exact sound.keep kept calls flag fun _ member => .inl (held ▸ member)
  | apply =>
    cases taken
    unfold apply
    split
    · exact { sound with }
    · exact sound
  | discard =>
    cases taken
    exact { sound with }
  | dataArc | latestArc =>
    cases taken
    refine sound.keep (fun _ _ => rfl) rfl rfl ?_
    intro snapshot member
    rcases List.mem_cons.mp member with rfl | old
    · exact .inr rfl
    · exact .inl old
  | release index =>
    cases taken
    exact sound.keep (fun _ _ => rfl) rfl rfl fun _ member => .inl
      (List.mem_of_mem_eraseIdx member)

/-- The runs of all accesses in any order. -/
abbrev Reached (data : T) (cell : Cell T E) : Prop :=
  Reaches step (fun _ _ => True) (new data) cell

/-- The call has this result and is about to return it. -/
def Ends (cell : Cell T E) (index : Nat)
    (result : Except (ModifyError E) Unit) : Prop :=
  ∃ body, cell.calls[index]? = some ⟨body, .leaving result⟩

/-- What is promised of an access. -/
structure Atomic (cell : Cell T E) (access : CellAccess T E) (next : Cell T E) :
    Prop where
  /-- One body runs at a time. -/
  single : ∀ (index other : Nat) (first second : ModifyCall T E),
    cell.calls[index]? = some first → cell.calls[other]? = some second →
      first.Runs → second.Runs → index = other
  /-- A snapshot shows what it showed when it was handed out. -/
  shown : ∀ snapshot ∈ cell.snapshots, cell.heap snapshot.address =
    snapshot.shown
  /-- The committed value changes by an apply or a successful call. -/
  changes : next.value ≠ cell.value →
    access = .apply ∨
      ∃ index fresh, access = .call index (.finish fresh) ∧
        next.Ends index (.ok ())
  /-- A successful call replaces the allocation that it copied. -/
  succeeds : ∀ index fresh, access = .call index (.finish fresh) →
    next.Ends index (.ok ()) →
    ∃ body,
      cell.calls[index]? = some ⟨body, .editing cell.value cell.committed⟩ ∧
        body cell.value = .ok next.value
  /-- A call that fails changes nothing. -/
  fails : ∀ index fresh error, access = .call index (.finish fresh) →
    next.Ends index (.error error) → next.value = cell.value

theorem Sound.ends (sound : cell.Sound)
    (taken : cell.step (.call index (.finish fresh)) = some next) :
    ∃ body copy original result,
      cell.calls[index]? = some ⟨body, .editing copy original⟩ ∧
        next.calls[index]? = some ⟨body, .leaving result⟩ ∧
        (next.value = cell.value ∧ result ≠ .ok () ∨
          result = .ok () ∧ copy = cell.value ∧ original = cell.committed ∧
            body copy = .ok next.value) := by
  simp only [Cell.step] at taken
  split at taken
  · next body stage found =>
    obtain ⟨⟨moved, later⟩, advanced, rfl⟩ := Option.map_eq_some_iff.mp taken
    cases stage with
    | editing copy original =>
      obtain ⟨⟨after, result⟩, finished, equal⟩ :=
        Option.map_eq_some_iff.mp advanced
      cases equal
      have inside := (List.getElem?_eq_some_iff.mp found).1
      refine ⟨body, copy, original, result, found,
        List.getElem?_set_self inside, ?_⟩
      rcases finish_cases finished with
        ⟨rfl, failed⟩ | ⟨same, succeeded, made, -⟩
      · exact .inl ⟨rfl, failed⟩
      · subst same
        have copied :=
          sound.copied body copy cell.committed (List.mem_of_getElem? found)
        exact .inr ⟨succeeded, copied.symm, rfl, made⟩
    | waiting | permitted | leaving _ | returned _ | dropped => cases advanced
  · cases taken

private theorem value_advance
    (taken : cell.advance body stage turn = some (next, later)) :
    next.value = cell.value ∨ ∃ fresh, turn = .finish fresh := by
  unfold advance at taken
  split at taken
  · split at taken <;> cases taken
    exact .inl rfl
  · cases taken
    exact .inl rfl
  · exact .inr ⟨_, rfl⟩
  · cases taken
    exact .inl rfl
  · cases taken
    exact .inl rfl
  · cases taken
    exact .inl rfl
  · cases taken

private theorem value_step (taken : cell.step access = some next)
    (changed : next.value ≠ cell.value) :
    access = .apply ∨ ∃ index fresh, access = .call index (.finish fresh) := by
  cases access with
  | apply => exact .inl rfl
  | call index turn =>
    simp only [Cell.step] at taken
    split at taken
    · obtain ⟨⟨moved, later⟩, advanced, rfl⟩ := Option.map_eq_some_iff.mp taken
      rcases value_advance advanced with same | ⟨fresh, rfl⟩
      · exact absurd same changed
      · exact .inr ⟨index, fresh, rfl⟩
    · cases taken
  | editDraft edit fresh =>
    obtain ⟨kept, same, -⟩ := keeps_editDraft taken
    refine absurd ?_ changed
    rw [value, same]
    exact kept _ (.inl rfl)
  | begin _ | discard | dataArc | latestArc | release _ =>
    cases taken
    exact absurd rfl changed

/-- For every interleaving of drafts, applies, discards, readers and calls of
`with_data_modify`: one body runs at a time, a call that succeeds has replaced
the committed value it started from, one that fails has changed nothing, and
no snapshot changes. -/
theorem draft_accesses_are_atomic {data : T} {access : CellAccess T E}
    (reached : Reached data cell) (taken : cell.step access = some next) :
    cell.Atomic access next := by
  have sound : cell.Sound := Reaches.invariant reached
    (sound_new data) fun _ _ _ holds _ taken => holds.step taken
  constructor
  · intro index other first second one two runs also
    exact sound.single index other ⟨first, one, runs.permit⟩
      ⟨second, two, also.permit⟩
  · exact sound.shown
  · intro changed
    rcases value_step taken changed with applied | ⟨index, fresh, rfl⟩
    · exact .inl applied
    · obtain ⟨body, copy, original, result, -, ends, outcome⟩ :=
        sound.ends taken
      rcases outcome with ⟨same, -⟩ | ⟨rfl, -⟩
      · exact absurd same changed
      · exact .inr ⟨index, fresh, rfl, body, ends⟩
  · rintro index fresh rfl ⟨owner, succeeded⟩
    obtain ⟨body, copy, original, result, found, ends, outcome⟩ :=
      sound.ends taken
    rw [succeeded] at ends
    cases ends
    rcases outcome with ⟨-, failed⟩ | ⟨-, rfl, rfl, made⟩
    · exact absurd rfl failed
    · exact ⟨owner, found, made⟩
  · rintro index fresh error rfl ⟨owner, failed⟩
    obtain ⟨body, copy, original, result, -, ends, outcome⟩ := sound.ends taken
    rw [failed] at ends
    cases ends
    rcases outcome with ⟨same, -⟩ | ⟨succeeded, -⟩
    · exact same
    · cases succeeded

/-- The draft is edited, shown, edited again on a copy and applied while a
call runs; the call then finds that its data were replaced. -/
theorem shown_draft_is_copied :
    ∃ cell next : Cell Nat Unit, Reached 1 cell ∧
      cell.step (.call 0 (.finish 3)) = some next ∧
      cell.Atomic (.call 0 (.finish 3)) next := by
  have replayed : (run step (new 1 : Cell Nat Unit)
      [.begin (fun n => .ok (n + 5)), .call 0 .acquire, .call 0 .copy,
        .editDraft (· + 1) 1, .latestArc, .editDraft (· + 1) 2,
        .apply]).any (fun cell =>
          (cell.step (.call 0 (.finish 3))).isSome) = true := by
    decide
  obtain ⟨cell, run, ends⟩ := Option.any_eq_true _ _ |>.mp replayed
  obtain ⟨next, taken⟩ := Option.isSome_iff_exists.mp ends
  have reached : Reached 1 cell :=
    reaches_of_run .start _ (fun _ _ _ => trivial) run
  exact ⟨cell, next, reached, taken, draft_accesses_are_atomic reached taken⟩

end Cell

end KyClash.Configuration
