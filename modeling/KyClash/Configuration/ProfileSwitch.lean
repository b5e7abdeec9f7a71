import KyClash.Configuration.Profiles

/-!
# A profile switch among other changes of the profiles

`patch_profiles_config` of `cmd/profile.rs` drafts the switch, updates the
core for up to thirty seconds, and then commits the new current profile or
restores the previous one.  Other calls of `with_data_modify` run at the same
time, with any bodies.

A switch that fails drafts the restored profile and applies the draft in two
accesses.  What is committed between them is overwritten.
-/

namespace KyClash.Configuration

open Transition

/-- How the update of the core ends. -/
inductive SwitchOutcome where
  | valid
  | invalid
  | error
  | timeout
  deriving DecidableEq, Repr

inductive SwitchStage where
  | reading
  | drafting
  | updating
  | discarding (outcome : SwitchOutcome)
  | entering (current : String)
  | committing (call : Nat)
  | restoring (profile : String) (outcome : SwitchOutcome)
  | applying (profile : String) (outcome : SwitchOutcome)
  | ended (outcome : SwitchOutcome)
  deriving DecidableEq, Repr

/-- The change of the current profile alone. -/
def toCurrent (profile : String) : IProfiles where
  current := some profile
  items := none

/-- The profiles and the switch.  `moved` tells that another call has changed
the committed current profile since the switch read it. -/
structure Switching where
  shared : Shared IProfiles ProfilesError
  target : IProfiles
  previous : Option String
  stage : SwitchStage
  moved : Bool

/-- A step of the switch, or of a call of `with_data_modify`. -/
inductive SwitchEvent where
  | advance (outcome : SwitchOutcome)
  | access (access : Access IProfiles ProfilesError)

namespace Switching

def start (data : Draft IProfiles) (target : IProfiles) : Switching where
  shared := .new data
  target := target
  previous := none
  stage := .reading
  moved := false

variable (state : Switching)

def dataArc : IProfiles := state.shared.dataArc

def afterDiscard : SwitchOutcome → SwitchStage
  | .valid =>
    match state.target.current with
    | some current => .entering current
    | none => .ended .valid
  | outcome =>
    match state.previous with
    | some profile => .restoring profile outcome
    | none => .ended outcome

/-- The body of `commit_current_profile`. -/
def commitBody (current : String) (committed : IProfiles) :
    Except ProfilesError IProfiles :=
  .ok ((toCurrent current).patchConfig committed)

/-- The next step of the switch; the outcome is that of the core's update. -/
def advance (outcome : SwitchOutcome) : Option Switching :=
  match state.stage with
  | .reading =>
    some { state with
      previous := state.dataArc.current
      stage := .drafting }
  | .drafting =>
    some { state with
      shared := state.shared.editDraft state.target.patchConfig
      stage := .updating }
  | .updating => some { state with stage := .discarding outcome }
  | .discarding outcome =>
    some { state with
      shared := state.shared.discard
      stage := state.afterDiscard outcome }
  | .entering current =>
    (state.shared.step (.begin (commitBody current))).map fun shared =>
      { state with
        shared
        stage := .committing state.shared.calls.length }
  | .committing call =>
    match state.shared.calls[call]? with
    | some ⟨_, .returned _⟩ => some { state with stage := .ended .valid }
    | _ => none
  | .restoring profile outcome =>
    some { state with
      shared := state.shared.editDraft (toCurrent profile).patchConfig
      stage := .applying profile outcome }
  | .applying _ outcome =>
    some { state with shared := state.shared.apply, stage := .ended outcome }
  | .ended _ => none

/-- The access is one of the switch's own call. -/
def owns : Access IProfiles ProfilesError → Bool
  | .finish call => state.stage = .committing call
  | _ => false

/-- Another call changes the current profile behind the switch's reading. -/
def moves (after : Shared IProfiles ProfilesError)
    (access : Access IProfiles ProfilesError) : Bool :=
  state.stage ≠ .reading && !state.owns access &&
    after.dataArc.current ≠ state.dataArc.current

def step : SwitchEvent → Option Switching
  | .advance outcome => state.advance outcome
  | .access access =>
    -- The draft is accessed by the switch only.
    if access.ofCall then
      (state.shared.step access).map fun shared =>
        { state with
          shared
          moved := state.moved || state.moves shared access }
    else
      none

/-- The previously current profile is current, or no longer listed. -/
def Settled (previous : Option String) (profiles : IProfiles) : Prop :=
  match previous with
  | some profile =>
    profiles.current = some profile ∨ ¬Listed profile profiles.list
  | none => True

instance :
    (previous : Option String) → (profiles : IProfiles) →
      Decidable (Settled previous profiles)
  | some profile, profiles => inferInstanceAs (Decidable
      (profiles.current = some profile ∨ ¬Listed profile profiles.list))
  | none, _ => .isTrue trivial

/-- The restored profile is drafted and not yet applied. -/
def applies : Bool :=
  match state.stage with
  | .applying _ _ => true
  | _ => false

/-- A restoration finds its profile current, or no longer listed. -/
def Restores (profiles : IProfiles) : SwitchStage → Prop
  | .restoring profile _ => Settled (some profile) profiles
  | _ => True

instance (profiles : IProfiles) :
    (stage : SwitchStage) → Decidable (Restores profiles stage)
  | .restoring profile _ =>
    inferInstanceAs (Decidable (Settled (some profile) profiles))
  | .reading | .drafting | .updating | .discarding _ | .entering _
  | .committing _
  | .applying _ _ | .ended _ => .isTrue trivial

/-- A restoration has nothing to turn back, and no other call commits between
its two accesses. -/
def Admitted : SwitchEvent → Prop
  | .advance _ => Restores state.dataArc state.stage
  | .access access => state.applies = true → state.shared.commits access = none

instance : (event : SwitchEvent) → Decidable (state.Admitted event)
  | .advance _ =>
    inferInstanceAs (Decidable (Restores state.dataArc state.stage))
  | .access access => inferInstanceAs (Decidable
      (state.applies = true → state.shared.commits access = none))

def BySwitch : SwitchEvent → Prop
  | .advance _ => True
  | .access access => state.owns access = true

/-- The committed profiles are the same, or a successful switch has changed
the current one.  An absent list is an empty one. -/
def Lossless (before after : Switching) : Prop :=
  after.dataArc.list = before.dataArc.list ∧
    (after.dataArc.current = before.dataArc.current ∨
      ∃ call, before.stage = .committing call ∧
        after.dataArc.current = before.target.current)

/-- The current profile is the one that the switch has read, unless another
call has changed it. -/
def Kept : Prop :=
  state.moved = false → state.dataArc.current = state.previous

def StageHolds : SwitchStage → Prop
  | .reading => True
  | .drafting => state.Kept
  | .updating => state.Kept
  | .discarding _ => state.Kept
  | .entering current => state.target.current = some current
  | .committing call => ∃ current later,
      state.target.current = some current ∧
        state.shared.calls[call]? = some ⟨commitBody current, later⟩
  | .restoring _ _ => state.Kept ∧ state.shared.data.draft = none
  | .applying profile _ => state.Kept ∧ Settled (some profile) state.dataArc ∧
      state.shared.data.draft =
        some ((toCurrent profile).patchConfig state.dataArc)
  | .ended outcome => outcome ≠ .valid → state.Kept

structure Sound : Prop where
  coherent : state.shared.Coherent
  stage : state.StageHolds state.stage

variable {state} {after : Switching} {shared : Shared IProfiles ProfilesError}
  {profile : String}

private theorem current_restored {profiles : IProfiles}
    (settled : Settled (some profile) profiles) :
    ((toCurrent profile).patchConfig profiles).current = profiles.current := by
  simp only [IProfiles.patchConfig, toCurrent]
  rcases settled with current | unlisted
  · rw [current, ite_self]
  · rw [if_neg unlisted]

/-! ### Accesses of the calls -/

theorem access_cases {access : Access IProfiles ProfilesError}
    (taken : state.step (.access access) = some after) :
    access.ofCall = true ∧ ∃ shared, state.shared.step access = some shared ∧
      after = { state with
        shared
        moved := state.moved || state.moves shared access } := by
  obtain ⟨call, taken⟩ := Option.ite_none_right_eq_some.mp taken
  obtain ⟨shared, done, equal⟩ := Option.map_eq_some_iff.mp taken
  exact ⟨call, shared, done, equal.symm⟩

theorem dataArc_access {access : Access IProfiles ProfilesError}
    (call : access.ofCall = true)
    (done : state.shared.step access = some shared) :
    shared.dataArc = (state.shared.commits access).getD state.dataArc :=
  congrArg Draft.committed (Shared.data_step call done)

theorem Kept.access (kept : state.Kept)
    {access : Access IProfiles ProfilesError}
    (read : state.stage ≠ .reading) (other : state.owns access = false) :
    Kept { state with
      shared
      moved := state.moved || state.moves shared access } := by
  intro still
  obtain ⟨before, unmoved⟩ := Bool.or_eq_false_iff.mp still
  have same : shared.dataArc.current = state.dataArc.current := by
    simpa [moves, read, other] using unmoved
  exact same.trans (kept before)

theorem Sound.access (sound : state.Sound)
    {access : Access IProfiles ProfilesError}
    (admitted : state.Admitted (.access access))
    (taken : state.step (.access access) = some after) : after.Sound := by
  obtain ⟨call, shared, done, rfl⟩ := access_cases taken
  refine ⟨sound.coherent.step done, ?_⟩
  have draft : shared.data.draft = state.shared.data.draft := by
    rw [Shared.data_step call done]
  have holds := sound.stage
  have other {stage : SwitchStage} (at_ : state.stage = stage)
      (uncommitted : ∀ own, stage ≠ .committing own) :
      state.owns access = false := by
    cases access <;> simp [owns, at_, uncommitted]
  show StageHolds _ state.stage
  cases at_ : state.stage with rw [at_] at holds
  | reading => trivial
  | drafting | updating | discarding =>
    exact holds.access (by simp [at_]) (other at_ nofun)
  | entering current =>
    exact holds
  | committing own =>
    obtain ⟨current, stage, target, found⟩ := holds
    obtain ⟨later, kept⟩ := Shared.body_step done found
    exact ⟨current, later, target, kept⟩
  | restoring profile outcome =>
    obtain ⟨kept, none⟩ := holds
    exact ⟨kept.access (by simp [at_]) (other at_ nofun), draft.trans none⟩
  | applying profile outcome =>
    obtain ⟨kept, settled, drafted⟩ := holds
    have uncommitted : state.shared.commits access = none :=
      admitted (by rw [applies, at_])
    have data : shared.dataArc = state.dataArc := by
      rw [dataArc_access call done, uncommitted, Option.getD_none]
    refine ⟨kept.access (by simp [at_]) (other at_ nofun), ?_, ?_⟩
    · show Settled (some profile) shared.dataArc
      rw [data]
      exact settled
    · show shared.data.draft =
        some ((toCurrent profile).patchConfig shared.dataArc)
      rw [data, draft]
      exact drafted
  | ended outcome =>
    intro failed
    exact (holds failed).access (by simp [at_]) (other at_ nofun)

/-! ### Steps of the switch -/

/-- Behind `discard` a failed switch has something to restore, or not. -/
theorem Kept.afterDiscard (kept : state.Kept) (outcome : SwitchOutcome) :
    StageHolds { state with
        shared := state.shared.discard
        stage := state.afterDiscard outcome }
      (state.afterDiscard outcome) := by
  have failing (failed : outcome ≠ .valid) : state.afterDiscard outcome =
    match state.previous with
        | some profile => .restoring profile outcome
        | none => .ended outcome := by
    cases outcome <;> first | exact absurd rfl failed | rfl
  by_cases valid : outcome = .valid
  · subst valid
    cases target : state.target.current with
    | none =>
      simp only [Switching.afterDiscard, target]
      exact fun failed => absurd rfl failed
    | some current =>
      simp only [Switching.afterDiscard, target]
      exact target
  · rw [failing valid]
    split
    · exact ⟨kept, rfl⟩
    · exact fun _ => kept

private theorem restored_dataArc
    (settled : Settled (some profile) state.dataArc)
    (drafted : state.shared.data.draft =
      some ((toCurrent profile).patchConfig state.dataArc)) :
    state.shared.apply.dataArc.list = state.dataArc.list ∧
      state.shared.apply.dataArc.current = state.dataArc.current := by
  rw [Shared.dataArc_apply, Draft.latestArc, drafted, Option.getD_some]
  exact ⟨rfl, current_restored settled⟩

theorem Sound.advance (sound : state.Sound) {outcome : SwitchOutcome}
    (taken : state.step (.advance outcome) = some after) :
    (state.Admitted (.advance outcome) → after.Sound) ∧
      Lossless state after := by
  have holds := sound.stage
  change state.advance outcome = some after at taken
  unfold Switching.advance at taken
  cases at_ : state.stage with rw [at_] at holds
  | reading =>
    simp only [at_, Option.some.injEq] at taken
    subst taken
    exact ⟨fun _ => ⟨sound.coherent, fun _ => rfl⟩, rfl, .inl rfl⟩
  | drafting =>
    simp only [at_, Option.some.injEq] at taken
    subst taken
    exact ⟨fun _ => ⟨sound.coherent.editDraft _, holds⟩, rfl, .inl rfl⟩
  | updating =>
    simp only [at_, Option.some.injEq] at taken
    subst taken
    exact ⟨fun _ => ⟨sound.coherent, holds⟩, rfl, .inl rfl⟩
  | discarding outcome =>
    simp only [at_, Option.some.injEq] at taken
    subst taken
    have kept : state.Kept := holds
    exact ⟨fun _ => ⟨sound.coherent.discard, kept.afterDiscard outcome⟩, rfl,
      .inl rfl⟩
  | entering current =>
    simp only [at_] at taken
    obtain ⟨shared, begun, rfl⟩ := Option.map_eq_some_iff.mp taken
    refine ⟨fun _ => ⟨sound.coherent.step begun, current, .waiting, holds, ?_⟩,
      ?_⟩
    · cases begun
      exact List.getElem?_concat_length
    · cases begun
      exact ⟨rfl, .inl rfl⟩
  | committing call =>
    simp only [at_] at taken
    split at taken
    · cases taken
      exact ⟨fun _ => ⟨sound.coherent, fun failed => absurd rfl failed⟩, rfl,
        .inl rfl⟩
    · cases taken
  | restoring profile outcome =>
    obtain ⟨kept, none⟩ := holds
    simp only [at_, Option.some.injEq] at taken
    subst taken
    refine ⟨?_, rfl, .inl rfl⟩
    intro admitted
    have settled : Restores state.dataArc state.stage := admitted
    rw [at_] at settled
    refine ⟨sound.coherent.editDraft _, kept, settled, ?_⟩
    show some ((toCurrent profile).patchConfig state.shared.data.latestArc) = _
    rw [Draft.latestArc, none, Option.getD_none]
    rfl
  | applying profile outcome =>
    obtain ⟨kept, settled, drafted⟩ := holds
    simp only [at_, Option.some.injEq] at taken
    subst taken
    obtain ⟨list, current⟩ := restored_dataArc settled drafted
    exact ⟨fun _ =>
        ⟨sound.coherent.apply, fun _ unmoved => current.trans (kept unmoved)⟩,
      list, .inl current⟩
  | ended outcome =>
    simp only [at_] at taken
    cases taken

theorem Sound.own_lossless (sound : state.Sound)
    {access : Access IProfiles ProfilesError} (own : state.owns access = true)
    (taken : state.step (.access access) = some after) :
    Lossless state after := by
  obtain ⟨call, shared, done, rfl⟩ := access_cases taken
  cases access with
  | finish index =>
    have at_ : state.stage = .committing index := of_decide_eq_true own
    have holds := sound.stage
    rw [at_] at holds
    obtain ⟨current, stage, target, found⟩ := holds
    have data := dataArc_access call done
    cases committed : state.shared.commits (.finish index) with
    | none =>
      rw [committed, Option.getD_none] at data
      exact ⟨congrArg IProfiles.list data,
        .inl (congrArg IProfiles.current data)⟩
    | some changed =>
      rw [committed, Option.getD_some] at data
      rw [Shared.commits, found] at committed
      cases stage with
      | editing copy stamp =>
        simp only at committed
        obtain ⟨same, committed⟩ := Option.ite_none_right_eq_some.mp committed
        obtain ⟨-, copied⟩ := sound.coherent _ _ _ _ found
        rw [copied same.symm] at committed
        cases committed
        have chosen := congrArg IProfiles.current data
        refine ⟨?_, ?_⟩
        · exact (congrArg IProfiles.list data).trans rfl
        · simp only [IProfiles.patchConfig, toCurrent] at chosen
          split at chosen
          · exact .inr ⟨index, at_, chosen.trans target.symm⟩
          · exact .inl chosen
      | _ => cases committed
  | _ => cases own

private theorem sound_start (data : Draft IProfiles) (target : IProfiles) :
    (start data target).Sound :=
  ⟨Shared.coherent_new data, trivial⟩

private theorem reached_sound {data : Draft IProfiles} {target : IProfiles}
    (reached : Reaches step Admitted (start data target) state) :
    state.Sound := by
  apply reached.invariant (sound_start data target)
  intro before event after sound admitted taken
  cases event with
  | advance outcome => exact (sound.advance taken).1 admitted
  | access access => exact sound.access admitted taken

/-- In a run in which a restoration has nothing to turn back and no other call
commits between its two accesses, no step of the switch loses what others have
committed, and a switch that fails leaves the current profile as it was,
unless another call has changed it. -/
theorem switch_loses_nothing {data : Draft IProfiles} {target : IProfiles}
    (reached : Reaches step Admitted (start data target) state) :
    (∀ event after, state.BySwitch event → state.step event = some after →
        Lossless state after) ∧
      ∀ outcome, state.stage = .ended outcome → outcome ≠ .valid →
        state.moved = false → state.dataArc.current = state.previous := by
  have sound := reached_sound reached
  constructor
  · intro event after own taken
    cases event with
    | advance outcome => exact (sound.advance taken).2
    | access access => exact sound.own_lossless own taken
  · intro outcome ended failed unmoved
    have holds := sound.stage
    rw [ended] at holds
    exact holds failed unmoved

/-! ### A switch that fails while a profile is added -/

def addsProfile : List SwitchEvent :=
  [.access (.begin (IProfiles.appendItem true { uid := some "new" })),
    .access (.acquire 0), .access (.copy 0), .access (.finish 0)]

/-- A switch to the second of three profiles, up to the update of the core. -/
def drafts : List SwitchEvent :=
  List.replicate 2 (.advance .valid)

/-- The update fails; up to the draft that restores the first profile. -/
def failsToSwitch : List SwitchEvent :=
  .advance .invalid :: List.replicate 2 (.advance .valid)

/-- The profile is added while the core is updated. -/
theorem failed_switch_keeps_added_profile :
    ∃ state,
      Reaches step Admitted (start (.new threeProfiles) (toCurrent "b")) state ∧
        state.stage = .ended .invalid ∧ Listed "new" state.dataArc.list ∧
        state.dataArc.current = state.previous := by
  have reached : Reaches step Admitted
      (start (.new threeProfiles) (toCurrent "b")) _ :=
    reaches_of_guarded .start
      (drafts ++ addsProfile ++ failsToSwitch ++ [.advance .valid]) rfl
  exact ⟨_, reached, rfl, by decide, (switch_loses_nothing reached).2 .invalid
    rfl nofun rfl⟩

/-- The profile is added between the two accesses of the restoration, and is
gone after the second. -/
theorem failed_switch_loses_added_profile :
    ∃ state after,
      Reaches step (fun _ _ => True)
          (start (.new threeProfiles) (toCurrent "b")) state ∧
        state.BySwitch (.advance .valid) ∧
        state.step (.advance .valid) = some after ∧
        Listed "new" state.dataArc.list ∧ ¬Listed "new" after.dataArc.list ∧
        ¬Lossless state after := by
  have reached : Reaches step (fun _ _ => True)
      (start (.new threeProfiles) (toCurrent "b")) _ :=
    reaches_of_run .start (drafts ++ failsToSwitch ++ addsProfile)
      (fun _ _ _ => trivial) rfl
  refine ⟨_, _, reached, trivial, rfl, by decide, by decide, ?_⟩
  intro lossless
  exact absurd (congrArg List.length lossless.1) (by decide)

end Switching

end KyClash.Configuration
