import KyClash.Configuration.Patch

/-!
# What a rejected patch leaves behind

A patch whose application fails stays in the draft, and the next writer of
the configuration commits it.  A rejected patch is withdrawn only if it sets
nothing that the draft does not show already.

Two stores whose drafts agree cannot be told apart by any operation: this is
the invariant of all later runs.
-/

namespace KyClash.Configuration

variable {α : Type} {β : Type} {calls : Update Unit}

namespace Update

@[simp]
theorem on_pure (value : α) (store : Store) :
    (pure value : Update α).on store = (.ok value, store) := rfl

theorem on_bind (update : Update α) (next : α → Update β) (store : Store) :
    (update >>= next).on store =
      match update.on store with
      | (.ok value, after) => (next value).on after
      | (.error failure, after) => (.error failure, after) := by
  simp only [Update.on, ExceptT.run_bind, StateT.run_bind]
  rcases update.run.run store with ⟨_ | value, after⟩
  · rfl
  · rfl

end Update

structure Store.Agrees (left right : Store) : Prop where
  clash : left.clash.Agrees right.clash
  verge : left.verge.Agrees right.verge
  clashFile : left.clashFile = right.clashFile
  vergeFile : left.vergeFile = right.vergeFile

/-- An update that has the same result on agreeing stores. -/
def Update.Uniform (update : Update α) : Prop :=
  ∀ left right : Store, left.Agrees right →
    (update.on left).1 = (update.on right).1 ∧
      (update.on left).2.Agrees (update.on right).2

namespace Update.Uniform

theorem pure (value : α) : Uniform (Pure.pure value : Update α) :=
  fun _ _ agrees => ⟨rfl, agrees⟩

private theorem throw (failure : Failure) :
    Uniform (throw failure : Update α) :=
  fun _ _ agrees => ⟨rfl, agrees⟩

theorem bind {update : Update α} {next : α → Update β} (first : Uniform update)
    (later : ∀ value, Uniform (next value)) : Uniform (update >>= next) := by
  intro left right agrees
  obtain ⟨same, agreed⟩ := first left right agrees
  rw [on_bind, on_bind]
  rcases onLeft : update.on left with ⟨_ | value, leftAfter⟩
  · rcases onRight : update.on right with ⟨result, rightAfter⟩
    rw [onLeft, onRight] at same agreed
    cases same
    exact ⟨rfl, agreed⟩
  · rcases onRight : update.on right with ⟨result, rightAfter⟩
    rw [onLeft, onRight] at same agreed
    cases same
    exact later value leftAfter rightAfter agreed

private theorem logged {update : Update Unit} (uniform : Uniform update) :
    Uniform (logged update) := by
  intro left right agrees
  exact ⟨rfl, (uniform left right agrees).2⟩

private theorem onlyIf (condition : Bool) (uniform : Uniform calls) :
    Uniform (onlyIf condition calls) := by
  cases condition with
  | false => exact pure ()
  | true => exact uniform

end Update.Uniform

open Update (Uniform)

variable (outcomes : Outcomes)

private theorem uniform_attempt (step : Step) :
    Uniform (attempt outcomes step) := by
  rw [attempt]
  split
  · exact .throw _
  · exact .pure _

theorem uniform_changeClash {change : Draft Mapping → Draft Mapping}
    (keeps : ∀ {left right : Draft Mapping}, left.Agrees right →
      (change left).Agrees (change right)) :
    Uniform (changeClash change) := by
  intro left right agrees
  exact ⟨rfl, { agrees with clash := keeps agrees.clash }⟩

theorem uniform_changeVerge {change : Draft IVerge → Draft IVerge}
    (keeps : ∀ {left right : Draft IVerge}, left.Agrees right →
      (change left).Agrees (change right)) :
    Uniform (changeVerge change) := by
  intro left right agrees
  exact ⟨rfl, { agrees with verge := keeps agrees.verge }⟩

private theorem uniform_saveConfig (config : Mapping) :
    Uniform (saveConfig outcomes config) := by
  intro left right agrees
  rw [saveConfig]
  split
  all_goals exact ⟨rfl, { agrees with clashFile := rfl }⟩

theorem uniform_saveFile (verge : IVerge) :
    Uniform (saveFile outcomes verge) := by
  intro left right agrees
  rw [saveFile]
  split
  all_goals exact ⟨rfl, { agrees with vergeFile := rfl }⟩

/-- What is read from a store may depend only on what agreeing stores
share. -/
theorem uniform_reading (read : Store → β) (next : β → Update Unit)
    (shared : ∀ {left right : Store}, left.Agrees right →
      read left = read right)
    (uniform : ∀ value, Uniform (next value)) :
    Uniform (do let store ← get; next (read store)) := by
  intro left right agrees
  have same := uniform (read left) left right agrees
  change ((next (read left)).on left).1 = ((next (read right)).on right).1 ∧
    ((next (read left)).on left).2.Agrees ((next (read right)).on right).2
  rw [← shared agrees]
  exact same

theorem uniform_saveClashData : Uniform (saveClashData outcomes) :=
  uniform_reading (fun store => store.clash.dataArc) (saveConfig outcomes)
    (fun agrees => agrees.clash.committed) (uniform_saveConfig outcomes)

theorem uniform_saveVergeData : Uniform (saveVergeData outcomes) :=
  uniform_reading (fun store => store.verge.dataArc) (saveFile outcomes)
    (fun agrees => agrees.verge.committed) (uniform_saveFile outcomes)

private theorem uniform_commitClash (edit : Mapping → Mapping) :
    Uniform (commitClash edit) :=
  .bind (uniform_changeClash fun agrees => agrees.editDraft edit) fun _ =>
    uniform_changeClash Draft.Agrees.apply

private theorem uniform_commitVerge (edit : IVerge → IVerge) :
    Uniform (commitVerge edit) :=
  .bind (uniform_changeVerge fun agrees => agrees.editDraft edit) fun _ =>
    uniform_changeVerge Draft.Agrees.apply

/-- The calls run the steps in this order up to the first that fails, and
leave the store alone. -/
def Runs (calls : Update Unit) (steps : List Step) : Prop :=
  ∀ store, calls.on store =
    match steps.find? outcomes.fails with
    | some step => (.error (.step step), store)
    | none => (.ok (), store)

variable {outcomes} {left right : Store} {store : Store} {patch : Patch}

namespace Runs

theorem attempt (step : Step) :
    Runs outcomes (attempt outcomes step) [step] := by
  intro store
  rw [Configuration.attempt]
  cases failed : outcomes.fails step with
  | false => simp [failed]
  | true =>
    simp [failed]
    rfl

theorem seq {first second : Update Unit} {earlier later : List Step}
    (before : Runs outcomes first earlier)
    (after : Runs outcomes second later) :
    Runs outcomes (do first; second) (earlier ++ later) := by
  intro store
  rw [Update.on_bind, before store, List.find?_append]
  cases earlier.find? outcomes.fails with
  | none => exact after store
  | some step => rfl

private theorem onlyIf {steps : List Step} (condition : Bool)
    (runs : Runs outcomes calls steps) :
    Runs outcomes (onlyIf condition calls)
      (if condition then steps else []) := by
  cases condition with
  | false => exact fun store => rfl
  | true => exact runs

end Runs

def activateSteps (patch : Mapping) : List Step :=
  if patch.has "secret" || patch.has "external-controller" then
    [.generate, .restartCore]
  else
    [.updateConfigChecked]

def flagSteps (flags : UpdateFlags) (patch : IVerge) : List Step :=
  (if flags.contains .restartCore then [.generate, .restartCore] else []) ++
  ((if flags.contains .clashConfig then [.updateConfigChecked] else []) ++
  ((if flags.contains .launch then [.updateLaunch] else []) ++
  ((if flags.contains .sysProxy then [.updateSysproxy] else []) ++
  ((if flags.contains .hotkey && patch.sets .hotkeys then
    [.updateHotkey] else []) ++
  ((if flags.contains .systrayMenu then [.updateMenu] else []) ++
  ((if flags.contains .systrayIcon then [.updateIcon] else []) ++
  ((if flags.contains .systrayTooltip then [.updateTooltip] else []) ++
  ((if flags.contains .systrayClickBehavior then
    [.updateClickBehavior] else []) ++
  ((if flags.contains .logLevel then [.updateLogLevel] else []) ++
  (if flags.contains .logFile then [.updateLogConfig] else []))))))))))

def Patch.steps (platform : Platform) : Patch → List Step
  | .clash patch => activateSteps patch
  | .verge patch _ => flagSteps (determineUpdateFlags platform patch) patch

private theorem runs_activate (patch : Mapping) :
    Runs outcomes (activate outcomes patch) (activateSteps patch) := by
  rw [activate, activateSteps]
  split
  · exact .seq (.attempt _) (.attempt _)
  · exact .attempt _

private theorem runs_processTerminatedFlags (flags : UpdateFlags)
    (patch : IVerge) :
    Runs outcomes (processTerminatedFlags outcomes flags patch)
      (flagSteps flags patch) :=
  .seq (.onlyIf _ (.seq (.attempt _) (.attempt _))) <|
  .seq (.onlyIf _ (.attempt _)) <| .seq (.onlyIf _ (.attempt _)) <|
  .seq (.onlyIf _ (.attempt _)) <| .seq (.onlyIf _ (.attempt _)) <|
  .seq (.onlyIf _ (.attempt _)) <| .seq (.onlyIf _ (.attempt _)) <|
  .seq (.onlyIf _ (.attempt _)) <| .seq (.onlyIf _ (.attempt _)) <|
  .seq (.onlyIf _ (.attempt _)) (.onlyIf _ (.attempt _))

def Store.drafted (store : Store) : Patch → Store
  | .clash patch =>
    { store with clash := store.clash.editDraft patch.patchConfig }
  | .verge patch _ =>
    { store with verge := store.verge.editDraft patch.patchConfig }

/-- The commit and the save at the end of a patch. -/
def Patch.finish (outcomes : Outcomes) : Patch → Update Unit
  | .clash _ => do
      changeClash .apply
      saveClashData outcomes
  | .verge _ notSaveFile => do
      changeVerge .apply
      onlyIf (!notSaveFile) (saveVergeData outcomes)

/-- A patch that fails in a step leaves its draft, and one that does not is
committed: the branch that discards the draft is never taken. -/
theorem Patch.on_update (platform : Platform) (patch : Patch) (store : Store) :
    (patch.update platform outcomes).on store =
      match (patch.steps platform).find? outcomes.fails with
      | some step => (.error (.step step), store.drafted patch)
      | none => (patch.finish outcomes).on (store.drafted patch) := by
  cases patch with
  | clash patch =>
    change (do
      activate outcomes patch
      Patch.finish outcomes (.clash patch)).on (store.drafted (.clash patch)) =
        _
    rw [Update.on_bind, runs_activate patch]
    cases found : (activateSteps patch).find? outcomes.fails with
    | none | some => rw [Patch.steps, found]
  | verge patch notSaveFile =>
    change (do
      processTerminatedFlags outcomes
        (determineUpdateFlags platform patch) patch
      Patch.finish outcomes (.verge patch notSaveFile)).on
        (store.drafted (.verge patch notSaveFile)) = _
    rw [Update.on_bind, runs_processTerminatedFlags _ patch]
    cases found : (flagSteps (determineUpdateFlags platform patch) patch).find?
      outcomes.fails with
    | none => rw [Patch.steps, found]
    | some step => rw [Patch.steps, found]

theorem Store.Agrees.drafted (agrees : left.Agrees right) (patch : Patch) :
    (left.drafted patch).Agrees (right.drafted patch) := by
  cases patch with
  | clash patch => exact { agrees with clash := agrees.clash.editDraft _ }
  | verge patch _ => exact { agrees with verge := agrees.verge.editDraft _ }

theorem Patch.uniform_finish (patch : Patch) :
    Uniform (patch.finish outcomes) := by
  cases patch with
  | clash patch =>
    exact .bind (uniform_changeClash Draft.Agrees.apply) fun _ =>
      uniform_saveClashData outcomes
  | verge patch notSaveFile =>
    exact .bind (uniform_changeVerge Draft.Agrees.apply) fun _ =>
      .onlyIf _ (uniform_saveVergeData outcomes)

theorem Patch.uniform_update (platform : Platform) (patch : Patch) :
    Uniform (patch.update platform outcomes) := by
  intro left right agrees
  rw [patch.on_update, patch.on_update]
  cases (patch.steps platform).find? outcomes.fails with
  | none => exact patch.uniform_finish _ _ (agrees.drafted patch)
  | some step => exact ⟨rfl, agrees.drafted patch⟩

theorem Operation.uniform_update (platform : Platform) (operation : Operation) :
    Uniform (operation.update platform outcomes) := by
  cases operation with
  | patch patch => exact patch.uniform_update platform
  | changeClashMode mode =>
    exact .bind (uniform_commitClash _) fun _ =>
      .logged (uniform_saveClashData outcomes)
  | saveWebdavConfig url username password =>
    exact .bind (uniform_commitVerge _) fun _ =>
      uniform_saveVergeData outcomes
  | changeCore clashCore =>
    apply Uniform.bind (uniform_commitVerge _)
    intro _
    apply uniform_reading (fun store => store.verge.latestArc) (fun verge => do
        saveFile outcomes verge
        attempt outcomes .updateConfigChecked)
      (fun agrees => agrees.verge.latest)
    intro verge
    exact .bind (uniform_saveFile outcomes verge) fun _ =>
      uniform_attempt outcomes _
  | disableTunMode =>
    apply Uniform.bind (uniform_commitVerge _)
    intro _
    exact uniform_reading (fun store => store.verge.latestArc)
      (fun verge => logged (saveFile outcomes verge))
      (fun agrees => agrees.verge.latest)
      fun verge => .logged (uniform_saveFile outcomes verge)
  | reloadConfigAfterFix verge => exact uniform_commitVerge _
  | restoreBackup clash verge =>
    apply Uniform.bind (uniform_saveFile outcomes verge)
    intro _
    apply Uniform.bind (uniform_commitClash _)
    intro _
    apply Uniform.bind (uniform_commitVerge _)
    intro _
    exact .logged (Patch.uniform_update platform (.verge verge true))
  | applyAllAndSaveFile =>
    apply Uniform.bind (uniform_changeClash Draft.Agrees.apply)
    intro _
    apply Uniform.bind (.logged (uniform_saveClashData outcomes))
    intro _
    exact .bind (uniform_changeVerge Draft.Agrees.apply) fun _ =>
      .logged (uniform_saveVergeData outcomes)

theorem Store.Agrees.after (agrees : left.Agrees right) (platform : Platform)
    (later : List (Operation × Outcomes)) :
    (left.after platform later).Agrees (right.after platform later) := by
  induction later generalizing left right with
  | nil => exact agrees
  | cons operation later ih =>
    exact ih (operation.1.uniform_update platform left right agrees).2

/-! ## Rejected patches -/

/-- Whatever happens later, the same is committed and saved as if the call
between the two stores had not been made. -/
def Withdrawn (platform : Platform) (before after : Store) : Prop :=
  ∀ later : List (Operation × Outcomes),
    (after.after platform later).clash.dataArc =
        (before.after platform later).clash.dataArc ∧
      (after.after platform later).verge.dataArc =
        (before.after platform later).verge.dataArc ∧
      (after.after platform later).clashFile =
        (before.after platform later).clashFile ∧
      (after.after platform later).vergeFile =
        (before.after platform later).vergeFile

/-- The patch sets only what the latest data of the configuration have. -/
def Patch.Repeats (store : Store) : Patch → Prop
  | .clash patch =>
    patch.patchConfig store.clash.latestArc = store.clash.latestArc
  | .verge patch _ =>
    patch.patchConfig store.verge.latestArc = store.verge.latestArc

private theorem withdrawn_drafted_of_repeats (platform : Platform)
    (repeats : patch.Repeats store) :
    Withdrawn platform store (store.drafted patch) := by
  have agrees : (store.drafted patch).Agrees store := by
    cases patch with
    | clash patch => exact ⟨⟨rfl, repeats⟩, ⟨rfl, rfl⟩, rfl, rfl⟩
    | verge patch _ => exact ⟨⟨rfl, rfl⟩, ⟨rfl, repeats⟩, rfl, rfl⟩
  intro later
  have agreed := agrees.after platform later
  exact ⟨agreed.clash.committed, agreed.verge.committed, agreed.clashFile,
    agreed.vergeFile⟩

private theorem after_applyAll (platform : Platform) (store : Store)
    (outcomes : Outcomes) :
    (store.after platform [(.applyAllAndSaveFile, outcomes)]).clash.dataArc =
        store.clash.latestArc ∧
      (store.after platform [(.applyAllAndSaveFile, outcomes)]).verge.dataArc =
        store.verge.latestArc := by
  rcases outcomes with ⟨fails, _ | _, _ | _⟩ <;>
    exact ⟨Draft.dataArc_apply _, Draft.dataArc_apply _⟩

private theorem repeats_of_withdrawn_drafted {platform : Platform}
    (withdrawn : Withdrawn platform store (store.drafted patch)) :
    patch.Repeats store := by
  obtain ⟨clash, verge, -, -⟩ :=
    withdrawn [(.applyAllAndSaveFile, ⟨fun _ => false, .saved, .saved⟩)]
  rw [(after_applyAll platform _ _).1, (after_applyAll platform _ _).1] at clash
  rw [(after_applyAll platform _ _).2, (after_applyAll platform _ _).2] at verge
  cases patch with
  | clash patch => exact clash
  | verge patch _ => exact verge

theorem Patch.finish_ne_step (patch : Patch) (store : Store) (step : Step) :
    ((patch.finish outcomes).on store).1 ≠ .error (.step step) := by
  rcases outcomes with ⟨fails, _ | _, _ | _⟩ <;>
    rcases patch with patch | ⟨patch, _ | _⟩ <;>
      exact nofun

/-- A patch that is rejected in a step is withdrawn if and only if no step
fails, or the patch sets nothing new. -/
theorem rejected_patch_withdrawn_iff (platform : Platform) (store : Store)
    (patch : Patch) (outcomes : Outcomes) :
    (∀ step after,
        (patch.update platform outcomes).on store =
            (.error (.step step), after) →
          Withdrawn platform store after) ↔
      (∀ step ∈ patch.steps platform, outcomes.fails step = false) ∨
        patch.Repeats store := by
  rw [patch.on_update]
  cases found : (patch.steps platform).find? outcomes.fails with
  | none =>
    have succeeds : ∀ step ∈ patch.steps platform, outcomes.fails step =
        false := by
      simpa using found
    refine iff_of_true ?_ (.inl succeeds)
    intro step after failed
    exact absurd (congrArg Prod.fst failed) (patch.finish_ne_step _ step)
  | some step =>
    have fails : ¬∀ step ∈ patch.steps platform, outcomes.fails step =
        false := by
      intro succeeds
      have absent := succeeds step (List.mem_of_find?_eq_some found)
      rw [List.find?_some found] at absent
      cases absent
    constructor
    · intro withdraws
      exact .inr (repeats_of_withdrawn_drafted (withdraws step _ rfl))
    · rintro (succeeds | repeats) failed after same
      · exact absurd succeeds fails
      · cases same
        exact withdrawn_drafted_of_repeats platform repeats

/-! ### A rejected secret -/

def emptyStore : Store where
  clash := .new fun _ => none
  verge := .new .default
  clashFile := none
  vergeFile := none

def secretPatch : Mapping
  | .string "secret" => some (.string "rejected")
  | _ => none

def secretStore : Store :=
  { emptyStore with clash := .new secretPatch }

/-- The core cannot be restarted, and the system proxy cannot be set. -/
def refusing : Outcomes where
  fails := fun step => step = .restartCore || step = .updateSysproxy
  saveClash := .saved
  saveVerge := .saved

def succeeding : Outcomes where
  fails := fun _ => false
  saveClash := .saved
  saveVerge := .saved

/-- The secret of a rejected patch is committed and saved by the next patch,
which sets the mode only.  A rejected switch of the system proxy is committed
by a change of the start page. -/
theorem rejected_patch_is_committed :
    (∃ after later,
        ((Patch.clash secretPatch).update .macos refusing).on emptyStore =
            (.error (.step .restartCore), after) ∧
          ((Patch.clash (modePatch "rule")).update .macos succeeding).on after =
            (.ok (), later) ∧
          later.clash.dataArc (.string "secret") = some (.string "rejected") ∧
          later.clashFile.bind (· (.string "secret")) =
            some (.string "rejected")) ∧
      ∃ after later,
        ((Patch.verge (IVerge.default.withField .enableSystemProxy true)
                  false).update
                .macos refusing).on
              emptyStore = (.error (.step .updateSysproxy), after) ∧
          ((Patch.verge (IVerge.default.withField .startPage "/rules")
                  false).update
                .macos succeeding).on
              after = (.ok (), later) ∧
          later.verge.dataArc .enableSystemProxy = some true :=
  ⟨⟨_, _, rfl, rfl, rfl, rfl⟩, ⟨_, _, rfl, rfl, rfl⟩⟩

/-- A rejected patch that repeats the secret leaves nothing behind. -/
theorem repeated_secret_is_withdrawn :
    ((Patch.clash secretPatch).update .macos refusing).on secretStore =
        (.error (.step .restartCore), secretStore.drafted
          (.clash secretPatch)) ∧
      Withdrawn .macos secretStore
        (secretStore.drafted (.clash secretPatch)) := by
  have repeats : (Patch.clash secretPatch).Repeats secretStore := by
    funext key
    change secretPatch.patchConfig secretPatch key = secretPatch key
    unfold Mapping.patchConfig
    split
    · next found => exact found.symm
    · rfl
  exact ⟨rfl, (rejected_patch_withdrawn_iff .macos secretStore
    (.clash secretPatch) refusing).2 (.inr repeats) _ _ rfl⟩

end KyClash.Configuration
