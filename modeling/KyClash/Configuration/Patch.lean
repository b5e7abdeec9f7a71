import KyClash.Configuration.Draft
import KyClash.Configuration.Verge

/-!
# Patches of the application's configurations

`feat/config.rs`: a patch is written to the draft of a configuration, applied
to the core and to the system step by step, and then committed and saved.
Which steps fail is chosen from outside.  Calls that cannot fail and that
leave both configurations alone are left out, as is the draft of the runtime
configuration.

The other writers of the two drafts stand here too, since they commit
whatever the draft holds.
-/

namespace KyClash.Configuration

/-- A YAML value. -/
inductive Value where
  | null
  | bool (value : Bool)
  | number (text : String)
  | string (text : String)
  | sequence (items : List Value)
  | mapping (entries : List (Value × Value))
  | tagged (tag : String) (value : Value)

/-- A YAML mapping by what it holds under each key. -/
def Mapping := Value → Option Value

namespace Mapping

/-- `IClashTemp::patch_config` inserts every entry of the patch. -/
def patchConfig (patch config : Mapping) : Mapping :=
  fun key =>
    match patch key with
    | some value => some value
    | none => config key

def has (patch : Mapping) (name : String) : Bool :=
  (patch (.string name)).isSome

end Mapping

/-- The steps of applying a patch that can fail. -/
inductive Step where
  | generate
  | restartCore
  | updateConfigChecked
  | updateLaunch
  | updateSysproxy
  | updateHotkey
  | updateMenu
  | updateIcon
  | updateTooltip
  | updateClickBehavior
  | updateLogLevel
  | updateLogConfig
  deriving DecidableEq, Repr

inductive Failure where
  | step (step : Step)
  | save
  deriving DecidableEq, Repr

/-- A file is truncated before it is written, so that a failed save may leave
anything in it. -/
inductive Saving (T : Type) where
  | saved
  | failed (left : Option T)

/-- How the steps and the saves of one call end. -/
structure Outcomes where
  fails : Step → Bool
  saveClash : Saving Mapping
  saveVerge : Saving IVerge

structure Store where
  clash : Draft Mapping
  verge : Draft IVerge
  clashFile : Option Mapping
  vergeFile : Option IVerge

abbrev Update := ExceptT Failure (StateM Store)

section Calls

variable (outcomes : Outcomes)

def attempt (step : Step) : Update Unit :=
  if outcomes.fails step then throw (.step step) else pure ()

def onlyIf (condition : Bool) (calls : Update Unit) : Update Unit :=
  if condition then calls else pure ()

def changeClash (change : Draft Mapping → Draft Mapping) : Update Unit :=
  modify fun store => { store with clash := change store.clash }

def changeVerge (change : Draft IVerge → Draft IVerge) : Update Unit :=
  modify fun store => { store with verge := change store.verge }

def saveConfig (config : Mapping) : Update Unit :=
  match outcomes.saveClash with
  | .saved => modify fun store => { store with clashFile := some config }
  | .failed left => do
      modify fun store => { store with clashFile := left }
      throw .save

def saveFile (verge : IVerge) : Update Unit :=
  match outcomes.saveVerge with
  | .saved => modify fun store => { store with vergeFile := some verge }
  | .failed left => do
      modify fun store => { store with vergeFile := left }
      throw .save

def saveClashData : Update Unit := do
  let store ← get
  saveConfig outcomes store.clash.dataArc

def saveVergeData : Update Unit := do
  let store ← get
  saveFile outcomes store.verge.dataArc

def activate (patch : Mapping) : Update Unit :=
  if patch.has "secret" || patch.has "external-controller" then do
    attempt outcomes .generate
    attempt outcomes .restartCore
  else
    -- With or without `allow-lan`; the runtime draft and the tray are not
    -- modelled.
    attempt outcomes .updateConfigChecked

def patchClash (patch : Mapping) : Update Unit := do
  changeClash (·.editDraft patch.patchConfig)
  -- The block around the steps is a plain one, so that its `?` leave the
  -- whole function and the block itself is always `Ok`.
  activate outcomes patch
  let result : Except Failure Unit := .ok ()
  match result with
  | .ok () =>
    changeClash .apply
    saveClashData outcomes
  | .error failure =>
    changeClash .discard
    throw failure

def processTerminatedFlags (flags : UpdateFlags) (patch : IVerge) :
    Update Unit := do
  onlyIf (flags.contains .restartCore) do
    attempt outcomes .generate
    attempt outcomes .restartCore
  onlyIf (flags.contains .clashConfig) (attempt outcomes .updateConfigChecked)
  onlyIf (flags.contains .launch) (attempt outcomes .updateLaunch)
  onlyIf (flags.contains .sysProxy) (attempt outcomes .updateSysproxy)
  onlyIf (flags.contains .hotkey && patch.sets .hotkeys)
    (attempt outcomes .updateHotkey)
  onlyIf (flags.contains .systrayMenu) (attempt outcomes .updateMenu)
  onlyIf (flags.contains .systrayIcon) (attempt outcomes .updateIcon)
  onlyIf (flags.contains .systrayTooltip) (attempt outcomes .updateTooltip)
  onlyIf (flags.contains .systrayClickBehavior)
    (attempt outcomes .updateClickBehavior)
  onlyIf (flags.contains .logLevel) (attempt outcomes .updateLogLevel)
  onlyIf (flags.contains .logFile) (attempt outcomes .updateLogConfig)

def patchVerge (platform : Platform) (patch : IVerge) (notSaveFile : Bool) :
    Update Unit := do
  changeVerge (·.editDraft patch.patchConfig)
  -- A plain block again.
  processTerminatedFlags outcomes (determineUpdateFlags platform patch) patch
  let result : Except Failure Unit := .ok ()
  match result with
  | .ok () =>
    changeVerge .apply
    onlyIf (!notSaveFile) (saveVergeData outcomes)
  | .error failure =>
    changeVerge .discard
    throw failure

end Calls

/-- Run an update whose failure is only logged. -/
def logged (update : Update Unit) : Update Unit :=
  ExceptT.mk do
    let _ ← update.run
    return .ok ()

section Writers

variable (outcomes : Outcomes)

def commitClash (edit : Mapping → Mapping) : Update Unit := do
  changeClash (·.editDraft edit)
  changeClash .apply

def commitVerge (edit : IVerge → IVerge) : Update Unit := do
  changeVerge (·.editDraft edit)
  changeVerge .apply

def modePatch (mode : String) : Mapping
  | .string "mode" => some (.string mode)
  | _ => none

/-- `change_clash_mode` after the core has taken the mode. -/
def changeClashMode (mode : String) : Update Unit := do
  commitClash (modePatch mode).patchConfig
  logged (saveClashData outcomes)

def saveWebdavConfig (url username password : String) : Update Unit := do
  commitVerge
    (IVerge.patchConfig (((IVerge.default.withField .webdavUrl url).withField
      .webdavUsername username).withField .webdavPassword password))
  saveVergeData outcomes

/-- `change_core` with one of the valid cores. -/
def changeCore (clashCore : String) : Update Unit := do
  commitVerge (·.withField .clashCore clashCore)
  let store ← get
  saveFile outcomes store.verge.latestArc
  attempt outcomes .updateConfigChecked

/-- The part of `init_config_before_window` without privileges. -/
def disableTunMode : Update Unit := do
  commitVerge (·.withField .enableTunMode false)
  let store ← get
  logged (saveFile outcomes store.verge.latestArc)

/-- The end of a restored backup, with what was read from its files. -/
def restoreBackup (platform : Platform) (clash : Mapping) (verge : IVerge) :
    Update Unit := do
  saveFile outcomes verge
  commitClash fun _ => clash
  commitVerge fun _ => verge
  logged (patchVerge outcomes platform verge true)

def applyAllAndSaveFile : Update Unit := do
  changeClash .apply
  logged (saveClashData outcomes)
  changeVerge .apply
  logged (saveVergeData outcomes)

end Writers

inductive Patch where
  | clash (patch : Mapping)
  | verge (patch : IVerge) (notSaveFile : Bool)

inductive Operation where
  | patch (request : Patch)
  | changeClashMode (mode : String)
  | saveWebdavConfig (url username password : String)
  | changeCore (clashCore : String)
  | disableTunMode
  | reloadConfigAfterFix (verge : IVerge)
  | restoreBackup (clash : Mapping) (verge : IVerge)
  | applyAllAndSaveFile

def Patch.update (platform : Platform) (outcomes : Outcomes) :
    Patch → Update Unit
  | .clash patch => patchClash outcomes patch
  | .verge patch notSaveFile => patchVerge outcomes platform patch notSaveFile

def Operation.update (platform : Platform) (outcomes : Outcomes) :
    Operation → Update Unit
  | .patch request => request.update platform outcomes
  | .changeClashMode mode => Configuration.changeClashMode outcomes mode
  | .saveWebdavConfig url username password =>
    Configuration.saveWebdavConfig outcomes url username password
  | .changeCore clashCore => Configuration.changeCore outcomes clashCore
  | .disableTunMode => Configuration.disableTunMode outcomes
  | .reloadConfigAfterFix verge => commitVerge fun _ => verge
  | .restoreBackup clash verge =>
    Configuration.restoreBackup outcomes platform clash verge
  | .applyAllAndSaveFile => Configuration.applyAllAndSaveFile outcomes

/-- Run an update to its result. -/
def Update.on {α : Type} (update : Update α) (store : Store) :
    Except Failure α × Store :=
  update.run.run store

/-- The store after the operations, each with the ends of its calls. -/
def Store.after (platform : Platform) (store : Store) :
    List (Operation × Outcomes) → Store
  | [] => store
  | (operation, outcomes) :: later =>
    ((operation.update platform outcomes).on store).2.after platform later

end KyClash.Configuration
