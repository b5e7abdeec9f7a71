import KyClash.Commands.Catalog

/-!
# The commands of production networking

`cmd/networking_production.rs`: the commands that initialise the policy,
select a variant, connect, cancel and disconnect.  Each holds the
materialisation mutex from its start to its end, so that one runs at a time;
a command whose caller is gone stops where it is and frees the mutex.

The cells of the command state are written by single actions, so that such a
stop may come between any two of them.
-/

namespace KyClash.Commands

open Program
open Production (ProductionConnectReservation
  ProductionServiceRetirementReceipt ProductionServiceRetirementResult)

variable {Profile : Type}

structure ProductionPolicyCatalogView where
  selectedCatalogID : Option String
  variants : List ProductionPolicyVariantSummary
  deriving DecidableEq, Repr

def ProductionPolicyCatalogView.fromVerified
    (variants : List VerifiedProductionPolicyVariant)
    (selected : Option VerifiedProductionPolicyVariant) :
    Except NetworkErrorCode ProductionPolicyCatalogView :=
  let view : ProductionPolicyCatalogView := {
    selectedCatalogID := selected.map (·.summary.catalogID)
    variants := variants.map (·.summary) }
  match selected with
  | none => .ok view
  | some selected =>
    match variants.find? (·.summary.catalogID = selected.summary.catalogID) with
    | none => .error .policySignatureInvalid
    | some current =>
      if current ≠ selected then
        .error .policySignatureInvalid
      else
        .ok view

structure ConnectTarget (Profile : Type) where
  service : BuiltService Profile
  reservation : ProductionConnectReservation

def getCatalogProvider : Cmd Profile Bool :=
  always (Prog.perform Act.getCatalogProvider)

def getService : Cmd Profile (Option (BuiltService Profile)) :=
  always (Prog.perform Act.getService)

def getFactory : Cmd Profile (Option (Factory Profile)) :=
  always (Prog.perform Act.getFactory)

def getSelectedVariant : Cmd Profile (Option VerifiedProductionPolicyVariant) :=
  always (Prog.perform Act.getSelectedVariant)

def setFactory (factory : Factory Profile) : Cmd Profile Unit :=
  always (Prog.perform (Act.setFactory factory))

def setSelectedVariant (variant : VerifiedProductionPolicyVariant) :
    Cmd Profile Unit :=
  always (Prog.perform (Act.setSelectedVariant variant))

def installIfEmpty (service : BuiltService Profile) : Cmd Profile Bool :=
  always (Prog.perform (Act.installIfEmpty service))

def compareRemoveService (service : BuiltService Profile) : Cmd Profile Bool :=
  always (Prog.perform (Act.removeIfSame service))

def disposition (service : BuiltService Profile) :
    Cmd Profile ProductionServiceDispositionKind :=
  always (Prog.perform (Act.disposition service))

def status (service : BuiltService Profile) : Cmd Profile ServiceStatus :=
  always (Prog.perform (Act.status service))

def tryRetire (service : BuiltService Profile) :
    Cmd Profile ProductionServiceRetirementResult :=
  always (Prog.perform (Act.tryRetire service))

def reserveConnect (service : BuiltService Profile) :
    Cmd Profile ProductionConnectReservation :=
  attempt (Prog.perform (Act.reserveConnect service))

def abandon (service : BuiltService Profile)
    (reservation : ProductionConnectReservation) : Cmd Profile Unit :=
  always (Prog.perform (Act.abandon service reservation))

def build (factory : Factory Profile) : Cmd Profile (BuiltService Profile) :=
  attempt (Prog.perform (Act.build factory))

def recordRetirement (receipt : ProductionServiceRetirementReceipt)
    (primaryError : Option NetworkErrorCode) : Cmd Profile Unit :=
  always (Prog.perform (Act.recordRetirement receipt primaryError))

def recordSecondaryError (generation : Nat) (error : NetworkErrorCode) :
    Cmd Profile Unit :=
  always (Prog.perform (Act.recordSecondaryError generation error))

/-- The error of a service that was never published. -/
def closeUnpublishedService (service : BuiltService Profile)
    (error : NetworkErrorCode) : Cmd Profile NetworkErrorCode := do
  match ← tryRetire service with
  | .retired _ => return error
  | .alreadyRetired => return error
  | .busy => return .invalidStateTransition
  | .recoveryOnly => return .invalidStateTransition

/-- The service with its receipt is taken out of its slot. -/
def removeRetired (service : BuiltService Profile)
    (receipt : ProductionServiceRetirementReceipt)
    (primaryError : Option NetworkErrorCode) : Cmd Profile Unit := do
  recordRetirement receipt primaryError
  if ← compareRemoveService service then
    return ()
  else
    recordSecondaryError service.generation .invalidStateTransition
    throw .invalidStateTransition

/-- Close a candidate that was not published, and fail. -/
def discard {α : Type} (candidate : BuiltService Profile)
    (error : NetworkErrorCode) : Cmd Profile α := do
  let error ← closeUnpublishedService candidate error
  throw error

/-- The outcome of a reservation, which may be an error. -/
def tryReserveConnect (service : BuiltService Profile) :
    Cmd Profile (Except NetworkErrorCode ProductionConnectReservation) :=
  always (Prog.perform (Act.reserveConnect service))

def buildInstallReservedLocked : Cmd Profile (ConnectTarget Profile) := do
  match ← getFactory with
  | none => throw .invalidConfiguration
  | some factory =>
    let candidate ← build factory
    match ← tryReserveConnect candidate with
    | .error error => discard candidate error
    | .ok reservation =>
      if ← installIfEmpty candidate then
        return { service := candidate, reservation }
      else
        abandon candidate reservation
        discard candidate .invalidStateTransition

/-- A replacement whose error is kept with the retired generation. -/
def replaceRetired (generation : Nat) : Cmd Profile (ConnectTarget Profile) :=
  ExceptT.mk do
    match ← buildInstallReservedLocked.run with
    | .ok target => return .ok target
    | .error error =>
      let _ ← (recordSecondaryError generation error : Cmd Profile Unit).run
      return .error error

/-- The generation is the service's own, which never changes. -/
def rematerializeTerminalLocked (service : BuiltService Profile) :
    Cmd Profile (ConnectTarget Profile) := do
  let primary ← status service
  match ← tryRetire service with
  | .retired receipt =>
    removeRetired service receipt primary.lastError
    replaceRetired service.generation
  | .busy => throw .invalidStateTransition
  | .recoveryOnly => throw .invalidStateTransition
  | .alreadyRetired => throw .invalidStateTransition

def configureFactoryLocked (factory : Factory Profile) : Cmd Profile Unit := do
  match ← getService with
  | some _ => throw .invalidStateTransition
  | none =>
    match ← getFactory with
    | some _ => throw .invalidStateTransition
    | none => setFactory factory

/-- The first part of `initialize`. -/
def configurePolicy (codec : CatalogCodec Profile) : Cmd Profile Unit := do
  match ← getFactory with
  | some _ => return ()
  | none =>
    if ← getCatalogProvider then
      let prepared ← preparePolicyVariant codec baseVariantID none
      setSelectedVariant prepared.selected
      configureFactoryLocked prepared.factory
    else
      let factory ← attempt (Prog.perform Act.initializeProvider)
      configureFactoryLocked factory

def statusSnapshot : Cmd Profile ServiceStatus := do
  match ← getService with
  | some service => status service
  | none =>
    match ← getFactory with
    | none => throw .invalidConfiguration
    | some _ => return { state := .disconnected, lastError := none }

/-- `initialize`. -/
def initializeNetworking (codec : CatalogCodec Profile) :
    Cmd Profile ServiceStatus := do
  configurePolicy codec
  statusSnapshot

/-- Retire the service of the old variant and empty its slot. -/
def retireSelected (service : BuiltService Profile) : Cmd Profile Unit := do
  match ← tryRetire service with
  | .retired receipt =>
    let current ← status service
    removeRetired service receipt current.lastError
  | .alreadyRetired => throw .invalidStateTransition
  | .busy => throw .invalidStateTransition
  | .recoveryOnly => throw .invalidStateTransition

def engaged (service : Option (BuiltService Profile)) : Cmd Profile Bool :=
  match service with
  | none => return false
  | some service => do
      let current ← status service
      return current.state ≠ .disconnected

def retireCurrent (service : Option (BuiltService Profile)) :
    Cmd Profile Unit :=
  match service with
  | none => return ()
  | some service => retireSelected service

def prepareSelection (codec : CatalogCodec Profile) (catalogID : String) :
    Cmd Profile (PreparedProductionPolicyVariant Profile) := do
  if ← getCatalogProvider then
    preparePolicyVariant codec catalogID none
  else
    throw .invalidConfiguration

def selectPolicyVariant (codec : CatalogCodec Profile) (catalogID : String) :
    Cmd Profile ProductionPolicyCatalogView := do
  let current ← getService
  if ← engaged current then
    throw .invalidStateTransition
  else
    let prepared ← prepareSelection codec catalogID
    retireCurrent current
    setFactory prepared.factory
    setSelectedVariant prepared.selected
    check (ProductionPolicyCatalogView.fromVerified prepared.variants
      (some prepared.selected))

/-- The verification at the start of a connection. -/
def refreshFactory (codec : CatalogCodec Profile) : Cmd Profile Unit := do
  if ← getCatalogProvider then
    match ← getSelectedVariant with
    | none => throw .invalidConfiguration
    | some selected =>
      let prepared ← preparePolicyVariant codec selected.summary.catalogID
        (some selected)
      setFactory prepared.factory
  else
    return ()

def reserveReusable (service : BuiltService Profile) :
    Cmd Profile (ConnectTarget Profile) := do
  let reservation ← reserveConnect service
  return { service, reservation }

def admitConnect : Cmd Profile (ConnectTarget Profile) := do
  match ← getService with
  | none => buildInstallReservedLocked
  | some service =>
    match ← disposition service with
    | .reusable => reserveReusable service
    | .terminalCandidate => rematerializeTerminalLocked service
    | .busy => throw .invalidStateTransition
    | .recoveryOnly => throw .invalidStateTransition
    | .retired => throw .invalidStateTransition

def serviceForConnect (codec : CatalogCodec Profile) :
    Cmd Profile (ConnectTarget Profile) := do
  refreshFactory codec
  admitConnect

def cancelExact (operationID : String) : Cmd Profile Unit := do
  match ← getService with
  | none => throw .invalidConfiguration
  | some service =>
    match ← disposition service with
    | .retired => throw .invalidStateTransition
    | _ => attempt (Prog.perform (Act.cancel service operationID))

def disconnectExact (operationID : String) : Cmd Profile ServiceStatus := do
  match ← getService with
  | none => throw .invalidConfiguration
  | some service =>
    match ← disposition service with
    | .retired => throw .invalidStateTransition
    | _ => attempt (Prog.perform (Act.disconnect service operationID))

inductive Command where
  | initializeNetworking
  | select (catalogID : String)
  | connect
  | cancel (operationID : String)
  | disconnect (operationID : String)
  deriving DecidableEq, Repr

/-- What a command runs while it holds the mutex; results are dropped. -/
def Command.program (codec : CatalogCodec Profile) : Command → Cmd Profile Unit
  | .initializeNetworking => do
      let _ ← Commands.initializeNetworking codec
      return ()
  | .select catalogID => do
      let _ ← selectPolicyVariant codec catalogID
      return ()
  | .connect => do
      let _ ← serviceForConnect codec
      return ()
  | .cancel operationID => cancelExact operationID
  | .disconnect operationID => do
      let _ ← disconnectExact operationID
      return ()

end KyClash.Commands
