import KyClash.Networking.RouteOwner

/-!
# The journal record of a v3 route lease

`RouteLeaseReferenceV3` and `RouteLeaseJournalRecord` of
`networking/route_helper_v3.rs`: the ownership tuple that every v3 operation
names, and the record that moves along the interlock's states.
-/

namespace KyClash.Networking

theorem bind_eq_ok {ε α β : Type} {first : Except ε α} {next : α → Except ε β}
    {result : β} (done : first >>= next = .ok result) :
    ∃ value, first = .ok value ∧ next value = .ok result := by
  cases first with
  | error error => cases done
  | ok value => exact ⟨value, rfl, done⟩

structure RouteLeaseReferenceV3 where
  protocolVersion : UInt8
  brokerProtocolVersion : UInt8
  brokerGeneration : UInt64
  sidecarInstanceId : Utf8
  leaseId : Utf8
  operationId : Utf8
  deriving DecidableEq, Repr

namespace RouteLeaseReferenceV3

def fromOwner (owner : RouteLeaseOwnerV3) : RouteLeaseReferenceV3 where
  protocolVersion := owner.protocolVersion
  brokerProtocolVersion := owner.brokerProtocolVersion
  brokerGeneration := owner.brokerGeneration
  sidecarInstanceId := owner.sidecarInstanceId
  leaseId := owner.leaseId
  operationId := owner.operationId

def binding (reference : RouteLeaseReferenceV3) : RouteLeaseBinding where
  brokerProtocolVersion := reference.brokerProtocolVersion
  brokerGeneration := reference.brokerGeneration
  sidecarInstanceId := reference.sidecarInstanceId
  leaseId := reference.leaseId
  operationId := reference.operationId

def validate (reference : RouteLeaseReferenceV3) :
    Except RouteLeaseContractError Unit :=
  if reference.protocolVersion ≠ routeHelperV3ProtocolVersion then
    .error (if reference.protocolVersion = routeHelperProtocolVersion then
      .recoveryOnly else .unsupportedProtocolVersion)
  else
    reference.binding.validate

def matchesOwner (reference : RouteLeaseReferenceV3)
    (owner : RouteLeaseOwnerV3) : Except RouteLeaseContractError Unit := do
  reference.validate
  owner.validate
  if reference ≠ fromOwner owner then .error .ownershipMismatch
  else .ok ()

end RouteLeaseReferenceV3

inductive RouteLeaseJournalState where
  | holdPending
  | held
  | applied
  | retirementPending
  | released
  | recoveryOnly
  deriving DecidableEq, Repr

def validTransition : RouteLeaseJournalState → RouteLeaseJournalState → Bool
  | .holdPending, .held => true
  | .holdPending, .retirementPending => true
  | .held, .applied => true
  | .held, .retirementPending => true
  | .applied, .retirementPending => true
  | .retirementPending, .released => true
  | _, _ => false

structure RouteLeaseJournalRecord where
  protocolVersion : UInt8
  state : RouteLeaseJournalState
  transition : UInt64
  owner : RouteLeaseOwnerV3
  deriving DecidableEq, Repr

structure RouteLeaseTransition where
  protocolVersion : UInt8
  fromState : RouteLeaseJournalState
  toState : RouteLeaseJournalState
  transition : UInt64
  reference : RouteLeaseReferenceV3
  deriving DecidableEq, Repr

/-- `saturating_add` of one. -/
def saturatingSucc (number : UInt64) : UInt64 :=
  if number.toNat + 1 < UInt64.size then number + 1 else number

namespace RouteLeaseJournalRecord

/-- `RouteLeaseJournalRecord::hold_pending`. -/
def newHoldPending (owner : RouteLeaseOwnerV3) :
    Except RouteLeaseContractError RouteLeaseJournalRecord := do
  owner.validate
  return ⟨routeHelperV3ProtocolVersion, .holdPending, 1, owner⟩

/-- The numbers that a record in this state may have.  A retirement may start
before the hold was recorded or before the routes were. -/
def transitionShapeIsValid (record : RouteLeaseJournalRecord) : Bool :=
  match record.state with
  | .holdPending => record.transition = 1
  | .held => record.transition = 2
  | .applied => record.transition = 3
  | .retirementPending => 2 ≤ record.transition && record.transition ≤ 4
  | .released => 3 ≤ record.transition && record.transition ≤ 5
  | .recoveryOnly => false

def validate (record : RouteLeaseJournalRecord) :
    Except RouteLeaseContractError Unit :=
  if record.protocolVersion ≠ routeHelperV3ProtocolVersion then
    .error (if record.protocolVersion = routeHelperProtocolVersion then
      .recoveryOnly else .unsupportedProtocolVersion)
  else if record.transition = 0 then
    .error .invalidConfiguration
  else if record.state = .recoveryOnly then
    .error .recoveryOnly
  else if !record.transitionShapeIsValid then
    .error .replayDetected
  else
    record.owner.validate

def requireReference (record : RouteLeaseJournalRecord)
    (reference : RouteLeaseReferenceV3) :
    Except RouteLeaseContractError Unit := do
  record.validate
  reference.matchesOwner record.owner

def applyTransition (record : RouteLeaseJournalRecord)
    (event : RouteLeaseTransition) :
    Except RouteLeaseContractError RouteLeaseJournalRecord := do
  record.requireReference event.reference
  if event.protocolVersion ≠ routeHelperV3ProtocolVersion ∨
      event.fromState ≠ record.state ∨
      event.transition ≠ saturatingSucc record.transition then
    .error .replayDetected
  else if !validTransition record.state event.toState then
    .error (if record.state = event.toState then .replayDetected
      else .invalidStateTransition)
  else
    .ok ⟨record.protocolVersion, event.toState, event.transition, record.owner⟩

/-- `RouteLeaseJournalRecord::transition`. -/
def advance (record : RouteLeaseJournalRecord) (next : RouteLeaseJournalState)
    (reference : RouteLeaseReferenceV3) :
    Except RouteLeaseContractError RouteLeaseJournalRecord :=
  if record.transition.toNat + 1 < UInt64.size then
    record.applyTransition ⟨record.protocolVersion, record.state, next,
      record.transition + 1, reference⟩
  else
    .error .invalidStateTransition

theorem advance_ok {record after : RouteLeaseJournalRecord}
    {next : RouteLeaseJournalState} {reference : RouteLeaseReferenceV3}
    (advanced : record.advance next reference = .ok after) :
    after.state = next ∧ after.owner = record.owner ∧
      validTransition record.state next = true := by
  unfold advance at advanced
  split at advanced
  · unfold applyTransition at advanced
    obtain ⟨_, -, advanced⟩ := bind_eq_ok advanced
    split at advanced
    · cases advanced
    split at advanced
    · cases advanced
    · next allowed =>
      cases advanced
      exact ⟨rfl, rfl, by simpa using allowed⟩
  · cases advanced

end RouteLeaseJournalRecord

end KyClash.Networking
