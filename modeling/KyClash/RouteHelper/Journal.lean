import KyClash.TunnelBroker.Lease

/-!
# The durable journal of the v3 route helper

The ownership tuple, the lease owner and `RouteJournalV3` of
`route-helper/main.swift`, with their validity checks and transitions.

How a CIDR text is parsed is a parameter (`RouteRules`): the journal only asks
whether a text is valid, which family it has and whether two overlap.
-/

namespace KyClash.RouteHelper

open TunnelBroker (Identifier validIdentifier int64Max
  routeHelperV3ProtocolVersion routeBrokerProtocolVersion)

/-- Texts, as their UTF-8 bytes. -/
abbrev Text := List UInt8

def maximumMihomoInterfaces : Nat := 1
def maximumDarwinInterfaceBytes : Nat := 15

/-- What the helper asks about CIDR texts.  `ipv4` is the family of a parsed
network, and `overlap` is `networksOverlap` on two parsed texts. -/
structure RouteRules where
  validCIDR : Text → Bool
  ipv4 : Text → Option Bool
  overlap : Text → Text → Bool

structure LeaseReferenceV3 where
  protocolVersion : UInt8
  brokerProtocolVersion : UInt8
  brokerGeneration : UInt64
  sidecarInstanceID : Identifier
  leaseID : Identifier
  operationID : Identifier
  deriving DecidableEq, Repr

def LeaseReferenceV3.isValid (reference : LeaseReferenceV3) : Bool :=
  reference.protocolVersion = routeHelperV3ProtocolVersion &&
    reference.brokerProtocolVersion = routeBrokerProtocolVersion &&
    0 < reference.brokerGeneration &&
    reference.brokerGeneration ≤ int64Max &&
    validIdentifier reference.sidecarInstanceID &&
    validIdentifier reference.leaseID &&
    validIdentifier reference.operationID

/-- "utun" followed by a decimal number without a leading zero. -/
def validUtunInterface (value : Text) : Bool :=
  let suffix := value.drop 4
  5 ≤ value.length && value.length ≤ maximumDarwinInterfaceBytes &&
    value.take 4 = [117, 116, 117, 110] &&
    suffix.all (fun byte => 48 ≤ byte && byte ≤ 57) &&
    (suffix.length = 1 || suffix.head? ≠ some 48)

def prepareSuffix : Text := [46, 112, 114, 101, 112, 97, 114, 101]

structure LeaseOwnerV3 where
  reference : LeaseReferenceV3
  sidecarInstanceID : Identifier
  interfaceName : Text
  tunnelOperationID : Text
  mtu : UInt16
  profileRevision : UInt64
  hasIPv4 : Bool
  hasIPv6 : Bool
  activeMihomoTunInterfaces : List Text
  privateCIDRs : List Text
  deriving DecidableEq, Repr

variable (rules : RouteRules)

/-- Later texts are compared only while every text parses. -/
def privateCIDRsAreDisjoint : List Text → Bool
  | [] => true
  | cidr :: rest =>
    (rules.ipv4 cidr).isSome && rest.all (fun other =>
        (rules.ipv4 other).isSome && !rules.overlap cidr other) &&
      privateCIDRsAreDisjoint rest

def LeaseOwnerV3.isValid (owner : LeaseOwnerV3) : Bool :=
  owner.reference.isValid && owner.sidecarInstanceID =
    owner.reference.sidecarInstanceID &&
    validUtunInterface owner.interfaceName &&
    owner.tunnelOperationID = owner.reference.operationID ++ prepareSuffix &&
    owner.mtu = 1420 &&
    0 < owner.profileRevision && owner.profileRevision ≤ int64Max &&
    owner.activeMihomoTunInterfaces.length ≤ maximumMihomoInterfaces &&
    owner.activeMihomoTunInterfaces.Nodup &&
    owner.activeMihomoTunInterfaces.Pairwise (· ≤ ·) &&
    owner.activeMihomoTunInterfaces.all validUtunInterface &&
    !owner.activeMihomoTunInterfaces.contains owner.interfaceName &&
    !owner.privateCIDRs.isEmpty && owner.privateCIDRs.length ≤ 64 &&
    owner.privateCIDRs.Nodup &&
    owner.privateCIDRs.all rules.validCIDR &&
    owner.privateCIDRs.all (fun cidr =>
      match rules.ipv4 cidr with
      | none => false
      | some true => owner.hasIPv4
      | some false => owner.hasIPv6) &&
    privateCIDRsAreDisjoint rules owner.privateCIDRs

/-- The owner as the journal keeps it, with one sidecar identity. -/
structure JournalOwnerV3 where
  protocolVersion : UInt8
  brokerProtocolVersion : UInt8
  brokerGeneration : UInt64
  sidecarInstanceID : Identifier
  leaseID : Identifier
  operationID : Identifier
  interfaceName : Text
  tunnelOperationID : Text
  mtu : UInt16
  profileRevision : UInt64
  hasIPv4 : Bool
  hasIPv6 : Bool
  activeMihomoTunInterfaces : List Text
  privateCIDRs : List Text
  deriving DecidableEq, Repr

namespace JournalOwnerV3

/-- The identity is the owner's own, not the one of its reference. -/
def ofOwner (owner : LeaseOwnerV3) : JournalOwnerV3 where
  protocolVersion := owner.reference.protocolVersion
  brokerProtocolVersion := owner.reference.brokerProtocolVersion
  brokerGeneration := owner.reference.brokerGeneration
  sidecarInstanceID := owner.sidecarInstanceID
  leaseID := owner.reference.leaseID
  operationID := owner.reference.operationID
  interfaceName := owner.interfaceName
  tunnelOperationID := owner.tunnelOperationID
  mtu := owner.mtu
  profileRevision := owner.profileRevision
  hasIPv4 := owner.hasIPv4
  hasIPv6 := owner.hasIPv6
  activeMihomoTunInterfaces := owner.activeMihomoTunInterfaces
  privateCIDRs := owner.privateCIDRs

def reference (owner : JournalOwnerV3) : LeaseReferenceV3 where
  protocolVersion := owner.protocolVersion
  brokerProtocolVersion := owner.brokerProtocolVersion
  brokerGeneration := owner.brokerGeneration
  sidecarInstanceID := owner.sidecarInstanceID
  leaseID := owner.leaseID
  operationID := owner.operationID

def asOwner (owner : JournalOwnerV3) : LeaseOwnerV3 where
  reference := owner.reference
  sidecarInstanceID := owner.sidecarInstanceID
  interfaceName := owner.interfaceName
  tunnelOperationID := owner.tunnelOperationID
  mtu := owner.mtu
  profileRevision := owner.profileRevision
  hasIPv4 := owner.hasIPv4
  hasIPv6 := owner.hasIPv6
  activeMihomoTunInterfaces := owner.activeMihomoTunInterfaces
  privateCIDRs := owner.privateCIDRs

def isValid (owner : JournalOwnerV3) : Bool :=
  owner.asOwner.isValid rules

end JournalOwnerV3

inductive RouteJournalStateV3 where
  | holdPending
  | held
  | applied
  | retirementPending
  | released
  deriving DecidableEq, Repr

structure RouteJournalV3 where
  version : UInt8
  state : RouteJournalStateV3
  transition : UInt64
  owner : JournalOwnerV3
  pendingCIDR : Option Text
  appliedCIDRs : List Text
  deriving DecidableEq, Repr

def isValidTransitionV3 : RouteJournalStateV3 → RouteJournalStateV3 → Bool
  | .holdPending, .held => true
  | .holdPending, .retirementPending => true
  | .held, .applied => true
  | .held, .retirementPending => true
  | .applied, .retirementPending => true
  | .retirementPending, .released => true
  | _, _ => false

inductive RouteJournalTransitionError where
  | ownershipMismatch
  | invalidStateTransition
  deriving DecidableEq, Repr

namespace RouteJournalV3

def holdPending (owner : LeaseOwnerV3) : RouteJournalV3 where
  version := routeHelperV3ProtocolVersion
  state := .holdPending
  transition := 1
  owner := .ofOwner owner
  pendingCIDR := none
  appliedCIDRs := []

/-- The last `switch` of `isValid`. -/
def stateIsValid (journal : RouteJournalV3) : Bool :=
  match journal.state with
  | .holdPending =>
    journal.transition = 1 && journal.pendingCIDR.isNone &&
      journal.appliedCIDRs.isEmpty
  | .held => journal.transition = 2
  | .applied => journal.transition = 3
  | .retirementPending =>
    2 ≤ journal.transition && journal.transition ≤ 4 &&
      journal.pendingCIDR.isNone && journal.appliedCIDRs.isEmpty
  | .released =>
    3 ≤ journal.transition && journal.transition ≤ 5 &&
      journal.pendingCIDR.isNone && journal.appliedCIDRs.isEmpty

def isValid (journal : RouteJournalV3) : Bool :=
  journal.version = routeHelperV3ProtocolVersion && 0 < journal.transition &&
    journal.owner.isValid rules && journal.appliedCIDRs.Nodup &&
    journal.appliedCIDRs.length ≤ journal.owner.privateCIDRs.length &&
    journal.appliedCIDRs.all rules.validCIDR &&
    journal.appliedCIDRs.all (journal.owner.privateCIDRs.contains ·) &&
    journal.pendingCIDR.all
      (fun cidr => rules.validCIDR cidr &&
        journal.owner.privateCIDRs.contains cidr) &&
    journal.pendingCIDR.all
      (fun cidr => journal.state = .held || journal.state = .applied ||
        !journal.appliedCIDRs.contains cidr) &&
    journal.stateIsValid

def reference (journal : RouteJournalV3) : LeaseReferenceV3 :=
  journal.owner.reference

def requireReference (journal : RouteJournalV3) (reference : LeaseReferenceV3) :
    Except RouteJournalTransitionError Unit :=
  if journal.isValid rules && reference.isValid &&
      reference = journal.reference then
    .ok ()
  else
    .error .ownershipMismatch

/-- The record of the next state; retiring forgets every route. -/
def advanced (journal : RouteJournalV3) (next : RouteJournalStateV3) :
    RouteJournalV3 :=
  let forgets := next = .retirementPending ∨ next = .released
  { journal with
    state := next
    transition := journal.transition + 1
    pendingCIDR := if forgets then none else journal.pendingCIDR
    appliedCIDRs := if forgets then [] else journal.appliedCIDRs }

def transitioned (journal : RouteJournalV3) (next : RouteJournalStateV3)
    (reference : LeaseReferenceV3) :
    Except RouteJournalTransitionError RouteJournalV3 := do
  journal.requireReference rules reference
  if journal.transition.toNat + 1 < UInt64.size ∧
      isValidTransitionV3 journal.state next ∧ journal.state ≠ .released ∧
      (journal.advanced next).isValid rules then
    return journal.advanced next
  else
    throw .invalidStateTransition

/-- The routes the record speaks for. -/
def listed (journal : RouteJournalV3) : List Text :=
  journal.appliedCIDRs ++ journal.pendingCIDR.toList

variable {rules}

theorem transitioned_eq_ok {journal result : RouteJournalV3}
    {next : RouteJournalStateV3} {reference : LeaseReferenceV3}
    (accepted : journal.transitioned rules next reference = .ok result) :
    result = journal.advanced next ∧ result.isValid rules = true ∧
      reference = journal.reference := by
  unfold transitioned requireReference at accepted
  split at accepted
  · next required =>
    change (if _ then _ else _) = _ at accepted
    split at accepted
    · next allowed =>
      obtain rfl : journal.advanced next = result := Except.ok.inj accepted
      simp only [Bool.and_eq_true, decide_eq_true_eq] at required
      exact ⟨rfl, allowed.2.2.2, required.2⟩
    · cases accepted
  · cases accepted

end RouteJournalV3

end KyClash.RouteHelper
