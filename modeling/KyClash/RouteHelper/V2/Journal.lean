import KyClash.RouteHelper.Networks

/-!
# The journal file of the v2 route coordinator

`RouteCoordinator` keeps one journal file.  The helper writes `RouteJournal`
records; a `LegacyRouteJournal` left by an older helper is only rolled back.
The two schemas share their progress fields: the routes that are applied and
the one route that is being added or deleted.
-/

namespace KyClash.RouteHelper.V2

open TunnelBroker (Identifier validIdentifier int64Max)

def legacyProtocolVersion : UInt8 := 1

/-- What names a lease in every schema. -/
structure Lease where
  leaseID : Identifier
  operationID : Identifier
  deriving DecidableEq, Repr

def leaseOf (reference : LeaseReference) : Lease :=
  ⟨reference.leaseID, reference.operationID⟩

/-- An exact route on a tunnel interface. -/
structure Route where
  cidr : Text
  interfaceName : Text
  deriving DecidableEq, Repr

structure JournalOwner where
  protocolVersion : UInt8
  leaseID : Identifier
  operationID : Identifier
  sidecarInstanceID : Identifier
  interfaceName : Text
  tunnelOperationID : Text
  mtu : UInt16
  profileRevision : UInt64
  hasIPv4 : Bool
  hasIPv6 : Bool
  activeMihomoTunInterfaces : List Text
  privateCIDRs : List Text
  deriving DecidableEq, Repr

def JournalOwner.ofOwner (owner : LeaseOwner) : JournalOwner where
  protocolVersion := owner.reference.version
  leaseID := owner.reference.leaseID
  operationID := owner.reference.operationID
  sidecarInstanceID := owner.sidecarInstanceID
  interfaceName := owner.interfaceName
  tunnelOperationID := owner.tunnelOperationID
  mtu := owner.mtu
  profileRevision := owner.profileRevision
  hasIPv4 := owner.hasIPv4
  hasIPv6 := owner.hasIPv6
  activeMihomoTunInterfaces := owner.activeMihomoTunInterfaces
  privateCIDRs := owner.privateCIDRs

/-- The owner that the journal's owner is checked as. -/
def JournalOwner.owner (owner : JournalOwner) : LeaseOwner where
  reference := ⟨owner.protocolVersion, owner.leaseID, owner.operationID⟩
  sidecarInstanceID := owner.sidecarInstanceID
  interfaceName := owner.interfaceName
  tunnelOperationID := owner.tunnelOperationID
  mtu := owner.mtu
  profileRevision := owner.profileRevision
  hasIPv4 := owner.hasIPv4
  hasIPv6 := owner.hasIPv6
  activeMihomoTunInterfaces := owner.activeMihomoTunInterfaces
  privateCIDRs := owner.privateCIDRs

/-- The owner of a journal of the first version, without the families and the
trusted interfaces. -/
structure LegacyJournalOwner where
  leaseID : Identifier
  operationID : Identifier
  sidecarInstanceID : Identifier
  interfaceName : Text
  tunnelOperationID : Text
  mtu : UInt16
  profileRevision : UInt64
  privateCIDRs : List Text
  deriving DecidableEq, Repr

structure Journal (Owner : Type) where
  version : UInt8
  owner : Owner
  pendingCIDR : Option Text
  appliedCIDRs : List Text
  deriving DecidableEq, Repr

abbrev RouteJournal := Journal JournalOwner

abbrev LegacyRouteJournal := Journal LegacyJournalOwner

section Validity

variable (rules : RouteRules)

def JournalOwner.isValid (owner : JournalOwner) : Bool :=
  owner.protocolVersion = RouteHelper.protocolVersion &&
    owner.owner.isValid rules

def LegacyJournalOwner.isValid (owner : LegacyJournalOwner) : Bool :=
  validIdentifier owner.leaseID && validIdentifier owner.operationID &&
    validIdentifier owner.sidecarInstanceID &&
    validUtunInterface owner.interfaceName &&
    owner.tunnelOperationID = owner.operationID ++ prepareSuffix &&
    owner.mtu = 1420 &&
    0 < owner.profileRevision && owner.profileRevision ≤ int64Max &&
    !owner.privateCIDRs.isEmpty && owner.privateCIDRs.length ≤ 64 &&
    owner.privateCIDRs.Nodup &&
    owner.privateCIDRs.all rules.validCIDR &&
    privateCIDRsAreDisjoint rules owner.privateCIDRs

/-- The checks of the progress fields that both schemas make. -/
def Journal.progressIsValid {Owner : Type} (journal : Journal Owner)
    (privateCIDRs : List Text) : Bool :=
  journal.appliedCIDRs.Nodup &&
    journal.appliedCIDRs.length ≤ privateCIDRs.length &&
    journal.appliedCIDRs.all rules.validCIDR &&
    journal.appliedCIDRs.all privateCIDRs.contains &&
    journal.pendingCIDR.all
      (fun cidr => rules.validCIDR cidr && privateCIDRs.contains cidr)

def RouteJournal.isValid (journal : RouteJournal) : Bool :=
  journal.version = protocolVersion && journal.owner.isValid rules &&
    journal.progressIsValid rules journal.owner.privateCIDRs &&
    journal.pendingCIDR.all (fun cidr => !journal.appliedCIDRs.contains cidr)

/-- A crash of the first version could leave the pending route among the
applied ones. -/
def LegacyRouteJournal.isValid (journal : LegacyRouteJournal) : Bool :=
  journal.version = legacyProtocolVersion && journal.owner.isValid rules &&
    journal.progressIsValid rules journal.owner.privateCIDRs

end Validity

namespace Journal

variable {Owner : Type} {journal : Journal Owner} {cidr : Text}

/-- The routes that the journal marks as applied or pending. -/
def listed (journal : Journal Owner) : List Text :=
  journal.appliedCIDRs ++ journal.pendingCIDR.toList

/-- The routes that a rollback deletes. -/
def owned (journal : Journal Owner) : List Text :=
  match journal.pendingCIDR with
  | none => journal.appliedCIDRs
  | some pending =>
    if journal.appliedCIDRs.contains pending then journal.appliedCIDRs
    else journal.appliedCIDRs ++ [pending]

/-- The `pendingState` of a rollback: this route is being deleted. -/
def deleting (journal : Journal Owner) (cidr : Text) : Journal Owner :=
  { journal with
    appliedCIDRs := journal.appliedCIDRs.filter (· ≠ cidr)
    pendingCIDR := some cidr }

def adding (journal : Journal Owner) (cidr : Text) : Journal Owner :=
  { journal with pendingCIDR := some cidr }

def added (journal : Journal Owner) (cidr : Text) : Journal Owner :=
  { journal with
    appliedCIDRs := journal.appliedCIDRs ++ [cidr]
    pendingCIDR := none }

def settled (journal : Journal Owner) : Journal Owner :=
  { journal with pendingCIDR := none }

theorem mem_listed :
    cidr ∈ journal.listed ↔
      cidr ∈ journal.appliedCIDRs ∨ journal.pendingCIDR = some cidr := by
  simp [listed]

theorem mem_owned : cidr ∈ journal.owned ↔ cidr ∈ journal.listed := by
  rw [mem_listed]
  unfold owned
  split
  · next none_pending =>
    simp [none_pending]
  · next pending found =>
    rw [found]
    split
    · next member =>
      constructor
      · exact .inl
      · rintro (applied | same)
        · exact applied
        · cases same
          simpa using member
    · simp [eq_comm]

end Journal

/-- The content of the journal file, as the helper's decoders see it. -/
inductive Content where
  | route (journal : RouteJournal)
  | legacy (journal : LegacyRouteJournal)
  | undecodable
  deriving DecidableEq, Repr

namespace Content

def isValid (rules : RouteRules) : Content → Bool
  | .route journal => RouteJournal.isValid rules journal
  | .legacy journal => LegacyRouteJournal.isValid rules journal
  | .undecodable => false

def lease : Content → Option Lease
  | .route journal => some ⟨journal.owner.leaseID, journal.owner.operationID⟩
  | .legacy journal => some ⟨journal.owner.leaseID, journal.owner.operationID⟩
  | .undecodable => none

/-- The routes that are durably marked as applied or pending. -/
def routes : Content → List Route
  | .route journal => journal.listed.map (⟨·, journal.owner.interfaceName⟩)
  | .legacy journal => journal.listed.map (⟨·, journal.owner.interfaceName⟩)
  | .undecodable => []

end Content

/-- What the rollback asks of the owner of a journal, and how a journal of
this schema is stored. -/
structure Schema (Owner : Type) where
  lease : Owner → Lease
  interfaceName : Owner → Text
  trustedMihomoInterfaces : Owner → List Text
  content : Journal Owner → Content
  lease_content : ∀ journal, (content journal).lease =
    some (lease journal.owner)
  routes_content : ∀ journal, (content journal).routes =
    journal.listed.map (⟨·, interfaceName journal.owner⟩)

def routeSchema : Schema JournalOwner where
  lease owner := ⟨owner.leaseID, owner.operationID⟩
  interfaceName := JournalOwner.interfaceName
  trustedMihomoInterfaces := JournalOwner.activeMihomoTunInterfaces
  content := .route
  lease_content _ := rfl
  routes_content _ := rfl

def legacySchema : Schema LegacyJournalOwner where
  lease owner := ⟨owner.leaseID, owner.operationID⟩
  interfaceName := LegacyJournalOwner.interfaceName
  trustedMihomoInterfaces _ := []
  content := .legacy
  lease_content _ := rfl
  routes_content _ := rfl

/-! ## The progress of a valid journal -/

/-- A valid journal marks only routes of its owner, each of them once. -/
structure RouteJournal.Progress (rules : RouteRules) (journal : RouteJournal) :
    Prop where
  version : journal.version = protocolVersion
  owner : journal.owner.isValid rules = true
  nodup : journal.appliedCIDRs.Nodup
  bounded : journal.appliedCIDRs.length ≤ journal.owner.privateCIDRs.length
  applied : ∀ cidr ∈ journal.appliedCIDRs,
    rules.validCIDR cidr = true ∧ cidr ∈ journal.owner.privateCIDRs
  pending : ∀ cidr, journal.pendingCIDR = some cidr →
    (rules.validCIDR cidr = true ∧ cidr ∈ journal.owner.privateCIDRs) ∧
      cidr ∉ journal.appliedCIDRs

variable {journal : RouteJournal} {rules : RouteRules}

theorem RouteJournal.isValid_iff :
    RouteJournal.isValid rules journal = true ↔
      RouteJournal.Progress rules journal := by
  simp only [RouteJournal.isValid, Journal.progressIsValid,
    Bool.and_eq_true, decide_eq_true_eq, List.all_eq_true,
    Option.all_eq_true, Bool.not_eq_true', List.contains_eq_mem,
    decide_eq_false_iff_not]
  constructor
  · rintro ⟨⟨⟨version, owner⟩, ⟨⟨⟨nodup, bounded⟩, texts⟩, owned⟩, marked⟩,
      fresh⟩
    exact ⟨version, owner, nodup, bounded,
      fun cidr member => ⟨texts cidr member, owned cidr member⟩,
      fun cidr found => ⟨marked cidr found, fresh cidr found⟩⟩
  · rintro ⟨version, owner, nodup, bounded, applied, pending⟩
    exact ⟨⟨⟨version, owner⟩,
        ⟨⟨⟨nodup, bounded⟩, fun cidr member => (applied cidr member).1⟩,
          fun cidr member => (applied cidr member).2⟩,
        fun cidr found => (pending cidr found).1⟩,
      fun cidr found => (pending cidr found).2⟩

theorem RouteJournal.isValid_added {cidr : Text}
    (valid : RouteJournal.isValid rules (journal.adding cidr) = true) :
    RouteJournal.isValid rules ((journal.adding cidr).added cidr) = true := by
  rw [RouteJournal.isValid_iff] at valid ⊢
  obtain ⟨version, owner, nodup, -, applied, pending⟩ := valid
  obtain ⟨own, fresh⟩ := pending cidr rfl
  have distinct : (journal.appliedCIDRs ++ [cidr]).Nodup := by
    rw [List.nodup_append]
    refine ⟨nodup, List.nodup_singleton _, ?_⟩
    intro other member same found
    obtain rfl := List.mem_singleton.mp found
    rintro rfl
    exact fresh member
  have owned : ∀ other ∈ journal.appliedCIDRs ++ [cidr],
      rules.validCIDR other = true ∧ other ∈ journal.owner.privateCIDRs := by
    intro other member
    rcases List.mem_append.mp member with old | new
    · exact applied other old
    · obtain rfl := List.mem_singleton.mp new
      exact own
  refine ⟨version, owner, distinct, ?_, owned, nofun⟩
  exact distinct.length_le_of_subset fun other member =>
    (owned other member).2

end KyClash.RouteHelper.V2
