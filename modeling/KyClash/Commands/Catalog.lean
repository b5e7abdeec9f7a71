import KyClash.PolicyIdentity.Store
import KyClash.Production.ServiceGate

/-!
# The production policy catalog

`networking/production_policy_catalog.rs` and the preparation of a variant in
`networking/production_composition.rs`: the catalog, the trust bundle and the
four envelopes are read and verified, twice for each preparation, and the
binding of the chosen variant is compared with the one that is expected.

Every read of a file is an action, so that the files may change between any
two of them.  JSON, signatures and SHA-256 are not modelled: `CatalogCodec`
holds what they give.
-/

namespace KyClash.Commands

open Program
open PolicyIdentity (PolicyIdentityCandidate PolicyIdentityDecision)
open Production (ProductionConnectReservation
  ProductionServiceRetirementReceipt ProductionServiceRetirementResult
  ControllerAbsenceKind)

abbrev Bytes := List UInt8

def baseVariantID : String := "base"

def baseRoutes : List String := ["10.68.72.0/21", "10.20.81.0/24"]
def host30 : String := "10.68.64.30/32"
def host31 : String := "10.68.64.31/32"

structure LockedVariant where
  id : String
  displayName : String
  envelopeResource : String
  routes : List String
  deriving DecidableEq, Repr

def lockedVariants : List LockedVariant :=
  [⟨baseVariantID, "Base routes", "kyclash-networking-policy-base-v2.json",
    baseRoutes⟩,
    ⟨"base+.30", "Base + 10.68.64.30",
      "kyclash-networking-policy-base-30-v2.json", baseRoutes ++ [host30]⟩,
    ⟨"base+.31", "Base + 10.68.64.31",
      "kyclash-networking-policy-base-31-v2.json", baseRoutes ++ [host31]⟩,
    ⟨"base+both", "Base + both optional hosts",
      "kyclash-networking-policy-base-both-v2.json",
      baseRoutes ++ [host30, host31]⟩]

structure PolicyCatalogEntry where
  id : String
  envelopeResource : String
  deriving DecidableEq, Repr

structure PolicyCatalogResource where
  schemaVersion : UInt8
  revision : UInt64
  entries : List PolicyCatalogEntry
  deriving DecidableEq, Repr

structure ProductionPolicyVariantSummary where
  catalogID : String
  displayName : String
  revision : UInt64
  profileSHA256 : Bytes
  privateCIDRs : List String
  deriving DecidableEq, Repr

/-- The binding that is kept between a selection and a connection. -/
structure VerifiedProductionPolicyVariant where
  summary : ProductionPolicyVariantSummary
  envelopeSHA256 : Bytes
  deriving DecidableEq, Repr

structure VerifiedNetworkPolicy (Profile : Type) where
  keyID : Bytes
  envelopeSHA256 : Bytes
  issuedAt : UInt64
  expiresAt : UInt64
  revision : UInt64
  profile : Profile
  deriving DecidableEq, Repr

structure SidecarTrustManifest where
  schemaVersion : UInt8
  sha256 : Bytes
  architecture : Bytes
  teamID : Bytes
  designatedRequirement : Bytes
  deriving DecidableEq, Repr

/-- JSON, the policy signatures and SHA-256 in hexadecimal.  `profileSHA256`
fails where a profile cannot be serialised. -/
structure CatalogCodec (Profile : Type) where
  parseCatalog : Bytes → Option PolicyCatalogResource
  trust : Bytes → Except NetworkErrorCode
    (Bytes → UInt64 → Except NetworkErrorCode (VerifiedNetworkPolicy Profile))
  parseManifest : Bytes → Option SidecarTrustManifest
  sha256 : Bytes → Bytes
  profileSHA256 : Profile → Except NetworkErrorCode Bytes
  privateCIDRs : Profile → List String
  /-- `NetworkProfile::validate` and `CredentialReference::parse`. -/
  validateProfile : Profile → Except NetworkErrorCode Unit

variable {Profile : Type}

structure VerifiedCatalogEntry (Profile : Type) where
  binding : VerifiedProductionPolicyVariant
  policy : VerifiedNetworkPolicy Profile

structure VerifiedProductionPolicyCatalog (Profile : Type) where
  revision : UInt64
  identitySHA256 : Bytes
  issuedAt : UInt64
  expiresAt : UInt64
  entries : List (VerifiedCatalogEntry Profile)

def VerifiedNetworkPolicy.validateAt (policy : VerifiedNetworkPolicy Profile)
    (now : UInt64) : Except NetworkErrorCode Unit :=
  if policy.revision = 0 ∨ now < policy.issuedAt ∨ policy.expiresAt ≤ now ∨
      policy.expiresAt ≤ policy.issuedAt then
    .error .policySignatureInvalid
  else
    .ok ()

/-- The routes as sets, without repetition. -/
def entitled (actual expected : List String) : Bool :=
  decide actual.Nodup && actual.all (expected.contains ·) &&
    expected.all (actual.contains ·)

namespace VerifiedProductionPolicyVariant

def new (codec : CatalogCodec Profile) (locked : LockedVariant)
    (policy : VerifiedNetworkPolicy Profile) :
    Except NetworkErrorCode VerifiedProductionPolicyVariant :=
  if !entitled (codec.privateCIDRs policy.profile) locked.routes then
    .error .invalidConfiguration
  else
    match codec.profileSHA256 policy.profile with
    | .error error => .error error
    | .ok profileSHA256 =>
      .ok {
        summary := {
          catalogID := locked.id
          displayName := locked.displayName
          revision := policy.revision
          profileSHA256
          privateCIDRs := codec.privateCIDRs policy.profile }
        envelopeSHA256 := policy.envelopeSHA256 }

end VerifiedProductionPolicyVariant

namespace VerifiedProductionPolicyCatalog

variable (catalog : VerifiedProductionPolicyCatalog Profile)

def bindings : List VerifiedProductionPolicyVariant :=
  catalog.entries.map (·.binding)

def selected (catalogID : String) :
    Except NetworkErrorCode (VerifiedCatalogEntry Profile) :=
  match catalog.entries.find? (·.binding.summary.catalogID = catalogID) with
  | none => .error .invalidConfiguration
  | some entry => .ok entry

def validateAt (now : UInt64) : Except NetworkErrorCode Unit :=
  if catalog.revision = 0 ∨ now < catalog.issuedAt ∨
      catalog.expiresAt ≤ now then
    .error .policySignatureInvalid
  else
    catalog.entries.forM fun entry => entry.policy.validateAt now

end VerifiedProductionPolicyCatalog

/-- The catalog file lists exactly the locked variants. -/
def listsLockedVariants (entries : List PolicyCatalogEntry) : Bool :=
  decide (entries.map (·.id)).Nodup && entries.length = lockedVariants.length &&
    lockedVariants.all fun locked =>
      entries.contains ⟨locked.id, locked.envelopeResource⟩

def checkCatalog (codec : CatalogCodec Profile) (bytes : Bytes) :
    Except NetworkErrorCode PolicyCatalogResource :=
  match codec.parseCatalog bytes with
  | none => .error .invalidConfiguration
  | some catalog =>
    if catalog.schemaVersion ≠ 1 || catalog.revision = 0 ||
        !listsLockedVariants catalog.entries then
      .error .invalidConfiguration
    else
      .ok catalog

/-- What the identity of a catalog is the digest of. -/
def identityInput (catalogBytes trustBytes : Bytes)
    (entries : List (VerifiedCatalogEntry Profile)) : Bytes :=
  "kyclash-production-policy-catalog-v1".toUTF8.data.toList ++ [0] ++
    catalogBytes ++ [0] ++ trustBytes ++ [0] ++
    entries.flatMap fun entry =>
      entry.binding.summary.catalogID.toUTF8.data.toList ++ [0] ++
        entry.policy.envelopeSHA256 ++ [0]

def assembleCatalog (codec : CatalogCodec Profile) (revision : UInt64)
    (catalogBytes trustBytes : Bytes)
    (entries : List (VerifiedCatalogEntry Profile)) :
    VerifiedProductionPolicyCatalog Profile where
  revision := revision
  identitySHA256 := codec.sha256 (identityInput catalogBytes trustBytes entries)
  issuedAt := entries.foldl (fun latest entry =>
    max latest entry.policy.issuedAt) 0
  expiresAt := entries.foldl (fun earliest entry =>
    min earliest entry.policy.expiresAt) Production.uint64Max
  entries := entries

structure VerifiedProductionConfiguration (Profile : Type) where
  profile : Profile
  profileRevision : UInt64
  sidecarTrust : SidecarTrustManifest

def isAsciiHexDigit (byte : UInt8) : Bool :=
  PolicyIdentity.isAsciiDigit byte || (65 ≤ byte && byte ≤ 70) ||
    (97 ≤ byte && byte ≤ 102)

def validateTrustMetadata (manifest : SidecarTrustManifest) :
    Except NetworkErrorCode Unit :=
  if manifest.schemaVersion ≠ 1 || manifest.sha256.length ≠ 64 ||
      !manifest.sha256.all isAsciiHexDigit ||
      manifest.architecture = [] || 16 < manifest.architecture.length ||
      !manifest.architecture.all (fun byte =>
        PolicyIdentity.isAsciiAlphanumeric byte || byte = 95) ||
      manifest.teamID = [] || 64 < manifest.teamID.length ||
      !manifest.teamID.all PolicyIdentity.isAsciiAlphanumeric ||
      manifest.designatedRequirement = [] ||
      1024 < manifest.designatedRequirement.length then
    .error .authenticationFailed
  else
    .ok ()

/-- `VerifiedProductionConfiguration::new`; the path of the executable is
absolute by construction. -/
def VerifiedProductionConfiguration.new (codec : CatalogCodec Profile)
    (profile : Profile) (profileRevision : UInt64)
    (sidecarTrust : SidecarTrustManifest) :
    Except NetworkErrorCode (VerifiedProductionConfiguration Profile) :=
  match codec.validateProfile profile with
  | .error error => .error error
  | .ok () =>
    if profileRevision = 0 then
      .error .invalidConfiguration
    else
      match validateTrustMetadata sidecarTrust with
      | .error error => .error error
      | .ok () => .ok { profile, profileRevision, sidecarTrust }

/-- The deferred factory.  `origin` is kept for the proofs: the policy that
the configuration was made from. -/
structure Factory (Profile : Type) where
  configuration : VerifiedProductionConfiguration Profile
  origin : VerifiedNetworkPolicy Profile

/-- One materialised service, with what it was built from. -/
structure BuiltService (Profile : Type) where
  generation : Nat
  configuration : VerifiedProductionConfiguration Profile
  origin : VerifiedNetworkPolicy Profile

structure PreparedProductionPolicyVariant (Profile : Type) where
  variants : List VerifiedProductionPolicyVariant
  selected : VerifiedProductionPolicyVariant
  factory : Factory Profile

inductive ProductionServiceDispositionKind where
  | busy
  | reusable
  | terminalCandidate
  | recoveryOnly
  | retired
  deriving DecidableEq, Repr

/-- The status of a service, as far as the commands read it. -/
structure ServiceStatus where
  state : NetworkState
  lastError : Option NetworkErrorCode
  deriving DecidableEq, Repr

/-- What the commands do with the files, with the cells of the command state
and with a service. -/
inductive Act (Profile : Type) where
  | read (name : String) (maximum : Nat)
  | clock
  | beginTransaction
  | classify (candidate : PolicyIdentityCandidate) (now : UInt64)
  | commit (now : UInt64)
  | initializeProvider
  | getCatalogProvider
  | getService
  | getFactory
  | getSelectedVariant
  | setFactory (factory : Factory Profile)
  | setSelectedVariant (variant : VerifiedProductionPolicyVariant)
  | build (factory : Factory Profile)
  | disposition (service : BuiltService Profile)
  | status (service : BuiltService Profile)
  | reserveConnect (service : BuiltService Profile)
  | abandon (service : BuiltService Profile)
      (reservation : ProductionConnectReservation)
  | tryRetire (service : BuiltService Profile)
  | installIfEmpty (service : BuiltService Profile)
  | removeIfSame (service : BuiltService Profile)
  | recordRetirement (receipt : ProductionServiceRetirementReceipt)
      (primaryError : Option NetworkErrorCode)
  | recordSecondaryError (generation : Nat) (error : NetworkErrorCode)
  | cancel (service : BuiltService Profile) (operationID : String)
  | disconnect (service : BuiltService Profile) (operationID : String)

def Act.Res : Act Profile → Type
  | .read _ _ => Except NetworkErrorCode Bytes
  | .clock => UInt64
  | .beginTransaction => Except NetworkErrorCode Unit
  | .classify _ _ => Except NetworkErrorCode PolicyIdentityDecision
  | .commit _ => Except NetworkErrorCode Unit
  | .initializeProvider => Except NetworkErrorCode (Factory Profile)
  | .getCatalogProvider => Bool
  | .getService => Option (BuiltService Profile)
  | .getFactory => Option (Factory Profile)
  | .getSelectedVariant => Option VerifiedProductionPolicyVariant
  | .setFactory _ => Unit
  | .setSelectedVariant _ => Unit
  | .build _ => Except NetworkErrorCode (BuiltService Profile)
  | .disposition _ => ProductionServiceDispositionKind
  | .status _ => ServiceStatus
  | .reserveConnect _ => Except NetworkErrorCode ProductionConnectReservation
  | .abandon _ _ => Unit
  | .tryRetire _ => ProductionServiceRetirementResult
  | .installIfEmpty _ => Bool
  | .removeIfSame _ => Bool
  | .recordRetirement _ _ => Unit
  | .recordSecondaryError _ _ => Unit
  | .cancel _ _ => Except NetworkErrorCode Unit
  | .disconnect _ _ => Except NetworkErrorCode ServiceStatus

/-- A command, which may fail. -/
abbrev Cmd (Profile α : Type) :=
  ExceptT NetworkErrorCode (Prog (Act Profile) Act.Res) α

/-- An action that may fail, with `?`. -/
def attempt {α : Type}
    (program : Prog (Act Profile) Act.Res (Except NetworkErrorCode α)) :
    Cmd Profile α :=
  ExceptT.mk program

def always {α : Type} (program : Prog (Act Profile) Act.Res α) :
    Cmd Profile α :=
  ExceptT.mk do
    return .ok (← program)

def check {α : Type} (result : Except NetworkErrorCode α) : Cmd Profile α :=
  ExceptT.mk (return result)

def readOwnedResource (name : String) (maximum : Nat) : Cmd Profile Bytes :=
  attempt (Prog.perform (Act.read name maximum))

def clock : Cmd Profile UInt64 :=
  always (Prog.perform Act.clock)

/-! ## Verification and preparation -/

def catalogPolicyTrustResourceName : String :=
  "kyclash-networking-policy-keys.json"

def verifyEntries (codec : CatalogCodec Profile)
    (verify : Bytes → UInt64 →
      Except NetworkErrorCode (VerifiedNetworkPolicy Profile))
    (now : UInt64) :
    List LockedVariant → Cmd Profile (List (VerifiedCatalogEntry Profile))
  | [] => return []
  | locked :: rest => do
      let envelope ← readOwnedResource locked.envelopeResource (64 * 1024)
      let policy ← check (verify envelope now)
      let binding ← check
        (VerifiedProductionPolicyVariant.new codec locked policy)
      let entries ← verifyEntries codec verify now rest
      return ⟨binding, policy⟩ :: entries

def verifyPolicyCatalog (codec : CatalogCodec Profile) (now : UInt64) :
    Cmd Profile (VerifiedProductionPolicyCatalog Profile) := do
  let catalogBytes ← readOwnedResource
    "kyclash-networking-policy-catalog-v1.json" (32 * 1024)
  let catalog ← check (checkCatalog codec catalogBytes)
  let trustBytes ← readOwnedResource catalogPolicyTrustResourceName (64 * 1024)
  let verify ← check (codec.trust trustBytes)
  let entries ← verifyEntries codec verify now lockedVariants
  let verified :=
    assembleCatalog codec catalog.revision catalogBytes trustBytes entries
  check (verified.validateAt now)
  return verified

def expectBinding (expected : Option VerifiedProductionPolicyVariant)
    (binding : VerifiedProductionPolicyVariant) :
    Except NetworkErrorCode Unit :=
  if expected.any (· ≠ binding) then
    .error .policySignatureInvalid
  else
    .ok ()

/-- The candidate of the whole catalog; the key is `catalog.v1`. -/
def catalogCandidate (catalog : VerifiedProductionPolicyCatalog Profile) :
    Except NetworkErrorCode PolicyIdentityCandidate :=
  let candidate : PolicyIdentityCandidate := {
    revision := catalog.revision
    envelopeSHA256 := catalog.identitySHA256
    keyID := [99, 97, 116, 97, 108, 111, 103, 46, 118, 49]
    issuedAt := catalog.issuedAt
    expiresAt := catalog.expiresAt }
  match candidate.validateShape with
  | .error error => .error error
  | .ok () => .ok candidate

def acceptDecision (decision : PolicyIdentityDecision) :
    Except NetworkErrorCode Unit :=
  if decision = .reject then .error .policySignatureInvalid else .ok ()

def checkManifest (codec : CatalogCodec Profile) (bytes : Bytes) :
    Except NetworkErrorCode SidecarTrustManifest :=
  match codec.parseManifest bytes with
  | none => .error .authenticationFailed
  | some manifest =>
    match validateTrustMetadata manifest with
    | .error error => .error error
    | .ok () => .ok manifest

/-- The catalog has not changed between the two verifications. -/
def sameCatalog (first final : VerifiedProductionPolicyCatalog Profile) :
    Except NetworkErrorCode Unit :=
  if final.revision ≠ first.revision ∨
      final.identitySHA256 ≠ first.identitySHA256 ∨
      final.bindings ≠ first.bindings then
    .error .policySignatureInvalid
  else
    .ok ()

/-- The name on Apple silicon; it is fixed for each platform. -/
def sidecarTrustResourceName : String :=
  "kyclash-network-sidecar-aarch64-apple-darwin.trust.json"

/-- `prepare_policy_variant_sync`. -/
def preparePolicyVariant (codec : CatalogCodec Profile) (catalogID : String)
    (expected : Option VerifiedProductionPolicyVariant) :
    Cmd Profile (PreparedProductionPolicyVariant Profile) := do
  attempt (Prog.perform Act.beginTransaction)
  let now ← clock
  let first ← verifyPolicyCatalog codec now
  let firstEntry ← check (first.selected catalogID)
  check (expectBinding expected firstEntry.binding)
  let candidate ← check (catalogCandidate first)
  let decision ← attempt (Prog.perform (Act.classify candidate now))
  check (acceptDecision decision)
  let manifestBytes ← readOwnedResource sidecarTrustResourceName (16 * 1024)
  let manifest ← check (checkManifest codec manifestBytes)
  let commitNow ← clock
  let final ← verifyPolicyCatalog codec commitNow
  check (sameCatalog first final)
  let entry ← check (final.selected catalogID)
  check (expectBinding expected entry.binding)
  let configuration ← check (VerifiedProductionConfiguration.new codec
    entry.policy.profile entry.policy.revision manifest)
  attempt (Prog.perform (Act.commit commitNow))
  return {
    variants := final.bindings
    selected := entry.binding
    factory := { configuration, origin := entry.policy } }

end KyClash.Commands
