import KyClash.Commands.State

/-!
# The world of the commands

The cells of the command state, and what the commands do to them.  What a file
contains, what the clock and the identity store say, and how a service answers
is chosen anew for each action: the files may change at any time, and the
tasks of a service run beside the commands.

`evidence` and `history` are kept for the proofs: what the running command has
read, and what has happened to the services.
-/

namespace KyClash.Commands

open Program
open Production (ProductionConnectReservation
  ProductionServiceRetirementReceipt ProductionServiceRetirementResult)

/-- What the running command has read from the files and from the clock. -/
structure Evidence where
  files : List (String × Bytes)
  times : List UInt64

/-- What happens to a service.  A reservation is kept with the selection and
with what its command has read up to that moment. -/
inductive Observation (Profile : Type) where
  | reserved (service : BuiltService Profile)
      (selected : Option VerifiedProductionPolicyVariant) (evidence : Evidence)
  | retired (service : BuiltService Profile)
      (receipt : ProductionServiceRetirementReceipt)
  | installed (service : BuiltService Profile)
  | removed (service : BuiltService Profile)

structure RetiredGenerationEvidence where
  receipt : ProductionServiceRetirementReceipt
  primaryError : Option NetworkErrorCode
  secondaryError : Option NetworkErrorCode
  deriving DecidableEq

def retiredEvidenceLimit : Nat := 16

structure World (Profile : Type) where
  service : Option (BuiltService Profile)
  factory : Option (Factory Profile)
  catalogProvider : Bool
  selectedVariant : Option VerifiedProductionPolicyVariant
  retiredEvidence : List RetiredGenerationEvidence
  /-- `NEXT_PRODUCTION_SERVICE_GENERATION`. -/
  nextGeneration : Nat
  evidence : Evidence
  /-- The newest observation stands first. -/
  history : List (Observation Profile)

variable {Profile : Type}

/-- What an action gives where the world decides. -/
abbrev Choice (Profile : Type) := (action : Act Profile) → action.Res

/-- The newest evidence of a generation takes the error. -/
def noteSecondaryError (generation : Nat) (error : NetworkErrorCode) :
    List RetiredGenerationEvidence → List RetiredGenerationEvidence
  | [] => []
  | record :: records =>
    if records.any (·.receipt.serviceGeneration = generation) then
      record :: noteSecondaryError generation error records
    else if record.receipt.serviceGeneration = generation then
      { record with secondaryError := some error } :: records
    else
      record :: records

namespace World

/-- After setup, with both bundle providers. -/
def start (nextGeneration : Nat) : World Profile where
  service := none
  factory := none
  catalogProvider := true
  selectedVariant := none
  retiredEvidence := []
  nextGeneration := nextGeneration
  evidence := ⟨[], []⟩
  history := []

variable (world : World Profile)

def observe (observation : Observation Profile) : World Profile :=
  { world with history := observation :: world.history }

/-- `record_retirement`. -/
def keepEvidence (receipt : ProductionServiceRetirementReceipt)
    (primaryError : Option NetworkErrorCode) : World Profile :=
  let records := if world.retiredEvidence.length = retiredEvidenceLimit then
    world.retiredEvidence.tail else world.retiredEvidence
  { world with
    retiredEvidence :=
    records ++ [{ receipt, primaryError, secondaryError := none }] }

def install (service : BuiltService Profile) : Bool × World Profile :=
  match world.service with
  | some _ => (false, world)
  | none =>
    (true, { world with service := some service }.observe (.installed service))

/-- A service is known by its generation. -/
def remove (service : BuiltService Profile) : Bool × World Profile :=
  match world.service with
  | none => (false, world)
  | some current =>
    if current.generation = service.generation then
      (true, { world with service := none }.observe (.removed current))
    else
      (false, world)

def afterBuild (factory : Factory Profile) :
    Except NetworkErrorCode (BuiltService Profile) →
      Except NetworkErrorCode (BuiltService Profile) × World Profile
  | .error error => (.error error, world)
  | .ok _ =>
    (.ok ⟨world.nextGeneration, factory.configuration, factory.origin⟩,
      { world with nextGeneration := world.nextGeneration + 1 })

def afterReserve (service : BuiltService Profile) :
    Except NetworkErrorCode ProductionConnectReservation → World Profile
  | .error _ => world
  | .ok _ =>
    world.observe (.reserved service world.selectedVariant world.evidence)

def afterRetire (service : BuiltService Profile) :
    ProductionServiceRetirementResult → World Profile
  | .retired receipt => world.observe (.retired service receipt)
  | _ => world

def afterRead (name : String) : Except NetworkErrorCode Bytes → World Profile
  | .error _ => world
  | .ok bytes =>
    { world with evidence.files := (name, bytes) :: world.evidence.files }

def afterClock (now : UInt64) : World Profile :=
  { world with evidence.times := now :: world.evidence.times }

def perform (choose : Choice Profile) :
    (action : Act Profile) → action.Res × World Profile
  | .read name maximum =>
    (choose (.read name maximum),
      world.afterRead name (choose (.read name maximum)))
  | .clock => (choose .clock, world.afterClock (choose .clock))
  | .beginTransaction => (choose .beginTransaction, world)
  | .classify candidate now => (choose (.classify candidate now), world)
  | .commit now => (choose (.commit now), world)
  | .initializeProvider => (choose .initializeProvider, world)
  | .getCatalogProvider => (world.catalogProvider, world)
  | .getService => (world.service, world)
  | .getFactory => (world.factory, world)
  | .getSelectedVariant => (world.selectedVariant, world)
  | .setFactory factory => ((), { world with factory := some factory })
  | .setSelectedVariant variant =>
    ((), { world with selectedVariant := some variant })
  | .build factory => world.afterBuild factory (choose (.build factory))
  | .disposition service => (choose (.disposition service), world)
  | .status service => (choose (.status service), world)
  | .reserveConnect service =>
    (choose (.reserveConnect service),
      world.afterReserve service (choose (.reserveConnect service)))
  | .abandon _ _ => ((), world)
  | .tryRetire service =>
    (choose (.tryRetire service),
      world.afterRetire service (choose (.tryRetire service)))
  | .installIfEmpty service => world.install service
  | .removeIfSame service => world.remove service
  | .recordRetirement receipt primaryError =>
    ((), world.keepEvidence receipt primaryError)
  | .recordSecondaryError generation error =>
    ((), { world with retiredEvidence :=
        noteSecondaryError generation error world.retiredEvidence })
  | .cancel service operationID => (choose (.cancel service operationID), world)
  | .disconnect service operationID =>
    (choose (.disconnect service operationID), world)

end World

structure System (Profile : Type) where
  world : World Profile
  running : Option (Prog (Act Profile) Act.Res (Except NetworkErrorCode Unit))

/-- `dropped` is a command whose caller is gone. -/
inductive Event (Profile : Type) where
  | command (command : Command)
  | act (choose : Choice Profile)
  | returns
  | dropped

namespace System

def start (nextGeneration : Nat) : System Profile where
  world := .start nextGeneration
  running := none

def step (codec : CatalogCodec Profile) (system : System Profile) :
    Event Profile → Option (System Profile)
  | .command command =>
    match system.running with
    | some _ => none
    | none =>
      some {
        world := { system.world with evidence := ⟨[], []⟩ }
        running := some (command.program codec).run }
  | .act choose =>
    match system.running with
    | some (.act action rest) =>
      some {
        world := (system.world.perform choose action).2
        running := some (rest (system.world.perform choose action).1) }
    | _ => none
  | .returns =>
    match system.running with
    | some (.ret _) => some { system with running := none }
    | _ => none
  | .dropped =>
    match system.running with
    | some _ => some { system with running := none }
    | none => none

end System

/-! ## What the commands promise -/

/-- The variant is the binding of the policy. -/
structure Bound (codec : CatalogCodec Profile)
    (variant : VerifiedProductionPolicyVariant)
    (policy : VerifiedNetworkPolicy Profile) : Prop where
  revision : variant.summary.revision = policy.revision
  profile : codec.profileSHA256 policy.profile =
    .ok variant.summary.profileSHA256
  envelope : variant.envelopeSHA256 = policy.envelopeSHA256

/-- The service has the profile digest, the revision and the envelope digest
of the policy. -/
structure BuiltFrom (codec : CatalogCodec Profile)
    (service : BuiltService Profile) (policy : VerifiedNetworkPolicy Profile) :
    Prop where
  profile : codec.profileSHA256 service.configuration.profile =
    codec.profileSHA256 policy.profile
  revision : service.configuration.profileRevision = policy.revision
  envelope : service.origin.envelopeSHA256 = policy.envelopeSHA256

/-- The policy is what `verify` makes of the envelope of the locked variant,
as it was read, and the variant is its binding. -/
def Entered (codec : CatalogCodec Profile)
    (verify : Bytes → UInt64 →
      Except NetworkErrorCode (VerifiedNetworkPolicy Profile))
    (now : UInt64) (files : List (String × Bytes)) (locked : LockedVariant)
    (variant : VerifiedProductionPolicyVariant)
    (policy : VerifiedNetworkPolicy Profile) : Prop :=
  ∃ envelope, (locked.envelopeResource, envelope) ∈ files ∧
    verify envelope now = .ok policy ∧
    VerifiedProductionPolicyVariant.new codec locked policy = .ok variant

/-- The variant follows from a trust bundle, an envelope and a time, all of
which were read. -/
def Evidence.Verifies (codec : CatalogCodec Profile) (evidence : Evidence)
    (variant : VerifiedProductionPolicyVariant)
    (policy : VerifiedNetworkPolicy Profile) : Prop :=
  ∃ trustBytes verify now,
    (catalogPolicyTrustResourceName, trustBytes) ∈ evidence.files ∧
      codec.trust trustBytes = .ok verify ∧ now ∈ evidence.times ∧
      ∃ locked ∈ lockedVariants,
        Entered codec verify now evidence.files locked variant policy

/-- A reservation agrees with the selected variant, which the same command
has verified. -/
def Faithful (codec : CatalogCodec Profile) (service : BuiltService Profile)
    (selected : Option VerifiedProductionPolicyVariant) (evidence : Evidence) :
    Prop :=
  ∃ variant policy, selected = some variant ∧
    evidence.Verifies codec variant policy ∧ Bound codec variant policy ∧
    BuiltFrom codec service policy

structure Orderly (codec : CatalogCodec Profile)
    (history : List (Observation Profile)) : Prop where
  reserved : ∀ service selected evidence,
    .reserved service selected evidence ∈ history →
      Faithful codec service selected evidence
  installed : ∀ service earlier, .installed service :: earlier <:+ history →
    ∀ other, .installed other ∈ earlier →
      other.generation ≠ service.generation ∧ .removed other ∈ earlier
  removed : ∀ service earlier, .removed service :: earlier <:+ history →
    ∃ receipt, .retired service receipt ∈ earlier

/-- At most the service in the slot is installed, and each replaced one was
removed after its receipt. -/
structure World.Proper (codec : CatalogCodec Profile) (world : World Profile) :
    Prop where
  orderly : Orderly codec world.history
  slot : ∀ service, .installed service ∈ world.history →
    world.service = some service ∨ .removed service ∈ world.history

end KyClash.Commands
