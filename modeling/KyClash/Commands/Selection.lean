import KyClash.Commands.World

/-!
# The installed service and the selected variant

The invariant of the command state: the installed service was built from a
policy whose binding is the selected variant.  A selection changes only while
the slot is empty, and a slot is emptied only with a receipt, so the variant
that a connection verifies again is still the one that the installed service
was built from.

`Permits` says when each action keeps the invariant, and `Runs` is the logic
of the commands over it.
-/

namespace KyClash.Commands

open Program
open Production (ProductionConnectReservation
  ProductionServiceRetirementReceipt ProductionServiceRetirementResult)

variable {Profile : Type} {codec : CatalogCodec Profile}
  {world after : World Profile} {service : BuiltService Profile}
  {variant : VerifiedProductionPolicyVariant}
  {policy : VerifiedNetworkPolicy Profile}

theorem Bound.unique {first second : VerifiedNetworkPolicy Profile}
    (left : Bound codec variant first) (right : Bound codec variant second) :
    codec.profileSHA256 first.profile = codec.profileSHA256 second.profile ∧
      first.revision = second.revision ∧
      first.envelopeSHA256 = second.envelopeSHA256 :=
  ⟨left.profile.trans right.profile.symm,
    left.revision.symm.trans right.revision,
    left.envelope.symm.trans right.envelope⟩

theorem bound_new {locked : LockedVariant}
    {binding : VerifiedProductionPolicyVariant}
    (made : VerifiedProductionPolicyVariant.new codec locked policy =
      .ok binding) :
    Bound codec binding policy := by
  unfold VerifiedProductionPolicyVariant.new at made
  split at made
  · cases made
  split at made
  · cases made
  · next digest hashed =>
    cases made
    exact ⟨rfl, hashed, rfl⟩

theorem configuration_new {profile : Profile} {revision : UInt64}
    {manifest : SidecarTrustManifest}
    {configuration : VerifiedProductionConfiguration Profile}
    (made : VerifiedProductionConfiguration.new codec profile revision
        manifest = .ok configuration) :
    configuration.profile = profile ∧
      configuration.profileRevision = revision := by
  unfold VerifiedProductionConfiguration.new at made
  split at made
  · cases made
  split at made
  · cases made
  split at made
  · cases made
  · cases made
    exact ⟨rfl, rfl⟩

/-- The service was built from a policy whose binding is selected. -/
structure Agrees (codec : CatalogCodec Profile)
    (variant : VerifiedProductionPolicyVariant)
    (service : BuiltService Profile) : Prop where
  bound : Bound codec variant service.origin
  profile : service.configuration.profile = service.origin.profile
  revision : service.configuration.profileRevision = service.origin.revision

theorem Agrees.builtFrom (agrees : Agrees codec variant service)
    (bound : Bound codec variant policy) : BuiltFrom codec service policy := by
  obtain ⟨profile, revision, envelope⟩ := agrees.bound.unique bound
  refine ⟨?_, agrees.revision.trans revision, envelope⟩
  rw [agrees.profile]
  exact profile

structure Consistent (codec : CatalogCodec Profile) (world : World Profile) :
    Prop where
  provider : world.catalogProvider = true
  factory : world.service.isSome = true → world.factory.isSome = true
  agrees : ∀ service, world.service = some service →
    ∃ variant, world.selectedVariant = some variant ∧
      Agrees codec variant service
  numbered : ∀ service, .installed service ∈ world.history →
    service.generation < world.nextGeneration
  proper : world.Proper codec

/-- When the commands may act. -/
def Permits (codec : CatalogCodec Profile) (world : World Profile) :
    Act Profile → Prop
  | .setSelectedVariant _ => world.service = none
  | .reserveConnect service =>
    Faithful codec service world.selectedVariant world.evidence
  | .installIfEmpty service =>
    world.factory.isSome = true ∧ service.generation < world.nextGeneration ∧
    (∀ other, .installed other ∈ world.history →
      other.generation ≠ service.generation) ∧
    ∃ variant, world.selectedVariant = some variant ∧
      Agrees codec variant service
  | .removeIfSame service =>
    world.service = some service ∧ ∃ receipt, .retired service receipt ∈
      world.history
  | _ => True

theorem Orderly.cons {history : List (Observation Profile)}
    (orderly : Orderly codec history) (observation : Observation Profile)
    (reserved : ∀ service selected evidence,
      observation = .reserved service selected evidence →
        Faithful codec service selected evidence)
    (installed : ∀ service, observation = .installed service →
      ∀ other, .installed other ∈ history →
        other.generation ≠ service.generation ∧ .removed other ∈ history)
    (removed : ∀ service, observation = .removed service →
      ∃ receipt, .retired service receipt ∈ history) :
    Orderly codec (observation :: history) := by
  refine ⟨?_, ?_, ?_⟩
  · intro service selected evidence member
    rcases List.mem_cons.mp member with same | member
    · exact reserved service selected evidence same.symm
    · exact orderly.reserved service selected evidence member
  · intro service earlier suffix
    rcases List.suffix_cons_iff.mp suffix with whole | suffix
    · obtain ⟨same, rfl⟩ := List.cons.inj whole
      exact installed service same.symm
    · exact orderly.installed service earlier suffix
  · intro service earlier suffix
    rcases List.suffix_cons_iff.mp suffix with whole | suffix
    · obtain ⟨same, rfl⟩ := List.cons.inj whole
      exact removed service same.symm
    · exact orderly.removed service earlier suffix

namespace Consistent

section

variable (consistent : Consistent codec world)
include consistent

theorem same (service : after.service = world.service)
    (factory : world.factory.isSome = true → after.factory.isSome = true)
    (provider : after.catalogProvider = world.catalogProvider)
    (selected : after.selectedVariant = world.selectedVariant)
    (numbers : world.nextGeneration ≤ after.nextGeneration)
    (history : after.history = world.history) : Consistent codec after := by
  constructor
  · rw [provider]
    exact consistent.provider
  · rw [service]
    exact factory ∘ consistent.factory
  · rw [service, selected]
    exact consistent.agrees
  · rw [history]
    intro other installed
    exact Nat.lt_of_lt_of_le (consistent.numbered other installed) numbers
  · constructor
    · rw [history]
      exact consistent.proper.orderly
    · rw [history, service]
      exact consistent.proper.slot

theorem observe (observation : Observation Profile)
    (plain : ∀ service, observation ≠ .installed service)
    (orderly : Orderly codec (observation :: world.history)) :
    Consistent codec (world.observe observation) := by
  have before (other : BuiltService Profile)
      (member : .installed other ∈ observation :: world.history) :
      .installed other ∈ world.history :=
    List.mem_of_ne_of_mem (plain other).symm member
  refine ⟨consistent.provider, consistent.factory, consistent.agrees, ?_,
    orderly, ?_⟩
  · intro other member
    exact consistent.numbered other (before other member)
  · intro other member
    exact (consistent.proper.slot other (before other member)).imp_right
      (List.mem_cons_of_mem _)

private theorem reserve
    (faithful : Faithful codec service world.selectedVariant world.evidence) :
    Consistent codec
      (world.observe
        (.reserved service world.selectedVariant world.evidence)) := by
  apply consistent.observe
  · nofun
  apply consistent.proper.orderly.cons
  · rintro _ _ _ ⟨⟩
    exact faithful
  · nofun
  · nofun

private theorem retire (receipt : ProductionServiceRetirementReceipt) :
    Consistent codec (world.observe (.retired service receipt)) := by
  apply consistent.observe
  · nofun
  apply consistent.proper.orderly.cons
  · nofun
  · nofun
  · nofun

private theorem install
    (permits : Permits codec world (.installIfEmpty service)) :
    Consistent codec (world.install service).2 := by
  obtain ⟨factory, below, fresh, variant, selected, agrees⟩ := permits
  unfold World.install
  split
  · exact consistent
  · next empty =>
    have removed (other : BuiltService Profile)
      (installed : .installed other ∈ world.history) :
        other.generation ≠ service.generation ∧
        .removed other ∈ world.history := by
      refine ⟨fresh other installed, ?_⟩
      rcases consistent.proper.slot other installed with filled | removed
      · rw [empty] at filled
        cases filled
      · exact removed
    have orderly := consistent.proper.orderly.cons (.installed service) nofun
      (by rintro _ ⟨⟩; exact removed) nofun
    refine ⟨consistent.provider, fun _ => factory, ?_, ?_, orderly, ?_⟩
    · rintro _ ⟨⟩
      exact ⟨variant, selected, agrees⟩
    · intro other member
      rcases List.mem_cons.mp member with same | member
      · cases same
        exact below
      · exact consistent.numbered other member
    · intro other member
      rcases List.mem_cons.mp member with same | member
      · cases same
        exact .inl rfl
      · exact .inr (List.mem_cons_of_mem _ (removed other member).2)

private theorem remove (permits : Permits codec world (.removeIfSame service)) :
    Consistent codec (world.remove service).2 := by
  obtain ⟨present, receipt, retired⟩ := permits
  unfold World.remove
  rw [present]
  simp only [if_true]
  have orderly := consistent.proper.orderly.cons (.removed service) nofun
    nofun (by rintro _ ⟨⟩; exact ⟨receipt, retired⟩)
  have before (other : BuiltService Profile)
      (member : .installed other ∈ .removed service :: world.history) :
      .installed other ∈ world.history := by
    rcases List.mem_cons.mp member with same | member
    · cases same
    · exact member
  refine ⟨consistent.provider, nofun, nofun, ?_, orderly, ?_⟩
  · intro other member
    exact consistent.numbered other (before other member)
  · intro other member
    rcases consistent.proper.slot other (before other member) with
      filled | removed
    · obtain rfl := Option.some.inj (present.symm.trans filled)
      exact .inr List.mem_cons_self
    · exact .inr (List.mem_cons_of_mem _ removed)

private theorem perform {action : Act Profile}
    (permits : Permits codec world action) (choose : Choice Profile) :
    Consistent codec (world.perform choose action).2 := by
  cases action with
  | read name maximum =>
    cases outcome : choose (.read name maximum) with
    | error error =>
      simp only [World.perform, outcome]
      exact consistent
    | ok bytes =>
      simp only [World.perform, outcome]
      exact consistent.same rfl id rfl rfl (Nat.le_refl _) rfl
  | clock => exact consistent.same rfl id rfl rfl (Nat.le_refl _) rfl
  | setFactory factory =>
    exact consistent.same rfl (fun _ => rfl) rfl rfl (Nat.le_refl _) rfl
  | setSelectedVariant variant =>
    have empty : world.service = none := permits
    refine ⟨consistent.provider, consistent.factory, ?_,
      consistent.numbered, consistent.proper.orderly,
      consistent.proper.slot⟩
    intro service present
    rw [show world.service = some service from present] at empty
    cases empty
  | build factory =>
    cases outcome : choose (.build factory) with
    | error error =>
      simp only [World.perform, outcome]
      exact consistent
    | ok built =>
      simp only [World.perform, outcome]
      exact consistent.same rfl id rfl rfl (Nat.le_succ _) rfl
  | reserveConnect service =>
    cases outcome : choose (.reserveConnect service) with
    | error error =>
      simp only [World.perform, outcome]
      exact consistent
    | ok reservation =>
      simp only [World.perform, outcome]
      exact consistent.reserve permits
  | tryRetire service =>
    cases outcome : choose (.tryRetire service) with
    | retired receipt =>
      simp only [World.perform, outcome]
      exact consistent.retire receipt
    | _ =>
      simp only [World.perform, outcome]
      exact consistent
  | installIfEmpty service => exact consistent.install permits
  | removeIfSame service => exact consistent.remove permits
  | recordRetirement | recordSecondaryError =>
    exact consistent.same rfl id rfl rfl (Nat.le_refl _) rfl
  | _ => exact consistent

end

end Consistent

/-! ## The logic of the commands -/

def Does : Effect (Act Profile) Act.Res (World Profile) :=
  fun world action result after =>
    ∃ choose, world.perform choose action = (result, after)

/-- Every action is permitted and keeps the invariant, and the result meets
`post`. -/
def Holds (codec : CatalogCodec Profile) {α : Type}
    (post : α → World Profile → Prop) (program : Prog (Act Profile) Act.Res α)
    (world : World Profile) : Prop :=
  Safe Does (fun _ _ _ _ => True) (Permits codec) (Consistent codec) post
    program world

/-- The same for a command, which may fail with any error. -/
def Runs (codec : CatalogCodec Profile) {α : Type}
    (post : α → World Profile → Prop) (program : Cmd Profile α)
    (world : World Profile) : Prop :=
  Holds codec (OnResult (fun _ _ => True) post) program.run world

theorem holds_perform (action : Act Profile)
    (consistent : Consistent codec world) (permits : Permits codec world action)
    {post : action.Res → World Profile → Prop}
    (leaves : ∀ choose, Consistent codec (world.perform choose action).2 →
      post (world.perform choose action).1 (world.perform choose action).2) :
    Holds codec post (Prog.perform action) world := by
  refine ⟨permits, ?_⟩
  rintro result after ⟨choose, performed⟩
  have kept := consistent.perform permits choose
  have left := leaves choose kept
  rw [performed] at kept left
  exact ⟨kept, fun _ => left⟩

namespace Runs

variable {α β : Type} {program : Cmd Profile α}
  {first : α → World Profile → Prop} {post : α → World Profile → Prop}

theorem bind {second : β → World Profile → Prop} {next : α → Cmd Profile β}
    (runs : Runs codec first program world)
    (continues : ∀ value after, first value after →
      Runs codec second (next value) after) :
    Runs codec second (program >>= next) world :=
  Safe.andThen runs continues

theorem pure {value : α} (holds : post value world) :
    Runs codec post (Pure.pure value) world :=
  holds

theorem throw (error : NetworkErrorCode) :
    Runs codec post (MonadExcept.throw error) world :=
  trivial

theorem check {result : Except NetworkErrorCode α} :
    Runs codec (fun value after => after = world ∧ result = .ok value)
      (Commands.check result) world := by
  cases result with
  | error error => exact trivial
  | ok value => exact ⟨rfl, rfl⟩

theorem attempt
    {program : Prog (Act Profile) Act.Res (Except NetworkErrorCode α)}
    (holds : Holds codec
      (fun result after => ∀ value, result = .ok value → post value after)
      program world) :
    Runs codec post (Commands.attempt program) world := by
  apply Safe.mono holds
  intro result after left
  cases result with
  | error error => trivial
  | ok value => exact left value rfl

theorem always {program : Prog (Act Profile) Act.Res α}
    (holds : Holds codec post program world) :
    Runs codec post (Commands.always program) world :=
  Safe.bind holds fun _ _ left => left

theorem mono {second : α → World Profile → Prop}
    (runs : Runs codec first program world)
    (weaker : ∀ value after, first value after → second value after) :
    Runs codec second program world := by
  apply Safe.mono runs
  intro result after left
  cases result with
  | error error => trivial
  | ok value => exact weaker value after left

theorem kept (runs : Runs codec post program world)
    (consistent : Consistent codec world) :
    Holds codec
      (fun result after => OnResult (fun _ _ => True) post result after ∧
        Consistent codec after)
      program.run world :=
  Safe.withInvariant runs consistent

end Runs

/-! ### Actions that leave the cells as they are -/

section Readings

/-- The invariant still holds, and the command has read more. -/
structure Reads (codec : CatalogCodec Profile) (world after : World Profile) :
    Prop where
  consistent : Consistent codec after
  slot : after.service = world.service
  selected : after.selectedVariant = world.selectedVariant
  files : world.evidence.files ⊆ after.evidence.files
  times : world.evidence.times ⊆ after.evidence.times

theorem Reads.trans {first second third : World Profile}
    (left : Reads codec first second) (right : Reads codec second third) :
    Reads codec first third where
  consistent := right.consistent
  slot := right.slot.trans left.slot
  selected := right.selected.trans left.selected
  files := List.Subset.trans left.files right.files
  times := List.Subset.trans left.times right.times

section

variable (consistent : Consistent codec world)
include consistent

theorem reads_self : Reads codec world world :=
  ⟨consistent, rfl, rfl, List.Subset.refl _, List.Subset.refl _⟩

theorem runs_readOwnedResource (name : String) (maximum : Nat) :
    Runs codec
      (fun bytes after => Reads codec world after ∧
        (name, bytes) ∈ after.evidence.files)
      (readOwnedResource name maximum) world := by
  apply Runs.attempt
  apply holds_perform (.read name maximum) consistent trivial
  intro choose
  simp only [World.perform]
  cases choose (.read name maximum) with
  | error error => rintro - _ ⟨⟩
  | ok bytes =>
    intro kept
    rintro _ ⟨⟩
    exact ⟨⟨kept, rfl, rfl, List.subset_cons_self _ _, List.Subset.refl _⟩,
      List.mem_cons_self⟩

theorem runs_clock :
    Runs codec
      (fun now after => Reads codec world after ∧ now ∈ after.evidence.times)
      clock world := by
  apply Runs.always
  apply holds_perform .clock consistent trivial
  intro choose kept
  exact ⟨⟨kept, rfl, rfl, List.Subset.refl _, List.subset_cons_self _ _⟩,
    List.mem_cons_self⟩

theorem runs_getCatalogProvider :
    Runs codec (fun value after => after = world ∧ value = true)
      getCatalogProvider world :=
  .always (holds_perform .getCatalogProvider consistent trivial
    fun _ _ => ⟨rfl, consistent.provider⟩)

theorem runs_getService :
    Runs codec (fun value after => after = world ∧ value = world.service)
      getService world :=
  .always (holds_perform .getService consistent trivial fun _ _ => ⟨rfl, rfl⟩)

theorem runs_getFactory :
    Runs codec (fun value after => after = world ∧ value = world.factory)
      getFactory world :=
  .always (holds_perform .getFactory consistent trivial fun _ _ => ⟨rfl, rfl⟩)

theorem runs_getSelectedVariant :
    Runs codec
      (fun value after => after = world ∧ value = world.selectedVariant)
      getSelectedVariant world :=
  .always
    (holds_perform .getSelectedVariant consistent trivial fun _ _ => ⟨rfl, rfl⟩)

theorem runs_disposition (service : BuiltService Profile) :
    Runs codec (fun _ after => after = world) (disposition service) world :=
  .always
    (holds_perform (.disposition service) consistent trivial fun _ _ => rfl)

theorem runs_status (service : BuiltService Profile) :
    Runs codec (fun _ after => after = world) (status service) world :=
  .always (holds_perform (.status service) consistent trivial fun _ _ => rfl)

end

end Readings

end KyClash.Commands
