import KyClash.Commands.Selection

/-!
# Connections agree with the selected variant

One lemma for each function of the commands, from the verification of the
catalog to the installation of a service, and from them the invariant of every
run.  A command that is dropped leaves a state in which the invariant holds,
because it holds after every action.
-/

namespace KyClash.Commands

open Transition
open Program
open Production (ProductionConnectReservation
  ProductionServiceRetirementReceipt ProductionServiceRetirementResult)

variable {Profile : Type} {codec : CatalogCodec Profile} {world : World Profile}
  {service : BuiltService Profile}
  {receipt : ProductionServiceRetirementReceipt}

theorem Evidence.Verifies.bound {evidence : Evidence}
    {variant : VerifiedProductionPolicyVariant}
    {policy : VerifiedNetworkPolicy Profile}
    (verified : evidence.Verifies codec variant policy) :
    Bound codec variant policy := by
  obtain ⟨_, _, _, _, _, _, _, _, _, _, _, made⟩ := verified
  exact bound_new made

/-- What a preparation gives, with what was read for it. -/
structure Prepared (codec : CatalogCodec Profile) (evidence : Evidence)
    (expected : Option VerifiedProductionPolicyVariant)
    (prepared : PreparedProductionPolicyVariant Profile) : Prop where
  verified : evidence.Verifies codec prepared.selected prepared.factory.origin
  profile : prepared.factory.configuration.profile =
    prepared.factory.origin.profile
  revision : prepared.factory.configuration.profileRevision =
    prepared.factory.origin.revision
  expected : ∀ variant, expected = some variant → prepared.selected = variant

private theorem selected_mem {catalog : VerifiedProductionPolicyCatalog Profile}
    {catalogID : String} {entry : VerifiedCatalogEntry Profile}
    (found : catalog.selected catalogID = .ok entry) :
    entry ∈ catalog.entries := by
  unfold VerifiedProductionPolicyCatalog.selected at found
  split at found
  · cases found
  · next other present =>
    cases found
    exact List.mem_of_find?_eq_some present

private theorem expectBinding_ok
    {expected : Option VerifiedProductionPolicyVariant}
    {binding : VerifiedProductionPolicyVariant} {value : Unit}
    (accepted : expectBinding expected binding = .ok value) :
    ∀ variant, expected = some variant → binding = variant := by
  rintro variant rfl
  unfold expectBinding at accepted
  split at accepted
  · cases accepted
  · next same =>
    have equal : variant = binding := by simpa using same
    exact equal.symm

/-- The invariant still holds, and the cells that a connection reads are as
they were. -/
structure Keeps (codec : CatalogCodec Profile) (world after : World Profile) :
    Prop where
  consistent : Consistent codec after
  factory : after.factory = world.factory
  selected : after.selectedVariant = world.selectedVariant
  evidence : after.evidence = world.evidence

theorem Keeps.trans {first second third : World Profile}
    (left : Keeps codec first second) (right : Keeps codec second third) :
    Keeps codec first third :=
  ⟨right.consistent, right.factory.trans left.factory,
    right.selected.trans left.selected, right.evidence.trans left.evidence⟩

section

variable (consistent : Consistent codec world)
include consistent

private theorem runs_verifyEntries
    (verify : Bytes → UInt64 →
      Except NetworkErrorCode (VerifiedNetworkPolicy Profile))
    (now : UInt64) (variants : List LockedVariant) :
    Runs codec
      (fun entries after => Reads codec world after ∧
        ∀ entry ∈ entries, ∃ locked ∈ variants,
          Entered codec verify now after.evidence.files locked entry.binding
            entry.policy)
      (verifyEntries codec verify now variants) world := by
  induction variants generalizing world with
  | nil => exact .pure ⟨reads_self consistent, nofun⟩
  | cons locked rest ih =>
    apply Runs.bind (runs_readOwnedResource consistent _ _)
    rintro envelope reading ⟨reads, read⟩
    apply Runs.bind Runs.check
    rintro policy _ ⟨rfl, verified⟩
    apply Runs.bind Runs.check
    rintro binding _ ⟨rfl, made⟩
    apply Runs.bind (ih reads.consistent)
    rintro entries after ⟨others, entered⟩
    refine .pure ⟨reads.trans others, ?_⟩
    intro entry member
    rcases List.mem_cons.mp member with rfl | member
    · exact ⟨locked, List.mem_cons_self, envelope, others.files read, verified,
        made⟩
    · obtain ⟨other, listed, entered⟩ := entered entry member
      exact ⟨other, List.mem_cons_of_mem _ listed, entered⟩

private theorem runs_verifyPolicyCatalog {now : UInt64}
    (told : now ∈ world.evidence.times) :
    Runs codec
      (fun catalog after => Reads codec world after ∧
        ∀ entry ∈ catalog.entries,
          after.evidence.Verifies codec entry.binding entry.policy)
      (verifyPolicyCatalog codec now) world := by
  apply Runs.bind (runs_readOwnedResource consistent _ _)
  rintro catalogBytes listing ⟨lists, -⟩
  apply Runs.bind Runs.check
  rintro catalog _ ⟨rfl, -⟩
  apply Runs.bind (runs_readOwnedResource lists.consistent _ _)
  rintro trustBytes trusting ⟨trusts, read⟩
  apply Runs.bind Runs.check
  rintro verify _ ⟨rfl, trusted⟩
  apply Runs.bind
    (runs_verifyEntries trusts.consistent verify now lockedVariants)
  rintro entries after ⟨enters, entered⟩
  apply Runs.bind Runs.check
  rintro _ _ ⟨rfl, -⟩
  have reads := (lists.trans trusts).trans enters
  refine .pure ⟨reads, ?_⟩
  intro entry member
  exact ⟨trustBytes, verify, now, enters.files read, trusted, reads.times told,
    entered entry member⟩

theorem runs_preparePolicyVariant (catalogID : String)
    (expected : Option VerifiedProductionPolicyVariant) :
    Runs codec
      (fun prepared after => Reads codec world after ∧
        Prepared codec after.evidence expected prepared)
      (preparePolicyVariant codec catalogID expected) world := by
  have begins : Runs codec (fun (_ : Unit) after => after = world)
      (Commands.attempt (Prog.perform Act.beginTransaction)) world :=
    .attempt
      (holds_perform .beginTransaction consistent trivial fun _ _ _ _ => rfl)
  apply Runs.bind begins
  rintro _ _ rfl
  apply Runs.bind (runs_clock consistent)
  rintro now _ ⟨starts, told⟩
  apply Runs.bind (runs_verifyPolicyCatalog starts.consistent told)
  rintro first _ ⟨verifies, -⟩
  apply Runs.bind Runs.check
  rintro firstEntry _ ⟨rfl, -⟩
  apply Runs.bind Runs.check
  rintro _ _ ⟨rfl, -⟩
  apply Runs.bind Runs.check
  rintro candidate verifiedOnce ⟨rfl, -⟩
  have classifies : Runs codec (fun _ after => after = verifiedOnce)
      (Commands.attempt (Prog.perform (Act.classify candidate now)))
      verifiedOnce :=
    .attempt (holds_perform (.classify candidate now) verifies.consistent
      trivial fun _ _ _ _ => rfl)
  apply Runs.bind classifies
  rintro decision _ rfl
  apply Runs.bind Runs.check
  rintro _ _ ⟨rfl, -⟩
  apply Runs.bind (runs_readOwnedResource verifies.consistent _ _)
  rintro manifestBytes _ ⟨manifests, -⟩
  apply Runs.bind Runs.check
  rintro manifest _ ⟨rfl, -⟩
  apply Runs.bind (runs_clock manifests.consistent)
  rintro commitNow _ ⟨restarts, told⟩
  apply Runs.bind (runs_verifyPolicyCatalog restarts.consistent told)
  rintro final _ ⟨verifiesAgain, verified⟩
  apply Runs.bind Runs.check
  rintro _ _ ⟨rfl, -⟩
  apply Runs.bind Runs.check
  rintro entry _ ⟨rfl, found⟩
  apply Runs.bind Runs.check
  rintro _ _ ⟨rfl, accepted⟩
  apply Runs.bind Runs.check
  rintro configuration verifiedTwice ⟨rfl, made⟩
  have commits : Runs codec (fun (_ : Unit) after => after = verifiedTwice)
      (Commands.attempt (Prog.perform (Act.commit commitNow))) verifiedTwice :=
    .attempt (holds_perform (.commit commitNow) verifiesAgain.consistent
      trivial fun _ _ _ _ => rfl)
  apply Runs.bind commits
  rintro _ _ rfl
  obtain ⟨profile, revision⟩ := configuration_new made
  have reads :=
    (starts.trans verifies).trans
      (manifests.trans (restarts.trans verifiesAgain))
  exact .pure ⟨reads, verified entry (selected_mem found), profile, revision,
    expectBinding_ok accepted⟩

theorem runs_setFactory (factory : Factory Profile) :
    Runs codec
      (fun _ after => after = { world with factory := some factory } ∧
        Consistent codec after)
      (setFactory factory) world :=
  .always
    (holds_perform (.setFactory factory) consistent trivial fun _ kept =>
      ⟨rfl, kept⟩)

theorem runs_setSelectedVariant (empty : world.service = none)
    (variant : VerifiedProductionPolicyVariant) :
    Runs codec
      (fun _ after => after = { world with selectedVariant := some variant } ∧
        Consistent codec after)
      (setSelectedVariant variant) world :=
  .always
    (holds_perform (.setSelectedVariant variant) consistent empty fun _ kept =>
      ⟨rfl, kept⟩)

theorem runs_tryRetire (service : BuiltService Profile) :
    Runs codec
      (fun result after => Keeps codec world after ∧
        after.service = world.service ∧
        ∀ receipt, result = .retired receipt →
          .retired service receipt ∈ after.history)
      (tryRetire service) world := by
  apply Runs.always
  apply holds_perform (.tryRetire service) consistent trivial
  intro choose
  simp only [World.perform]
  cases choose (.tryRetire service) with
  | retired receipt =>
    intro kept
    refine ⟨⟨kept, rfl, rfl, rfl⟩, rfl, ?_⟩
    rintro _ ⟨⟩
    exact List.mem_cons_self
  | _ =>
    intro kept
    exact ⟨⟨kept, rfl, rfl, rfl⟩, rfl, by rintro _ ⟨⟩⟩

private theorem runs_recordRetirement
    (receipt : ProductionServiceRetirementReceipt)
    (primaryError : Option NetworkErrorCode) :
    Runs codec
      (fun _ after => Keeps codec world after ∧ after.service = world.service ∧
        after.history = world.history)
      (recordRetirement receipt primaryError) world :=
  .always (holds_perform (.recordRetirement receipt primaryError) consistent
    trivial fun _ kept => ⟨⟨kept, rfl, rfl, rfl⟩, rfl, rfl⟩)

theorem runs_recordSecondaryError (generation : Nat)
    (error : NetworkErrorCode) :
    Runs codec (fun _ after => Keeps codec world after)
      (recordSecondaryError generation error) world :=
  .always (holds_perform (.recordSecondaryError generation error) consistent
    trivial fun _ kept => ⟨kept, rfl, rfl, rfl⟩)

private theorem runs_compareRemoveService
    (present : world.service = some service)
    (retired : .retired service receipt ∈ world.history) :
    Runs codec (fun _ after => Keeps codec world after ∧ after.service = none)
      (compareRemoveService service) world := by
  apply Runs.always
  apply holds_perform (.removeIfSame service) consistent
    ⟨present, receipt, retired⟩
  intro _
  simp only [World.perform, World.remove, present, if_true]
  intro kept
  exact ⟨⟨kept, rfl, rfl, rfl⟩, rfl⟩

theorem runs_removeRetired (present : world.service = some service)
    (retired : .retired service receipt ∈ world.history)
    (primaryError : Option NetworkErrorCode) :
    Runs codec (fun _ after => Keeps codec world after ∧ after.service = none)
      (removeRetired service receipt primaryError) world := by
  apply Runs.bind (runs_recordRetirement consistent receipt primaryError)
  rintro _ noted ⟨keeps, slot, history⟩
  rw [← slot] at present
  rw [← history] at retired
  apply Runs.bind (runs_compareRemoveService keeps.consistent present retired)
  rintro removed after ⟨emptied, empty⟩
  cases removed with
  | true => exact .pure ⟨keeps.trans emptied, empty⟩
  | false =>
    apply Runs.bind (runs_recordSecondaryError emptied.consistent _ _)
    intro _ _ _
    exact .throw _

private theorem runs_retireSelected (present : world.service = some service) :
    Runs codec (fun _ after => Keeps codec world after ∧ after.service = none)
      (retireSelected service) world := by
  apply Runs.bind (runs_tryRetire consistent service)
  rintro result after ⟨keeps, slot, receipts⟩
  cases result with
  | retired receipt =>
    apply Runs.bind (runs_status keeps.consistent service)
    rintro current _ rfl
    have removes := runs_removeRetired keeps.consistent
      (slot.trans present) (receipts receipt rfl) current.lastError
    apply removes.mono
    rintro _ final ⟨emptied, empty⟩
    exact ⟨keeps.trans emptied, empty⟩
  | _ => exact .throw _

private theorem runs_retireCurrent :
    Runs codec (fun _ after => Keeps codec world after ∧ after.service = none)
      (retireCurrent world.service) world := by
  cases present : world.service with
  | none => exact .pure ⟨⟨consistent, rfl, rfl, rfl⟩, present⟩
  | some service => exact runs_retireSelected consistent present

/-- A candidate that is closed publishes nothing. -/
theorem runs_discard {α : Type} {post : α → World Profile → Prop}
    (candidate : BuiltService Profile) (error : NetworkErrorCode) :
    Runs codec post (discard candidate error) world := by
  have closes : Runs codec (fun _ _ => True)
      (closeUnpublishedService candidate error) world := by
    apply Runs.bind (runs_tryRetire consistent candidate)
    intro result _ _
    cases result with
    | _ => exact .pure trivial
  apply Runs.bind closes
  intro _ _ _
  exact .throw _

private theorem runs_configureFactoryLocked (factory : Factory Profile) :
    Runs codec (fun _ after => Consistent codec after)
      (configureFactoryLocked factory) world := by
  apply Runs.bind (runs_getService consistent)
  rintro service _ ⟨rfl, rfl⟩
  split
  · exact .throw _
  apply Runs.bind (runs_getFactory consistent)
  rintro current _ ⟨rfl, rfl⟩
  split
  · exact .throw _
  · exact (runs_setFactory consistent factory).mono fun _ _ left => left.2

/-- Without a factory there is no service, so a variant may be selected. -/
theorem runs_configurePolicy :
    Runs codec (fun _ after => Consistent codec after) (configurePolicy codec)
      world := by
  apply Runs.bind (runs_getFactory consistent)
  rintro factory world ⟨rfl, seen⟩
  cases factory with
  | some factory => exact .pure consistent
  | none =>
    have empty : world.service = none := by
      cases present : world.service with
      | none => rfl
      | some service =>
        have configured := consistent.factory (by rw [present]; rfl)
        rw [← seen] at configured
        cases configured
    apply Runs.bind (runs_getCatalogProvider consistent)
    rintro _ _ ⟨rfl, rfl⟩
    apply Runs.bind (runs_preparePolicyVariant consistent baseVariantID none)
    rintro prepared _ ⟨reads, -⟩
    rw [← reads.slot] at empty
    apply Runs.bind
      (runs_setSelectedVariant reads.consistent empty prepared.selected)
    rintro _ after ⟨-, kept⟩
    exact runs_configureFactoryLocked kept prepared.factory

private theorem runs_statusSnapshot :
    Runs codec (fun _ _ => True) statusSnapshot world := by
  apply Runs.bind (runs_getService consistent)
  rintro service _ ⟨rfl, rfl⟩
  split
  · exact (runs_status consistent _).mono fun _ _ _ => trivial
  apply Runs.bind (runs_getFactory consistent)
  rintro factory _ ⟨rfl, rfl⟩
  split
  · exact .throw _
  · exact .pure trivial

private theorem runs_initializeNetworking :
    Runs codec (fun _ _ => True) (initializeNetworking codec) world := by
  apply Runs.bind (runs_configurePolicy consistent)
  intro _ _ kept
  exact runs_statusSnapshot kept

private theorem runs_engaged (service : Option (BuiltService Profile)) :
    Runs codec (fun _ after => after = world) (engaged service) world := by
  cases service with
  | none => exact .pure rfl
  | some service =>
    apply Runs.bind (runs_status consistent service)
    rintro current _ rfl
    exact .pure rfl

private theorem runs_prepareSelection (catalogID : String) :
    Runs codec (fun _ after => Reads codec world after)
      (prepareSelection codec catalogID) world := by
  apply Runs.bind (runs_getCatalogProvider consistent)
  rintro _ _ ⟨rfl, rfl⟩
  exact (runs_preparePolicyVariant consistent catalogID none).mono
    fun _ _ left => left.1

/-- The slot is empty before the selection changes. -/
theorem runs_selectPolicyVariant (catalogID : String) :
    Runs codec (fun _ _ => True) (selectPolicyVariant codec catalogID)
      world := by
  apply Runs.bind (runs_getService consistent)
  rintro _ _ ⟨rfl, rfl⟩
  apply Runs.bind (runs_engaged consistent _)
  rintro engaged _ rfl
  cases engaged with
  | true => exact .throw _
  | false =>
    apply Runs.bind (runs_prepareSelection consistent catalogID)
    rintro prepared _ reads
    rw [← reads.slot]
    apply Runs.bind (runs_retireCurrent reads.consistent)
    rintro _ emptied ⟨keeps, empty⟩
    apply Runs.bind (runs_setFactory keeps.consistent prepared.factory)
    rintro _ _ ⟨rfl, kept⟩
    apply Runs.bind (runs_setSelectedVariant kept empty prepared.selected)
    intro _ _ _
    exact Runs.check.mono fun _ _ _ => trivial

end

/-- The factory is of the selected variant, which the running command has
verified. -/
structure Fresh (codec : CatalogCodec Profile) (world : World Profile) :
    Prop where
  consistent : Consistent codec world
  ready : ∃ factory variant, world.factory = some factory ∧
    world.selectedVariant = some variant ∧
    Prepared codec world.evidence (some variant) ⟨[], variant, factory⟩

theorem Fresh.keeps {after : World Profile} (fresh : Fresh codec world)
    (keeps : Keeps codec world after) : Fresh codec after := by
  obtain ⟨factory, variant, configured, selected, prepared⟩ := fresh.ready
  refine ⟨keeps.consistent, factory, variant, keeps.factory.trans configured,
    keeps.selected.trans selected, ?_⟩
  rw [keeps.evidence]
  exact prepared

theorem Fresh.faithful (fresh : Fresh codec world)
    (present : world.service = some service) :
    Faithful codec service world.selectedVariant world.evidence := by
  obtain ⟨factory, variant, configured, selected, prepared⟩ := fresh.ready
  obtain ⟨bound, seen, agrees⟩ := fresh.consistent.agrees service present
  obtain rfl := Option.some.inj (selected.symm.trans seen)
  exact ⟨variant, factory.origin, selected, prepared.verified,
    prepared.verified.bound, agrees.builtFrom prepared.verified.bound⟩

private theorem runs_build (fresh : Fresh codec world)
    {factory : Factory Profile} (configured : world.factory = some factory) :
    Runs codec
      (fun built after => Fresh codec after ∧
        Faithful codec built after.selectedVariant after.evidence ∧
        Permits codec after (.installIfEmpty built))
      (build factory) world := by
  apply Runs.attempt
  apply holds_perform (.build factory) fresh.consistent trivial
  intro choose
  simp only [World.perform]
  cases choose (.build factory) with
  | error error => rintro - _ ⟨⟩
  | ok _ =>
    intro kept
    rintro _ ⟨⟩
    obtain ⟨current, variant, present, selected, prepared⟩ := fresh.ready
    obtain rfl := Option.some.inj (configured.symm.trans present)
    have bound := prepared.verified.bound
    refine ⟨fresh.keeps ⟨kept, rfl, rfl, rfl⟩, ?_, ?_⟩
    · exact ⟨variant, factory.origin, selected, prepared.verified, bound,
        congrArg codec.profileSHA256 prepared.profile, prepared.revision, rfl⟩
    · refine ⟨?_, Nat.lt_succ_self _, ?_, variant, selected, bound,
        prepared.profile, prepared.revision⟩
      · exact Option.isSome_iff_exists.mpr ⟨factory, present⟩
      · intro other installed
        exact Nat.ne_of_lt (fresh.consistent.numbered other installed)

section

variable (consistent : Consistent codec world)
include consistent

private theorem runs_refreshFactory :
    Runs codec (fun _ after => Fresh codec after) (refreshFactory codec)
      world := by
  apply Runs.bind (runs_getCatalogProvider consistent)
  rintro _ _ ⟨rfl, rfl⟩
  apply Runs.bind (runs_getSelectedVariant consistent)
  rintro selected world ⟨rfl, seen⟩
  cases selected with
  | none => exact .throw _
  | some variant =>
    apply Runs.bind
      (runs_preparePolicyVariant consistent variant.summary.catalogID
        (some variant))
    rintro prepared _ ⟨reads, ready⟩
    apply (runs_setFactory reads.consistent prepared.factory).mono
    rintro _ _ ⟨rfl, kept⟩
    have same := ready.expected variant rfl
    refine ⟨kept, prepared.factory, variant, rfl,
      reads.selected.trans seen.symm, ?_⟩
    exact ⟨same ▸ ready.verified, ready.profile, ready.revision,
      fun _ => Option.some.inj⟩

private theorem runs_tryReserveConnect
    (faithful : Faithful codec service world.selectedVariant world.evidence)
    (permits : Permits codec world (.installIfEmpty service)) :
    Runs codec
      (fun _ after => Consistent codec after ∧
        Permits codec after (.installIfEmpty service))
      (tryReserveConnect service) world := by
  apply Runs.always
  apply holds_perform (.reserveConnect service) consistent faithful
  intro choose
  simp only [World.perform]
  cases choose (.reserveConnect service) with
  | error error =>
    intro kept
    exact ⟨kept, permits⟩
  | ok reservation =>
    intro kept
    obtain ⟨factory, below, fresh, agrees⟩ := permits
    refine ⟨kept, factory, below, ?_, agrees⟩
    intro other installed
    rcases List.mem_cons.mp installed with same | installed
    · cases same
    · exact fresh other installed

private theorem runs_installIfEmpty
    (permits : Permits codec world (.installIfEmpty service)) :
    Runs codec (fun _ after => Consistent codec after) (installIfEmpty service)
      world :=
  .always
    (holds_perform (.installIfEmpty service) consistent permits fun _ kept =>
      kept)

private theorem runs_abandon (service : BuiltService Profile)
    (reservation : ProductionConnectReservation) :
    Runs codec (fun _ after => after = world) (abandon service reservation)
      world :=
  .always
    (holds_perform (.abandon service reservation) consistent trivial fun _ _ =>
      rfl)

end

section

variable (fresh : Fresh codec world)
include fresh

theorem runs_buildInstallReservedLocked :
    Runs codec (fun _ _ => True) buildInstallReservedLocked world := by
  apply Runs.bind (runs_getFactory fresh.consistent)
  rintro factory world ⟨rfl, configured⟩
  cases factory with
  | none => exact .throw _
  | some factory =>
    apply Runs.bind (runs_build fresh configured.symm)
    rintro candidate built ⟨fresh, faithful, permits⟩
    apply Runs.bind (runs_tryReserveConnect fresh.consistent faithful permits)
    rintro outcome reserved ⟨consistent, permits⟩
    cases outcome with
    | error error => exact runs_discard consistent candidate error
    | ok reservation =>
      apply Runs.bind (runs_installIfEmpty consistent permits)
      intro installed after consistent
      cases installed with
      | true => exact .pure trivial
      | false =>
        apply Runs.bind (runs_abandon consistent candidate reservation)
        rintro _ _ rfl
        exact runs_discard consistent candidate _

private theorem runs_replaceRetired (generation : Nat) :
    Runs codec (fun _ _ => True) (replaceRetired generation) world := by
  have builds := (runs_buildInstallReservedLocked fresh).kept fresh.consistent
  apply Safe.bind builds
  rintro result after ⟨-, consistent⟩
  cases result with
  | ok target => exact trivial
  | error error =>
    apply Safe.bind (runs_recordSecondaryError consistent generation error)
    intro _ _ _
    exact trivial

private theorem runs_rematerializeTerminalLocked
    (present : world.service = some service) :
    Runs codec (fun _ _ => True) (rematerializeTerminalLocked service)
      world := by
  apply Runs.bind (runs_status fresh.consistent service)
  rintro primary _ rfl
  apply Runs.bind (runs_tryRetire fresh.consistent service)
  rintro result after ⟨keeps, slot, receipts⟩
  cases result with
  | retired receipt =>
    apply Runs.bind (runs_removeRetired keeps.consistent
      (slot.trans present) (receipts receipt rfl) primary.lastError)
    rintro _ emptied ⟨removed, -⟩
    exact runs_replaceRetired ((fresh.keeps keeps).keeps removed) _
  | _ => exact .throw _

private theorem runs_reserveReusable (present : world.service = some service) :
    Runs codec (fun _ _ => True) (reserveReusable service) world := by
  have reserves : Runs codec (fun _ _ => True) (reserveConnect service) world :=
    .attempt (holds_perform (.reserveConnect service) fresh.consistent
      (fresh.faithful present) fun _ _ _ _ => trivial)
  apply Runs.bind reserves
  intro _ _ _
  exact .pure trivial

private theorem runs_admitConnect :
    Runs codec (fun _ _ => True) admitConnect world := by
  apply Runs.bind (runs_getService fresh.consistent)
  rintro service world ⟨rfl, present⟩
  cases service with
  | none => exact runs_buildInstallReservedLocked fresh
  | some service =>
    apply Runs.bind (runs_disposition fresh.consistent service)
    rintro kind _ rfl
    cases kind with
    | reusable => exact runs_reserveReusable fresh present.symm
    | terminalCandidate =>
      exact runs_rematerializeTerminalLocked fresh present.symm
    | _ => exact .throw _

end

section

variable (consistent : Consistent codec world)
include consistent

private theorem runs_serviceForConnect :
    Runs codec (fun _ _ => True) (serviceForConnect codec) world := by
  apply Runs.bind (runs_refreshFactory consistent)
  intro _ _ fresh
  exact runs_admitConnect fresh

private theorem runs_cancelExact (operationID : String) :
    Runs codec (fun _ _ => True) (cancelExact operationID) world := by
  apply Runs.bind (runs_getService consistent)
  rintro service _ ⟨rfl, -⟩
  cases service with
  | none => exact .throw _
  | some service =>
    apply Runs.bind (runs_disposition consistent service)
    rintro kind _ rfl
    cases kind with
    | retired => exact .throw _
    | _ =>
      exact .attempt (holds_perform (.cancel service operationID)
        consistent trivial fun _ _ _ _ => trivial)

private theorem runs_disconnectExact (operationID : String) :
    Runs codec (fun _ _ => True) (disconnectExact operationID) world := by
  apply Runs.bind (runs_getService consistent)
  rintro service _ ⟨rfl, -⟩
  cases service with
  | none => exact .throw _
  | some service =>
    apply Runs.bind (runs_disposition consistent service)
    rintro kind _ rfl
    cases kind with
    | retired => exact .throw _
    | _ =>
      exact .attempt (holds_perform (.disconnect service operationID)
        consistent trivial fun _ _ _ _ => trivial)

private theorem runs_program (command : Command) :
    Runs codec (fun _ _ => True) (command.program codec) world := by
  cases command with
  | initializeNetworking =>
    apply Runs.bind (runs_initializeNetworking consistent)
    intro _ _ _
    exact .pure trivial
  | select catalogID =>
    apply Runs.bind (runs_selectPolicyVariant consistent catalogID)
    intro _ _ _
    exact .pure trivial
  | connect =>
    apply Runs.bind (runs_serviceForConnect consistent)
    intro _ _ _
    exact .pure trivial
  | cancel operationID => exact runs_cancelExact consistent operationID
  | disconnect operationID =>
    apply Runs.bind (runs_disconnectExact consistent operationID)
    intro _ _ _
    exact .pure trivial

end

/-- What holds between any two actions. -/
structure System.Sound (codec : CatalogCodec Profile)
    (system : System Profile) : Prop where
  consistent : Consistent codec system.world
  running : ∀ program, system.running = some program →
    Holds codec (fun _ _ => True) program system.world

private theorem consistent_start (nextGeneration : Nat) :
    Consistent codec (World.start nextGeneration) := by
  refine ⟨rfl, nofun, nofun, nofun, ⟨nofun, ?_, ?_⟩, nofun⟩
  all_goals
    intro service earlier suffix
    cases List.suffix_nil.mp suffix

namespace System.Sound

variable {system next : System Profile}

private theorem begin_command (sound : system.Sound codec) (command : Command) :
    System.Sound codec {
      world := { system.world with evidence := ⟨[], []⟩ }
      running := some (command.program codec).run } := by
  have consistent : Consistent codec
      { system.world with evidence := ⟨[], []⟩ } :=
    sound.consistent.same rfl id rfl rfl (Nat.le_refl _) rfl
  refine ⟨consistent, ?_⟩
  rintro _ ⟨⟩
  exact Safe.mono (runs_program consistent command) fun _ _ _ => trivial

private theorem act (sound : system.Sound codec) {action : Act Profile}
    {rest : action.Res →
      Prog (Act Profile) Act.Res (Except NetworkErrorCode Unit)}
    (running : system.running = some (.act action rest))
    (choose : Choice Profile) :
    System.Sound codec {
      world := (system.world.perform choose action).2
      running := some (rest (system.world.perform choose action).1) } := by
  obtain ⟨kept, continues⟩ := (sound.running _ running).2 _ _ ⟨choose, rfl⟩
  refine ⟨kept, ?_⟩
  rintro _ ⟨⟩
  exact continues trivial

private theorem step (sound : system.Sound codec) {event : Event Profile}
    (taken : system.step codec event = some next) : next.Sound codec := by
  unfold System.step at taken
  split at taken
  · split at taken
    · cases taken
    · cases taken
      exact sound.begin_command _
  · split at taken
    · next running =>
      cases taken
      exact sound.act running _
    · cases taken
  -- A command that has returned or was dropped leaves its world behind.
  all_goals
    split at taken
    · cases taken
      exact ⟨sound.consistent, nofun⟩
    · cases taken

end System.Sound

/-- In every run of the commands each reservation is for a service that was
built from the selected variant as the same command has verified it, at most
one service is installed, and a replaced service was removed with its
receipt. -/
theorem connections_agree_with_selection (codec : CatalogCodec Profile)
    (nextGeneration : Nat) (system : System Profile)
    (reached : Reaches (System.step codec) (fun _ _ => True)
      (System.start nextGeneration) system) :
    system.world.Proper codec := by
  have sound : system.Sound codec := by
    apply reached.invariant
    · exact ⟨consistent_start nextGeneration, nofun⟩
    · intro before event after sound _ taken
      exact sound.step taken
  exact sound.consistent.proper

/-! ### A replaced service -/

/-- A profile is its envelope, whose first byte numbers a locked variant. -/
def plainCodec : CatalogCodec Bytes where
  parseCatalog _ := some ⟨1, 1, lockedVariants.map fun locked =>
    ⟨locked.id, locked.envelopeResource⟩⟩
  trust _ := .ok fun envelope _ => .ok ⟨[], envelope, 1, 9, 1, envelope⟩
  parseManifest _ := some ⟨1, List.replicate 64 48, [97], [97], [97]⟩
  sha256 _ := List.replicate 64 48
  profileSHA256 profile := .ok profile
  privateCIDRs profile :=
    ((lockedVariants.map (·.routes))[(profile.headD 0).toNat]?).getD []
  validateProfile _ := .ok ()

/-- Every file and every service answers; the second byte of an envelope is
the given one. -/
def answers (mark : UInt8) : Choice Bytes
  | .read name _ => .ok [(lockedVariants.findIdx
      (·.envelopeResource = name)).toUInt8, mark]
  | .clock => (2 : UInt64)
  | .beginTransaction => .ok ()
  | .classify _ _ => .ok .new
  | .commit _ => .ok ()
  | .initializeProvider => .error .invalidConfiguration
  | .getCatalogProvider => true
  | .getService => none
  | .getFactory => none
  | .getSelectedVariant => none
  | .setFactory _ => ()
  | .setSelectedVariant _ => ()
  | .build factory => .ok ⟨0, factory.configuration, factory.origin⟩
  | .disposition _ => .reusable
  | .status _ => ⟨.disconnected, none⟩
  | .reserveConnect service => .ok ⟨service.generation, 1⟩
  | .abandon _ _ => ()
  | .tryRetire service =>
    .retired ⟨service.generation, ⟨service.generation, 1⟩, ⟨1, .reaped⟩⟩
  | .installIfEmpty _ => true
  | .removeIfSame _ => true
  | .recordRetirement _ _ => ()
  | .recordSecondaryError _ _ => ()
  | .cancel _ _ => .ok ()
  | .disconnect _ _ => .ok ⟨.disconnected, none⟩

/-- A command that runs to its end. -/
def whole (command : Command) (mark : UInt8) (actions : Nat) :
    List (Event Bytes) :=
  .command command :: List.replicate actions (.act (answers mark)) ++ [.returns]

/-- The envelopes change after the first connection.  The second one fails,
and a selection replaces the service. -/
def replacementRun : List (Event Bytes) :=
  whole .initializeNetworking 0 26 ++ whole .connect 0 26 ++
    whole .connect 1 10 ++ whole (.select baseVariantID) 1 27 ++
    whole .connect 1 26

def Observation.reservedGeneration : Observation Bytes → Option Nat
  | .reserved service _ _ => some service.generation
  | _ => none

def Observation.removedGeneration : Observation Bytes → Option Nat
  | .removed service => some service.generation
  | _ => none

theorem replaced_service_agrees_with_selection :
    ∃ system,
      Reaches (System.step plainCodec) (fun _ _ => True) (System.start 1)
          system ∧
        system.world.service.map (·.configuration.profile) = some [0, 1] ∧
        system.world.history.filterMap Observation.reservedGeneration = [2, 1] ∧
        system.world.history.filterMap Observation.removedGeneration = [1] ∧
        system.world.Proper plainCodec := by
  have seen : (run (System.step plainCodec) (System.start 1)
      replacementRun).map (fun system =>
        (system.world.service.map (·.configuration.profile),
          system.world.history.filterMap Observation.reservedGeneration,
          system.world.history.filterMap Observation.removedGeneration)) =
      some (some [0, 1], [2, 1], [1]) := by
    decide +kernel
  obtain ⟨system, reached, facts⟩ := exists_of_replay seen
  simp only [Prod.mk.injEq] at facts
  exact ⟨system, reached, facts.1, facts.2.1, facts.2.2,
    connections_agree_with_selection plainCodec 1 system reached⟩

end KyClash.Commands
