import KyClash.Networking.RouteSession

/-!
# What the route session's adapters do

The journal, the broker and the routing table behind the session's adapters,
with every way a call of one can fail.

* A journal or broker call that fails may have taken effect.
* A confirmation is true: the broker holds what it says it holds, and no
  longer holds what it says it released.
* An application of routes may install some whatever it reports.  An absence
  proof is true of the reference it names.
-/

namespace KyClash.Networking.RouteSession

open Program

/-- `durable` is the journal, `held` what the broker holds for the session and
`installed` the references that have routes in the table.  The other fields
remember the past: `confirmed` are the tuples whose hold the broker has
confirmed, and `exposed` the references for which routes were asked for since
their absence was last proved. -/
structure World where
  durable : Option RouteLeaseJournalRecord
  held : List RouteLeaseBinding
  installed : List RouteLeaseReferenceV3
  confirmed : List RouteLeaseBinding
  exposed : List RouteLeaseReferenceV3
  deriving DecidableEq, Repr

/-- How an action turns out: its result, and whether it took effect. -/
inductive Fortune where
  | persisted (result : Except NetworkErrorCode Unit) (effective : Bool)
  | answered (result : Except NetworkErrorCode BrokerRouteConfirmation)
      (effective : Bool)
  | applied (result : Except NetworkErrorCode Unit) (effective : Bool)
  | rolledBack (result : Except NetworkErrorCode RouteAbsenceProofV3)
      (effective : Bool)

namespace World

def initial : World where
  durable := none
  held := []
  installed := []
  confirmed := []
  exposed := []

/-- What the broker says is true of what it holds now. -/
def truthful (held : List RouteLeaseBinding) :
    Except NetworkErrorCode BrokerRouteConfirmation → Bool
  | .ok ⟨binding, .held⟩ => held.contains binding
  | .ok ⟨binding, .released⟩ => !held.contains binding
  | .error _ => true

/-- The tuples confirmed by this answer. -/
def confirmedBy :
    Except NetworkErrorCode BrokerRouteConfirmation → List RouteLeaseBinding
  | .ok ⟨binding, .held⟩ => [binding]
  | _ => []

/-- What an action returns and does, if it can turn out like this. -/
def perform (world : World) :
    (action : Act) → Fortune → Option (Act.Res action × World)
  | .persistDurable record, .persisted result effective =>
    if effective then some (result, { world with durable := some record })
    else
      match result with
      | .ok () => none
      | .error error => some (.error error, world)
  | .holdExact binding, .answered result effective =>
    let held := if effective then binding :: world.held else world.held
    if truthful held result then
      some (result,
        { world with
          held := held
          confirmed := confirmedBy result ++ world.confirmed })
    else none
  | .releaseExact binding, .answered result effective =>
    let held :=
      if effective then world.held.filter (· ≠ binding) else world.held
    if truthful held result then some (result, { world with held := held })
    else none
  | .applyExact owner, .applied result effective =>
    let reference := RouteLeaseReferenceV3.fromOwner owner
    some (result,
      { world with
        installed := if effective then reference :: world.installed
          else world.installed
        exposed := reference :: world.exposed })
  | .rollbackAndProveAbsent reference, .rolledBack result effective =>
    let installed :=
      if effective then world.installed.filter (· ≠ reference)
      else world.installed
    match result with
    | .error error =>
      some (.error error, { world with installed := installed })
    | .ok proof =>
      if installed.contains proof.reference then none
      else
        some (.ok proof,
          { world with
            installed := installed
            exposed := world.exposed.filter (· ≠ proof.reference) })
  | _, _ => none

def Acts : Effect Act Act.Res World := fun world action result after =>
  ∃ fortune, world.perform action fortune = some (result, after)

/-- What a record in this state, in memory or on file, says about the broker
and the routes. -/
def Fits (world : World) : Option RouteLeaseJournalState → Prop
  | none => world.held = [] ∧ world.exposed = []
  | some .holdPending => world.exposed = []
  | some .retirementPending => world.exposed = []
  | some .released => world.held = [] ∧ world.exposed = []
  | some _ => True

/-- Nothing is held or exposed that was not before. -/
structure Less (before after : World) : Prop where
  held : ∀ binding ∈ after.held, binding ∈ before.held
  exposed : ∀ reference ∈ after.exposed, reference ∈ before.exposed

variable {before after : World}

theorem Less.of_eq (held : after.held = before.held)
    (exposed : after.exposed = before.exposed) : Less before after := by
  constructor
  · rw [held]
    exact fun _ => id
  · rw [exposed]
    exact fun _ => id

theorem Fits.mono {state : Option RouteLeaseJournalState}
    (fits : before.Fits state) (less : Less before after) :
    after.Fits state := by
  have nothing_held : before.held = [] → after.held = [] := by
    intro empty
    apply List.eq_nil_iff_forall_not_mem.mpr
    intro binding member
    have earlier := less.held binding member
    rw [empty] at earlier
    cases earlier
  have nothing_exposed : before.exposed = [] → after.exposed = [] := by
    intro empty
    apply List.eq_nil_iff_forall_not_mem.mpr
    intro reference member
    have earlier := less.exposed reference member
    rw [empty] at earlier
    cases earlier
  rcases state with - | state
  · exact ⟨nothing_held fits.1, nothing_exposed fits.2⟩
  · cases state with
    | holdPending | retirementPending => exact nothing_exposed fits
    | released => exact ⟨nothing_held fits.1, nothing_exposed fits.2⟩
    | held | applied | recoveryOnly => trivial

variable (authorization : BrokerRouteAuthorization)

/-- The reference of every session of the authorization. -/
def sessionReference : RouteLeaseReferenceV3 where
  protocolVersion := routeHelperV3ProtocolVersion
  brokerProtocolVersion := authorization.binding.brokerProtocolVersion
  brokerGeneration := authorization.binding.brokerGeneration
  sidecarInstanceId := authorization.binding.sidecarInstanceId
  leaseId := authorization.binding.leaseId
  operationId := authorization.binding.operationId

structure Recorded (world : World) : Prop where
  fits : world.Fits (world.durable.map (·.state))
  installed : ∀ reference ∈ world.installed, reference ∈ world.exposed
  exposed : ∀ reference ∈ world.exposed, reference =
    sessionReference authorization
  held : ∀ binding ∈ world.held, binding = authorization.binding

/-- When the session may call its adapters: routes are asked for under a
confirmed hold of the session's tuple with the held record durable, a release
when no route was asked for since the last proof of absence, and the broker is
always called with the session's tuple. -/
def Permits (world : World) : Act → Prop
  | .applyExact owner =>
    owner.binding = authorization.binding ∧
      authorization.binding ∈ world.confirmed ∧
      authorization.binding ∈ world.held ∧
      ∃ record, world.durable = some record ∧ record.state = .held ∧
      record.owner = owner
  | .releaseExact binding =>
    binding = authorization.binding ∧ sessionReference authorization ∉
      world.exposed
  | .holdExact binding => binding = authorization.binding
  | _ => True

abbrev Secure {α : Type} (post : α → World → Prop)
    (program : Prog Act Act.Res α) (world : World) : Prop :=
  Safe Acts (fun _ _ _ _ => True) (Permits authorization)
    (Recorded authorization) post program world

variable {authorization} {α : Type} {post : α → World → Prop} {world : World}
  {record : RouteLeaseJournalRecord}
  {next : Except NetworkErrorCode BrokerRouteConfirmation → Prog Act Act.Res α}

theorem Recorded.less (recorded : before.Recorded authorization)
    (less : Less before after) (durable : after.durable = before.durable)
    (installed : ∀ reference ∈ after.installed, reference ∈ after.exposed) :
    after.Recorded authorization := by
  refine ⟨?_, installed,
    fun reference member => recorded.exposed _ (less.exposed _ member),
    fun binding member => recorded.held _ (less.held _ member)⟩
  rw [durable]
  exact recorded.fits.mono less

theorem secure_persist
    {next : Except NetworkErrorCode Unit → Prog Act Act.Res α}
    (recorded : world.Recorded authorization)
    (fits : world.Fits (some record.state))
    (written : ∀ after, Less world after → after.held = world.held →
      after.confirmed = world.confirmed → after.durable = some record →
      after.Recorded authorization →
      Secure authorization post (next (.ok ())) after)
    (failed : ∀ error after, Less world after → after.Recorded authorization →
      Secure authorization post (next (.error error)) after) :
    Secure authorization post
      (Prog.perform (Act.persistDurable record) >>= next) world := by
  refine ⟨trivial, ?_⟩
  rintro result after ⟨fortune, performed⟩
  cases fortune with
  | answered | applied | rolledBack => cases performed
  | persisted reported effective =>
    cases effective with
    | true =>
      cases performed
      have same : Less world { world with durable := some record } :=
        .of_eq rfl rfl
      have kept : World.Recorded authorization
          { world with durable := some record } :=
        ⟨fits.mono same, recorded.installed, recorded.exposed, recorded.held⟩
      refine ⟨kept, fun _ => ?_⟩
      cases result with
      | ok => exact written _ same rfl rfl rfl kept
      | error error => exact failed error _ same kept
    | false =>
      cases reported with
      | ok => cases performed
      | error error =>
        cases performed
        exact ⟨recorded, fun _ =>
          failed error _ (.of_eq rfl rfl) recorded⟩

section

variable (recorded : world.Recorded authorization)
include recorded

theorem secure_hold (pending : world.durable.map (·.state) = some .holdPending)
    (continues : ∀ result after, after.durable = world.durable →
      after.exposed = world.exposed → after.Recorded authorization →
      (∀ binding, result = .ok ⟨binding, .held⟩ →
        binding ∈ after.held ∧ binding ∈ after.confirmed) →
      Secure authorization post (next result) after) :
    Secure authorization post
      (Prog.perform (Act.holdExact authorization.binding) >>= next) world := by
  refine ⟨rfl, ?_⟩
  rintro result after ⟨fortune, performed⟩
  cases fortune with
  | persisted | applied | rolledBack => cases performed
  | answered reported effective =>
    simp only [perform, Option.ite_none_right_eq_some, Option.some.injEq,
      Prod.mk.injEq] at performed
    obtain ⟨truth, rfl, rfl⟩ := performed
    have kept : World.Recorded authorization
        { world with
          held := if effective then authorization.binding :: world.held
            else world.held
          confirmed := confirmedBy reported ++ world.confirmed } := by
      refine ⟨?_, recorded.installed, recorded.exposed, ?_⟩
      · have fits := recorded.fits
        rw [pending] at fits ⊢
        exact fits
      · intro binding member
        cases effective with
        | true =>
          rcases List.mem_cons.mp member with same | old
          · exact same
          · exact recorded.held binding old
        | false => exact recorded.held binding member
    refine ⟨kept, fun _ => continues reported _ rfl rfl kept ?_⟩
    rintro binding rfl
    exact ⟨by simpa [truthful] using truth,
      List.mem_append_left _ (List.mem_singleton_self _)⟩

theorem secure_release (absent : world.exposed = [])
    (continues : ∀ result after, Less world after →
      after.Recorded authorization →
      (result = .ok ⟨authorization.binding, .released⟩ → after.held = []) →
      Secure authorization post (next result) after) :
    Secure authorization post
      (Prog.perform (Act.releaseExact authorization.binding) >>= next)
      world := by
  refine ⟨⟨rfl, by simp [absent]⟩, ?_⟩
  rintro result after ⟨fortune, performed⟩
  cases fortune with
  | persisted | applied | rolledBack => cases performed
  | answered reported effective =>
    simp only [perform, Option.ite_none_right_eq_some, Option.some.injEq,
      Prod.mk.injEq] at performed
    obtain ⟨truth, rfl, rfl⟩ := performed
    have less : Less world
        { world with
          held := if effective then
              world.held.filter (· ≠ authorization.binding)
            else world.held } := by
      refine ⟨?_, fun _ => id⟩
      intro binding member
      cases effective with
      | true => exact (List.mem_filter.mp member).1
      | false => exact member
    have kept := recorded.less less rfl recorded.installed
    refine ⟨kept, fun _ => continues reported _ less kept ?_⟩
    rintro rfl
    apply List.eq_nil_iff_forall_not_mem.mpr
    intro binding member
    obtain rfl := kept.held binding member
    simp only [truthful, Bool.not_eq_true', List.contains_eq_mem,
      decide_eq_false_iff_not] at truth
    exact truth member

theorem secure_apply {owner : RouteLeaseOwnerV3}
    {next : Except NetworkErrorCode Unit → Prog Act Act.Res α}
    (own : owner.binding = authorization.binding)
    (reference : RouteLeaseReferenceV3.fromOwner owner =
      sessionReference authorization)
    (confirmed : authorization.binding ∈ world.confirmed)
    (held : authorization.binding ∈ world.held)
    (durable : world.durable = some record) (state : record.state = .held)
    (recordOwner : record.owner = owner)
    (continues : ∀ result after, after.Recorded authorization →
      Secure authorization post (next result) after) :
    Secure authorization post (Prog.perform (Act.applyExact owner) >>= next)
      world := by
  refine ⟨⟨own, confirmed, held, record, durable, state, recordOwner⟩, ?_⟩
  rintro result after ⟨fortune, performed⟩
  cases fortune with
  | persisted | answered | rolledBack => cases performed
  | applied reported effective =>
    cases performed
    have kept : World.Recorded authorization
        { world with
          installed := if effective then
              RouteLeaseReferenceV3.fromOwner owner :: world.installed
            else world.installed
          exposed :=
            RouteLeaseReferenceV3.fromOwner owner :: world.exposed } := by
      refine ⟨?_, ?_, ?_, recorded.held⟩
      · rw [durable, Option.map_some, state]
        trivial
      · intro other member
        cases effective with
        | true =>
          rcases List.mem_cons.mp member with same | old
          · exact same ▸ List.mem_cons_self
          · exact List.mem_cons_of_mem _ (recorded.installed other old)
        | false =>
          exact List.mem_cons_of_mem _ (recorded.installed other member)
      · intro other member
        rcases List.mem_cons.mp member with same | old
        · exact same.trans reference
        · exact recorded.exposed other old
    exact ⟨kept, fun _ => continues result _ kept⟩

theorem secure_rollback
    {next : Except NetworkErrorCode RouteAbsenceProofV3 → Prog Act Act.Res α}
    (continues : ∀ result after, Less world after →
      after.Recorded authorization →
      (result = .ok ⟨sessionReference authorization⟩ → after.exposed = []) →
      Secure authorization post (next result) after) :
    Secure authorization post
      (Prog.perform
        (Act.rollbackAndProveAbsent (sessionReference authorization)) >>= next)
      world := by
  refine ⟨trivial, ?_⟩
  rintro result after ⟨fortune, performed⟩
  cases fortune with
  | persisted | answered | applied => cases performed
  | rolledBack reported effective =>
    have fewer : ∀ reference ∈ (if effective then
          world.installed.filter (· ≠ sessionReference authorization)
        else world.installed), reference ∈ world.installed := by
      intro reference member
      cases effective with
      | true => exact (List.mem_filter.mp member).1
      | false => exact member
    cases reported with
    | error error =>
      cases performed
      have less : Less world
          { world with
            installed := if effective then
                world.installed.filter (· ≠ sessionReference authorization)
              else world.installed } :=
        .of_eq rfl rfl
      have kept := recorded.less less rfl fun reference member =>
        recorded.installed reference (fewer reference member)
      exact ⟨kept, fun _ => continues _ _ less kept nofun⟩
    | ok proof =>
      simp only [perform, List.contains_eq_mem, decide_eq_true_eq,
        Option.ite_none_left_eq_some, Option.some.injEq,
        Prod.mk.injEq] at performed
      obtain ⟨gone, rfl, rfl⟩ := performed
      have less : Less world
          { world with
            installed := if effective then
                world.installed.filter (· ≠ sessionReference authorization)
              else world.installed
            exposed := world.exposed.filter (· ≠ proof.reference) } :=
        ⟨fun _ => id, fun _ member => (List.mem_filter.mp member).1⟩
      have kept := recorded.less less rfl (by
        intro reference member
        refine List.mem_filter.mpr
          ⟨recorded.installed reference (fewer reference member), ?_⟩
        rw [decide_eq_true_eq]
        rintro rfl
        exact gone member)
      refine ⟨kept, fun _ => continues _ _ less kept ?_⟩
      rintro ⟨⟩
      apply List.eq_nil_iff_forall_not_mem.mpr
      intro reference member
      obtain ⟨exposed, different⟩ := List.mem_filter.mp member
      simp [recorded.exposed reference exposed] at different

end

end World

end KyClash.Networking.RouteSession
