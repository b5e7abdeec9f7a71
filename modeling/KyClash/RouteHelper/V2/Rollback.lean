import KyClash.RouteHelper.V2.World

/-!
# The v2 rollback keeps every installed route marked

A journal is held when it marks every route of the table.  The rollback loop
moves one route at a time from applied to pending, deletes it and clears the
mark, so the journal is held after every action.  When the loop ends, nothing
is marked any more and the table is empty.
-/

namespace KyClash.RouteHelper.V2

open Program World

variable {rules : RouteRules} {Owner : Type} {schema : Schema Owner}
  {world : World} {journal : Journal Owner} {holder : Owner} {cidr : Text}
  {rest : List Text} {current : Journal Owner}

theorem Schema.mem_routes {route : Route} :
    route ∈ (schema.content journal).routes ↔
      route.cidr ∈ journal.listed ∧
        route.interfaceName = schema.interfaceName journal.owner := by
  rw [schema.routes_content]
  constructor
  · intro member
    obtain ⟨cidr, listed, rfl⟩ := List.mem_map.mp member
    exact ⟨listed, rfl⟩
  · rintro ⟨listed, same⟩
    refine List.mem_map.mpr ⟨route.cidr, listed, ?_⟩
    rw [← same]

/-- This journal of the owner is valid and marks every route of the table. -/
structure Held (rules : RouteRules) (schema : Schema Owner) (holder : Owner)
    (journal : Journal Owner) (world : World) : Prop where
  recorded : world.Recorded
  covered : world.Covered (schema.content journal)
  valid : (schema.content journal).isValid rules = true
  owner : journal.owner = holder

theorem Held.of_installed {before after : World}
    (held : Held rules schema holder journal before)
    (same : after.installed = before.installed) (recorded : after.Recorded) :
    Held rules schema holder journal after :=
  ⟨recorded, held.covered.of_installed same, held.valid, held.owner⟩

/-- The state of the rollback loop: what is still to be rolled back covers
the applied routes, and a pending route outside them comes first. -/
structure Retiring (journal : Journal Owner) (rest : List Text) : Prop where
  applied : ∀ cidr ∈ journal.appliedCIDRs, cidr ∈ rest
  pending : ∀ cidr, journal.pendingCIDR = some cidr →
    cidr ∈ journal.appliedCIDRs ∨ rest.head? = some cidr

theorem retiring_eraseDups (journal : Journal Owner) :
    Retiring journal journal.owned.eraseDups.reverse := by
  constructor
  · intro cidr applied
    rw [List.mem_reverse, List.mem_eraseDups, Journal.mem_owned,
      Journal.mem_listed]
    exact .inl applied
  · intro cidr pending
    by_cases applied : cidr ∈ journal.appliedCIDRs
    · exact .inl applied
    right
    have last : journal.owned = journal.appliedCIDRs ++ [cidr] := by
      simp [Journal.owned, pending, applied]
    have single : ([cidr].removeAll journal.appliedCIDRs) = [cidr] := by
      simp [List.removeAll, applied]
    rw [last, List.eraseDups_append, single]
    simp [List.eraseDups_cons]

theorem retiring_owned (journal : Journal Owner) :
    Retiring journal journal.owned.reverse := by
  constructor
  · intro cidr applied
    rw [List.mem_reverse, Journal.mem_owned, Journal.mem_listed]
    exact .inl applied
  · intro cidr pending
    by_cases applied : cidr ∈ journal.appliedCIDRs
    · exact .inl applied
    · right
      simp [Journal.owned, pending, applied]

section

variable (retiring : Retiring journal (cidr :: rest))
include retiring

theorem Retiring.listed_deleting {other : Text}
    (listed : other ∈ journal.listed) :
    other ∈ (journal.deleting cidr).listed := by
  rw [Journal.mem_listed] at listed ⊢
  by_cases same : other = cidr
  · exact .inr (congrArg some same.symm)
  left
  have applied : other ∈ journal.appliedCIDRs := by
    rcases listed with applied | pending
    · exact applied
    · rcases retiring.pending other pending with applied | first
      · exact applied
      · exact absurd (Option.some.inj first).symm same
  exact List.mem_filter.mpr ⟨applied, by simpa using same⟩

theorem Retiring.covered_deleting
    (covered : world.Covered (schema.content journal)) :
    world.Covered (schema.content (journal.deleting cidr)) := by
  refine covered.mono ?_
  intro route member
  rw [Schema.mem_routes] at member ⊢
  exact ⟨retiring.listed_deleting member.1, member.2⟩

theorem Retiring.settled : Retiring (journal.deleting cidr).settled rest := by
  refine ⟨?_, nofun⟩
  intro other member
  obtain ⟨applied, different⟩ := List.mem_filter.mp member
  rcases List.mem_cons.mp (retiring.applied other applied) with same | later
  · simp [same] at different
  · exact later

end

/-- Once the pending route is gone from the table, its mark is not needed. -/
theorem covered_settled (covered : world.Covered (schema.content journal))
    (pending : journal.pendingCIDR = some cidr)
    (gone : ⟨cidr, schema.interfaceName journal.owner⟩ ∉ world.installed) :
    world.Covered (schema.content journal.settled) := by
  intro route member
  have marked := covered route member
  rw [Schema.mem_routes, Journal.mem_listed] at marked ⊢
  obtain ⟨applied | same, own⟩ := marked
  · exact ⟨.inl applied, own⟩
  · rw [pending] at same
    cases same
    rw [← own] at gone
    exact absurd member gone

theorem Retiring.installed_eq_nil (retiring : Retiring journal [])
    (covered : world.Covered (schema.content journal)) :
    world.installed = [] := by
  apply List.eq_nil_iff_forall_not_mem.mpr
  intro route member
  have marked := Schema.mem_routes.mp (covered route member)
  have applied : ∀ cidr, cidr ∉ journal.appliedCIDRs :=
    fun cidr found => nomatch retiring.applied cidr found
  rcases Journal.mem_listed.mp marked.1 with found | pending
  · exact applied _ found
  · rcases retiring.pending _ pending with found | first
    · exact applied _ found
    · cases first

theorem secure_inspectRoute {α : Type} {post : α → World → Prop}
    {next : Option RouteInspection → Helper α} (recorded : world.Recorded)
    (seen : ∀ inspection,
      (⟨cidr, schema.interfaceName journal.owner⟩ ∈ world.installed →
          inspection.ownedExact = true) →
        Secure rules post (next (some inspection)) world)
    (unseen : Secure rules post (next none) world) :
    Secure rules post (inspectRoute schema journal cidr >>= next) world := by
  refine secure_inspect recorded ?_ unseen
  intro entries reports
  show Secure rules post (next (entries.lookup cidr)) world
  cases found : entries.lookup cidr with
  | none => exact unseen
  | some inspection => exact seen inspection (reports cidr inspection found)

/-- What a turn of the loop establishes. -/
def Turned (rules : RouteRules) (schema : Schema Owner) (holder : Owner)
    (rest : List Text) (result : Journal Owner × Bool) (world : World) : Prop :=
  Held rules schema holder result.1 world ∧
    (result.2 = true → Retiring result.1 rest)

private theorem secure_clearMark (held : Held rules schema holder journal world)
    (pending : journal.pendingCIDR = some cidr)
    (retiring : Retiring journal.settled rest) :
    Secure rules (Turned rules schema holder rest)
      (clearMark schema journal cidr) world := by
  refine secure_inspectRoute held.recorded ?_ ⟨held, nofun⟩
  intro afterDelete reports
  dsimp only
  split
  · exact ⟨held, nofun⟩
  · next absent =>
    have gone : ⟨cidr, schema.interfaceName journal.owner⟩ ∉
        world.installed := by
      intro installed
      simp [reports installed] at absent
    have covered := covered_settled held.covered pending gone
    refine secure_persist held.recorded covered ?_ ?_
    · intro after same file valid
      have still := covered.of_installed same
      exact ⟨⟨still.recorded file, still, valid, held.owner⟩, fun _ => retiring⟩
    · intro after same recorded
      exact ⟨held.of_installed same recorded, nofun⟩

private theorem secure_deleteMarked
    (held : Held rules schema holder journal world)
    (file : world.file = some (schema.content journal))
    (pending : journal.pendingCIDR = some cidr)
    (retiring : Retiring journal.settled rest) :
    Secure rules (Turned rules schema holder rest)
      (deleteMarked schema journal cidr) world := by
  have marked : ⟨cidr, schema.interfaceName journal.owner⟩ ∈
      (schema.content journal).routes :=
    Schema.mem_routes.mpr ⟨Journal.mem_listed.mpr (.inr pending), rfl⟩
  refine secure_inspectRoute held.recorded ?_ ⟨held, nofun⟩
  intro inspection _
  dsimp only
  split
  · exact ⟨held, nofun⟩
  split
  · refine secure_mutate held.covered file (schema.lease_content journal) marked
      ?_
    intro reported after written covered
    have still : Held rules schema holder journal after :=
      ⟨covered.recorded written, covered, held.valid, held.owner⟩
    cases reported with
    | true => exact secure_clearMark still pending retiring
    | false => exact ⟨still, nofun⟩
  · exact secure_clearMark held pending retiring

private theorem secure_deleteRoute
    (held : Held rules schema holder current world)
    (retiring : Retiring current (cidr :: rest)) :
    Secure rules (Turned rules schema holder rest)
      (deleteRoute rules schema current cidr) world := by
  unfold deleteRoute
  dsimp only
  split
  · exact ⟨held, nofun⟩
  have covered := retiring.covered_deleting held.covered
  refine secure_persist held.recorded covered ?_ ?_
  · intro after same file valid
    have still := covered.of_installed same
    exact secure_deleteMarked ⟨still.recorded file, still, valid, held.owner⟩
      file rfl retiring.settled
  · intro after same recorded
    exact ⟨held.of_installed same recorded, nofun⟩

private theorem secure_deleteRoutes
    (held : Held rules schema holder current world)
    (retiring : Retiring current rest) :
    Secure rules (Turned rules schema holder [])
      (deleteRoutes rules schema current rest) world := by
  induction rest generalizing current world with
  | nil => exact ⟨held, fun _ => retiring⟩
  | cons cidr rest ih =>
    refine (secure_deleteRoute held retiring).bind ?_
    rintro ⟨journal, deleted⟩ after ⟨still, remains⟩
    cases deleted with
    | true => exact ih still (remains rfl)
    | false => exact ⟨still, nofun⟩

/-- A rollback that succeeds leaves an empty table and no file; one that fails
still holds a journal of the same owner. -/
def RolledBack (rules : RouteRules) (schema : Schema Owner) (holder : Owner)
    (result : Journal Owner × Bool) (world : World) : Prop :=
  result.1.owner = holder ∧
    match result.2 with
    | true => world.installed = [] ∧ world.file = none
    | false => Held rules schema holder result.1 world

theorem secure_rollbackJournal {owned : List Text}
    (held : Held rules schema current.owner current world)
    (retiring : Retiring current owned.reverse) :
    Secure rules (RolledBack rules schema current.owner)
      (rollbackJournal rules schema current owned) world := by
  refine secure_inspect held.recorded ?_ ⟨rfl, held⟩
  intro entries _
  dsimp only
  split
  · exact ⟨rfl, held⟩
  refine (secure_deleteRoutes held retiring).bind ?_
  rintro ⟨journal, deleted⟩ after ⟨still, remains⟩
  cases deleted with
  | false => exact ⟨still.owner, still⟩
  | true =>
    have empty := (remains rfl).installed_eq_nil still.covered
    refine secure_removeJournal empty ?_ ?_
    · intro last vacant gone
      exact ⟨still.owner, vacant, gone⟩
    · intro last vacant
      exact ⟨still.owner,
        still.of_installed (vacant.trans empty.symm) (recorded_of_empty vacant)⟩

end KyClash.RouteHelper.V2
