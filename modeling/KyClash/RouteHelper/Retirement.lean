import KyClash.RouteHelper.Ledger

/-!
# Retirement keeps the ledger

Safety of `retireLocked` after every single action: the rollback loop, the
retirement record, the broker release and the removal of the journal.
-/

namespace KyClash.RouteHelper

open Program World

/-- What holds of the process and the world between two operations. -/
structure Steady (rules : RouteRules) (memory : Memory) (world : World) :
    Prop where
  recorded : world.Recorded rules
  covered : ∀ journal, memory.journal = some journal → world.Covered journal
  vacant : memory.journal = none → world.installed = []
  retiring : ∀ journal, memory.journal = some journal →
    journal.state = .retirementPending → world.Durable (some journal)
  released : ∀ journal, memory.journal = some journal →
    journal.state = .released → journal.listed = []

/-- The record of a lease that still owns its routes. -/
def RouteJournalV3.Live (journal : RouteJournalV3) : Prop :=
  journal.state ≠ .retirementPending ∧ journal.state ≠ .released

/-- A failed operation leaves the helper in recovery-only mode. -/
structure Faulted (rules : RouteRules) (memory : Memory) (world : World) :
    Prop where
  steady : Steady rules memory world
  recoveryOnly : memory.recoveryOnly = true

variable {journal : RouteJournalV3} {reply : HelperReplyV3}
  {rules : RouteRules} {memory : Memory} {world : World}
  {journal : RouteJournalV3} {cidr : Text} {rest : List Text}
  {reference : LeaseReferenceV3} {retirement : RouteJournalV3}

theorem Faulted.recovering (recorded : world.Recorded rules)
    (covered : world.Covered journal) (live : journal.Live) :
    Faulted rules (memory.recovering journal) world := by
  refine ⟨?_, rfl⟩
  constructor
  · exact recorded
  · rintro other ⟨⟩
    exact covered
  · rintro ⟨⟩
  · rintro other ⟨⟩ state
    exact absurd state live.1
  · rintro other ⟨⟩ state
    exact absurd state live.2

/-- What a part of an operation leaves: a failure, or a record that meets
`good`. -/
def Outcome (rules : RouteRules) (good : RouteJournalV3 → World → Prop) :
    Except (Memory × HelperReplyV3) RouteJournalV3 → World → Prop
  | .error (memory, _), world => Faulted rules memory world
  | .ok journal, world => good journal world

/-- What a whole operation on `memory` leaves.  Unless it failed or ended the
lease, it was refused and changed nothing. -/
structure Ended (rules : RouteRules) (memory : Memory)
    (result : Memory × HelperReplyV3) (world : World) : Prop where
  steady : Steady rules result.1 world
  settled : result.1.recoveryOnly = true ∨ result.1.journal = none ∨
    (result.1 = memory ∧ result.2.unreleased = true)

theorem Faulted.ended {memory failed : Memory}
    (faulted : Faulted rules failed world) :
    Ended rules memory (failed, reply) world :=
  ⟨faulted.steady, .inl faulted.recoveryOnly⟩

/-- What one turn of the rollback loop leaves. -/
structure RolledBack (rules : RouteRules) (before : RouteJournalV3)
    (rest : List Text) (after : RouteJournalV3) (world : World) : Prop where
  recorded : world.Recorded rules
  covered : world.Covered after
  retiring : Retiring after rest
  state : after.state = before.state
  owner : after.owner = before.owner

/-- The retirement record is written and no route is left. -/
structure RetirementWritten (rules : RouteRules) (reference : LeaseReferenceV3)
    (retirement : RouteJournalV3) (world : World) : Prop where
  recorded : world.Recorded rules
  written : world.Durable (some retirement)
  state : retirement.state = .retirementPending
  reference : retirement.reference = reference
  vacant : world.installed = []

theorem covered_of_vacant (vacant : world.installed = [])
    (journal : RouteJournalV3) : world.Covered journal := by
  intro route member
  rw [vacant] at member
  cases member

theorem RetirementWritten.faulted
    (retired : RetirementWritten rules reference retirement world) :
    Faulted rules (memory.recovering retirement) world := by
  refine ⟨?_, rfl⟩
  constructor
  · exact retired.recorded
  · intro journal _
    exact covered_of_vacant retired.vacant journal
  · rintro ⟨⟩
  · rintro journal ⟨⟩ _
    exact retired.written
  · rintro journal ⟨⟩ state
    rw [retired.state] at state
    cases state

theorem Ended.cleared {before : Memory} (vacant : world.installed = [])
    (recorded : world.Recorded rules) :
    Ended rules before (memory.cleared, reply) world := by
  refine ⟨?_, .inr (.inl rfl)⟩
  constructor
  · exact recorded
  · rintro journal ⟨⟩
  · intro _
    exact vacant
  · rintro journal ⟨⟩
  · rintro journal ⟨⟩

section

variable (recorded : world.Recorded rules)
include recorded

private theorem secure_deleteRoute (covered : world.Covered journal)
    (live : journal.Live) (retiring : Retiring journal (cidr :: rest)) :
    Secure rules
      (Outcome rules fun marked after => marked =
        { journal with pendingCIDR := some cidr } ∧ after.Recorded rules ∧
        after.Covered marked ∧ ¬ after.Installed cidr
        journal.owner.interfaceName)
      (deleteRoute memory journal cidr) world := by
  have marked := covered.marked retiring
  apply secure_persist recorded marked
  · intro first same written valid
    have still := marked.of_sameRoutes same
    have kept : first.Recorded rules := .of_written marked same written valid
    apply secure_mutate kept still written (by simp [RouteJournalV3.listed])
    intro reported second covers records
    have failed : Faulted rules
        (memory.recovering { journal with pendingCIDR := some cidr }) second :=
      .recovering records covers live
    cases reported with
    | false => exact failed
    | true =>
      apply secure_inspect records
      · intro entries truthful
        cases found : entries.lookup cidr with
        | none =>
          simp only [found]
          exact failed
        | some entry =>
          by_cases dirty : (entry.ownedExact || entry.foreignConflict)
          · simp only [found, dirty]
            exact failed
          simp only [found, dirty]
          refine ⟨rfl, records, covers, ?_⟩
          intro installed
          have owned := truthful cidr entry found installed
          simp [owned] at dirty
      · exact failed
  · intro first same kept _
    exact .recovering kept (marked.of_sameRoutes same) live

private theorem secure_unlist {marked : RouteJournalV3}
    (covered : world.Covered marked) (retiring : Retiring marked (cidr :: rest))
    (live : marked.Live) (state : marked.state = journal.state)
    (owner : marked.owner = journal.owner)
    (gone : ¬ world.Installed cidr marked.owner.interfaceName) :
    Secure rules (Outcome rules (RolledBack rules journal rest)) (do
        if ← Seam.persist (without marked cidr) then
          return .ok (without marked cidr)
        return .error (memory.recovering (without marked cidr),
          v3Reply (without marked cidr) (some .journalWriteFailed))) world := by
  have unlisted := covered.without retiring gone
  apply secure_persist recorded unlisted
  · intro after same written valid
    exact ⟨.of_written unlisted same written valid,
      unlisted.of_sameRoutes same, retiring.without, state, owner⟩
  · intro after same kept _
    exact .recovering kept (unlisted.of_sameRoutes same) live

private theorem secure_retireRoute (covered : world.Covered journal)
    (live : journal.Live) (retiring : Retiring journal (cidr :: rest)) :
    Secure rules (Outcome rules (RolledBack rules journal rest))
      (retireRoute memory journal cidr) world := by
  have failed : Faulted rules (memory.recovering journal) world :=
    .recovering recorded covered live
  apply secure_inspect recorded
  · intro entries truthful
    cases found : entries.lookup cidr with
    | none =>
      simp only [found]
      exact failed
    | some inspection =>
      by_cases conflict : inspection.foreignConflict
      · simp only [found, conflict]
        exact failed
      simp only [found, conflict]
      by_cases owned : inspection.ownedExact
      · simp only [owned]
        refine (secure_deleteRoute recorded covered live retiring).bind ?_
        intro result after outcome
        cases result with
        | error reply => exact outcome
        | ok marked =>
          obtain ⟨rfl, records, covers, gone⟩ := outcome
          exact secure_unlist records covers retiring.marked live rfl rfl gone
      · simp only [owned]
        have gone : ¬ world.Installed cidr
            journal.owner.interfaceName := by
          intro installed
          exact owned (truthful cidr inspection found installed)
        exact secure_unlist recorded covered retiring live rfl rfl gone
  · exact failed

private theorem secure_retireRoutes (covered : world.Covered journal)
    (live : journal.Live) (retiring : Retiring journal rest) :
    Secure rules (Outcome rules (RolledBack rules journal []))
      (retireRoutes memory journal rest) world := by
  -- The induction is on the routes still to be rolled back.
  induction rest generalizing journal world with
  | nil => exact ⟨recorded, covered, retiring, rfl, rfl⟩
  | cons cidr rest ih =>
    refine (secure_retireRoute recorded covered live retiring).bind ?_
    intro result after outcome
    cases result with
    | error reply => exact outcome
    | ok next =>
      have still : next.Live := by
        simpa [RouteJournalV3.Live, outcome.state] using live
      refine (ih outcome.recorded outcome.covered still outcome.retiring).mono
        ?_
      intro result final ended
      cases result with
      | error reply => exact ended
      | ok last =>
        exact { ended with
          state := ended.state.trans outcome.state
          owner := ended.owner.trans outcome.owner }

private theorem secure_persistRetirement (vacant : world.installed = [])
    (same : journal.reference = reference)
    (unreleased : journal.state ≠ .released)
    (retiring : journal.state = .retirementPending →
      world.Durable (some journal)) :
    Secure rules (Outcome rules (RetirementWritten rules reference))
      (persistRetirement rules memory journal reference) world := by
  unfold persistRetirement
  by_cases state : journal.state = .retirementPending
  · have written := retiring state
    have valid := recorded.valid journal written.file
    simp only [if_pos state, valid, if_true]
    exact ⟨recorded, written, state, same, vacant⟩
  · have live : journal.Live := ⟨state, unreleased⟩
    have failed : ∀ after : World, after.Recorded rules → after.installed = [] →
        Faulted rules (memory.recovering journal) after := by
      intro after kept empty
      exact .recovering kept (covered_of_vacant empty journal) live
    simp only [if_neg state]
    cases next : journal.transitioned rules .retirementPending reference with
    | error error => exact failed world recorded vacant
    | ok retirement =>
      obtain ⟨rfl, valid, -⟩ := RouteJournalV3.transitioned_eq_ok next
      apply secure_persist recorded (covered_of_vacant vacant _)
      · intro after routes written _
        simp only [valid, if_true]
        exact ⟨.of_written (covered_of_vacant vacant _) routes written
          valid, written, rfl, same, routes.trans vacant⟩
      · intro after routes kept _
        exact failed after kept (routes.trans vacant)

end

private theorem secure_releaseRetirement
    (retired : RetirementWritten rules reference retirement world) :
    Secure rules (Ended rules memory)
      (releaseRetirement rules memory retirement reference) world := by
  have permitted : world.Permits (.release reference) := by
    constructor
    · intro content possible
      rw [contents, retired.written.file, retired.written.synced] at possible
      exact ⟨retirement, List.mem_singleton.mp possible, retired.reference,
        retired.state⟩
    · intro route member
      rw [retired.vacant] at member
      cases member
  apply secure_release retired.recorded permitted
  intro reply
  by_cases answered : reply = .released
  · rw [if_neg (not_not_intro answered)]
    cases next : retirement.transitioned rules .released reference with
    | error error => exact retired.faulted.ended
    | ok released =>
      obtain ⟨rfl, valid, -⟩ := RouteJournalV3.transitioned_eq_ok next
      apply secure_persist retired.recorded (covered_of_vacant retired.vacant _)
      · intro after routes written _
        have vacant := routes.trans retired.vacant
        apply secure_remove (.of_written
          (covered_of_vacant retired.vacant _) routes written valid) vacant
        · intro last empty absent
          exact Ended.cleared empty (recorded_of_absent empty absent)
        · -- The process does not live on after this failure.
          intro last _ _ unreleased
          exact absurd rfl (unreleased _ written.file)
      · intro after _ _ same
        obtain rfl := same.resolve_right (absurd rfl)
        exact retired.faulted.ended
  · rw [if_pos answered]
    exact retired.faulted.ended

theorem RouteJournalV3.owned_eq_nil (unlisted : journal.listed = []) :
    journal.owned = [] := by
  obtain ⟨applied, pending⟩ := List.append_eq_nil_iff.mp unlisted
  have none_pending : journal.pendingCIDR = none := by
    simpa using pending
  simp [RouteJournalV3.owned, none_pending, applied]

private theorem secure_settled (same : journal.reference = reference)
    (released : journal.state ≠ .released)
    (result : Except (Memory × HelperReplyV3) RouteJournalV3)
    (after : World) : Outcome rules (RolledBack rules journal []) result after →
      (∀ last, result = .ok last → last.state = .retirementPending →
        after.Durable (some last)) →
      Secure rules (Ended rules memory) (match result with
        | .error reply => pure reply
        | .ok mutable => do
            match ← persistRetirement rules memory mutable reference with
            | .error reply => return reply
            | .ok retirement =>
              releaseRetirement rules memory retirement reference) after := by
  intro outcome retiring
  cases result with
  | error reply => exact Faulted.ended outcome
  | ok last =>
    have unlisted : last.listed = [] := by
      apply List.eq_nil_iff_forall_not_mem.mpr
      intro cidr member
      cases outcome.retiring.remaining cidr member
    have vacant := outcome.covered.installed_eq_nil unlisted
    have reference_eq : last.reference = reference := by
      simpa [RouteJournalV3.reference, outcome.owner] using same
    have unreleased : last.state ≠ .released := by
      rw [outcome.state]
      exact released
    refine (secure_persistRetirement outcome.recorded vacant
      reference_eq unreleased (retiring last rfl)).bind ?_
    intro written final ended
    cases written with
    | error reply => exact Faulted.ended ended
    | ok retirement => exact secure_releaseRetirement ended

/-- From a steady state, a retirement keeps the ledger after every action and
ends in a steady state. -/
theorem secure_retireLocked (steady : Steady rules memory world)
    (reference : LeaseReferenceV3) (connectionID : TunnelBroker.ConnectionID) :
    Secure rules (Ended rules memory)
      (retireLocked rules memory reference connectionID) world := by
  unfold retireLocked
  cases found : memory.journal with
  | none => exact ⟨steady, .inr (.inl found)⟩
  | some journal =>
    have covered := steady.covered journal found
    by_cases foreign : memory.activeConnectionID ≠ some connectionID ∨
      journal.reference ≠ reference
    · simp only [if_pos foreign]
      exact ⟨steady, .inr (.inr ⟨rfl, rfl⟩)⟩
    have same : journal.reference = reference :=
      not_not.mp (not_or.mp foreign).2
    simp only [if_neg foreign]
    by_cases released : journal.state = .released
    · simp only [if_pos released]
      have vacant :=
        covered.installed_eq_nil (steady.released journal found released)
      apply secure_remove steady.recorded vacant
      · intro after empty absent
        exact Ended.cleared empty (recorded_of_absent empty absent)
      · intro after empty kept _
        refine ⟨⟨kept, ?_, ?_, ?_, ?_⟩, .inl rfl⟩
        · intro other _
          exact covered_of_vacant empty other
        · intro _
          exact empty
        · rintro other ⟨⟩ state
          rw [released] at state
          cases state
        · rintro other ⟨⟩ _
          exact steady.released journal found released
    · simp only [if_neg released]
      by_cases retiring : journal.state = .retirementPending
      · -- A retirement record lists nothing, so the loop is empty.
        have written := steady.retiring journal found retiring
        have valid := steady.recorded.valid journal written.file
        have unlisted : journal.listed = [] := by
          rcases RouteJournalV3.mutable_of_isValid valid with
            held | applied | unlisted
          · rw [retiring] at held
            cases held
          · rw [retiring] at applied
            cases applied
          · exact unlisted
        rw [RouteJournalV3.owned_eq_nil unlisted]
        apply secure_settled same released (.ok journal) world
        · refine ⟨steady.recorded, covered, ?_, rfl, rfl⟩
          rw [← RouteJournalV3.owned_eq_nil unlisted]
          exact retiring_owned journal
        · rintro last ⟨⟩ _
          exact written
      · refine (secure_retireRoutes steady.recorded covered
          ⟨retiring, released⟩ (retiring_owned journal)).bind ?_
        intro result after outcome
        apply secure_settled same released result after outcome
        rintro last rfl state
        rw [outcome.state] at state
        exact absurd state retiring

end KyClash.RouteHelper
