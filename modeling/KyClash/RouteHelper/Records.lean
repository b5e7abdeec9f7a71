import KyClash.RouteHelper.Ledger

/-!
# The records of a retirement are valid

What `isValid` asks of a record, field by field, and that every record which a
retirement writes over a valid one is valid again.
-/

namespace KyClash.RouteHelper

variable {rules : RouteRules}

namespace RouteJournalV3

variable {journal : RouteJournalV3} {cidr : Text} {next : RouteJournalStateV3}

/-- The parts of `isValid` that depend on the routes and the state. -/
structure Fields (rules : RouteRules) (journal : RouteJournalV3) : Prop where
  version : journal.version = TunnelBroker.routeHelperV3ProtocolVersion
  transition : 0 < journal.transition
  owner : journal.owner.isValid rules = true
  nodup : journal.appliedCIDRs.Nodup
  count : journal.appliedCIDRs.length ≤ journal.owner.privateCIDRs.length
  applied : ∀ cidr ∈ journal.appliedCIDRs,
    rules.validCIDR cidr = true ∧ cidr ∈ journal.owner.privateCIDRs
  pending : ∀ cidr, journal.pendingCIDR = some cidr →
    rules.validCIDR cidr = true ∧ cidr ∈ journal.owner.privateCIDRs ∧
      (journal.state = .held ∨ journal.state = .applied ∨
        cidr ∉ journal.appliedCIDRs)
  state : journal.stateIsValid = true

theorem isValid_iff_fields :
    journal.isValid rules = true ↔ journal.Fields rules := by
  constructor
  · intro valid
    simp only [isValid, Bool.and_eq_true, decide_eq_true_eq,
      List.all_eq_true, List.contains_iff_mem] at valid
    obtain ⟨⟨⟨⟨⟨⟨⟨⟨⟨version, transition⟩, owner⟩, nodup⟩, count⟩, cidrs⟩,
      owned⟩, pending⟩, fresh⟩, state⟩ := valid
    refine ⟨version, transition, owner, nodup, count,
      fun cidr member => ⟨cidrs cidr member, owned cidr member⟩, ?_, state⟩
    intro cidr found
    simp only [found, Option.all_some, Bool.and_eq_true, Bool.or_eq_true,
      decide_eq_true_eq, List.contains_iff_mem, Bool.not_eq_true',
      ← Bool.not_eq_true, or_assoc] at pending fresh
    exact ⟨pending.1, pending.2, fresh⟩
  · rintro ⟨version, transition, owner, nodup, count, applied, pending, state⟩
    have parts : ∀ cidr ∈ journal.pendingCIDR,
        (rules.validCIDR cidr && journal.owner.privateCIDRs.contains cidr) =
            true ∧
          (journal.state = .held || journal.state = .applied ||
              !journal.appliedCIDRs.contains cidr) = true := by
      intro cidr found
      obtain ⟨valid, owned, fresh⟩ := pending cidr found
      simpa [valid, owned, or_assoc] using fresh
    simp only [isValid, Bool.and_eq_true, decide_eq_true_eq,
      List.all_eq_true, List.contains_iff_mem, Option.all_eq_true]
    exact ⟨⟨⟨⟨⟨⟨⟨⟨⟨version, transition⟩, owner⟩, nodup⟩, count⟩,
      fun cidr member => (applied cidr member).1⟩,
      fun cidr member => (applied cidr member).2⟩,
      fun cidr found => by simpa using (parts cidr found).1⟩,
      fun cidr found => by simpa using (parts cidr found).2⟩, state⟩

theorem mem_listed_of_mem_owned (member : cidr ∈ journal.owned) :
    cidr ∈ journal.listed := by
  unfold owned at member
  cases pending : journal.pendingCIDR with
  | none => simpa [listed, pending] using member
  | some first =>
    simp only [pending] at member
    split at member
    · exact List.mem_append_left _ (List.mem_reverse.mp member)
    · simpa [listed, pending, or_comm] using member

/-- What the loop needs to roll a route back. -/
structure Retirable (rules : RouteRules) (journal : RouteJournalV3)
    (cidr : Text) : Prop where
  mutable : journal.state = .held ∨ journal.state = .applied
  valid : rules.validCIDR cidr = true
  owned : cidr ∈ journal.owner.privateCIDRs

section

variable (fields : journal.Fields rules)
include fields

theorem Fields.marked
    (mutable : journal.state = .held ∨ journal.state = .applied)
    (valid : rules.validCIDR cidr = true)
    (owned : cidr ∈ journal.owner.privateCIDRs) :
    ({ journal with pendingCIDR := some cidr } : RouteJournalV3).Fields
      rules := by
  refine { fields with pending := ?_, state := ?_ }
  · rintro other ⟨⟩
    exact ⟨valid, owned, mutable.imp_right .inl⟩
  · have settled := fields.state
    rcases mutable with state | state
    all_goals simpa [stateIsValid, state] using settled

theorem Fields.without
    (mutable : journal.state = .held ∨ journal.state = .applied) :
    (World.without journal cidr).Fields rules := by
  have kept : ∀ other ∈ (World.without journal cidr).appliedCIDRs,
      other ∈ journal.appliedCIDRs := by
    intro other member
    exact (List.mem_filter.mp member).1
  refine
    { fields with
      nodup := fields.nodup.filter _
      count := Nat.le_trans (List.length_filter_le _ _) fields.count
      applied := fun other member => fields.applied other (kept other member)
      pending := nofun
      state := ?_ }
  have settled := fields.state
  rcases mutable with state | state
  all_goals simpa [stateIsValid, World.without, state] using settled

/-- Every record that is not retired yet can be, and every retired one can be
released: the transition numbers leave room. -/
theorem Fields.advanced (retires : next = .retirementPending ∨ next = .released)
    (allowed : isValidTransitionV3 journal.state next = true) :
    (journal.advanced next).Fields rules ∧
      journal.transition.toNat + 1 < UInt64.size := by
  have settled := fields.state
  have size : UInt64.size = 2 ^ 64 := rfl
  have bounds : journal.transition.toNat + 1 < UInt64.size ∧
      0 < journal.transition + 1 ∧
      (journal.advanced next).stateIsValid = true := by
    rcases retires with rfl | rfl
    · cases state : journal.state with
      | holdPending | held | applied =>
        simp only [stateIsValid, state, Bool.and_eq_true,
          decide_eq_true_eq] at settled
        simp [stateIsValid, RouteJournalV3.advanced, settled, size]
      | retirementPending | released =>
        rw [state] at allowed
        cases allowed
    · cases state : journal.state with
      | retirementPending =>
        simp only [stateIsValid, state, Bool.and_eq_true,
          decide_eq_true_eq] at settled
        obtain ⟨⟨⟨low, high⟩, -⟩, -⟩ := settled
        have below : journal.transition.toNat ≤ 4 := high
        have above : 2 ≤ journal.transition.toNat := low
        simp [stateIsValid, RouteJournalV3.advanced,
          UInt64.le_iff_toNat_le, UInt64.lt_iff_toNat_lt, size]
        omega
      | holdPending | held | applied | released =>
        rw [state] at allowed
        cases allowed
  have forgets : (journal.advanced next).pendingCIDR = none ∧
      (journal.advanced next).appliedCIDRs = [] := by
    simp [RouteJournalV3.advanced, retires]
  refine ⟨⟨fields.version, bounds.2.1, fields.owner, ?_, ?_, ?_, ?_,
      bounds.2.2⟩,
    bounds.1⟩
  all_goals simp [forgets]

theorem Fields.reference : journal.reference.isValid = true := by
  have owner := fields.owner
  simp only [JournalOwnerV3.isValid, LeaseOwnerV3.isValid, Bool.and_eq_true,
    and_assoc] at owner
  exact owner.1

theorem Fields.transitioned
    (retires : next = .retirementPending ∨ next = .released)
    (allowed : isValidTransitionV3 journal.state next = true) :
    journal.transitioned rules next journal.reference =
      .ok (journal.advanced next) := by
  obtain ⟨advanced, room⟩ := fields.advanced retires allowed
  have unreleased : journal.state ≠ .released := by
    intro state
    rw [state] at allowed
    cases allowed
  have required : journal.requireReference rules journal.reference =
      .ok () := by
    simp [requireReference, isValid_iff_fields.mpr fields, fields.reference]
  unfold RouteJournalV3.transitioned
  rw [required]
  exact if_pos ⟨room, allowed, unreleased, isValid_iff_fields.mpr advanced⟩

theorem Fields.retirable (member : cidr ∈ journal.listed) :
    journal.Retirable rules cidr := by
  have mutable : journal.state = .held ∨ journal.state = .applied := by
    rcases mutable_of_isValid (isValid_iff_fields.mpr fields) with
      held | applied | unlisted
    · exact .inl held
    · exact .inr applied
    · rw [unlisted] at member
      cases member
  rcases List.mem_append.mp member with applied | pending
  · obtain ⟨valid, owned⟩ := fields.applied cidr applied
    exact ⟨mutable, valid, owned⟩
  · obtain ⟨valid, owned, -⟩ :=
      fields.pending cidr (Option.mem_toList.mp pending)
    exact ⟨mutable, valid, owned⟩

end

end RouteJournalV3

end KyClash.RouteHelper
