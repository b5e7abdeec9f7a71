import KyClash.RouteHelper.Runs

/-!
# The leases that the helper can know of

A journal enters the helper's memory or its file only through `begin`: every
other operation writes journals of the lease that the memory already holds.
So whatever happens, the helper knows of no lease that was not begun, and
works for no other.

The parts of the operations are followed for any property of records that
does not depend on their routes and that only a release may end (`Lasting`).
-/

namespace KyClash.RouteHelper

open Program World TunnelBroker

variable (good : RouteJournalV3 → Prop)

/-- The lease of a good record. -/
def Serves (reference : LeaseReferenceV3) : Prop :=
  ∃ journal, good journal ∧ journal.reference = reference

/-- The action writes a good record, or works for the lease of one. -/
def Act.Names : Act → Prop
  | .persist value => good value
  | .mutate _ _ _ lease => Serves good lease
  | .hold reference => Serves good reference
  | .release reference => Serves good reference
  | .status reference => Serves good reference
  | _ => True

def Memory.Names (memory : Memory) : Prop :=
  ∀ journal, memory.journal = some journal → good journal

/-- Every journal that a process may start from is a good one. -/
structure World.Names (world : World) : Prop where
  file : ∀ journal, world.file = some journal → good journal
  unsynced : ∀ journal, some journal ∈ world.unsynced → good journal

/-- The operation writes and leaves only good records. -/
abbrev Operation.Names (operation : Operation) : Prop :=
  Each (Act.Names good) (fun result => Memory.Names good result.1) operation

/-- A part of an operation fails, or goes on with a good record of the
lease. -/
abbrev PartNames (reference : LeaseReferenceV3)
    (program : Helper (Except (Memory × HelperReplyV3) RouteJournalV3)) :
    Prop :=
  Each (Act.Names good) (fun outcome => match outcome with
      | .error (memory, _) => Memory.Names good memory
      | .ok journal => good journal ∧ journal.reference = reference) program

/-- A good record stays good with other routes, and in every next state but
the last. -/
structure Lasting : Prop where
  routes : ∀ journal pendingCIDR appliedCIDRs, good journal →
    good { journal with pendingCIDR, appliedCIDRs }
  advanced : ∀ journal next, next ≠ .released → good journal →
    good (journal.advanced next)

variable {good} {rules : RouteRules} {memory : Memory}
  {journal current : RouteJournalV3} {reference : LeaseReferenceV3}
  {cidr : Text} {connectionID : ConnectionID} {known : LeaseReferenceV3 → Prop}
  {owner : LeaseOwnerV3} {world after : World} {action : Act}

theorem Serves.of_good (named : good journal) : Serves good journal.reference :=
  ⟨journal, named, rfl⟩

theorem Memory.names_some (present : memory.journal = some journal)
    (named : good journal) : memory.Names good := by
  intro other found
  rw [present] at found
  cases found
  exact named

theorem World.Names.written {result : Act.Res action} (names : world.Names good)
    (written : ∀ value, action = .persist value → good value)
    (done : Acts rules world action result after) : after.Names good := by
  have older : ∀ content journal,
      some journal ∈ (world.renamed content).unsynced → good journal := by
    intro content journal member
    rcases List.mem_cons.mp member with visible | older
    · exact names.file journal visible.symm
    · exact names.unsynced journal older
  cases done with
  | persisted => exact ⟨by rintro journal ⟨⟩; exact written _ rfl, nofun⟩
  | persistUnsynced =>
    exact ⟨by rintro journal ⟨⟩; exact written _ rfl, older _⟩
  | removed => exact ⟨nofun, nofun⟩
  | removeUnsynced => exact ⟨nofun, older _⟩
  | mutated =>
    refine ⟨?_, ?_⟩
    · rw [file_changed]
      exact names.file
    · rw [unsynced_changed]
      exact names.unsynced
  | _ => exact ⟨names.file, names.unsynced⟩

theorem World.Names.acts {result : Act.Res action} (names : world.Names good)
    (named : action.Names good) (done : Acts rules world action result after) :
    after.Names good := by
  apply names.written _ done
  rintro value rfl
  exact named

theorem PartNames.bind {α : Type} {post : α → Prop}
    {program : Helper (Except (Memory × HelperReplyV3) RouteJournalV3)}
    {next : Except (Memory × HelperReplyV3) RouteJournalV3 → Helper α}
    (names : PartNames good reference program)
    (failed : ∀ memory reply, memory.Names good →
      Each (Act.Names good) post (next (.error (memory, reply))))
    (continues : ∀ journal, good journal → journal.reference = reference →
      Each (Act.Names good) post (next (.ok journal))) :
    Each (Act.Names good) post (program >>= next) := by
  refine Each.bind names ?_
  intro outcome meets
  cases outcome with
  | error result => exact failed result.1 result.2 meets
  | ok journal => exact continues journal meets.1 meets.2

/-- The lease that `begin` records. -/
def LeaseOwnerV3.begun (owner : LeaseOwnerV3) : LeaseReferenceV3 :=
  (RouteJournalV3.holdPending owner).reference

/-- It is the one whose hold is asked for, if the owner is valid. -/
theorem LeaseOwnerV3.begun_eq (valid : owner.isValid rules = true) :
    owner.begun = owner.reference := by
  simp only [LeaseOwnerV3.isValid, Bool.and_eq_true, decide_eq_true_eq] at valid
  have same : owner.sidecarInstanceID = owner.reference.sidecarInstanceID := by
    tauto
  simp [begun, RouteJournalV3.reference, RouteJournalV3.holdPending,
    JournalOwnerV3.ofOwner, JournalOwnerV3.reference, same]

section

variable (lasting : Lasting good)
include lasting

private theorem names_unlist {marked : RouteJournalV3}
    (named : good marked) (same : marked.reference = reference) :
    PartNames good reference (do
        if ← Seam.persist (without marked cidr) then
          return .ok (without marked cidr)
        return .error (memory.recovering (without marked cidr),
          v3Reply (without marked cidr) (some .journalWriteFailed))) := by
  have still : good (without marked cidr) := lasting.routes marked _ _ named
  exact Each.perform still
    (Bool.forall_bool.mpr ⟨Memory.names_some rfl still, ⟨still, same⟩⟩)

section

variable (named : good journal)
include named

private theorem names_deleteRoute :
    PartNames good journal.reference (deleteRoute memory journal cidr) := by
  have marked : good { journal with pendingCIDR := some cidr } :=
    lasting.routes journal (some cidr) journal.appliedCIDRs named
  have failed : Memory.Names good
      (memory.recovering { journal with pendingCIDR := some cidr }) :=
    Memory.names_some rfl marked
  refine Each.perform marked (Bool.forall_bool.mpr ⟨failed, ?_⟩)
  refine Each.perform (Serves.of_good marked)
    (Bool.forall_bool.mpr ⟨failed, ?_⟩)
  refine Each.perform trivial ?_
  intro postflight
  split
  · exact failed
  split
  · exact failed
  split
  · exact failed
  · exact ⟨marked, rfl⟩

private theorem names_retireRoute :
    PartNames good journal.reference (retireRoute memory journal cidr) := by
  have failed : Memory.Names good (memory.recovering journal) :=
    Memory.names_some rfl named
  refine Each.perform trivial ?_
  intro inspections
  split
  · exact failed
  split
  · exact failed
  split
  · exact failed
  split
  · refine PartNames.bind (names_deleteRoute lasting named)
      (fun _ _ names => names) ?_
    intro marked kept same
    exact names_unlist lasting kept same
  · exact names_unlist lasting named rfl

private theorem names_retireRoutes (cidrs : List Text) :
    PartNames good journal.reference (retireRoutes memory journal cidrs) := by
  induction cidrs generalizing journal with
  | nil => exact ⟨named, rfl⟩
  | cons cidr rest ih =>
    refine PartNames.bind (names_retireRoute lasting named)
      (fun _ _ names => names) ?_
    intro retired kept same
    exact same ▸ ih kept

private theorem names_persistRetirement :
    PartNames good journal.reference
      (persistRetirement rules memory journal reference) := by
  have failed : Memory.Names good (memory.recovering journal) :=
    Memory.names_some rfl named
  unfold persistRetirement
  split
  · split
    · exact ⟨named, rfl⟩
    · exact failed
  · split
    · exact failed
    · next retirement accepted =>
      obtain ⟨rfl, -, -⟩ := RouteJournalV3.transitioned_eq_ok accepted
      have kept := lasting.advanced journal .retirementPending nofun named
      refine Each.perform kept (Bool.forall_bool.mpr ⟨failed, ?_⟩)
      change PartNames good journal.reference (.ret _)
      split
      · exact ⟨kept, rfl⟩
      · exact failed

private theorem names_applyRoute :
    PartNames good journal.reference (applyRoute memory journal cidr) := by
  have marked : good { journal with pendingCIDR := some cidr } :=
    lasting.routes journal (some cidr) journal.appliedCIDRs named
  have recorded : good { journal with
      appliedCIDRs := journal.appliedCIDRs ++ [cidr], pendingCIDR := none } :=
    lasting.routes journal none _ named
  have failed : Memory.Names good
      (memory.recovering { journal with pendingCIDR := some cidr }) :=
    Memory.names_some rfl marked
  refine Each.perform marked (Bool.forall_bool.mpr ⟨failed, ?_⟩)
  refine Each.perform (Serves.of_good marked)
    (Bool.forall_bool.mpr ⟨failed, ?_⟩)
  refine Each.perform trivial ?_
  intro postflight
  split
  · exact failed
  split
  · exact failed
  split
  · exact failed
  exact Each.perform recorded (Bool.forall_bool.mpr
    ⟨Memory.names_some rfl recorded, ⟨recorded, rfl⟩⟩)

private theorem names_applyRoutes (cidrs : List Text) :
    PartNames good journal.reference (applyRoutes memory journal cidrs) := by
  induction cidrs generalizing journal with
  | nil => exact ⟨named, rfl⟩
  | cons cidr rest ih =>
    unfold applyRoutes
    split
    · exact ih named
    refine PartNames.bind (names_applyRoute lasting named)
      (fun _ _ names => names) ?_
    intro applied kept same
    exact same ▸ ih kept

end

private theorem names_settleHold {pending : RouteJournalV3}
    (named : good pending) (reply : RouteBrokerV3Result) :
    Operation.Names good (settleHold rules memory pending reference reply) := by
  have failed : Memory.Names good (memory.recovering pending) :=
    Memory.names_some rfl named
  unfold settleHold
  split
  · split
    · exact failed
    · next held accepted =>
      obtain ⟨rfl, -, -⟩ := RouteJournalV3.transitioned_eq_ok accepted
      have kept := lasting.advanced pending .held nofun named
      refine Each.perform kept (Bool.forall_bool.mpr ⟨failed, ?_⟩)
      refine Each.perform trivial ?_
      intro now
      exact Memory.names_some rfl kept
  · refine Each.perform trivial ?_
    intro removed
    cases removed with
    | false => exact failed
    | true => exact nofun
  · exact failed

end

section

variable (names : memory.Names good) (reference) (connectionID)
include names

theorem names_statusWithBrokerLocked (named : good journal) :
    Operation.Names good (statusWithBrokerLocked memory journal) := by
  unfold statusWithBrokerLocked
  split
  · exact names
  split
  · exact names
  refine Each.perform (Serves.of_good named) ?_
  intro reply
  split
  · exact names
  refine Each.perform trivial ?_
  intro now
  exact names

theorem names_heartbeat :
    Operation.Names good (heartbeat memory reference connectionID) := by
  unfold heartbeat
  split
  · exact names
  · next journal found =>
    split
    · exact names
    · exact names_statusWithBrokerLocked names (names journal found)

private theorem names_status :
    Operation.Names good (status memory reference connectionID) := by
  unfold status
  split
  · exact names
  · next journal found =>
    split
    · exact names
    · exact names_statusWithBrokerLocked names (names journal found)

variable (lasting : Lasting good)
include lasting

theorem names_begin (named : good (.holdPending owner)) :
    Operation.Names good (begin rules memory owner connectionID) := by
  unfold begin
  split
  · exact names
  · next admitted =>
    have valid : owner.isValid rules = true := by
      simp only [not_or, Bool.not_eq_true', Bool.not_eq_false] at admitted
      exact admitted.2.2.2.2
    have served : Serves good owner.reference :=
      ⟨_, named, LeaseOwnerV3.begun_eq valid⟩
    refine Each.perform trivial ?_
    intro inspections
    split
    · exact names
    split
    · exact names
    refine Each.perform named (Bool.forall_bool.mpr ⟨names, ?_⟩)
    refine Each.perform trivial ?_
    intro now
    refine Each.perform served ?_
    intro reply
    exact names_settleHold lasting named reply

theorem names_apply :
    Operation.Names good (apply rules memory reference connectionID) := by
  unfold apply
  split
  · exact names
  · next current found =>
    have named := names current found
    split
    · exact names
    split
    · exact names
    split
    · exact names
    refine PartNames.bind (names_applyRoutes lasting named _)
      (fun _ _ names => names) ?_
    intro recorded still same
    dsimp only
    split
    · exact Memory.names_some rfl still
    · next applied accepted =>
      obtain ⟨rfl, -, -⟩ := RouteJournalV3.transitioned_eq_ok accepted
      have kept := lasting.advanced recorded .applied nofun still
      exact Each.perform kept (Bool.forall_bool.mpr
        ⟨Memory.names_some rfl still, Memory.names_some rfl kept⟩)

end

/-! ## The leases that were begun -/

/-- A record of a known lease, in any state. -/
def OfLease (known : LeaseReferenceV3 → Prop) (journal : RouteJournalV3) :
    Prop :=
  known journal.reference

theorem lasting_ofLease : Lasting (OfLease known) :=
  ⟨fun _ _ _ named => named, fun _ _ _ named => named⟩

private theorem names_releaseRetirement (named : OfLease known journal)
    (same : journal.reference = reference) :
    Operation.Names (OfLease known)
      (releaseRetirement rules memory journal reference) := by
  have failed : Memory.Names (OfLease known) (memory.recovering journal) :=
    Memory.names_some rfl named
  refine Each.perform ⟨journal, named, same⟩ ?_
  intro reply
  split
  · exact failed
  split
  · exact failed
  · next released accepted =>
    obtain ⟨rfl, -, -⟩ := RouteJournalV3.transitioned_eq_ok accepted
    have kept : OfLease known (journal.advanced .released) := named
    refine Each.perform kept (Bool.forall_bool.mpr ⟨failed, ?_⟩)
    exact Each.perform trivial (Bool.forall_bool.mpr ⟨failed, nofun⟩)

def Request.begins : Request → Option LeaseReferenceV3
  | .begin owner _ => some owner.begun
  | _ => none

section

variable (names : memory.Names (OfLease known)) (reference) (connectionID)
include names

theorem names_retireLocked :
    Operation.Names (OfLease known)
      (retireLocked rules memory reference connectionID) := by
  unfold retireLocked
  split
  · exact names
  · next current found =>
    have named := names current found
    split
    · exact names
    · next own =>
      have same : current.reference = reference := not_not.mp (not_or.mp own).2
      split
      · refine Each.perform trivial ?_
        intro removed
        cases removed with
        | false => exact names
        | true => exact nofun
      · refine PartNames.bind (names_retireRoutes lasting_ofLease named _)
          (fun _ _ names => names) ?_
        intro mutable still equal
        refine PartNames.bind (names_persistRetirement lasting_ofLease still)
          (fun _ _ names => names) ?_
        intro retirement kept again
        exact names_releaseRetirement kept (again.trans (equal.trans same))

private theorem names_recover (owner : LeaseOwnerV3) :
    Operation.Names (OfLease known)
      (recover rules memory owner connectionID) := by
  unfold recover
  split
  · exact names
  split
  · exact names
  split
  · exact names_retireLocked _ _ names
  split
  · apply names_retireLocked
    exact names
  · exact names

theorem names_reconcileStartup (recoveryID : ConnectionID) :
    Operation.Names (OfLease known)
      (reconcileStartup rules memory recoveryID) := by
  unfold reconcileStartup
  split
  · exact names
  refine Each.bind (names_retireLocked _ _ ?_) ?_
  · exact names
  intro result kept
  dsimp only
  split
  · exact kept
  · exact kept

private theorem names_invalidate :
    Operation.Names (OfLease known) (invalidate rules memory connectionID) := by
  unfold invalidate
  split
  · exact names
  dsimp only
  split
  · exact names
  split
  · apply names_retireLocked
    exact names
  · exact names

private theorem names_heartbeatWatchdogTick :
    Each (Act.Names (OfLease known)) (Memory.Names (OfLease known))
      (heartbeatWatchdogTick rules memory) := by
  unfold heartbeatWatchdogTick
  split
  · split
    · exact names
    refine Each.perform trivial ?_
    intro now
    split
    · refine Each.bind (names_retireLocked _ _ names) ?_
      intro result kept
      dsimp only
      split
      · exact kept
      · exact kept
    · exact names
  · exact names

theorem names_program (request : Request)
    (named : ∀ reference, request.begins = some reference → known reference) :
    Each (Act.Names (OfLease known)) (Memory.Names (OfLease known))
      (request.program rules memory) := by
  have kept {operation : Operation} (each : operation.Names (OfLease known)) :
      Each (Act.Names (OfLease known)) (Memory.Names (OfLease known))
        operation.memory :=
    Each.bind each fun _ names => names
  cases request with
  | register connectionID =>
    have same : (register memory connectionID).1.journal =
        memory.journal := by
      unfold register
      split <;> rfl
    intro journal found
    exact names journal (same.symm.trans found)
  | discover => exact names
  | begin owner connectionID =>
    exact kept (names_begin connectionID names lasting_ofLease (named _ rfl))
  | apply reference connectionID =>
    exact kept (names_apply reference connectionID names lasting_ofLease)
  | rollback reference connectionID =>
    exact kept (names_retireLocked reference connectionID names)
  | recover owner connectionID =>
    exact kept (names_recover connectionID names owner)
  | heartbeat reference connectionID =>
    exact kept (names_heartbeat reference connectionID names)
  | status reference connectionID =>
    exact kept (names_status reference connectionID names)
  | invalidate connectionID => exact kept (names_invalidate connectionID names)
  | watchdogTick => exact names_heartbeatWatchdogTick names

end

theorem names_loaded {content : Option RouteJournalV3}
    (named : ∀ journal, content = some journal → known journal.reference) :
    (loaded rules content).Names (OfLease known) := by
  intro journal found
  cases content with
  | none => cases found
  | some stored =>
    simp only [loaded] at found
    split at found
    · exact named journal found
    · cases found

end KyClash.RouteHelper
