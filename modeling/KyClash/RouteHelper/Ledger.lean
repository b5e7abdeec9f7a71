import KyClash.RouteHelper.World

/-!
# The journal as a ledger of the installed routes

Between two operations, and after every single action of one, each route that
the helper has installed is listed in the durable journal of its lease, that
is, in the visible file and in every older one that a power loss may bring
back.  A broker release is asked for only under a durable retirement record,
with no route of the lease installed.

The second part needs one assumption (`Spoiled` does not happen): the process
does not live on after a failure between the write of a released record and
its removal.  There the coordinator goes back to the retirement record while
the file already says released, and a later retirement asks for the release
again.
-/

namespace KyClash.RouteHelper

open Program

/-- Only a held or an applied record speaks for routes. -/
def RouteJournalV3.Mutable (journal : RouteJournalV3) : Prop :=
  journal.state = .held ∨ journal.state = .applied ∨ journal.listed = []

theorem RouteJournalV3.mutable_of_isValid {rules : RouteRules}
    {journal : RouteJournalV3} (valid : journal.isValid rules = true) :
    journal.Mutable := by
  have settled : journal.stateIsValid = true := by
    simp only [RouteJournalV3.isValid, Bool.and_eq_true] at valid
    exact valid.2
  unfold RouteJournalV3.stateIsValid at settled
  cases state : journal.state with
  | held => exact .inl state
  | applied => exact .inr (.inl state)
  | holdPending | retirementPending | released =>
    simp only [state, Bool.and_eq_true, Option.isNone_iff_eq_none,
      List.isEmpty_iff] at settled
    refine .inr (.inr ?_)
    simp [RouteJournalV3.listed, settled]

/-- The journal lists the route of this lease. -/
structure RouteJournalV3.Lists (journal : RouteJournalV3)
    (route : InstalledRoute) : Prop where
  lease : route.lease = journal.reference
  interfaceName : route.interfaceName = journal.owner.interfaceName
  cidr : route.cidr ∈ journal.listed

namespace World

/-- Every installed route is one that this record lists. -/
def Covered (world : World) (journal : RouteJournalV3) : Prop :=
  ∀ route ∈ world.installed, journal.Lists route

/-- What the journal may be after a power loss. -/
def contents (world : World) : List (Option RouteJournalV3) :=
  world.file :: world.unsynced

/-- The journal has this content, and nothing older can come back. -/
structure Durable (world : World) (content : Option RouteJournalV3) : Prop where
  file : world.file = content
  synced : world.unsynced = []

/-- Every installed route is listed by the durable journal of its lease, which
is held or applied. -/
def Listed (world : World) : Prop :=
  ∀ route ∈ world.installed, ∀ content ∈ world.contents,
    ∃ journal, content = some journal ∧ journal.Lists route ∧
      (journal.state = .held ∨ journal.state = .applied)

/-- The visible journal is a valid record, and the durable one lists what is
installed. -/
structure Recorded (rules : RouteRules) (world : World) : Prop where
  listed : world.Listed
  valid : ∀ journal, world.file = some journal → journal.isValid rules = true

/-- A release is asked for under the lease's durable retirement record, when
none of its routes is installed. -/
def Permits (world : World) : Act → Prop
  | .release reference =>
    (∀ content ∈ world.contents, ∃ journal, content = some journal ∧
      journal.reference = reference ∧ journal.state = .retirementPending) ∧
    ∀ route ∈ world.installed, route.lease ≠ reference
  | _ => True

/-- A failure between the write of a released record and its removal. -/
inductive Spoiled : World → (action : Act) → Act.Res action → World → Prop where
  | persist {world after : World} {released : RouteJournalV3}
      (state : released.state = .released)
      (visible : after.file = some released) :
      Spoiled world (.persist released) false after
  | remove {world after : World} {released : RouteJournalV3}
      {reference : LeaseReferenceV3} (state : released.state = .released)
      (written : world.file = some released) :
      Spoiled world (.remove reference) false after

/-- The process goes on only after outcomes that spoil no release. -/
def Unspoiled : Effect Act Act.Res World :=
  fun world action result after => ¬ Spoiled world action result after

variable {journal : RouteJournalV3} {before after : World}
  {rules : RouteRules} {α : Type} {post : α → World → Prop} {world : World}
  {next : Bool → Helper α} {reference : LeaseReferenceV3} {cidr : Text}

theorem Covered.installed_eq_nil (covered : world.Covered journal)
    (unlisted : journal.listed = []) : world.installed = [] := by
  apply List.eq_nil_iff_forall_not_mem.mpr
  intro route member
  have listed := (covered route member).cidr
  simp [unlisted] at listed

theorem Covered.lists (covered : world.Covered journal)
    (mutable : journal.Mutable) {route : InstalledRoute}
    (member : route ∈ world.installed) :
    journal.Lists route ∧
      (journal.state = .held ∨ journal.state = .applied) := by
  refine ⟨covered route member, ?_⟩
  rcases mutable with held | applied | unlisted
  · exact .inl held
  · exact .inr applied
  · rw [covered.installed_eq_nil unlisted] at member
    cases member

/-- The same routes are installed. -/
def SameRoutes (before after : World) : Prop :=
  after.installed = before.installed

theorem Covered.of_sameRoutes (covered : before.Covered journal)
    (same : SameRoutes before after) : after.Covered journal := by
  intro route member
  rw [same] at member
  exact covered route member

theorem Recorded.of_same (recorded : before.Recorded rules)
    (same : SameRoutes before after) (file : after.file = before.file)
    (unsynced : after.unsynced = before.unsynced) : after.Recorded rules := by
  constructor
  · intro route member
    rw [same] at member
    rw [contents, file, unsynced]
    exact recorded.listed route member
  · intro journal found
    rw [file] at found
    exact recorded.valid journal found

/-- A new record is in place, and what may come back was there before. -/
theorem Recorded.of_renamed (recorded : before.Recorded rules)
    (covered : before.Covered journal) (same : SameRoutes before after)
    (written : after.file = some journal)
    (older : ∀ content ∈ after.unsynced, content ∈ before.contents)
    (valid : journal.isValid rules = true) : after.Recorded rules := by
  constructor
  · intro route member content possible
    rw [same] at member
    rcases List.mem_cons.mp possible with rfl | possible
    · exact ⟨journal, written, covered.lists
        (RouteJournalV3.mutable_of_isValid valid) member⟩
    · exact recorded.listed route member content (older content possible)
  · intro other found
    rw [written] at found
    cases found
    exact valid

theorem Recorded.of_written (covered : before.Covered journal)
    (same : SameRoutes before after) (written : after.Durable (some journal))
    (valid : journal.isValid rules = true) : after.Recorded rules := by
  constructor
  · intro route member content possible
    rw [same] at member
    rw [contents, written.file, written.synced] at possible
    exact ⟨journal, List.mem_singleton.mp possible, covered.lists
      (RouteJournalV3.mutable_of_isValid valid) member⟩
  · intro other found
    rw [written.file] at found
    cases found
    exact valid

/-- Safety of the helper's programs. -/
abbrev Secure (rules : RouteRules) {α : Type} (post : α → World → Prop)
    (program : Helper α) (world : World) : Prop :=
  Safe (Acts rules) Unspoiled Permits (Recorded rules) post program world

theorem recorded_of_absent (vacant : world.installed = [])
    (absent : world.file = none) : world.Recorded rules := by
  constructor
  · intro route member
    rw [vacant] at member
    cases member
  · intro journal found
    rw [absent] at found
    cases found

section

variable (recorded : world.Recorded rules)
include recorded

theorem secure_inspect {cidrs : List Text} {interfaceName : Text}
    {trusted : List Text}
    {next : Option (List (Text × RouteInspection)) → Helper α}
    (seen : ∀ entries,
      (∀ cidr inspection, entries.lookup cidr = some inspection →
          world.Installed cidr interfaceName → inspection.ownedExact = true) →
        Secure rules post (next (some entries)) world)
    (failed : Secure rules post (next none) world) :
    Secure rules post (Seam.inspect cidrs interfaceName trusted >>= next)
      world := by
  refine ⟨trivial, ?_⟩
  intro result after done
  cases done with
  | inspect truthful => exact ⟨recorded, fun _ => seen _ truthful⟩
  | inspectFailed => exact ⟨recorded, fun _ => failed⟩

theorem secure_persist {value : RouteJournalV3} (covered : world.Covered value)
    (written : ∀ after, SameRoutes world after → after.Durable (some value) →
      value.isValid rules = true → Secure rules post (next true) after)
    (failed : ∀ after, SameRoutes world after → after.Recorded rules →
      (after = world ∨ value.state ≠ .released) →
      Secure rules post (next false) after) :
    Secure rules post (Seam.persist value >>= next) world := by
  refine ⟨trivial, ?_⟩
  intro result after done
  cases done with
  | persisted valid =>
    have durable : (world.synced (some value)).Durable (some value) :=
      ⟨rfl, rfl⟩
    exact ⟨.of_written covered rfl durable valid,
      fun _ => written _ rfl durable valid⟩
  | unpersisted => exact ⟨recorded, fun _ => failed _ rfl recorded (.inl rfl)⟩
  | persistUnsynced valid =>
    have kept : (world.renamed (some value)).Recorded rules :=
      recorded.of_renamed covered rfl rfl (fun _ member => member) valid
    refine ⟨kept, fun unspoiled => ?_⟩
    have unreleased : value.state ≠ .released := by
      intro state
      exact unspoiled (.persist state rfl)
    exact failed _ rfl kept (.inr unreleased)

theorem secure_remove (vacant : world.installed = [])
    (removed : ∀ after, after.installed = [] → after.file = none →
      Secure rules post (next true) after)
    (failed : ∀ after, after.installed = [] → after.Recorded rules →
      (∀ journal, world.file = some journal → journal.state ≠ .released) →
      Secure rules post (next false) after) :
    Secure rules post (Seam.remove reference >>= next) world := by
  refine ⟨trivial, ?_⟩
  intro result after done
  have unreleased : Unspoiled world (.remove reference) false after →
      ∀ journal, world.file = some journal → journal.state ≠ .released := by
    intro unspoiled journal found state
    exact unspoiled (.remove state found)
  cases done with
  | removed current same onDisk =>
    exact ⟨recorded_of_absent vacant rfl, fun _ => removed _ vacant rfl⟩
  | unremoved =>
    exact ⟨recorded, fun unspoiled =>
      failed _ vacant recorded (unreleased unspoiled)⟩
  | removeUnsynced current same onDisk =>
    exact ⟨recorded_of_absent vacant rfl, fun unspoiled =>
      failed _ vacant (recorded_of_absent vacant rfl) (unreleased unspoiled)⟩

/-- A route command runs under a record that lists its route. -/
theorem secure_mutate {action : RouteMutation} (covered : world.Covered journal)
    (written : world.Durable (some journal)) (listed : cidr ∈ journal.listed)
    (continues : ∀ reported after, after.Covered journal →
      after.Recorded rules → Secure rules post (next reported) after) :
    Secure rules post (Seam.mutate action cidr journal >>= next) world := by
  have kept : ∀ after : World, after.Durable (some journal) →
      after.Covered journal → after.Recorded rules := by
    intro after durable still
    have valid := recorded.valid journal written.file
    exact .of_written still rfl durable valid
  refine ⟨trivial, ?_⟩
  intro result after done
  cases done with
  | mutated reported =>
    have still : (world.changed ⟨action, ⟨journal.reference, cidr,
        journal.owner.interfaceName⟩⟩).Covered journal := by
      intro route member
      cases action with
      | add =>
        rcases List.mem_cons.mp member with rfl | old
        · exact ⟨rfl, rfl, listed⟩
        · exact covered route old
      | delete => exact covered route (List.mem_filter.mp member).1
    have durable : (world.changed ⟨action, ⟨journal.reference, cidr,
        journal.owner.interfaceName⟩⟩).Durable (some journal) :=
      ⟨(world.file_changed _).trans written.file,
        (world.unsynced_changed _).trans written.synced⟩
    exact ⟨kept _ durable still, fun _ =>
      continues _ _ still (kept _ durable still)⟩
  | unmutated reported =>
    exact ⟨recorded, fun _ => continues _ _ covered recorded⟩
  | mutateAbandoned =>
    have later (abandoned : List RouteCommand) :
        ({ world with abandoned } : World).Recorded rules :=
      kept _ ⟨written.file, written.synced⟩ covered
    exact ⟨later _, fun _ => continues _ _ covered (later _)⟩

end

variable {next : RouteBrokerV3Result → Helper α}

section

variable (recorded : world.Recorded rules)
include recorded

theorem secure_release (permitted : world.Permits (.release reference))
    (continues : ∀ reply, Secure rules post (next reply) world) :
    Secure rules post (Seam.release reference >>= next) world := by
  refine ⟨permitted, ?_⟩
  intro result after done
  cases done with
  | release => exact ⟨recorded, fun _ => continues result⟩

theorem secure_hold
    (continues : ∀ reply, Secure rules post (next reply) world) :
    Secure rules post (Seam.hold reference >>= next) world := by
  refine ⟨trivial, ?_⟩
  intro result after done
  cases done with
  | hold => exact ⟨recorded, fun _ => continues result⟩

theorem secure_status
    (continues : ∀ reply, Secure rules post (next reply) world) :
    Secure rules post (Seam.status reference >>= next) world := by
  refine ⟨trivial, ?_⟩
  intro result after done
  cases done with
  | status => exact ⟨recorded, fun _ => continues result⟩

theorem secure_now {next : TunnelBroker.Date → Helper α}
    (continues : ∀ date, Secure rules post (next date) world) :
    Secure rules post (Seam.now >>= next) world := by
  refine ⟨trivial, ?_⟩
  intro result after done
  cases done with
  | now => exact ⟨recorded, fun _ => continues result⟩

end

/-- The state of the rollback loop: what the record lists is still to be
rolled back, and a pending route outside the applied ones comes first. -/
structure Retiring (journal : RouteJournalV3) (rest : List Text) : Prop where
  remaining : ∀ cidr ∈ journal.listed, cidr ∈ rest
  pending : ∀ cidr, journal.pendingCIDR = some cidr →
    cidr ∈ journal.appliedCIDRs ∨ rest.head? = some cidr

/-- The record without a route that is no longer installed. -/
def without (journal : RouteJournalV3) (cidr : Text) : RouteJournalV3 :=
  { journal with
    appliedCIDRs := journal.appliedCIDRs.filter (· ≠ cidr)
    pendingCIDR := none }

theorem retiring_owned (journal : RouteJournalV3) :
    Retiring journal journal.owned := by
  unfold RouteJournalV3.owned
  cases pending : journal.pendingCIDR with
  | none =>
    constructor
    · intro cidr member
      simpa [RouteJournalV3.listed, pending] using member
    · intro cidr found
      rw [pending] at found
      cases found
  | some first =>
    by_cases applied : first ∈ journal.appliedCIDRs
    · constructor
      · intro cidr member
        simp only [RouteJournalV3.listed, pending, Option.toList_some,
          List.mem_append, List.mem_singleton] at member
        rcases member with member | rfl <;> simp_all
      · intro cidr found
        rw [pending] at found
        cases found
        exact .inl applied
    · constructor
      · intro cidr member
        simp only [RouteJournalV3.listed, pending, Option.toList_some,
          List.mem_append, List.mem_singleton] at member
        simp_all [or_comm]
      · intro cidr found
        rw [pending] at found
        cases found
        simp [applied]

variable {rest : List Text} (retiring : Retiring journal (cidr :: rest))
include retiring

theorem Covered.without (covered : world.Covered journal)
    (gone : ¬ world.Installed cidr journal.owner.interfaceName) :
    world.Covered (without journal cidr) := by
  intro route member
  obtain ⟨lease, interfaceName, listed⟩ := covered route member
  have different : route.cidr ≠ cidr := by
    intro same
    exact gone ⟨route, member, same, interfaceName⟩
  refine ⟨lease, interfaceName, ?_⟩
  have applied : route.cidr ∈ journal.appliedCIDRs := by
    rcases List.mem_append.mp listed with applied | pending
    · exact applied
    · have found := Option.mem_toList.mp pending
      rcases retiring.pending _ found with applied | first
      · exact applied
      · exact absurd (Option.some.inj first).symm different
  simp [RouteJournalV3.listed, World.without, applied, different]

theorem Retiring.without : Retiring (without journal cidr) rest := by
  constructor
  · intro other member
    simp only [RouteJournalV3.listed, World.without, Option.toList_none,
      List.append_nil, List.mem_filter, decide_eq_true_eq] at member
    have listed : other ∈ journal.listed := List.mem_append_left _ member.1
    rcases List.mem_cons.mp (retiring.remaining other listed) with
      same | later
    · exact absurd same member.2
    · exact later
  · intro other found
    cases found

theorem Covered.marked (covered : world.Covered journal) :
    world.Covered { journal with pendingCIDR := some cidr } := by
  intro route member
  obtain ⟨lease, interfaceName, listed⟩ := covered route member
  refine ⟨lease, interfaceName, ?_⟩
  rcases List.mem_append.mp listed with applied | pending
  · exact List.mem_append_left _ applied
  · rcases retiring.pending _ (Option.mem_toList.mp pending) with
      applied | first
    · exact List.mem_append_left _ applied
    · apply List.mem_append_right
      simpa using (Option.some.inj first).symm

theorem Retiring.marked :
    Retiring { journal with pendingCIDR := some cidr } (cidr :: rest) := by
  constructor
  · intro other member
    rcases List.mem_append.mp member with applied | pending
    · exact retiring.remaining other (List.mem_append_left _ applied)
    · have same : other = cidr := by simpa using pending
      exact same ▸ List.mem_cons_self
  · intro other found
    exact .inr found

end World

end KyClash.RouteHelper
