import KyClash.RouteHelper.V2.Coordinator

/-!
# What the v2 coordinator's actions do

The journal file and the routing table behind the coordinator's seams, with
every way an action can fail.  The table holds the routes that the helper's
own commands put on a tunnel interface: no other program changes those.

* A write renames the new file into place, so a write that fails leaves the
  old file or the new one.
* A route command that fails may have changed the table all the same.
* An inspection that succeeds reports every route of the table.  It may report
  more, since it also sees the routes of other programs.
-/

namespace KyClash.RouteHelper.V2

open Program
open TunnelBroker (Date)

structure World where
  file : Option Content
  installed : List Route
  deriving DecidableEq, Repr

/-- How an action turns out: what it reports, and whether it took effect. -/
inductive Fortune where
  | seen (entries : List (Text × RouteInspection))
  | unseen
  | done (reported effective : Bool)
  | date (date : Date)
  deriving DecidableEq, Repr

namespace World

/-- The table after a route command took effect. -/
def changed (world : World) (action : RouteMutation) (route : Route) : World :=
  match action with
  | .add => { world with installed := route :: world.installed }
  | .delete => { world with installed := world.installed.filter (· ≠ route) }

/-- The entries report each route of the table that they are about. -/
def truthful (world : World) (interfaceName : Text)
    (entries : List (Text × RouteInspection)) : Bool :=
  world.installed.all fun route => route.interfaceName ≠ interfaceName ||
    (entries.lookup route.cidr).all (·.ownedExact)

variable (rules : RouteRules)

/-- What an action returns and does, if it can turn out like this. -/
def perform (world : World) :
    (action : Act) → Fortune → Option (Act.Res action × World)
  | .inspect _ interfaceName _, .seen entries =>
    if world.truthful interfaceName entries then
      some (some entries, world)
    else none
  | .inspect _ _ _, .unseen => some (none, world)
  | .mutate action cidr interfaceName _, .done reported effective =>
    some (reported,
      if effective then world.changed action ⟨cidr, interfaceName⟩
      else world)
  | .persist content, .done reported effective =>
    -- Only a valid record is written, and success is reported last.
    if effective then
      if content.isValid rules then
        some (reported, { world with file := some content })
      else none
    else if reported then none
    else some (false, world)
  | .removeJournal, .done reported effective =>
    if effective then some (reported, { world with file := none })
    else if reported then none
    else some (false, world)
  | .now, .date date => some (date, world)
  | _, _ => none

/-- The outcomes of an action. -/
def Acts : Effect Act Act.Res World := fun world action result after =>
  ∃ fortune, world.perform rules action fortune = some (result, after)

/-- Every route of the table is marked by this content. -/
def Covered (world : World) (content : Content) : Prop :=
  ∀ route ∈ world.installed, route ∈ content.routes

/-- Every route of the table is durably marked. -/
def Recorded (world : World) : Prop :=
  ∀ route ∈ world.installed, ∃ content, world.file = some content ∧
    route ∈ content.routes

/-- A route is deleted only for the lease whose journal is on file and marks
exactly this route. -/
def Permits (world : World) : Act → Prop
  | .mutate .delete cidr interfaceName lease =>
    ∃ content, world.file = some content ∧ content.lease = some lease ∧
      ⟨cidr, interfaceName⟩ ∈ content.routes
  | _ => True

variable {content : Content} {world : World}

theorem Covered.recorded (covered : world.Covered content)
    (file : world.file = some content) : world.Recorded :=
  fun route member => ⟨content, file, covered route member⟩

theorem recorded_of_empty (empty : world.installed = []) : world.Recorded := by
  intro route member
  rw [empty] at member
  cases member

theorem Covered.mono {first second : Content} (covered : world.Covered first)
    (more : ∀ route ∈ first.routes, route ∈ second.routes) :
    world.Covered second :=
  fun route member => more route (covered route member)

theorem Covered.of_installed {before after : World}
    (covered : before.Covered content)
    (same : after.installed = before.installed) : after.Covered content := by
  intro route member
  rw [same] at member
  exact covered route member

/-- Safety of the coordinator's programs: they go on after every outcome. -/
abbrev Secure {α : Type} (post : α → World → Prop) (program : Helper α)
    (world : World) : Prop :=
  Safe (Acts rules) (fun _ _ _ _ => True) Permits Recorded post program world

variable {rules} {α : Type} {post : α → World → Prop} {world : World}
  {interfaceName : Text} {next : Bool → Helper α}

private theorem truthful_iff {entries : List (Text × RouteInspection)} :
    world.truthful interfaceName entries = true ↔
      ∀ cidr inspection, entries.lookup cidr = some inspection →
        ⟨cidr, interfaceName⟩ ∈ world.installed →
        inspection.ownedExact = true := by
  simp only [truthful, List.all_eq_true, Bool.or_eq_true, decide_eq_true_eq,
    Option.all_eq_true]
  constructor
  · intro all cidr inspection found member
    rcases all _ member with other | owned
    · exact absurd rfl other
    · exact owned inspection found
  · intro reports route member
    by_cases same : route.interfaceName = interfaceName
    · subst same
      exact .inr fun inspection found =>
        reports route.cidr inspection found member
    · exact .inl same

theorem secure_inspect {cidrs : List Text} {trusted : List Text}
    {next : Option (List (Text × RouteInspection)) → Helper α}
    (recorded : world.Recorded)
    (seen : ∀ entries,
      (∀ cidr inspection, entries.lookup cidr = some inspection →
          ⟨cidr, interfaceName⟩ ∈ world.installed →
          inspection.ownedExact = true) →
        Secure rules post (next (some entries)) world)
    (unseen : Secure rules post (next none) world) :
    Secure rules post (Seam.inspect cidrs interfaceName trusted >>= next)
      world := by
  refine ⟨trivial, ?_⟩
  rintro result after ⟨fortune, performed⟩
  cases fortune with
  | seen entries =>
    simp only [perform, Option.ite_none_right_eq_some,
      Option.some.injEq, Prod.mk.injEq] at performed
    obtain ⟨reports, rfl, rfl⟩ := performed
    exact ⟨recorded, fun _ => seen entries (truthful_iff.mp reports)⟩
  | unseen =>
    cases performed
    exact ⟨recorded, fun _ => unseen⟩
  | done | date => cases performed

theorem secure_persist (recorded : world.Recorded)
    (covered : world.Covered content)
    (written : ∀ after, after.installed = world.installed →
      after.file = some content → content.isValid rules = true →
      Secure rules post (next true) after)
    (failed : ∀ after, after.installed = world.installed → after.Recorded →
      Secure rules post (next false) after) :
    Secure rules post (Seam.persist content >>= next) world := by
  refine ⟨trivial, ?_⟩
  rintro result after ⟨fortune, performed⟩
  cases fortune with
  | seen | unseen | date => cases performed
  | done reported effective =>
    cases effective with
    | true =>
      simp only [perform, if_true, Option.ite_none_right_eq_some,
        Option.some.injEq, Prod.mk.injEq] at performed
      obtain ⟨valid, rfl, rfl⟩ := performed
      have kept : ({ world with file := some content } : World).Recorded :=
        fun route member => ⟨content, rfl, covered route member⟩
      refine ⟨kept, fun _ => ?_⟩
      cases reported with
      | true => exact written _ rfl rfl valid
      | false => exact failed _ rfl kept
    | false =>
      cases reported with
      | true => cases performed
      | false =>
        cases performed
        exact ⟨recorded, fun _ => failed _ rfl recorded⟩

theorem secure_removeJournal (empty : world.installed = [])
    (removed : ∀ after, after.installed = [] → after.file = none →
      Secure rules post (next true) after)
    (failed : ∀ after, after.installed = [] →
      Secure rules post (next false) after) :
    Secure rules post (Seam.removeJournal >>= next) world := by
  refine ⟨trivial, ?_⟩
  rintro result after ⟨fortune, performed⟩
  cases fortune with
  | seen | unseen | date => cases performed
  | done reported effective =>
    cases effective with
    | true =>
      cases performed
      refine ⟨recorded_of_empty empty, fun _ => ?_⟩
      cases result with
      | true => exact removed _ empty rfl
      | false => exact failed _ empty
    | false =>
      cases reported with
      | true => cases performed
      | false =>
        cases performed
        exact ⟨recorded_of_empty empty, fun _ => failed _ empty⟩

theorem secure_mutate {action : RouteMutation} {cidr : Text} {lease : Lease}
    (covered : world.Covered content) (file : world.file = some content)
    (own : content.lease = some lease)
    (marked : ⟨cidr, interfaceName⟩ ∈ content.routes)
    (continues : ∀ reported after, after.file = some content →
      after.Covered content → Secure rules post (next reported) after) :
    Secure rules post (Seam.mutate action cidr interfaceName lease >>= next)
      world := by
  have still : (world.changed action ⟨cidr, interfaceName⟩).Covered content ∧
      (world.changed action ⟨cidr, interfaceName⟩).file = some content := by
    cases action with
    | add =>
      refine ⟨?_, file⟩
      intro route member
      rcases List.mem_cons.mp member with rfl | old
      · exact marked
      · exact covered route old
    | delete =>
      exact ⟨fun route member => covered route (List.mem_filter.mp member).1,
        file⟩
  constructor
  · cases action with
    | add => trivial
    | delete => exact ⟨content, file, own, marked⟩
  · rintro result after ⟨fortune, performed⟩
    cases fortune with
    | seen | unseen | date => cases performed
    | done reported effective =>
      cases performed
      cases effective with
      | true =>
        exact ⟨still.1.recorded still.2,
          fun _ => continues result _ still.2 still.1⟩
      | false =>
        exact ⟨covered.recorded file, fun _ => continues result _ file covered⟩

theorem secure_now {next : Date → Helper α} (recorded : world.Recorded)
    (continues : ∀ date, Secure rules post (next date) world) :
    Secure rules post (Seam.now >>= next) world := by
  refine ⟨trivial, ?_⟩
  rintro result after ⟨fortune, performed⟩
  cases fortune with
  | seen | unseen | done => cases performed
  | date date =>
    cases performed
    exact ⟨recorded, fun _ => continues result⟩

end World

end KyClash.RouteHelper.V2
