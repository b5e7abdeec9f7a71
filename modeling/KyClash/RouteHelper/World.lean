import KyClash.RouteHelper.Coordinator

/-!
# What the helper's actions do

The journal file, the routing table and the broker's replies behind the
coordinator's seams, with every way an action can fail or be ambiguous.

* A write renames the new file into place and then syncs the directory.  When
  the sync fails the new file is visible, the store still remembers the old
  record, and a power loss may bring the old file back.
* A route command that outlives its deadline is abandoned.  It may have
  changed the table, and it may still do so later, even in a later process.
* A broker reply may be anything: the helper is not told what happened.
-/

namespace KyClash.RouteHelper

open Program

/-- A route that the helper installed, with the lease it installed it for. -/
structure InstalledRoute where
  lease : LeaseReferenceV3
  cidr : Text
  interfaceName : Text
  deriving DecidableEq, Repr

/-- A route command that was abandoned while it ran. -/
structure RouteCommand where
  action : RouteMutation
  route : InstalledRoute
  deriving DecidableEq, Repr

/-- `file` is the visible journal and `unsynced` are the older contents that a
power loss may bring back.  `current` is the store's own record, and belongs
to the process. -/
structure World where
  file : Option RouteJournalV3
  unsynced : List (Option RouteJournalV3)
  current : Option RouteJournalV3
  installed : List InstalledRoute
  abandoned : List RouteCommand
  deriving DecidableEq, Repr

namespace World

def initial : World where
  file := none
  unsynced := []
  current := none
  installed := []
  abandoned := []

/-- The table after a route command took effect.  A deletion removes the
route from the table whoever installed it. -/
def changed (world : World) (command : RouteCommand) : World :=
  match command.action with
  | .add => { world with installed := command.route :: world.installed }
  | .delete =>
    { world with
      installed := world.installed.filter fun route =>
        route.cidr ≠ command.route.cidr ∨
          route.interfaceName ≠ command.route.interfaceName }

@[simp]
theorem file_changed (world : World) (command : RouteCommand) :
    (world.changed command).file = world.file := by
  unfold changed
  split <;> rfl

@[simp]
theorem unsynced_changed (world : World) (command : RouteCommand) :
    (world.changed command).unsynced = world.unsynced := by
  unfold changed
  split <;> rfl

/-- The route is in the table because the helper installed it. -/
def Installed (world : World) (cidr interfaceName : Text) : Prop :=
  ∃ route ∈ world.installed, route.cidr = cidr ∧
    route.interfaceName = interfaceName

/-- The file was renamed into place. -/
def renamed (world : World) (content : Option RouteJournalV3) : World :=
  { world with file := content, unsynced := world.file :: world.unsynced }

/-- The directory was synced and the store remembers the record. -/
def synced (world : World) (content : Option RouteJournalV3) : World :=
  { world with file := content, unsynced := [], current := content }

variable (rules : RouteRules)

/-- What each action may do, with its result. -/
inductive Acts : Effect Act Act.Res World where
  /-- An inspection that succeeds reports every route that the helper has in
  the table.  It may report more: other programs use the table too. -/
  | inspect {world : World} {cidrs : List Text} {interfaceName : Text}
      {trusted : List Text} {entries : List (Text × RouteInspection)}
      (truthful : ∀ cidr inspection, entries.lookup cidr = some inspection →
        world.Installed cidr interfaceName → inspection.ownedExact = true) :
      Acts world (.inspect cidrs interfaceName trusted) (some entries) world
  | inspectFailed {world : World} {cidrs : List Text}
      {interfaceName : Text} {trusted : List Text} :
      Acts world (.inspect cidrs interfaceName trusted) none world
  /-- Whatever the command reports, it has taken effect. -/
  | mutated {world : World} {action : RouteMutation}
      {cidr interfaceName : Text} {lease : LeaseReferenceV3}
      (reported : Bool) :
      Acts world (.mutate action cidr interfaceName lease) reported
        (world.changed ⟨action, ⟨lease, cidr, interfaceName⟩⟩)
  /-- Whatever the command reports, the table is as before. -/
  | unmutated {world : World} {action : RouteMutation}
      {cidr interfaceName : Text} {lease : LeaseReferenceV3}
      (reported : Bool) :
      Acts world (.mutate action cidr interfaceName lease) reported world
  /-- The command outlived its deadline and was abandoned. -/
  | mutateAbandoned {world : World} {action : RouteMutation}
      {cidr interfaceName : Text} {lease : LeaseReferenceV3} :
      Acts world (.mutate action cidr interfaceName lease) false
        { world with
          abandoned :=
            ⟨action, ⟨lease, cidr, interfaceName⟩⟩ :: world.abandoned }
  | persisted {world : World} {value : RouteJournalV3}
      (valid : value.isValid rules = true) :
      Acts world (.persist value) true (world.synced (some value))
  | unpersisted {world : World} {value : RouteJournalV3} :
      Acts world (.persist value) false world
  /-- Renamed into place, but the sync or the final check failed. -/
  | persistUnsynced {world : World} {value : RouteJournalV3}
      (valid : value.isValid rules = true) :
      Acts world (.persist value) false (world.renamed (some value))
  /-- The file is removed only when it is the store's record. -/
  | removed {world : World} {reference : LeaseReferenceV3}
      {journal : RouteJournalV3} (current : world.current = some journal)
      (same : journal.reference = reference)
      (onDisk : world.file = some journal) :
      Acts world (.remove reference) true (world.synced none)
  | unremoved {world : World} {reference : LeaseReferenceV3} :
      Acts world (.remove reference) false world
  | removeUnsynced {world : World} {reference : LeaseReferenceV3}
      {journal : RouteJournalV3} (current : world.current = some journal)
      (same : journal.reference = reference)
      (onDisk : world.file = some journal) :
      Acts world (.remove reference) false (world.renamed none)
  | hold {world : World} {reference : LeaseReferenceV3}
      (reply : RouteBrokerV3Result) : Acts world (.hold reference) reply world
  | release {world : World} {reference : LeaseReferenceV3}
      (reply : RouteBrokerV3Result) :
      Acts world (.release reference) reply world
  | status {world : World} {reference : LeaseReferenceV3}
      (reply : RouteBrokerV3Result) :
      Acts world (.status reference) reply world
  | now {world : World} (date : TunnelBroker.Date) :
      Acts world .now date world

end World

end KyClash.RouteHelper
