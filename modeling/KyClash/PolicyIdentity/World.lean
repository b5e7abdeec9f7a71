import KyClash.Concurrency.Transition
import KyClash.PolicyIdentity.Store

/-!
# The file system under the policy identity store

The entries that matter are `networking` in the application's data directory,
and in it the lock file, the record and the temporary file of the running
commit.  A change of a directory lasts for certain only once that directory
was synced; until then a power loss may undo it.  File contents need no such
care: a temporary file is synced before it is published.

A run interleaves the calls on transactions, the single steps of the call in
progress, ends of the process and power losses.  The file lock makes
transactions exclude each other, so one at a time is held.
-/

namespace KyClash.PolicyIdentity

open Program

/-- `unsynced` lists the earlier values of the record's entry that a power
loss may bring back, `rootUnsynced` tells that it may take the whole
directory. -/
structure World where
  networking : Bool
  rootUnsynced : Bool
  lockFile : Bool
  record : RecordSnapshot
  unsynced : List RecordSnapshot
  temporary : RecordSnapshot
  nextInode : Nat
  deriving DecidableEq, Repr

/-- How a step turns out.  A step that reports an error may have taken
effect all the same. -/
inductive Fortune where
  | succeeds
  | fails
  | failsLate
  deriving DecidableEq, Repr

namespace World

/-- The record's entry changes. -/
def renamed (world : World) (record temporary : RecordSnapshot) : World :=
  { world with
    record, temporary, unsynced := world.record :: world.unsynced }

/-- A step that changes something: the report and the world after it. -/
def change (fortune : Fortune) (before after : World) : Bool × World :=
  match fortune with
  | .succeeds => (true, after)
  | .fails => (false, before)
  | .failsLate => (false, after)

def look (world : World) (fortune : Fortune) (holds : Bool) : Bool × World :=
  (fortune == .succeeds && holds, world)

/-- `RENAME_EXCHANGE` of the temporary file and the record. -/
def exchange (world : World) (fortune : Fortune) : Bool × World :=
  if world.temporary.isSome && world.record.isSome then
    change fortune world (world.renamed world.temporary world.record)
  else
    (false, world)

def attempt (world : World) (fortune : Fortune) : Attempt → Bool × World
  | .openRoot | .syncLockFile | .acquireLock | .ensureAttached =>
    world.look fortune true
  | .openNetworking => world.look fortune world.networking
  | .syncRoot => change fortune world { world with rootUnsynced := false }
  | .syncNetworking => change fortune world { world with unsynced := [] }
  | .writeTemporary bytes =>
    change fortune world { world with
      temporary := world.temporary.map fun file => { file with bytes } }
  | .syncTemporary inode =>
    world.look fortune (world.temporary.any fun file => file.inode = inode)
  | .verifyTemporary inode bytes =>
    world.look fortune (world.temporary = some ⟨inode, bytes⟩)
  | .verifyRetired snapshot =>
    world.look fortune (world.temporary = some snapshot)
  | .verifyRecord inode bytes =>
    world.look fortune (world.record = some ⟨inode, bytes⟩)
  | .verifyRestored snapshot =>
    world.look fortune (world.record = some snapshot)
  | .publishRecord true | .exchangeBack => world.exchange fortune
  | .publishRecord false =>
    if world.temporary.isSome && world.record.isNone then
      change fortune world (world.renamed world.temporary none)
    else
      (false, world)
  | .quarantine =>
    if world.record.isSome then
      change fortune world (world.renamed none world.temporary)
    else
      (false, world)

/-- The result of an action and the world after it. -/
def perform (world : World) (fortune : Fortune) :
    (action : Act) → action.Res × World
  | .attempt step => world.attempt fortune step
  | .makeNetworking =>
    if fortune = .fails then
      (Creation.failed, world)
    else if world.networking then
      (if fortune = .succeeds then Creation.existing else .failed, world)
    else
      (if fortune = .succeeds then Creation.created else .failed,
        { world with networking := true, rootUnsynced := true })
  | .openLockFile =>
    if fortune = .fails then
      (Creation.failed, world)
    else if world.lockFile then
      (if fortune = .succeeds then Creation.existing else .failed, world)
    else
      (if fortune = .succeeds then Creation.created else .failed,
        { world with lockFile := true })
  | .readRecord =>
    (if fortune = .succeeds then some world.record else none, world)
  | .createTemporary =>
    if fortune = .fails then
      ((none : Option Nat), world)
    else
      (if fortune = .succeeds then some world.nextInode else none,
        { world with
          temporary := some ⟨world.nextInode, []⟩
          nextInode := world.nextInode + 1 })

end World

inductive Request where
  | begin
  | classify (candidate : PolicyIdentityCandidate) (now : UInt64)
  | commit (now : UInt64)
  deriving DecidableEq, Repr

/-- What a call leaves: the transaction, if it is still held, and the
candidate whose `commit` returned `Ok`. -/
structure Outcome where
  transaction : Option PolicyIdentityTransaction
  committed : Option PolicyIdentityCandidate

variable (codec : RecordCodec)

/-- A failed `classify` leaves the transaction as it was; `commit` consumes
it. -/
def Request.program (transaction : Option PolicyIdentityTransaction)
    (request : Request) : Option (Prog Act Act.Res Outcome) :=
  match request, transaction with
  | .begin, none => some do
      match ← (PolicyIdentity.begin codec).run with
      | .ok transaction => return ⟨some transaction, none⟩
      | .error _ => return ⟨none, none⟩
  | .classify candidate now, some transaction => some do
      match ← (PolicyIdentity.classify transaction candidate now).run with
      | .ok transaction => return ⟨some transaction, none⟩
      | .error _ => return ⟨some transaction, none⟩
  | .commit now, some transaction => some do
      match ← (PolicyIdentity.commit codec transaction now).run with
      | .ok (candidate, _) => return ⟨none, some candidate⟩
      | .error _ => return ⟨none, none⟩
  | _, _ => none

/-- `committed` logs the candidates whose `commit` returned `Ok`. -/
structure System where
  world : World
  transaction : Option PolicyIdentityTransaction
  running : Option (Prog Act Act.Res Outcome)
  committed : List PolicyIdentityCandidate

inductive Event where
  | request (request : Request)
  | act (fortune : Fortune)
  | returns
  | dropped
  | killed
  /-- `kept` counts back to the value that the record's entry gets; `undone`
  takes the directory if its creation was not synced. -/
  | powerLoss (kept : Nat) (undone : Bool) (lockFile : Bool)
  deriving DecidableEq, Repr

def System.start (world : World) : System where
  world := world
  transaction := none
  running := none
  committed := []

def World.afterPowerLoss (world : World) (content : RecordSnapshot)
    (undone lockFile : Bool) : World :=
  if undone && world.rootUnsynced then
    { networking := false, rootUnsynced := false, lockFile := false,
      record := none, unsynced := [], temporary := none,
      nextInode := world.nextInode }
  else
    { world with
      rootUnsynced := false, lockFile, record := content, unsynced := [],
      temporary := none }

def System.step (system : System) : Event → Option System
  | .request request =>
    match system.running with
    | some _ => none
    | none =>
      match request.program codec system.transaction with
      | none => none
      | some program => some { system with running := some program }
  | .act fortune =>
    match system.running with
    | some (.act action rest) =>
      let done := system.world.perform fortune action
      some { system with world := done.2, running := some (rest done.1) }
    | _ => none
  | .returns =>
    match system.running with
    | some (.ret outcome) =>
      some { system with
        transaction := outcome.transaction
        running := none
        committed := system.committed ++ outcome.committed.toList }
    | _ => none
  | .dropped =>
    match system.running with
    | some _ => none
    | none => some { system with transaction := none }
  | .killed => some { system with transaction := none, running := none }
  | .powerLoss kept undone lockFile =>
    match (system.world.record :: system.world.unsynced)[kept]? with
    | none => none
    | some content =>
      some { system with
        world := system.world.afterPowerLoss content undone lockFile
        transaction := none
        running := none }

/-- `later` keeps the floor that `earlier` set. -/
def Keeps (earlier later : PolicyIdentityCandidate) : Prop :=
  earlier.revision ≤ later.revision ∧
    (earlier.revision = later.revision →
      earlier.envelopeSHA256 = later.envelopeSHA256 ∧
        earlier.keyID = later.keyID)

instance (earlier later : PolicyIdentityCandidate) :
    Decidable (Keeps earlier later) :=
  inferInstanceAs (Decidable (_ ∧ (_ → _)))

/-- A `commit` starts in a directory whose creation is durable, and one that
writes nothing finds the record's entry durable. -/
def System.Synced (system : System) : Event → Prop
  | .request (.commit _) => system.world.rootUnsynced = false ∧
      (system.transaction.bind PolicyIdentityTransaction.decision =
        some .idempotent →
        system.world.unsynced = [])
  | _ => True

instance (system : System) : (event : Event) → Decidable (system.Synced event)
  | .request (.commit _) => inferInstanceAs (Decidable (_ ∧ (_ → _)))
  | .request .begin | .request (.classify ..) | .act _ | .returns
  | .dropped | .killed | .powerLoss .. => isTrue trivial

end KyClash.PolicyIdentity
