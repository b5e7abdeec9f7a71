import KyClash.Codec.BigEndian
import KyClash.PolicyIdentity.Durability

/-!
# Runs of the policy identity store

In every run in which the commits start on synced directories, a committed
revision is never followed by a lower one, nor by another policy of the same
revision.  Without that, a commit that writes nothing can report a record
which is visible but not durable, and a power loss takes it back; so it is
with a commit in a directory whose creation was never synced.
-/

namespace KyClash.PolicyIdentity

open Transition
open Program

variable {codec : RecordCodec} {log : List PolicyIdentityCandidate}
  {world : World}

/-- What holds when a call returns. -/
structure Finishes (codec : RecordCodec) (log : List PolicyIdentityCandidate)
    (outcome : Outcome) (world : World) : Prop where
  guards : Guards codec log world
  held : ∀ transaction, outcome.transaction = some transaction →
    Matches codec world transaction
  settled : ∀ candidate, outcome.committed = some candidate →
    Settled codec candidate world

/-- The rest of a call keeps the crash invariant to its end. -/
abbrev Completes (codec : RecordCodec) (log : List PolicyIdentityCandidate)
    (program : Prog Act Act.Res Outcome) (world : World) : Prop :=
  Safe Does (fun _ _ _ _ => True) (fun _ _ => True) (Guards codec log)
    (Finishes codec log) program world

theorem Settled.guards {candidate : PolicyIdentityCandidate}
    (settled : Settled codec candidate world)
    (guards : Guards codec log world) :
    Guards codec (log ++ [candidate]) world := by
  constructor
  · intro other member
    rcases List.mem_append.mp member with earlier | last
    · exact guards.attached other earlier
    · exact ⟨settled.networking, settled.rootSynced⟩
  · intro other member
    rcases List.mem_append.mp member with earlier | last
    · exact guards.record other earlier
    · rw [List.mem_singleton.mp last]
      exact settled.records.covers
  · intro other member content older
    rw [settled.synced] at older
    cases older

theorem Guards.afterPowerLoss (guards : Guards codec log world)
    {content : RecordSnapshot}
    (possible : content ∈ world.record :: world.unsynced)
    (undone lockFile : Bool) :
    Guards codec log (world.afterPowerLoss content undone lockFile) := by
  cases log with
  | nil => exact .empty _
  | cons first rest =>
    have synced := (guards.attached first List.mem_cons_self).2
    unfold World.afterPowerLoss
    rw [synced, Bool.and_false, if_neg Bool.false_ne_true]
    refine ⟨fun candidate member =>
      ⟨(guards.attached candidate member).1, rfl⟩, ?_, fun _ _ => nofun⟩
    intro candidate member
    rcases List.mem_cons.mp possible with rfl | older
    · exact guards.record candidate member
    · exact guards.unsynced candidate member content older

private theorem completes_request
    {transaction : Option PolicyIdentityTransaction} {request : Request}
    {program : Prog Act Act.Res Outcome} (guards : Guards codec log world)
    (held : ∀ current, transaction = some current → Matches codec world current)
    (synced : ∀ now, request = .commit now →
      world.rootUnsynced = false ∧
        (transaction.bind PolicyIdentityTransaction.decision =
            some .idempotent →
          world.unsynced = []))
    (starts : request.program codec transaction = some program) :
    Completes codec log program world := by
  cases request with
  | begin =>
    cases transaction with
    | some current => cases starts
    | none =>
      cases starts
      apply Safe.bind (runs_begin guards)
      intro result after done
      cases result with
      | error error => exact ⟨done, nofun, nofun⟩
      | ok current =>
        refine ⟨done.1, ?_, nofun⟩
        rintro _ ⟨⟩
        exact done.2
  | classify candidate now =>
    cases transaction with
    | none => cases starts
    | some current =>
      cases starts
      have matching := held current rfl
      apply Safe.bind (safe_classify guards matching candidate now)
      intro result after done
      cases result with
      | error error =>
        obtain rfl : after = world := done
        refine ⟨guards, ?_, nofun⟩
        rintro _ ⟨⟩
        exact matching
      | ok classified =>
        obtain ⟨rfl, classifies⟩ := done
        refine ⟨guards, ?_, nofun⟩
        rintro _ ⟨⟩
        exact classifies
  | commit now =>
    cases transaction with
    | none => cases starts
    | some current =>
      cases starts
      obtain ⟨rootSynced, recordSynced⟩ := synced now rfl
      have commits :=
        runs_commit guards (held current rfl) rootSynced recordSynced now
      apply Safe.bind (Safe.withInvariant commits guards)
      rintro result after ⟨done, kept⟩
      cases result with
      | error error => exact ⟨kept, nofun, nofun⟩
      | ok committed =>
        refine ⟨kept, nofun, ?_⟩
        rintro _ ⟨⟩
        exact done

structure System.Sound (codec : RecordCodec) (system : System) : Prop where
  ordered : system.committed.Pairwise Keeps
  guards : Guards codec system.committed system.world
  held : system.running = none →
    ∀ transaction, system.transaction = some transaction →
      Matches codec system.world transaction
  running : ∀ program, system.running = some program →
    Completes codec system.committed program system.world

theorem System.sound_start (world : World) : (System.start world).Sound codec :=
  ⟨.nil, .empty world, fun _ => nofun, nofun⟩

theorem Finishes.ordered {outcome : Outcome}
    (finishes : Finishes codec log outcome world)
    (ordered : log.Pairwise Keeps) :
    (log ++ outcome.committed.toList).Pairwise Keeps ∧
      Guards codec (log ++ outcome.committed.toList) world := by
  cases committed : outcome.committed with
  | none =>
    rw [Option.toList_none, List.append_nil]
    exact ⟨ordered, finishes.guards⟩
  | some candidate =>
    have settled := finishes.settled candidate committed
    refine ⟨?_, settled.guards finishes.guards⟩
    apply List.pairwise_append.mpr
    refine ⟨ordered, List.pairwise_singleton _ _, ?_⟩
    intro earlier member later last
    rw [List.mem_singleton.mp last]
    exact settled.records.keeps (finishes.guards.record earlier member)

theorem System.Sound.step {system after : System} {event : Event}
    (sound : system.Sound codec) (synced : system.Synced event)
    (taken : system.step codec event = some after) : after.Sound codec := by
  cases event with
  | request request =>
    cases idle : system.running with
    | some program => simp [System.step, idle] at taken
    | none =>
      cases starts : request.program codec system.transaction with
      | none => simp [System.step, idle, starts] at taken
      | some program =>
        simp only [System.step, idle, starts, Option.some.injEq] at taken
        subst taken
        have directories : ∀ now, request = .commit now →
            system.world.rootUnsynced = false ∧ (system.transaction.bind
                  PolicyIdentityTransaction.decision =
                some .idempotent → system.world.unsynced = []) := by
          rintro now rfl
          exact synced
        refine ⟨sound.ordered, sound.guards, nofun, ?_⟩
        rintro _ ⟨⟩
        exact completes_request sound.guards (sound.held idle) directories
          starts
  | act fortune =>
    cases running : system.running with
    | none => simp [System.step, running] at taken
    | some program =>
      cases program with
      | ret outcome => simp [System.step, running] at taken
      | act action rest =>
        simp only [System.step, running, Option.some.injEq] at taken
        subst taken
        obtain ⟨-, goesOn⟩ := sound.running _ running
        obtain ⟨guards, remains⟩ := goesOn _ _ ⟨fortune, rfl⟩
        refine ⟨sound.ordered, guards, nofun, ?_⟩
        rintro _ ⟨⟩
        exact remains trivial
  | returns =>
    cases running : system.running with
    | none => simp [System.step, running] at taken
    | some program =>
      cases program with
      | act action rest => simp [System.step, running] at taken
      | ret outcome =>
        simp only [System.step, running, Option.some.injEq] at taken
        subst taken
        have finishes : Finishes codec system.committed outcome
            system.world := sound.running _ running
        obtain ⟨ordered, guards⟩ := finishes.ordered sound.ordered
        exact ⟨ordered, guards, fun _ => finishes.held, nofun⟩
  | dropped =>
    cases idle : system.running with
    | some program => simp [System.step, idle] at taken
    | none =>
      simp only [System.step, idle, Option.some.injEq] at taken
      subst taken
      exact ⟨sound.ordered, sound.guards, fun _ =>
        nofun, fun program present => by simp at present⟩
  | killed =>
    cases taken
    exact ⟨sound.ordered, sound.guards, fun _ => nofun, nofun⟩
  | powerLoss kept undone lockFile =>
    cases found : (system.world.record :: system.world.unsynced)[kept]? with
    | none => simp [System.step, found] at taken
    | some content =>
      simp only [System.step, found, Option.some.injEq] at taken
      subst taken
      have possible := List.mem_of_getElem? found
      exact ⟨sound.ordered,
        sound.guards.afterPowerLoss possible undone lockFile, fun _ => nofun,
        nofun⟩

/-- In every run in which the commits start on synced directories, committed
revisions never decrease, and equal ones belong to the same policy. -/
theorem committed_revisions_never_decrease {start : World} {system : System}
    (reached : Reaches (System.step codec) System.Synced (.start start)
      system) :
    system.committed.Pairwise Keeps :=
  (reached.invariant (System.sound_start start)
    fun _ _ _ sound synced taken =>
    System.Sound.step sound synced taken).ordered

/-! ## A store in use -/

def exampleCodec : RecordCodec where
  toVec record := record.schemaVersion ::
    (BigEndian.putUint 8 record.revision.toNat ++ record.envelopeSHA256 ++
      record.keyID)
  versionProbe bytes := bytes.head?
  legacyRecord _ := none
  identityRecord bytes := some {
    schemaVersion := bytes.headD 0
    revision := UInt64.ofNat (BigEndian.readUint ((bytes.drop 1).take 8))
    envelopeSHA256 := (bytes.drop 9).take 64
    keyID := (bytes.drop 73).dropLast }
  reads_back := by
    intro record digest _
    have length : record.envelopeSHA256.length = 64 := by
      simp only [validDigest, Bool.and_eq_true, decide_eq_true_eq] at digest
      exact digest.1
    refine ⟨rfl, ?_⟩
    have revision : (BigEndian.putUint 8 record.revision.toNat).length = 8 :=
      BigEndian.length_putUint 8 _
    simp [List.drop_append, revision, length, List.drop_of_length_le]

def exampleCandidate (revision : UInt64) (digit : UInt8) :
    PolicyIdentityCandidate where
  revision := revision
  envelopeSHA256 := List.replicate 64 digit
  keyID := [112]
  issuedAt := 100
  expiresAt := 200

/-- A call whose steps turn out as listed. -/
def callEvents (request : Request) (fortunes : List Fortune) : List Event :=
  .request request :: fortunes.map .act ++ [.returns]

/-- A transaction whose first two calls succeed, with the fortunes of its
`commit`.  `steps` are those of `begin`. -/
def transactionEvents (steps : Nat) (candidate : PolicyIdentityCandidate)
    (fortunes : List Fortune) : List Event :=
  callEvents .begin (List.replicate steps .succeeds) ++
    callEvents (.classify candidate 150) [.succeeds] ++
    callEvents (.commit 150) fortunes

/-- The store's directory and lock file are there, the record is not. -/
def attachedWorld : World where
  networking := true
  rootUnsynced := false
  lockFile := true
  record := none
  unsynced := []
  temporary := none
  nextInode := 0

def emptyWorld : World where
  networking := false
  rootUnsynced := false
  lockFile := false
  record := none
  unsynced := []
  temporary := none
  nextInode := 0

/-- The sync of a publication fails, so its `commit` does.  The next
transaction finds the record and commits it as it is; then power is lost. -/
def unsyncedRecord : List Event :=
  transactionEvents 7 (exampleCandidate 5 97)
        (List.replicate 9 .succeeds ++ [.fails]) ++
      transactionEvents 7 (exampleCandidate 5 97)
        (List.replicate 4 .succeeds) ++ .powerLoss 1 false true ::
    transactionEvents 7 (exampleCandidate 4 98) (List.replicate 13 .succeeds)

/-- The sync behind the creation of the directory fails, so `begin` does.  The
next transaction finds the directory and commits; then power is lost. -/
def unsyncedDirectory : List Event :=
  callEvents .begin [.succeeds, .succeeds, .fails] ++
    transactionEvents 9 (exampleCandidate 5 97) (List.replicate 13 .succeeds) ++
    .powerLoss 0 true true ::
    transactionEvents 10 (exampleCandidate 4 98) (List.replicate 13 .succeeds)

/-- A committed revision is forgotten and a lower one is committed. -/
theorem unsynced_commits_are_forgotten :
    (∃ system,
        Reaches (System.step exampleCodec) (fun _ _ => True)
            (.start attachedWorld) system ∧
          system.committed = [exampleCandidate 5 97, exampleCandidate 4 98] ∧
          ¬system.committed.Pairwise Keeps) ∧
      (∃ system,
        Reaches (System.step exampleCodec) (fun _ _ => True) (.start emptyWorld)
            system ∧
          system.committed = [exampleCandidate 5 97, exampleCandidate 4 98] ∧
          ¬system.committed.Pairwise Keeps) := by
  have forgets : ∀ world events, (run (System.step exampleCodec)
      (.start world) events).map System.committed =
        some [exampleCandidate 5 97, exampleCandidate 4 98] →
      ∃ system, Reaches (System.step exampleCodec) (fun _ _ => True)
        (.start world) system ∧
        system.committed = [exampleCandidate 5 97, exampleCandidate 4 98] ∧
        ¬system.committed.Pairwise Keeps := by
    intro world events replay
    obtain ⟨system, reached, committed⟩ := exists_of_replay replay
    refine ⟨system, reached, committed, ?_⟩
    rw [committed]
    decide
  exact ⟨forgets _ unsyncedRecord (by decide +kernel),
    forgets _ unsyncedDirectory (by decide +kernel)⟩

/-- A fresh store commits revision 5, fails to sync revision 6, commits 7,
loses power, and commits 7 again without writing. -/
theorem synced_commits_are_kept :
    ∃ system,
      Reaches (System.step exampleCodec) System.Synced (.start emptyWorld)
          system ∧
        system.committed =
          [exampleCandidate 5 97, exampleCandidate 7 99,
            exampleCandidate 7 99] ∧
        system.committed.Pairwise Keeps := by
  have replay : (run (fun system event =>
      if System.Synced system event then
        System.step exampleCodec system event
      else
        none) (.start emptyWorld)
      (transactionEvents 10 (exampleCandidate 5 97)
        (List.replicate 13 .succeeds) ++
        transactionEvents 7 (exampleCandidate 6 98)
        (List.replicate 10 .succeeds ++ [.fails]) ++
        transactionEvents 7 (exampleCandidate 7 99)
        (List.replicate 14 .succeeds) ++
        .powerLoss 0 true true ::
        transactionEvents 7 (exampleCandidate 7 99)
          (List.replicate 4 .succeeds))).map System.committed =
        some [exampleCandidate 5 97, exampleCandidate 7 99,
          exampleCandidate 7 99] := by
    decide +kernel
  obtain ⟨system, ran, committed⟩ := Option.map_eq_some_iff.mp replay
  have reached := reaches_of_guarded .start _ ran
  exact ⟨system, reached, committed, committed_revisions_never_decrease reached⟩

end KyClash.PolicyIdentity
