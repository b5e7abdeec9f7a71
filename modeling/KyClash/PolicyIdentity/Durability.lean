import KyClash.PolicyIdentity.World

/-!
# Committed revisions are a durable floor

Every value that the record's entry can have after a power loss covers every
committed candidate.  This is the crash invariant of all calls.  It needs what
the code does not establish by itself: that the directory of the record is
durable when a `commit` starts, and, for a `commit` that writes nothing, that
the record's entry is.
-/

namespace KyClash.PolicyIdentity

open Program

variable {codec : RecordCodec} {candidate : PolicyIdentityCandidate}
  {content : RecordSnapshot} {log : List PolicyIdentityCandidate}
  {world after : World} {fortune : Fortune}
  {transaction : PolicyIdentityTransaction} {inode : Nat} {bytes : List UInt8}
  {previous : RecordSnapshot} {stored : Option StoredRecord} {holds : Bool}
  {program : Store α}

/-- The record says at least what the candidate said. -/
def Covers (codec : RecordCodec) (candidate : PolicyIdentityCandidate)
    (content : RecordSnapshot) : Prop :=
  ∃ file record, content = some file ∧
    parseBytes codec file.bytes = .ok (.identity record) ∧
    candidate.revision ≤ record.revision ∧
    (candidate.revision = record.revision →
      candidate.envelopeSHA256 = record.envelopeSHA256 ∧
        candidate.keyID = record.keyID)

/-- The record is the candidate's. -/
def Records (codec : RecordCodec) (candidate : PolicyIdentityCandidate)
    (content : RecordSnapshot) : Prop :=
  ∃ file record, content = some file ∧
    parseBytes codec file.bytes = .ok (.identity record) ∧
    candidate.revision = record.revision ∧
    candidate.envelopeSHA256 = record.envelopeSHA256 ∧
    candidate.keyID = record.keyID

theorem Records.covers (records : Records codec candidate content) :
    Covers codec candidate content := by
  obtain ⟨file, record, present, parsed, revision, digest, key⟩ := records
  exact ⟨file, record, present, parsed, UInt64.le_of_eq revision,
    fun _ => ⟨digest, key⟩⟩

theorem Records.keeps {earlier later : PolicyIdentityCandidate}
    (records : Records codec later content)
    (covers : Covers codec earlier content) : Keeps earlier later := by
  obtain ⟨file, record, present, parsed, revision, digest, key⟩ := records
  obtain ⟨other, found, same, read, below, equal⟩ := covers
  obtain rfl : file = other := Option.some.inj (present.symm.trans same)
  rw [parsed] at read
  cases read
  refine ⟨by rw [revision]; exact below, ?_⟩
  intro level
  rw [digest, key]
  exact equal (level.trans revision)

private theorem validateShape_eq_ok (valid : candidate.validateShape = .ok ()) :
    candidate.revision ≠ 0 ∧ validDigest candidate.envelopeSHA256 = true ∧
      validKeyID candidate.keyID = true := by
  unfold PolicyIdentityCandidate.validateShape at valid
  split at valid
  · cases valid
  · next passed =>
    simp only [Bool.or_eq_true, decide_eq_true_eq, Bool.not_eq_true',
      not_or, Bool.not_eq_false] at passed
    exact ⟨passed.1.1.1, passed.1.2, passed.2⟩

private theorem validateShape_of_validateAt {now : UInt64} {value : Unit}
    (valid : candidate.validateAt now = .ok value) :
    candidate.validateShape = .ok () := by
  cases shape : candidate.validateShape with
  | error error =>
    simp [PolicyIdentityCandidate.validateAt, shape, bind, Except.bind] at valid
  | ok value => rfl

theorem parseBytes_encodeRecord (valid : candidate.validateShape = .ok ()) :
    parseBytes codec (encodeRecord codec candidate) =
      .ok (.identity (.of candidate)) := by
  obtain ⟨positive, digest, key⟩ := validateShape_eq_ok valid
  obtain ⟨version, record⟩ := codec.reads_back (.of candidate) digest key
  have notLegacy : (IdentityRecord.of candidate).schemaVersion ≠ 1 := by
    show recordSchemaVersion ≠ 1
    decide
  rw [parseBytes, encodeRecord, version]
  simp only [record, if_neg notLegacy]
  simp [IdentityRecord.of, positive, digest, key]

/-- Whatever a power loss leaves covers every committed candidate. -/
structure Guards (codec : RecordCodec) (log : List PolicyIdentityCandidate)
    (world : World) : Prop where
  attached : ∀ candidate ∈ log, world.networking = true ∧
    world.rootUnsynced = false
  record : ∀ candidate ∈ log, Covers codec candidate world.record
  unsynced : ∀ candidate ∈ log, ∀ content ∈ world.unsynced,
    Covers codec candidate content

theorem Guards.empty (world : World) : Guards codec [] world :=
  ⟨nofun, nofun, nofun⟩

/-- The parts of the world that the invariant speaks about. -/
structure SameRecord (world after : World) : Prop where
  networking : after.networking = world.networking
  rootUnsynced : after.rootUnsynced = world.rootUnsynced
  record : after.record = world.record
  unsynced : after.unsynced = world.unsynced

theorem sameRecord_temporary (world : World) (temporary : RecordSnapshot)
    (nextInode : Nat) : SameRecord world { world with temporary, nextInode } :=
  ⟨rfl, rfl, rfl, rfl⟩

theorem Guards.same (guards : Guards codec log world)
    (same : SameRecord world after) : Guards codec log after := by
  constructor
  · rw [same.networking, same.rootUnsynced]
    exact guards.attached
  · rw [same.record]
    exact guards.record
  · rw [same.unsynced]
    exact guards.unsynced

theorem Guards.renamed (guards : Guards codec log world)
    {record : RecordSnapshot}
    (covers : ∀ candidate ∈ log, Covers codec candidate record)
    (temporary : RecordSnapshot) :
    Guards codec log (world.renamed record temporary) := by
  refine ⟨guards.attached, covers, ?_⟩
  intro candidate member content earlier
  rcases List.mem_cons.mp earlier with rfl | older
  · exact guards.record candidate member
  · exact guards.unsynced candidate member content older

theorem Guards.synced (guards : Guards codec log world) :
    Guards codec log { world with unsynced := [] } :=
  ⟨guards.attached, guards.record, fun _ _ => nofun⟩

theorem change_keeps {property : World → Prop} (fortune : Fortune)
    (before : property world) (changed : property after) :
    property (World.change fortune world after).2 := by
  cases fortune with
  | succeeds => exact changed
  | fails => exact before
  | failsLate => exact changed

private theorem change_succeeds
    (done : (World.change fortune world after).1 = true) :
    (World.change fortune world after).2 = after := by
  cases fortune with
  | succeeds => rfl
  | fails => cases done
  | failsLate => cases done

/-- What an action may do. -/
def Does : Effect Act Act.Res World := fun world action result after =>
  ∃ fortune, world.perform fortune action = (result, after)

/-- The program keeps the crash invariant throughout, and `success` holds
where it returns. -/
def Runs (codec : RecordCodec) (log : List PolicyIdentityCandidate)
    (success : α → World → Prop) (program : Store α) (world : World) : Prop :=
  Safe Does (fun _ _ _ _ => True) (fun _ _ => True) (Guards codec log)
    (OnResult (fun _ after => Guards codec log after) success)
    program.run world

namespace Runs

variable {success : α → World → Prop} {step : Attempt}

theorem bind {middle : α → World → Prop} {success : β → World → Prop}
    {next : α → Store β} (first : Runs codec log middle program world)
    (continues : ∀ value after, middle value after →
      Runs codec log success (next value) after) :
    Runs codec log success (program >>= next) world :=
  Safe.andThen first continues

theorem mono {stronger : α → World → Prop}
    (runs : Runs codec log stronger program world)
    (weaker : ∀ value after, stronger value after → success value after) :
    Runs codec log success program world := by
  apply Safe.mono runs
  intro result after done
  cases result with
  | error error => exact done
  | ok value => exact weaker value after done

theorem returns {value : α} (done : success value world) :
    Runs codec log success (pure value) world :=
  done

private theorem fails (guards : Guards codec log world)
    (error : NetworkErrorCode) : Runs codec log success (throw error) world :=
  guards

theorem attempt {success : Unit → World → Prop}
    (kept : ∀ fortune, Guards codec log (world.attempt fortune step).2)
    (done : ∀ fortune, (world.attempt fortune step).1 = true →
      success () (world.attempt fortune step).2) :
    Runs codec log success (attempt step) world := by
  refine ⟨trivial, ?_⟩
  rintro result after ⟨fortune, performed⟩
  have outcome : world.attempt fortune step = (result, after) := performed
  have guards := kept fortune
  rw [outcome] at guards
  refine ⟨guards, fun _ => ?_⟩
  cases result with
  | false => exact guards
  | true =>
    have reached := done fortune (by rw [outcome])
    rw [outcome] at reached
    exact reached

section

variable (guards : Guards codec log world)
include guards

theorem look
    (looks : ∀ fortune, world.attempt fortune step = world.look fortune holds) :
    Runs codec log (fun _ after => after = world ∧ holds = true)
      (PolicyIdentity.attempt step) world := by
  apply Runs.attempt
  · intro fortune
    rw [looks]
    exact guards
  · intro fortune passed
    rw [looks] at passed ⊢
    exact ⟨rfl, (Bool.and_eq_true_iff.mp passed).2⟩

theorem changes
    (alters : ∀ fortune, world.attempt fortune step =
      World.change fortune world after)
    (changed : Guards codec log after) :
    Runs codec log (fun _ reached => reached = after)
      (PolicyIdentity.attempt step) world := by
  apply Runs.attempt
  · intro fortune
    rw [alters]
    exact change_keeps fortune guards changed
  · intro fortune done
    rw [alters] at done ⊢
    exact change_succeeds done

private theorem succeeded
    (looks : ∀ fortune, world.attempt fortune step = world.look fortune holds) :
    Runs codec log (fun _ after => after = world)
      (PolicyIdentity.succeeded step) world := by
  refine ⟨trivial, ?_⟩
  rintro result after ⟨fortune, performed⟩
  have outcome : world.attempt fortune step = (result, after) := performed
  rw [looks] at outcome
  obtain rfl : world = after := congrArg Prod.snd outcome
  exact ⟨guards, fun _ => rfl⟩

theorem lifted (result : Except NetworkErrorCode α) :
    Runs codec log (fun value after => after = world ∧ result = .ok value)
      (liftExcept result) world := by
  cases result with
  | error error => exact guards
  | ok value => exact ⟨rfl, rfl⟩

theorem readRecord :
    Runs codec log
      (fun snapshot after => after = world ∧ snapshot = world.record)
      readRecordSnapshot world := by
  refine ⟨trivial, ?_⟩
  rintro result after ⟨fortune, performed⟩
  obtain rfl : world = after := congrArg Prod.snd performed
  refine ⟨guards, fun _ => ?_⟩
  have outcome : (if fortune = .succeeds then some world.record else none) =
      result := congrArg Prod.fst performed
  split at outcome
  · subst outcome
    cases present : world.record with
    | none => exact ⟨rfl, rfl⟩
    | some file =>
      show Safe _ _ _ _ _ (if file.bytes.length = 0 ∨
        recordMaxBytes < file.bytes.length then _ else _) world
      split
      · exact guards
      · exact ⟨rfl, rfl⟩
  · subst outcome
    exact guards

private theorem create :
    Runs codec log (fun _ after => SameRecord world after) createTemporary
      world := by
  refine ⟨trivial, ?_⟩
  rintro result after ⟨fortune, performed⟩
  have same :=
    sameRecord_temporary world (some ⟨world.nextInode, []⟩)
      (world.nextInode + 1)
  cases fortune with
  | succeeds =>
    cases performed
    exact ⟨guards.same same, fun _ => same⟩
  | fails =>
    cases performed
    exact ⟨guards, fun _ => guards⟩
  | failsLate =>
    cases performed
    exact ⟨guards.same same, fun _ => guards.same same⟩

end

end Runs

/-- What a held transaction knows. -/
structure Matches (codec : RecordCodec) (world : World)
    (transaction : PolicyIdentityTransaction) : Prop where
  networking : world.networking = true
  snapshot : transaction.snapshot = world.record
  stored : parseRecord codec world.record = .ok transaction.stored
  decision : ∀ candidate decision, transaction.candidate = some candidate →
    transaction.decision = some decision →
    decision = decideCandidate transaction.stored candidate

section

variable (guards : Guards codec log world)
include guards

/-- Once a candidate is committed, its directory is never made again. -/
theorem Guards.makeNetworking {result : Creation}
    (performed : world.perform fortune .makeNetworking = (result, after)) :
    Guards codec log after := by
  cases log with
  | nil => exact .empty after
  | cons first rest =>
    have networking := (guards.attached first List.mem_cons_self).1
    obtain rfl : world = after := by
      have second := congrArg Prod.snd performed
      simp only [World.perform, networking, if_true] at second
      split at second
      · exact second
      · exact second
    exact guards

private theorem runs_makeNetworkingDirectory :
    Runs codec log (fun _ after => Guards codec log after)
      makeNetworkingDirectory world := by
  have made : Runs codec log (fun _ after => Guards codec log after)
      makeNetworking world := by
    refine ⟨trivial, ?_⟩
    rintro result after ⟨fortune, performed⟩
    have kept := guards.makeNetworking performed
    exact ⟨kept, fun _ => kept⟩
  apply made.bind
  intro creation between kept
  cases creation with
  | created =>
    have synced : Guards codec log { between with rootUnsynced := false } :=
      ⟨fun candidate member => ⟨(kept.attached candidate member).1, rfl⟩,
        kept.record, kept.unsynced⟩
    apply (Runs.changes kept (fun _ => rfl) synced).mono
    rintro _ _ rfl
    exact synced
  | existing => exact kept
  | failed => exact kept

private theorem runs_openLockFile (networking : world.networking = true) :
    Runs codec log
      (fun _ after => Guards codec log after ∧ after.networking = true)
      openLockFile world := by
  have opened : Runs codec log (fun _ after => Guards codec log after ∧
      after.networking = true) openLock world := by
    refine ⟨trivial, ?_⟩
    rintro result after ⟨fortune, performed⟩
    have same : SameRecord world after := by
      have second := congrArg Prod.snd performed
      simp only [World.perform] at second
      split at second
      · exact second ▸ ⟨rfl, rfl, rfl, rfl⟩
      split at second
      all_goals exact second ▸ ⟨rfl, rfl, rfl, rfl⟩
    have kept := guards.same same
    exact ⟨kept, fun _ => ⟨kept, same.networking.trans networking⟩⟩
  apply opened.bind
  rintro creation between ⟨kept, attached⟩
  cases creation with
  | created =>
    apply (Runs.look kept fun _ => rfl).bind
    rintro _ _ ⟨rfl, -⟩
    apply (Runs.changes kept (fun _ => rfl) kept.synced).mono
    rintro _ _ rfl
    exact ⟨kept.synced, attached⟩
  | existing => exact ⟨kept, attached⟩
  | failed => exact kept

theorem runs_begin :
    Runs codec log
      (fun transaction after => Guards codec log after ∧
        Matches codec after transaction)
      (begin codec) world := by
  apply (Runs.look guards fun _ => rfl).bind
  rintro _ _ ⟨rfl, -⟩
  apply (runs_makeNetworkingDirectory guards).bind
  intro _ made guards
  apply (Runs.look guards fun _ => rfl).bind
  rintro _ _ ⟨rfl, networking⟩
  apply (runs_openLockFile guards networking).bind
  rintro _ opened ⟨guards, networking⟩
  apply (Runs.look guards fun _ => rfl).bind
  rintro _ _ ⟨rfl, -⟩
  apply (Runs.look guards fun _ => rfl).bind
  rintro _ _ ⟨rfl, -⟩
  apply (Runs.readRecord guards).bind
  rintro snapshot _ ⟨rfl, rfl⟩
  apply (Runs.lifted guards _).bind
  rintro stored _ ⟨rfl, parsed⟩
  exact Runs.returns ⟨guards, networking, rfl, parsed, nofun⟩

end

/-- The record's entry is durable and the candidate's. -/
structure Settled (codec : RecordCodec) (candidate : PolicyIdentityCandidate)
    (world : World) : Prop where
  networking : world.networking = true
  rootSynced : world.rootUnsynced = false
  synced : world.unsynced = []
  records : Records codec candidate world.record

/-- The new file is in place, and the old one under its name. -/
structure Published (codec : RecordCodec) (log : List PolicyIdentityCandidate)
    (inode : Nat) (bytes : List UInt8) (previous : RecordSnapshot)
    (world : World) : Prop where
  guards : Guards codec log world
  networking : world.networking = true
  rootSynced : world.rootUnsynced = false
  record : world.record = some ⟨inode, bytes⟩
  retired : world.temporary = previous
  previous : ∀ candidate ∈ log, Covers codec candidate previous

private theorem covers_of_advance (valid : candidate.validateShape = .ok ())
    (guards : Guards codec log world)
    (parsed : parseRecord codec world.record = .ok stored)
    (accepted : decideCandidate stored candidate ≠ .reject)
    (changes : decideCandidate stored candidate ≠ .idempotent) (inode : Nat) :
    ∀ earlier ∈ log,
      Covers codec earlier (some ⟨inode, encodeRecord codec candidate⟩) := by
  intro earlier member
  obtain ⟨file, record, present, read, below, -⟩ := guards.record earlier member
  simp only [present, parseRecord, read, Except.ok.injEq] at parsed
  subst parsed
  have higher : record.revision < candidate.revision := by
    by_cases above : record.revision < candidate.revision
    · exact above
    simp only [decideCandidate, if_neg above] at accepted changes
    split at accepted
    · next same => exact (changes (if_pos same)).elim
    · exact (accepted rfl).elim
  have strictly := UInt64.lt_of_le_of_lt below higher
  refine ⟨_, _, rfl, parseBytes_encodeRecord valid, UInt64.le_of_lt strictly,
    ?_⟩
  intro level
  exact absurd level (UInt64.ne_of_lt strictly)

private theorem records_of_idempotent
    (parsed : parseRecord codec content = .ok stored)
    (decided : decideCandidate stored candidate = .idempotent) :
    Records codec candidate content := by
  cases content with
  | none =>
    cases parsed
    cases decided
  | some file =>
    unfold parseRecord at parsed
    cases read : parseBytes codec file.bytes with
    | error error => simp [read] at parsed
    | ok record =>
      simp only [read, Except.ok.injEq] at parsed
      subst parsed
      cases record with
      | legacy record =>
        simp only [decideCandidate] at decided
        split at decided
        · cases decided
        · cases decided
      | identity record =>
        simp only [decideCandidate] at decided
        split at decided
        · cases decided
        split at decided
        · next same =>
          exact ⟨file, record, rfl, read, same⟩
        · cases decided

section

variable (guards : Guards codec log world)
include guards

/-- `classify` changes nothing but the transaction, and that only if it
succeeds. -/
theorem safe_classify (matching : Matches codec world transaction)
    (candidate : PolicyIdentityCandidate) (now : UInt64) :
    Safe Does (fun _ _ _ _ => True) (fun _ _ => True) (Guards codec log)
      (OnResult (fun _ after => after = world)
        (fun transaction after => after = world ∧
          Matches codec world transaction))
      (classify transaction candidate now).run world := by
  unfold classify
  split
  · rfl
  cases candidate.validateAt now with
  | error error => rfl
  | ok value =>
    refine ⟨trivial, ?_⟩
    rintro result after ⟨fortune, performed⟩
    obtain rfl : world = after := congrArg Prod.snd performed
    refine ⟨guards, fun _ => ?_⟩
    cases result with
    | false => rfl
    | true =>
      refine ⟨rfl, matching.networking, matching.snapshot, matching.stored, ?_⟩
      rintro _ _ ⟨⟩ ⟨⟩
      rfl

theorem runs_unchanged (snapshot : RecordSnapshot) :
    Runs codec log (fun _ after => after = world ∧ world.record = snapshot)
      (unchanged snapshot) world := by
  apply (Runs.look guards fun _ => rfl).bind
  rintro _ _ ⟨rfl, -⟩
  apply (Runs.readRecord guards).bind
  rintro current _ ⟨rfl, rfl⟩
  split
  · next same => exact Runs.returns ⟨rfl, same⟩
  · exact guards

private theorem guards_exchange
    (covers : ∀ candidate ∈ log, Covers codec candidate world.temporary) :
    Guards codec log (world.exchange fortune).2 := by
  unfold World.exchange
  split
  · exact change_keeps fortune guards (guards.renamed covers world.record)
  · exact guards

theorem runs_syncNetworking :
    Runs codec log (fun _ after => after = { world with unsynced := [] })
      (attempt .syncNetworking) world :=
  Runs.changes guards (fun _ => rfl) guards.synced

private theorem runs_writeTemporary (bytes : List UInt8) :
    Runs codec log (fun _ after => SameRecord world after)
      (attempt (.writeTemporary bytes)) world := by
  have same : SameRecord world { world with
      temporary := world.temporary.map fun file => { file with bytes } } :=
    sameRecord_temporary world _ world.nextInode
  apply (Runs.changes guards (fun _ => rfl) (guards.same same)).mono
  rintro _ _ rfl
  exact same

end

private theorem runs_rollbackPublication
    (published : Published codec log inode bytes previous world) :
    Runs codec log (fun _ after => Guards codec log after)
      (rollbackPublication previous) world := by
  cases previous with
  | some snapshot =>
    have covers : ∀ candidate ∈ log,
        Covers codec candidate world.temporary := by
      rw [published.retired]
      exact published.previous
    have exchanged : Runs codec log (fun _ after => Guards codec log after)
        (attempt .exchangeBack) world := by
      have kept :=
        fun fortune => @guards_exchange _ _ _ fortune published.guards covers
      exact Runs.attempt kept fun fortune _ => kept fortune
    apply exchanged.bind
    intro _ restored guards
    apply (runs_syncNetworking guards).bind
    rintro _ _ rfl
    apply (Runs.look guards.synced fun _ => rfl).mono
    rintro _ _ ⟨rfl, -⟩
    exact guards.synced
  | none =>
    have quarantined : Runs codec log (fun _ after => Guards codec log after)
        (attempt .quarantine) world := by
      have kept : ∀ fortune,
          Guards codec log (world.attempt fortune .quarantine).2 := by
        intro fortune
        show Guards codec log (if world.record.isSome then
          World.change fortune world _ else (false, world)).2
        split
        · exact change_keeps fortune published.guards
            (published.guards.renamed published.previous world.temporary)
        · exact published.guards
      exact Runs.attempt kept fun fortune _ => kept fortune
    apply quarantined.bind
    intro _ restored guards
    apply (runs_syncNetworking guards).bind
    rintro _ _ rfl
    apply (Runs.readRecord guards.synced).bind
    rintro current _ ⟨rfl, -⟩
    split
    all_goals exact guards.synced

private theorem runs_confirm {step : Attempt}
    (published : Published codec log inode bytes previous world)
    (looks : ∀ fortune, world.attempt fortune step = world.look fortune holds) :
    Runs codec log (fun _ after => after = world) (confirm step previous)
      world := by
  apply (Runs.succeeded published.guards looks).bind
  rintro passed _ rfl
  cases passed with
  | true => exact Runs.returns rfl
  | false =>
    apply (runs_rollbackPublication published).bind
    intro _ after guards
    exact Runs.fails guards _

section

variable (guards : Guards codec log world)
  (networking : world.networking = true)
  (rootSynced : world.rootUnsynced = false)
include guards networking rootSynced

private theorem runs_publishRecord (before : world.record = previous)
    (written : world.temporary = some ⟨inode, bytes⟩)
    (covers : ∀ candidate ∈ log, Covers codec candidate (some ⟨inode, bytes⟩)) :
    Runs codec log
      (fun _ after => Published codec log inode bytes previous after)
      (attempt (.publishRecord previous.isSome)) world := by
  have renamed : Published codec log inode bytes previous
      (world.renamed world.temporary previous) := by
    rw [written]
    exact ⟨guards.renamed covers previous, networking, rootSynced, rfl, rfl,
      before ▸ guards.record⟩
  have renames : ∀ fortune,
      world.attempt fortune (.publishRecord previous.isSome) =
        World.change fortune world
          (world.renamed world.temporary previous) := by
    intro fortune
    cases previous with
    | some snapshot =>
      have both : world.temporary.isSome && world.record.isSome := by
        rw [written, before]
        rfl
      rw [Option.isSome_some, ← before]
      exact if_pos both
    | none =>
      have free : world.temporary.isSome && world.record.isNone := by
        rw [written, before]
        rfl
      exact if_pos free
  apply (Runs.changes guards renames renamed.guards).mono
  rintro _ _ rfl
  exact renamed

variable (valid : candidate.validateShape = .ok ())
include valid

private theorem runs_publish (before : world.record = previous)
    (written : world.temporary = some ⟨inode, encodeRecord codec candidate⟩)
    (covers : ∀ earlier ∈ log,
      Covers codec earlier (some ⟨inode, encodeRecord codec candidate⟩)) :
    Runs codec log (fun _ after => Settled codec candidate after)
      (publish inode (encodeRecord codec candidate) previous
        (attempt .ensureAttached))
      world := by
  apply (runs_publishRecord guards networking rootSynced before written
    covers).bind
  intro _ renamed published
  have retired : Runs codec log (fun _ after => after = renamed)
      (confirmRetired previous) renamed := by
    cases previous with
    | some snapshot => exact runs_confirm published fun _ => rfl
    | none => exact Runs.returns rfl
  apply retired.bind
  rintro _ renamed rfl
  apply (runs_confirm published fun _ => rfl).bind
  rintro _ renamed rfl
  apply (runs_syncNetworking published.guards).bind
  rintro _ _ rfl
  have synced := published.guards.synced
  have settled : Settled codec candidate { renamed with unsynced := [] } := by
    refine ⟨published.networking, published.rootSynced, rfl, ?_⟩
    show Records codec candidate renamed.record
    rw [published.record]
    exact ⟨_, _, rfl, parseBytes_encodeRecord valid, rfl, rfl, rfl⟩
  apply (Runs.look synced fun _ => rfl).bind
  rintro _ _ ⟨rfl, -⟩
  apply (Runs.look synced fun _ => rfl).bind
  rintro _ _ ⟨rfl, -⟩
  apply (Runs.look synced fun _ => rfl).mono
  rintro _ _ ⟨rfl, -⟩
  exact settled

private theorem runs_writeIdentityRecord
    (covers : ∀ inode, ∀ earlier ∈ log,
      Covers codec earlier (some ⟨inode, encodeRecord codec candidate⟩))
    (snapshot : RecordSnapshot) :
    Runs codec log (fun _ after => Settled codec candidate after)
      (writeIdentityRecord codec candidate snapshot (unchanged snapshot)
        (attempt .ensureAttached))
      world := by
  unfold writeIdentityRecord
  dsimp only
  split
  · exact guards
  apply (Runs.create guards).bind
  rintro inode _ same
  apply (runs_writeTemporary (guards.same same) _).bind
  intro _ written later
  have guards := (guards.same same).same later
  apply (Runs.look guards fun _ => rfl).bind
  rintro _ _ ⟨rfl, -⟩
  apply (Runs.look guards fun _ => rfl).bind
  rintro _ _ ⟨rfl, -⟩
  apply (runs_unchanged guards snapshot).bind
  rintro _ _ ⟨rfl, before⟩
  apply (Runs.look guards fun _ => rfl).bind
  rintro _ _ ⟨rfl, verified⟩
  have networking := later.networking.trans (same.networking.trans networking)
  have rootSynced :=
    later.rootUnsynced.trans (same.rootUnsynced.trans rootSynced)
  exact runs_publish guards networking rootSynced valid before
    (of_decide_eq_true verified) (covers inode)

end

theorem runs_commit (guards : Guards codec log world)
    (matching : Matches codec world transaction)
    (rootSynced : world.rootUnsynced = false)
    (synced : transaction.decision = some .idempotent → world.unsynced = [])
    (now : UInt64) :
    Runs codec log (fun result after => Settled codec result.1 after)
      (commit codec transaction now) world := by
  unfold commit
  split
  · next candidate decision chosen decided =>
    split
    · exact guards
    · next accepted =>
      have decides := matching.decision candidate decision chosen decided
      apply (Runs.lifted guards _).bind
      rintro _ world ⟨rfl, validated⟩
      have valid := validateShape_of_validateAt validated
      have committed : Runs codec log
          (fun _ after => Settled codec candidate after)
          (commitCandidate codec transaction.snapshot candidate decision)
          world := by
        unfold commitCandidate
        split
        · next same =>
          subst same
          have settled : Settled codec candidate world :=
            ⟨matching.networking, rootSynced, synced decided,
              records_of_idempotent matching.stored decides.symm⟩
          apply (runs_unchanged guards _).bind
          rintro _ _ ⟨rfl, -⟩
          apply (runs_unchanged guards _).mono
          rintro _ _ ⟨rfl, -⟩
          exact settled
        · next changes =>
          rw [decides] at accepted changes
          exact runs_writeIdentityRecord guards matching.networking
            rootSynced valid (fun inode => covers_of_advance valid guards
              matching.stored accepted changes inode) transaction.snapshot
      apply committed.bind
      intro _ after settled
      exact Runs.returns settled
  · exact guards

end KyClash.PolicyIdentity
