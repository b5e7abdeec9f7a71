import KyClash.Concurrency.Program
import KyClash.Networking.State

/-!
# The policy identity store

`networking/policy_identity_store.rs`: the durable floor for the revisions of
accepted policies.  A transaction takes the file lock, reads the record,
classifies one candidate against it and commits.  A commit that changes the
record writes a new file under a random name, renames it into place and syncs
the directory; a commit of the very record that is stored writes nothing.

Every step on the file system is an action that may fail.  The steps of
`ensure_attached`, and those of the other checks, are one action each.  JSON is
not modelled: `RecordCodec` holds what `serde_json` does with a record.
-/

namespace KyClash.PolicyIdentity

open Program

abbrev Text := List UInt8

def recordSchemaVersion : UInt8 := 2
def recordMaxBytes : Nat := 4 * 1024

def isAsciiDigit (byte : UInt8) : Bool :=
  48 ≤ byte && byte ≤ 57

def isAsciiAlphanumeric (byte : UInt8) : Bool :=
  isAsciiDigit byte || (65 ≤ byte && byte ≤ 90) || (97 ≤ byte && byte ≤ 122)

def validDigest (value : Text) : Bool :=
  value.length = 64 &&
    value.all fun byte => isAsciiDigit byte || (97 ≤ byte && byte ≤ 102)

/-- `.`, `_`, `:` and `-`. -/
def keyIDPunctuation : List UInt8 := [46, 95, 58, 45]

def validKeyID : (value : Text) → Bool
  | [] => false
  | first :: rest =>
    rest.length < 128 && isAsciiAlphanumeric first && rest.all fun byte =>
        isAsciiAlphanumeric byte || keyIDPunctuation.contains byte

structure PolicyIdentityCandidate where
  revision : UInt64
  envelopeSHA256 : Text
  keyID : Text
  issuedAt : UInt64
  expiresAt : UInt64
  deriving DecidableEq, Repr

namespace PolicyIdentityCandidate

def validateShape (candidate : PolicyIdentityCandidate) :
    Except NetworkErrorCode Unit :=
  if candidate.revision = 0 || candidate.expiresAt ≤ candidate.issuedAt ||
      !validDigest candidate.envelopeSHA256 ||
      !validKeyID candidate.keyID then
    .error .policySignatureInvalid
  else
    .ok ()

def validateAt (candidate : PolicyIdentityCandidate) (now : UInt64) :
    Except NetworkErrorCode Unit := do
  candidate.validateShape
  if now < candidate.issuedAt || candidate.expiresAt ≤ now then
    .error .policySignatureInvalid
  else
    .ok ()

end PolicyIdentityCandidate

inductive PolicyIdentityDecision where
  | new
  | advance (previousRevision : UInt64) (legacy : Bool)
  | idempotent
  | reject
  deriving DecidableEq, Repr

structure LegacyRecord where
  schemaVersion : UInt8
  revision : UInt64
  deriving DecidableEq, Repr

structure IdentityRecord where
  schemaVersion : UInt8
  revision : UInt64
  envelopeSHA256 : Text
  keyID : Text
  deriving DecidableEq, Repr

inductive StoredRecord where
  | legacy (record : LegacyRecord)
  | identity (record : IdentityRecord)
  deriving DecidableEq, Repr

/-- The JSON encoding and the three decoders.  An encoded record, with the
newline that ends it, is read back. -/
structure RecordCodec where
  toVec : IdentityRecord → List UInt8
  versionProbe : List UInt8 → Option UInt8
  legacyRecord : List UInt8 → Option LegacyRecord
  identityRecord : List UInt8 → Option IdentityRecord
  reads_back : ∀ record, validDigest record.envelopeSHA256 = true →
    validKeyID record.keyID = true →
    versionProbe (toVec record ++ [10]) = some record.schemaVersion ∧
      identityRecord (toVec record ++ [10]) = some record

/-- The record file.  The inode stands for the whole `FileIdentity`: nothing
but the store touches the file. -/
structure RecordFile where
  inode : Nat
  bytes : List UInt8
  deriving DecidableEq, Repr

/-- `none` is `Missing`. -/
abbrev RecordSnapshot := Option RecordFile

variable (codec : RecordCodec)

def parseBytes (bytes : List UInt8) : Except NetworkErrorCode StoredRecord :=
  match codec.versionProbe bytes with
  | none => .error .policySignatureInvalid
  | some version =>
    if version = 1 then
      match codec.legacyRecord bytes with
      | none => .error .policySignatureInvalid
      | some record =>
        if record.schemaVersion ≠ 1 ∨ record.revision = 0 then
          .error .policySignatureInvalid
        else
          .ok (.legacy record)
    else if version = recordSchemaVersion then
      match codec.identityRecord bytes with
      | none => .error .policySignatureInvalid
      | some record =>
        if record.schemaVersion ≠ recordSchemaVersion ∨ record.revision = 0 ∨
            ¬validDigest record.envelopeSHA256 ∨
            ¬validKeyID record.keyID then
          .error .policySignatureInvalid
        else
          .ok (.identity record)
    else
      .error .policySignatureInvalid

def parseRecord : RecordSnapshot → Except NetworkErrorCode (Option StoredRecord)
  | none => .ok none
  | some file =>
    match parseBytes codec file.bytes with
    | .error error => .error error
    | .ok record => .ok (some record)

/-- Steps that only succeed or fail. -/
inductive Attempt where
  | openRoot
  | syncRoot
  | openNetworking
  | syncLockFile
  | syncNetworking
  | acquireLock
  | ensureAttached
  | writeTemporary (bytes : List UInt8)
  | syncTemporary (inode : Nat)
  | verifyTemporary (inode : Nat) (bytes : List UInt8)
  | publishRecord (replacing : Bool)
  | verifyRetired (snapshot : RecordFile)
  | verifyRecord (inode : Nat) (bytes : List UInt8)
  | exchangeBack
  | quarantine
  | verifyRestored (snapshot : RecordFile)
  deriving DecidableEq, Repr

/-- What came of an `O_EXCL` creation that accepts an existing entry. -/
inductive Creation where
  | created
  | existing
  | failed
  deriving DecidableEq, Repr

inductive Act where
  | attempt (step : Attempt)
  | makeNetworking
  | openLockFile
  | readRecord
  | createTemporary
  deriving DecidableEq, Repr

def Act.Res : Act → Type
  | .attempt _ => Bool
  | .makeNetworking => Creation
  | .openLockFile => Creation
  | .readRecord => Option RecordSnapshot
  | .createTemporary => Option Nat

abbrev Store (α : Type) := ExceptT NetworkErrorCode (Prog Act Act.Res) α

/-- One step, with `?`. -/
def attempt (step : Attempt) : Store Unit :=
  ExceptT.mk do
    let done : Bool ← Prog.perform (Act.attempt step)
    if done then
      return .ok ()
    else
      return .error .policySignatureInvalid

/-- One step whose failure the caller handles. -/
def succeeded (step : Attempt) : Store Bool :=
  ExceptT.mk do
    return .ok (← Prog.perform (Act.attempt step))

def makeNetworking : Store Creation :=
  ExceptT.mk do
    return .ok (← Prog.perform Act.makeNetworking)

def openLock : Store Creation :=
  ExceptT.mk do
    return .ok (← Prog.perform Act.openLockFile)

/-- The length checks are those of `read_record_snapshot`. -/
def readRecordSnapshot : Store RecordSnapshot :=
  ExceptT.mk do
    match ← Prog.perform Act.readRecord with
    | none => return .error .policySignatureInvalid
    | some none => return .ok none
    | some (some file) =>
      if file.bytes.length = 0 ∨ recordMaxBytes < file.bytes.length then
        return .error .policySignatureInvalid
      else
        return .ok (some file)

def createTemporary : Store Nat :=
  ExceptT.mk do
    match ← Prog.perform Act.createTemporary with
    | none => return .error .policySignatureInvalid
    | some inode => return .ok inode

structure PolicyIdentityTransaction where
  snapshot : RecordSnapshot
  stored : Option StoredRecord
  candidate : Option PolicyIdentityCandidate
  decision : Option PolicyIdentityDecision
  deriving DecidableEq, Repr

def openLockFile : Store Unit := do
  match ← openLock with
  | .created =>
    attempt .syncLockFile
    attempt .syncNetworking
  | .existing => return ()
  | .failed => throw .policySignatureInvalid

def liftExcept (result : Except NetworkErrorCode α) : Store α :=
  ExceptT.mk (return result)

def makeNetworkingDirectory : Store Unit := do
  match ← makeNetworking with
  | .created => attempt .syncRoot
  | .existing => return ()
  | .failed => throw .policySignatureInvalid

def begin : Store PolicyIdentityTransaction := do
  attempt .openRoot
  makeNetworkingDirectory
  attempt .openNetworking
  openLockFile
  attempt .acquireLock
  attempt .ensureAttached
  let snapshot ← readRecordSnapshot
  let stored ← liftExcept (parseRecord codec snapshot)
  return { snapshot, stored, candidate := none, decision := none }

/-- The comparison in `classify`. -/
def decideCandidate (stored : Option StoredRecord)
    (candidate : PolicyIdentityCandidate) : PolicyIdentityDecision :=
  match stored with
  | none => .new
  | some (.legacy record) =>
    if record.revision < candidate.revision then
      .advance record.revision true
    else
      .reject
  | some (.identity record) =>
    if record.revision < candidate.revision then
      .advance record.revision false
    else if candidate.revision = record.revision ∧
        candidate.envelopeSHA256 = record.envelopeSHA256 ∧
        candidate.keyID = record.keyID then
      .idempotent
    else
      .reject

/-- The transaction after a `classify` that succeeds. -/
def classify (transaction : PolicyIdentityTransaction)
    (candidate : PolicyIdentityCandidate) (now : UInt64) :
    Store PolicyIdentityTransaction :=
  if transaction.candidate.isSome || transaction.decision.isSome then
    throw .policySignatureInvalid
  else do
    liftExcept (candidate.validateAt now)
    attempt .ensureAttached
    return { transaction with
      candidate := some candidate
      decision := some (decideCandidate transaction.stored candidate) }

def rollbackPublication : (previous : RecordSnapshot) → Store Unit
  | some snapshot => do
      attempt .exchangeBack
      attempt .syncNetworking
      attempt (.verifyRestored snapshot)
  | none => do
      attempt .quarantine
      attempt .syncNetworking
      let current ← readRecordSnapshot
      if current = none then return () else throw .policySignatureInvalid

/-- A check after the publication, which is rolled back if it fails. -/
def confirm (step : Attempt) (previous : RecordSnapshot) : Store Unit := do
  if ← succeeded step then
    return ()
  else
    rollbackPublication previous
    throw .policySignatureInvalid

/-- An exchange leaves the previous record under the temporary name. -/
def confirmRetired : (previous : RecordSnapshot) → Store Unit
  | some snapshot => confirm (.verifyRetired snapshot) (some snapshot)
  | none => return ()

def IdentityRecord.of (candidate : PolicyIdentityCandidate) :
    IdentityRecord where
  schemaVersion := recordSchemaVersion
  revision := candidate.revision
  envelopeSHA256 := candidate.envelopeSHA256
  keyID := candidate.keyID

def encodeRecord (candidate : PolicyIdentityCandidate) : List UInt8 :=
  codec.toVec (.of candidate) ++ [10]

/-- `write_identity_record` from the publication on. -/
def publish (inode : Nat) (bytes : List UInt8) (previous : RecordSnapshot)
    (beforeReport : Store Unit) : Store Unit := do
  attempt (.publishRecord previous.isSome)
  confirmRetired previous
  confirm (.verifyRecord inode bytes) previous
  attempt .syncNetworking
  attempt (.verifyRecord inode bytes)
  beforeReport
  attempt (.verifyRecord inode bytes)

def writeIdentityRecord (candidate : PolicyIdentityCandidate)
    (previous : RecordSnapshot) (beforeRename beforeReport : Store Unit) :
    Store Unit :=
  let bytes := encodeRecord codec candidate
  if recordMaxBytes < bytes.length then
    throw .policySignatureInvalid
  else do
    let inode ← createTemporary
    attempt (.writeTemporary bytes)
    attempt (.syncTemporary inode)
    attempt (.verifyTemporary inode bytes)
    beforeRename
    attempt (.verifyTemporary inode bytes)
    publish inode bytes previous beforeReport

/-- Nobody has replaced the directories, the lock or the record. -/
def unchanged (snapshot : RecordSnapshot) : Store Unit := do
  attempt .ensureAttached
  let current ← readRecordSnapshot
  if current = snapshot then return () else throw .policySignatureInvalid

/-- `commit` of a candidate that is not rejected. -/
def commitCandidate (snapshot : RecordSnapshot)
    (candidate : PolicyIdentityCandidate) (decision : PolicyIdentityDecision) :
    Store Unit :=
  if decision = .idempotent then do
    unchanged snapshot
    unchanged snapshot
  else
    writeIdentityRecord codec candidate snapshot (unchanged snapshot)
      (attempt .ensureAttached)

/-- The candidate that was committed, and its decision. -/
def commit (transaction : PolicyIdentityTransaction) (now : UInt64) :
    Store (PolicyIdentityCandidate × PolicyIdentityDecision) :=
  match transaction.candidate, transaction.decision with
  | some candidate, some decision =>
    if decision = .reject then
      throw .policySignatureInvalid
    else do
      liftExcept (candidate.validateAt now)
      commitCandidate codec transaction.snapshot candidate decision
      return (candidate, decision)
  | _, _ => throw .policySignatureInvalid

end KyClash.PolicyIdentity
