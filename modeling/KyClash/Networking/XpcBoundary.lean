import KyClash.Networking.RouteBoundary
import KyClash.RouteHelper.OwnerAgreement

/-!
# The v2 route boundary

`XpcProductionRouteBoundary` of `networking/route_helper_client.rs`.  A call
that ends its connection makes the boundary open another one, which has to
answer a discovery before anything else is sent on it.  The boundary is
borrowed by a method until it returns.

The methods are programs over the calls of the connection, its factory and the
timer of the discovery.  Every request carries the boundary as it is when the
request is sent.
-/

namespace KyClash.Networking

open Program
open Production (ProductionRouteDisposition)

inductive RouteHelperState where
  | idle
  | prepared
  | applied
  | rollingBack
  | failedClosed
  deriving DecidableEq

structure RouteHelperStatus where
  protocolVersion : UInt8
  state : RouteHelperState
  operationId : Option Utf8
  errorCode : Option NetworkErrorCode
  deriving DecidableEq

inductive RouteHelperCallError where
  | terminal (error : NetworkErrorCode)
  | «local» (error : NetworkErrorCode)
  deriving DecidableEq

inductive ReconciliationError where
  | deadline
  | call (error : RouteHelperCallError)
  | status (error : NetworkErrorCode)
  deriving DecidableEq

namespace ReconciliationError

def code : ReconciliationError → NetworkErrorCode
  | .deadline => .operationTimedOut
  | .call (.terminal error) => error
  | .call (.local error) => error
  | .status error => error

def terminatesGeneration : ReconciliationError → Bool
  | .call (.terminal _) => true
  | _ => false

end ReconciliationError

def isTypedNotReady (status : RouteHelperStatus) : Bool :=
  status.protocolVersion = routeHelperProtocolVersion &&
    status.state = .failedClosed && status.operationId.isNone &&
    status.errorCode = some .sidecarUnavailable

def requireHelperStatus (status : RouteHelperStatus)
    (expected : RouteHelperState) : Except NetworkErrorCode Unit :=
  match status.errorCode with
  | some error => .error error
  | none =>
    if status.protocolVersion ≠ routeHelperProtocolVersion ∨
        status.state ≠ expected then
      .error .invalidStateTransition
    else
      .ok ()

def requireAuthoritativeIdle (status : RouteHelperStatus) :
    Except NetworkErrorCode Unit :=
  if status.operationId.isSome then .error .invalidStateTransition
  else requireHelperStatus status .idle

structure RouteLeaseReference where
  protocolVersion : UInt8
  leaseId : Utf8
  operationId : Utf8
  deriving DecidableEq

def RouteLeaseReference.ofOwner (owner : RouteLeaseOwner) :
    RouteLeaseReference :=
  ⟨routeHelperProtocolVersion, owner.leaseId, owner.operationId⟩

/-- `XpcProductionRouteBoundary`, without what only its receipts use. -/
structure XpcProductionRouteBoundary where
  client : Bool
  nativeGeneration : Nat
  active : Option RouteLeaseReference
  activeOwner : Option RouteLeaseOwner
  recoveryRequired : Bool
  mutationsBlocked : Bool
  reconciliationError : Option NetworkErrorCode
  retired : Bool
  deriving DecidableEq

inductive LeaseRequest where
  | begin (owner : RouteLeaseOwner)
  | recover (owner : RouteLeaseOwner)
  | apply (reference : RouteLeaseReference)
  | rollback (reference : RouteLeaseReference)
  | heartbeat (reference : RouteLeaseReference)

inductive HelperCall where
  | create
  | expired
  | wait
  | discover
  | send (boundary : XpcProductionRouteBoundary) (request : LeaseRequest)

abbrev HelperCall.Res : HelperCall → Type
  | .create => Except NetworkErrorCode Unit
  | .expired | .wait => Bool
  | .discover | .send _ _ => Except RouteHelperCallError RouteHelperStatus

abbrev Xpc (α : Type) := Prog HelperCall HelperCall.Res α

/-- `discover_authoritative_idle_with_timer` with the attempts that are left. -/
def discoverAuthoritativeIdle : Nat → Xpc (Except ReconciliationError Unit)
  | 0 => do
    let _ ← Prog.perform HelperCall.expired
    return .error .deadline
  | attempts + 1 => do
    if ← Prog.perform HelperCall.expired then
      return .error .deadline
    match ← Prog.perform HelperCall.discover with
    | .error error => return .error (.call error)
    | .ok status =>
      if isTypedNotReady status then
        if attempts = 0 then
          return .error .deadline
        if ← Prog.perform HelperCall.wait then
          discoverAuthoritativeIdle attempts
        else
          return .error .deadline
      else
        if ← Prog.perform HelperCall.expired then
          return .error .deadline
        match requireAuthoritativeIdle status with
        | .error error => return .error (.status error)
        | .ok () => return .ok ()

namespace XpcProductionRouteBoundary

/-- `connect_with_factory`. -/
def connect (attempts : Nat) :
    Xpc (Except NetworkErrorCode XpcProductionRouteBoundary) := do
  match ← Prog.perform HelperCall.create with
  | .error error => return .error error
  | .ok () =>
    match ← discoverAuthoritativeIdle attempts with
    | .error error => return .error error.code
    | .ok () => return .ok ⟨true, 1, none, none, false, false, none, false⟩

variable (attempts : Nat) (boundary : XpcProductionRouteBoundary)

def liveClient : Except NetworkErrorCode Unit :=
  if boundary.retired then .error .invalidStateTransition
  else if boundary.mutationsBlocked then
    .error (boundary.reconciliationError.getD .invalidStateTransition)
  else if boundary.client then .ok ()
  else .error .sidecarUnavailable

/-- A request on the live client, if there is one. -/
def call (request : LeaseRequest) :
    Xpc
      (Except NetworkErrorCode
        (Except RouteHelperCallError RouteHelperStatus)) :=
  match boundary.liveClient with
  | .error error => return .error error
  | .ok () => return .ok (← Prog.perform (HelperCall.send boundary request))

def clearFrozenOwner : XpcProductionRouteBoundary :=
  { boundary with
    active := none
    activeOwner := none
    recoveryRequired := false
    mutationsBlocked := false
    reconciliationError := none }

/-- `freeze_without_replacement`. -/
def freeze (error : NetworkErrorCode) : XpcProductionRouteBoundary :=
  { boundary with
    recoveryRequired := true, mutationsBlocked := true, reconciliationError :=
      some error }

def reconcileTerminalGeneration (primary : NetworkErrorCode) :
    Xpc XpcProductionRouteBoundary := do
  let frozen := { boundary.freeze primary with client := false }
  match ← Prog.perform HelperCall.create with
  | .error error => return frozen.freeze error
  | .ok () =>
    if 2 ^ 64 ≤ boundary.nativeGeneration + 1 then
      return frozen.freeze .invalidStateTransition
    let fresh :=
      { frozen with
        client := true, nativeGeneration := boundary.nativeGeneration + 1 }
    match ← discoverAuthoritativeIdle attempts with
    | .ok () => return fresh.clearFrozenOwner
    | .error error =>
      return { fresh.freeze error.code with
        client := !error.terminatesGeneration }

def handleCallError :
    RouteHelperCallError → Xpc (XpcProductionRouteBoundary × NetworkErrorCode)
  | .terminal error =>
    return (← boundary.reconcileTerminalGeneration attempts error, error)
  | .local error => return (boundary, error)

/-- The helper refused; the lease has to be recovered. -/
def refused (error : NetworkErrorCode) : XpcProductionRouteBoundary :=
  { boundary with recoveryRequired := true, reconciliationError := some error }

def rollbackAfterHelperError (reference : RouteLeaseReference)
    (primary : NetworkErrorCode) : Xpc XpcProductionRouteBoundary := do
  match ← boundary.call (.rollback reference) with
  | .error error => return boundary.refused error
  | .ok (.error (.terminal _)) =>
    boundary.reconcileTerminalGeneration attempts primary
  | .ok (.error (.local _)) => return boundary
  | .ok (.ok status) =>
    if isTypedNotReady status then
      return boundary.freeze .sidecarUnavailable
    match requireHelperStatus status .idle with
    | .ok () => return boundary.clearFrozenOwner
    | .error error => return boundary.refused error

abbrev Outcome (α : Type) :=
    XpcProductionRouteBoundary × Except NetworkErrorCode α

/-- A call error is handled and returned. -/
def failCall {α : Type} (error : RouteHelperCallError) : Xpc (Outcome α) := do
  let (after, code) ← boundary.handleCallError attempts error
  return (after, .error code)

def recoverActive : Xpc (Outcome RouteHelperState) := do
  match boundary.activeOwner with
  | none => return (boundary, .error .invalidStateTransition)
  | some owner =>
    match ← boundary.call (.recover owner) with
    | .error error => return (boundary, .error error)
    | .ok (.error error) => boundary.failCall attempts error
    | .ok (.ok status) =>
      if isTypedNotReady status then
        return (boundary.freeze .sidecarUnavailable, .error .sidecarUnavailable)
      match status.errorCode with
      | some error => return (boundary, .error error)
      | none =>
        if status.state = .prepared ∨ status.state = .applied then
          return ({ boundary with recoveryRequired := false }, .ok status.state)
        return (boundary, .error .invalidStateTransition)

/-- `apply` behind the reply to `begin`. -/
def applyPrepared (reference : RouteLeaseReference) : Xpc (Outcome Unit) := do
  match ← boundary.call (.apply reference) with
  | .error error => return (boundary, .error error)
  | .ok (.error error) => boundary.failCall attempts error
  | .ok (.ok status) =>
    if isTypedNotReady status then
      return (boundary.freeze .sidecarUnavailable, .error .sidecarUnavailable)
    match requireHelperStatus status .applied with
    | .error error =>
      return (← boundary.rollbackAfterHelperError attempts reference error,
        .error error)
    | .ok () => return (boundary, .ok ())

/-- `apply` of an owner to a boundary without a lease. -/
def beginAndApply (owner : RouteLeaseOwner) : Xpc (Outcome Unit) := do
  let reference := RouteLeaseReference.ofOwner owner
  let staged :=
    { boundary with active := some reference, activeOwner := some owner }
  match ← staged.call (.begin owner) with
  | .error error => return (staged, .error error)
  | .ok (.error (.local error)) =>
    return ({ staged with active := none, activeOwner := none }, .error error)
  | .ok (.error (.terminal error)) => staged.failCall attempts (.terminal error)
  | .ok (.ok status) =>
    if isTypedNotReady status then
      return (staged.freeze .sidecarUnavailable, .error .sidecarUnavailable)
    match requireHelperStatus status .prepared with
    | .error error =>
      return (← staged.rollbackAfterHelperError attempts reference error,
        .error error)
    | .ok () => staged.applyPrepared attempts reference

/-- `apply`; the owner stands for the arguments that it is built from. -/
def apply (owner : RouteLeaseOwner) : Xpc (Outcome Unit) := do
  match (do
      boundary.liveClient
      validateMihomoFor owner.activeMihomoTunInterfaces
        owner.tunnel.interfaceName
      owner.validate : Except NetworkErrorCode Unit) with
  | .error error => return (boundary, .error error)
  | .ok () =>
    if boundary.recoveryRequired then
      if boundary.active ≠ some (.ofOwner owner) ∨
          boundary.activeOwner ≠ some owner then
        return (boundary, .error .invalidStateTransition)
      match ← boundary.recoverActive attempts with
      | (after, .error error) => return (after, .error error)
      | (after, .ok .applied) => return (after, .ok ())
      | (after, .ok .prepared) => after.applyPrepared attempts (.ofOwner owner)
      | (after, .ok _) => return (after, .error .invalidStateTransition)
    else if boundary.active.isSome ∨ boundary.activeOwner.isSome then
      return (boundary, .error .invalidStateTransition)
    else
      boundary.beginAndApply attempts owner

/-- `heartbeat` of a lease that needs no recovery. -/
def beat (operationId : Utf8) : Xpc (Outcome Unit) := do
  match boundary.active.filter (·.operationId = operationId) with
  | none => return (boundary, .error .invalidStateTransition)
  | some reference =>
    match ← boundary.call (.heartbeat reference) with
    | .error error => return (boundary, .error error)
    | .ok (.error error) => boundary.failCall attempts error
    | .ok (.ok status) =>
      if isTypedNotReady status then
        return (boundary.freeze .sidecarUnavailable, .error .sidecarUnavailable)
      match requireHelperStatus status .applied with
      | .error error =>
        return ({ boundary with recoveryRequired := true }, .error error)
      | .ok () => return (boundary, .ok ())

def heartbeat (operationId : Utf8) : Xpc (Outcome Unit) := do
  match boundary.liveClient with
  | .error error => return (boundary, .error error)
  | .ok () =>
    if boundary.recoveryRequired then
      match ← boundary.recoverActive attempts with
      | (after, .error error) => return (after, .error error)
      | (after, .ok .applied) => after.beat attempts operationId
      | (after, .ok _) => return (after, .error .invalidStateTransition)
    else
      boundary.beat attempts operationId

/-- `rollback` of a lease that needs no recovery. -/
def rollBack (reference : RouteLeaseReference) : Xpc (Outcome Unit) := do
  match ← boundary.call (.rollback reference) with
  | .error error => return (boundary, .error error)
  | .ok (.error error) => boundary.failCall attempts error
  | .ok (.ok status) =>
    if isTypedNotReady status then
      return (boundary.freeze .sidecarUnavailable, .error .sidecarUnavailable)
    match requireHelperStatus status .idle with
    | .error error =>
      return ({ boundary with recoveryRequired := true }, .error error)
    | .ok () =>
      return ({ boundary with
        active := none, activeOwner := none, recoveryRequired := false },
          .ok ())

def rollback (operationId : Utf8) : Xpc (Outcome Unit) := do
  match boundary.liveClient with
  | .error error => return (boundary, .error error)
  | .ok () =>
    match boundary.active with
    | none => return (boundary, .ok ())
    | some reference =>
      if reference.operationId ≠ operationId then
        return (boundary, .error .invalidStateTransition)
      if boundary.recoveryRequired then
        match ← boundary.recoverActive attempts with
        | (after, .error error) => return (after, .error error)
        | (after, .ok _) => after.rollBack attempts reference
      else
        boundary.rollBack attempts reference

/-- `Drop` asks once for a rollback of a lease that is left. -/
def drop : Xpc (Outcome Unit) := do
  match boundary.active with
  | some reference =>
    if !boundary.mutationsBlocked && !boundary.retired && boundary.client then
      let _ ← Prog.perform (HelperCall.send boundary (.rollback reference))
    return (boundary, .ok ())
  | none => return (boundary, .ok ())

/-- `disposition` over what the tracker of the calls says. -/
def disposition (callsIdle : Bool) : ProductionRouteDisposition :=
  if boundary.retired then .retired
  else if !callsIdle then .busy
  else if boundary.recoveryRequired || boundary.mutationsBlocked ||
      boundary.reconciliationError.isSome || !boundary.client then
    .recoveryOnly
  else
    match boundary.active, boundary.activeOwner with
    | none, none => .reusable
    | some _, some _ => .busy
    | _, _ => .recoveryOnly

/-- `try_retire`, with the generation in its receipt. -/
def tryRetire (callsIdle : Bool) : XpcProductionRouteBoundary × Option Nat :=
  match boundary.disposition callsIdle with
  | .reusable =>
    ({ boundary with client := false, retired := true },
      some boundary.nativeGeneration)
  | _ => (boundary, none)

/-- What a call tells about the connection: whether it has answered an
authoritative idle discovery. -/
def Wire (answered : Bool) :
    (call : HelperCall) → HelperCall.Res call → Bool → Prop
  | .create, _, after => after = false
  | .discover, .ok status, after =>
    after = (answered || (requireAuthoritativeIdle status).isOk)
  | _, _, after => after = answered

/-- A request is sent on a connection that has answered, by a boundary whose
mutations are not blocked and that is not retired. -/
def Permits (answered : Bool) : HelperCall → Prop
  | .send boundary _ => answered = true ∧ boundary.mutationsBlocked = false ∧
      boundary.retired = false
  | _ => True

/-- Every call is permitted, and what is returned meets `post`. -/
abbrev Sends {α : Type} (post : α → Bool → Prop) (program : Xpc α)
    (answered : Bool) : Prop :=
  Safe Wire (fun _ _ _ _ => True) Permits (fun _ => True) post program answered

/-- What holds between two calls of the boundary. -/
structure Sound (boundary : XpcProductionRouteBoundary) (answered : Bool) :
    Prop where
  lease : boundary.active = boundary.activeOwner.map .ofOwner
  usable : boundary.mutationsBlocked = false → boundary.client = true →
    answered = true
  settled : boundary.active = none → boundary.mutationsBlocked = false →
    boundary.recoveryRequired = false

variable {α : Type} {post : α → Bool → Prop} {attempts boundary}
  {answered : Bool} {β : Type} {outcome : Outcome β → Bool → Prop}

theorem Sends.perform {call : HelperCall} {next : call.Res → Xpc α}
    (permitted : Permits answered call)
    (continues : ∀ result after, Wire answered call result after →
      Sends post (next result) after) :
    Sends post (Prog.perform call >>= next) answered :=
  ⟨permitted, fun result after done =>
    ⟨trivial, fun _ => continues result after done⟩⟩

theorem liveClient_eq_ok (live : boundary.liveClient = .ok ()) :
    boundary.retired = false ∧ boundary.mutationsBlocked = false ∧
      boundary.client = true := by
  unfold liveClient at live
  split_ifs at live with retired blocked client
  exact ⟨by simpa using retired, by simpa using blocked, client⟩

theorem Sends.call (sound : boundary.Sound answered) {request : LeaseRequest}
    {next : Except NetworkErrorCode
        (Except RouteHelperCallError RouteHelperStatus) →
      Xpc α}
    (refused : ∀ error, Sends post (next (.error error)) answered)
    (replied : boundary.liveClient = .ok () →
      ∀ reply, Sends post (next (.ok reply)) answered) :
    Sends post (boundary.call request >>= next) answered := by
  unfold XpcProductionRouteBoundary.call
  split
  · exact refused _
  · next live =>
    obtain ⟨unretired, unblocked, client⟩ := liveClient_eq_ok live
    refine Sends.perform ⟨sound.usable unblocked client, unblocked, unretired⟩
      ?_
    rintro reply after rfl
    exact replied live reply

theorem sends_discover (attempts : Nat) (answered : Bool) :
    Sends (fun result after => result = .ok () → after = true)
      (discoverAuthoritativeIdle attempts) answered := by
  induction attempts generalizing answered with
  | zero => exact Sends.perform trivial fun _ _ _ => nofun
  | succ attempts ih =>
    refine Sends.perform trivial ?_
    rintro expired _ rfl
    split
    · nofun
    refine Sends.perform trivial ?_
    intro reply after told
    cases reply with
    | error error => nofun
    | ok status =>
      have known : requireAuthoritativeIdle status = .ok () → after = true := by
        intro idle
        rw [told, idle]
        exact Bool.or_true _
      dsimp only
      split
      · split
        · nofun
        refine Sends.perform trivial ?_
        rintro waited _ rfl
        split
        · exact ih _
        · nofun
      · refine Sends.perform trivial ?_
        rintro expired _ rfl
        split
        · nofun
        cases idle : requireAuthoritativeIdle status with
        | error error => nofun
        | ok => exact fun _ => known idle

theorem Sound.freeze (sound : boundary.Sound answered)
    (error : NetworkErrorCode) : (boundary.freeze error).Sound answered :=
  ⟨sound.lease, nofun, nofun⟩

theorem sends_reconcile
    (lease : boundary.active = boundary.activeOwner.map .ofOwner)
    (primary : NetworkErrorCode) :
    Sends Sound (boundary.reconcileTerminalGeneration attempts primary)
      answered := by
  refine Sends.perform trivial ?_
  intro created after _
  cases created with
  | error error => exact ⟨lease, nofun, nofun⟩
  | ok =>
    dsimp only
    split
    · exact ⟨lease, nofun, nofun⟩
    refine (sends_discover attempts after).bind ?_
    intro result known idle
    cases result with
    | error error => exact ⟨lease, nofun, nofun⟩
    | ok => exact ⟨rfl, fun _ _ => idle rfl, fun _ _ => rfl⟩

section

variable (sound : boundary.Sound answered)
include sound

theorem Sends.failCall (error : RouteHelperCallError)
    (fails : ∀ after known code, Sound after known →
      outcome (after, .error code) known) :
    Sends outcome (boundary.failCall attempts error) answered := by
  cases error with
  | terminal error =>
    refine Safe.bind (Safe.bind (sends_reconcile sound.lease error) ?_)
      fun _ _ => id
    intro after known kept
    exact fails after known error kept
  | «local» error => exact fails boundary answered error sound

theorem Sound.refused (held : boundary.active ≠ none)
    (error : NetworkErrorCode) : (boundary.refused error).Sound answered :=
  ⟨sound.lease, sound.usable, fun absent => absurd absent held⟩

theorem sends_rollbackAfterHelperError (held : boundary.active ≠ none)
    (reference : RouteLeaseReference) (primary : NetworkErrorCode) :
    Sends Sound (boundary.rollbackAfterHelperError attempts reference primary)
      answered := by
  refine Sends.call sound (fun error => sound.refused held error) ?_
  intro live reply
  rcases reply with (_ | _) | status
  · exact sends_reconcile sound.lease primary
  · exact sound
  · dsimp only
    split
    · exact sound.freeze _
    split
    · exact ⟨rfl, fun _ => sound.usable (liveClient_eq_ok live).2.1,
        fun _ _ => rfl⟩
    · exact sound.refused held _

theorem Sends.recoverActive {next : Outcome RouteHelperState → Xpc α}
    (failed : ∀ after known code, Sound after known →
      Sends post (next (after, .error code)) known)
    (recovered : ∀ state,
      Sends post (next ({ boundary with recoveryRequired := false }, .ok state))
        answered) :
    Sends post (boundary.recoverActive attempts >>= next) answered := by
  let ends (result : Outcome RouteHelperState) (known : Bool) : Prop :=
    Sends post (next result) known
  have failing : ∀ after known code, Sound after known →
      ends (after, .error code) known := failed
  suffices started : Sends ends (boundary.recoverActive attempts) answered from
    Safe.bind started fun _ _ => id
  unfold XpcProductionRouteBoundary.recoverActive
  split
  · exact failing _ _ _ sound
  refine Sends.call sound (fun error => failing _ _ _ sound) ?_
  intro live reply
  rcases reply with error | status
  · exact Sends.failCall sound error failing
  · dsimp only
    split
    · exact failing _ _ _ (sound.freeze _)
    split
    · exact failing _ _ _ sound
    split
    · exact recovered _
    · exact failing _ _ _ sound

end

/-- What every method leaves. -/
abbrev Kept (result : Outcome β) (known : Bool) : Prop := result.1.Sound known

section

variable (sound : boundary.Sound answered)
include sound

theorem sends_applyPrepared (held : boundary.active ≠ none)
    (reference : RouteLeaseReference) :
    Sends Kept (boundary.applyPrepared attempts reference) answered := by
  refine Sends.call sound (fun _ => sound) ?_
  intro live reply
  rcases reply with error | status
  · exact Sends.failCall sound error fun _ _ _ => id
  · dsimp only
    split
    · exact sound.freeze _
    split
    · exact Safe.bind (sends_rollbackAfterHelperError sound held reference _)
        fun _ _ => id
    · exact sound

private theorem sends_beginAndApply
    (unrequired : boundary.recoveryRequired = false) (owner : RouteLeaseOwner) :
    Sends Kept (boundary.beginAndApply attempts owner) answered := by
  have staged : Sound { boundary with
      active := some (.ofOwner owner), activeOwner := some owner } answered :=
    ⟨rfl, sound.usable, nofun⟩
  refine Sends.call staged (fun _ => staged) ?_
  intro live reply
  rcases reply with (error | error) | status
  · exact Sends.failCall staged _ fun _ _ _ => id
  · exact ⟨rfl, sound.usable, fun _ _ => unrequired⟩
  · dsimp only
    split
    · exact staged.freeze _
    split
    · exact Safe.bind (sends_rollbackAfterHelperError staged nofun _ _)
        fun _ _ => id
    · exact sends_applyPrepared staged nofun _

theorem Sound.recovered :
    Sound { boundary with recoveryRequired := false } answered :=
  ⟨sound.lease, sound.usable, fun _ _ => rfl⟩

private theorem sends_apply (owner : RouteLeaseOwner) :
    Sends Kept (boundary.apply attempts owner) answered := by
  unfold XpcProductionRouteBoundary.apply
  split
  · exact sound
  split
  · split
    · exact sound
    · next same =>
      have held : boundary.active ≠ none := by
        intro absent
        exact same (.inl (absent ▸ nofun))
      refine Sends.recoverActive sound (fun _ _ _ => id) ?_
      intro state
      cases state
      case prepared => exact sends_applyPrepared sound.recovered held _
      all_goals exact sound.recovered
  · next unrequired =>
    split
    · exact sound
    · exact sends_beginAndApply sound (by simpa using unrequired) owner

private theorem sends_beat (operationId : Utf8) :
    Sends Kept (boundary.beat attempts operationId) answered := by
  unfold beat
  split
  · exact sound
  · next reference found =>
    have held : boundary.active ≠ none := by
      intro absent
      rw [absent] at found
      cases found
    refine Sends.call sound (fun _ => sound) ?_
    intro live reply
    rcases reply with error | status
    · exact Sends.failCall sound error fun _ _ _ => id
    · dsimp only
      split
      · exact sound.freeze _
      split
      · exact ⟨sound.lease, sound.usable, fun absent => absurd absent held⟩
      · exact sound

private theorem sends_heartbeat (operationId : Utf8) :
    Sends Kept (boundary.heartbeat attempts operationId) answered := by
  unfold heartbeat
  split
  · exact sound
  split
  · refine Sends.recoverActive sound (fun _ _ _ => id) ?_
    intro state
    cases state
    case applied => exact sends_beat sound.recovered operationId
    all_goals exact sound.recovered
  · exact sends_beat sound operationId

end

/-- What a rollback leaves: if it succeeds, the boundary is reusable unless
an error was recorded before. -/
abbrev RolledBack (before : XpcProductionRouteBoundary) (result : Outcome Unit)
    (known : Bool) : Prop :=
  result.1.Sound known ∧ (result.2 = .ok () →
    (result.1.disposition true = .reusable ↔ before.reconciliationError = none))

theorem disposition_reusable (live : boundary.liveClient = .ok ())
    (unrequired : boundary.recoveryRequired = false)
    (absent : boundary.active = none) (unowned : boundary.activeOwner = none) :
    boundary.disposition true = .reusable ↔
      boundary.reconciliationError = none := by
  obtain ⟨unretired, unblocked, client⟩ := liveClient_eq_ok live
  simp only [disposition, unretired, unblocked, client, unrequired, absent,
    unowned]
  cases boundary.reconciliationError <;> simp

private theorem sends_rollBack (sound : boundary.Sound answered)
    {reference : RouteLeaseReference}
    (held : boundary.active = some reference) :
    Sends (RolledBack boundary) (boundary.rollBack attempts reference)
      answered := by
  refine Sends.call sound (fun _ => ⟨sound, nofun⟩) ?_
  intro live reply
  rcases reply with error | status
  · exact Sends.failCall sound error fun _ _ _ kept => ⟨kept, nofun⟩
  · dsimp only
    split
    · exact ⟨sound.freeze _, nofun⟩
    split
    · refine ⟨⟨sound.lease, sound.usable, ?_⟩, nofun⟩
      intro absent
      exact absurd (held.symm.trans absent) nofun
    · exact ⟨⟨rfl, sound.usable, fun _ _ => rfl⟩,
        fun _ => disposition_reusable live rfl rfl rfl⟩

theorem sends_rollback (sound : boundary.Sound answered) (operationId : Utf8) :
    Sends (RolledBack boundary) (boundary.rollback attempts operationId)
      answered := by
  unfold rollback
  split
  · exact ⟨sound, nofun⟩
  · next live =>
    split
    · next absent =>
      have unowned : boundary.activeOwner = none := by
        have lease := sound.lease
        rw [absent] at lease
        exact Option.map_eq_none_iff.mp lease.symm
      refine ⟨sound, fun _ => disposition_reusable live ?_ absent unowned⟩
      exact sound.settled absent (liveClient_eq_ok live).2.1
    · next reference held =>
      split
      · exact ⟨sound, nofun⟩
      split
      · refine Sends.recoverActive sound (fun _ _ _ kept => ⟨kept, nofun⟩) ?_
        intro state
        exact sends_rollBack sound.recovered held
      · exact sends_rollBack sound held

inductive BoundaryMethod where
  | apply (owner : RouteLeaseOwner)
  | heartbeat (operationId : Utf8)
  | rollback (operationId : Utf8)
  | retire (callsIdle : Bool)
  | drop

def BoundaryMethod.program (attempts : Nat)
    (boundary : XpcProductionRouteBoundary) :
    BoundaryMethod → Xpc (Outcome Unit)
  | .apply owner => boundary.apply attempts owner
  | .heartbeat operationId => boundary.heartbeat attempts operationId
  | .rollback operationId => boundary.rollback attempts operationId
  | .retire callsIdle => return ((boundary.tryRetire callsIdle).1, .ok ())
  | .drop => boundary.drop

/-- The boundaries after any calls with any replies, and whether their
connection has answered. -/
inductive Reached (attempts : Nat) :
    XpcProductionRouteBoundary → Bool → Prop where
  | connected {boundary : XpcProductionRouteBoundary} {answered : Bool} :
      Yields Wire (connect attempts) false (.ok boundary) answered →
      Reached attempts boundary answered
  | called {before after : XpcProductionRouteBoundary} {answered known : Bool}
      {result : Except NetworkErrorCode Unit} (method : BoundaryMethod) :
      Reached attempts before answered →
        Yields Wire (method.program attempts before) answered (after, result)
          known →
        Reached attempts after known

theorem Sends.yields {program : Xpc α} {value : α} {known : Bool}
    (sends : Sends post program answered)
    (yields : Yields Wire program answered value known) : post value known := by
  induction yields with
  | ret => exact sends
  | act done _ ih => exact ih ((sends.2 _ _ done).2 trivial)

theorem sends_method (sound : boundary.Sound answered)
    (method : BoundaryMethod) :
    Sends Kept (method.program attempts boundary) answered := by
  cases method with
  | apply owner => exact sends_apply sound owner
  | heartbeat operationId => exact sends_heartbeat sound operationId
  | rollback operationId =>
    exact (sends_rollback sound operationId).mono fun _ _ => And.left
  | retire callsIdle =>
    change Sound (boundary.tryRetire callsIdle).1 answered
    unfold tryRetire
    split
    · exact ⟨sound.lease, nofun, sound.settled⟩
    · exact sound
  | drop =>
    change Sends Kept boundary.drop answered
    unfold XpcProductionRouteBoundary.drop
    split
    · split
      · next free =>
        simp only [Bool.and_eq_true, Bool.not_eq_true'] at free
        obtain ⟨⟨unblocked, unretired⟩, client⟩ := free
        refine Sends.perform
          ⟨sound.usable unblocked client, unblocked, unretired⟩ ?_
        rintro _ _ rfl
        exact sound
      · exact sound
    · exact sound

private theorem sends_connect (attempts : Nat) :
    Sends
      (fun result known => ∀ boundary : XpcProductionRouteBoundary,
        result = .ok boundary → boundary.Sound known)
      (connect attempts) false := by
  refine Sends.perform trivial ?_
  intro created after _
  cases created with
  | error error =>
    intro boundary refused
    cases refused
  | ok =>
    refine (sends_discover attempts after).bind ?_
    intro result known idle
    cases result with
    | error error =>
      intro boundary refused
      cases refused
    | ok =>
      rintro boundary ⟨⟩
      exact ⟨rfl, fun _ _ => idle rfl, fun _ _ => rfl⟩

theorem Reached.sound (reached : Reached attempts boundary answered) :
    boundary.Sound answered := by
  induction reached with
  | connected yields => exact (sends_connect attempts).yields yields _ rfl
  | called method _ yields ih => exact (sends_method ih method).yields yields

/-- For every sequence of calls and every pattern of replies: a reference and
its owner are stored together, every request goes out on a connection that has
answered a discovery, by a boundary that is neither blocked nor retired, and a
receipt is only issued without a lease and without a call in flight. -/
theorem requests_need_an_answered_connection
    (reached : Reached attempts boundary answered) :
    boundary.active = boundary.activeOwner.map .ofOwner ∧
      (∀ method : BoundaryMethod,
        Sends (fun _ _ => True) (method.program attempts boundary) answered) ∧
      ∀ (callsIdle : Bool) (generation : Nat),
        (boundary.tryRetire callsIdle).2 = some generation →
          callsIdle = true ∧ boundary.active = none ∧
            boundary.activeOwner = none := by
  have sound := reached.sound
  refine ⟨sound.lease,
    fun method => (sends_method sound method).mono fun _ _ _ => trivial, ?_⟩
  intro callsIdle generation issued
  unfold tryRetire at issued
  split at issued
  · next reusable =>
    unfold disposition at reusable
    split_ifs at reusable with _ busy
    split at reusable
    · next absent unowned => exact ⟨by simpa using busy, absent, unowned⟩
    · cases reusable
    · cases reusable
  · cases issued

/-- A rollback that succeeds leaves a reusable boundary if and only if no
reconciliation error was recorded before it. -/
theorem rolled_back_boundary_reusable_iff
    (reached : Reached attempts boundary answered) {operationId : Utf8}
    {after : XpcProductionRouteBoundary} {known : Bool}
    (rolledBack : Yields Wire (boundary.rollback attempts operationId) answered
      (after, .ok ()) known) :
    after.disposition true = .reusable ↔ boundary.reconciliationError = none :=
  ((sends_rollback reached.sound operationId).yields rolledBack).2 rfl

inductive Reply where
  | created
  | early
  | status (state : RouteHelperState) (errorCode : Option NetworkErrorCode)

def Reply.answer (answered : Bool) :
    Reply → (call : HelperCall) → Option (call.Res × Bool)
  | .created, .create => some (.ok (), false)
  | .early, .expired => some (false, answered)
  | .status state errorCode, .discover =>
    let status := ⟨routeHelperProtocolVersion, state, none, errorCode⟩
    some (.ok status, answered || (requireAuthoritativeIdle status).isOk)
  | .status state errorCode, .send _ _ =>
    some (.ok ⟨routeHelperProtocolVersion, state, none, errorCode⟩, answered)
  | _, _ => none

theorem Reply.answer_wire {before next : Bool} {reply : Reply}
    {call : HelperCall} {result : call.Res}
    (answers : reply.answer before call = some (result, next)) :
    Wire before call result next := by
  cases reply <;> cases call <;> cases answers <;> rfl

def leaseOwner : RouteLeaseOwner := RouteHelper.ownerOf [ascii "10.0.0.0/8"]

def connected : XpcProductionRouteBoundary :=
    ⟨true, 1, none, none, false, false, none, false⟩

/-- The boundary after an application of the routes and the rollback behind it
have failed. -/
def unapplied : XpcProductionRouteBoundary :=
  ⟨true, 1, some (.ofOwner leaseOwner), some leaseOwner, true, false,
    some .routeRollbackFailed, false⟩

theorem reached_connected : Reached 1 connected true :=
  .connected (yields_of_replay Reply.answer_wire
    (show (connect 1).replay Reply.answer false
      [.created, .early, .status .idle none, .early] =
      some (.ok connected, true) from rfl))

theorem reached_apply {after : XpcProductionRouteBoundary}
    {result : Except NetworkErrorCode Unit} {replies : List Reply}
    (replayed : (connected.beginAndApply 1 leaseOwner).replay Reply.answer true
        replies = some ((after, result), true)) :
    Reached 1 after true := by
  have applied : Yields Wire (connected.apply 1 leaseOwner) true (after, result)
      true := by
    exact yields_of_replay Reply.answer_wire replayed
  exact .called (.apply leaseOwner) reached_connected applied

theorem reached_unapplied : Reached 1 unapplied true :=
  reached_apply (show _ = some ((unapplied, .error .routeConflict), true) from
    (rfl : (connected.beginAndApply 1 leaseOwner).replay Reply.answer true
      [.status .prepared none, .status .applied (some .routeConflict),
        .status .idle (some .routeRollbackFailed)] = _))

/-- A lease is kept together and rolled back on an answered connection, and a
boundary without one is retired. -/
theorem unapplied_lease_is_kept :
    (∃ boundary answered, Reached 1 boundary answered ∧
        boundary.active.isSome = true ∧
        boundary.active = boundary.activeOwner.map .ofOwner ∧
        Sends (fun _ _ => True) (boundary.rollback 1 leaseOwner.operationId)
          answered) ∧
      (connected.tryRetire true).2 = some 1 ∧ connected.activeOwner = none := by
  obtain ⟨lease, sends, -⟩ :=
    requests_need_an_answered_connection reached_unapplied
  obtain ⟨-, -, receipt⟩ :=
    requests_need_an_answered_connection reached_connected
  have retired : (connected.tryRetire true).2 = some 1 := rfl
  exact ⟨⟨unapplied, true, reached_unapplied, rfl, lease,
    sends (.rollback leaseOwner.operationId)⟩, retired,
    (receipt true 1 retired).2.2⟩

/-- A lease whose routes were applied is rolled back. -/
theorem applied_lease_is_rolled_back :
    ∃ boundary after answered known, Reached 1 boundary answered ∧
      boundary.active.isSome = true ∧
      Yields Wire (boundary.rollback 1 leaseOwner.operationId) answered
        (after, .ok ()) known ∧
      after.disposition true = .reusable := by
  let applied := { connected with
    active := some (.ofOwner leaseOwner), activeOwner := some leaseOwner }
  have reached : Reached 1 applied true := reached_apply
    (show (connected.beginAndApply 1 leaseOwner).replay Reply.answer true
      [.status .prepared none, .status .applied none] =
      some ((applied, .ok ()), true) from rfl)
  have rolledBack : Yields Wire (applied.rollback 1 leaseOwner.operationId) true
      (connected, .ok ()) true := yields_of_replay Reply.answer_wire
    (show (applied.rollback 1 leaseOwner.operationId).replay Reply.answer true
      [.status .idle none] = some ((connected, .ok ()), true) from rfl)
  exact ⟨applied, connected, true, true, reached, rfl, rolledBack,
    (rolled_back_boundary_reusable_iff reached rolledBack).mpr rfl⟩

/-- The rollback of a failed application fails too, a later one succeeds, and
the boundary stays in recovery. -/
theorem rolled_back_boundary_stays_in_recovery :
    ∃ boundary after answered known, Reached 1 boundary answered ∧
      Yields Wire (boundary.rollback 1 leaseOwner.operationId) answered
        (after, .ok ()) known ∧
      after.retired = false ∧ after.disposition true = .recoveryOnly :=
  ⟨unapplied,
    { connected with reconciliationError := some .routeRollbackFailed },
    true, true,
    reached_unapplied, yields_of_replay Reply.answer_wire
      (show (unapplied.rollback 1 leaseOwner.operationId).replay
        Reply.answer true
        [.status .prepared none, .status .idle none] =
          some (({ connected with
            reconciliationError := some .routeRollbackFailed }, .ok ()),
            true) from rfl),
    rfl, rfl⟩

end XpcProductionRouteBoundary

end KyClash.Networking
