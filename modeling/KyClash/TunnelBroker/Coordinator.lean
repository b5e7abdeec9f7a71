import KyClash.TunnelBroker.Lease

/-!
# The tunnel broker coordinator

`TunnelBrokerCoordinator` of `macos/tunnel-broker/main.swift`, one function
for each section that holds the coordinator's lock.  `stop`,
`appInvalidated`, `release` and `releaseV3` drop the lock while they reap the
sidecar child, so each of them is split into the section before the reap and
the section after it.

A session's child is identified by the session's reference.
-/

namespace KyClash.TunnelBroker

structure Broker where
  nextGeneration : UInt64
  active : Option SessionLeaseState
  retiredRouteBindingV3 : Option TunnelRouteBindingV3
  deriving DecidableEq, Repr

/-- `TunnelBrokerReply`. -/
structure BrokerReply where
  state : BrokerState
  errorCode : Option BrokerErrorCode
  deriving DecidableEq, Repr

/-- `TunnelSessionReply`, without the transferred pipe handles. -/
structure SessionReply where
  state : BrokerState
  errorCode : Option BrokerErrorCode
  reference : Option TunnelReference
  deriving DecidableEq, Repr

/-- `TunnelBrokerRouteReplyV3`. -/
structure RouteReplyV3 where
  binding : TunnelRouteBindingV3
  state : BrokerState
  errorCode : Option BrokerErrorCode
  deriving DecidableEq, Repr

/-- How far the launch of a new child gets. -/
inductive Launch where
  | planFailed
  | launchFailed
  | launched
  deriving DecidableEq, Repr

/-- What the first section of an operation decides: an error whose reply
still has to read the state, a finished reply, or the child to reap. -/
inductive Section (reply : Type) where
  | refused (error : BrokerErrorCode)
  | reply (value : reply)
  | reap (reference : TunnelReference)
  deriving DecidableEq, Repr

inductive RetiredRouteBindingMatch where
  | exact
  | sameSessionMismatch
  | unrelated
  deriving DecidableEq, Repr

namespace Broker

def initial : Broker where
  nextGeneration := 1
  active := none
  retiredRouteBindingV3 := none

def currentState (broker : Broker) : BrokerState :=
  match broker.active with
  | none => .idle
  | some lease => if lease.hasRouteHold then .routeHeld else .running

def classify (broker : Broker) (candidate : TunnelRouteBindingV3) :
    RetiredRouteBindingMatch :=
  match broker.retiredRouteBindingV3 with
  | none => .unrelated
  | some binding =>
    if binding = candidate then .exact
    else if sameRouteSessionV3 binding candidate then .sameSessionMismatch
    else .unrelated

/-- Forget the session, recording its released tuple as the tombstone. -/
def retire (broker : Broker) (lease : SessionLeaseState) : Broker :=
  { broker with
    active := none
    retiredRouteBindingV3 :=
      lease.releasedRouteBindingV3.or broker.retiredRouteBindingV3 }

def start (broker : Broker) (appConnectionID : ConnectionID)
    (sidecarInstanceID : Identifier) (launch : Launch) :
    Broker × SessionReply :=
  if broker.active.isSome then
    (broker, ⟨broker.currentState, some .alreadyRunning, none⟩)
  else if int64Max < broker.nextGeneration then
    (broker, ⟨.idle, some .unavailable, none⟩)
  else
    let reference : TunnelReference :=
      { protocolVersion := brokerProtocolVersion
        generation := broker.nextGeneration
        sidecarInstanceID := sidecarInstanceID }
    let broker := { broker with nextGeneration := broker.nextGeneration + 1 }
    match launch with
    | .planFailed => (broker, ⟨.idle, some .unavailable, none⟩)
    | .launchFailed => (broker, ⟨.idle, some .launchFailed, none⟩)
    | .launched =>
      ({ broker with active := some (.new reference appConnectionID) },
        ⟨.running, none, some reference⟩)

def stop (broker : Broker) (reference : TunnelReference)
    (appConnectionID : ConnectionID) : Section BrokerReply :=
  match broker.active with
  | none => .refused .staleGeneration
  | some lease =>
    if !reference.isValid then .refused .staleGeneration
    else if lease.appConnectionID ≠ appConnectionID then
      .refused .ownershipMismatch
    else if reference ≠ lease.reference then .refused .staleGeneration
    else if lease.hasRouteHold then
      .reply ⟨.routeHeld, some .routeHeld⟩
    else .reap lease.reference

/-- The second section of `stop`; the reply is idle. -/
def stopReaped (broker : Broker) (reference : TunnelReference) : Broker :=
  match broker.active with
  | none => broker
  | some lease =>
    if lease.reference = reference && !lease.hasRouteHold then
      broker.retire lease
    else
      broker

def appStatus (broker : Broker) (reference : TunnelReference)
    (appConnectionID : ConnectionID) : BrokerReply :=
  match broker.active with
  | none => ⟨broker.currentState, some .staleGeneration⟩
  | some lease =>
    if !reference.isValid || reference ≠ lease.reference then
      ⟨broker.currentState, some .staleGeneration⟩
    else if lease.appConnectionID ≠ appConnectionID then
      ⟨broker.currentState, some .ownershipMismatch⟩
    else
      ⟨broker.currentState, none⟩

def appInvalidated (broker : Broker) (appConnectionID : ConnectionID) :
    Broker × Option TunnelReference :=
  match broker.active with
  | none => (broker, none)
  | some lease =>
    if lease.appConnectionID = appConnectionID then
      ({ broker with active := some { lease with appConnected := false } },
        if lease.hasRouteHold then none else some lease.reference)
    else
      (broker, none)

/-- The second section of `appInvalidated` and of the legacy `release`. -/
def disconnectedReaped (broker : Broker) (reference : TunnelReference) :
    Broker :=
  match broker.active with
  | none => broker
  | some lease =>
    if lease.reference = reference && !lease.hasRouteHold &&
        !lease.appConnected then
      broker.retire lease
    else
      broker

def hold (broker : Broker) (binding : TunnelRouteBinding) :
    Broker × BrokerReply :=
  match broker.active with
  | none => (broker, ⟨.idle, some .staleGeneration⟩)
  | some lease =>
    match lease.hold binding with
    | (_, some error) => (broker, ⟨broker.currentState, some error⟩)
    | (lease, none) =>
      ({ broker with active := some lease }, ⟨.routeHeld, none⟩)

def release (broker : Broker) (binding : TunnelRouteBinding) :
    Broker × Section BrokerReply :=
  match broker.active with
  | none => (broker, .reply ⟨.idle, some .staleGeneration⟩)
  | some lease =>
    match lease.release binding with
    | (_, some error) => (broker, .refused error)
    | (lease, none) =>
      ({ broker with active := some lease },
        if lease.appConnected then .reply ⟨.running, none⟩
        else .reap lease.reference)

def routeStatus (broker : Broker) (binding : TunnelRouteBinding) :
    BrokerReply :=
  match broker.active with
  | none => ⟨broker.currentState, some .staleGeneration⟩
  | some lease =>
    if !binding.isValid || binding.reference ≠ lease.reference then
      ⟨broker.currentState, some .staleGeneration⟩
    else if lease.routeLeaseID ≠ some binding.routeLeaseID then
      ⟨broker.currentState, some .holdMismatch⟩
    else
      ⟨.routeHeld, none⟩

def holdV3 (broker : Broker) (binding : TunnelRouteBindingV3) (now : Date) :
    Broker × RouteReplyV3 :=
  match broker.active with
  | none => (broker, ⟨binding, .idle, some .staleGeneration⟩)
  | some lease =>
    match lease.holdV3 binding now with
    | (_, some error) => (broker, ⟨binding, broker.currentState, some error⟩)
    | (lease, none) =>
      ({ broker with active := some lease }, ⟨binding, .routeHeld, none⟩)

/-- The error for a tuple that names no active session. -/
def forgottenError : RetiredRouteBindingMatch → BrokerErrorCode
  | .sameSessionMismatch => .holdMismatch
  | _ => .staleGeneration

def releaseV3 (broker : Broker) (binding : TunnelRouteBindingV3) :
    Broker × Section RouteReplyV3 :=
  if broker.classify binding = .exact then
    (broker, .reply ⟨binding, .idle, none⟩)
  else
    match broker.active with
    | none =>
      (broker, .reply
        ⟨binding, .idle, some (forgottenError (broker.classify binding))⟩)
    | some lease =>
      if !routeBindingV3MatchesReference binding lease.reference then
        (broker, .reply ⟨binding, broker.currentState,
          some (forgottenError (broker.classify binding))⟩)
      else
        match lease.releaseV3 binding with
        | (_, some error) => (broker, .refused error)
        | (lease, none) =>
          ({ broker with active := some lease },
            if lease.appConnected then .reply ⟨binding, .running, none⟩
            else .reap lease.reference)

/-- The second section of `releaseV3`: the tombstone is the tuple itself. -/
def releaseV3Reaped (broker : Broker) (binding : TunnelRouteBindingV3)
    (reference : TunnelReference) : Broker :=
  match broker.active with
  | none => broker
  | some lease =>
    if lease.reference = reference && !lease.hasRouteHold &&
        !lease.appConnected then
      { broker with active := none, retiredRouteBindingV3 := some binding }
    else
      broker

def routeStatusV3 (broker : Broker) (binding : TunnelRouteBindingV3)
    (now : Date) : Broker × RouteReplyV3 :=
  if broker.classify binding = .exact then
    (broker, ⟨binding, .idle, none⟩)
  else
    match broker.active with
    | none =>
      (broker,
        ⟨binding, .idle, some (forgottenError (broker.classify binding))⟩)
    | some lease =>
      if !routeBindingV3MatchesReference binding lease.reference then
        (broker, ⟨binding, broker.currentState,
          some (forgottenError (broker.classify binding))⟩)
      else
        let result := lease.statusV3 binding now
        let broker := { broker with active := some result.1 }
        (broker, ⟨binding, broker.currentState, result.2⟩)

/-- The termination handler of a child.  A held session stays as a tombstone
until its route is released. -/
def childExited (broker : Broker) (reference : TunnelReference) : Broker :=
  match broker.active with
  | none => broker
  | some lease =>
    if lease.reference ≠ reference then broker
    else if lease.hasRouteHold then
      { broker with
        active := some { lease with routeRecoveryRequired := true } }
    else
      broker.retire lease

def heartbeatWatchdogTick (broker : Broker) (now : Date) : Broker :=
  { broker with
    active := broker.active.map (·.markHeartbeatExpired now) }

/-- A section that starts no session, creates no hold and forgets no release
of the session it leaves active. -/
structure Quiet (before after : Broker) : Prop where
  generation : after.nextGeneration = before.nextGeneration
  active : ∀ lease, after.active = some lease →
    ∃ old, before.active = some old ∧ old.Quiet lease

theorem Quiet.refl (broker : Broker) : broker.Quiet broker :=
  ⟨rfl, fun lease found => ⟨lease, found, .refl lease⟩⟩

variable {broker : Broker} {lease after : SessionLeaseState}

theorem Quiet.update {old lease : SessionLeaseState}
    (found : broker.active = some old) (quiet : old.Quiet lease) :
    broker.Quiet { broker with active := some lease } := by
  refine ⟨rfl, ?_⟩
  intro current same
  cases same
  exact ⟨old, found, quiet⟩

/-- A hold section changes nothing, or grants the hold of its own session,
which has released nothing. -/
structure Granted (before after : Broker) (session : TunnelReference) :
    Prop where
  generation : after.nextGeneration = before.nextGeneration
  active : ∃ old lease, before.active = some old ∧
    after.active = some lease ∧ old.reference = session ∧
    lease.reference = session ∧
    (old.hasReleased = false ∨ old.hasRouteHold) ∧
    (old.Sound → lease.Sound)

theorem Granted.of_lease {session : TunnelReference}
    (found : broker.active = some lease) (grants : lease.Grants after session) :
    broker.Granted { broker with active := some after } session :=
  ⟨rfl, lease, after, found, rfl, grants.session.symm,
    grants.reference.trans grants.session.symm, grants.fresh, grants.sound⟩

/-- A generation that may still be given out is not the last one. -/
theorem lt_next_generation {generation : UInt64}
    (available : generation ≤ int64Max) : generation < generation + 1 := by
  have bound := UInt64.le_iff_toNat_le.mp available
  have maximum : int64Max.toNat = 2 ^ 63 - 1 := rfl
  rw [UInt64.lt_iff_toNat_lt, UInt64.toNat_add, UInt64.toNat_one]
  omega

theorem stop_reap {reference child : TunnelReference}
    {appConnectionID : ConnectionID}
    (reaps : broker.stop reference appConnectionID = .reap child) :
    ∃ lease, broker.active = some lease ∧ child = lease.reference ∧
      lease.hasRouteHold = false := by
  unfold stop at reaps
  split at reaps
  · cases reaps
  · next lease found =>
    split at reaps
    · cases reaps
    split at reaps
    · cases reaps
    split at reaps
    · cases reaps
    split at reaps
    · cases reaps
    · next unheld =>
      cases reaps
      exact ⟨lease, found, rfl, by simpa using unheld⟩

/-- A section that releases, and reaps at most the session that it leaves
active. -/
structure Released {reply : Type} (before : Broker)
    (outcome : Broker × Section reply) : Prop where
  quiet : before.Quiet outcome.1
  reaps : ∀ child, outcome.2 = .reap child →
    ∃ lease, outcome.1.active = some lease ∧ child = lease.reference ∧
      lease.hasReleased = true

theorem Released.accepted {reply : Type} {value : reply}
    (found : broker.active = some lease) (quiet : lease.Quiet after)
    (released : after.hasReleased) :
    broker.Released ({ broker with active := some after },
      if after.appConnected then .reply value else .reap after.reference) := by
  refine ⟨.update found quiet, ?_⟩
  intro child reaps
  split at reaps
  · cases reaps
  · cases reaps
    exact ⟨after, rfl, rfl, released⟩

variable (broker) (binding : TunnelRouteBindingV3) (reference : TunnelReference)
  (now : Date) (appConnectionID : ConnectionID)

theorem retire_quiet (lease : SessionLeaseState) :
    broker.Quiet (broker.retire lease) :=
  ⟨rfl, fun _ found => by cases found⟩

theorem stopReaped_quiet : broker.Quiet (broker.stopReaped reference) := by
  unfold stopReaped
  split
  · exact .refl broker
  split
  · exact retire_quiet broker _
  · exact .refl broker

theorem disconnectedReaped_quiet :
    broker.Quiet (broker.disconnectedReaped reference) := by
  unfold disconnectedReaped
  split
  · exact .refl broker
  split
  · exact retire_quiet broker _
  · exact .refl broker

theorem releaseV3Reaped_quiet :
    broker.Quiet (broker.releaseV3Reaped binding reference) := by
  unfold releaseV3Reaped
  split
  · exact .refl broker
  split
  · exact ⟨rfl, fun _ found => by cases found⟩
  · exact .refl broker

theorem routeStatusV3_quiet :
    broker.Quiet (broker.routeStatusV3 binding now).1 := by
  unfold routeStatusV3
  split
  · exact .refl broker
  split
  · exact .refl broker
  · next lease found =>
    split
    · exact .refl broker
    · exact .update found (lease.statusV3_quiet binding now)

theorem childExited_quiet : broker.Quiet (broker.childExited reference) := by
  unfold childExited
  split
  · exact .refl broker
  · next lease found =>
    split
    · exact .refl broker
    split
    · exact .update found lease.recovery_quiet
    · exact retire_quiet broker lease

theorem heartbeatWatchdogTick_quiet :
    broker.Quiet (broker.heartbeatWatchdogTick now) := by
  refine ⟨rfl, ?_⟩
  intro lease found
  obtain ⟨old, active, rfl⟩ := Option.map_eq_some_iff.mp found
  exact ⟨old, active, old.markHeartbeatExpired_quiet now⟩

theorem hold_cases (binding : TunnelRouteBinding) :
    ((broker.hold binding).1 = broker ∧
        (broker.hold binding).2.errorCode ≠ none) ∨
      broker.Granted (broker.hold binding).1 binding.reference := by
  unfold hold
  split
  · exact .inl ⟨rfl, nofun⟩
  · next lease found =>
    have grants := lease.hold_grants binding
    generalize lease.hold binding = result at grants
    rcases result with ⟨after, _ | error⟩
    · exact .inr (.of_lease found (grants rfl))
    · exact .inl ⟨rfl, nofun⟩

theorem holdV3_cases :
    ((broker.holdV3 binding now).1 = broker ∧
        (broker.holdV3 binding now).2.errorCode ≠ none) ∨
      broker.Granted (broker.holdV3 binding now).1 binding.session := by
  unfold holdV3
  split
  · exact .inl ⟨rfl, nofun⟩
  · next lease found =>
    have grants := lease.holdV3_grants binding now
    generalize lease.holdV3 binding now = result at grants
    rcases result with ⟨after, _ | error⟩
    · exact .inr (.of_lease found (grants rfl))
    · exact .inl ⟨rfl, nofun⟩

theorem start_cases
    (sidecarInstanceID : Identifier) (launch : Launch) :
    (broker.start appConnectionID sidecarInstanceID launch).1 = broker ∨
      broker.nextGeneration ≤ int64Max ∧
      (broker.start appConnectionID sidecarInstanceID
        launch).1.nextGeneration = broker.nextGeneration + 1 ∧
      ∀ lease, (broker.start appConnectionID sidecarInstanceID
        launch).1.active = some lease →
        ∃ reference, lease = .new reference appConnectionID ∧
          reference.generation = broker.nextGeneration := by
  unfold start
  split
  · exact .inl rfl
  · next inactive =>
    have none := Option.not_isSome_iff_eq_none.mp inactive
    split
    · exact .inl rfl
    · next available =>
      have available := UInt64.not_lt.mp available
      right
      cases launch with
      | planFailed | launchFailed => exact ⟨available, rfl, by simp [none]⟩
      | launched =>
        refine ⟨available, rfl, ?_⟩
        intro lease found
        cases found
        exact ⟨_, rfl, rfl⟩

theorem appInvalidated_spec :
    broker.Quiet (broker.appInvalidated appConnectionID).1 ∧
      ∀ child, (broker.appInvalidated appConnectionID).2 = some child →
        ∃ lease, (broker.appInvalidated appConnectionID).1.active = some lease ∧
          child = lease.reference ∧ lease.hasRouteHold = false ∧
          lease.appConnected = false := by
  unfold appInvalidated
  split
  · exact ⟨.refl broker, nofun⟩
  · next lease found =>
    split
    · refine ⟨.update found lease.disconnect_quiet, ?_⟩
      intro child reaps
      obtain ⟨unheld, ⟨⟩⟩ := Option.ite_none_left_eq_some.mp reaps
      exact ⟨_, rfl, rfl, (Bool.not_eq_true _).mp unheld, rfl⟩
    · exact ⟨.refl broker, nofun⟩

theorem release_released (binding : TunnelRouteBinding) :
    broker.Released (broker.release binding) := by
  unfold release
  split
  · exact ⟨.refl broker, nofun⟩
  · next lease found =>
    have spec := lease.release_spec binding
    generalize lease.release binding = result at spec
    rcases result with ⟨after, _ | error⟩
    · exact .accepted found spec.1 (spec.2 rfl)
    · exact ⟨.refl broker, nofun⟩

theorem releaseV3_released : broker.Released (broker.releaseV3 binding) := by
  unfold releaseV3
  split
  · exact ⟨.refl broker, nofun⟩
  split
  · exact ⟨.refl broker, nofun⟩
  · next lease found =>
    split
    · exact ⟨.refl broker, nofun⟩
    have spec := lease.releaseV3_spec binding
    generalize lease.releaseV3 binding = result at spec
    rcases result with ⟨after, _ | error⟩
    · exact .accepted found spec.1 (spec.2 rfl)
    · exact ⟨.refl broker, nofun⟩

end Broker

end KyClash.TunnelBroker
