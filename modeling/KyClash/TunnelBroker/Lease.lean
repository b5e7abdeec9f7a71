import Mathlib.Data.List.Basic

/-!
# Route holds of one broker session

The typed references of the privileged tunnel broker and the lease state of
one session (`SessionLeaseState` in `macos/tunnel-broker/main.swift`).  A
session can be held by a legacy route lease or by a v3 tuple; the last
released one of each kind is remembered.
-/

namespace KyClash.TunnelBroker

/-- The UTF-8 bytes of an identifier. -/
abbrev Identifier := List UInt8

def brokerProtocolVersion : UInt8 := 1
def routeHelperV3ProtocolVersion : UInt8 := 3
def routeBrokerProtocolVersion : UInt8 := 1
def maximumIdentifierBytes : Nat := 64
def int64Max : UInt64 := 0x7FFFFFFFFFFFFFFF

/-- Seconds. -/
abbrev Date := Int

def routeHeartbeatExpiry : Date := 15

inductive BrokerState where
  | idle
  | running
  | routeHeld
  deriving DecidableEq, Repr

inductive BrokerErrorCode where
  | invalidRequest
  | unavailable
  | alreadyRunning
  | ownershipMismatch
  | staleGeneration
  | routeHeld
  | holdMismatch
  | launchFailed
  deriving DecidableEq, Repr

def validIdentifierByte (byte : UInt8) : Bool :=
  (48 ≤ byte && byte ≤ 57) || (65 ≤ byte && byte ≤ 90) ||
    (97 ≤ byte && byte ≤ 122) || byte = 45 || byte = 46 || byte = 95

def validIdentifier (value : Identifier) : Bool :=
  8 ≤ value.length && value.length ≤ maximumIdentifierBytes &&
    value.all validIdentifierByte

structure TunnelReference where
  protocolVersion : UInt8
  generation : UInt64
  sidecarInstanceID : Identifier
  deriving DecidableEq, Repr

def TunnelReference.isValid (reference : TunnelReference) : Bool :=
  reference.protocolVersion = brokerProtocolVersion &&
    0 < reference.generation && reference.generation ≤ int64Max &&
    validIdentifier reference.sidecarInstanceID

structure TunnelRouteBinding where
  reference : TunnelReference
  routeLeaseID : Identifier
  deriving DecidableEq, Repr

def TunnelRouteBinding.isValid (binding : TunnelRouteBinding) : Bool :=
  binding.reference.isValid && validIdentifier binding.routeLeaseID

structure TunnelRouteBindingV3 where
  protocolVersion : UInt8
  brokerProtocolVersion : UInt8
  brokerGeneration : UInt64
  sidecarInstanceID : Identifier
  routeLeaseID : Identifier
  operationID : Identifier
  deriving DecidableEq, Repr

namespace TunnelRouteBindingV3

def isValid (binding : TunnelRouteBindingV3) : Bool :=
  binding.protocolVersion = routeHelperV3ProtocolVersion &&
    binding.brokerProtocolVersion = routeBrokerProtocolVersion &&
    0 < binding.brokerGeneration && binding.brokerGeneration ≤ int64Max &&
    validIdentifier binding.sidecarInstanceID &&
    validIdentifier binding.routeLeaseID &&
    validIdentifier binding.operationID

/-- The session the tuple names: the comparison of
`routeBindingV3MatchesReference` is equality with this reference. -/
def session (binding : TunnelRouteBindingV3) : TunnelReference where
  protocolVersion := binding.brokerProtocolVersion
  generation := binding.brokerGeneration
  sidecarInstanceID := binding.sidecarInstanceID

end TunnelRouteBindingV3

def routeBindingV3MatchesReference (binding : TunnelRouteBindingV3)
    (reference : TunnelReference) : Bool :=
  binding.session = reference

def sameRouteSessionV3 (left right : TunnelRouteBindingV3) : Bool :=
  left.session = right.session

/-- Connections of the app, in place of their UUIDs. -/
abbrev ConnectionID := Nat

structure SessionLeaseState where
  reference : TunnelReference
  appConnectionID : ConnectionID
  appConnected : Bool
  routeLeaseID : Option Identifier
  releasedLegacyRouteLeaseID : Option Identifier
  routeBindingV3 : Option TunnelRouteBindingV3
  releasedRouteBindingV3 : Option TunnelRouteBindingV3
  lastRouteHeartbeat : Option Date
  routeRecoveryRequired : Bool
  deriving DecidableEq, Repr

namespace SessionLeaseState

def new (reference : TunnelReference) (appConnectionID : ConnectionID) :
    SessionLeaseState where
  reference := reference
  appConnectionID := appConnectionID
  appConnected := true
  routeLeaseID := none
  releasedLegacyRouteLeaseID := none
  routeBindingV3 := none
  releasedRouteBindingV3 := none
  lastRouteHeartbeat := none
  routeRecoveryRequired := false

def hasRouteHold (lease : SessionLeaseState) : Bool :=
  lease.routeLeaseID.isSome || lease.routeBindingV3.isSome

/-- The operations return the lease afterwards and the error, if any. -/
def hold (lease : SessionLeaseState) (binding : TunnelRouteBinding) :
    SessionLeaseState × Option BrokerErrorCode :=
  if !binding.isValid || binding.reference ≠ lease.reference then
    (lease, some .staleGeneration)
  else if lease.releasedLegacyRouteLeaseID.isSome ||
      lease.routeBindingV3.isSome || lease.releasedRouteBindingV3.isSome then
    (lease, some .holdMismatch)
  else if lease.routeLeaseID.isSome &&
      lease.routeLeaseID ≠ some binding.routeLeaseID then
    (lease, some .holdMismatch)
  else
    ({ lease with routeLeaseID := some binding.routeLeaseID }, none)

def release (lease : SessionLeaseState) (binding : TunnelRouteBinding) :
    SessionLeaseState × Option BrokerErrorCode :=
  if !binding.isValid || binding.reference ≠ lease.reference then
    (lease, some .staleGeneration)
  else
    match lease.releasedLegacyRouteLeaseID with
    | some released =>
      (lease,
        if released = binding.routeLeaseID then none
        else some .holdMismatch)
    | none =>
      if lease.routeLeaseID ≠ some binding.routeLeaseID then
        (lease, some .holdMismatch)
      else
        ({ lease with
            routeLeaseID := none
            releasedLegacyRouteLeaseID := some binding.routeLeaseID },
          none)

def holdV3 (lease : SessionLeaseState) (binding : TunnelRouteBindingV3)
    (now : Date) : SessionLeaseState × Option BrokerErrorCode :=
  if !binding.isValid ||
      !routeBindingV3MatchesReference binding lease.reference then
    (lease, some .staleGeneration)
  else if lease.routeLeaseID.isSome ||
      lease.releasedLegacyRouteLeaseID.isSome then
    (lease, some .holdMismatch)
  else
    match lease.routeBindingV3 with
    | some current =>
      if current ≠ binding then
        (lease, some .holdMismatch)
      else if lease.routeRecoveryRequired then
        (lease, some .unavailable)
      else
        ({ lease with
            lastRouteHeartbeat := some now
            routeRecoveryRequired := false },
          none)
    | none =>
      if lease.releasedRouteBindingV3.isSome then
        (lease, some .holdMismatch)
      else
        ({ lease with
            routeBindingV3 := some binding
            lastRouteHeartbeat := some now
            routeRecoveryRequired := false },
          none)

/-- Without a hold or history this is the no-op release of a tuple whose hold
never arrived; the tuple is still recorded as released. -/
def releaseV3 (lease : SessionLeaseState) (binding : TunnelRouteBindingV3) :
    SessionLeaseState × Option BrokerErrorCode :=
  if !binding.isValid ||
      !routeBindingV3MatchesReference binding lease.reference then
    (lease, some .staleGeneration)
  else if lease.routeLeaseID.isSome ||
      lease.releasedLegacyRouteLeaseID.isSome then
    (lease, some .holdMismatch)
  else
    match lease.releasedRouteBindingV3 with
    | some released =>
      (lease, if released = binding then none else some .holdMismatch)
    | none =>
      if lease.routeBindingV3.isSome && lease.routeBindingV3 ≠ some binding then
        (lease, some .holdMismatch)
      else
        ({ lease with
            routeBindingV3 := none
            releasedRouteBindingV3 := some binding
            lastRouteHeartbeat := none
            routeRecoveryRequired := false },
          none)

def statusV3 (lease : SessionLeaseState) (binding : TunnelRouteBindingV3)
    (now : Date) : SessionLeaseState × Option BrokerErrorCode :=
  if !binding.isValid ||
      !routeBindingV3MatchesReference binding lease.reference then
    (lease, some .staleGeneration)
  else if lease.routeLeaseID.isSome ||
      lease.releasedLegacyRouteLeaseID.isSome then
    (lease, some .holdMismatch)
  else if lease.routeBindingV3 = some binding then
    if lease.routeRecoveryRequired then
      (lease, some .unavailable)
    else
      ({ lease with lastRouteHeartbeat := some now }, none)
  else if lease.releasedRouteBindingV3 = some binding then
    (lease, none)
  else
    (lease, some .holdMismatch)

/-- The watchdog raises the recovery signal and never drops a hold. -/
def markHeartbeatExpired (lease : SessionLeaseState) (now : Date) :
    SessionLeaseState :=
  match lease.lastRouteHeartbeat with
  | none => lease
  | some last =>
    if lease.hasRouteHold && routeHeartbeatExpiry ≤ now - last then
      { lease with routeRecoveryRequired := true }
    else
      lease

/-- A lease of either kind has been released. -/
def hasReleased (lease : SessionLeaseState) : Bool :=
  lease.releasedLegacyRouteLeaseID.isSome || lease.releasedRouteBindingV3.isSome

/-- At most one authority holds the session, and none after a release. -/
structure Sound (lease : SessionLeaseState) : Prop where
  exclusive : lease.routeLeaseID.isSome → lease.routeBindingV3 = none
  final : lease.hasReleased → lease.hasRouteHold = false

/-- An operation that never creates a hold and never forgets a release or that
the app has left. -/
structure Quiet (before after : SessionLeaseState) : Prop where
  reference : after.reference = before.reference
  disconnected : before.appConnected = false → after.appConnected = false
  hold : after.hasRouteHold → before.hasRouteHold
  released : before.hasReleased → after.hasReleased
  sound : before.Sound → after.Sound

theorem Quiet.refl (lease : SessionLeaseState) : lease.Quiet lease :=
  ⟨rfl, id, id, id, id⟩

theorem new_sound (reference : TunnelReference)
    (appConnectionID : ConnectionID) :
    (new reference appConnectionID).Sound := by
  constructor
  · simp [new]
  · simp [new, hasReleased]

section

variable (lease : SessionLeaseState)
include lease

theorem disconnect_quiet : lease.Quiet { lease with appConnected := false } :=
  ⟨rfl, fun _ => rfl, id, id, fun sound => ⟨sound.exclusive, sound.final⟩⟩

theorem recovery_quiet :
    lease.Quiet { lease with routeRecoveryRequired := true } :=
  ⟨rfl, id, id, id, fun sound => ⟨sound.exclusive, sound.final⟩⟩

theorem markHeartbeatExpired_quiet (now : Date) :
    lease.Quiet (lease.markHeartbeatExpired now) := by
  unfold markHeartbeatExpired
  split
  · exact .refl lease
  split
  · exact recovery_quiet lease
  · exact .refl lease

theorem statusV3_quiet (binding : TunnelRouteBindingV3) (now : Date) :
    lease.Quiet (lease.statusV3 binding now).1 := by
  unfold statusV3
  split
  · exact .refl lease
  split
  · exact .refl lease
  split
  · split
    · exact .refl lease
    · exact ⟨rfl, id, id, id, fun sound => ⟨sound.exclusive, sound.final⟩⟩
  · split
    · exact .refl lease
    · exact .refl lease

theorem release_spec (binding : TunnelRouteBinding) :
    lease.Quiet (lease.release binding).1 ∧
      ((lease.release binding).2 = none →
        (lease.release binding).1.hasReleased) := by
  unfold release
  split
  · exact ⟨.refl lease, nofun⟩
  split
  · next released known =>
      exact ⟨.refl lease, fun _ => by simp [hasReleased, known]⟩
  split
  · exact ⟨.refl lease, nofun⟩
  · next held =>
    have held : lease.routeLeaseID = some binding.routeLeaseID := by
      simpa using held
    refine ⟨⟨rfl, id, ?_, ?_, ?_⟩, ?_⟩
    · simp [hasRouteHold, held]
    · simp [hasReleased]
    · intro sound
      have alone := sound.exclusive (by simp [held])
      exact ⟨by simp, by simp [hasRouteHold, alone]⟩
    · simp [hasReleased]

theorem releaseV3_spec (binding : TunnelRouteBindingV3) :
    lease.Quiet (lease.releaseV3 binding).1 ∧
      ((lease.releaseV3 binding).2 = none →
        (lease.releaseV3 binding).1.hasReleased) := by
  unfold releaseV3
  split
  · exact ⟨.refl lease, nofun⟩
  split
  · exact ⟨.refl lease, nofun⟩
  · next legacy =>
    split
    · next released known =>
        exact ⟨.refl lease, fun _ => by simp [hasReleased, known]⟩
    split
    · exact ⟨.refl lease, nofun⟩
    have noLegacy : lease.routeLeaseID = none := by
      simp only [Bool.or_eq_true, not_or,
        Option.not_isSome_iff_eq_none] at legacy
      exact legacy.1
    refine ⟨⟨rfl, id, ?_, ?_, ?_⟩, ?_⟩
    · simp [hasRouteHold, noLegacy]
    · simp [hasReleased]
    · intro sound
      exact ⟨by simp, by simp [hasRouteHold, noLegacy]⟩
    · simp [hasReleased]

/-- A hold of the lease's own session, which has released nothing or holds
already. -/
structure Grants (before after : SessionLeaseState)
    (session : TunnelReference) : Prop where
  session : session = before.reference
  fresh : before.hasReleased = false ∨ before.hasRouteHold
  reference : after.reference = before.reference
  sound : before.Sound → after.Sound

theorem hold_grants (binding : TunnelRouteBinding) :
    (lease.hold binding).2 = none →
      lease.Grants (lease.hold binding).1 binding.reference := by
  unfold hold
  split
  · exact nofun
  · next matching =>
    split
    · exact nofun
    · next fresh =>
      split
      · exact nofun
      intro _
      simp only [Bool.or_eq_true, not_or, Option.not_isSome_iff_eq_none,
        Bool.not_eq_true', decide_eq_true_eq, not_not] at matching fresh
      obtain ⟨⟨noLegacy, noHold⟩, noV3⟩ := fresh
      refine ⟨matching.2, .inl (by simp [hasReleased, noLegacy, noV3]), rfl, ?_⟩
      intro _
      exact ⟨fun _ => noHold, by simp [hasReleased, noLegacy, noV3]⟩

theorem holdV3_grants (binding : TunnelRouteBindingV3) (now : Date) :
    (lease.holdV3 binding now).2 = none →
      lease.Grants (lease.holdV3 binding now).1 binding.session := by
  unfold holdV3
  split
  · exact nofun
  · next matching =>
    have session : binding.session = lease.reference := by
      simp only [routeBindingV3MatchesReference, Bool.or_eq_true, not_or,
        Bool.not_eq_true', decide_eq_false_iff_not, not_not] at matching
      exact matching.2
    split
    · exact nofun
    · next noLegacy =>
      simp only [Bool.or_eq_true, not_or,
        Option.not_isSome_iff_eq_none] at noLegacy
      split
      · next current held =>
        split
        · exact nofun
        split
        · exact nofun
        intro _
        refine ⟨session, .inr (by simp [hasRouteHold, held]), rfl, ?_⟩
        intro sound
        exact ⟨fun legacy => sound.exclusive legacy,
          fun released => sound.final released⟩
      · next held =>
        split
        · exact nofun
        · next fresh =>
          intro _
          refine ⟨session, .inl (by simp [hasReleased, noLegacy.2, fresh]), rfl,
            ?_⟩
          intro _
          exact ⟨by simp [noLegacy.1], by simp [hasReleased, noLegacy.2, fresh]⟩

end

end SessionLeaseState

end KyClash.TunnelBroker
