import KyClash.RouteHelper.Coordinator
import KyClash.TunnelBroker.Coordinator

/-!
# The broker behind the route helper

`RootBrokerRouteV3Adapter` and the tunnel broker it asks.  The helper is told
of a release exactly when the broker still knows the lease's tuple; a broker
that was restarted knows none.
-/

namespace KyClash.RouteHelper

open TunnelBroker (Broker BrokerErrorCode RouteReplyV3 TunnelRouteBindingV3)

/-- The tuple as the broker reads it. -/
def LeaseReferenceV3.binding (reference : LeaseReferenceV3) :
    TunnelRouteBindingV3 where
  protocolVersion := reference.protocolVersion
  brokerProtocolVersion := reference.brokerProtocolVersion
  brokerGeneration := reference.brokerGeneration
  sidecarInstanceID := reference.sidecarInstanceID
  routeLeaseID := reference.leaseID
  operationID := reference.operationID

namespace RootBrokerRouteV3Adapter

/-- The codes 1 and 4 to 8 prove that nothing was done; the codes 2 and 3 do
not. -/
def definitive : BrokerErrorCode → Bool
  | .unavailable => false
  | .alreadyRunning => false
  | _ => true

def failure (error : BrokerErrorCode) : RouteBrokerV3Result :=
  if definitive error then .rejected else .ambiguous

def hold (reply : RouteReplyV3) : RouteBrokerV3Result :=
  match reply.errorCode with
  | some error => failure error
  | none => if reply.state = .routeHeld then .held else .rejected

def release (reply : RouteReplyV3) : RouteBrokerV3Result :=
  match reply.errorCode with
  | some error => failure error
  | none => if reply.state = .routeHeld then .rejected else .released

def status (reply : RouteReplyV3) : RouteBrokerV3Result :=
  match reply.errorCode, reply.state with
  | some _, _ => .ambiguous
  | none, .idle => .idle
  | none, .running => .running
  | none, .routeHeld => .held

end RootBrokerRouteV3Adapter

/-- The broker's whole `releaseV3`, with a reap that succeeds. -/
def brokerRelease (broker : Broker) (binding : TunnelRouteBindingV3) :
    Broker × RouteReplyV3 :=
  match broker.releaseV3 binding with
  | (broker, .refused error) =>
    (broker, ⟨binding, broker.currentState, some error⟩)
  | (broker, .reply reply) => (broker, reply)
  | (broker, .reap reference) =>
    (broker.releaseV3Reaped binding reference, ⟨binding, .idle, none⟩)

/-- The session is the tuple's, and neither a legacy lease nor another tuple
ever held it. -/
structure KnowsSession (lease : TunnelBroker.SessionLeaseState)
    (binding : TunnelRouteBindingV3) : Prop where
  session : binding.session = lease.reference
  noLegacyHold : lease.routeLeaseID = none
  noLegacyRelease : lease.releasedLegacyRouteLeaseID = none
  tuple : lease.releasedRouteBindingV3 = some binding ∨
    lease.releasedRouteBindingV3 = none ∧
      (lease.routeBindingV3 = none ∨ lease.routeBindingV3 = some binding)

/-- The broker has the exact tombstone of the tuple, or its active session is
the tuple's. -/
def KnowsTuple (broker : Broker) (binding : TunnelRouteBindingV3) : Prop :=
  broker.retiredRouteBindingV3 = some binding ∨
    ∃ lease, broker.active = some lease ∧ KnowsSession lease binding

/-! ## When the broker answers -/

variable {binding : TunnelRouteBindingV3}

private theorem releaseV3_eq_none_iff {lease : TunnelBroker.SessionLeaseState}
    (valid : binding.isValid = true) :
    (lease.releaseV3 binding).2 = none ↔ KnowsSession lease binding := by
  constructor
  · intro accepted
    unfold TunnelBroker.SessionLeaseState.releaseV3 at accepted
    split at accepted
    · cases accepted
    · next named =>
      split at accepted
      · cases accepted
      · next unlegacy =>
        simp only [valid, Bool.not_true, Bool.false_or, Bool.not_eq_true',
          Bool.not_eq_false, TunnelBroker.routeBindingV3MatchesReference,
          decide_eq_true_eq] at named
        simp only [Bool.or_eq_true, not_or, Bool.not_eq_true,
          Option.isSome_eq_false_iff, Option.isNone_iff_eq_none] at unlegacy
        refine ⟨named, unlegacy.1, unlegacy.2, ?_⟩
        split at accepted
        · next released found =>
          split at accepted
          · next same =>
            exact .inl (same ▸ found)
          · cases accepted
        · next unreleased =>
          split at accepted
          · cases accepted
          · next own =>
            refine .inr ⟨unreleased, ?_⟩
            cases held : lease.routeBindingV3 with
            | none => exact .inl rfl
            | some current =>
              refine .inr ?_
              simpa [held] using own
  · rintro ⟨session, noHold, noRelease, tuple⟩
    have named : TunnelBroker.routeBindingV3MatchesReference binding
          lease.reference = true := by
      simp [TunnelBroker.routeBindingV3MatchesReference, session]
    rcases tuple with released | ⟨unreleased, held | held⟩
    · simp [TunnelBroker.SessionLeaseState.releaseV3, valid, named, noHold,
        noRelease, released]
    · simp [TunnelBroker.SessionLeaseState.releaseV3, valid, named, noHold,
        noRelease, unreleased, held]
    · simp [TunnelBroker.SessionLeaseState.releaseV3, valid, named, noHold,
        noRelease, unreleased, held]

private theorem classify_eq_exact_iff (broker : Broker)
    (binding : TunnelRouteBindingV3) :
    broker.classify binding = .exact ↔
      broker.retiredRouteBindingV3 = some binding := by
  unfold Broker.classify
  cases broker.retiredRouteBindingV3 with
  | none => simp
  | some retired =>
    by_cases same : retired = binding
    · simp [same]
    · simp only [same, if_false, Option.some.injEq, iff_false]
      split <;> simp

theorem RootBrokerRouteV3Adapter.release_error {reply : RouteReplyV3}
    (failed : reply.errorCode ≠ none) : release reply ≠ .released := by
  unfold release
  split
  · unfold failure
    split <;> nofun
  · next succeeded =>
    exact absurd succeeded failed

theorem brokerRelease_eq_released_iff (broker : Broker)
    (valid : binding.isValid = true) :
    RootBrokerRouteV3Adapter.release (brokerRelease broker binding).2 =
        .released ↔
      KnowsTuple broker binding := by
  by_cases retired : broker.retiredRouteBindingV3 = some binding
  · have exactly := (classify_eq_exact_iff broker binding).mpr retired
    refine iff_of_true ?_ (.inl retired)
    simp [brokerRelease, Broker.releaseV3, exactly,
      RootBrokerRouteV3Adapter.release]
  · have other : broker.classify binding ≠ .exact :=
      fun found => retired ((classify_eq_exact_iff broker binding).mp found)
    cases active : broker.active with
    | none =>
      refine iff_of_false ?_ ?_
      · apply RootBrokerRouteV3Adapter.release_error
        simp [brokerRelease, Broker.releaseV3, other, active]
      · rintro (found | ⟨lease, found, -⟩)
        · exact retired found
        · rw [active] at found
          cases found
    | some lease =>
      have known : KnowsTuple broker binding ↔
          KnowsSession lease binding := by
        simp [KnowsTuple, retired, active]
      rw [known, ← releaseV3_eq_none_iff valid]
      by_cases named : binding.session = lease.reference
      · cases outcome : lease.releaseV3 binding with
        | mk after error =>
          cases error with
          | some error =>
            refine iff_of_false ?_ nofun
            apply RootBrokerRouteV3Adapter.release_error
            simp [brokerRelease, Broker.releaseV3, other, active,
              TunnelBroker.routeBindingV3MatchesReference, named,
              outcome]
          | none =>
            refine iff_of_true ?_ rfl
            cases connected : after.appConnected <;>
              simp [brokerRelease, Broker.releaseV3, other, active,
                TunnelBroker.routeBindingV3MatchesReference, named,
                outcome, connected, RootBrokerRouteV3Adapter.release]
      · refine iff_of_false ?_ ?_
        · apply RootBrokerRouteV3Adapter.release_error
          simp [brokerRelease, Broker.releaseV3, other, active,
            TunnelBroker.routeBindingV3MatchesReference, named]
        · intro accepted
          exact named ((releaseV3_eq_none_iff valid).mp accepted).session

end KyClash.RouteHelper
