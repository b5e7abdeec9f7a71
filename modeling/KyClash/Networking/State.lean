import Mathlib.Logic.Basic

/-!
# Shared networking types

The states and error codes of `networking/state.rs` and the transports of
`networking/config.rs`.
-/

namespace KyClash

inductive NetworkState where
  | disconnected
  | authenticating
  | fetchingConfig
  | preparingTunnel
  | connectingPrimary
  | connectedPrimary
  | degradedFallback
  | reconnecting
  | disconnecting
  | error
  deriving DecidableEq, Repr

inductive NetworkErrorCode where
  | unsupportedSchemaVersion
  | unsupportedProtocolVersion
  | invalidConfiguration
  | authenticationFailed
  | permissionDenied
  | policySignatureInvalid
  | routeDiscoveryFailed
  | routeConflict
  | routeJournalCorrupted
  | routeJournalUnavailable
  | routeRollbackFailed
  | tunnelStartFailed
  | primaryTransportUnavailable
  | fallbackTransportUnavailable
  | operationCancelled
  | operationTimedOut
  | sidecarUnavailable
  | invalidStateTransition
  deriving DecidableEq, Repr

inductive TransportKind where
  | quic
  | wss
  | tcp
  deriving DecidableEq, Repr

end KyClash
