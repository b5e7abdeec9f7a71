import KyClash.Carrier.QuicOnce
import KyClash.Carrier.QuicReception
import KyClash.Carrier.Probe
import KyClash.Carrier.StreamDelivery
import KyClash.TunnelBroker.Interlock
import KyClash.StdioRuntime.BrokerStop
import KyClash.RouteHelper.Startup
import KyClash.Sidecar.DataPlaneAgreement
import KyClash.StdioRuntime.CancelPair
import KyClash.PolicyIdentity.Runs
import KyClash.Production.ControllerRuns
import KyClash.Production.RetiredGate
import KyClash.ProductionPeer.Run
import KyClash.Commands.Connections
import KyClash.Configuration.Rejection
import KyClash.Configuration.Snapshots
import KyClash.Configuration.ProfileSwitch
import KyClash.Configuration.Merge
import KyClash.Networking.CidrRanges
import KyClash.Networking.OperationNames
import KyClash.RouteHelper.V2.Runs
import KyClash.Networking.RouteSessionRuns
import KyClash.Networking.XpcBoundary
import KyClash.Networking.RouteBoundaryRuns
import KyClash.ProfileV2.CanonicalIpv6
import KyClash.Utils.Masking
import KyClash.GuestStaging.ControlledTree
