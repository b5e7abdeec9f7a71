import KyClash.Codec.LeadingBits
import KyClash.Networking.Ipc
import KyClash.ProfileV2.Addresses

/-!
# The owner of a route lease

`RouteLeaseOwner` of `networking/route_helper.rs` and `RouteLeaseOwnerV3` of
`networking/route_helper_v3.rs`, with the checks that the application makes
before it asks the privileged helper for routes.

Rust's parsers read a text byte by byte.  Here each byte is one character.
-/

namespace KyClash.ProfileV2

def IpAddr.octets : IpAddr → List UInt8
  | .v4 octets => octets.toList
  | .v6 segments =>
    segments.toList.flatMap fun segment => BigEndian.putUint 2 segment.toNat

def IpAddr.isIpv4 : IpAddr → Bool
  | .v4 _ => true
  | .v6 _ => false

/-- The bits of an address of this family. -/
def IpAddr.width (address : IpAddr) : Nat :=
  if address.isIpv4 then 32 else 128

def IpAddr.isUnspecified (address : IpAddr) : Bool :=
  address.octets.all (· = 0)

/-- `is_multicast`: 224.0.0.0/4 and ff00::/8. -/
def IpAddr.isMulticast (address : IpAddr) : Bool :=
  address.octets.head?.any fun first =>
    if address.isIpv4 then 224 ≤ first && first ≤ 239 else first = 255

end KyClash.ProfileV2

namespace KyClash.Networking

open BigEndian (readUint)
open Ipc (validIpcID validUtunInterface)
open ProfileV2 (IpAddr)
open Texts (Text)

/-- Texts, as their UTF-8 bytes. -/
abbrev Utf8 := List UInt8

def characters (bytes : Utf8) : Text :=
  bytes.map fun byte => Char.ofNat byte.toNat

def ascii (text : String) : Utf8 :=
  text.toList.map fun c => .ofNat c.toNat

def int64Max : UInt64 := 9223372036854775807

def routeHelperProtocolVersion : UInt8 := 2
def routeHelperV3ProtocolVersion : UInt8 := 3
def routeBrokerProtocolVersion : UInt8 := 1
def maxMihomoTunInterfaces : Nat := 1

/-- `u8::from_str`: a sign and zeros may stand before the number. -/
def parseU8 (text : Text) : Option Nat :=
  let digits := if text.head? = some '+' then text.tail else text
  (Texts.parseDigits 10 digits).filter (· ≤ 255)

/-- `is_network_base`: no bit after the first `bits`. -/
def isNetworkBase (address : IpAddr) (bits : Nat) : Bool :=
  match address with
  | .v4 octets =>
    let hostBits := 32 - bits
    let mask := if hostBits = 32 then 2 ^ 32 - 1 else 2 ^ hostBits - 1
    readUint octets.toList &&& mask = 0
  | .v6 _ => LeadingBits.clearAfter bits address.octets

def parseCidr (value : Text) : Option (IpAddr × Nat) := do
  let (address, number) ← Texts.cutFirst '/' value
  let address ← ProfileV2.Rust.parseIpAddr address
  let bits ← parseU8 number
  if bits = 0 || address.isUnspecified || address.isMulticast ||
      address.width < bits then
    none
  else if isNetworkBase address bits then
    some (address, bits)
  else
    none

/-- Both branches of `cidr_overlaps`: the numbers under a mask. -/
def equalUnder (width bits left right : Nat) : Bool :=
  let mask := ((2 ^ width - 1) <<< (width - bits)) % 2 ^ width
  left &&& mask = right &&& mask

def cidrOverlaps : IpAddr × Nat → IpAddr × Nat → Bool
  | (.v4 left, leftBits), (.v4 right, rightBits) =>
    equalUnder 32 (min leftBits rightBits) (readUint left.toList)
      (readUint right.toList)
  | (.v6 left, leftBits), (.v6 right, rightBits) =>
    equalUnder 128 (min leftBits rightBits)
      (readUint (IpAddr.v6 left).octets) (readUint (IpAddr.v6 right).octets)
  | _, _ => false

/-- The loops of `cidrs_are_non_overlapping`. -/
def disjointCidrs : List (IpAddr × Nat) → Bool
  | [] => true
  | cidr :: rest => rest.all (!cidrOverlaps cidr ·) && disjointCidrs rest

def cidrsAreNonOverlapping (values : List Utf8) : Bool :=
  match values.mapM fun value => parseCidr (characters value) with
  | none => false
  | some cidrs => disjointCidrs cidrs

structure TunnelDeviceFacts where
  interfaceName : Utf8
  mtu : UInt16
  hasIpv4 : Bool
  hasIpv6 : Bool
  instanceId : Utf8
  operationId : Utf8
  deriving DecidableEq, Repr

def TunnelDeviceFacts.validate (facts : TunnelDeviceFacts)
    (instanceId operationId : Utf8) : Except NetworkErrorCode Unit :=
  if facts.mtu ≠ 1420 || facts.instanceId ≠ instanceId ||
      facts.operationId ≠ operationId then
    .error .authenticationFailed
  else if !validUtunInterface facts.interfaceName then
    .error .authenticationFailed
  else
    .ok ()

def tunnelSupportsCidr (tunnel : TunnelDeviceFacts) (cidr : Utf8) : Bool :=
  match (parseCidr (characters cidr)).map Prod.fst with
  | some (.v4 _) => tunnel.hasIpv4
  | some (.v6 _) => tunnel.hasIpv6
  | none => false

def validMihomoInterfaces (values : List Utf8) : Bool :=
  values.length ≤ maxMihomoTunInterfaces && decide values.Nodup &&
    (values.zip values.tail).all (fun (left, right) => left < right) &&
    values.all validUtunInterface

structure RouteLeaseOwner where
  protocolVersion : UInt8
  leaseId : Utf8
  operationId : Utf8
  sidecarInstanceId : Utf8
  profileRevision : UInt64
  tunnel : TunnelDeviceFacts
  activeMihomoTunInterfaces : List Utf8
  privateCidrs : List Utf8
  deriving DecidableEq, Repr

def prepareSuffix : Utf8 := [46, 112, 114, 101, 112, 97, 114, 101]

/-- The condition of `RouteLeaseOwner::validate`, negated. -/
def RouteLeaseOwner.wellFormed (owner : RouteLeaseOwner) : Bool :=
  owner.protocolVersion = routeHelperProtocolVersion &&
    validIpcID owner.leaseId && validIpcID owner.operationId &&
    validIpcID owner.sidecarInstanceId &&
    owner.profileRevision ≠ 0 && owner.profileRevision ≤ int64Max &&
    !owner.privateCidrs.isEmpty && owner.privateCidrs.length ≤ 64 &&
    decide owner.privateCidrs.Nodup &&
    owner.privateCidrs.all (fun cidr =>
      (parseCidr (characters cidr)).isSome) &&
    owner.privateCidrs.all (tunnelSupportsCidr owner.tunnel) &&
    validUtunInterface owner.tunnel.interfaceName &&
    validMihomoInterfaces owner.activeMihomoTunInterfaces &&
    !owner.activeMihomoTunInterfaces.contains owner.tunnel.interfaceName &&
    cidrsAreNonOverlapping owner.privateCidrs

def RouteLeaseOwner.validate (owner : RouteLeaseOwner) :
    Except NetworkErrorCode Unit :=
  if !owner.wellFormed then
    .error .invalidConfiguration
  else
    owner.tunnel.validate owner.sidecarInstanceId
      (owner.operationId ++ prepareSuffix)

inductive RouteLeaseContractError where
  | unsupportedProtocolVersion
  | invalidConfiguration
  | ownershipMismatch
  | recoveryOnly
  | replayDetected
  | invalidStateTransition
  deriving DecidableEq, Repr

def RouteLeaseContractError.fromNetworkError :
    NetworkErrorCode → RouteLeaseContractError
  | .unsupportedProtocolVersion => .unsupportedProtocolVersion
  | .authenticationFailed | .policySignatureInvalid => .ownershipMismatch
  | .invalidStateTransition => .invalidStateTransition
  | _ => .invalidConfiguration

structure RouteLeaseBinding where
  brokerProtocolVersion : UInt8
  brokerGeneration : UInt64
  sidecarInstanceId : Utf8
  leaseId : Utf8
  operationId : Utf8
  deriving DecidableEq, Repr

/-- `RouteLeaseBinding::validate`, with the one of the broker's session. -/
def RouteLeaseBinding.validate (binding : RouteLeaseBinding) :
    Except RouteLeaseContractError Unit :=
  if binding.brokerProtocolVersion ≠ routeBrokerProtocolVersion ||
      binding.brokerGeneration = 0 || int64Max < binding.brokerGeneration ||
      !validIpcID binding.sidecarInstanceId then
    .error .invalidConfiguration
  else if !validIpcID binding.leaseId || !validIpcID binding.operationId then
    .error .invalidConfiguration
  else
    .ok ()

structure RouteLeaseOwnerV3 where
  protocolVersion : UInt8
  brokerProtocolVersion : UInt8
  brokerGeneration : UInt64
  sidecarInstanceId : Utf8
  leaseId : Utf8
  operationId : Utf8
  profileRevision : UInt64
  tunnel : TunnelDeviceFacts
  activeMihomoTunInterfaces : List Utf8
  privateCidrs : List Utf8
  deriving DecidableEq, Repr

namespace RouteLeaseOwnerV3

def binding (owner : RouteLeaseOwnerV3) : RouteLeaseBinding where
  brokerProtocolVersion := owner.brokerProtocolVersion
  brokerGeneration := owner.brokerGeneration
  sidecarInstanceId := owner.sidecarInstanceId
  leaseId := owner.leaseId
  operationId := owner.operationId

/-- The owner whose checks `validate` reuses. -/
def legacyOwner (owner : RouteLeaseOwnerV3) : RouteLeaseOwner where
  protocolVersion := routeHelperProtocolVersion
  leaseId := owner.leaseId
  operationId := owner.operationId
  sidecarInstanceId := owner.sidecarInstanceId
  profileRevision := owner.profileRevision
  tunnel := owner.tunnel
  activeMihomoTunInterfaces := owner.activeMihomoTunInterfaces
  privateCidrs := owner.privateCidrs

def validate (owner : RouteLeaseOwnerV3) :
    Except RouteLeaseContractError Unit :=
  if owner.protocolVersion ≠ routeHelperV3ProtocolVersion then
    .error (if owner.protocolVersion = routeHelperProtocolVersion then
      .recoveryOnly else .unsupportedProtocolVersion)
  else
    match owner.binding.validate with
    | .error reason => .error reason
    | .ok () =>
      match owner.legacyOwner.validate with
      | .error error => .error (.fromNetworkError error)
      | .ok () =>
        if owner.tunnel.instanceId ≠ owner.sidecarInstanceId then
          .error .ownershipMismatch
        else
          .ok ()

end RouteLeaseOwnerV3

end KyClash.Networking
