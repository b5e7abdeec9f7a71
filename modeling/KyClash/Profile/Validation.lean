import KyClash.Networking.RouteOwner

/-!
# Validation of a network profile

`NetworkProfile::validate` of `networking/config.rs`, which the application
runs when it verifies a policy.  The parsers of the crates `url` and `base64`
are parameters.
-/

namespace KyClash.Profile

open Ipc (validProfileID)
open Networking (Utf8 characters parseU8)
open ProfileV2 (IpAddr)
open Texts (Text)

structure TransportEndpoint where
  transport : TransportKind
  url : Utf8
  deriving DecidableEq, Repr

/-- `NetworkProfile`, with its parts in one record. -/
structure NetworkProfile where
  schemaVersion : UInt8
  profileId : Utf8
  controlPlane : Utf8
  identityRef : Utf8
  siteId : Utf8
  displayName : Utf8
  privateCidrs : List Utf8
  localAddresses : List Utf8
  peerPublicKey : Utf8
  keepaliveSeconds : UInt16
  primary : TransportKind
  fallbacks : List TransportKind
  endpoints : List TransportEndpoint
  connectTimeoutSeconds : UInt16
  healthIntervalSeconds : UInt16
  fallbackThreshold : UInt8
  deriving DecidableEq, Repr

/-- What is asked of a parsed `url::Url`. -/
structure Url where
  scheme : Utf8
  username : Utf8
  password : Option Utf8
  host : Option Utf8
  port : Option Nat
  path : Utf8
  query : Option Utf8
  fragment : Option Utf8
  deriving DecidableEq, Repr

structure Libraries where
  parseUrl : Utf8 → Option Url
  decodeBase64 : Utf8 → Option Utf8

def networkSchemaVersion : UInt8 := 1

def https : Utf8 := [104, 116, 116, 112, 115]

def keychain : Utf8 := [107, 101, 121, 99, 104, 97, 105, 110, 58]

/-- The scheme of an endpoint: "https", "wss" or "tcp". -/
def endpointScheme : TransportKind → Utf8
  | .quic => https
  | .wss => [119, 115, 115]
  | .tcp => [116, 99, 112]

def isRoot (path : Utf8) : Bool := path = [] || path = [47]

/-- `valid_id` after "keychain:". -/
def validIdentityRef (value : Utf8) : Bool :=
  keychain.isPrefixOf value && validProfileID (value.drop keychain.length)

/-- The network that `valid_cidr` reads. -/
def readCidr (value : Text) : Option (IpAddr × Nat) := do
  let (address, number) ← Texts.cutLast '/' value
  let address ← ProfileV2.Rust.parseIpAddr address
  let bits ← parseU8 number
  if bits ≤ address.width then some (address, bits) else none

def validUniqueCidrs (values : List Utf8) : Bool :=
  !values.isEmpty && decide values.Nodup &&
    values.all fun value => (readCidr (characters value)).isSome

section

variable (libraries : Libraries)

def validEndpointUrl (transport : TransportKind) (url : Url) : Bool :=
  url.scheme = endpointScheme transport && url.username = [] &&
    url.password.isNone && url.query.isNone && url.fragment.isNone &&
    url.host.isSome && (transport ≠ .tcp || url.port.isSome) &&
    (transport = .wss || isRoot url.path)

/-- The checks of `transports.endpoints` against the configured ones. -/
def validEndpoints (configured : List TransportKind)
    (endpoints : List TransportEndpoint) : Bool :=
  let transports := endpoints.map TransportEndpoint.transport
  decide transports.Nodup && transports.all configured.contains &&
    configured.all transports.contains &&
    endpoints.all fun endpoint =>
      configured.contains endpoint.transport &&
        (libraries.parseUrl endpoint.url).any
          (validEndpointUrl endpoint.transport)

def NetworkProfile.validate (profile : NetworkProfile) :
    Except NetworkErrorCode Unit :=
  if profile.schemaVersion ≠ networkSchemaVersion then
    .error .unsupportedSchemaVersion
  else if !validProfileID profile.profileId ||
      !validIdentityRef profile.identityRef ||
      !validProfileID profile.siteId then
    .error .invalidConfiguration
  else if !(libraries.parseUrl profile.controlPlane).any fun url =>
      url.scheme = https && url.username = [] && url.password.isNone &&
        url.fragment.isNone then
    .error .invalidConfiguration
  else if profile.displayName = [] || !validUniqueCidrs profile.privateCidrs ||
      !validUniqueCidrs profile.localAddresses ||
      !(libraries.decodeBase64 profile.peerPublicKey).any (·.length = 32) ||
      profile.keepaliveSeconds = 0 then
    .error .invalidConfiguration
  else if profile.primary ≠ .quic || profile.endpoints.isEmpty ||
      profile.fallbacks.contains .quic || !decide profile.fallbacks.Nodup then
    .error .invalidConfiguration
  else if !validEndpoints libraries (profile.primary :: profile.fallbacks)
      profile.endpoints then
    .error .invalidConfiguration
  else if profile.connectTimeoutSeconds = 0 ||
      profile.healthIntervalSeconds = 0 || profile.fallbackThreshold = 0 then
    .error .invalidConfiguration
  else
    .ok ()

end

end KyClash.Profile
