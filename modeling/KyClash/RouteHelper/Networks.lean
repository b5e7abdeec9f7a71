import KyClash.Networking.RouteOwner
import KyClash.RouteHelper.Journal

/-!
# Networks in the route helper

How `route-helper/main.swift` reads a CIDR text, which texts it calls valid,
and when two networks overlap; with them the owner of a v2 lease.

The addresses themselves are read and written by the C library, which is a
parameter.  Foundation trims white space by character; here a text is its
UTF-8 bytes, each as one character.
-/

namespace KyClash.RouteHelper

open Networking (characters)
open TunnelBroker (Identifier validIdentifier int64Max)

/-- Texts, as characters. -/
abbrev Chars := List Char

/-- `whitespacesAndNewlines`, each as its UTF-8 bytes. -/
def whitespacesAndNewlines : List Chars :=
  ([[9], [10], [11], [12], [13], [32], [0xc2, 0x85], [0xc2, 0xa0],
    [0xe1, 0x9a, 0x80], [0xe2, 0x80, 0x80], [0xe2, 0x80, 0x81],
    [0xe2, 0x80, 0x82], [0xe2, 0x80, 0x83], [0xe2, 0x80, 0x84],
    [0xe2, 0x80, 0x85], [0xe2, 0x80, 0x86], [0xe2, 0x80, 0x87],
    [0xe2, 0x80, 0x88], [0xe2, 0x80, 0x89], [0xe2, 0x80, 0x8a],
    [0xe2, 0x80, 0xa8], [0xe2, 0x80, 0xa9], [0xe2, 0x80, 0xaf],
    [0xe2, 0x81, 0x9f], [0xe3, 0x80, 0x80]] : List Text).map characters

/-- The text after the blanks at its start. -/
def trimStart (blanks : List Chars) : Nat → Chars → Chars
  | 0, text => text
  | fuel + 1, text =>
    match blanks.find? (·.isPrefixOf text) with
    | none => text
    | some blank => trimStart blanks fuel (text.drop blank.length)

/-- `trimmingCharacters(in: .whitespacesAndNewlines)`. -/
def trimmed (text : Chars) : Chars :=
  let left := trimStart whitespacesAndNewlines text.length text
  (trimStart (whitespacesAndNewlines.map List.reverse) left.length
    left.reverse).reverse

/-- `Int(_:)` of a text. -/
def int : Chars → Option Int := Texts.parseInteger (-(2 ^ 63)) (2 ^ 63 - 1)

/-- `UInt8(_:)` of a text. -/
def uint8 : Chars → Option Int := Texts.parseInteger 0 255

/-- The first piece of a text cut at `%`, where empty pieces are left out. -/
def beforeZone (text : Chars) : Chars :=
  let piece := (text.dropWhile (· = '%')).takeWhile (· ≠ '%')
  if piece = [] then text else piece

/-- `inet_pton` and `inet_ntop` for the two families. -/
structure Libc where
  inetPton4 : Chars → Option (List.Vector UInt8 4)
  inetPton6 : Chars → Option (List.Vector UInt8 16)
  inetNtop4 : List.Vector UInt8 4 → Chars
  inetNtop6 : List.Vector UInt8 16 → Chars

structure ParsedRouteNetwork where
  bytes : List UInt8
  bits : Nat
  ipv4 : Bool
  deriving DecidableEq, Repr

/-- The number of leading bits is at most the width of the family. -/
def boundedNetwork (bytes : List UInt8) (bits : Int) (width : Nat)
    (ipv4 : Bool) : Option ParsedRouteNetwork :=
  if 0 ≤ bits && bits ≤ width then some ⟨bytes, bits.toNat, ipv4⟩ else none

section Library

variable (libc : Libc)

/-- `parseRouteNetwork` after the text is cut at the slash. -/
def parseAddress (rawAddress : Chars) (explicitBits : Option Int) :
    Option ParsedRouteNetwork :=
  if ':' ∈ rawAddress then
    (libc.inetPton6 (beforeZone rawAddress)).bind fun value =>
      boundedNetwork value.toList (explicitBits.getD 128) 128 false
  else
    let octets := rawAddress.splitOn '.'
    if 4 < octets.length || octets.any (fun octet => (uint8 octet).isNone) then
      none
    else
      let padded := octets ++ List.replicate (4 - octets.length) ['0']
      (libc.inetPton4 (['.'].intercalate padded)).bind fun value =>
        boundedNetwork value.toList (explicitBits.getD (octets.length * 8))
          32 true

def parseRouteNetwork (rawValue : Chars) : Option ParsedRouteNetwork :=
  let raw := trimmed rawValue
  if raw = [] || raw = "default".toList then
    none
  else
    match raw.splitOn '/' with
    | [rawAddress] => parseAddress libc rawAddress none
    | [rawAddress, number] =>
      (int number).bind fun bits => parseAddress libc rawAddress (some bits)
    | _ => none

def networksOverlap (lhs rhs : ParsedRouteNetwork) : Bool :=
  lhs.ipv4 = rhs.ipv4 && lhs.bytes.length = rhs.bytes.length &&
    LeadingBits.agreeOn (min lhs.bits rhs.bits) lhs.bytes rhs.bytes

def isCanonicalNetwork (network : ParsedRouteNetwork) : Bool :=
  network.bits ≤ (if network.ipv4 then 32 else 128) &&
    LeadingBits.clearAfter network.bits network.bytes

def canonicalAddressString (network : ParsedRouteNetwork) : Option Chars :=
  if network.ipv4 then
    (ProfileV2.exactly 4 network.bytes).map libc.inetNtop4
  else
    (ProfileV2.exactly 16 network.bytes).map libc.inetNtop6

/-- Everything from 224.0.0.0 on counts as multicast. -/
def isUnspecifiedOrMulticast (network : ParsedRouteNetwork) : Bool :=
  network.bytes.all (· = 0) || network.bytes.head?.any fun first =>
      if network.ipv4 then 224 ≤ first else first = 255

def validCIDR (value : Chars) : Bool :=
  match value.splitOn '/' with
  | [address, number] =>
    address ≠ [] && number ≠ [] && value = trimmed value &&
      !value.contains '%' && number.all Texts.isDecimal &&
      (number.length = 1 || number.head? ≠ some '0') &&
      (uint8 number).isSome &&
      match parseRouteNetwork libc value with
      | none => false
      | some network =>
        0 < network.bits && isCanonicalNetwork network &&
          !isUnspecifiedOrMulticast network &&
          canonicalAddressString libc network = some address &&
          Nat.toDigits 10 network.bits = number
  | _ => false

/-- What the owners ask about a CIDR text. -/
def routeRules : RouteRules where
  validCIDR text := validCIDR libc (characters text)
  ipv4 text :=
    (parseRouteNetwork libc (characters text)).map ParsedRouteNetwork.ipv4
  overlap left right :=
    match parseRouteNetwork libc (characters left),
      parseRouteNetwork libc (characters right) with
    | some lhs, some rhs => networksOverlap lhs rhs
    | _, _ => false

end Library

def protocolVersion : UInt8 := 2

structure LeaseReference where
  version : UInt8
  leaseID : Identifier
  operationID : Identifier
  deriving DecidableEq, Repr

def LeaseReference.isValid (reference : LeaseReference) : Bool :=
  reference.version = protocolVersion && validIdentifier reference.leaseID &&
    validIdentifier reference.operationID

structure LeaseOwner where
  reference : LeaseReference
  sidecarInstanceID : Identifier
  interfaceName : Text
  tunnelOperationID : Text
  mtu : UInt16
  profileRevision : UInt64
  hasIPv4 : Bool
  hasIPv6 : Bool
  activeMihomoTunInterfaces : List Text
  privateCIDRs : List Text
  deriving DecidableEq, Repr

def LeaseOwner.isValid (rules : RouteRules) (owner : LeaseOwner) : Bool :=
  owner.reference.isValid && validIdentifier owner.sidecarInstanceID &&
    validUtunInterface owner.interfaceName &&
    owner.tunnelOperationID = owner.reference.operationID ++ prepareSuffix &&
    owner.mtu = 1420 &&
    0 < owner.profileRevision && owner.profileRevision ≤ int64Max &&
    owner.activeMihomoTunInterfaces.length ≤ maximumMihomoInterfaces &&
    owner.activeMihomoTunInterfaces.Nodup &&
    owner.activeMihomoTunInterfaces.Pairwise (· ≤ ·) &&
    owner.activeMihomoTunInterfaces.all validUtunInterface &&
    !owner.activeMihomoTunInterfaces.contains owner.interfaceName &&
    !owner.privateCIDRs.isEmpty && owner.privateCIDRs.length ≤ 64 &&
    owner.privateCIDRs.Nodup &&
    owner.privateCIDRs.all rules.validCIDR &&
    owner.privateCIDRs.all (fun cidr =>
      match rules.ipv4 cidr with
      | none => false
      | some true => owner.hasIPv4
      | some false => owner.hasIPv6) &&
    privateCIDRsAreDisjoint rules owner.privateCIDRs

end KyClash.RouteHelper
