import KyClash.Data.Text
import Mathlib.Data.Vector.Basic

/-!
# Texts of addresses

How Rust writes and reads an address, in its standard library (`core::net`).
-/

namespace KyClash.ProfileV2

open Texts

inductive IpAddr where
  | v4 (octets : List.Vector UInt8 4)
  | v6 (segments : List.Vector UInt16 8)
  deriving DecidableEq

/-- A list of the given length. -/
def exactly {α : Type} (length : Nat) (list : List α) :
    Option (List.Vector α length) :=
  if same : list.length = length then some ⟨list, same⟩ else none

def decimal (n : Nat) : Text := Nat.toDigits 10 n

def hexadecimal (n : Nat) : Text := Nat.toDigits 16 n

def dotted (octets : List Nat) : Text :=
  ['.'].intercalate (octets.map decimal)

def colons (groups : List Nat) : Text :=
  [':'].intercalate (groups.map hexadecimal)

/-- Consecutive groups of an address. -/
structure Span where
  start : Nat
  len : Nat
  deriving DecidableEq, Repr

/-- The groups with `::` in place of a span. -/
def compressed (groups : List Nat) (span : Span) : Text :=
  colons (groups.take span.start) ++ [':', ':'] ++
    colons (groups.drop (span.start + span.len))

def mappedOctets : List Nat → Option (List Nat)
  | [0, 0, 0, 0, 0, 0xffff, high, low] =>
    some [high / 256, high % 256, low / 256, low % 256]
  | _ => none

def embeddedGroups : List UInt8 → List UInt16
  | [one, two, three, four] =>
    [.ofNat (one.toNat * 256 + two.toNat),
      .ofNat (three.toNat * 256 + four.toNat)]
  | _ => []

namespace Rust

/-- The longest zeros in `Display` of `Ipv6Addr`; `zeros` says which groups
are zero. -/
def zeroes (index : Nat) (longest current : Span) : List Bool → Span
  | [] => longest
  | zero :: rest =>
    if zero then
      let current : Span := {
        start := if current.len = 0 then index else current.start
        len := current.len + 1 }
      zeroes (index + 1) (if longest.len < current.len then current
        else longest) current rest
    else
      zeroes (index + 1) longest ⟨0, 0⟩ rest

def displayIpv6 (groups : List Nat) : Text :=
  match mappedOctets groups with
  | some octets => "::ffff:".toList ++ dotted octets
  | none =>
    let span := zeroes 0 ⟨0, 0⟩ ⟨0, 0⟩ (groups.map (· = 0))
    if 1 < span.len then compressed groups span else colons groups

def display : IpAddr → Text
  | .v4 octets => dotted (octets.toList.map UInt8.toNat)
  | .v6 segments => displayIpv6 (segments.toList.map UInt16.toNat)

/-- `Parser::read_number` with a limit on the digits and on the value. -/
def readNumber (radix maxDigits limit : Nat) (allowZeroStart : Bool)
    (text : Text) : Option (Nat × Text) :=
  let digits := text.takeWhile (isDigit radix)
  if digits = [] || maxDigits < digits.length then
    none
  else if !allowZeroStart && digits.head? = some '0' && 1 < digits.length then
    none
  else if limit ≤ numeralValue radix digits then
    none
  else
    some (numeralValue radix digits, text.dropWhile (isDigit radix))

def readSeparator {α : Type} (separator : Char) (index : Nat)
    (inner : Text → Option (α × Text)) (text : Text) : Option (α × Text) :=
  if index = 0 then
    inner text
  else
    match text with
    | [] => none
    | c :: rest => if c = separator then inner rest else none

/-- The loop of `Parser::read_ipv4_addr`. -/
def readOctets (index : Nat) : Nat → Text → Option (List UInt8 × Text)
  | 0, text => some ([], text)
  | remaining + 1, text =>
    match readSeparator '.' index (readNumber 10 3 256 false) text with
    | none => none
    | some (octet, rest) =>
      match readOctets (index + 1) remaining rest with
      | none => none
      | some (octets, rest) => some (.ofNat octet :: octets, rest)

def readIpv4Addr (text : Text) : Option (List UInt8 × Text) :=
  readOctets 0 4 text

/-- An embedded IPv4 address takes two groups. -/
def readEmbedded (index remaining : Nat) (text : Text) :
    Option (List UInt8 × Text) :=
  if 0 < remaining then readSeparator ':' index readIpv4Addr text else none

/-- `read_groups`: the groups, whether the last two are an IPv4 address, and
the rest. -/
def readGroups (index : Nat) : Nat → Text → List UInt16 × Bool × Text
  | 0, text => ([], false, text)
  | remaining + 1, text =>
    match readEmbedded index remaining text with
    | some (octets, rest) => (embeddedGroups octets, true, rest)
    | none =>
      match readSeparator ':' index (readNumber 16 4 65536 true) text with
      | none => ([], false, text)
      | some (group, rest) =>
        let later := readGroups (index + 1) remaining rest
        (.ofNat group :: later.1, later.2)

def readIpv6Addr (text : Text) : Option (List UInt16 × Text) :=
  let (head, embedded, rest) := readGroups 0 8 text
  if head.length = 8 then
    some (head, rest)
  else if embedded then
    none
  else
    match rest with
    | ':' :: ':' :: rest =>
      let (tail, _, rest) := readGroups 0 (8 - (head.length + 1)) rest
      some (head ++ List.replicate (8 - head.length - tail.length) 0 ++
        tail, rest)
    | _ => none

/-- `IpAddr::from_str`. -/
def parseIpAddr (text : Text) : Option IpAddr :=
  match readIpv4Addr text with
  | some (octets, rest) =>
    if rest = [] then (exactly 4 octets).map .v4 else none
  | none =>
    match readIpv6Addr text with
    | some (segments, rest) =>
      if rest = [] then (exactly 8 segments).map .v6 else none
    | none => none

end Rust

end KyClash.ProfileV2
