import KyClash.Networking.CidrTexts
import KyClash.ProfileV2.AddressReaders
import KyClash.RouteHelper.Networks
import Mathlib.Data.List.TakeWhile

/-!
# Owners that the application and the helper accept

The application validates a lease owner in Rust before it sends it, and the
privileged helper validates it again in Swift.  The two read a network of an
accepted owner alike, but the helper also wants it written canonically, and
its multicast addresses include those from 240.0.0.0 on.
-/

namespace KyClash.RouteHelper

open LeadingBits (agreeOn clearAfter)
open Networking (ascii characters parseCidr parseCidr_spec ReadAs parseU8
  parseU8_spec RouteLeaseOwner RouteLeaseOwnerV3)
open TunnelBroker (validIdentifier)
open ProfileV2 (IpAddr)
open ProfileV2.Rust (Run addressCharacter parseIpAddr parseIpAddr_characters
  parseIpAddr_v4 parseIpAddr_v6 parseInteger_of_run)
open Texts (numeralValue)

private theorem trimStart_eq_self {blanks : List Chars} {text : Chars}
    (nonempty : ∀ blank ∈ blanks, blank ≠ [])
    (plain : ∀ c ∈ text, ∀ blank ∈ blanks, c ∉ blank) (fuel : Nat) :
    trimStart blanks fuel text = text := by
  cases fuel with
  | zero => rfl
  | succ fuel =>
    have none : blanks.find? (·.isPrefixOf text) = none := by
      rw [List.find?_eq_none]
      intro blank member starts
      obtain ⟨rest, rfl⟩ := List.isPrefixOf_iff_prefix.mp starts
      cases blank with
      | nil => exact nonempty [] member rfl
      | cons c blank => exact plain c (by simp) _ member List.mem_cons_self
    rw [trimStart, none]

private theorem blank_range :
    ∀ blank ∈ whitespacesAndNewlines, ∀ c ∈ blank, c.toNat < 33 ∨
      127 < c.toNat := by
  have checked : (whitespacesAndNewlines.all fun blank => blank.all fun c =>
      decide (c.toNat < 33 ∨ 127 < c.toNat)) = true := by decide
  intro blank member c inside
  have every := List.all_eq_true.mp checked blank member
  exact of_decide_eq_true (List.all_eq_true.mp every c inside)

private theorem trimmed_eq_self {text : Chars}
    (visible : ∀ c ∈ text, 33 ≤ c.toNat ∧ c.toNat ≤ 127) :
    trimmed text = text := by
  have plain : ∀ c ∈ text, ∀ blank ∈ whitespacesAndNewlines, c ∉ blank := by
    intro c member blank inside found
    have range := blank_range blank inside c found
    have seen := visible c member
    omega
  have left : trimStart whitespacesAndNewlines text.length text = text :=
    trimStart_eq_self (by decide) plain _
  unfold trimmed
  simp only [left]
  rw [trimStart_eq_self, List.reverse_reverse]
  · decide
  · intro c member blank inside found
    obtain ⟨forward, listed, rfl⟩ := List.mem_map.mp inside
    exact plain c (List.mem_reverse.mp member) forward listed
      (List.mem_reverse.mp found)

private theorem addressCharacter_range {c : Char}
    (character : addressCharacter c = true) :
    c.toNat = 46 ∨ (48 ≤ c.toNat ∧ c.toNat ≤ 102) := by
  simp only [addressCharacter, Texts.isDigit, Bool.or_eq_true,
    decide_eq_true_eq] at character
  rcases character with (digit | rfl) | rfl
  · unfold Texts.digitValue at digit
    split_ifs at digit with decimal lower upper
    · have range := Texts.inRange_eq_true.mp decimal
      simp only [Char.reduceToNat] at range
      omega
    · have range := Texts.inRange_eq_true.mp lower
      simp only [Char.reduceToNat] at range
      omega
    · have range := Texts.inRange_eq_true.mp upper
      simp only [Char.reduceToNat] at range
      omega
    · cases digit
  · exact .inl rfl
  · exact .inr (by decide)

/-- `inet_pton` reads what Rust's parser reads, as the same address. -/
structure Libc.ReadsRust (libc : Libc) : Prop where
  inetPton4 : ∀ {text octets}, parseIpAddr text = some (.v4 octets) →
    libc.inetPton4 text = some octets
  inetPton6 : ∀ {text segments}, parseIpAddr text = some (.v6 segments) →
    (libc.inetPton6 text).map List.Vector.toList =
      some (IpAddr.v6 segments).octets

section Library

variable {libc : Libc} {bits : Nat} {text : Chars} {address : IpAddr}
  {value number : Chars} {networks : List (IpAddr × Nat)}
  {owner : RouteLeaseOwner} {cidr : Text}

private theorem boundedNetwork_of_le {bytes : List UInt8} {width : Nat}
    (fits : bits ≤ width) (ipv4 : Bool) :
    boundedNetwork bytes bits width ipv4 = some ⟨bytes, bits, ipv4⟩ := by
  have bounded : (bits : Int) ≤ width := Int.ofNat_le.mpr fits
  simp [boundedNetwork, bounded]

private theorem beforeZone_eq_self (absent : '%' ∉ text) :
    beforeZone text = text := by
  have outside : ∀ c ∈ text, c ≠ '%' := fun c member same =>
    absent (same ▸ member)
  have kept : (text.dropWhile (· = '%')).takeWhile (· ≠ '%') = text := by
    cases text with
    | nil => rfl
    | cons c rest =>
      have first := outside c List.mem_cons_self
      rw [List.dropWhile_cons_of_neg (by simpa using first)]
      simpa using outside
  simp only [beforeZone, kept]
  exact ite_self text

private theorem parseAddress_of_parseIpAddr (lawful : libc.ReadsRust)
    (parsed : parseIpAddr text = some address) (fits : bits ≤ address.width) :
    parseAddress libc text (some bits) =
      some ⟨address.octets, bits, address.isIpv4⟩ := by
  cases address with
  | v4 octets =>
    obtain ⟨pieces, four, shape, rfl⟩ := parseIpAddr_v4 parsed
    have outside {c : Char} (other : Texts.isDigit 10 c = false) : ∀ piece ∈
        pieces, c ∉ piece := by
      intro piece member inside
      have digit := (shape.runs piece member).digits c inside
      rw [other] at digit
      cases digit
    have plain : ∀ c ∈ ['.'].intercalate pieces, c ≠ ':' :=
      Texts.forall_mem_intercalate (by decide) fun piece member c inside same =>
        outside (by decide) piece member (same ▸ inside)
    have colon : ':' ∉ ['.'].intercalate pieces :=
      fun member => plain ':' member rfl
    have pieced : (['.'].intercalate pieces).splitOn '.' = pieces := by
      apply List.splitOn_intercalate
      · exact outside (by decide)
      · rintro rfl
        cases four
    have octet : pieces.any (fun octet => (uint8 octet).isNone) = false := by
      rw [List.any_eq_false]
      intro piece member
      have octet := shape.runs piece member
      have small := octet.small
      have read : uint8 ([] ++ piece) = some (numeralValue 10 piece : Int) :=
        parseInteger_of_run (.inl rfl) octet.toRun (by omega) (by omega)
      rw [List.nil_append] at read
      simp [read]
    rw [parseAddress, if_neg colon]
    simp only [pieced, octet, four]
    simp only [Bool.or_false, Nat.lt_irrefl, decide_false,
      Bool.false_eq_true, if_false, Nat.sub_self, List.replicate_zero,
      List.append_nil, lawful.inetPton4 parsed, Option.bind_some,
      Option.getD_some]
    exact boundedNetwork_of_le fits true
  | v6 segments =>
    have zone : '%' ∉ text := by
      intro member
      exact absurd (parseIpAddr_characters parsed '%' member) (by decide)
    obtain ⟨value, read, same⟩ :=
      Option.map_eq_some_iff.mp (lawful.inetPton6 parsed)
    rw [parseAddress, if_pos (parseIpAddr_v6 parsed),
      beforeZone_eq_self zone, read]
    simp only [Option.bind_some, Option.getD_some]
    rw [same]
    exact boundedNetwork_of_le fits false

theorem mem_of_parseU8 {c : Char} (counted : parseU8 number = some bits)
    (member : c ∈ number) : c = '+' ∨ Texts.isDigit 10 c = true := by
  obtain ⟨sign, digits, signed, rfl, run, -⟩ := parseU8_spec counted
  rcases List.mem_append.mp member with inside | inside
  · rcases signed with rfl | rfl
    · cases inside
    · exact .inl (List.mem_singleton.mp inside)
  · exact .inr (run.digits c inside)

theorem slash_not_mem_of_parseU8 (counted : parseU8 number = some bits) :
    '/' ∉ number := by
  intro member
  rcases mem_of_parseU8 counted member with same | digit
  · exact absurd same (by decide)
  · exact absurd digit (by decide)

section

variable (read : ReadAs value address bits text number)
include read

theorem visible_of_parseCidr :
    ∀ c ∈ value, 33 ≤ c.toNat ∧ c.toNat ≤ 127 ∧ c ≠ '%' := by
  have visible {c : Char} (character : addressCharacter c = true) :
      33 ≤ c.toNat ∧ c.toNat ≤ 127 ∧ c ≠ '%' := by
    have range := addressCharacter_range character
    refine ⟨by omega, by omega, ?_⟩
    rintro rfl
    cases character
  intro c member
  rw [read.split] at member
  rcases List.mem_append.mp member with inside | inside
  · exact visible (parseIpAddr_characters read.parsed c inside)
  rcases List.mem_cons.mp inside with rfl | inside
  · decide
  rcases mem_of_parseU8 read.counted inside with rfl | digit
  · decide
  · exact visible (ProfileV2.Rust.addressCharacter_of_isDigit (by decide) digit)

theorem trimmed_of_parseCidr : trimmed value = value :=
  trimmed_eq_self fun c member =>
    have visible := visible_of_parseCidr read c member
    ⟨visible.1, visible.2.1⟩

/-- The helper cuts the text where the application does. -/
theorem splitOn_of_parseCidr : value.splitOn '/' = [text, number] := by
  rw [read.split, List.splitOn_append_cons_self_of_not_mem read.unslashed,
    List.splitOn_eq_singleton (slash_not_mem_of_parseU8 read.counted)]

end

theorem parseRouteNetwork_of_parseCidr (lawful : libc.ReadsRust)
    (parsed : parseCidr value = some (address, bits)) :
    parseRouteNetwork libc value =
      some ⟨address.octets, bits, address.isIpv4⟩ := by
  obtain ⟨text, number, read⟩ := parseCidr_spec parsed
  have slash : '/' ∈ value := by simp [read.split]
  have named : ¬(value = [] ∨ value = "default".toList) := by
    rintro (rfl | rfl)
    · cases slash
    · revert slash
      decide
  have counted : int number = some (bits : Int) := by
    obtain ⟨sign, digits, signed, rfl, run, rfl, small⟩ :=
      parseU8_spec read.counted
    exact parseInteger_of_run signed run (by omega) (by omega)
  rw [parseRouteNetwork]
  simp only [trimmed_of_parseCidr read, Bool.or_eq_true, decide_eq_true_eq,
    if_neg named,
    splitOn_of_parseCidr read, counted, Option.bind_some]
  exact parseAddress_of_parseIpAddr lawful read.parsed read.fits

theorem octets_length_v6 (segments : List.Vector UInt16 8) :
    (IpAddr.v6 segments).octets.length = 16 := by
  have bits := Networking.octets_length (.v6 segments)
  change _ = 128 at bits
  omega

/-- `inet_ntop` of an address. -/
def Libc.inetNtop (libc : Libc) : IpAddr → Chars
  | .v4 octets => libc.inetNtop4 octets
  | .v6 segments =>
    libc.inetNtop6 ⟨(IpAddr.v6 segments).octets, octets_length_v6 segments⟩

/-- 240.0.0.0/4, which is not multicast. -/
def isReserved (address : IpAddr) : Bool :=
  address.isIpv4 && address.octets.head?.any (240 ≤ ·)

/-- A network as the helper would write it. -/
def Canonical (libc : Libc) (value : Chars) : Prop :=
  ∃ address bits, parseCidr value = some (address, bits) ∧
    value = libc.inetNtop address ++ '/' :: Nat.toDigits 10 bits ∧
    isReserved address = false

private theorem canonicalAddressString_eq (libc : Libc) (address : IpAddr)
    (bits : Nat) :
    canonicalAddressString libc ⟨address.octets, bits, address.isIpv4⟩ =
      some (libc.inetNtop address) := by
  cases address with
  | v4 octets =>
    have length : octets.toList.length = 4 := octets.toList_length
    change (ProfileV2.exactly 4 octets.toList).map libc.inetNtop4 = _
    rw [ProfileV2.exactly, dif_pos length]
    rfl
  | v6 segments =>
    change (ProfileV2.exactly 16 _).map libc.inetNtop6 = _
    rw [ProfileV2.exactly, dif_pos (octets_length_v6 segments)]
    rfl

/-- What the helper refuses beyond the application's multicast addresses. -/
theorem isUnspecifiedOrMulticast_eq (specified : address.isUnspecified = false)
    (unicast : address.isMulticast = false) :
    isUnspecifiedOrMulticast ⟨address.octets, bits, address.isIpv4⟩ =
      isReserved address := by
  unfold IpAddr.isUnspecified at specified
  unfold IpAddr.isMulticast at unicast
  unfold isUnspecifiedOrMulticast isReserved
  simp only [specified, Bool.false_or]
  cases found : address.octets.head? with
  | none => simp
  | some first =>
    rw [found] at unicast
    cases family : address.isIpv4 with
    | false => simpa [family] using unicast
    | true =>
      simp only [family, if_true, Option.any_some, Bool.and_eq_false_iff,
        decide_eq_false_iff_not, UInt8.le_iff_toNat_le] at unicast
      simp only [if_true, Option.any_some, Bool.true_and, decide_eq_decide,
        UInt8.le_iff_toNat_le]
      simp only [UInt8.reduceToNat] at unicast ⊢
      omega

section

variable (lawful : libc.ReadsRust)
include lawful

private theorem validCIDR_iff (parsed : parseCidr value = some (address, bits))
    (read : ReadAs value address bits text number) :
    validCIDR libc value = true ↔
      libc.inetNtop address = text ∧ Nat.toDigits 10 bits = number ∧
        isReserved address = false := by
  have unzoned : value.contains '%' = false := by
    rw [List.contains_eq_mem, decide_eq_false_iff_not]
    exact fun member => (visible_of_parseCidr read '%' member).2.2 rfl
  have named : text ≠ [] := by
    rintro rfl
    have unread : parseIpAddr [] = none := by decide
    exact absurd (unread.symm.trans read.parsed) (by simp)
  have positive : 0 < bits := Nat.pos_of_ne_zero read.positive
  have base : isCanonicalNetwork ⟨address.octets, bits, address.isIpv4⟩ =
      true := by
    have clear := Networking.isNetworkBase_eq read.fits
    rw [read.base] at clear
    simp only [isCanonicalNetwork, Bool.and_eq_true, decide_eq_true_eq]
    exact ⟨read.fits, clear.symm⟩
  simp only [validCIDR, splitOn_of_parseCidr read, trimmed_of_parseCidr read,
    unzoned,
    parseRouteNetwork_of_parseCidr lawful parsed, base,
    canonicalAddressString_eq,
    isUnspecifiedOrMulticast_eq read.specified read.unicast,
    Bool.and_eq_true, decide_eq_true_eq, Option.some.injEq, Bool.not_eq_true',
    decide_true, Bool.not_false, and_true, positive, true_and, ne_eq, named,
    not_false_eq_true]
  constructor
  · rintro ⟨-, ⟨unreserved, written⟩, numbered⟩
    exact ⟨written, numbered, unreserved⟩
  · rintro ⟨written, rfl, unreserved⟩
    have digits : Run 10 (Nat.toDigits 10 bits) :=
      ⟨Nat.toDigits_ne_nil, fun c =>
        Texts.isDigit_of_mem_toDigits (by decide) (by decide)⟩
    have value : numeralValue 10 (Nat.toDigits 10 bits) = bits :=
      Texts.numeralValue_toDigits (by decide) (by decide) bits
    have small : bits ≤ 128 := by
      have fits := read.fits
      unfold IpAddr.width at fits
      split at fits
      · omega
      · exact fits
    have fits : uint8 ([] ++ Nat.toDigits 10 bits) =
        some (numeralValue 10 (Nat.toDigits 10 bits) : Int) :=
      parseInteger_of_run (.inl rfl) digits (by omega) (by omega)
    refine ⟨⟨⟨⟨digits.nonempty, ?_⟩, ?_⟩, ?_⟩, ⟨unreserved, written⟩, rfl⟩
    · rw [List.all_eq_true]
      intro c member
      rw [← Texts.isDigit_ten]
      exact digits.digits c member
    · have unpadded : (Nat.toDigits 10 bits).head? ≠ some '0' := fun zero =>
        read.positive (Texts.head_toDigits (by decide) zero)
      simp [unpadded]
    · rw [List.nil_append] at fits
      rw [fits]
      rfl

private theorem validCIDR_iff_canonical
    (parsed : parseCidr value = some (address, bits)) :
    validCIDR libc value = true ↔ Canonical libc value := by
  obtain ⟨text, number, read⟩ := parseCidr_spec parsed
  rw [validCIDR_iff lawful parsed read]
  constructor
  · rintro ⟨rfl, rfl, unreserved⟩
    exact ⟨address, bits, parsed, read.split, unreserved⟩
  · rintro ⟨found, count, again, written, unreserved⟩
    obtain ⟨rfl, rfl⟩ := Prod.mk.inj (Option.some.inj (again.symm.trans parsed))
    have last : '/' ∉ Nat.toDigits 10 count := by
      intro member
      exact absurd
        (Texts.isDigit_of_mem_toDigits (by decide) (by decide) member)
        (by decide)
    have cut := Texts.cutLast_eq_some_iff.mpr ⟨written, last⟩
    have same :=
      Texts.cutLast_eq_some_iff.mpr
        ⟨read.split, slash_not_mem_of_parseU8 read.counted⟩
    rw [cut] at same
    obtain ⟨rfl, rfl⟩ := Prod.mk.inj (Option.some.inj same)
    exact ⟨rfl, rfl, unreserved⟩

private theorem overlap_eq {left right : Text} {leftNet rightNet : IpAddr × Nat}
    (leftParsed : parseCidr (characters left) = some leftNet)
    (rightParsed : parseCidr (characters right) = some rightNet) :
    (routeRules libc).overlap left right =
      Networking.cidrOverlaps leftNet rightNet := by
  obtain ⟨leftAddress, leftBits⟩ := leftNet
  obtain ⟨rightAddress, rightBits⟩ := rightNet
  obtain ⟨_, _, read⟩ := parseCidr_spec leftParsed
  simp only [routeRules, parseRouteNetwork_of_parseCidr lawful leftParsed,
    parseRouteNetwork_of_parseCidr lawful rightParsed, networksOverlap]
  rw [Networking.cidrOverlaps_eq read.fits]
  cases same : decide (leftAddress.isIpv4 = rightAddress.isIpv4) with
  | false => rfl
  | true =>
    have widths := Networking.octets_length leftAddress
    have others := Networking.octets_length rightAddress
    have family := of_decide_eq_true same
    have lengths : leftAddress.octets.length =
        rightAddress.octets.length := by
      unfold IpAddr.width at widths others
      rw [family] at widths
      omega
    simp [lengths]

theorem ipv4_eq (parsed : parseCidr (characters cidr) = some (address, bits)) :
    (routeRules libc).ipv4 cidr = some address.isIpv4 := by
  simp only [routeRules, parseRouteNetwork_of_parseCidr lawful parsed,
    Option.map_some]

end

private theorem all_overlap_eq (lawful : libc.ReadsRust)
    {network : IpAddr × Nat} {rest : List Text}
    (first : parseCidr (characters cidr) = some network)
    (parsed : rest.mapM (fun cidr => parseCidr (characters cidr)) =
      some networks) :
    rest.all
        (fun other => ((routeRules libc).ipv4 other).isSome &&
          !(routeRules libc).overlap cidr other) =
      networks.all (!Networking.cidrOverlaps network ·) := by
  induction rest generalizing networks with
  | nil =>
    obtain rfl := Option.some.inj parsed
    rfl
  | cons other rest ih =>
    rw [List.mapM_cons] at parsed
    obtain ⟨second, read, parsed⟩ := Option.bind_eq_some_iff.mp parsed
    obtain ⟨last, tail, parsed⟩ := Option.bind_eq_some_iff.mp parsed
    obtain rfl := Option.some.inj parsed
    rw [List.all_cons, List.all_cons, ih tail, overlap_eq lawful first read,
      ipv4_eq lawful read]
    simp

private theorem privateCIDRsAreDisjoint_eq (lawful : libc.ReadsRust)
    {cidrs : List Text}
    (parsed : cidrs.mapM (fun cidr => parseCidr (characters cidr)) =
      some networks) :
    privateCIDRsAreDisjoint (routeRules libc) cidrs =
      Networking.disjointCidrs networks := by
  induction cidrs generalizing networks with
  | nil =>
    obtain rfl := Option.some.inj parsed
    rfl
  | cons cidr rest ih =>
    rw [List.mapM_cons] at parsed
    obtain ⟨network, first, parsed⟩ := Option.bind_eq_some_iff.mp parsed
    obtain ⟨later, others, parsed⟩ := Option.bind_eq_some_iff.mp parsed
    obtain rfl := Option.some.inj parsed
    rw [privateCIDRsAreDisjoint, Networking.disjointCidrs,
      all_overlap_eq lawful first others, ih others, ipv4_eq lawful first]
    simp

/-- The owner as the helper receives it. -/
def leaseOwner (owner : RouteLeaseOwner) : LeaseOwner where
  reference := ⟨owner.protocolVersion, owner.leaseId, owner.operationId⟩
  sidecarInstanceID := owner.sidecarInstanceId
  interfaceName := owner.tunnel.interfaceName
  tunnelOperationID := owner.tunnel.operationId
  mtu := owner.tunnel.mtu
  profileRevision := owner.profileRevision
  hasIPv4 := owner.tunnel.hasIpv4
  hasIPv6 := owner.tunnel.hasIpv6
  activeMihomoTunInterfaces := owner.activeMihomoTunInterfaces
  privateCIDRs := owner.privateCidrs

/-- The v3 owner as the helper receives it. -/
def leaseOwnerV3 (owner : RouteLeaseOwnerV3) : LeaseOwnerV3 where
  reference := {
    protocolVersion := owner.protocolVersion
    brokerProtocolVersion := owner.brokerProtocolVersion
    brokerGeneration := owner.brokerGeneration
    sidecarInstanceID := owner.sidecarInstanceId
    leaseID := owner.leaseId
    operationID := owner.operationId }
  sidecarInstanceID := owner.sidecarInstanceId
  interfaceName := owner.tunnel.interfaceName
  tunnelOperationID := owner.tunnel.operationId
  mtu := owner.tunnel.mtu
  profileRevision := owner.profileRevision
  hasIPv4 := owner.tunnel.hasIpv4
  hasIPv6 := owner.tunnel.hasIpv6
  activeMihomoTunInterfaces := owner.activeMihomoTunInterfaces
  privateCIDRs := owner.privateCidrs

theorem validIdentifier_of_validIpcID {value : Text}
    (valid : Ipc.validIpcID value = true) : validIdentifier value = true := by
  simp only [Ipc.validIpcID, Bool.and_eq_true, decide_eq_true_eq] at valid
  obtain ⟨⟨⟨⟨⟨low, high⟩, -⟩, -⟩, -⟩, all⟩ := valid
  simp only [validIdentifier, Bool.and_eq_true, decide_eq_true_eq]
  refine ⟨⟨low, high⟩, ?_⟩
  rw [List.all_eq_true] at all ⊢
  intro byte member
  have shape := all byte member
  simp only [Sidecar.alphaNumeric, TunnelBroker.validIdentifierByte,
    Bool.or_eq_true] at shape ⊢
  tauto

private theorem validUtunInterface_of_ipc {value : Text}
    (valid : Ipc.validUtunInterface value = true) :
    validUtunInterface value = true := by
  simp only [Ipc.validUtunInterface, Bool.and_eq_true, decide_eq_true_eq,
    Bool.or_eq_true] at valid
  obtain ⟨⟨⟨⟨low, high⟩, start⟩, first⟩, digits⟩ := valid
  simp only [validUtunInterface, Bool.and_eq_true, decide_eq_true_eq,
    Bool.or_eq_true]
  refine ⟨⟨⟨⟨low, high⟩, start⟩, digits⟩, ?_⟩
  rcases first with five | other
  · left
    rw [List.length_drop]
    omega
  · right
    rw [List.head?_drop]
    exact other

private theorem validate_eq_ok (accepted : owner.validate = .ok ()) :
    owner.wellFormed = true ∧ owner.tunnel.mtu = 1420 ∧
      owner.tunnel.operationId =
        owner.operationId ++ Networking.prepareSuffix := by
  unfold RouteLeaseOwner.validate
    Networking.TunnelDeviceFacts.validate at accepted
  split_ifs at accepted with refused mismatch
  simp only [Bool.or_eq_true, decide_eq_true_eq, not_or, not_ne_iff] at mismatch
  obtain ⟨⟨mtu, -⟩, operation⟩ := mismatch
  exact ⟨by simpa using refused, mtu, operation⟩

private theorem families_of_supported (lawful : libc.ReadsRust)
    (network : ∀ cidr ∈ owner.privateCidrs, ∃ address bits,
      parseCidr (characters cidr) = .some (address, bits))
    (supported : owner.privateCidrs.all
      (Networking.tunnelSupportsCidr owner.tunnel) = true) :
    owner.privateCidrs.all (fun cidr =>
      match (routeRules libc).ipv4 cidr with
      | none => false
      | .some true => owner.tunnel.hasIpv4
      | .some false => owner.tunnel.hasIpv6) = true := by
  rw [List.all_eq_true] at supported ⊢
  intro cidr member
  obtain ⟨address, bits, found⟩ := network cidr member
  have family := supported cidr member
  rw [ipv4_eq lawful found]
  rw [Networking.tunnelSupportsCidr, found] at family
  cases address with
  | v4 | v6 => exact family

private theorem leaseOwner_isValid_iff (lawful : libc.ReadsRust)
    (accepted : owner.validate = .ok ()) :
    (leaseOwner owner).isValid (routeRules libc) = true ↔
      ∀ cidr ∈ owner.privateCidrs, Canonical libc (characters cidr) := by
  obtain ⟨formed, mtu, operation⟩ := validate_eq_ok accepted
  simp only [RouteLeaseOwner.wellFormed, Networking.validMihomoInterfaces,
    Bool.and_eq_true, decide_eq_true_eq] at formed
  obtain ⟨⟨⟨⟨⟨⟨⟨⟨⟨⟨⟨⟨⟨⟨version, lease⟩, operationId⟩, sidecar⟩, positive⟩,
    bounded⟩, some⟩, count⟩, unique⟩, parsed⟩, supported⟩, interface⟩,
    ⟨⟨⟨few, distinct⟩, -⟩, utuns⟩⟩, other⟩, disjoint⟩ := formed
  have network : ∀ cidr ∈ owner.privateCidrs, ∃ address bits,
      parseCidr (characters cidr) = .some (address, bits) := by
    intro cidr member
    obtain ⟨⟨address, bits⟩, found⟩ :=
      Option.isSome_iff_exists.mp (List.all_eq_true.mp parsed cidr member)
    exact ⟨address, bits, found⟩
  have sorted : owner.activeMihomoTunInterfaces.Pairwise (· ≤ ·) :=
    match owner.activeMihomoTunInterfaces, few with
    | [], _ => .nil
    | [value], _ => List.pairwise_singleton _ value
  have families := families_of_supported lawful network supported
  have apart : privateCIDRsAreDisjoint (routeRules libc) owner.privateCidrs =
      true := by
    unfold Networking.cidrsAreNonOverlapping at disjoint
    split at disjoint
    · cases disjoint
    · next networks read =>
      rw [privateCIDRsAreDisjoint_eq lawful read]
      exact disjoint
  have interfaces : owner.activeMihomoTunInterfaces.all validUtunInterface =
      true := by
    rw [List.all_eq_true] at utuns ⊢
    exact fun value member => validUtunInterface_of_ipc (utuns value member)
  have canonical : owner.privateCidrs.all (routeRules libc).validCIDR = true ↔
      ∀ cidr ∈ owner.privateCidrs, Canonical libc (characters cidr) := by
    rw [List.all_eq_true]
    refine forall₂_congr fun cidr member => ?_
    obtain ⟨address, bits, found⟩ := network cidr member
    exact validCIDR_iff_canonical lawful found
  have started : 0 < owner.profileRevision :=
    UInt64.pos_iff_ne_zero.mpr (by simpa using positive)
  rw [← canonical]
  simp only [LeaseOwner.isValid, LeaseReference.isValid, Bool.and_eq_true,
    decide_eq_true_eq]
  constructor
  · rintro ⟨⟨⟨-, valid⟩, -⟩, -⟩
    exact valid
  · intro valid
    exact ⟨⟨⟨⟨⟨⟨⟨⟨⟨⟨⟨⟨⟨⟨⟨⟨⟨⟨⟨version, validIdentifier_of_validIpcID lease⟩,
      validIdentifier_of_validIpcID operationId⟩,
      validIdentifier_of_validIpcID sidecar⟩,
      validUtunInterface_of_ipc interface⟩, operation⟩, mtu⟩, started⟩,
      bounded⟩, few⟩, distinct⟩, sorted⟩, interfaces⟩, other⟩, some⟩, count⟩,
      unique⟩, valid⟩, families⟩, apart⟩

variable {owner : RouteLeaseOwnerV3}

theorem validateV3_eq_ok (accepted : owner.validate = .ok ()) :
    owner.protocolVersion = Networking.routeHelperV3ProtocolVersion ∧
      owner.binding.validate = .ok () ∧
      owner.legacyOwner.validate = .ok () := by
  unfold RouteLeaseOwnerV3.validate at accepted
  split at accepted
  · cases accepted
  · next version =>
    split at accepted
    · cases accepted
    · next bound =>
      split at accepted
      · cases accepted
      · next legacy => exact ⟨not_ne_iff.mp version, bound, legacy⟩

private theorem reference_isValid_of_binding
    (version : owner.protocolVersion = Networking.routeHelperV3ProtocolVersion)
    (bound : owner.binding.validate = .ok ()) :
    (leaseOwnerV3 owner).reference.isValid = true := by
  unfold Networking.RouteLeaseBinding.validate at bound
  split_ifs at bound with session tuple
  simp only [Bool.or_eq_true, decide_eq_true_eq, not_or, not_ne_iff,
    Bool.not_eq_true', Bool.not_eq_false] at session tuple
  obtain ⟨⟨⟨broker, positive⟩, bounded⟩, sidecar⟩ := session
  simp only [LeaseReferenceV3.isValid, Bool.and_eq_true, decide_eq_true_eq]
  exact ⟨⟨⟨⟨⟨⟨version, broker⟩, UInt64.pos_iff_ne_zero.mpr positive⟩,
    UInt64.not_lt.mp bounded⟩, validIdentifier_of_validIpcID sidecar⟩,
    validIdentifier_of_validIpcID tuple.1⟩,
    validIdentifier_of_validIpcID tuple.2⟩

private theorem leaseOwnerV3_isValid_eq {rules : RouteRules}
    (accepted : owner.validate = .ok ()) :
    (leaseOwnerV3 owner).isValid rules =
      (leaseOwner owner.legacyOwner).isValid rules := by
  obtain ⟨version, bound, legacy⟩ := validateV3_eq_ok accepted
  have reference := reference_isValid_of_binding version bound
  have checked := reference
  simp only [LeaseReferenceV3.isValid, Bool.and_eq_true] at checked
  obtain ⟨⟨⟨-, sidecar⟩, lease⟩, operation⟩ := checked
  have legacyReference : (leaseOwner owner.legacyOwner).reference.isValid =
      true := by
    simp only [LeaseReference.isValid, Bool.and_eq_true, decide_eq_true_eq]
    exact ⟨⟨rfl, lease⟩, operation⟩
  have sidecarValid : validIdentifier
      (leaseOwner owner.legacyOwner).sidecarInstanceID = true := sidecar
  have same : decide ((leaseOwnerV3 owner).sidecarInstanceID =
      (leaseOwnerV3 owner).reference.sidecarInstanceID) = true :=
    decide_eq_true rfl
  rw [LeaseOwnerV3.isValid, LeaseOwner.isValid, reference, legacyReference,
    sidecarValid, same]
  rfl

/-- An owner that the application accepts, of either version, is accepted by
the helper if and only if its networks are canonical. -/
theorem accepted_owner_isValid_iff (lawful : libc.ReadsRust) :
    (∀ owner : RouteLeaseOwner, owner.validate = .ok () →
        ((leaseOwner owner).isValid (routeRules libc) = true ↔
          ∀ cidr ∈ owner.privateCidrs, Canonical libc (characters cidr))) ∧
      (∀ owner : RouteLeaseOwnerV3, owner.validate = .ok () →
        ((leaseOwnerV3 owner).isValid (routeRules libc) = true ↔
          ∀ cidr ∈ owner.privateCidrs, Canonical libc (characters cidr))) := by
  constructor
  · intro owner accepted
    exact leaseOwner_isValid_iff lawful accepted
  · intro owner accepted
    obtain ⟨-, -, legacy⟩ := validateV3_eq_ok accepted
    rw [leaseOwnerV3_isValid_eq accepted]
    exact leaseOwner_isValid_iff lawful legacy

end Library

/-! ## Owners of one lease -/

/-- A C library that reads and writes addresses as Rust does. -/
def rustLibc : Libc where
  inetPton4 text :=
    match parseIpAddr text with
    | some (.v4 octets) => some octets
    | _ => none
  inetPton6 text :=
    match parseIpAddr text with
    | some (.v6 segments) =>
      some ⟨(IpAddr.v6 segments).octets, octets_length_v6 segments⟩
    | _ => none
  inetNtop4 octets := ProfileV2.Rust.display (.v4 octets)
  inetNtop6 bytes := ProfileV2.Rust.display (.v6 (List.Vector.ofFn fun group =>
      .ofNat ((bytes.toList.getD (2 * group.val) 0).toNat * 256 +
        (bytes.toList.getD (2 * group.val + 1) 0).toNat)))

private theorem rustLibc_readsRust : rustLibc.ReadsRust where
  inetPton4 parsed := by simp [rustLibc, parsed]
  inetPton6 parsed := by
    simp only [rustLibc, parsed]
    rfl

/-- The owner of a lease of some networks. -/
def ownerOf (privateCidrs : List Text) : RouteLeaseOwner where
  protocolVersion := 2
  leaseId := ascii "lease.test.001"
  operationId := ascii "operation.test"
  sidecarInstanceId := ascii "instance.test"
  profileRevision := 42
  tunnel := {
    interfaceName := ascii "utun42"
    mtu := 1420
    hasIpv4 := true
    hasIpv6 := true
    instanceId := ascii "instance.test"
    operationId := ascii "operation.test.prepare" }
  activeMihomoTunInterfaces := [ascii "utun1024"]
  privateCidrs := privateCidrs

theorem canonical_owner_isValid :
    (leaseOwner
          (ownerOf [ascii "10.127.0.0/16", ascii "fd00:127::/48"])).isValid
        (routeRules rustLibc) = true := by
  have accepted : (ownerOf
        [ascii "10.127.0.0/16", ascii "fd00:127::/48"]).validate = .ok () := by
    decide +kernel
  refine ((accepted_owner_isValid_iff rustLibc_readsRust).1 _ accepted).mpr ?_
  intro cidr member
  rcases List.mem_pair.mp member with rfl | rfl
  · exact ⟨.v4 ⟨[10, 127, 0, 0], rfl⟩, 16, by decide +kernel, by decide +kernel,
      rfl⟩
  · exact ⟨.v6 ⟨[0xfd00, 0x127, 0, 0, 0, 0, 0, 0], rfl⟩, 48,
      by decide +kernel, by decide +kernel, rfl⟩

/-- A zero before the number of bits is refused by every helper, and so is a
network that is neither multicast nor below 224.0.0.0. -/
theorem accepted_owners_are_refused :
    (ownerOf [ascii "10.0.0.0/08"]).validate = .ok () ∧
      (∀ libc,
        (leaseOwner (ownerOf [ascii "10.0.0.0/08"])).isValid (routeRules libc) =
          false) ∧
      (ownerOf [ascii "240.0.0.0/4"]).validate = .ok () ∧
      (leaseOwner (ownerOf [ascii "240.0.0.0/4"])).isValid
          (routeRules rustLibc) = false := by
  refine ⟨by decide +kernel, fun libc =>
    rfl, by decide +kernel, by decide +kernel⟩

end KyClash.RouteHelper
