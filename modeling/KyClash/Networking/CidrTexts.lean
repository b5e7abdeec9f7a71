import KyClash.Networking.RouteOwner
import KyClash.ProfileV2.RustTexts

/-!
# Texts that Rust reads as networks

What a text looks like that `parse_cidr` of `networking/route_helper.rs`
accepts, and its two ways to look at the leading bits of an address: masks of
one number for IPv4, a loop over the bytes for IPv6.
-/

namespace KyClash.Networking

open BigEndian (readUint)
open LeadingBits (agreeOn clearAfter)
open ProfileV2 (IpAddr)
open ProfileV2.Rust (Run parseIpAddr run_of_parseDigits)
open Texts (Text numeralValue)

variable {bits : Nat} {width : Nat} {address : IpAddr}

theorem parseU8_spec {number : Text} (parsed : parseU8 number = some bits) :
    ∃ sign digits, (sign = [] ∨ sign = ['+']) ∧ number = sign ++ digits ∧
      Run 10 digits ∧ bits = numeralValue 10 digits ∧ bits ≤ 255 := by
  obtain ⟨found, small⟩ := Option.filter_eq_some_iff.mp parsed
  obtain ⟨run, value⟩ := run_of_parseDigits found
  have small : bits ≤ 255 := by simpa using small
  split at run
  · next signed =>
    rw [if_pos signed] at value
    refine ⟨['+'], number.tail, .inr rfl, ?_, run, value, small⟩
    cases number with
    | nil => cases signed
    | cons c rest =>
      obtain rfl := Option.some.inj signed
      rfl
  · next unsigned =>
    rw [if_neg unsigned] at value
    exact ⟨[], number, .inl rfl, rfl, run, value, small⟩

/-- What `parse_cidr` has checked. -/
structure ReadAs (value : Text) (address : IpAddr) (bits : Nat)
    (text number : Text) : Prop where
  split : value = text ++ '/' :: number
  unslashed : '/' ∉ text
  parsed : parseIpAddr text = some address
  counted : parseU8 number = some bits
  positive : bits ≠ 0
  specified : address.isUnspecified = false
  unicast : address.isMulticast = false
  fits : bits ≤ address.width
  base : isNetworkBase address bits = true

theorem parseCidr_spec {value : Text}
    (parsed : parseCidr value = some (address, bits)) :
    ∃ text number, ReadAs value address bits text number := by
  obtain ⟨⟨text, number⟩, cut, parsed⟩ := Option.bind_eq_some_iff.mp parsed
  obtain ⟨found, read, parsed⟩ := Option.bind_eq_some_iff.mp parsed
  obtain ⟨count, counted, parsed⟩ := Option.bind_eq_some_iff.mp parsed
  obtain ⟨split, unslashed⟩ := Texts.cutFirst_eq_some_iff.mp cut
  split_ifs at parsed with refused base
  obtain ⟨rfl, rfl⟩ := Prod.mk.inj (Option.some.inj parsed)
  simp only [Bool.or_eq_true, decide_eq_true_eq, not_or, Nat.not_lt,
    Bool.not_eq_true] at refused
  obtain ⟨⟨⟨positive, specified⟩, unicast⟩, fits⟩ := refused
  exact ⟨text, number, split, unslashed, read, counted, positive, specified,
    unicast, fits, base⟩

theorem octets_length (address : IpAddr) :
    8 * address.octets.length = address.width := by
  cases address with
  | v4 octets => simp [IpAddr.octets, IpAddr.width, IpAddr.isIpv4]
  | v6 segments =>
    simp [IpAddr.octets, IpAddr.width, IpAddr.isIpv4, List.length_flatMap]

theorem isNetworkBase_eq (fits : bits ≤ address.width) :
    isNetworkBase address bits = clearAfter bits address.octets := by
  cases address with
  | v4 octets =>
    have length : octets.toList.length = 4 := by simp
    have mask : (if 32 - bits = 32 then 2 ^ 32 - 1
        else 2 ^ (32 - bits) - 1) = 2 ^ (32 - bits) - 1 := by
      split
      · next whole => rw [whole]
      · rfl
    rw [Bool.eq_iff_iff, IpAddr.octets, LeadingBits.clearAfter_iff, length]
    · simp only [isNetworkBase]
      rw [mask, Nat.and_two_pow_sub_one_eq_mod, decide_eq_true_eq]
    · rw [length]
      exact fits
  | v6 segments => rfl

theorem and_leadingMask {host value : Nat} (bound : value < 2 ^ width) :
    value &&& ((2 ^ width - 1) <<< host) % 2 ^ width =
      value / 2 ^ host * 2 ^ host := by
  rw [← Nat.shiftRight_eq_div_pow, ← Nat.shiftLeft_eq]
  apply Nat.eq_of_testBit_eq
  intro index
  by_cases large : width ≤ index
  · have high : value.testBit index = false :=
      Nat.testBit_lt_two_pow
        (Nat.lt_of_lt_of_le bound (Nat.pow_le_pow_right (by decide) large))
    by_cases le : host ≤ index
    · simp [high, le]
    · simp [le]
  · by_cases le : host ≤ index
    · have small : index - host < width := by omega
      simp [le, small, Nat.lt_of_not_le large]
    · simp [le]

theorem equalUnder_iff {left right : Nat} (leftBound : left < 2 ^ width)
    (rightBound : right < 2 ^ width) :
    equalUnder width bits left right = true ↔
      left / 2 ^ (width - bits) = right / 2 ^ (width - bits) := by
  simp only [equalUnder, decide_eq_true_eq]
  rw [and_leadingMask leftBound, and_leadingMask rightBound]
  exact Nat.mul_left_inj (Nat.pos_iff_ne_zero.mp (Nat.two_pow_pos _))

private theorem equalUnder_eq {left right : List UInt8}
    (leftWidth : 8 * left.length = width)
    (rightWidth : 8 * right.length = width) (fits : bits ≤ width) :
    equalUnder width bits (readUint left) (readUint right) =
      agreeOn bits left right := by
  have power (bytes : List UInt8) (same : 8 * bytes.length = width) :
      readUint bytes < 2 ^ width := by
    have bound := BigEndian.readUint_lt bytes
    rw [← same, Nat.pow_mul]
    exact bound
  rw [Bool.eq_iff_iff, equalUnder_iff (power left leftWidth)
    (power right rightWidth), LeadingBits.agreeOn_iff (by omega) (by omega),
    leftWidth]

theorem cidrOverlaps_eq {left right : IpAddr} {leftBits rightBits : Nat}
    (leftFits : leftBits ≤ left.width) :
    cidrOverlaps (left, leftBits) (right, rightBits) =
      (decide (left.isIpv4 = right.isIpv4) &&
        agreeOn (min leftBits rightBits) left.octets right.octets) := by
  cases left with
  | v4 left =>
    cases right with
    | v4 right =>
      have fits : min leftBits rightBits ≤ 32 :=
        Nat.le_trans (Nat.min_le_left _ _) leftFits
      exact equalUnder_eq (by simp) (by simp) fits
    | v6 right => rfl
  | v6 left =>
    cases right with
    | v4 right => rfl
    | v6 right =>
      have fits : min leftBits rightBits ≤ 128 :=
        Nat.le_trans (Nat.min_le_left _ _) leftFits
      exact equalUnder_eq (octets_length (.v6 left)) (octets_length (.v6 right))
        fits

end KyClash.Networking
