import KyClash.Networking.CidrTexts

/-!
# Address ranges of networks

A network of `bits` leading bits is the range of the addresses that share
them with its address.  Four implementations compare two networks and test
for host bits: the lease validator (`route_helper.rs`), the v2 profile
validator (`config.rs`), the Swift helper and the TypeScript validator.  They
are modelled with their checks: a difference below zero, a shift by the whole
width or more and an index out of range have no value.

An address stands as its bytes, four or sixteen; the numbers that the masks
work on are read from them.
-/

namespace KyClash.Networking

open BigEndian (readUint)
open LeadingBits (agreeOn clearAfter highMask lowMask)
open ProfileV2 (IpAddr)

def addressRange (width address bits : Nat) : Set Nat :=
  {value | value < 2 ^ width ∧
    value / 2 ^ (width - bits) = address / 2 ^ (width - bits)}

/-- The test has a value, which tells whether the statement holds. -/
def Decides (answer : Option Bool) (holds : Prop) : Prop :=
  ∃ value, answer = some value ∧ (value = true ↔ holds)

private theorem ranges_meet_iff {width left right leftBits rightBits : Nat}
    (leftBound : left < 2 ^ width) (rightBound : right < 2 ^ width) :
    (addressRange width left leftBits ∩ addressRange width right
        rightBits).Nonempty ↔
      left / 2 ^ (width - min leftBits rightBits) =
        right / 2 ^ (width - min leftBits rightBits) := by
  -- A quotient by more bits is a quotient of the quotient.
  have coarser {bits value other : Nat} (fewer : min leftBits rightBits ≤ bits)
      (same : value / 2 ^ (width - bits) = other / 2 ^ (width - bits)) :
      value / 2 ^ (width - min leftBits rightBits) =
        other / 2 ^ (width - min leftBits rightBits) := by
    obtain ⟨more, split⟩ : ∃ more, width - min leftBits rightBits =
      (width - bits) + more :=
      ⟨_, (Nat.add_sub_cancel' (by omega)).symm⟩
    rw [split, Nat.pow_add, ← Nat.div_div_eq_div_mul, same,
      Nat.div_div_eq_div_mul]
  constructor
  · rintro ⟨value, ⟨-, inLeft⟩, -, inRight⟩
    exact (coarser (Nat.min_le_left _ _) inLeft).symm.trans
      (coarser (Nat.min_le_right _ _) inRight)
  · intro same
    rcases Nat.le_total leftBits rightBits with fewer | fewer
    · rw [Nat.min_eq_left fewer] at same
      exact ⟨right, ⟨rightBound, same.symm⟩, rightBound, rfl⟩
    · rw [Nat.min_eq_right fewer] at same
      exact ⟨left, ⟨leftBound, rfl⟩, leftBound, same⟩

/-- `cidr_overlaps` for addresses of one family. -/
def leaseOverlaps (left right : List UInt8) (leftBits rightBits : Nat) :
    Option Bool :=
  let width := 8 * left.length
  let bits := min leftBits rightBits
  if width < bits || width ≤ width - bits then none
  else some (equalUnder width bits (readUint left) (readUint right))

/-- The loop over whole bytes: `count` turns from an index on. -/
def zeroBytes (bytes : List UInt8) : (count index : Nat) → Option Bool
  | 0, _ => some true
  | count + 1, index => do
      let byte ← bytes[index]?
      if byte ≠ 0 then return false
      zeroBytes bytes count (index + 1)

/-- The IPv6 branch of `is_network_base`; `isCanonicalNetwork` of the helper
has the same statements for both families. -/
def hostBitsClear (totalBits : Nat) (bytes : List UInt8) (bits : Nat) :
    Option Bool := do
  if totalBits < bits then none
  let remaining := totalBits - bits
  let index := bits / 8
  if 0 < remaining && bits % 8 ≠ 0 then
    let hostBits := 8 - bits % 8
    let byte ← bytes[index]?
    if byte &&& lowMask hostBits ≠ 0 then return false
    zeroBytes bytes ((remaining - hostBits) / 8) (index + 1)
  else
    zeroBytes bytes (remaining / 8) index

/-- `is_network_base`. -/
def leaseIsNetworkBase (bytes : List UInt8) (bits : Nat) : Option Bool :=
  if bytes.length = 4 then
    if 32 < bits then none
    else
      let mask := if 32 - bits = 32 then 2 ^ 32 - 1 else 2 ^ (32 - bits) - 1
      some (readUint bytes &&& mask = 0)
  else
    hostBitsClear 128 bytes bits

/-- `production_masked_value`: the mask has 128 bits for both families. -/
def productionMaskedValue (bytes : List UInt8) (bits : Nat) : Option Nat :=
  let width := 8 * bytes.length
  if bits = 0 then some 0
  else if width < bits || 128 ≤ width - bits then none
  else some (readUint bytes &&& ((2 ^ 128 - 1) <<< (width - bits)) % 2 ^ 128)

/-- `production_prefixes_overlap` for addresses of one family. -/
def productionPrefixesOverlap (left right : List UInt8)
    (leftBits rightBits : Nat) : Option Bool := do
  let masked ← productionMaskedValue left (min leftBits rightBits)
  let other ← productionMaskedValue right (min leftBits rightBits)
  return masked = other

def productionPrefixIsNetwork (bytes : List UInt8) (bits : Nat) : Option Bool :=
  (productionMaskedValue bytes bits).map (· = readUint bytes)

/-- The loop of `networksOverlap`. -/
def compareBits (lhs rhs : List UInt8) (remaining index : Nat) : Option Bool :=
  if remaining = 0 then some true
  else do
    let comparedBits := min remaining 8
    let left ← lhs[index]?
    let right ← rhs[index]?
    if left &&& highMask comparedBits ≠ right &&& highMask comparedBits then
      return false
    compareBits lhs rhs (remaining - comparedBits) (index + 1)
termination_by remaining

def prefixMask (width bits : Nat) : Option Nat :=
  if bits = 0 then some 0
  else if width < bits then none
  else some ((2 ^ width - 1) ^^^ (2 ^ (width - bits) - 1))

/-- `prefixesOverlap` for addresses of one family. -/
def prefixesOverlap (left right : List UInt8) (leftBits rightBits : Nat) :
    Option Bool :=
  (prefixMask (8 * left.length) (min leftBits rightBits)).map fun mask =>
    readUint left &&& mask = readUint right &&& mask

def isNetworkPrefix (bytes : List UInt8) (bits : Nat) : Option Bool :=
  (prefixMask (8 * bytes.length) bits).map fun mask =>
    readUint bytes &&& mask = readUint bytes

theorem readUint_bound (bytes : List UInt8) :
    readUint bytes < 2 ^ (8 * bytes.length) := by
  rw [Nat.pow_mul]
  exact BigEndian.readUint_lt bytes

variable {bytes : List UInt8} {bits : Nat}

private theorem zeroBytes_eq {count index : Nat}
    (all : index + count = bytes.length) :
    zeroBytes bytes count index = some ((bytes.drop index).all (· = 0)) := by
  induction count generalizing index with
  | zero =>
    rw [List.drop_eq_nil_of_le (by omega)]
    rfl
  | succ count ih =>
    have inside : index < bytes.length := by omega
    rw [zeroBytes, List.getElem?_eq_getElem inside,
      List.drop_eq_getElem_cons inside, ih (by omega), List.all_cons]
    by_cases zero : bytes[index] = 0 <;> simp [zero]

theorem hostBitsClear_eq (fits : bits ≤ 8 * bytes.length) :
    hostBitsClear (8 * bytes.length) bytes bits =
      some (clearAfter bits bytes) := by
  unfold hostBitsClear clearAfter
  rw [if_neg (Nat.not_lt.mpr fits)]
  dsimp only
  by_cases whole : bits % 8 = 0
  · rw [if_neg (by simp [whole]), if_pos whole]
    exact zeroBytes_eq (by omega)
  have inside : bits / 8 < bytes.length := by omega
  rw [if_pos (by simp only [Bool.and_eq_true, decide_eq_true_eq]; omega),
    if_neg whole, List.getElem?_eq_getElem inside,
    zeroBytes_eq (by omega), List.head?_drop,
    List.getElem?_eq_getElem inside]
  by_cases clear : bytes[bits / 8] &&& lowMask (8 - bits % 8) = 0 <;>
    simp [clear]

/-- Where the owner's validator calls its tests, none of the checks stops
them. -/
theorem lease_tests_have_values {left right : IpAddr} {leftBits rightBits : Nat}
    (family : left.isIpv4 = right.isIpv4)
    (positive : 0 < min leftBits rightBits) (fits : leftBits ≤ left.width) :
    leaseOverlaps left.octets right.octets leftBits rightBits =
        some (cidrOverlaps (left, leftBits) (right, rightBits)) ∧
      leaseIsNetworkBase left.octets leftBits =
        some (isNetworkBase left leftBits) := by
  constructor
  · have width := octets_length left
    unfold leaseOverlaps
    rw [width, if_neg]
    · cases left <;> cases right <;> first | rfl | cases family
    · simp only [Bool.or_eq_true, decide_eq_true_eq]
      omega
  · cases left with
    | v4 octets =>
      have length : (IpAddr.v4 octets).octets.length = 4 := octets.toList_length
      have fits : ¬ 32 < leftBits := Nat.not_lt.mpr fits
      rw [leaseIsNetworkBase, if_pos length, if_neg fits]
      rfl
    | v6 segments =>
      have width : 8 * (IpAddr.v6 segments).octets.length = 128 :=
        octets_length _
      rw [leaseIsNetworkBase, if_neg (by omega), ← width, hostBitsClear_eq]
      · rfl
      · rw [octets_length]
        exact fits

private theorem compareBits_eq {lhs rhs : List UInt8} {remaining index : Nat}
    (same : rhs.length = lhs.length)
    (fits : 8 * index + remaining ≤ 8 * lhs.length) :
    compareBits lhs rhs remaining index =
      some (agreeOn remaining (lhs.drop index) (rhs.drop index)) := by
  induction remaining using Nat.strong_induction_on generalizing index with
  | _ remaining ih =>
    unfold compareBits
    by_cases done : remaining = 0
    · rw [if_pos done, done, LeadingBits.agreeOn_zero]
    have left : index < lhs.length := by omega
    have right : index < rhs.length := by omega
    have rest : compareBits lhs rhs (remaining - min remaining 8)
        (index + 1) = some (agreeOn (remaining - min remaining 8)
          (lhs.drop (index + 1)) (rhs.drop (index + 1))) :=
      ih _ (by omega) (by omega)
    dsimp only
    rw [if_neg done, List.getElem?_eq_getElem left,
      List.getElem?_eq_getElem right, rest,
      List.drop_eq_getElem_cons left, List.drop_eq_getElem_cons right,
      agreeOn, if_neg done]
    by_cases equal : lhs[index] &&& highMask (min remaining 8) =
        rhs[index] &&& highMask (min remaining 8) <;> simp [equal]

theorem prefixMask_eq {width : Nat} (fits : bits ≤ width) :
    prefixMask width bits =
      some (((2 ^ width - 1) <<< (width - bits)) % 2 ^ width) := by
  unfold prefixMask
  split
  · next zero =>
    rw [zero, Nat.sub_zero, Nat.shiftLeft_eq, Nat.mul_mod_left]
  rw [if_neg (Nat.not_lt.mpr fits)]
  congr 1
  apply Nat.eq_of_testBit_eq
  intro index
  by_cases inside : index < width
  · by_cases host : index < width - bits
    · simp [inside, host, Nat.not_le.mpr host]
    · have shifted : index - (width - bits) < width := by omega
      simp [inside, host, shifted, Nat.not_lt.mp host]
  · have outside : ¬ index < width - bits := by omega
    simp [inside, outside]

private theorem leading_eq_iff (value host : Nat) :
    value / 2 ^ host * 2 ^ host = value ↔ value % 2 ^ host = 0 := by
  have split := Nat.div_add_mod' value (2 ^ host)
  omega

theorem productionMaskedValue_eq (family : bytes.length = 4 ∨ bytes.length = 16)
    (fits : bits ≤ 8 * bytes.length) :
    productionMaskedValue bytes bits =
      some
        (readUint bytes / 2 ^ (8 * bytes.length - bits) * 2 ^
          (8 * bytes.length - bits)) := by
  have bound := readUint_bound bytes
  unfold productionMaskedValue
  split
  · next zero =>
    rw [zero, Nat.sub_zero, Nat.div_eq_of_lt bound, Nat.zero_mul]
  · next positive =>
    rw [if_neg]
    · rw [and_leadingMask
        (Nat.lt_of_lt_of_le bound
          (Nat.pow_le_pow_right (by decide) (by omega)))]
    · simp only [Bool.or_eq_true, decide_eq_true_eq]
      omega

/-- What the tests of two networks of one family tell. -/
structure ExactTests (left right : List UInt8) (leftBits rightBits : Nat) :
    Prop where
  lease : 0 < leftBits → 0 < rightBits →
    Decides (leaseOverlaps left right leftBits rightBits)
      (addressRange (8 * left.length) (readUint left) leftBits ∩ addressRange
        (8 * left.length) (readUint right) rightBits).Nonempty
  profile : Decides (productionPrefixesOverlap left right leftBits rightBits)
    (addressRange (8 * left.length) (readUint left) leftBits ∩
      addressRange (8 * left.length) (readUint right) rightBits).Nonempty
  helper : Decides (compareBits left right (min leftBits rightBits) 0)
    (addressRange (8 * left.length) (readUint left) leftBits ∩
      addressRange (8 * left.length) (readUint right) rightBits).Nonempty
  interface : Decides (prefixesOverlap left right leftBits rightBits)
    (addressRange (8 * left.length) (readUint left) leftBits ∩
      addressRange (8 * left.length) (readUint right) rightBits).Nonempty

/-- What the tests for host bits tell. -/
structure ExactBases (bytes : List UInt8) (bits : Nat) : Prop where
  lease : Decides (leaseIsNetworkBase bytes bits)
    (readUint bytes % 2 ^ (8 * bytes.length - bits) = 0)
  profile : Decides (productionPrefixIsNetwork bytes bits)
    (readUint bytes % 2 ^ (8 * bytes.length - bits) = 0)
  helper : Decides (hostBitsClear (8 * bytes.length) bytes bits)
    (readUint bytes % 2 ^ (8 * bytes.length - bits) = 0)
  interface : Decides (isNetworkPrefix bytes bits)
    (readUint bytes % 2 ^ (8 * bytes.length - bits) = 0)

private theorem exactTests {left right : List UInt8} {leftBits rightBits : Nat}
    (family : left.length = 4 ∨ left.length = 16)
    (same : right.length = left.length)
    (leftFits : leftBits ≤ 8 * left.length) :
    ExactTests left right leftBits rightBits := by
  have leftBound := readUint_bound left
  have rightBound : readUint right < 2 ^ (8 * left.length) := by
    rw [← same]
    exact readUint_bound right
  have fits : min leftBits rightBits ≤ 8 * left.length :=
    Nat.le_trans (Nat.min_le_left _ _) leftFits
  have masked : equalUnder (8 * left.length) (min leftBits rightBits)
      (readUint left) (readUint right) = true ↔
        readUint left / 2 ^ (8 * left.length - min leftBits rightBits) =
          readUint right / 2 ^ (8 * left.length - min leftBits rightBits) :=
    equalUnder_iff leftBound rightBound
  refine ⟨?_, ?_, ?_, ?_⟩ <;> rw [ranges_meet_iff leftBound rightBound]
  · intro positive also
    refine ⟨_, if_neg ?_, masked⟩
    simp only [Bool.or_eq_true, decide_eq_true_eq]
    omega
  · refine ⟨_, ?_, masked⟩
    rw [productionPrefixesOverlap, productionMaskedValue_eq family fits,
      productionMaskedValue_eq (same ▸ family) (same ▸ fits), same,
      equalUnder, and_leadingMask leftBound, and_leadingMask rightBound]
    rfl
  · refine ⟨_, compareBits_eq same (by omega), ?_⟩
    exact LeadingBits.agreeOn_iff same.symm fits
  · refine ⟨_, ?_, masked⟩
    rw [prefixesOverlap, prefixMask_eq fits]
    rfl

private theorem exactBases (family : bytes.length = 4 ∨ bytes.length = 16)
    (fits : bits ≤ 8 * bytes.length) : ExactBases bytes bits := by
  have bound := readUint_bound bytes
  have helper : Decides (hostBitsClear (8 * bytes.length) bytes bits)
      (readUint bytes % 2 ^ (8 * bytes.length - bits) = 0) :=
    ⟨_, hostBitsClear_eq fits, LeadingBits.clearAfter_iff fits⟩
  refine ⟨?_, ?_, helper, ?_⟩
  · unfold leaseIsNetworkBase
    rcases family with four | sixteen
    · rw [four] at fits ⊢
      have mask : (if 32 - bits = 32 then 2 ^ 32 - 1
          else 2 ^ (32 - bits) - 1) = 2 ^ (32 - bits) - 1 := by
        split
        · next whole => rw [whole]
        · rfl
      rw [if_pos rfl, if_neg (by omega)]
      refine ⟨_, rfl, ?_⟩
      rw [decide_eq_true_iff, mask, Nat.and_two_pow_sub_one_eq_mod]
    · rw [sixteen] at helper ⊢
      exact helper
  · refine ⟨_, ?_, decide_eq_true_iff.trans (leading_eq_iff _ _)⟩
    rw [productionPrefixIsNetwork, productionMaskedValue_eq family fits]
    rfl
  · refine ⟨_, ?_, decide_eq_true_iff.trans (leading_eq_iff _ _)⟩
    rw [isNetworkPrefix, prefixMask_eq fits, Option.map_some,
      and_leadingMask bound]

/-- For all networks of one family: each overlap test has a value and tells
whether the ranges meet, and each base test tells whether the host bits are
zero.  The lease validator never compares a network of no bits. -/
theorem cidr_tests_are_exact (left right : List UInt8)
    (leftBits rightBits : Nat) (family : left.length = 4 ∨ left.length = 16)
    (same : right.length = left.length) (leftFits : leftBits ≤ 8 * left.length)
    (rightFits : rightBits ≤ 8 * right.length) :
    ExactTests left right leftBits rightBits ∧ ExactBases left leftBits ∧
      ExactBases right rightBits :=
  ⟨exactTests family same leftFits, exactBases family leftFits,
    exactBases (same ▸ family) rightFits⟩

/-- 10.0.0.0/8 and 10.1.0.0/16. -/
theorem nested_networks_are_tested :
    ExactTests [10, 0, 0, 0] [10, 1, 0, 0] 8 16 ∧ ExactBases [10, 0, 0, 0] 8 ∧
      ExactBases [10, 1, 0, 0] 16 :=
  cidr_tests_are_exact [10, 0, 0, 0] [10, 1, 0, 0] 8 16 (.inl rfl) rfl
    (by decide) (by decide)

end KyClash.Networking
