import KyClash.Codec.BigEndian

/-!
# Leading bits of a byte string

A byte string is a big-endian number.  `clearAfter` is the loop that tests
whether all bits after the first `bits` are zero, and `agreeOn` the one that
compares the first `bits` of two strings.  In terms of the numbers they are a
remainder and a quotient by a power of two.
-/

namespace LeadingBits

open BigEndian (readUint)

def lowMask (bits : Nat) : UInt8 := .ofNat (2 ^ bits - 1)

def highMask (bits : Nat) : UInt8 := .ofNat (256 - 2 ^ (8 - bits))

variable {bits : Nat} {bytes : List UInt8}

private theorem and_lowMask {byte : UInt8} (small : bits ≤ 8) :
    byte &&& lowMask bits = 0 ↔ byte.toNat % 2 ^ bits = 0 := by
  have masked : (byte &&& lowMask bits).toNat = byte.toNat % 2 ^ bits := by
    have bound : 2 ^ bits ≤ 2 ^ 8 := Nat.pow_le_pow_right (by decide) small
    have mask : (lowMask bits).toNat = 2 ^ bits - 1 := by
      rw [lowMask, UInt8.toNat_ofNat', Nat.mod_eq_of_lt (by omega)]
    rw [UInt8.toNat_and, mask, Nat.and_two_pow_sub_one_eq_mod]
  rw [← masked]
  exact UInt8.toNat_inj.symm

private theorem and_highMask (byte : UInt8) (small : bits ≤ 8) :
    (byte &&& highMask bits).toNat =
      byte.toNat / 2 ^ (8 - bits) * 2 ^ (8 - bits) := by
  have all : ∀ (byte : Fin 256) (bits : Fin 9),
      byte.val &&& (256 - 2 ^ (8 - bits.val)) % 256 =
        byte.val / 2 ^ (8 - bits.val) * 2 ^ (8 - bits.val) := by
    decide +kernel
  have checked := all ⟨byte.toNat, byte.toNat_lt⟩ ⟨bits, by omega⟩
  exact checked

private theorem and_highMask_eq_iff {left right : UInt8} (small : bits ≤ 8) :
    left &&& highMask bits = right &&& highMask bits ↔
      left.toNat / 2 ^ (8 - bits) = right.toNat / 2 ^ (8 - bits) := by
  rw [← UInt8.toNat_inj, and_highMask left small, and_highMask right small]
  exact Nat.mul_left_inj (Nat.pos_iff_ne_zero.mp (Nat.two_pow_pos _))

def clearAfter (bits : Nat) (bytes : List UInt8) : Bool :=
  if bits % 8 = 0 then
    (bytes.drop (bits / 8)).all (· = 0)
  else
    (bytes.drop (bits / 8)).head?.all (· &&& lowMask (8 - bits % 8) = 0) &&
      (bytes.drop (bits / 8 + 1)).all (· = 0)

/-- The first `bits` of both strings are the same. -/
def agreeOn (bits : Nat) : List UInt8 → List UInt8 → Bool
  | left :: lefts, right :: rights =>
    if bits = 0 then
      true
    else
      left &&& highMask (min bits 8) = right &&& highMask (min bits 8) &&
        agreeOn (bits - min bits 8) lefts rights
  | _, _ => true

theorem readUint_cons (byte : UInt8) (bytes : List UInt8) :
    readUint (byte :: bytes) =
      byte.toNat * 256 ^ bytes.length + readUint bytes := by
  induction bytes using List.reverseRecOn with
  | nil => simp [readUint]
  | append_singleton bytes last ih =>
    rw [← List.cons_append, BigEndian.readUint_concat, ih,
      BigEndian.readUint_concat, List.length_append, List.length_singleton,
      Nat.pow_succ]
    ring

private theorem readUint_eq_zero_iff (bytes : List UInt8) :
    readUint bytes = 0 ↔ ∀ byte ∈ bytes, byte = 0 := by
  induction bytes with
  | nil => simp [readUint]
  | cons byte bytes ih =>
    rw [readUint_cons, Nat.add_eq_zero_iff, ih, List.forall_mem_cons,
      Nat.mul_eq_zero]
    have positive : 256 ^ bytes.length ≠ 0 :=
      Nat.pos_iff_ne_zero.mp (Nat.pow_pos (by decide))
    simp only [positive, or_false, and_congr_left_iff]
    intro _
    exact UInt8.toNat_inj (b := 0)

theorem pow_256 (length : Nat) : 256 ^ length = 2 ^ (8 * length) := by
  rw [Nat.pow_mul]

private theorem clearAfter_cons_of_le (large : 8 ≤ bits) (byte : UInt8)
    (bytes : List UInt8) :
    clearAfter bits (byte :: bytes) = clearAfter (bits - 8) bytes := by
  have offset : bits % 8 = (bits - 8) % 8 := by omega
  have index : bits / 8 = (bits - 8) / 8 + 1 := by omega
  rw [clearAfter, clearAfter, offset, index, List.drop_succ_cons,
    List.drop_succ_cons]

private theorem clearAfter_cons_of_lt (small : bits < 8) (byte : UInt8)
    (bytes : List UInt8) :
    clearAfter bits (byte :: bytes) = true ↔
      byte.toNat % 2 ^ (8 - bits) = 0 ∧ readUint bytes = 0 := by
  have index : bits / 8 = 0 := by omega
  have offset : bits % 8 = bits := by omega
  rw [clearAfter, index, offset, readUint_eq_zero_iff]
  by_cases start : bits = 0
  · have bound := byte.toNat_lt
    rw [if_pos start, start, Nat.mod_eq_of_lt bound]
    simp [← UInt8.toNat_inj]
  · rw [if_neg start]
    simp [and_lowMask]

private theorem readUint_cons_mod (byte : UInt8) (bytes : List UInt8) :
    readUint (byte :: bytes) % 2 ^ (bits + 8 * bytes.length) =
      readUint bytes + 256 ^ bytes.length * (byte.toNat % 2 ^ bits) := by
  have bound := BigEndian.readUint_lt bytes
  rw [Nat.add_comm bits, Nat.pow_add, ← pow_256, Nat.mod_mul, readUint_cons,
    Nat.mul_comm byte.toNat, Nat.mul_add_mod, Nat.mod_eq_of_lt bound,
    Nat.mul_add_div (Nat.pow_pos (by decide)), Nat.div_eq_of_lt bound,
    Nat.add_zero]

theorem clearAfter_iff (fits : bits ≤ 8 * bytes.length) :
    clearAfter bits bytes = true ↔
      readUint bytes % 2 ^ (8 * bytes.length - bits) = 0 := by
  induction bytes generalizing bits with
  | nil =>
    have start : bits = 0 := by simpa using fits
    simp [start, clearAfter, readUint]
  | cons byte bytes ih =>
    rw [List.length_cons] at fits ⊢
    by_cases large : 8 ≤ bits
    · have divides : 2 ^ (8 * bytes.length - (bits - 8)) ∣ 256 ^
          bytes.length := by
        rw [pow_256]
        exact Nat.pow_dvd_pow 2 (Nat.sub_le _ _)
      have exponent : 8 * (bytes.length + 1) - bits =
          8 * bytes.length - (bits - 8) := by omega
      rw [clearAfter_cons_of_le large, ih (by omega), exponent, readUint_cons,
        Nat.add_mod,
        Nat.mod_eq_zero_of_dvd (Dvd.dvd.mul_left divides _), Nat.zero_add,
        Nat.mod_mod]
    · have exponent : 8 * (bytes.length + 1) - bits =
          (8 - bits) + 8 * bytes.length := by omega
      rw [clearAfter_cons_of_lt (by omega), exponent, readUint_cons_mod,
        Nat.add_eq_zero_iff, Nat.mul_eq_zero, and_comm]
      simp

theorem agreeOn_zero (left right : List UInt8) :
    agreeOn 0 left right = true := by
  cases left with
  | nil => rfl
  | cons byte bytes => cases right <;> rfl

private theorem readUint_cons_div_of_le (bits : Nat) (byte : UInt8)
    (bytes : List UInt8) :
    readUint (byte :: bytes) / 2 ^ (bits + 8 * bytes.length) =
      byte.toNat / 2 ^ bits := by
  have bound := BigEndian.readUint_lt bytes
  rw [Nat.add_comm bits, Nat.pow_add, ← pow_256, ← Nat.div_div_eq_div_mul,
    readUint_cons, Nat.mul_comm byte.toNat,
    Nat.mul_add_div (Nat.pow_pos (by decide)), Nat.div_eq_of_lt bound,
    Nat.add_zero]

private theorem readUint_cons_div_of_lt (byte : UInt8)
    (fits : bits ≤ 8 * bytes.length) :
    readUint (byte :: bytes) / 2 ^ bits =
        byte.toNat * 2 ^ (8 * bytes.length - bits) + readUint bytes / 2 ^ bits ∧
      readUint bytes / 2 ^ bits < 2 ^ (8 * bytes.length - bits) := by
  have bound := BigEndian.readUint_lt bytes
  have factors : 256 ^ bytes.length =
      2 ^ (8 * bytes.length - bits) * 2 ^ bits := by
    rw [pow_256, ← Nat.pow_add, Nat.sub_add_cancel fits]
  constructor
  · rw [readUint_cons, factors, ← Nat.mul_assoc, Nat.mul_comm _ (2 ^ bits),
      Nat.mul_add_div (Nat.two_pow_pos _)]
  · rw [factors] at bound
    exact Nat.div_lt_of_lt_mul (by rwa [Nat.mul_comm])

private theorem mul_add_inj {base first second left right : Nat}
    (leftBound : left < base) (rightBound : right < base) :
    first * base + left = second * base + right ↔
      first = second ∧ left = right := by
  have positive : 0 < base := Nat.zero_lt_of_lt leftBound
  constructor
  · intro equal
    have quotients := congrArg (· / base) equal
    have remainders := congrArg (· % base) equal
    simp only [Nat.mul_comm _ base, Nat.mul_add_div positive,
      Nat.mul_add_mod, Nat.div_eq_of_lt, Nat.mod_eq_of_lt, leftBound,
      rightBound, Nat.add_zero] at quotients remainders
    exact ⟨quotients, remainders⟩
  · rintro ⟨rfl, rfl⟩
    rfl

theorem agreeOn_iff {left right : List UInt8}
    (same : left.length = right.length) (fits : bits ≤ 8 * left.length) :
    agreeOn bits left right = true ↔
      readUint left / 2 ^ (8 * left.length - bits) =
        readUint right / 2 ^ (8 * left.length - bits) := by
  induction left generalizing bits right with
  | nil =>
    cases right with
    | nil => simp [agreeOn]
    | cons byte bytes => simp at same
  | cons first lefts ih =>
    cases right with
    | nil => simp at same
    | cons second rights =>
      have lengths : lefts.length = rights.length := by simpa using same
      rw [List.length_cons] at fits ⊢
      by_cases large : 8 < bits
      · have exponent : 8 * (lefts.length + 1) - bits =
            8 * lefts.length - (bits - 8) := by omega
        have within : 8 * lefts.length - (bits - 8) ≤ 8 * lefts.length :=
          Nat.sub_le _ _
        obtain ⟨leftDiv, leftBound⟩ := readUint_cons_div_of_lt first within
        rw [lengths] at within
        obtain ⟨rightDiv, rightBound⟩ := readUint_cons_div_of_lt second within
        rw [← lengths] at rightDiv rightBound
        have cut : min bits 8 = 8 := by omega
        rw [agreeOn, if_neg (by omega), cut, exponent, leftDiv, rightDiv,
          mul_add_inj leftBound rightBound, Bool.and_eq_true,
          decide_eq_true_eq, and_highMask_eq_iff (Nat.le_refl 8),
          ih lengths (by omega)]
        simp
      · have exponent : 8 * (lefts.length + 1) - bits =
            (8 - bits) + 8 * lefts.length := by omega
        have leftDiv := readUint_cons_div_of_le (8 - bits) first lefts
        have rightDiv := readUint_cons_div_of_le (8 - bits) second rights
        rw [← lengths] at rightDiv
        rw [exponent, leftDiv, rightDiv, agreeOn]
        split
        · next start =>
          have firstBound := first.toNat_lt
          have secondBound := second.toNat_lt
          rw [start, Nat.div_eq_of_lt firstBound, Nat.div_eq_of_lt secondBound]
          simp
        · have cut : min bits 8 = bits := by omega
          rw [cut, Nat.sub_self, agreeOn_zero, Bool.and_true,
            decide_eq_true_eq, and_highMask_eq_iff (by omega)]

end LeadingBits
