import Mathlib.Data.Nat.Bitwise

/-!
# 64-bit words as sets of positions

Position `n` is in the set when bit `n` of the word is set.  The lemmas say
what shifting, adding one position and testing one position do to the set.
-/

namespace BitWord

/-- The word has the position `n`. -/
def has (word : UInt64) (n : Nat) : Bool :=
  word.toNat.testBit n

theorem has_zero (n : Nat) : has 0 n = false :=
  Nat.zero_testBit n

theorem has_or (first second : UInt64) (n : Nat) :
    has (first ||| second) n = (has first n || has second n) := by
  rw [has, UInt64.toNat_or, Nat.testBit_or]
  rfl

theorem has_one (n : Nat) : has 1 n = decide (n = 0) := by
  have single := @Nat.testBit_two_pow 0 n
  rw [has]
  simpa [eq_comm] using single

theorem has_shiftLeft {word shift : UInt64} (small : shift < 64) {n : Nat}
    (inside : n < 64) :
    has (word <<< shift) n =
      (decide (shift.toNat ≤ n) && has word (n - shift.toNat)) := by
  have bound : shift.toNat < 64 := UInt64.lt_iff_toNat_lt.mp small
  rw [has, UInt64.toNat_shiftLeft, Nat.mod_eq_of_lt bound,
    Nat.testBit_mod_two_pow, Nat.testBit_shiftLeft]
  simp [inside, has]

theorem has_bit {position : UInt64} (small : position < 64) {n : Nat}
    (inside : n < 64) :
    has (1 <<< position) n = decide (n = position.toNat) := by
  rw [has_shiftLeft small inside, has_one]
  by_cases below : position.toNat ≤ n
  · simp only [below, decide_true, Bool.true_and, decide_eq_decide]
    omega
  · have different : n ≠ position.toNat := by omega
    simp [below, different]

/-- The test `word & (1 << position) ≠ 0` reads one position. -/
theorem and_bit_ne_zero_iff {word position : UInt64} (small : position < 64) :
    word &&& (1 <<< position) ≠ 0 ↔ has word position.toNat = true := by
  have bound : position.toNat < 64 := UInt64.lt_iff_toNat_lt.mp small
  have both : ∀ n, has (word &&& (1 <<< position)) n =
      (has word n && has (1 <<< position) n) := by
    intro n
    rw [has, UInt64.toNat_and, Nat.testBit_and]
    rfl
  constructor
  · intro nonzero
    have positive : (word &&& (1 <<< position)).toNat ≠ 0 :=
      fun zero => nonzero (UInt64.toNat_inj.mp zero)
    obtain ⟨n, set⟩ := Nat.exists_testBit_of_ne_zero positive
    have inside : n < 64 := by
      apply Nat.lt_of_not_le
      intro outside
      have lost :=
        Nat.testBit_lt_two_pow
          (Nat.lt_of_lt_of_le (word &&& (1 <<< position)).toNat_lt
            (Nat.pow_le_pow_right (by decide) outside))
      rw [lost] at set
      cases set
    have member := both n
    rw [has, set, has_bit small inside] at member
    have parts := Bool.and_eq_true_iff.mp member.symm
    rw [← of_decide_eq_true parts.2]
    exact parts.1
  · intro set zero
    have member := both position.toNat
    rw [zero, has_zero, set, has_bit small bound] at member
    simp at member

end BitWord
