import Mathlib.Data.Nat.Digits.Lemmas

/-!
# Fixed-width big-endian integers

Byte strings are lists of `UInt8`.  `putUint` writes the low bytes of a
natural number, most significant byte first, and `readUint` reads a whole
byte string back.  A field of `width` bytes is lossless exactly on the
numbers below `256 ^ width`.
-/

namespace BigEndian

/-- The `width` low bytes of `value`, most significant first. -/
def putUint : Nat → Nat → List UInt8
  | 0, _ => []
  | width + 1, value =>
    putUint width (value / 256) ++ [UInt8.ofNat (value % 256)]

/-- The number written by a byte string, most significant byte first. -/
def readUint (bytes : List UInt8) : Nat :=
  bytes.foldl (fun value byte => value * 256 + byte.toNat) 0

@[simp] theorem length_putUint (width value : Nat) :
    (putUint width value).length = width := by
  induction width generalizing value with
  | zero => rfl
  | succ width ih => simp [putUint, ih]

@[simp] theorem readUint_concat (bytes : List UInt8) (byte : UInt8) :
    readUint (bytes ++ [byte]) = readUint bytes * 256 + byte.toNat := by
  simp [readUint]

theorem readUint_putUint (width value : Nat) :
    readUint (putUint width value) = value % 256 ^ width := by
  induction width generalizing value with
  | zero => simp [putUint, readUint, Nat.mod_one]
  | succ width ih =>
    have lowByte : (UInt8.ofNat (value % 256)).toNat = value % 256 :=
      UInt8.toNat_ofNat_of_lt' (by simpa using Nat.mod_lt value (by decide))
    rw [putUint, readUint_concat, ih, lowByte, Nat.pow_succ,
      Nat.mul_comm (256 ^ width), Nat.mod_mul]
    omega

theorem readUint_putUint_of_lt {width value : Nat}
    (fits : value < 256 ^ width) : readUint (putUint width value) = value := by
  rw [readUint_putUint, Nat.mod_eq_of_lt fits]

@[simp] theorem uint16_readUint_putUint (value : UInt16) :
    UInt16.ofNat (readUint (putUint 2 value.toNat)) = value := by
  rw [readUint_putUint_of_lt (show _ < 256 ^ 2 from value.toNat_lt)]
  exact UInt16.ofNat_toNat

@[simp] theorem uint64_readUint_putUint (value : UInt64) :
    UInt64.ofNat (readUint (putUint 8 value.toNat)) = value := by
  rw [readUint_putUint_of_lt (show _ < 256 ^ 8 from value.toNat_lt)]
  exact UInt64.ofNat_toNat

theorem putUint_readUint (bytes : List UInt8) :
    putUint bytes.length (readUint bytes) = bytes := by
  induction bytes using List.reverseRecOn with
  | nil => rfl
  | append_singleton bytes byte ih =>
    have bound : byte.toNat < 256 := byte.toNat_lt
    have high : (readUint bytes * 256 + byte.toNat) / 256 =
        readUint bytes := by
      omega
    have low : (readUint bytes * 256 + byte.toNat) % 256 = byte.toNat := by
      omega
    rw [List.length_append, List.length_singleton, readUint_concat, putUint,
      high, low, ih, UInt8.ofNat_toNat]

theorem readUint_lt (bytes : List UInt8) :
    readUint bytes < 256 ^ bytes.length := by
  rw [← putUint_readUint bytes, readUint_putUint, length_putUint]
  exact Nat.mod_lt _ (Nat.pow_pos (by decide))

/-- The field read as a number and written again, for a number type that holds
every value of the field. -/
theorem putUint_toNat_uint16 {bytes : List UInt8} (width : bytes.length = 2) :
    putUint 2 (UInt16.ofNat (readUint bytes)).toNat = bytes := by
  have bound := readUint_lt bytes
  rw [width] at bound
  rw [UInt16.toNat_ofNat_of_lt' bound, ← width, putUint_readUint]

theorem putUint_toNat_uint64 {bytes : List UInt8} (width : bytes.length = 8) :
    putUint 8 (UInt64.ofNat (readUint bytes)).toNat = bytes := by
  have bound := readUint_lt bytes
  rw [width] at bound
  rw [UInt64.toNat_ofNat_of_lt' bound, ← width, putUint_readUint]

end BigEndian
