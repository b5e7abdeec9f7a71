import Mathlib.Data.List.Basic

/-!
# Texts

Texts as lists of characters: how long they are in UTF-8 and in UTF-16, how
they are cut at a separator, and the numerals of a base up to sixteen.  A
number is written by `Nat.toDigits`; `numeralValue` reads it back.
-/

namespace Texts

/-- A text is the list of its characters. -/
abbrev Text := List Char

def inRange (low high : Char) (c : Char) : Bool :=
  low.toNat ≤ c.toNat && c.toNat ≤ high.toNat

def isDecimal : Char → Bool := inRange '0' '9'

@[simp]
theorem inRange_eq_true {low high c : Char} :
    inRange low high c = true ↔ low.toNat ≤ c.toNat ∧ c.toNat ≤ high.toNat := by
  simp [inRange]

/-- The text before and after the first separator. -/
def cutFirst (separator : Char) : Text → Option (Text × Text)
  | [] => none
  | c :: rest =>
    if c = separator then
      some ([], rest)
    else
      (cutFirst separator rest).map fun (left, right) => (c :: left, right)

/-- The text before and after the last separator. -/
def cutLast (separator : Char) (text : Text) : Option (Text × Text) :=
  (cutFirst separator text.reverse).map fun (left, right) =>
    (right.reverse, left.reverse)

variable {separator : Char} {text : Text}

theorem cutFirst_eq_some_iff {left right : Text} :
    cutFirst separator text = some (left, right) ↔
      text = left ++ separator :: right ∧ separator ∉ left := by
  induction text generalizing left with
  | nil => simp [cutFirst]
  | cons c rest ih =>
    by_cases same : c = separator
    · subst same
      cases left with
      | nil => simp [cutFirst, eq_comm]
      | cons first left =>
        simp only [cutFirst, if_true, Option.some.injEq, Prod.mk.injEq]
        constructor
        · rintro ⟨⟨⟩, -⟩
        · rintro ⟨equal, absent⟩
          have head := (List.cons.inj equal).1
          exact (absent (head ▸ List.mem_cons_self)).elim
    · cases left with
      | nil =>
        simp only [cutFirst, if_neg same, Option.map_eq_some_iff]
        constructor
        · rintro ⟨⟨_, _⟩, _, ⟨⟩⟩
        · rintro ⟨equal, -⟩
          exact (same (List.cons.inj equal).1).elim
      | cons first left =>
        have tail := @ih left
        simp only [cutFirst, if_neg same, Option.map_eq_some_iff,
          Prod.mk.injEq, List.cons.injEq, List.cons_append,
          List.mem_cons, not_or, Prod.exists]
        constructor
        · rintro ⟨_, _, cut, ⟨rfl, rfl⟩, rfl⟩
          obtain ⟨rfl, absent⟩ := tail.mp cut
          exact ⟨⟨rfl, rfl⟩, Ne.symm same, absent⟩
        · rintro ⟨⟨rfl, equal⟩, -, absent⟩
          exact ⟨left, right, tail.mpr ⟨equal, absent⟩, ⟨rfl, rfl⟩, rfl⟩

theorem cutFirst_eq_none_iff :
    cutFirst separator text = none ↔ separator ∉ text := by
  induction text with
  | nil => simp [cutFirst]
  | cons c rest ih =>
    by_cases same : c = separator
    · simp [cutFirst, same]
    · simp [cutFirst, same, ih, Ne.symm same]

theorem cutLast_eq_some_iff {left right : Text} :
    cutLast separator text = some (left, right) ↔
      text = left ++ separator :: right ∧ separator ∉ right := by
  constructor
  · intro cut
    obtain ⟨⟨tail, head⟩, found, equal⟩ := Option.map_eq_some_iff.mp cut
    obtain ⟨split, absent⟩ := cutFirst_eq_some_iff.mp found
    obtain ⟨rfl, rfl⟩ := Prod.mk.inj equal
    refine ⟨?_, by simpa using absent⟩
    rw [← List.reverse_reverse text, split]
    simp
  · rintro ⟨rfl, absent⟩
    have found : cutFirst separator (left ++ separator :: right).reverse =
        some (right.reverse, left.reverse) := by
      rw [cutFirst_eq_some_iff]
      simpa using absent
    rw [cutLast, found]
    simp

theorem intercalate_eq_flatMap (separator : Char) (first : Text)
    (pieces : List Text) :
    [separator].intercalate (first :: pieces) =
      first ++ pieces.flatMap (separator :: ·) := by
  induction pieces generalizing first with
  | nil => simp [List.intercalate]
  | cons second pieces ih =>
    rw [List.intercalate_cons_cons, ih second]
    simp

theorem forall_mem_intercalate {allowed : Char → Prop} {separator : Char}
    (character : allowed separator) {pieces : List Text}
    (all : ∀ piece ∈ pieces, ∀ c ∈ piece, allowed c) :
    ∀ c ∈ [separator].intercalate pieces, allowed c := by
  cases pieces with
  | nil => simp [List.intercalate]
  | cons first pieces =>
    rw [intercalate_eq_flatMap]
    intro c member
    rcases List.mem_append.mp member with member | member
    · exact all first List.mem_cons_self c member
    · obtain ⟨piece, inside, member⟩ := List.mem_flatMap.mp member
      rcases List.mem_cons.mp member with rfl | member
      · exact character
      · exact all piece (List.mem_cons_of_mem _ inside) c member

def digitValue (c : Char) : Option Nat :=
  if isDecimal c then
    some (c.toNat - '0'.toNat)
  else if inRange 'a' 'f' c then
    some (c.toNat - 'a'.toNat + 10)
  else if inRange 'A' 'F' c then
    some (c.toNat - 'A'.toNat + 10)
  else
    none

def isDigit (base : Nat) (c : Char) : Bool :=
  (digitValue c).any (· < base)

def numeralValue (base : Nat) (text : Text) : Nat :=
  text.foldl (fun value c => value * base + (digitValue c).getD 0) 0

def parseDigits (base : Nat) (text : Text) : Option Nat :=
  if text ≠ [] ∧ text.all (isDigit base) then
    some (numeralValue base text)
  else
    none

/-- A number in decimal, perhaps with a sign, within bounds. -/
def parseInteger (low high : Int) (text : Text) : Option Int :=
  let value : Option Int :=
    match text with
    | '-' :: digits => (parseDigits 10 digits).map Int.negOfNat
    | '+' :: digits => (parseDigits 10 digits).map Int.ofNat
    | digits => (parseDigits 10 digits).map Int.ofNat
  value.filter fun value => low ≤ value && value ≤ high

theorem digitValue_digitChar {n : Nat} (small : n < 16) :
    digitValue n.digitChar = some n := by
  have all : ∀ n : Fin 16, digitValue n.val.digitChar = some n.val := by
    decide
  exact all ⟨n, small⟩

theorem isDigit_digitChar {base n : Nat} (small : n < base) (fits : base ≤ 16) :
    isDigit base n.digitChar = true := by
  rw [isDigit, digitValue_digitChar (Nat.lt_of_lt_of_le small fits)]
  simpa using small

section Base

variable {base : Nat} (large : 1 < base) (fits : base ≤ 16)
include large fits

theorem isDigit_of_mem_toDigits {n : Nat} {c : Char}
    (member : c ∈ Nat.toDigits base n) : isDigit base c = true := by
  induction n using Nat.strongRecOn with
  | _ n ih =>
    rw [Nat.toDigits_eq_if large] at member
    split at member
    · next small =>
      obtain rfl := List.mem_singleton.mp member
      exact isDigit_digitChar small fits
    · rcases List.mem_append.mp member with earlier | last
      · exact ih (n / base) (Nat.div_lt_self (by omega) large) earlier
      · obtain rfl := List.mem_singleton.mp last
        exact isDigit_digitChar (Nat.mod_lt n (by omega)) fits

theorem numeralValue_toDigits (n : Nat) :
    numeralValue base (Nat.toDigits base n) = n := by
  induction n using Nat.strongRecOn with
  | _ n ih =>
    rw [Nat.toDigits_eq_if large]
    split
    · next small =>
      simp [numeralValue, digitValue_digitChar (Nat.lt_of_lt_of_le small fits)]
    have earlier := ih (n / base) (Nat.div_lt_self (by omega) large)
    have last : n % base < 16 :=
      Nat.lt_of_lt_of_le (Nat.mod_lt n (by omega)) fits
    unfold numeralValue at earlier ⊢
    rw [List.foldl_append, earlier]
    simp only [List.foldl_cons, List.foldl_nil, digitValue_digitChar last,
      Option.getD_some]
    exact Nat.div_add_mod' n base

end Base

theorem head_toDigits {base n : Nat} (large : 1 < base)
    (zero : (Nat.toDigits base n).head? = some '0') : n = 0 := by
  induction n using Nat.strongRecOn with
  | _ n ih =>
    rw [Nat.toDigits_eq_if large] at zero
    split at zero
    · simpa using zero
    rw [List.head?_append_of_ne_nil _ Nat.toDigits_ne_nil] at zero
    have none := ih (n / base) (Nat.div_lt_self (by omega) large) zero
    rcases Nat.div_eq_zero_iff.mp none with empty | small
    · omega
    · omega

theorem isDigit_ten (c : Char) : isDigit 10 c = isDecimal c := by
  unfold isDigit digitValue
  cases decimal : isDecimal c with
  | true =>
    have range := inRange_eq_true.mp decimal
    simp at range ⊢
    omega
  | false =>
    simp only [Bool.false_eq_true, if_false]
    split_ifs
    all_goals simp

end Texts
