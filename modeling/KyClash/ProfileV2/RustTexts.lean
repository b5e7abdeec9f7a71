import KyClash.ProfileV2.Addresses

/-!
# Texts that Rust reads as addresses

What a text looks like that `IpAddr::from_str` accepts: an IPv4 address is
four runs of digits between dots, an IPv6 address contains a colon, and
neither contains anything but hexadecimal digits, dots and colons.
-/

namespace KyClash.ProfileV2.Rust

open Texts

/-- The text of a number in a base: digits only, and at least one. -/
structure Run (base : Nat) (digits : Text) : Prop where
  nonempty : digits ≠ []
  digits : ∀ c ∈ digits, isDigit base c = true

variable {base : Nat} {digits : Text} {text rest : Text} {index : Nat}
  {octets : List UInt8} {pieces : List Text} {count : Nat}

theorem Run.parseDigits (run : Run base digits) :
    Texts.parseDigits base digits = some (numeralValue base digits) :=
  if_pos ⟨run.nonempty, List.all_eq_true.mpr run.digits⟩

theorem run_of_parseDigits {value : Nat}
    (parsed : Texts.parseDigits base digits = some value) :
    Run base digits ∧ value = numeralValue base digits := by
  obtain ⟨shape, parsed⟩ := Option.ite_none_right_eq_some.mp parsed
  exact ⟨⟨shape.1, List.all_eq_true.mp shape.2⟩, (Option.some.inj parsed).symm⟩

theorem parseInteger_of_run {low high : Int} {sign : Text}
    (signed : sign = [] ∨ sign = ['+']) (run : Run 10 digits)
    (above : low ≤ numeralValue 10 digits)
    (below : (numeralValue 10 digits : Int) ≤ high) :
    parseInteger low high (sign ++ digits) =
      some (numeralValue 10 digits : Int) := by
  have inside : (some (numeralValue 10 digits : Int)).filter
      (fun value => decide (low ≤ value) && decide (value ≤ high)) =
        some (numeralValue 10 digits : Int) := by
    simp [above, below]
  rcases signed with rfl | rfl
  · have unsigned : ∀ rest, digits ≠ '-' :: rest ∧ digits ≠ '+' :: rest := by
      intro rest
      constructor
      · rintro rfl
        exact absurd (run.digits '-' List.mem_cons_self) (by decide)
      · rintro rfl
        exact absurd (run.digits '+' List.mem_cons_self) (by decide)
    rw [List.nil_append, parseInteger, run.parseDigits]
    · exact inside
    · exact fun rest => (unsigned rest).1
    · exact fun rest => (unsigned rest).2
  · simp only [parseInteger, List.cons_append, List.nil_append]
    rw [run.parseDigits]
    exact inside

theorem readNumber_spec {radix maxDigits limit value : Nat} {zero : Bool}
    (read : readNumber radix maxDigits limit zero text = some (value, rest)) :
    ∃ digits, text = digits ++ rest ∧ Run radix digits ∧
      value = numeralValue radix digits ∧ value < limit ∧
      digits.length ≤ maxDigits ∧
      (zero = false → digits.head? = some '0' → digits.length = 1) := by
  unfold readNumber at read
  simp only at read
  split_ifs at read with shape start large
  obtain ⟨rfl, rfl⟩ := Prod.mk.inj (Option.some.inj read)
  simp only [Bool.or_eq_true, decide_eq_true_eq, not_or, Nat.not_lt] at shape
  refine ⟨_, (List.takeWhile_append_dropWhile).symm, ⟨shape.1, ?_⟩,
    rfl, by omega, shape.2, ?_⟩
  · intro c member
    exact List.all_eq_true.mp List.all_takeWhile c member
  · intro strict head
    have length := List.length_pos_iff.mpr shape.1
    simp only [strict, Bool.not_false, head, decide_true, Bool.and_self,
      Bool.true_and, decide_eq_true_eq, Nat.not_lt] at start
    omega

theorem readSeparator_spec {α : Type} {separator : Char}
    {inner : Text → Option (α × Text)}
    {found : α × Text}
    (read : readSeparator separator index inner text = some found) :
    ∃ start rest, text = start ++ rest ∧ inner rest = some found ∧
      start = if index = 0 then [] else [separator] := by
  unfold readSeparator at read
  split at read
  · next first => exact ⟨[], text, rfl, read, by simp [first]⟩
  · next later =>
    cases text with
    | nil => cases read
    | cons c rest =>
      simp only at read
      split at read
      · next same =>
        exact ⟨[c], rest, rfl, read, by simp [later, same]⟩
      · cases read

structure OctetText (piece : Text) : Prop extends Run 10 piece where
  small : numeralValue 10 piece < 256
  short : piece.length ≤ 3
  unpadded : piece.head? = some '0' → piece.length = 1

/-- Runs of digits, each with its value. -/
structure Octets (pieces : List Text) (octets : List UInt8) : Prop where
  runs : ∀ piece ∈ pieces, OctetText piece
  values : octets = pieces.map fun piece => .ofNat (numeralValue 10 piece)

theorem Octets.cons {piece : Text} (shape : Octets pieces octets)
    (octet : OctetText piece) :
    Octets (piece :: pieces) (.ofNat (numeralValue 10 piece) :: octets) := by
  constructor
  · intro other member
    rcases List.mem_cons.mp member with rfl | member
    · exact octet
    · exact shape.runs other member
  · rw [List.map_cons, ← shape.values]

theorem readOctets_succ
    (read : readOctets index (count + 1) text = some (octets, rest)) :
    ∃ digits more middle, OctetText digits ∧
    octets = .ofNat (numeralValue 10 digits) :: more ∧
      text = (if index = 0 then [] else ['.']) ++ digits ++ middle ∧
      readOctets (index + 1) count middle = some (more, rest) := by
  rw [readOctets] at read
  split at read
  · cases read
  · next octet middle number =>
    split at read
    · cases read
    · next more last later =>
      obtain ⟨rfl, rfl⟩ := Prod.mk.inj (Option.some.inj read)
      obtain ⟨start, inner, rfl, inside, rfl⟩ := readSeparator_spec number
      obtain ⟨digits, rfl, run, rfl, small, short, unpadded⟩ :=
        readNumber_spec inside
      exact ⟨digits, more, middle, ⟨run, small, short, unpadded rfl⟩, rfl,
        (List.append_assoc _ _ _).symm, later⟩

private theorem readOctets_later
    (read : readOctets (index + 1) count text = some (octets, rest)) :
    ∃ pieces, pieces.length = count ∧ Octets pieces octets ∧
      text = pieces.flatMap ('.' :: ·) ++ rest := by
  induction count generalizing index text octets with
  | zero =>
    obtain ⟨rfl, rfl⟩ := Prod.mk.inj (Option.some.inj read)
    exact ⟨[], rfl, ⟨by simp, rfl⟩, rfl⟩
  | succ count ih =>
    obtain ⟨digits, more, middle, octet, rfl, rfl, later⟩ :=
      readOctets_succ read
    obtain ⟨pieces, length, shape, rfl⟩ := ih later
    exact ⟨digits :: pieces, by simp [length], shape.cons octet, by simp⟩

theorem readIpv4Addr_spec (read : readIpv4Addr text = some (octets, rest)) :
    ∃ pieces, pieces.length = 4 ∧ Octets pieces octets ∧
      text = ['.'].intercalate pieces ++ rest := by
  obtain ⟨digits, more, middle, octet, rfl, rfl, later⟩ := readOctets_succ read
  obtain ⟨pieces, length, shape, rfl⟩ := readOctets_later later
  refine ⟨digits :: pieces, by simp [length], shape.cons octet, ?_⟩
  rw [intercalate_eq_flatMap]
  simp

/-- What an address is written with. -/
def addressCharacter (c : Char) : Bool :=
  isDigit 16 c || c = '.' || c = ':'

/-- What was read of a text is written with these characters. -/
def Consumes (text rest : Text) : Prop :=
  ∃ used, text = used ++ rest ∧ ∀ c ∈ used, addressCharacter c = true

private theorem isDigit_sixteen {c : Char} (fits : base ≤ 16)
    (digit : isDigit base c = true) : isDigit 16 c = true := by
  unfold isDigit at digit ⊢
  cases value : digitValue c with
  | none => simp [value] at digit
  | some n =>
    rw [value] at digit
    have small : n < base := by simpa using digit
    simpa using Nat.lt_of_lt_of_le small fits

theorem addressCharacter_of_isDigit {c : Char} (fits : base ≤ 16)
    (digit : isDigit base c = true) : addressCharacter c = true := by
  simp [addressCharacter, isDigit_sixteen fits digit]

theorem OctetText.intercalate_characters
    (octets : ∀ piece ∈ pieces, OctetText piece) :
    ∀ c ∈ ['.'].intercalate pieces, addressCharacter c = true :=
  forall_mem_intercalate (by decide) fun piece member c inside =>
    addressCharacter_of_isDigit (by decide)
      ((octets piece member).digits c inside)

theorem readIpv4Addr_consumes (read : readIpv4Addr text = some (octets, rest)) :
    Consumes text rest := by
  obtain ⟨pieces, -, shape, rfl⟩ := readIpv4Addr_spec read
  exact ⟨_, rfl, OctetText.intercalate_characters shape.runs⟩

theorem parseIpAddr_cases {address : IpAddr}
    (parsed : parseIpAddr text = some address) :
    (∃ octets vector, readIpv4Addr text = some (octets, []) ∧
        exactly 4 octets = some vector ∧ .v4 vector = address) ∨
      ∃ segments vector, readIpv6Addr text = some (segments, []) ∧
        exactly 8 segments = some vector ∧ .v6 vector = address := by
  unfold parseIpAddr at parsed
  split at parsed
  · next octets rest read =>
    obtain ⟨rfl, parsed⟩ := Option.ite_none_right_eq_some.mp parsed
    obtain ⟨vector, length, same⟩ := Option.map_eq_some_iff.mp parsed
    exact .inl ⟨octets, vector, read, length, same⟩
  · split at parsed
    · next segments rest read =>
      obtain ⟨rfl, parsed⟩ := Option.ite_none_right_eq_some.mp parsed
      obtain ⟨vector, length, same⟩ := Option.map_eq_some_iff.mp parsed
      exact .inr ⟨segments, vector, read, length, same⟩
    · cases parsed

theorem parseIpAddr_v4 {octets : List.Vector UInt8 4}
    (parsed : parseIpAddr text = some (.v4 octets)) :
    ∃ pieces, pieces.length = 4 ∧ Octets pieces octets.toList ∧
      text = ['.'].intercalate pieces := by
  rcases parseIpAddr_cases parsed with ⟨bytes, _, read, length, ⟨⟩⟩ |
    ⟨_, _, -, -, ⟨⟩⟩
  obtain ⟨pieces, four, shape, rfl⟩ := readIpv4Addr_spec read
  refine ⟨pieces, four, ?_, List.append_nil _⟩
  unfold exactly at length
  split at length
  · cases Option.some.inj length
    exact shape
  · cases length

end KyClash.ProfileV2.Rust
