import KyClash.ProfileV2.RustTexts

/-!
# The texts that Rust reads

What the texts are that `IpAddr::from_str` accepts: runs of digits, with a
`::` and an embedded IPv4 address at most once.
-/

namespace KyClash.ProfileV2

open Texts
open Rust (Run OctetText Octets)

variable {text : Text} {pieces : List Text} {embedded : Option (List Text)}
  {octets : List UInt8} {segments : List UInt16} {address : IpAddr}

structure GroupText (piece : Text) : Prop extends Run 16 piece where
  short : piece.length ≤ 4

/-- Runs of hexadecimal digits, and at the end perhaps four octets. -/
structure Cells (limit : Nat) (pieces : List Text)
    (embedded : Option (List Text)) (groups : List UInt16) : Prop where
  texts : ∀ piece ∈ pieces, GroupText piece
  octets : ∀ octets ∈ embedded, octets.length = 4 ∧
    ∀ piece ∈ octets, OctetText piece
  values : groups = pieces.map (fun piece => .ofNat (numeralValue 16 piece)) ++
      embedded.elim [] fun octets =>
        embeddedGroups (octets.map fun piece => .ofNat (numeralValue 10 piece))
  fits : groups.length ≤ limit

def cellTexts (pieces : List Text) (embedded : Option (List Text)) :
    List Text :=
  pieces ++ embedded.toList.map ['.'].intercalate

private theorem cellTexts_none (pieces : List Text) :
    cellTexts pieces none = pieces :=
  List.append_nil pieces

private theorem cellTexts_cons (piece : Text) (pieces : List Text)
    (embedded : Option (List Text)) :
    cellTexts (piece :: pieces) embedded = piece :: cellTexts pieces embedded :=
  rfl

/-- The cells, with a colon before the first unless it starts the text. -/
def joined (index : Nat) (cells : List Text) : Text :=
  if index = 0 then [':'].intercalate cells else cells.flatMap (':' :: ·)

private theorem joined_cons (index : Nat) (cell : Text) (cells : List Text) :
    joined index (cell :: cells) = (if index = 0 then [] else [':']) ++ cell ++
        joined (index + 1) cells := by
  unfold joined
  split
  · rw [intercalate_eq_flatMap]
    rfl
  · simp

theorem embeddedGroups_length (four : octets.length = 4) :
    (embeddedGroups octets).length = 2 := by
  match octets, four with
  | [one, two, three, last], _ => rfl

private theorem readGroups_spec (index remaining : Nat) (text : Text) :
    ∃ pieces embedded,
      Cells remaining pieces embedded (Rust.readGroups index remaining text).1 ∧
        (Rust.readGroups index remaining text).2.1 = embedded.isSome ∧
        text =
          joined index (cellTexts pieces embedded) ++
            (Rust.readGroups index remaining text).2.2 := by
  induction remaining generalizing index text with
  | zero =>
    refine ⟨[], none, ⟨by simp, by simp, rfl, Nat.le_refl 0⟩, rfl, ?_⟩
    simp [joined, cellTexts, Rust.readGroups]
  | succ remaining ih =>
    rw [Rust.readGroups]
    split
    · next octets rest read =>
      obtain ⟨room, read⟩ := Option.ite_none_right_eq_some.mp read
      obtain ⟨start, inner, rfl, inside, rfl⟩ := Rust.readSeparator_spec read
      obtain ⟨pieces, four, shape, rfl⟩ := Rust.readIpv4Addr_spec inside
      refine ⟨[], some pieces, ⟨by simp, ?_, ?_, ?_⟩, rfl, ?_⟩
      · rintro _ ⟨⟩
        exact ⟨four, shape.runs⟩
      · simp [shape.values]
      · rw [embeddedGroups_length (by simp [shape.values, four])]
        omega
      · simp only [cellTexts, List.nil_append, Option.toList_some,
          List.map_cons, List.map_nil, joined_cons]
        simp [joined]
    · split
      · refine ⟨[], none, ⟨by simp, by simp, rfl, Nat.zero_le _⟩, rfl, ?_⟩
        simp [joined, cellTexts]
      · next group rest read =>
        obtain ⟨start, inner, rfl, inside, rfl⟩ := Rust.readSeparator_spec read
        obtain ⟨digits, rfl, run, rfl, -, short, -⟩ :=
          Rust.readNumber_spec inside
        obtain ⟨pieces, embedded, cells, flag, split⟩ := ih (index + 1) rest
        refine ⟨digits :: pieces, embedded, ⟨?_, cells.octets, ?_, ?_⟩, flag,
          ?_⟩
        · intro piece member
          rcases List.mem_cons.mp member with rfl | member
          · exact ⟨run, short⟩
          · exact cells.texts piece member
        · simp [cells.values]
        · simpa using cells.fits
        · conv_lhs => rw [split]
          rw [cellTexts_cons, joined_cons]
          simp

section

variable {piece : Text} {limit : Nat} {values : List UInt16}

theorem Cells.tail (cells : Cells limit (piece :: pieces) embedded values) :
    ∃ later, values = .ofNat (numeralValue 16 piece) :: later ∧
      Cells later.length pieces embedded later :=
  ⟨_, cells.values, fun other member =>
    cells.texts other (List.mem_cons_of_mem _ member),
    cells.octets, rfl, Nat.le_refl _⟩

theorem Cells.eq_nil (cells : Cells limit pieces embedded values)
    (empty : cellTexts pieces embedded = []) :
    embedded = none ∧ values = [] := by
  obtain ⟨rfl, absent⟩ := List.append_eq_nil_iff.mp empty
  cases embedded with
  | none => exact ⟨rfl, cells.values⟩
  | some octets => cases absent

end

/-- The texts of IPv6 addresses, without and with `::`. -/
inductive Ipv6Text : Text → List UInt16 → Prop where
  | full {pieces : List Text} {embedded : Option (List Text)}
      {values : List UInt16} :
      Cells 8 pieces embedded values → values.length = 8 →
      Ipv6Text ([':'].intercalate (cellTexts pieces embedded)) values
  | compressed {pieces tails : List Text} {embedded : Option (List Text)}
      {head tail : List UInt16} :
      Cells 8 pieces none head → head.length < 8 →
      Cells (8 - (head.length + 1)) tails embedded tail →
      Ipv6Text ([':'].intercalate pieces ++ ':' :: ':' ::
          [':'].intercalate (cellTexts tails embedded))
        (head ++ List.replicate (8 - head.length - tail.length) 0 ++ tail)

theorem ipv6Text_of_readIpv6Addr
    (parsed : Rust.readIpv6Addr text = some (segments, [])) :
    Ipv6Text text segments := by
  obtain ⟨pieces, embedded, cells, flag, split⟩ := readGroups_spec 0 8 text
  unfold Rust.readIpv6Addr at parsed
  revert parsed cells flag split
  obtain ⟨head, ended, middle⟩ := Rust.readGroups 0 8 text
  intro parsed cells flag split
  simp only at cells flag split parsed
  split at parsed
  · next full =>
    obtain ⟨rfl, rfl⟩ := Prod.mk.inj (Option.some.inj parsed)
    rw [split, List.append_nil]
    exact .full cells full
  · next short =>
    split at parsed
    · cases parsed
    · next whole =>
      obtain rfl : embedded = none := by
        rw [flag] at whole
        cases embedded with
        | none => rfl
        | some octets => exact absurd rfl whole
      split at parsed
      · next later =>
        obtain ⟨tails, octets, others, -, rest⟩ :=
          readGroups_spec 0 (8 - (head.length + 1)) later
        obtain ⟨rfl, done⟩ := Prod.mk.inj (Option.some.inj parsed)
        rw [done, joined, if_pos rfl, List.append_nil] at rest
        have fits := cells.fits
        have shape := Ipv6Text.compressed cells (by omega) others
        rw [← rest] at shape
        rw [split, cellTexts_none]
        exact shape
      · cases parsed

theorem Ipv6Text.colon (shape : Ipv6Text text segments) :
    ∃ digits rest, text = digits ++ ':' :: rest ∧
      ∀ c ∈ digits, isDigit 16 c = true := by
  cases shape with
  | @full pieces embedded _ cells count =>
    cases pieces with
    | nil =>
      -- An embedded address alone has two groups.
      cases embedded with
      | none =>
        rw [cells.values] at count
        cases count
      | some octets =>
        have four := (cells.octets octets rfl).1
        have two := embeddedGroups_length (show (octets.map fun piece =>
            UInt8.ofNat (numeralValue 10 piece)).length = 4 by
              simpa using four)
        rw [cells.values] at count
        simp only [List.map_nil, List.nil_append, Option.elim_some] at count
        omega
    | cons first pieces =>
      have group := cells.texts first List.mem_cons_self
      cases others : cellTexts pieces embedded with
      | nil =>
        obtain ⟨later, rfl, tail⟩ := cells.tail
        obtain ⟨-, rfl⟩ := tail.eq_nil others
        simp at count
      | cons second more =>
        refine ⟨first, [':'].intercalate (second :: more), ?_, group.digits⟩
        change [':'].intercalate (first :: cellTexts pieces embedded) = _
        rw [others]
        simp
  | @compressed pieces tails embedded head tail cells short others =>
    cases pieces with
    | nil => exact ⟨[], _, rfl, by simp⟩
    | cons first pieces =>
      have group := cells.texts first List.mem_cons_self
      cases pieces with
      | nil =>
        exact ⟨first, ':' ::
          [':'].intercalate (cellTexts tails embedded), by simp, group.digits⟩
      | cons second pieces =>
        exact ⟨first, [':'].intercalate (second :: pieces) ++ ':' ::
          ':' :: [':'].intercalate (cellTexts tails embedded),
          by simp, group.digits⟩

theorem Cells.characters {limit : Nat} {groups : List UInt16}
    (cells : Cells limit pieces embedded groups) :
    ∀ c ∈ [':'].intercalate (cellTexts pieces embedded),
      Rust.addressCharacter c = true := by
  refine forall_mem_intercalate (by decide) ?_
  intro piece member
  rcases List.mem_append.mp member with text | last
  · exact fun c inside =>
      Rust.addressCharacter_of_isDigit (by decide)
        ((cells.texts piece text).digits c inside)
  · obtain ⟨octets, there, rfl⟩ := List.mem_map.mp last
    exact Rust.OctetText.intercalate_characters
      (cells.octets octets (Option.mem_toList.mp there)).2

theorem Ipv6Text.characters (shape : Ipv6Text text segments) :
    ∀ c ∈ text, Rust.addressCharacter c = true := by
  cases shape with
  | full cells => exact cells.characters
  | compressed first _ rest =>
    intro c member
    simp only [List.mem_append, List.mem_cons] at member
    rcases member with early | rfl | rfl | late
    · exact first.characters c (by simpa [cellTexts] using early)
    · decide
    · decide
    · exact rest.characters c late

theorem Rust.parseIpAddr_characters
    (parsed : Rust.parseIpAddr text = some address) :
    ∀ c ∈ text, Rust.addressCharacter c = true := by
  rcases Rust.parseIpAddr_cases parsed with ⟨_, _, read, -⟩ | ⟨_, _, read, -⟩
  · obtain ⟨used, rfl, all⟩ := Rust.readIpv4Addr_consumes read
    simpa using all
  · exact (ipv6Text_of_readIpv6Addr read).characters

theorem Rust.parseIpAddr_v6 {segments : List.Vector UInt16 8}
    (parsed : Rust.parseIpAddr text = some (.v6 segments)) : ':' ∈ text := by
  rcases Rust.parseIpAddr_cases parsed with ⟨_, _, -, -, ⟨⟩⟩ | ⟨_, _, read, -⟩
  obtain ⟨digits, rest, rfl, -⟩ := (ipv6Text_of_readIpv6Addr read).colon
  simp

end KyClash.ProfileV2
