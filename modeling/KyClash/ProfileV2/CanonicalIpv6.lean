import Mathlib.Data.Nat.Digits.Lemmas
import KyClash.ProfileV2.Addresses

/-!
# IPv6 addresses in the frontend

`canonicalIPv6` and `parseIPv6` of `types/networking-production-v2.ts`.  The
parser accepts only what the formatter writes, so all that is left to show is
that it reads back everything that the formatter writes.
-/

namespace KyClash.ProfileV2.TypeScript

open Texts

/-- The inner loop: how many groups from here on are zero. -/
def zeroRun : List Nat → Nat
  | 0 :: rest => zeroRun rest + 1
  | _ => 0

/-- The outer loop goes on behind a run that it has seen; `inside` says that
this is still that run. -/
def bestRun (start : Nat) (inside : Bool) (best : Span) : List Nat → Span
  | [] => best
  | group :: rest =>
    if group ≠ 0 ∨ inside then
      bestRun (start + 1) (group = 0) best rest
    else
      let length := zeroRun (group :: rest)
      bestRun (start + 1) true
        (if 2 ≤ length ∧ best.len < length then ⟨start, length⟩ else best) rest

def canonicalIPv6 (groups : List Nat) : Text :=
  let best := bestRun 0 false ⟨0, 0⟩ groups
  if best.len = 0 then colons groups else compressed groups best

def compressions (index : Nat) : Text → List Nat
  | [] => []
  | c :: rest =>
    if c = ':' ∧ rest.head? = some ':' then
      index :: compressions (index + 1) rest
    else
      compressions (index + 1) rest

def parseGroup (group : Text) : Option Nat :=
  if 4 < group.length then none else (parseDigits 16 group).filter (· ≤ 0xffff)

def parseSide (side : Text) : Option (List Nat) :=
  if side = [] then some [] else (side.splitOn ':').mapM parseGroup

def parseGroups (value : Text) : Option (List Nat) :=
  match (compressions 0 value).head? with
  | none => (parseSide value).filter (·.length = 8)
  | some compression => do
    let left ← parseSide (value.take compression)
    let right ← parseSide (value.drop (compression + 2))
    if 8 ≤ left.length + right.length then
      none
    else
      some (left ++ List.replicate (8 - left.length - right.length) 0 ++ right)

def addressValue (groups : List Nat) : Nat :=
  groups.foldl (fun result group => result <<< 16 ||| group) 0

def parseIPv6 (value : Text) : Option Nat :=
  if '%' ∈ value ∨ '.' ∈ value then
    none
  else if (compressions 0 value).head? ≠ (compressions 0 value).getLast? then
    none
  else do
    let groups ← parseGroups value
    if canonicalIPv6 groups ≠ value then none else some (addressValue groups)

/-- Eight groups of sixteen bits. -/
structure Groups (groups : List Nat) : Prop where
  eight : groups.length = 8
  fit : ∀ group ∈ groups, group ≤ 0xffff

variable {groups : List Nat} {span : Span} {group : Nat}

/-- The groups of a span are zero. -/
structure ZeroSpan (groups : List Nat) (span : Span) : Prop where
  long : 2 ≤ span.len
  zero : List.replicate span.len 0 <+: groups.drop span.start

private theorem replicate_zeroRun (groups : List Nat) :
    List.replicate (zeroRun groups) 0 <+: groups := by
  induction groups with
  | nil => exact List.nil_prefix
  | cons group rest ih =>
    cases group with
    | zero => exact (List.prefix_cons_inj 0).mpr ih
    | succ group => exact List.nil_prefix

private theorem le_zeroRun {count : Nat}
    (zeros : List.replicate count 0 <+: groups) : count ≤ zeroRun groups := by
  induction groups generalizing count with
  | nil => simpa [zeroRun] using List.prefix_nil.mp zeros
  | cons group rest ih =>
    cases count with
    | zero => exact Nat.zero_le _
    | succ count =>
      obtain ⟨rfl, later⟩ := List.cons_prefix_cons.mp zeros
      exact Nat.succ_le_succ (ih later)

/-- A longer span, or one of the same length that starts earlier. -/
def Beats (other span : Span) : Prop :=
  span.len < other.len ∨ span.len = other.len ∧ other.start < span.start

/-- The first one of the longest spans of zero groups. -/
structure FirstLongest (groups : List Nat) (span : Span) : Prop where
  zeros : ZeroSpan groups span
  unbeaten : ∀ other, ZeroSpan groups other → ¬ Beats other span

/-- What is known when the groups before `limit` are scanned.  Every zero span
beats the empty one, so with an empty `best` none starts there. -/
structure Scanned (groups : List Nat) (limit : Nat) (best : Span) : Prop where
  zeros : best.len = 0 ∨ ZeroSpan groups best
  seen : best.start ≤ limit
  unbeaten : ∀ other, ZeroSpan groups other → other.start < limit →
    ¬ Beats other best

variable {limit : Nat} {best : Span}

theorem Scanned.pass (scanned : Scanned groups limit best)
    (worse : ∀ other, ZeroSpan groups other → other.start = limit →
      ¬ Beats other best) :
    Scanned groups (limit + 1) best := by
  refine ⟨scanned.zeros, Nat.le_succ_of_le scanned.seen, ?_⟩
  intro other zeros early
  rcases Nat.lt_succ_iff_lt_or_eq.mp early with before | here
  · exact scanned.unbeaten other zeros before
  · exact worse other zeros here

section

variable {rest : List Nat} (remaining : groups.drop limit = group :: rest)
include remaining

theorem ZeroSpan.here (zeros : ZeroSpan groups span)
    (start : span.start = limit) :
    group = 0 ∧ span.len ≤ zeroRun (group :: rest) := by
  have run := zeros.zero
  rw [start, remaining] at run
  refine ⟨?_, le_zeroRun run⟩
  obtain ⟨count, same⟩ := Nat.exists_eq_add_of_le' zeros.long
  rw [same, List.replicate_succ] at run
  exact (List.cons_prefix_cons.mp run).1.symm

/-- A run is judged where it starts. -/
theorem Scanned.enter (scanned : Scanned groups limit best) :
    Scanned groups (limit + 1)
      (if 2 ≤ zeroRun (group :: rest) ∧ best.len < zeroRun (group :: rest)
        then ⟨limit, zeroRun (group :: rest)⟩ else best) := by
  split
  · next better =>
    refine ⟨.inr ⟨better.1, ?_⟩, Nat.le_succ _, ?_⟩
    · rw [remaining]
      exact replicate_zeroRun _
    · rintro other zeros early (longer | ⟨same, earlier⟩)
      · rcases Nat.lt_succ_iff_lt_or_eq.mp early with before | here
        · exact scanned.unbeaten other zeros before
            (.inl (better.2.trans longer))
        · exact Nat.not_lt.mpr (zeros.here remaining here).2 longer
      · exact scanned.unbeaten other zeros earlier
          (.inl (better.2.trans_eq same))
  · next worse =>
    refine scanned.pass ?_
    rintro other zeros here beats
    have short := (zeros.here remaining here).2
    have long := zeros.long
    have seen := scanned.seen
    rcases beats with longer | ⟨same, earlier⟩ <;> omega

end

private theorem bestRun_scanned {best : Span} {remaining : List Nat}
    (done : List Nat) (inside : Bool)
    (entered : inside = true → ∃ before, done = before ++ [0])
    (scanned : Scanned (done ++ remaining) done.length best) :
    Scanned (done ++ remaining) (done ++ remaining).length
      (bestRun done.length inside best remaining) := by
  induction remaining generalizing done inside best with
  | nil => simpa [bestRun] using scanned
  | cons group rest ih =>
    have next (inside) {best : Span} (entered : inside = true → group = 0)
        (scanned : Scanned (done ++ group :: rest) (done.length + 1) best) :=
      @ih best (done ++ [group]) inside
        (fun true => ⟨done, by rw [entered true]⟩)
        (by simpa using scanned)
    simp only [List.length_append, List.length_singleton, List.append_assoc,
      List.singleton_append] at next
    have remaining : (done ++ group :: rest).drop done.length = group :: rest :=
      List.drop_left
    rw [bestRun, List.length_append]
    split
    · next passed =>
      refine next _ of_decide_eq_true (scanned.pass ?_)
      intro other zeros here beats
      rcases passed with nonzero | inner
      · exact nonzero (zeros.here remaining here).1
      · -- The span that starts one group earlier is longer still.
        obtain ⟨before, rfl⟩ := entered inner
        have earlier : ZeroSpan (before ++ [0] ++ group :: rest)
            ⟨before.length, other.len + 1⟩ := by
          have run := zeros.zero
          rw [here, remaining] at run
          refine ⟨Nat.le_succ_of_le zeros.long, ?_⟩
          simpa [List.replicate_succ] using run
        have known := scanned.unbeaten _ earlier (by simp)
        simp only [Beats, List.length_append,
          List.length_singleton] at known beats here
        omega
    · next first =>
      have zero : group = 0 := not_not.mp (not_or.mp first).1
      exact next _ (fun _ => zero) (scanned.enter remaining)

private theorem bestRun_spec (groups : List Nat) :
    ((bestRun 0 false ⟨0, 0⟩ groups).len = 0 ∧ ∀ span, ¬ ZeroSpan groups span) ∨
      FirstLongest groups (bestRun 0 false ⟨0, 0⟩ groups) := by
  have scanned :=
    @bestRun_scanned ⟨0, 0⟩ groups [] false nofun
      ⟨.inl rfl, Nat.le_refl _, nofun⟩
  simp only [List.nil_append, List.length_nil] at scanned
  have unbeaten : ∀ other, ZeroSpan groups other →
      ¬ Beats other (bestRun 0 false ⟨0, 0⟩ groups) := by
    intro other zeros
    refine scanned.unbeaten other zeros ?_
    have sizes := zeros.zero.length_le
    have long := zeros.long
    rw [List.length_replicate, List.length_drop] at sizes
    omega
  rcases scanned.zeros with empty | zeros
  · refine .inl ⟨empty, fun span zeros => unbeaten span zeros (.inl ?_)⟩
    rw [empty]
    exact Nat.zero_lt_of_lt zeros.long
  · exact .inr ⟨zeros, unbeaten⟩

/-- The first one of the longest runs of zero groups is compressed, and a
single zero group never is. -/
inductive CanonicalSpelling (groups : List Nat) : Text → Prop where
  | run {span : Span} (first : FirstLongest groups span) :
      CanonicalSpelling groups (compressed groups span)
  | plain (none : ∀ span, ¬ ZeroSpan groups span) :
      CanonicalSpelling groups (colons groups)

theorem FirstLongest.unique {other : Span} (first : FirstLongest groups span)
    (second : FirstLongest groups other) : span = other := by
  have unbeaten := first.unbeaten other second.zeros
  have beaten := second.unbeaten span first.zeros
  cases span
  cases other
  simp only [Beats, Span.mk.injEq] at unbeaten beaten ⊢
  omega

theorem canonicalIPv6_eq_iff {text : Text} :
    canonicalIPv6 groups = text ↔ CanonicalSpelling groups text := by
  unfold canonicalIPv6
  rcases bestRun_spec groups with ⟨empty, none⟩ | first
  · rw [if_pos empty]
    constructor
    · rintro rfl
      exact .plain none
    · rintro (⟨⟨zeros, -⟩⟩ | -)
      · exact absurd zeros (none _)
      · rfl
  · have long := first.zeros.long
    rw [if_neg (by omega)]
    constructor
    · rintro rfl
      exact .run first
    · rintro (other | none)
      · rw [first.unique other]
      · exact absurd first.zeros (none _)

theorem isDigit_of_mem_hexadecimal {c : Char} (member : c ∈ hexadecimal group) :
    isDigit 16 c = true :=
  isDigit_of_mem_toDigits (by decide) (by decide) member

private theorem mem_colons :
    ∀ c ∈ colons groups, isDigit 16 c = true ∨ c = ':' := by
  refine forall_mem_intercalate (.inr rfl) ?_
  intro piece member c inside
  obtain ⟨group, -, rfl⟩ := List.mem_map.mp member
  exact .inl (isDigit_of_mem_hexadecimal inside)

private theorem compressions_digits {digits : Text}
    (digit : ∀ c ∈ digits, isDigit 16 c = true) (index : Nat) (rest : Text) :
    compressions index (digits ++ rest) =
      compressions (index + digits.length) rest := by
  induction digits generalizing index with
  | nil => rfl
  | cons c digits ih =>
    have other : c ≠ ':' := by
      rintro rfl
      exact absurd (digit _ List.mem_cons_self) (by decide)
    rw [List.cons_append, compressions, if_neg (fun here => other here.1),
      ih (fun c member => digit c (List.mem_cons_of_mem _ member)),
      List.length_cons,
      Nat.add_right_comm, Nat.add_assoc]

theorem head_hexadecimal (group : Nat) (rest : Text) :
    (hexadecimal group ++ rest).head? ≠ some ':' := by
  have nonempty : hexadecimal group ≠ [] := Nat.toDigits_ne_nil
  rw [List.head?_append_of_ne_nil _ nonempty]
  intro colon
  exact absurd (isDigit_of_mem_hexadecimal (List.mem_of_mem_head? colon))
    (by decide)

theorem compressions_colons (groups : List Nat) (index : Nat) (rest : Text) :
    compressions index (colons groups ++ rest) =
      compressions (index + (colons groups).length) rest := by
  cases groups with
  | nil => rfl
  | cons group groups =>
    rw [colons, List.map_cons, intercalate_eq_flatMap, List.append_assoc,
      compressions_digits fun c member => isDigit_of_mem_hexadecimal member,
      List.length_append,
      ← Nat.add_assoc]
    generalize index + (hexadecimal group).length = index
    induction groups generalizing index with
    | nil => rfl
    | cons group groups ih =>
      rw [List.map_cons, List.flatMap_cons, List.append_assoc, List.cons_append,
        compressions,
        if_neg (fun here => head_hexadecimal group _ here.2),
        compressions_digits fun c member =>
          isDigit_of_mem_hexadecimal member, ih]
      simp only [List.length_append, List.length_cons]
      congr 1
      omega

private theorem parseGroup_hexadecimal (fits : group ≤ 0xffff) :
    parseGroup (hexadecimal group) = some group := by
  have short : (hexadecimal group).length ≤ 4 :=
    (Nat.length_toDigits_le_iff (by decide) (by decide)).mpr
      (Nat.lt_succ_of_le fits)
  have digits : parseDigits 16 (hexadecimal group) = some group := by
    rw [parseDigits, if_pos]
    · exact congrArg some (numeralValue_toDigits (by decide) (by decide) group)
    · refine ⟨Nat.toDigits_ne_nil, List.all_eq_true.mpr ?_⟩
      exact fun c member => isDigit_of_mem_hexadecimal member
  simp [parseGroup, Nat.not_lt.mpr short, digits, fits]

theorem parseSide_colons (fit : ∀ group ∈ groups, group ≤ 0xffff) :
    parseSide (colons groups) = some groups := by
  have parsed : (groups.map hexadecimal).mapM parseGroup = some groups := by
    induction groups with
    | nil => rfl
    | cons group rest ih =>
      rw [List.map_cons, List.mapM_cons,
        parseGroup_hexadecimal (fit group List.mem_cons_self),
        ih fun group member => fit group (List.mem_cons_of_mem _ member)]
      rfl
  cases groups with
  | nil => rfl
  | cons group rest =>
    have nonempty : colons (group :: rest) ≠ [] := by
      rw [colons, List.map_cons, intercalate_eq_flatMap]
      exact List.append_ne_nil_of_left_ne_nil Nat.toDigits_ne_nil _
    have split : (colons (group :: rest)).splitOn ':' =
        (group :: rest).map hexadecimal := by
      apply List.splitOn_intercalate _ _ (by simp)
      intro digits member colon
      obtain ⟨group, -, rfl⟩ := List.mem_map.mp member
      exact absurd (isDigit_of_mem_hexadecimal colon) (by decide)
    rw [parseSide, if_neg nonempty, split, parsed]

private theorem fit_of_parseSide {side : Text}
    (parsed : parseSide side = some groups) :
    ∀ group ∈ groups, group ≤ 0xffff := by
  unfold parseSide at parsed
  split at parsed
  · cases parsed
    nofun
  generalize side.splitOn ':' = pieces at parsed
  induction pieces generalizing groups with
  | nil =>
    cases parsed
    nofun
  | cons piece pieces ih =>
    simp only [List.mapM_cons, Option.bind_eq_bind,
      Option.bind_eq_some_iff] at parsed
    obtain ⟨group, first, rest, later, equal⟩ := parsed
    cases equal
    have fits : group ≤ 0xffff := by
      unfold parseGroup at first
      split at first
      · cases first
      · simpa using (Option.filter_eq_some_iff.mp first).2
    intro other member
    rcases List.mem_cons.mp member with rfl | member
    · exact fits
    · exact ih later other member

private theorem groups_of_parseGroups {text : Text}
    (parsed : parseGroups text = some groups) : Groups groups := by
  unfold parseGroups at parsed
  split at parsed
  · obtain ⟨parsed, eight⟩ := Option.filter_eq_some_iff.mp parsed
    exact ⟨by simpa using eight, fit_of_parseSide parsed⟩
  · simp only [Option.bind_eq_bind, Option.bind_eq_some_iff] at parsed
    obtain ⟨left, first, right, second, parsed⟩ := parsed
    obtain ⟨short, equal⟩ := Option.ite_none_left_eq_some.mp parsed
    cases equal
    refine ⟨by simp; omega, ?_⟩
    intro group member
    simp only [List.mem_append, List.mem_replicate] at member
    rcases member with (member | ⟨-, rfl⟩) | member
    · exact fit_of_parseSide first group member
    · exact Nat.zero_le _
    · exact fit_of_parseSide second group member

theorem compressions_compressed (left right : List Nat) :
    compressions 0 (colons left ++ [':', ':'] ++ colons right) =
      [(colons left).length] := by
  have plain : (colons right).head? ≠ some ':' := by
    cases right with
    | nil => nofun
    | cons group rest =>
      rw [colons, List.map_cons, intercalate_eq_flatMap]
      exact head_hexadecimal group _
  have last := compressions_colons right (0 + (colons left).length + 1 + 1) []
  rw [List.append_nil] at last
  rw [List.append_assoc, compressions_colons, List.cons_append, compressions,
    if_pos ⟨rfl, rfl⟩,
    List.singleton_append, compressions, if_neg (fun here => plain here.2),
    last, Nat.zero_add]
  rfl

private theorem parseGroups_compressed {left right : List Nat}
    (fitLeft : ∀ group ∈ left, group ≤ 0xffff)
    (fitRight : ∀ group ∈ right, group ≤ 0xffff)
    (short : left.length + right.length < 8) :
    parseGroups (colons left ++ [':', ':'] ++ colons right) =
      some
        (left ++ List.replicate (8 - left.length - right.length) 0 ++
          right) := by
  have front : (colons left ++ [':', ':'] ++ colons right).take
        (colons left).length = colons left := by
    rw [List.append_assoc, List.take_left]
  have back : (colons left ++ [':', ':'] ++ colons right).drop
        ((colons left).length + 2) = colons right :=
    List.drop_left' (by simp)
  simp only [parseGroups, compressions_compressed, List.head?_cons, front, back,
    parseSide_colons fitLeft, parseSide_colons fitRight, Option.bind_eq_bind,
    Option.bind_some]
  exact if_neg (Nat.not_le.mpr short)

theorem ZeroSpan.groups_eq (zeros : ZeroSpan groups span) :
    groups =
      groups.take span.start ++ List.replicate span.len 0 ++
        groups.drop (span.start + span.len) := by
  obtain ⟨tail, split⟩ := zeros.zero
  have rest : groups.drop (span.start + span.len) = tail := by
    rw [← List.drop_drop, ← split, List.drop_left' List.length_replicate]
  rw [rest, List.append_assoc, split, List.take_append_drop]

private theorem parseGroups_canonicalIPv6 (valid : Groups groups) :
    (compressions 0 (canonicalIPv6 groups)).length ≤ 1 ∧
      parseGroups (canonicalIPv6 groups) = some groups ∧
      ∀ c ∈ canonicalIPv6 groups, isDigit 16 c = true ∨ c = ':' := by
  have canonical := @canonicalIPv6_eq_iff groups _ |>.mp rfl
  generalize canonicalIPv6 groups = text at canonical ⊢
  cases canonical with
  | plain =>
    have none := compressions_colons groups 0 []
    rw [List.append_nil] at none
    refine ⟨by simp [none, compressions], ?_, mem_colons⟩
    simp [parseGroups, none, compressions, parseSide_colons valid.fit,
      valid.eight]
  | @run best first =>
    have zeros := first.zeros
    have sizes := congrArg List.length zeros.groups_eq
    have long := zeros.long
    simp only [List.length_append, List.length_replicate, valid.eight] at sizes
    refine ⟨(congrArg List.length (compressions_compressed _ _)).le, ?_, ?_⟩
    · have parsed := parseGroups_compressed
        (fun group member => valid.fit group (List.mem_of_mem_take member))
        (fun group member => valid.fit group (List.mem_of_mem_drop member))
        (show (groups.take best.start).length +
          (groups.drop (best.start + best.len)).length < 8 by omega)
      have gap : 8 - (groups.take best.start).length -
          (groups.drop (best.start + best.len)).length = best.len := by
        omega
      rw [gap, ← zeros.groups_eq] at parsed
      exact parsed
    · intro c member
      simp only [compressed, List.mem_append] at member
      rcases member with (left | colon) | right
      · exact mem_colons c left
      · exact .inr (by simpa using colon)
      · exact mem_colons c right

private theorem addressValue_eq (fit : ∀ group ∈ groups, group ≤ 0xffff) :
    addressValue groups = Nat.ofDigits 0x10000 groups.reverse := by
  induction groups using List.reverseRecOn with
  | nil => rfl
  | append_singleton groups group ih =>
    have fits : group < 2 ^ 16 := Nat.lt_succ_of_le (fit group (by simp))
    have shifted := ih fun group member => fit group (by simp [member])
    unfold addressValue at shifted ⊢
    rw [List.foldl_append, shifted, List.foldl_cons, List.foldl_nil,
      ← Nat.shiftLeft_add_eq_or_of_lt fits, Nat.shiftLeft_eq,
      List.reverse_append]
    simp [Nat.ofDigits_cons]
    omega

/-- The formatter writes the canonical spelling.  The parser accepts the texts
that the formatter writes for eight groups of sixteen bits, and gives the
value of these groups, which determines them. -/
theorem ipv6_spellings_are_canonical :
    (∀ groups text, canonicalIPv6 groups = text ↔
        CanonicalSpelling groups text) ∧
      (∀ text value, parseIPv6 text = some value ↔
        ∃ groups, Groups groups ∧ canonicalIPv6 groups = text ∧
          addressValue groups = value) ∧
      ∀ groups others, Groups groups → Groups others →
        addressValue groups = addressValue others → groups = others := by
  refine ⟨fun _ _ => canonicalIPv6_eq_iff, ?_, ?_⟩
  · intro text value
    constructor
    · intro parsed
      obtain ⟨-, parsed⟩ := Option.ite_none_left_eq_some.mp parsed
      obtain ⟨-, parsed⟩ := Option.ite_none_left_eq_some.mp parsed
      obtain ⟨groups, parsed, written⟩ := Option.bind_eq_some_iff.mp parsed
      obtain ⟨canonical, equal⟩ := Option.ite_none_left_eq_some.mp written
      exact ⟨groups, groups_of_parseGroups parsed, not_not.mp canonical,
        Option.some.inj equal⟩
    · rintro ⟨groups, valid, rfl, rfl⟩
      obtain ⟨single, parsed, characters⟩ := parseGroups_canonicalIPv6 valid
      have plain :
          ¬('%' ∈ canonicalIPv6 groups ∨ '.' ∈ canonicalIPv6 groups) := by
        rintro (member | member)
        · exact absurd (characters _ member) (by decide)
        · exact absurd (characters _ member) (by decide)
      have same : (compressions 0 (canonicalIPv6 groups)).head? =
          (compressions 0 (canonicalIPv6 groups)).getLast? := by
        match places : compressions 0 (canonicalIPv6 groups), single with
        | [], _ | [_], _ => rfl
      simp [parseIPv6, plain, same, parsed]
  · intro groups others valid other same
    rw [addressValue_eq valid.fit, addressValue_eq other.fit] at same
    have fits {groups : List Nat} (valid : Groups groups) : ∀ group ∈
        groups.reverse, group < 0x10000 :=
      fun group member =>
        Nat.lt_succ_of_le (valid.fit group (List.mem_reverse.mp member))
    apply List.reverse_injective
    exact Nat.ofDigits_inj_of_len_eq (by decide)
      (by simp [valid.eight, other.eight]) (fits valid) (fits other) same

end KyClash.ProfileV2.TypeScript
