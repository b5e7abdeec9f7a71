import Mathlib.Data.List.Nodup
import KyClash.Configuration.Enhance

/-!
# Merging a mapping into a configuration

`deep_merge` and `use_merge` of `enhance/merge.rs`.  A mapping has each key
once; what it holds is read along a path of keys.
-/

namespace KyClash.Configuration

def Value.isMapping : Value → Bool
  | .mapping _ => true
  | _ => false

/-- A mapping has each key once, and so have the mappings below it. -/
inductive Value.Formed : Value → Prop where
  | mapping {entries : List (Value × Value)} : (entries.map Prod.fst).Nodup →
      (∀ entry ∈ entries, Formed entry.2) → Formed (.mapping entries)
  | other {value : Value} : value.isMapping = false → Formed value

variable {entries olds : List (Value × Value)} {key value old : Value}

theorem Value.Formed.distinct (formed : (Value.mapping entries).Formed) :
    (entries.map Prod.fst).Nodup := by
  cases formed with
  | mapping distinct => exact distinct
  | other plain => cases plain

theorem formed_cons {entry : Value × Value} :
    (Value.mapping (entry :: entries)).Formed ↔
      entry.1 ∉ entries.map Prod.fst ∧ entry.2.Formed ∧
        (Value.mapping entries).Formed := by
  constructor
  · rintro (⟨distinct, below⟩ | plain)
    · obtain ⟨first, later⟩ := List.nodup_cons.mp distinct
      obtain ⟨here, below⟩ := List.forall_mem_cons.mp below
      exact ⟨first, here, .mapping later below⟩
    · cases plain
  · rintro ⟨first, here, later⟩
    refine .mapping (List.nodup_cons.mpr ⟨first, later.distinct⟩) ?_
    cases later with
    | mapping _ below => exact List.forall_mem_cons.mpr ⟨here, below⟩
    | other plain => cases plain

/-- `use_lowercase` drops the keys that are no texts. -/
def useLowercase (config : List (Value × Value)) : List (Value × Value) :=
  config.foldl (fun lowered entry =>
    match entry.1.asStr with
    | some text => insertName text.toLower entry.2 lowered
    | none => lowered) []

private theorem mem_keys_insertName {name : String}
    (member : key ∈ (insertName name value entries).map Prod.fst) :
    key = .string name ∨ key ∈ entries.map Prod.fst := by
  induction entries with
  | nil => simpa [insertName] using member
  | cons entry rest ih =>
    rw [insertName] at member
    split at member
    · exact .inr member
    rcases List.mem_cons.mp member with rfl | inside
    · exact .inr List.mem_cons_self
    · exact (ih inside).imp_right (List.mem_cons_of_mem _)

private theorem formed_insertName (name : String)
    (formed : (Value.mapping entries).Formed) (below : value.Formed) :
    (Value.mapping (insertName name value entries)).Formed := by
  induction entries with
  | nil => exact formed_cons.mpr ⟨List.not_mem_nil, below, formed⟩
  | cons entry rest ih =>
    obtain ⟨first, here, later⟩ := formed_cons.mp formed
    rw [insertName]
    split
    · exact formed_cons.mpr ⟨first, below, later⟩
    · next other =>
      refine formed_cons.mpr ⟨fun member => ?_, here, ih later⟩
      rcases mem_keys_insertName member with same | inside
      · simp [same, Value.isName] at other
      · exact first inside

private theorem formed_useLowercase (formed : (Value.mapping entries).Formed) :
    (Value.mapping (useLowercase entries)).Formed := by
  suffices general : ∀ lowered, (Value.mapping lowered).Formed →
      (Value.mapping (entries.foldl _ lowered)).Formed from
    general [] (.mapping List.nodup_nil (by simp))
  induction entries with
  | nil => exact fun _ start => start
  | cons entry rest ih =>
    obtain ⟨_, here, later⟩ := formed_cons.mp formed
    intro lowered start
    refine ih later _ ?_
    dsimp only
    split
    · exact formed_insertName _ start here
    · exact start

/-! ## Equality of values -/

mutual

def Value.same : Value → Value → Bool
  | .null, .null => true
  | .bool first, .bool second => first = second
  | .number first, .number second => first = second
  | .string first, .string second => first = second
  | .sequence first, .sequence second => sameItems first second
  | .mapping first, .mapping second => sameEntries first second
  | .tagged tag first, .tagged other second => tag = other && first.same second
  | _, _ => false

def sameItems : List Value → List Value → Bool
  | [], [] => true
  | first :: rest, second :: others =>
    first.same second && sameItems rest others
  | _, _ => false

def sameEntries : List (Value × Value) → List (Value × Value) → Bool
  | [], [] => true
  | first :: rest, second :: others =>
    first.1.same second.1 && first.2.same second.2 && sameEntries rest others
  | _, _ => false

end

mutual

theorem Value.same_iff :
    (first second : Value) → (first.same second = true ↔ first = second)
  | .sequence first, second => by
    cases second <;> simp [Value.same, sameItems_iff first]
  | .mapping first, second => by
    cases second <;> simp [Value.same, sameEntries_iff first]
  | .tagged tag first, second => by
    cases second <;> simp [Value.same, Value.same_iff first]
  | .null, second | .bool _, second | .number _, second | .string _,
        second => by
    cases second <;> simp [Value.same]

theorem sameItems_iff :
    (first second : List Value) →
      (sameItems first second = true ↔ first = second)
  | [], second => by
    cases second <;> simp [sameItems]
  | value :: rest, second => by
    cases second <;> simp [sameItems, Value.same_iff value, sameItems_iff rest]

theorem sameEntries_iff :
    (first second : List (Value × Value)) →
      (sameEntries first second = true ↔ first = second)
  | [], second => by
    cases second <;> simp [sameEntries]
  | (key, value) :: rest, second => by
    cases second <;>
      simp [sameEntries, Value.same_iff key, Value.same_iff value,
      sameEntries_iff rest, Prod.ext_iff]

end

instance : DecidableEq Value :=
  fun first second => decidable_of_iff _ (Value.same_iff first second)

/-! ## The merge -/

def lookup (key : Value) : List (Value × Value) → Option Value
  | [] => none
  | entry :: rest => if entry.1 = key then some entry.2 else lookup key rest

def replaceValue (key value : Value) :
    List (Value × Value) → List (Value × Value)
  | [] => []
  | entry :: rest =>
    if entry.1 = key then (key, value) :: rest else entry ::
        replaceValue key value rest

mutual

def deepMerge (old : Value) : Value → Value
  | .mapping entries =>
    match old with
    | .mapping olds => .mapping (mergeEntries olds entries)
    | _ => .mapping entries
  | value => value

def mergeEntries (olds : List (Value × Value)) :
    List (Value × Value) → List (Value × Value)
  | [] => olds
  | entry :: rest => mergeEntries (mergeEntry olds entry) rest

def mergeEntry (olds : List (Value × Value)) :
    Value × Value → List (Value × Value)
  | (key, value) =>
    match lookup key olds with
    | some existing => replaceValue key (deepMerge existing value) olds
    | none => olds ++ [(key, value)]

end

/-- `use_merge`; what a mapping is merged into stays a mapping. -/
def useMerge (merge config : List (Value × Value)) : List (Value × Value) :=
  mergeEntries config (useLowercase merge)

/-- What stands at the end of a path of keys. -/
def Value.valueAt : Value → List Value → Option Value
  | value, [] => some value
  | .mapping entries, key :: path => (lookup key entries).bind (·.valueAt path)
  | _, _ :: _ => none

theorem deepMerge_of_isMapping (other : value.isMapping = false) :
    deepMerge old value = value := by
  cases value with
  | mapping entries => cases other
  | _ => rfl

theorem deepMerge_null (value : Value) : deepMerge .null value = value := by
  cases value <;> rfl

theorem lookup_replaceValue (other : Value) :
    lookup other (replaceValue key value olds) =
      if other = key then (lookup key olds).map fun _ => value
      else lookup other olds := by
  induction olds with
  | nil => simp [replaceValue, lookup]
  | cons entry rest ih =>
    by_cases same : entry.1 = key
    · by_cases equal : other = key
      · simp [replaceValue, lookup, same, equal]
      · simp [replaceValue, lookup, same, equal, Ne.symm equal]
    · by_cases equal : other = key
      · simp [replaceValue, lookup, same, equal, equal ▸ ih]
      · simp [replaceValue, lookup, same, equal, ih]

theorem replaceValue_self (found : lookup key olds = some value) :
    replaceValue key value olds = olds := by
  induction olds with
  | nil => rfl
  | cons entry rest ih =>
    rw [lookup] at found
    rw [replaceValue]
    split at found
    · next same =>
      cases found
      rw [if_pos same, ← same]
    · next differs => rw [if_neg differs, ih found]

theorem lookup_append (first second : List (Value × Value)) :
    lookup key (first ++ second) =
      (lookup key first).or (lookup key second) := by
  induction first with
  | nil => rfl
  | cons entry rest ih =>
    rw [List.cons_append, lookup, lookup]
    split
    · rfl
    · exact ih

theorem lookup_eq_none (absent : key ∉ entries.map Prod.fst) :
    lookup key entries = none := by
  induction entries with
  | nil => rfl
  | cons entry rest ih =>
    rw [List.map_cons, List.mem_cons, not_or] at absent
    rw [lookup, if_neg (Ne.symm absent.1), ih absent.2]

theorem lookup_mergeEntry (other : Value) :
    lookup other (mergeEntry olds (key, value)) =
    if other = key then some (deepMerge ((lookup key olds).getD .null) value)
    else lookup other olds := by
  unfold mergeEntry
  split
  · next existing found =>
    rw [lookup_replaceValue, found]
    rfl
  · next absent =>
    rw [absent, Option.getD_none, deepMerge_null, lookup_append, lookup, lookup]
    by_cases same : other = key
    · rw [same, absent]
      simp
    · simp [same, Ne.symm same]

theorem isSome_mergeEntries (olds entries : List (Value × Value))
    (key : Value) :
    (lookup key (mergeEntries olds entries)).isSome =
      ((lookup key olds).isSome || (lookup key entries).isSome) := by
  induction entries generalizing olds with
  | nil => simp [mergeEntries, lookup]
  | cons entry rest ih =>
    rw [mergeEntries, ih, lookup_mergeEntry, lookup]
    by_cases same : entry.1 = key
    · simp [same]
    · simp [same, Ne.symm same]

theorem lookup_mergeEntries (distinct : (entries.map Prod.fst).Nodup)
    (key : Value) :
    lookup key (mergeEntries olds entries) =
      match lookup key entries with
      | none => lookup key olds
      | some value =>
        some (deepMerge ((lookup key olds).getD .null) value) := by
  induction entries generalizing olds with
  | nil => rfl
  | cons entry rest ih =>
    obtain ⟨first, later⟩ := List.nodup_cons.mp distinct
    rw [mergeEntries, ih later, lookup_mergeEntry, lookup]
    by_cases same : entry.1 = key
    · subst same
      rw [lookup_eq_none first, if_pos rfl, if_pos rfl]
    · rw [if_neg same, if_neg (Ne.symm same)]

theorem lookup_of_mem (distinct : (entries.map Prod.fst).Nodup)
    (member : (key, value) ∈ entries) : lookup key entries = some value := by
  induction entries with
  | nil => cases member
  | cons entry rest ih =>
    obtain ⟨first, later⟩ := List.nodup_cons.mp distinct
    rw [lookup]
    rcases List.mem_cons.mp member with rfl | inside
    · exact if_pos rfl
    · rw [if_neg, ih later inside]
      rintro rfl
      exact first (List.mem_map.mpr ⟨_, inside, rfl⟩)

theorem mergeEntries_eq_self
    (kept : ∀ entry ∈ entries, mergeEntry olds entry = olds) :
    mergeEntries olds entries = olds := by
  induction entries with
  | nil => rfl
  | cons entry rest ih =>
    rw [mergeEntries, kept entry List.mem_cons_self]
    exact ih fun other member => kept other (List.mem_cons_of_mem _ member)

theorem deepMerge_deepMerge (formed : value.Formed) (old : Value) :
    deepMerge (deepMerge old value) value = deepMerge old value := by
  induction formed generalizing old with
  | other plain =>
    rw [deepMerge_of_isMapping plain, deepMerge_of_isMapping plain]
  | @mapping entries distinct _ ih =>
    have again (merged : List (Value × Value))
      (holds : ∀ key value, (key, value) ∈ entries →
        ∃ old, lookup key merged = some (deepMerge old value)) :
        mergeEntries merged entries = merged := by
      apply mergeEntries_eq_self
      rintro ⟨key, value⟩ member
      obtain ⟨old, found⟩ := holds key value member
      rw [mergeEntry, found]
      dsimp only
      rw [ih (key, value) member old]
      exact replaceValue_self found
    have fresh (key value : Value) (member : (key, value) ∈ entries) :
        ∃ old, lookup key entries = some (deepMerge old value) :=
      ⟨.null, by rw [deepMerge_null, lookup_of_mem distinct member]⟩
    cases old with
    | mapping olds =>
      refine congrArg Value.mapping (again _ fun key value member => ?_)
      rw [lookup_mergeEntries distinct, lookup_of_mem distinct member]
      exact ⟨_, rfl⟩
    | _ => exact congrArg Value.mapping (again entries fresh)

/-! ## Reading the result -/

theorem valueAt_deepMerge (distinct : (entries.map Prod.fst).Nodup)
    (path : List Value) :
    (deepMerge old (.mapping entries)).valueAt (key :: path) =
      match lookup key entries with
      | none => old.valueAt (key :: path)
      | some value =>
        (deepMerge ((old.valueAt [key]).getD .null) value).valueAt path := by
  have plain : (Value.mapping entries).valueAt (key :: path) =
      match lookup key entries with
      | none => none
      | some value => (deepMerge .null value).valueAt path := by
    rw [Value.valueAt]
    cases lookup key entries with
    | none => rfl
    | some value =>
      exact congrArg (Value.valueAt · path) (deepMerge_null value).symm
  cases old with
  | mapping olds =>
    rw [deepMerge, Value.valueAt, lookup_mergeEntries distinct]
    cases lookup key entries with
    | none => rfl
    | some value =>
      cases found : lookup key olds <;> simp [Value.valueAt, found]
  | _ => exact plain

theorem formed_of_lookup (formed : (Value.mapping entries).Formed)
    (found : lookup key entries = some value) : value.Formed := by
  induction entries with
  | nil => cases found
  | cons entry rest ih =>
    obtain ⟨_, here, later⟩ := formed_cons.mp formed
    rw [lookup] at found
    split at found
    · cases found
      exact here
    · exact ih later found

theorem valueAt_cons (old key : Value) (path : List Value) :
    old.valueAt (key :: path) = (old.valueAt [key]).bind (·.valueAt path) := by
  cases old with
  | mapping olds =>
    rw [Value.valueAt, Value.valueAt, Option.bind_assoc]
    rfl
  | _ => rfl

variable {merge : Value} {path : List Value} (formed : merge.Formed)
include formed

/-- Where the merge has a value, the result has it merged into the one that
was there. -/
theorem valueAt_of_found (found : merge.valueAt path = some value)
    (old : Value) :
    (deepMerge old merge).valueAt path =
      some (deepMerge ((old.valueAt path).getD .null) value) := by
  induction path generalizing merge old with
  | nil =>
    cases found
    rfl
  | cons key path ih =>
    cases merge with
    | mapping entries =>
      obtain ⟨below, holds, found⟩ := Option.bind_eq_some_iff.mp found
      rw [valueAt_deepMerge formed.distinct, holds]
      dsimp only
      rw [ih (formed_of_lookup formed holds) found, valueAt_cons old key path]
      cases old.valueAt [key] with
      | none => cases path <;> rfl
      | some inner => rfl
    | _ => cases found

/-- Outside of the merge the result is what was there. -/
theorem valueAt_of_absent (absent : merge.valueAt path = none)
    (above : ∀ first value, first <+: path → merge.valueAt first = some value →
      value.isMapping)
    (old : Value) : (deepMerge old merge).valueAt path = old.valueAt path := by
  induction path generalizing merge old with
  | nil => cases absent
  | cons key path ih =>
    cases merge with
    | mapping entries =>
      rw [valueAt_deepMerge formed.distinct]
      cases holds : lookup key entries with
      | none => rfl
      | some below =>
        have step (first : List Value) : (Value.mapping entries).valueAt
              (key :: first) = below.valueAt first := by
          rw [Value.valueAt, holds, Option.bind_some]
        dsimp only
        rw [ih (formed_of_lookup formed holds) (step path ▸ absent),
          valueAt_cons old key path]
        · cases old.valueAt [key] with
          | none =>
            cases path with
            | nil => cases step [] ▸ absent
            | cons => rfl
          | some inner => rfl
        · intro first value within found
          exact above (key :: first) value
            ((List.prefix_cons_inj key).mpr within) (step first ▸ found)
    | _ => cases above [] _ List.nil_prefix rfl

omit formed

/-- A mapping with each key once, at every level. -/
structure MergeMapping where
  entries : List (Value × Value)
  formed : (Value.mapping entries).Formed

/-- The values of the merge that are no mappings are those of the result,
mappings on both sides become one with the keys of both, all else is what the
configuration had, and a second merge changes nothing. -/
theorem useMerge_reads (merge : MergeMapping) (config : List (Value × Value)) :
    let lowered := Value.mapping (useLowercase merge.entries)
    let merged := Value.mapping (useMerge merge.entries config)
    (∀ path value, lowered.valueAt path = some value → value.isMapping = false →
      merged.valueAt path = some value) ∧
    (∀ path olds entries, (Value.mapping config).valueAt path =
      some (.mapping olds) →
      lowered.valueAt path = some (.mapping entries) →
      ∃ result, merged.valueAt path = some (.mapping result) ∧ ∀ key,
        (lookup key result).isSome =
          ((lookup key olds).isSome || (lookup key entries).isSome)) ∧
    (∀ path, lowered.valueAt path = none →
      (∀ first value, first <+: path → lowered.valueAt first = some value →
        value.isMapping) →
      merged.valueAt path = (Value.mapping config).valueAt path) ∧
    useMerge merge.entries (useMerge merge.entries config) =
      useMerge merge.entries config := by
  intro lowered merged
  have formed : lowered.Formed := formed_useLowercase merge.formed
  have result : merged = deepMerge (.mapping config) lowered := rfl
  refine ⟨fun path value found plain => ?_,
    fun path olds entries mine found => ?_,
    fun path absent above =>
      valueAt_of_absent formed absent above (.mapping config),
    ?_⟩
  · rw [result, valueAt_of_found formed found, deepMerge_of_isMapping plain]
  · rw [result, valueAt_of_found formed found, mine]
    exact ⟨_, rfl, isSome_mergeEntries olds entries⟩
  · exact Value.mapping.inj (deepMerge_deepMerge formed (.mapping config))

/-! ### A merge with a mapping below a key -/

def dnsConfig : List (Value × Value) :=
  [(.string "mode", .string "rule"),
    (.string "dns",
      .mapping [(.string "enable", .bool false), (.string "ipv6", .bool true)])]

/-- The key is written in capitals, and the mapping below it is not lowered. -/
def dnsMerge : MergeMapping where
  entries := [(.string "DNS", .mapping [(.string "enable", .bool true)])]
  formed := by
    refine formed_cons.mpr ⟨by simp, ?_, .mapping List.nodup_nil nofun⟩
    exact formed_cons.mpr ⟨by simp, .other rfl, .mapping List.nodup_nil nofun⟩

theorem merge_turns_dns_on :
    let merged := Value.mapping (useMerge dnsMerge.entries dnsConfig)
    merged.valueAt [.string "dns", .string "enable"] = some (.bool true) ∧
    merged.valueAt [.string "dns", .string "ipv6"] = some (.bool true) ∧
    ∃ result, merged.valueAt [.string "dns"] = some (.mapping result) ∧
      (lookup (.string "ipv6") result).isSome := by
  have lowered : useLowercase dnsMerge.entries =
      [(.string "dns", .mapping [(.string "enable", .bool true)])] := by
    decide +kernel
  obtain ⟨plain, both, absent, -⟩ := useMerge_reads dnsMerge dnsConfig
  rw [lowered] at plain both absent
  obtain ⟨result, found, keys⟩ := both [.string "dns"] _ _ rfl rfl
  refine ⟨plain _ _ rfl rfl, (absent _ rfl ?_).trans rfl, result, found, keys _⟩
  intro first value within holds
  rcases List.prefix_cons_iff.mp within with rfl | ⟨rest, rfl, below⟩
  · cases holds
    rfl
  rcases List.prefix_cons_iff.mp below with rfl | ⟨rest, rfl, _⟩
  · cases holds
    rfl
  · cases holds

end KyClash.Configuration
