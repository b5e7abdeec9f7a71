import Mathlib.Data.List.AList

/-!
# Finite tables

A `KeyTable` is an association list without repeated keys: Mathlib's `AList`
at a constant family.  This module adds the two whole-table operations that
programs use beside lookup, insertion and deletion: dropping the entries
whose value fails a test, and changing every value.
-/

abbrev KeyTable (κ ν : Type) := AList fun _ : κ => ν

namespace KeyTable

variable {κ ν ω : Type}

def size (table : KeyTable κ ν) : Nat :=
  table.entries.length

/-- Keep the entries whose value passes the test. -/
def keep (test : ν → Bool) (table : KeyTable κ ν) : KeyTable κ ν where
  entries := table.entries.filter fun entry => test entry.2
  nodupKeys := table.nodupKeys.sublist List.filter_sublist

def mapValues (change : ν → ω) (table : KeyTable κ ν) : KeyTable κ ω where
  entries := table.entries.map (.map id fun _ => change)
  nodupKeys := table.nodupKeys.map₂ fun _ => change

variable (change : ν → ω) (test : ν → Bool) (table : KeyTable κ ν)

@[simp] theorem size_mapValues :
    size (mapValues change table) = size table := by
  simp [size, mapValues]

theorem mapValues_keep (test : ω → Bool) :
    keep test (mapValues change table) =
      mapValues change (keep (test ∘ change) table) := by
  apply AList.ext
  simp only [keep, mapValues, List.filter_map]
  rfl

theorem size_eq_length_keys : size table = table.keys.length := by
  rw [size, AList.keys, List.keys, List.length_map]

theorem size_keep_le : size (keep test table) ≤ size table :=
  List.length_filter_le _ _

variable [DecidableEq κ] (key : κ) (value : ν)

@[simp] theorem lookup_mapValues :
    (mapValues change table).lookup key = (table.lookup key).map change :=
  List.dlookup_map₂ key

theorem mapValues_erase :
    (mapValues change table).erase key =
      mapValues change (table.erase key) := by
  apply AList.ext
  change List.kerase key (table.entries.map _) =
    (List.kerase key table.entries).map _
  induction table.entries with
  | nil => rfl
  | cons entry entries ih =>
    by_cases same : key = entry.1
    · simp [same, Sigma.map]
    · have changed : key ≠
          (Sigma.map id (fun _ => change) entry : (_ : κ) × ω).1 := same
      rw [List.map_cons, List.kerase_cons_ne changed, ih,
        List.kerase_cons_ne same, List.map_cons]

theorem mapValues_insert :
    (mapValues change table).insert key (change value) =
      mapValues change (table.insert key value) := by
  have erased := congrArg AList.entries (mapValues_erase change table key)
  apply AList.ext
  change _ :: List.kerase key _ = List.map _ (_ :: List.kerase key _)
  exact congrArg _ erased

theorem lookup_keep :
    (keep test table).lookup key = (table.lookup key).filter test := by
  ext value
  rw [Option.filter_eq_some_iff]
  change value ∈ (keep test table).lookup key ↔ value ∈ table.lookup key ∧ _
  rw [AList.mem_lookup_iff, AList.mem_lookup_iff]
  simp [keep]

theorem size_erase_le : size (table.erase key) ≤ size table := by
  rw [size_eq_length_keys, size_eq_length_keys, AList.keys_erase]
  exact List.length_erase_le

theorem size_insert_le : size (table.insert key value) ≤ size table + 1 := by
  rw [size_eq_length_keys, AList.keys_insert, List.length_cons,
    size_eq_length_keys]
  exact Nat.succ_le_succ List.length_erase_le

theorem size_insert_of_mem {table : KeyTable κ ν} {key : κ} {old : ν}
    (found : table.lookup key = some old) (value : ν) :
    size (table.insert key value) = size table := by
  have member : key ∈ table.keys := by
    rw [← AList.mem_keys, ← AList.lookup_isSome, found]
    rfl
  have positive := List.length_pos_of_mem member
  rw [size_eq_length_keys, AList.keys_insert, List.length_cons,
    size_eq_length_keys, List.length_erase_of_mem member]
  omega

end KeyTable
