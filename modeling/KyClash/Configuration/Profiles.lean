import Mathlib.Data.List.Basic
import Mathlib.Data.List.Perm.Basic
import KyClash.Configuration.DataModify

/-!
# The list of profiles

`IProfiles` of `config/profiles.rs` with the operations that are run on a
copy of the committed list.  A list that is absent counts as an empty one.

`reorder` takes the list out of the structure before it looks for the two
items, and puts it back only if it finds both.
-/

namespace KyClash.Configuration

structure PrfSelected where
  name : Option String
  now : Option String
  deriving DecidableEq, Repr

structure PrfExtra where
  upload : Nat
  download : Nat
  total : Nat
  expire : Nat
  deriving DecidableEq, Repr

structure PrfOption where
  userAgent : Option String := none
  withProxy : Option Bool := none
  selfProxy : Option Bool := none
  updateInterval : Option Nat := none
  timeoutSeconds : Option Nat := none
  dangerAcceptInvalidCerts : Option Bool := none
  allowAutoUpdate : Option Bool := none
  merge : Option String := none
  script : Option String := none
  rules : Option String := none
  proxies : Option String := none
  groups : Option String := none
  deriving DecidableEq, Repr

structure PrfItem where
  uid : Option String := none
  itype : Option String := none
  name : Option String := none
  file : Option String := none
  desc : Option String := none
  url : Option String := none
  selected : Option (List PrfSelected) := none
  extra : Option PrfExtra := none
  updated : Option Nat := none
  option : Option PrfOption := none
  home : Option String := none
  fileData : Option String := none
  deriving DecidableEq, Repr

structure IProfiles where
  current : Option String
  items : Option (List PrfItem)
  deriving DecidableEq, Repr

inductive ProfilesError where
  | uidMissing
  | fileMissing
  | write
  | save
  deriving DecidableEq, Repr

/-- An item of the list has this uid. -/
def Listed (uid : String) (items : List PrfItem) : Prop :=
  ∃ item ∈ items, item.uid = some uid

instance (uid : String) (items : List PrfItem) : Decidable (Listed uid items) :=
  inferInstanceAs (Decidable (∃ item ∈ items, item.uid = some uid))

def DistinctUids (items : List PrfItem) : Prop :=
  (items.filterMap (·.uid)).Nodup

instance (items : List PrfItem) : Decidable (DistinctUids items) :=
  inferInstanceAs (Decidable (items.filterMap (·.uid)).Nodup)

namespace IProfiles

def list (profiles : IProfiles) : List PrfItem :=
  profiles.items.getD []

/-- `patch_config` changes the current profile to a listed one. -/
def patchConfig (patch : IProfiles) (profiles : IProfiles) : IProfiles where
  current :=
    match patch.current with
    | some current =>
      if Listed current profiles.list then some current
      else profiles.current
    | none => profiles.current
  items := some profiles.list

/-- `append_item`; `writes` tells whether the file of the item is written. -/
def appendItem (writes : Bool) (item : PrfItem) (profiles : IProfiles) :
    Except ProfilesError IProfiles := do
  if item.uid.isNone then
    throw .uidMissing
  if item.fileData.isSome then
    if item.file.isNone then
      throw .fileMissing
    if !writes then
      throw .write
  let current :=
    if profiles.current.isNone &&
        (item.itype = some "remote" || item.itype = some "local") then
      item.uid
    else
      profiles.current
  return {
    current
    items := some (profiles.list ++ [{ item with fileData := none }]) }

/-- The loop of `reorder` for one of its two ids: the last index wins. -/
def lastIndex (uid : String) : List PrfItem → Nat → Option Nat → Option Nat
  | [], _, found => found
  | item :: items, index, found =>
    lastIndex uid items (index + 1)
      (if item.uid = some uid then some index else found)

/-- The item at one index is put at another.  No index outside of the list is
asked for. -/
def moveItem (items : List PrfItem) (oldIndex newIndex : Nat) : List PrfItem :=
  match items[oldIndex]? with
  | some item => (items.eraseIdx oldIndex).insertIdx newIndex item
  | none => items

/-- `reorder`; `saves` tells whether the file of the profiles is saved. -/
def reorder (saves : Bool) (activeID overID : String) (profiles : IProfiles) :
    Except ProfilesError IProfiles :=
  let items := profiles.list
  let taken := { profiles with items := none }
  match lastIndex activeID items 0 none, lastIndex overID items 0 none with
  | some oldIndex, some newIndex =>
    if saves then
      .ok { taken with items := some (moveItem items oldIndex newIndex) }
    else
      .error .save
  -- The early return leaves the list taken out.
  | _, _ => .ok taken

end IProfiles

/-- The active item stands where the other one was, and the rest keeps its
order.  A list without one of them is left alone. -/
structure Rearranged (activeID overID : String) (before after : List PrfItem) :
    Prop where
  perm : after.Perm before
  moved : ∀ (oldIndex newIndex : Nat) (active passed : PrfItem),
    before[oldIndex]? = some active → active.uid = some activeID →
      before[newIndex]? = some passed → passed.uid = some overID →
      after[newIndex]? = some active ∧
        after.eraseIdx newIndex = before.eraseIdx oldIndex
  unchanged : ¬(Listed activeID before ∧ Listed overID before) → after = before

variable {items : List PrfItem} {uid : String} {item : PrfItem} {index : Nat}

private theorem not_listed_nil : ¬Listed uid [] := by
  rintro ⟨item, member, -⟩
  cases member

private theorem listed_cons :
    Listed uid (item :: items) ↔ item.uid = some uid ∨ Listed uid items := by
  simp [Listed]

theorem listed_of_getElem? (found : items[index]? = some item)
    (named : item.uid = some uid) : Listed uid items :=
  ⟨item, List.mem_of_getElem? found, named⟩

theorem DistinctUids.index_unique (distinct : DistinctUids items)
    {left right : Nat} {first second : PrfItem}
    (atLeft : items[left]? = some first) (named : first.uid = some uid)
    (atRight : items[right]? = some second) (same : second.uid = some uid) :
    left = right := by
  have apart := List.pairwise_filterMap.mp distinct
  obtain ⟨leftInside, leftItem⟩ := List.getElem?_eq_some_iff.mp atLeft
  obtain ⟨rightInside, rightItem⟩ := List.getElem?_eq_some_iff.mp atRight
  rw [List.pairwise_iff_getElem] at apart
  rcases Nat.lt_trichotomy left right with less | equal | greater
  · have differ := apart left right leftInside rightInside less
    rw [leftItem, rightItem] at differ
    exact absurd rfl (differ uid named uid same)
  · exact equal
  · have differ := apart right left rightInside leftInside greater
    rw [leftItem, rightItem] at differ
    exact absurd rfl (differ uid same uid named)

namespace IProfiles

theorem lastIndex_spec (uid : String) (items : List PrfItem) (index : Nat)
    (found : Option Nat) :
    (¬Listed uid items ∧ lastIndex uid items index found = found) ∨
      ∃ offset item, items[offset]? = some item ∧ item.uid = some uid ∧
        lastIndex uid items index found = some (index + offset) := by
  induction items generalizing index found with
  | nil => exact .inl ⟨not_listed_nil, rfl⟩
  | cons item items ih =>
    rw [lastIndex]
    rcases ih (index + 1) (if item.uid = some uid then some index else found)
      with ⟨absent, kept⟩ | ⟨offset, other, at_, named, last⟩
    · by_cases matching : item.uid = some uid
      · rw [if_pos matching] at kept ⊢
        exact .inr ⟨0, item, rfl, matching, kept⟩
      · rw [if_neg matching] at kept ⊢
        exact .inl
          ⟨fun listed => (listed_cons.mp listed).elim matching absent, kept⟩
    · refine .inr ⟨offset + 1, other, at_, named, ?_⟩
      rw [last]
      congr 1
      omega

private theorem lastIndex_eq (distinct : DistinctUids items)
    (found : items[index]? = some item) (named : item.uid = some uid) :
    lastIndex uid items 0 none = some index := by
  rcases lastIndex_spec uid items 0 none with
    ⟨absent, -⟩ | ⟨offset, other, at_, same, last⟩
  · exact absurd (listed_of_getElem? found named) absent
  · rw [last, Nat.zero_add, distinct.index_unique at_ same found named]

private theorem lastIndex_eq_none (absent : ¬Listed uid items) :
    lastIndex uid items 0 none = none := by
  rcases lastIndex_spec uid items 0 none with
    ⟨-, kept⟩ | ⟨offset, item, at_, named, -⟩
  · exact kept
  · exact absurd (listed_of_getElem? at_ named) absent

section Move

variable {oldIndex newIndex : Nat} {item : PrfItem}

section

variable (found : items[oldIndex]? = some item)
include found

theorem moveItem_eq :
    moveItem items oldIndex newIndex =
      (items.eraseIdx oldIndex).insertIdx newIndex item := by
  rw [moveItem, found]

theorem length_eraseIdx_le (inside : newIndex < items.length) :
    newIndex ≤ (items.eraseIdx oldIndex).length := by
  have removed := (List.getElem?_eq_some_iff.mp found).1
  rw [List.length_eraseIdx_of_lt removed]
  omega

private theorem moveItem_perm (inside : newIndex < items.length) :
    (moveItem items oldIndex newIndex).Perm items := by
  obtain ⟨removed, same⟩ := List.getElem?_eq_some_iff.mp found
  rw [moveItem_eq found]
  refine (List.perm_insertIdx item _ (length_eraseIdx_le found inside)).trans ?_
  rw [← same]
  exact List.getElem_cons_eraseIdx_perm removed

private theorem getElem?_moveItem (inside : newIndex < items.length) :
    (moveItem items oldIndex newIndex)[newIndex]? = some item := by
  rw [moveItem_eq found, List.getElem?_insertIdx_self,
    if_pos (length_eraseIdx_le found inside)]

private theorem eraseIdx_moveItem :
    (moveItem items oldIndex newIndex).eraseIdx newIndex =
      items.eraseIdx oldIndex := by
  rw [moveItem_eq found, List.eraseIdx_insertIdx_self]

end

end Move

section Reorder

variable {profiles next : IProfiles} {saves : Bool} {activeID overID : String}

/-- With both items in the list. -/
theorem reorder_rearranges (distinct : DistinctUids profiles.list)
    (active : Listed activeID profiles.list)
    (passed : Listed overID profiles.list)
    (reordered : profiles.reorder saves activeID overID = .ok next) :
    Rearranged activeID overID profiles.list next.list := by
  obtain ⟨activeItem, member, activeNamed⟩ := active
  obtain ⟨oldIndex, atOld⟩ := List.mem_iff_getElem?.mp member
  obtain ⟨overItem, overMember, overNamed⟩ := passed
  obtain ⟨newIndex, atNew⟩ := List.mem_iff_getElem?.mp overMember
  have inside := (List.getElem?_eq_some_iff.mp atNew).1
  have moved : next.list = moveItem profiles.list oldIndex newIndex := by
    rw [reorder, lastIndex_eq distinct atOld activeNamed,
      lastIndex_eq distinct atNew overNamed] at reordered
    cases saves with
    | false => cases reordered
    | true =>
      cases reordered
      rfl
  rw [moved]
  refine ⟨moveItem_perm atOld inside, ?_, ?_⟩
  · intro old new first second atFirst firstNamed atSecond secondNamed
    cases distinct.index_unique atFirst firstNamed atOld activeNamed
    cases distinct.index_unique atSecond secondNamed atNew overNamed
    exact ⟨getElem?_moveItem atFirst inside, eraseIdx_moveItem atFirst⟩
  · intro absent
    exact absurd
      ⟨⟨activeItem, member, activeNamed⟩, ⟨overItem, overMember, overNamed⟩⟩
      absent

/-- With one of them missing the list is gone. -/
theorem reorder_forgets
    (absent : ¬(Listed activeID profiles.list ∧ Listed overID profiles.list))
    (reordered : profiles.reorder saves activeID overID = .ok next) :
    next.list = [] := by
  rw [reorder] at reordered
  by_cases active : Listed activeID profiles.list
  · have passed : ¬Listed overID profiles.list :=
      fun listed => absent ⟨active, listed⟩
    rw [lastIndex_eq_none passed] at reordered
    cases index : lastIndex activeID profiles.list 0 none with
    | none | some =>
      rw [index] at reordered
      cases reordered
      rfl
  · rw [lastIndex_eq_none active] at reordered
    cases reordered
    rfl

end Reorder

/-- `profiles_reorder_safe`, in any run of accesses to the profiles: a call
that succeeds rearranges the committed list exactly if both items are in it,
or if there is nothing to lose. -/
theorem reorder_rearranges_iff {data : Draft IProfiles}
    {shared after : Shared IProfiles ProfilesError}
    (reached : Shared.Reached data shared) {call : Nat} {saves : Bool}
    {activeID overID : String}
    (finishes : shared.step (.finish call) = some after)
    (succeeds : after.calls[call]? =
      some ⟨IProfiles.reorder saves activeID overID, .leaving (.ok ())⟩)
    (distinct : DistinctUids shared.dataArc.list) :
    Rearranged activeID overID shared.dataArc.list after.dataArc.list ↔
      (Listed activeID shared.dataArc.list ∧
          Listed overID shared.dataArc.list) ∨
        shared.dataArc.list = [] := by
  have reordered := reached.coherent.commits finishes succeeds
  by_cases both : Listed activeID shared.dataArc.list ∧
    Listed overID shared.dataArc.list
  · have rearranged := reorder_rearranges distinct both.1 both.2 reordered
    exact ⟨fun _ => .inl both, fun _ => rearranged⟩
  have gone := reorder_forgets both reordered
  rw [gone]
  constructor
  · intro rearranged
    exact .inr (rearranged.unchanged both).symm
  · rintro (listed | empty)
    · exact absurd listed both
    · rw [empty]
      refine ⟨.refl [], ?_, fun _ => rfl⟩
      intro old new active passed atOld
      cases atOld

end IProfiles

def threeProfiles : IProfiles where
  current := some "a"
  items := some [{ uid := some "a" }, { uid := some "b" }, { uid := some "c" }]

/-- The profiles when a reorder has changed its copy. -/
def reordering (activeID overID : String) : Shared IProfiles ProfilesError where
  data := .new threeProfiles
  stamp := 0
  modifying := true
  calls := [⟨IProfiles.reorder true activeID overID, .editing threeProfiles 0⟩]

theorem reached_reordering (activeID overID : String) :
    Shared.Reached (.new threeProfiles) (reordering activeID overID) :=
  Transition.reaches_of_run .start
    [.begin (IProfiles.reorder true activeID overID), .acquire 0, .copy 0]
    (fun _ _ _ => trivial) rfl

theorem listed_profiles_are_rearranged :
    ∃ after, (reordering "a" "c").step (.finish 0) = some after ∧
      Rearranged "a" "c" (reordering "a" "c").dataArc.list after.dataArc.list ∧
      after.dataArc.list.map (·.uid) = [some "b", some "c", some "a"] := by
  refine ⟨_, rfl, ?_, by decide⟩
  exact (@IProfiles.reorder_rearranges_iff _ _ _ (reached_reordering "a" "c")
    0 true "a" "c" rfl rfl (by decide)).mpr (.inl (by decide))

/-- One of the ids is unknown, and all profiles are lost. -/
theorem unlisted_profile_empties_the_list :
    ∃ after, (reordering "a" "z").step (.finish 0) = some after ∧
      Shared.Reached (.new threeProfiles) (reordering "a" "z") ∧
      DistinctUids (reordering "a" "z").dataArc.list ∧
      after.calls[0]? =
        some ⟨IProfiles.reorder true "a" "z", .leaving (.ok ())⟩ ∧
      ¬Rearranged "a" "z" (reordering "a" "z").dataArc.list
        after.dataArc.list := by
  refine ⟨_, rfl, reached_reordering "a" "z", by decide, rfl, ?_⟩
  intro rearranged
  have same := rearranged.unchanged (by decide)
  cases same

end KyClash.Configuration
