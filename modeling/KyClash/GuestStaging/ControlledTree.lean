import KyClash.Codec.Delimited
import KyClash.Data.Text
import Mathlib.Data.List.Induction
import Mathlib.Data.List.Sort

/-!
# The digest of a staged tree

`digestControlledTree` of `externalpeergueststaging/transaction.go`.  A tree is
what `Lstat`, `ReadDir` and `ReadFile` return for the paths below its root; it
does not change during a digest.  SHA-256 is not modelled: the result holds
the bytes that are hashed.  Every error is `ErrGuestStaging`, here `none`.
-/

namespace KyClash.GuestStaging

abbrev Bytes := List UInt8

def maximumAppFileSize : Nat := 512 * 1024 * 1024
def maximumAppTreeSize : UInt64 := 2 * 1024 * 1024 * 1024
def maximumAppEntries : Nat := 4096
def maximumAppDepth : Nat := 16

/-- The name of a directory entry, as the system gives it. -/
@[ext]
structure FileName where
  bytes : Bytes
  nonempty : bytes ≠ []
  noNul : 0 ∉ bytes
  noSlash : '/'.toUInt8 ∉ bytes
  deriving DecidableEq

def base (path : Bytes) : Bytes :=
  if path = [] then
    ['.'.toUInt8]
  else
    let trimmed := path.reverse.dropWhile (· == '/'.toUInt8)
    let last := (trimmed.takeWhile (· != '/'.toUInt8)).reverse
    if last = [] then ['/'.toUInt8] else last

def fixedBaseName (name : Bytes) : Bool :=
  name != [] && name != ['.'.toUInt8] && name != ['.'.toUInt8, '.'.toUInt8] &&
    base name == name

/-- Bits of `fs.FileMode`. -/
def modeDir : UInt32 := 0x80000000
def modeSymlink : UInt32 := 0x08000000
def modeType : UInt32 := 0x8f280000

/-- The fields of `syscall.Stat_t` that are read. -/
structure Stat where
  dev : UInt64
  ino : UInt64
  uid : UInt32
  gid : UInt32
  nlink : UInt64

structure FileInfo where
  mode : UInt32
  size : Int
  modTime : Int
  sys : Option Stat

namespace FileInfo

variable (info : FileInfo)

def isDir : Bool := info.mode &&& modeDir != 0
def isSymlink : Bool := info.mode &&& modeSymlink != 0
def isRegular : Bool := info.mode &&& modeType == 0
def perm : UInt32 := info.mode &&& 0o777
def writableByOthers : Bool := info.perm &&& 0o022 != 0

end FileInfo

structure FileIdentity where
  device : UInt64
  inode : UInt64
  size : UInt64
  uid : UInt32
  gid : UInt32
  mode : UInt32
  links : UInt64
  modifiedUnixNano : Int
  deriving DecidableEq

def identityFromInfo (info : FileInfo) : Option FileIdentity :=
  if info.size < 0 then
    none
  else
    info.sys.map fun stat => {
      device := stat.dev
      inode := stat.ino
      size := .ofNat info.size.toNat
      uid := stat.uid
      gid := stat.gid
      mode := info.perm
      links := stat.nlink
      modifiedUnixNano := info.modTime }

/-- What the calls return for the paths below a root. -/
structure Tree where
  lstat : List FileName → Option FileInfo
  readDir : List FileName → Option (List FileName)
  readFile : List FileName → Option Bytes

/-- The tree at an entry of the root. -/
def Tree.below (tree : Tree) (name : FileName) : Tree where
  lstat path := tree.lstat (name :: path)
  readDir path := tree.readDir (name :: path)
  readFile path := tree.readFile (name :: path)

def decimal (value : Nat) : Bytes :=
  (Nat.toDigits 10 value).map Char.toUInt8

def directoryHeader (perm : UInt32) (relative : Bytes) : Bytes :=
  'd'.toUInt8 :: ':'.toUInt8 :: decimal perm.toNat ++ ':'.toUInt8 ::
    relative ++ [0]

def fileHeader (perm : UInt32) (length : Nat) (relative : Bytes) : Bytes :=
  'f'.toUInt8 :: ':'.toUInt8 :: decimal perm.toNat ++ ':'.toUInt8 ::
    decimal length ++ ':'.toUInt8 :: relative ++ [0]

/-- The path of an entry of the directory with this path. -/
def relativeName (directory : Bytes) (name : FileName) : Bytes :=
  if directory = [] then name.bytes else directory ++ '/'.toUInt8 :: name.bytes

/-- The variables of a digest; `hashed` is what the hasher was given. -/
structure Hashing where
  entries : Nat
  total : UInt64
  hashed : Bytes

/-- One turn of the loop over the children of a directory. -/
def visitChild (visit : Tree → Bytes → Hashing → Option Hashing)
    (uid gid : UInt32) (directory : Tree) (path : Bytes) (hashing : Hashing)
    (name : FileName) : Option Hashing := do
  let child := directory.below name
  let relative := relativeName path name
  let entries := hashing.entries + 1
  guard (entries ≤ maximumAppEntries ∧ fixedBaseName name.bytes)
  let info ← child.lstat []
  guard !info.isSymlink
  let identity ← identityFromInfo info
  guard (identity.uid = uid ∧ identity.gid = gid)
  if info.isDir then
    guard !info.writableByOthers
    let hashed := hashing.hashed ++ directoryHeader info.perm relative
    visit child relative { hashing with entries, hashed }
  else
    guard (info.isRegular ∧ identity.links = 1 ∧ 0 ≤ info.size ∧
      info.size ≤ maximumAppFileSize)
    let data ← child.readFile []
    guard (data.length = info.size)
    let total := hashing.total + .ofNat data.length
    guard (total ≤ maximumAppTreeSize)
    let hashed :=
      hashing.hashed ++ fileHeader info.perm data.length relative ++ data
    return { entries, total, hashed }

/-- `visit` with the number of levels that it may still enter. -/
def visit (uid gid : UInt32) : Nat → Tree → Bytes → Hashing → Option Hashing
  | 0, _, _, _ => none
  | levels + 1, directory, path, hashing => do
    let children ← directory.readDir []
    let sorted :=
      children.insertionSort fun left right => left.bytes ≤ right.bytes
    sorted.foldlM (visitChild (visit uid gid levels) uid gid directory path)
      hashing

/-- The digest is that of `hashed`. -/
structure TreeDigest where
  hashed : Bytes
  total : UInt64
  identity : FileIdentity

def digestControlledTree (root : Tree) (uid gid : UInt32) :
    Option TreeDigest := do
  let info ← root.lstat []
  let identity ← identityFromInfo info
  guard (info.isDir ∧ !info.isSymlink ∧ identity.uid = uid ∧
    identity.gid = gid ∧
    !info.writableByOthers)
  let hashing ← visit uid gid (maximumAppDepth + 1) root [] ⟨0, 0, []⟩
  guard (hashing.entries ≠ 0)
  return ⟨hashing.hashed, hashing.total, identity⟩

/-! ## What is in a tree -/

/-- The kind, the permission bits and the data of an entry. -/
inductive Content where
  | directory (perm : UInt32)
  | file (perm : UInt32) (data : Bytes)
  deriving DecidableEq

namespace Tree

def content (tree : Tree) : Option Content := do
  let info ← tree.lstat []
  if info.isDir then
    return .directory info.perm
  else
    return .file info.perm (← tree.readFile [])

/-- The root is a directory that lists the name. -/
def lists (tree : Tree) (name : FileName) : Bool :=
  (tree.lstat []).any FileInfo.isDir && (tree.readDir []).any (name ∈ ·)

/-- What is found at a path from the root. -/
def find (tree : Tree) : List FileName → Option Content
  | [] => tree.content
  | name :: path =>
    if tree.lists name then (tree.below name).find path else none

end Tree

/-! ## Words of the stream -/

private theorem toNat_toUInt8 {c : Char} (digit : Texts.isDigit 10 c = true) :
    c.toUInt8.toNat = c.toNat ∧ c.toNat ≤ 57 := by
  rw [Texts.isDigit_ten] at digit
  have high : c.toNat ≤ 57 := (Texts.inRange_eq_true.mp digit).2
  refine ⟨?_, high⟩
  rw [Char.toUInt8, UInt32.toNat_toUInt8]
  exact Nat.mod_eq_of_lt (show c.toNat < 256 by omega)

private theorem delimited_decimal :
    Delimited fun value => decimal value ++ [':'.toUInt8] := by
  have digits {value : Nat} {c : Char} (member : c ∈ Nat.toDigits 10 value) :=
    toNat_toUInt8 (Texts.isDigit_of_mem_toDigits (by decide) (by decide) member)
  apply Delimited.terminated
  · apply Function.LeftInverse.injective
      (g := fun bytes => Texts.numeralValue 10
        (bytes.map fun byte => .ofNat byte.toNat))
    intro value
    have back : (decimal value).map (fun byte => Char.ofNat byte.toNat) =
        Nat.toDigits 10 value := by
      rw [decimal, List.map_map]
      refine (List.map_congr_left fun c member => ?_).trans (List.map_id _)
      rw [Function.comp_apply, (digits member).1, Char.ofNat_toNat, id]
    dsimp only
    rw [back]
    exact Texts.numeralValue_toDigits (by decide) (by decide) value
  · intro value member
    obtain ⟨c, inside, colon⟩ := List.mem_map.mp member
    obtain ⟨same, high⟩ := digits inside
    rw [colon] at same
    have value : ':'.toUInt8.toNat = 58 := rfl
    omega

/-- The path of an entry from the root, as `visit` builds it. -/
def relativePath (path : List FileName) : Bytes :=
  path.foldl relativeName []

theorem relativePath_concat (path : List FileName) (name : FileName) :
    relativePath (path ++ [name]) = relativeName (relativePath path) name :=
  List.foldl_concat ..

private theorem relativeName_inj {first second : Bytes} {name other : FileName}
    (same : relativeName first name = relativeName second other) :
    first = second ∧ name = other := by
  have names {left right : FileName} : left.bytes = right.bytes →
      left = right := FileName.ext
  unfold relativeName at same
  split at same
  · next nil =>
    split at same
    · next none => exact ⟨nil.trans none.symm, names same⟩
    · exact absurd (by simp [same]) name.noSlash
  · split at same
    · exact absurd (by simp [← same]) other.noSlash
    · -- The name is what stands after the last slash.
      have reversed := congrArg List.reverse same
      simp only [List.reverse_append, List.reverse_cons, List.append_assoc,
        List.singleton_append] at reversed
      obtain ⟨last, rest⟩ := Delimited.cut_inj (by simpa using name.noSlash)
        (by simpa using other.noSlash) reversed
      exact ⟨List.reverse_injective rest, names (List.reverse_injective last)⟩

private theorem relativePath_injective : Function.Injective relativePath := by
  have concat_ne (path : List FileName) (name : FileName) : relativePath
        (path ++ [name]) ≠ [] := by
    rw [relativePath_concat, relativeName]
    split
    · exact name.nonempty
    · simp
  intro first
  induction first using List.reverseRecOn with
  | nil =>
    intro second same
    cases second using List.reverseRecOn with
    | nil => rfl
    | append_singleton second other =>
      exact absurd same.symm (concat_ne second other)
  | append_singleton first name ih =>
    intro second same
    cases second using List.reverseRecOn with
    | nil => exact absurd same (concat_ne first name)
    | append_singleton second other =>
      rw [relativePath_concat, relativePath_concat] at same
      obtain ⟨paths, rfl⟩ := relativeName_inj same
      rw [ih paths]

private theorem delimited_relativePath :
    Delimited fun path => relativePath path ++ [0] := by
  apply Delimited.terminated relativePath_injective
  intro path
  induction path using List.reverseRecOn with
  | nil => exact List.not_mem_nil
  | append_singleton path name ih =>
    rw [relativePath_concat, relativeName]
    split
    · exact name.noNul
    · have slash : (0 : UInt8) ≠ '/'.toUInt8 := by decide
      simp [ih, name.noNul, slash]

/-- What is hashed for an entry. -/
def word : List FileName × Content → Bytes
  | (path, .directory perm) => directoryHeader perm (relativePath path)
  | (path, .file perm data) =>
    fileHeader perm data.length (relativePath path) ++ data

private theorem delimited_word : Delimited word := by
  rintro ⟨path, content⟩ ⟨other, found⟩ rest more same
  have kinds : 'd'.toUInt8 ≠ 'f'.toUInt8 := by decide
  cases content with
  | directory perm =>
    cases found with
    | directory mode =>
      have fields : decimal perm.toNat ++ [':'.toUInt8] ++
            (relativePath path ++ [0] ++ rest) =
          decimal mode.toNat ++ [':'.toUInt8] ++
            (relativePath other ++ [0] ++ more) := by
        simpa [word, directoryHeader] using same
      obtain ⟨perms, fields⟩ := delimited_decimal fields
      obtain ⟨rfl, rfl⟩ := delimited_relativePath fields
      obtain rfl := UInt32.toNat_inj.mp perms
      exact ⟨rfl, rfl⟩
    | file mode data => exact absurd (List.cons.inj same).1 kinds
  | file perm data =>
    cases found with
    | directory mode => exact absurd (List.cons.inj same).1.symm kinds
    | file mode bytes =>
      have fields : decimal perm.toNat ++ [':'.toUInt8] ++
            (decimal data.length ++ [':'.toUInt8] ++
              (relativePath path ++ [0] ++ (data ++ rest))) =
          decimal mode.toNat ++ [':'.toUInt8] ++
            (decimal bytes.length ++ [':'.toUInt8] ++
              (relativePath other ++ [0] ++ (bytes ++ more))) := by
        simpa [word, fileHeader] using same
      -- The length comes before the data, which may hold any bytes.
      obtain ⟨perms, fields⟩ := delimited_decimal fields
      obtain ⟨lengths, fields⟩ := delimited_decimal fields
      obtain ⟨rfl, contents⟩ := delimited_relativePath fields
      obtain ⟨rfl, rfl⟩ := List.append_inj contents lengths
      obtain rfl := UInt32.toNat_inj.mp perms
      exact ⟨rfl, rfl⟩

/-! ## What a visit hashes -/

namespace Tree

variable (tree : Tree) (directory path : List FileName) (content : Content)

/-- The tree stands at `directory` and has the content at `path`. -/
def Has : Prop :=
  ∃ rest, path = directory ++ rest ∧ tree.find rest = some content

/-- An entry of the tree has the content at `path`. -/
def HasBelow : Prop :=
  ∃ name, tree.lists name = true ∧
    (tree.below name).Has (directory ++ [name]) path content

theorem has_iff :
    tree.Has directory path content ↔
      path = directory ∧ tree.content = some content ∨
        tree.HasBelow directory path content := by
  constructor
  · rintro ⟨rest, rfl, found⟩
    cases rest with
    | nil => exact .inl ⟨List.append_nil _, found⟩
    | cons name rest =>
      obtain ⟨listed, found⟩ := Option.ite_none_right_eq_some.mp found
      exact .inr ⟨name, listed, rest, by simp, found⟩
  · rintro (⟨rfl, found⟩ | ⟨name, listed, rest, rfl, found⟩)
    · exact ⟨[], (List.append_nil _).symm, found⟩
    · exact ⟨name :: rest, by simp, (if_pos listed).trans found⟩

end Tree

/-- The hasher is given the words of the entries for which `holds`, in some
order. -/
def Adds (before after : Hashing) (holds : List FileName → Content → Prop) :
    Prop :=
  ∃ entries : List (List FileName × Content),
    after.hashed = before.hashed ++ entries.flatMap word ∧
      ∀ path content, (path, content) ∈ entries ↔ holds path content

section

variable {uid gid : UInt32} {tree : Tree} {directory : List FileName}
  {before after : Hashing}

theorem Adds.trans {between : Hashing}
    {first second : List FileName → Content → Prop}
    (adds : Adds before between first) (more : Adds between after second) :
    Adds before after fun path content => first path content ∨ second path
      content := by
  obtain ⟨entries, hashed, members⟩ := adds
  obtain ⟨others, hashed', members'⟩ := more
  refine ⟨entries ++ others, by simp [hashed', hashed], ?_⟩
  intro path content
  rw [List.mem_append, members, members']

theorem Adds.congr {first second : List FileName → Content → Prop}
    (adds : Adds before after first)
    (same : ∀ path content, first path content ↔ second path content) :
    Adds before after second := by
  obtain ⟨entries, hashed, members⟩ := adds
  exact ⟨entries, hashed,
    fun path content => (members path content).trans (same path content)⟩

private theorem adds_word {found : Content}
    (content : tree.content = some found)
    (hashed : after.hashed = before.hashed ++ word (directory, found)) :
    Adds before after fun path content => path = directory ∧ tree.content = some
      content := by
  refine ⟨[(directory, found)], by simp [hashed], ?_⟩
  simp [content, eq_comm]

/-- A visit of any directory adds what is below it. -/
def Visits (visit : Tree → Bytes → Hashing → Option Hashing) : Prop :=
  ∀ {tree directory before after}, (tree.lstat []).any FileInfo.isDir →
    visit tree (relativePath directory) before = some after →
      Adds before after (tree.HasBelow directory)

section

variable {visit : Tree → Bytes → Hashing → Option Hashing}
  (visits : Visits visit)
include visits

private theorem visitChild_adds {name : FileName}
    (visited : visitChild visit uid gid tree (relativePath directory) before
        name = some after) :
    Adds before after ((tree.below name).Has (directory ++ [name])) := by
  simp only [visitChild, Option.bind_eq_bind, Option.bind_eq_some_iff,
    ← relativePath_concat] at visited
  obtain ⟨-, -, info, there, -, -, identity, -, -, -, visited⟩ := visited
  split at visited
  · next isDir =>
    obtain ⟨-, -, visited⟩ := Option.bind_eq_some_iff.mp visited
    have content : (tree.below name).content = some (.directory info.perm) := by
      simp [Tree.content, there, isDir]
    have below := visits (by simp [there, isDir]) visited
    apply ((adds_word content rfl).trans below).congr
    intro path content
    exact (Tree.has_iff ..).symm
  · next isFile =>
    simp only [Option.bind_eq_some_iff] at visited
    obtain ⟨-, -, data, read, -, -, -, -, done⟩ := visited
    cases done
    have content : (tree.below name).content = some (.file info.perm data) := by
      simp [Tree.content, there, isFile, read]
    apply (adds_word content (List.append_assoc ..)).congr
    intro path content
    have nothing : ¬(tree.below name).HasBelow (directory ++ [name]) path
        content := by
      rintro ⟨entry, listed, -⟩
      simp [Tree.lists, there, isFile] at listed
    rw [Tree.has_iff, or_iff_left nothing]

private theorem visitChildren_adds {names : List FileName}
    (visited : names.foldlM
        (visitChild visit uid gid tree (relativePath directory)) before =
      some after) :
    Adds before after fun path content => ∃ name ∈ names, (tree.below name).Has
      (directory ++ [name]) path content := by
  induction names generalizing before with
  | nil =>
    cases visited
    exact ⟨[], by simp, by simp⟩
  | cons name names ih =>
    rw [List.foldlM_cons] at visited
    obtain ⟨between, first, rest⟩ := Option.bind_eq_some_iff.mp visited
    exact ((visitChild_adds visits first).trans (ih rest)).congr (by simp)

end

private theorem visit_adds (levels : Nat) : Visits (visit uid gid levels) := by
  induction levels with
  | zero => exact fun _ visited => nomatch visited
  | succ levels ih =>
    intro tree directory before after isDir visited
    obtain ⟨children, read, visited⟩ := Option.bind_eq_some_iff.mp visited
    apply (visitChildren_adds ih visited).congr
    simp [Tree.HasBelow, Tree.lists, isDir, read]

end

private theorem digest_adds {tree : Tree} {uid gid : UInt32}
    {digest : TreeDigest}
    (digested : digestControlledTree tree uid gid = some digest) :
    ∃ entries : List (List FileName × Content),
      digest.hashed = entries.flatMap word ∧
        ∀ path content, (path, content) ∈ entries ↔
          tree.HasBelow [] path content := by
  simp only [digestControlledTree, Option.bind_eq_bind,
    Option.bind_eq_some_iff] at digested
  obtain ⟨info, there, identity, -, _, accepted, hashing, visited, -, -,
    done⟩ := digested
  cases done
  have isDir : info.isDir = true := ((Option.guard_eq_some' ()).mp accepted).1
  have adds : Adds ⟨0, 0, []⟩ hashing (tree.HasBelow []) :=
    visit_adds (maximumAppDepth + 1) (by simp [there, isDir]) visited
  exact adds

private theorem find_eq_some_iff {tree : Tree} {path : List FileName}
    {content : Content} (below : path ≠ []) :
    tree.find path = some content ↔ tree.HasBelow [] path content := by
  have has : tree.Has [] path content ↔ tree.find path = some content := by
    simp [Tree.Has]
  rw [← has, Tree.has_iff]
  simp [below]

/-- Trees that are accepted with the same hash input, whoever owns them, have
the same paths below their roots, with the same kinds, permission bits and
file contents. -/
theorem equal_hash_inputs_are_of_equal_trees {left right : Tree}
    {uid gid uid' gid' : UInt32} {first second : TreeDigest}
    (digested : digestControlledTree left uid gid = some first)
    (other : digestControlledTree right uid' gid' = some second)
    (same : first.hashed = second.hashed) {path : List FileName}
    (below : path ≠ []) : left.find path = right.find path := by
  obtain ⟨entries, hashed, members⟩ := digest_adds digested
  obtain ⟨others, hashed', members'⟩ := digest_adds other
  have nonempty : ∀ entry, word entry ≠ [] := by
    rintro ⟨path, content⟩
    cases content <;> exact List.cons_ne_nil _ _
  obtain rfl : entries = others := by
    apply delimited_word.flatMap_injective nonempty
    rw [← hashed, ← hashed', same]
  apply Option.ext
  intro content
  rw [find_eq_some_iff below, find_eq_some_iff below, ← members, ← members']

def nameA : FileName := ⟨['a'.toUInt8], by decide, by decide, by decide⟩
def nameB : FileName := ⟨['b'.toUInt8], by decide, by decide, by decide⟩

/-- A file `b` beside a directory `a` that holds another file `b`. -/
def stagedTree (owner : UInt32) (listing : List FileName) : Tree where
  lstat path :=
    if path = [] ∨ path = [nameA] then
      some ⟨modeDir ||| 0o755, 0, 0, some ⟨1, 1, owner, 20, 2⟩⟩
    else
      some ⟨0o644, 1, 0, some ⟨1, 2, owner, 20, 1⟩⟩
  readDir path := some (if path = [] then listing else [nameB])
  readFile _ := some [7]

theorem reordered_tree_is_the_same_below_its_root :
    ∃ first second,
      digestControlledTree (stagedTree 501 [nameB, nameA]) 501 20 = some first ∧
        digestControlledTree (stagedTree 0 [nameA, nameB]) 0 20 = some second ∧
        first.hashed = second.hashed ∧
        (stagedTree 501 [nameB, nameA]).find [nameA, nameB] =
          (stagedTree 0 [nameA, nameB]).find [nameA, nameB] := by
  have seen : (digestControlledTree (stagedTree 501 [nameB, nameA]) 501 20).map
          (·.hashed) =
        (digestControlledTree (stagedTree 0 [nameA, nameB]) 0 20).map
          (·.hashed) ∧
      (digestControlledTree (stagedTree 0 [nameA, nameB]) 0 20).isSome := by
    decide +kernel
  obtain ⟨same, accepted⟩ := seen
  obtain ⟨second, right⟩ := Option.isSome_iff_exists.mp accepted
  rw [right] at same
  obtain ⟨first, left, same⟩ := Option.map_eq_some_iff.mp same
  exact ⟨first, second, left, right, same,
    equal_hash_inputs_are_of_equal_trees left right same (List.cons_ne_nil _ _)⟩

end KyClash.GuestStaging
