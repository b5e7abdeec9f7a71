import Mathlib.Algebra.GroupWithZero.Nat
import Mathlib.Data.List.Forall2
import KyClash.Data.Text

/-!
# Masked errors

`mask_url` and `mask_err` of `utils/help.rs`.  An error text falls into URLs
and the text between them, which is copied.  What is written for a URL does
not depend on the values of its query nor on its long path segments.
-/

namespace KyClash.Utils

open Texts

/-- The text before and after the first `://`. -/
def cutScheme : Text → Option (Text × Text)
  | [] => none
  | c :: rest =>
    if [':', '/', '/'].isPrefixOf (c :: rest) then
      some ([], rest.drop 2)
    else
      (cutScheme rest).map fun (left, right) => (c :: left, right)

/-- The scheme with the host, and the path with its first slash. -/
def splitHost (pathPart : Text) : Text × Text :=
  match cutScheme pathPart with
  | none => (pathPart, [])
  | some (scheme, rest) =>
    match cutFirst '/' rest with
    | none => (pathPart, [])
    | some (host, path) => (scheme ++ [':', '/', '/'] ++ host, '/' :: path)

def mask : Text := ['*', '*', '*']

/-- `len` counts bytes. -/
def maskSegment (segment : Text) : Text :=
  if 16 < (segment.map Char.utf8Size).sum then mask else segment

def maskParam (param : Text) : Text :=
  match cutFirst '=' param with
  | some (key, _) => key ++ '=' :: mask
  | none => param

def maskPath (pathPart : Text) : Text :=
  let (schemeAndHost, path) := splitHost pathPart
  if path = [] then schemeAndHost
  else schemeAndHost ++ ['/'].intercalate ((path.splitOn '/').map maskSegment)

def maskUrl (url : Text) : Text :=
  match cutFirst '?' url with
  | none => maskPath url
  | some (pathPart, query) =>
    maskPath pathPart ++ '?' ::
      ['&'].intercalate ((query.splitOn '&').map maskParam)

def isWhitespace (c : Char) : Bool :=
  (9 ≤ c.toNat && c.toNat ≤ 13) || (0x2000 ≤ c.toNat && c.toNat ≤ 0x200A) ||
    [0x20, 0x85, 0xA0, 0x1680, 0x2028, 0x2029, 0x202F, 0x205F, 0x3000].contains
      c.toNat

/-- Whitespace, brackets that close and quotes. -/
def endsUrl (c : Char) : Bool :=
  isWhitespace c || [41, 93, 34, 39].contains c.toNat

def schemeText (secure : Bool) : Text :=
  ['h', 't', 't', 'p'] ++ if secure then ['s'] else []

def startsUrl (text : Text) : Bool :=
  [false, true].any fun secure =>
    (schemeText secure ++ [':', '/', '/']).isPrefixOf text

/-- The text before the first URL, and from it on. -/
def findUrl : Text → Option (Text × Text)
  | [] => none
  | c :: rest =>
    if startsUrl (c :: rest) then
      some ([], c :: rest)
    else
      (findUrl rest).map fun (left, right) => (c :: left, right)

/-- The loop of `mask_err`; each round takes a character at least. -/
def maskLoop : Nat → Text → Text
  | 0, remaining => remaining
  | fuel + 1, remaining =>
    match findUrl remaining with
    | none => remaining
    | some (left, found) =>
      left ++ maskUrl (found.takeWhile (!endsUrl ·)) ++
        maskLoop fuel (found.dropWhile (!endsUrl ·))

def maskErr (err : Text) : Text :=
  maskLoop err.length err

/-- The parts of a URL, none of which holds the separator that ends it. -/
structure Url where
  secure : Bool
  host : Text
  segments : List Text
  query : Option (List Text)
  plainHost : '/' ∉ host ∧ '?' ∉ host
  plainSegments : ∀ segment ∈ segments, '/' ∉ segment ∧ '?' ∉ segment
  plainQuery : ∀ params ∈ query, params ≠ [] ∧ ∀ param ∈ params, '&' ∉ param

namespace Url

def front (url : Url) : Text :=
  schemeText url.secure ++ [':', '/', '/'] ++ url.host

/-- A URL with these functions over its segments and its parameters. -/
def write (url : Url) (segment param : Text → Text) : Text :=
  url.front ++ (url.segments.map segment).flatMap ('/' :: ·) ++
    url.query.elim [] fun params => '?' :: ['&'].intercalate (params.map param)

def text (url : Url) : Text :=
  url.write id id

end Url

private theorem cutScheme_front (secure : Bool) (rest : Text) :
    cutScheme (schemeText secure ++ ':' :: '/' :: '/' :: rest) =
      some (schemeText secure, rest) := by
  cases secure with
  | false | true => rfl

namespace Url

variable (url : Url)

private theorem splitHost_front (segments : List Text) :
    splitHost (url.front ++ segments.flatMap ('/' :: ·)) =
      (url.front, segments.flatMap ('/' :: ·)) := by
  cases segments with
  | nil =>
    have whole : cutFirst '/' url.host = none :=
      cutFirst_eq_none_iff.mpr url.plainHost.1
    simp [splitHost, front, cutScheme_front, whole]
  | cons first rest =>
    have cut : cutFirst '/'
          (url.host ++ '/' :: (first ++ rest.flatMap ('/' :: ·))) =
        some (url.host, first ++ rest.flatMap ('/' :: ·)) :=
      cutFirst_eq_some_iff.mpr ⟨rfl, url.plainHost.1⟩
    simp [splitHost, front, cutScheme_front, cut]

private theorem maskPath_front :
    maskPath (url.front ++ url.segments.flatMap ('/' :: ·)) =
      url.front ++ (url.segments.map maskSegment).flatMap ('/' :: ·) := by
  have plain := url.plainSegments
  generalize url.segments = segments at plain
  rw [maskPath, splitHost_front]
  cases segments with
  | nil => simp
  | cons first rest =>
    have joined := intercalate_eq_flatMap '/' [] (first :: rest)
    have split : ((first :: rest).flatMap ('/' :: ·)).splitOn '/' =
        [] :: first :: rest := by
      rw [List.nil_append] at joined
      rw [← joined]
      apply List.splitOn_intercalate _ _ (List.cons_ne_nil _ _)
      simpa using fun segment member => (plain segment member).1
    have blank : maskSegment [] = [] := rfl
    simp only [split, List.map_cons, blank, intercalate_eq_flatMap]
    rfl

private theorem maskUrl_text :
    maskUrl url.text = url.write maskSegment maskParam := by
  have open_ : '?' ∉ url.front ++ url.segments.flatMap ('/' :: ·) := by
    have scheme : '?' ∉ schemeText url.secure := by
      cases url.secure with
      | false | true => decide
    simp [front, scheme, url.plainHost.2, List.mem_flatMap]
    intro segment member
    exact (url.plainSegments segment member).2
  have plain := url.plainQuery
  simp only [text, write, List.map_id]
  cases query : url.query with
  | none =>
    rw [query] at plain
    simp only [Option.elim_none, List.append_nil, maskUrl,
      cutFirst_eq_none_iff.mpr open_]
    exact url.maskPath_front
  | some params =>
    obtain ⟨nonempty, separate⟩ := plain params query
    simp only [Option.elim_some, maskUrl, cutFirst_eq_some_iff.mpr ⟨rfl, open_⟩,
      maskPath_front,
      List.splitOn_intercalate _ separate nonempty]

/-- The URLs differ in the values of parameters and in long segments only. -/
structure Alike (first second : Url) : Prop where
  front : first.front = second.front
  segments : List.Forall₂ (fun one other => one = other ∨
    16 < (one.map Char.utf8Size).sum ∧ 16 < (other.map Char.utf8Size).sum)
    first.segments second.segments
  query : Option.Rel
    (List.Forall₂ fun one other => one = other ∨ ∃ key value secret, '=' ∉ key ∧
      one = key ++ '=' :: value ∧ other = key ++ '=' :: secret)
    first.query second.query

end Url

private theorem map_eq_of_forall₂ {related : Text → Text → Prop}
    {change : Text → Text}
    (same : ∀ one other, related one other → change one = change other)
    {first second : List Text} (all : List.Forall₂ related first second) :
    first.map change = second.map change := by
  induction all with
  | nil => rfl
  | cons head tail ih => rw [List.map_cons, List.map_cons, same _ _ head, ih]

theorem Url.Alike.maskUrl {first second : Url} (alike : first.Alike second) :
    maskUrl first.text = maskUrl second.text := by
  have segments : first.segments.map maskSegment =
      second.segments.map maskSegment := by
    apply map_eq_of_forall₂ _ alike.segments
    rintro one other (rfl | ⟨long, longer⟩)
    · rfl
    · simp only [maskSegment, if_pos long, if_pos longer]
  have params : ∀ one other, (one = other ∨ ∃ key value secret, '=' ∉ key ∧
      one = key ++ '=' :: value ∧ other = key ++ '=' :: secret) →
      maskParam one = maskParam other := by
    rintro one other (rfl | ⟨key, value, secret, plain, rfl, rfl⟩)
    · rfl
    · simp only [maskParam, cutFirst_eq_some_iff.mpr ⟨rfl, plain⟩]
  have query := alike.query
  rw [maskUrl_text, maskUrl_text, write, write, alike.front, segments]
  revert query
  generalize first.query = one, second.query = other
  rintro (all | -)
  · simp only [Option.elim_some, map_eq_of_forall₂ params all]
  · rfl

/-- A text as its URLs, each with the text before it, and the text behind the
last one. -/
inductive Parts : Text → List (Text × Text) → Text → Prop where
  | tail {text : Text} (free : findUrl text = none) : Parts text [] text
  | url {plain url rest : Text} {parts : List (Text × Text)} {tail : Text}
      (found : findUrl (plain ++ (url ++ rest)) = some (plain, url ++ rest))
      (whole : ∀ c ∈ url, endsUrl c = false)
      (ended : ∀ c ∈ rest.head?, endsUrl c = true)
      (later : Parts rest parts tail) :
      Parts (plain ++ (url ++ rest)) ((plain, url) :: parts) tail

theorem findUrl_spec {text plain found : Text}
    (first : findUrl text = some (plain, found)) :
    text = plain ++ found ∧ startsUrl found = true := by
  induction text generalizing plain with
  | nil => cases first
  | cons c rest ih =>
    rw [findUrl] at first
    split at first
    · next starts =>
      cases first
      exact ⟨rfl, starts⟩
    · obtain ⟨⟨left, right⟩, later, equal⟩ := Option.map_eq_some_iff.mp first
      cases equal
      obtain ⟨rfl, starts⟩ := ih later
      exact ⟨rfl, starts⟩

/-- A URL starts with a letter, which does not end it. -/
theorem takeWhile_ne_nil {found : Text} (starts : startsUrl found = true) :
    found.takeWhile (!endsUrl ·) ≠ [] := by
  cases found with
  | nil => cases starts
  | cons c rest =>
    have letter : c = 'h' := by
      simp [startsUrl, schemeText] at starts
      rcases starts with plain | secure
      · exact plain.1.symm
      · exact secure.1.symm
    rw [letter, List.takeWhile_cons_of_pos (by decide)]
    exact List.cons_ne_nil _ _

private theorem exists_parts (text : Text) :
    ∃ parts tail, Parts text parts tail := by
  induction length : text.length using Nat.strongRecOn generalizing text with
  | _ size ih =>
    cases first : findUrl text with
    | none => exact ⟨[], text, .tail first⟩
    | some cut =>
      obtain ⟨plain, found⟩ := cut
      obtain ⟨rfl, starts⟩ := findUrl_spec first
      have nonempty := List.length_pos_iff.mpr (takeWhile_ne_nil starts)
      have joined :=
        List.takeWhile_append_dropWhile (p := (!endsUrl ·)) (l := found)
      have sizes := congrArg List.length joined
      rw [List.length_append] at length sizes
      obtain ⟨parts, tail, later⟩ :=
        ih _ (by omega) (found.dropWhile (!endsUrl ·)) rfl
      rw [← joined] at first ⊢
      refine ⟨_, tail, .url first ?_ ?_ later⟩
      · intro c member
        simpa using List.all_eq_true.mp List.all_takeWhile c member
      · intro c head
        have stops := List.head?_dropWhile_not (!endsUrl ·) found
        rw [Option.mem_def.mp head] at stops
        simpa using stops

private theorem takeWhile_url {url rest : Text}
    (whole : ∀ c ∈ url, endsUrl c = false)
    (ended : ∀ c ∈ rest.head?, endsUrl c = true) :
    (url ++ rest).takeWhile (!endsUrl ·) = url ∧
      (url ++ rest).dropWhile (!endsUrl ·) = rest := by
  have inside : ∀ c ∈ url, (!endsUrl c) = true := by simpa using whole
  rw [List.takeWhile_append_of_pos inside, List.dropWhile_append_of_pos inside]
  cases rest with
  | nil => simp
  | cons c rest => simp [ended c rfl]

private theorem maskLoop_parts {text tail : Text} {parts : List (Text × Text)}
    (split : Parts text parts tail) {fuel : Nat} (enough : text.length ≤ fuel) :
    maskLoop fuel text =
      (parts.flatMap fun part => part.1 ++ maskUrl part.2) ++ tail := by
  induction split generalizing fuel with
  | tail free =>
    cases fuel with
    | zero => rfl
    | succ fuel => simp [maskLoop, free]
  | url found whole ended later ih =>
    obtain ⟨taken, dropped⟩ := takeWhile_url whole ended
    have nonempty := takeWhile_ne_nil (findUrl_spec found).2
    rw [taken] at nonempty
    have shorter := List.length_pos_iff.mpr nonempty
    simp only [List.length_append] at enough
    cases fuel with
    | zero => omega
    | succ fuel =>
      have rest := @ih fuel (by omega)
      simp [maskLoop, found, taken, dropped, rest]

/-- Error texts that differ only in parameter values and in long segments of
their URLs are masked alike, and every text is copied but for its URLs. -/
theorem masked_errors_hide_secrets :
    (∀ text, ∃ parts tail, Parts text parts tail ∧
        maskErr text =
          (parts.flatMap fun part => part.1 ++ maskUrl part.2) ++ tail) ∧
      ∀ first second parts others tail, Parts first parts tail →
        Parts second others tail →
        List.Forall₂
          (fun part other => part.1 = other.1 ∧
            ∃ one two : Url, part.2 = one.text ∧ other.2 = two.text ∧
              one.Alike two)
          parts others →
        maskErr first = maskErr second := by
  constructor
  · intro text
    obtain ⟨parts, tail, split⟩ := exists_parts text
    exact ⟨parts, tail, split, maskLoop_parts split (Nat.le_refl _)⟩
  · intro first second parts others tail split separate alike
    unfold maskErr
    rw [maskLoop_parts split (Nat.le_refl _),
      maskLoop_parts separate (Nat.le_refl _)]
    congr 1
    clear split separate
    induction alike with
    | nil => rfl
    | cons head _ ih =>
      obtain ⟨plain, one, two, first, second, alike⟩ := head
      simp only [List.flatMap_cons, ih, plain, first, second, alike.maskUrl]

/-! ### Two reports of one subscription -/

/-- `https://a/b/` with a segment of this many letters, and `?u&t=` with a
token. -/
def tokenUrl (letters : Nat) (token : Text) (plain : '&' ∉ token) : Url where
  secure := true
  host := ['a']
  segments := [['b'], List.replicate letters 'c']
  query := some [['u'], ['t', '='] ++ token]
  plainHost := by decide
  plainSegments := by simp [List.mem_replicate]
  plainQuery := by simp [plain]

def firstUrl : Url := tokenUrl 17 ['4', '2', '='] (by decide)

def secondUrl : Url := tokenUrl 20 ['0', '/', '?', '1'] (by decide)

/-- The URL between other texts. -/
def report (url : Url) : Text :=
  ['n', 'o', ' ', '('] ++ (url.text ++ [')', ' ', 'h', 't', 't', 'p'])

theorem masked_tokens_agree :
    report firstUrl ≠ report secondUrl ∧
      maskErr (report firstUrl) = maskErr (report secondUrl) := by
  have alike : firstUrl.Alike secondUrl := by
    refine ⟨rfl, .cons (.inl rfl) (.cons (.inr (by decide)) .nil), ?_⟩
    exact .some (.cons (.inl rfl)
      (.cons (.inr ⟨['t'], _, _, by decide, rfl, rfl⟩) .nil))
  have split {url : Url} (found : findUrl (report url) =
        some (['n', 'o', ' ', '('], url.text ++ [')', ' ', 'h', 't', 't', 'p']))
      (whole : url.text.all (!endsUrl ·)) :
      Parts (report url) [(['n', 'o', ' ', '('], url.text)]
        [')', ' ', 'h', 't', 't', 'p'] := by
    refine .url found (by simpa using whole) ?_ (.tail rfl)
    rintro _ ⟨⟩
    rfl
  refine ⟨by decide, ?_⟩
  exact masked_errors_hide_secrets.2 _ _ _ _ _ (split rfl rfl) (split rfl rfl)
    (.cons ⟨rfl, _, _, rfl, rfl, alike⟩ .nil)

end KyClash.Utils
