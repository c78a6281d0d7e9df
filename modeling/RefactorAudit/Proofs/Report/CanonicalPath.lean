-- SUMMARY: When two paths have the same canonical path, and when a canonical path stays as it is.
import RefactorAudit.Proofs.Path.Parts
import RefactorAudit.Proofs.Text.Blank
import RefactorAudit.Report.Normalizer
import Mathlib.Algebra.Order.BigOperators.Group.List
import Mathlib.Algebra.Order.Group.Nat
import Mathlib.Data.List.Basic

/-!
# Canonical paths

A path spells a location: along its parts, from the root of the file system or from somewhere. A
normaliser shortens the location and writes what remains, and the canonical text tells the location
it was written for. Without a marker two paths have the same canonical path just if they lead to the
same file. A canonical path is not always canonical itself: the marker, or a relative root of the
repository, may occur a second time in it, and blanks may have come to its ends.
-/

namespace RefactorAudit

open RefactorAudit.Path (IsName)

/-- Where a path leads. -/
structure Location where
  /-- Whether it starts at the root of the file system. -/
  absolute : Bool
  parts : List (List Char)
  deriving DecidableEq

namespace Location

/-- The location that a path spells. -/
def ofPath (path : String) : Location where
  absolute := Path.startsWithSlash (Text.trim path.toList)
  parts := Path.parts (Text.trim path.toList)

/-- The text of a location, with one slash in front of each part but the first of a relative one. -/
def text (l : Location) : List Char :=
  if l.absolute then '/' :: Normalizer.joined l.parts else Normalizer.joined l.parts

/-- All parts from the root of the file system on, where relative paths start at a given root. -/
def fullParts (root : String) (l : Location) : List (List Char) :=
  if l.absolute then l.parts else Path.parts root.toList ++ l.parts

/-- Every part names something. -/
def Named (l : Location) : Prop := ∀ part ∈ l.parts, IsName part

theorem named_ofPath (path : String) : (ofPath path).Named := fun _ => Path.isName_of_mem_parts

/-! ## The text of a location -/

theorem startsWithSlash_joined {names : List (List Char)} (h : ∀ part ∈ names, IsName part) :
    Path.startsWithSlash (Normalizer.joined names) = false := by
  cases names with
  | nil => rfl
  | cons first rest =>
    have hfirst := h first List.mem_cons_self
    cases rest with
    | nil =>
      rw [Normalizer.joined, List.intercalate_singleton, ← List.append_nil first]
      exact hfirst.startsWithSlash_append
    | cons second rest =>
      rw [Normalizer.joined, List.intercalate_cons_cons, List.append_assoc]
      exact hfirst.startsWithSlash_append

/-- Splitting is the inverse of joining. -/
theorem parts_joined {names : List (List Char)} (h : ∀ part ∈ names, IsName part) :
    Path.parts (Normalizer.joined names) = names := by
  induction names with
  | nil => rfl
  | cons first rest ih =>
    have hfirst := h first List.mem_cons_self
    cases rest with
    | nil =>
      rw [Normalizer.joined, List.intercalate_singleton]
      exact hfirst.parts_eq
    | cons second rest =>
      have hrest := ih fun part hpart => h part (List.mem_cons_of_mem _ hpart)
      rw [Normalizer.joined, List.intercalate_cons_cons, List.append_assoc, List.singleton_append,
        hfirst.parts_append]
      exact congrArg (first :: ·) hrest

theorem length_joined (names : List (List Char)) :
    (Normalizer.joined names).length = (names.map (·.length + 1)).sum - 1 := by
  induction names with
  | nil => rfl
  | cons first rest ih =>
    cases rest with
    | nil => simp [Normalizer.joined]
    | cons second rest =>
      rw [Normalizer.joined] at ih ⊢
      rw [List.intercalate_cons_cons, List.length_append, List.length_append, ih]
      simp only [List.map_cons, List.sum_cons, List.length_singleton]
      omega

/-- Joining some parts of a path makes no text that is longer than the path. -/
theorem length_joined_le {names : List (List Char)} {cs : List Char}
    (h : names.Sublist (Path.parts cs)) : (Normalizer.joined names).length ≤ cs.length := by
  have hsplit : names.Sublist (Text.split Path.isSlash cs) := h.trans List.filter_sublist
  have hsum := (hsplit.map (·.length + 1)).sum_le_sum fun _ _ => Nat.zero_le _
  rw [Text.sum_length_split] at hsum
  rw [length_joined]
  omega

theorem trim_joined {names : List (List Char)} (h : ∀ part ∈ names, Text.trim part = part) :
    Text.trim (Normalizer.joined names) = Normalizer.joined names := by
  induction names with
  | nil => rfl
  | cons first rest ih =>
    have hfirst := h first List.mem_cons_self
    cases rest with
    | nil =>
      rw [Normalizer.joined, List.intercalate_singleton]
      exact hfirst
    | cons second rest =>
      have hrest := ih fun part hpart => h part (List.mem_cons_of_mem _ hpart)
      rw [Normalizer.joined, List.intercalate_cons_cons, List.append_assoc]
      exact Text.trim_append hfirst (Text.trim_append (by decide) hrest)

variable {l a b : Location}

/-- The text of a location is no longer than a path that spells at least its parts. -/
theorem length_text_le {cs : List Char} (hparts : l.parts.Sublist (Path.parts cs))
    (habs : l.absolute = true → Path.startsWithSlash cs = true) : l.text.length ≤ cs.length := by
  unfold text
  split
  · next hl =>
    cases cs with
    | nil => exact nomatch habs hl
    | cons c rest =>
      have hslash : Path.isSlash c = true := habs hl
      rw [Path.parts_cons_of_isSlash hslash] at hparts
      exact Nat.succ_le_succ (length_joined_le hparts)
  · exact length_joined_le hparts

/-- Parts without blanks at their ends make a text without blanks at its ends. -/
theorem trim_text (h : ∀ part ∈ l.parts, Text.trim part = part) : Text.trim l.text = l.text := by
  unfold text
  split
  · rw [← List.singleton_append]
    exact Text.trim_append (by decide) (trim_joined h)
  · exact trim_joined h

theorem startsWithSlash_text (h : l.Named) : Path.startsWithSlash l.text = l.absolute := by
  unfold text
  split
  · next habs => exact habs.symm
  · next habs =>
    rw [Bool.not_eq_true] at habs
    rw [startsWithSlash_joined h, habs]

theorem parts_text (h : l.Named) : Path.parts l.text = l.parts := by
  unfold text
  split
  · rw [Path.parts_cons_of_isSlash rfl, parts_joined h]
  · exact parts_joined h

/-- Different locations have different texts. -/
theorem text_inj (ha : a.Named) (hb : b.Named) : a.text = b.text ↔ a = b := by
  constructor
  · intro heq
    have habs : a.absolute = b.absolute := by
      rw [← startsWithSlash_text ha, ← startsWithSlash_text hb, heq]
    have hparts : a.parts = b.parts := by rw [← parts_text ha, ← parts_text hb, heq]
    cases a; cases b; simp_all
  · exact fun heq => heq ▸ rfl

/-- A location is read back from its text, as long as no blanks at the ends of the text get lost. -/
theorem ofPath_text (h : l.Named) (htrim : Text.trim l.text = l.text) :
    ofPath (String.ofList l.text) = l := by
  simp only [ofPath, String.toList_ofList, htrim, startsWithSlash_text h, parts_text h]

end Location

/-! ## Shortening -/

namespace Normalizer

/-- What remains of a location behind the marker, or else behind the root of the repository. -/
def shorten (n : Normalizer) (l : Location) : Location :=
  match afterMarker? n.marker l.parts with
  | some rest => ⟨false, rest⟩
  | none =>
    match afterRoot? n.repoRoot l.absolute l.parts with
    | some rest => ⟨false, rest⟩
    | none => l

theorem normalize_eq (n : Normalizer) (path : String) :
    n.normalize path = String.ofList (n.shorten (Location.ofPath path)).text := by
  simp only [normalize, canonical, shorten, Location.ofPath]
  cases afterMarker? n.marker (Path.parts (Text.trim path.toList)) with
  | some rest => rfl
  | none =>
    cases afterRoot? n.repoRoot (Path.startsWithSlash (Text.trim path.toList))
        (Path.parts (Text.trim path.toList)) <;> rfl

theorem afterMarker?_eq_none {marker : Option String} {parts : List (List Char)} :
    afterMarker? marker parts = none ↔ ∀ m, marker = some m → m ≠ "" → m.toList ∉ parts := by
  cases marker with
  | none => simp [afterMarker?]
  | some m => simp [afterMarker?]

theorem dropWhile_append_cons_self {part : List Char} {front rest : List (List Char)}
    (h : part ∉ front) : (front ++ part :: rest).dropWhile (· ≠ part) = part :: rest := by
  rw [List.dropWhile_append_of_pos fun other hother => by
    simpa using fun heq : other = part => h (heq ▸ hother)]
  simp

/-- What follows the marker follows its first occurrence. -/
theorem afterMarker?_eq_some {marker : Option String} {parts rest : List (List Char)}
    (h : afterMarker? marker parts = some rest) :
    ∃ m, marker = some m ∧ m ≠ "" ∧
      ∃ front, m.toList ∉ front ∧ parts = front ++ m.toList :: rest := by
  cases marker with
  | none => exact nomatch h
  | some m =>
    have hmem : m ≠ "" ∧ m.toList ∈ parts := by
      by_contra hnot
      have hnone : afterMarker? (some m) parts = none :=
        afterMarker?_eq_none.2 fun m' hm' hne hin => by
          obtain rfl := Option.some.inj hm'
          exact hnot ⟨hne, hin⟩
      rw [hnone] at h
      exact nomatch h
    obtain ⟨front, behind, rfl, hfront⟩ := List.eq_append_cons_of_mem hmem.2
    simp only [afterMarker?] at h
    rw [if_neg (by simpa using hmem), dropWhile_append_cons_self hfront] at h
    obtain rfl : behind = rest := Option.some.inj h
    exact ⟨m, rfl, hmem.1, front, hfront, rfl⟩

theorem afterRoot?_eq_some {root : Option String} {absolute : Bool}
    {parts rest : List (List Char)} :
    afterRoot? root absolute parts = some rest ↔
      ∃ r, root = some r ∧ Path.startsWithSlash r.toList = absolute ∧
        parts = Path.parts r.toList ++ rest := by
  cases root with
  | none => simp [afterRoot?]
  | some r =>
    simp only [afterRoot?, Option.some.injEq, exists_eq_left']
    split
    · next hr =>
      simp only [Bool.and_eq_true, decide_eq_true_eq, List.isPrefixOf_iff_prefix] at hr
      obtain ⟨habs, behind, rfl⟩ := hr
      simp [habs]
    · next hr =>
      simp only [Bool.and_eq_true, decide_eq_true_eq, List.isPrefixOf_iff_prefix] at hr
      constructor
      · exact fun hnone => nomatch hnone
      · rintro ⟨habs, rfl⟩
        exact absurd ⟨habs, List.prefix_append _ _⟩ hr

variable {n : Normalizer} {l : Location}

theorem shorten_of_marker {rest : List (List Char)}
    (h : afterMarker? n.marker l.parts = some rest) :
    n.shorten l = ⟨false, rest⟩ := by
  rw [shorten, h]

theorem shorten_of_root {rest : List (List Char)} (hmarker : afterMarker? n.marker l.parts = none)
    (h : afterRoot? n.repoRoot l.absolute l.parts = some rest) : n.shorten l = ⟨false, rest⟩ := by
  simp only [shorten, hmarker, h]

theorem shorten_of_none (hmarker : afterMarker? n.marker l.parts = none)
    (h : afterRoot? n.repoRoot l.absolute l.parts = none) : n.shorten l = l := by
  simp only [shorten, hmarker, h]

/-- Shortening drops parts at the beginning and makes a relative location, or it changes nothing. -/
theorem shorten_cases (n : Normalizer) (l : Location) :
    (∃ front rest, l.parts = front ++ rest ∧ n.shorten l = ⟨false, rest⟩) ∨
      (afterMarker? n.marker l.parts = none ∧ n.shorten l = l) := by
  cases hmarker : afterMarker? n.marker l.parts with
  | some rest =>
    obtain ⟨m, -, -, front, -, hparts⟩ := afterMarker?_eq_some hmarker
    refine .inl ⟨front ++ [m.toList], rest, ?_, shorten_of_marker hmarker⟩
    simpa using hparts
  | none =>
    cases hroot : afterRoot? n.repoRoot l.absolute l.parts with
    | some rest =>
      obtain ⟨r, -, -, hparts⟩ := afterRoot?_eq_some.1 hroot
      exact .inl ⟨Path.parts r.toList, rest, hparts, shorten_of_root hmarker hroot⟩
    | none => exact .inr ⟨rfl, shorten_of_none hmarker hroot⟩

theorem parts_shorten_suffix : (n.shorten l).parts <:+ l.parts := by
  rcases shorten_cases n l with ⟨front, rest, hparts, heq⟩ | ⟨-, heq⟩
  · rw [heq]
    exact ⟨front, hparts.symm⟩
  · have hparts := congrArg Location.parts heq
    exact hparts ▸ List.suffix_refl l.parts

theorem absolute_of_shorten (h : (n.shorten l).absolute = true) : l.absolute = true := by
  rcases shorten_cases n l with ⟨front, rest, -, heq⟩ | ⟨-, heq⟩
  · rw [heq] at h
    exact nomatch h
  · rwa [heq] at h

theorem named_shorten (h : l.Named) : (n.shorten l).Named :=
  fun part hpart => h part (parts_shorten_suffix.subset hpart)

/-- Two paths have the same canonical path if the same remains of their locations. -/
theorem normalize_eq_normalize_iff {p q : String} :
    n.normalize p = n.normalize q ↔
      n.shorten (Location.ofPath p) = n.shorten (Location.ofPath q) := by
  rw [normalize_eq, normalize_eq, String.ofList_inj]
  exact Location.text_inj (named_shorten (Location.named_ofPath p))
    (named_shorten (Location.named_ofPath q))

/-! ## The same file -/

/-- Where the parts of a file lie: under the root of the repository or elsewhere. -/
def place (root : List (List Char)) (parts : List (List Char)) : Location :=
  if root.isPrefixOf parts then ⟨false, parts.drop root.length⟩ else ⟨true, parts⟩

theorem place_inj {root a b : List (List Char)} : place root a = place root b ↔ a = b := by
  constructor
  · intro heq
    simp only [place, List.isPrefixOf_iff_prefix] at heq
    by_cases ha : root <+: a <;> by_cases hb : root <+: b <;> simp only [ha, hb, if_true, if_false,
      Location.mk.injEq, reduceCtorEq, false_and, true_and] at heq
    · obtain ⟨restA, rfl⟩ := ha
      obtain ⟨restB, rfl⟩ := hb
      simpa using heq
    · exact heq
  · exact fun heq => heq ▸ rfl

/-- Under an absolute root only the full parts of a location matter. -/
theorem shorten_eq_place {root : String} (hmarker : afterMarker? n.marker l.parts = none)
    (hroot : n.repoRoot = some root) (habs : Path.startsWithSlash root.toList = true) :
    n.shorten l = place (Path.parts root.toList) (l.fullParts root) := by
  obtain ⟨absolute, parts⟩ := l
  cases absolute with
  | false =>
    have hnone : afterRoot? n.repoRoot false parts = none := by
      rw [Option.eq_none_iff_forall_ne_some]
      intro rest hrest
      obtain ⟨r, hr, hfalse, -⟩ := afterRoot?_eq_some.1 hrest
      obtain rfl := Option.some.inj (hroot.symm.trans hr)
      rw [habs] at hfalse
      exact nomatch hfalse
    rw [shorten_of_none hmarker hnone]
    simp [place, Location.fullParts]
  | true =>
    simp only [place, Location.fullParts, if_true]
    split
    · next hprefix =>
      obtain ⟨rest, rfl⟩ := List.isPrefixOf_iff_prefix.1 hprefix
      rw [shorten_of_root hmarker (afterRoot?_eq_some.2 ⟨root, hroot, habs, rfl⟩),
        List.drop_left]
    · next hprefix =>
      refine shorten_of_none hmarker ?_
      rw [Option.eq_none_iff_forall_ne_some]
      rintro rest hrest
      obtain ⟨r, hr, -, rfl⟩ := afterRoot?_eq_some.1 hrest
      obtain rfl := Option.some.inj (hroot.symm.trans hr)
      exact hprefix (List.isPrefixOf_iff_prefix.2 (List.prefix_append _ _))

/-- Without a marker two paths have the same canonical path just if they lead to the same file: if
they spell the same location or, under an absolute root, have the same parts from there on. -/
theorem normalize_eq_iff_same_file (n : Normalizer) (hmarker : n.marker.getD "" = "") :
    (n.repoRoot = none → ∀ p q : String,
      n.normalize p = n.normalize q ↔ Location.ofPath p = Location.ofPath q) ∧
    (∀ root : String, n.repoRoot = some root → Path.startsWithSlash root.toList = true →
      ∀ p q : String, n.normalize p = n.normalize q ↔
        (Location.ofPath p).fullParts root = (Location.ofPath q).fullParts root) := by
  have hnone : ∀ parts, afterMarker? n.marker parts = none := fun parts =>
    afterMarker?_eq_none.2 fun m hm hne => by simp [hm] at hmarker; exact absurd hmarker hne
  constructor
  · intro hroot p q
    have hall : ∀ l, n.shorten l = l := fun l => shorten_of_none (hnone _) (by rw [hroot]; rfl)
    rw [normalize_eq_normalize_iff, hall, hall]
  · intro root hroot habs p q
    rw [normalize_eq_normalize_iff, shorten_eq_place (hnone _) hroot habs,
      shorten_eq_place (hnone _) hroot habs, place_inj]

theorem normalize_eq_iff_same_file_of_spellings :
    let n : Normalizer := { repoRoot := some "/work/repo" }
    n.marker.getD "" = "" ∧ Path.startsWithSlash "/work/repo".toList = true ∧
      (n.normalize "\\work/./repo//pkg\\a.py" = n.normalize " pkg/a.py" ∧
        n.normalize "/work/repository/a.py" ≠ n.normalize "a.py") := by
  intro n
  refine ⟨by decide, by decide, ?_, fun heq => ?_⟩
  · exact ((normalize_eq_iff_same_file n (by decide)).2 _ rfl (by decide) _ _).2 (by decide)
  · have hparts := ((normalize_eq_iff_same_file n (by decide)).2 _ rfl (by decide) _ _).1 heq
    exact absurd hparts (by decide)

/-! ## Canonical paths that are canonical -/

/-- Nothing is left to cut off: neither the marker nor a relative root occurs. -/
structure Settled (n : Normalizer) (l : Location) : Prop where
  noMarker : ∀ m, n.marker = some m → m ≠ "" → m.toList ∉ l.parts
  noRoot : l.absolute = false → ∀ root, n.repoRoot = some root →
    Path.startsWithSlash root.toList = false → Path.parts root.toList ≠ [] →
      ¬ Path.parts root.toList <+: l.parts

theorem shorten_eq_self_iff (h : l.absolute = false) : n.shorten l = l ↔ n.Settled l := by
  cases hmarker : afterMarker? n.marker l.parts with
  | some rest =>
    obtain ⟨m, hm, hne, front, -, hparts⟩ := afterMarker?_eq_some hmarker
    constructor
    · intro heq
      have hlength : rest.length = l.parts.length := by rw [← heq, shorten_of_marker hmarker]
      rw [hparts, List.length_append, List.length_cons] at hlength
      omega
    · intro hsettled
      exact absurd (by simp [hparts]) (hsettled.noMarker m hm hne)
  | none =>
    have hno := afterMarker?_eq_none.1 hmarker
    cases hroot : afterRoot? n.repoRoot l.absolute l.parts with
    | some rest =>
      obtain ⟨r, hr, habs, hparts⟩ := afterRoot?_eq_some.1 hroot
      rw [shorten_of_root hmarker hroot]
      constructor
      · intro heq
        have hnil : Path.parts r.toList = [] := by
          rw [← heq] at hparts
          exact List.self_eq_append_left.1 hparts
        refine ⟨hno, fun _ root' hr' _ hne => ?_⟩
        obtain rfl := Option.some.inj (hr.symm.trans hr')
        exact absurd hnil hne
      · intro hsettled
        have hnil : Path.parts r.toList = [] := by
          by_contra hne
          exact hsettled.noRoot h r hr (habs.trans h) hne ⟨rest, hparts.symm⟩
        obtain ⟨absolute, parts⟩ := l
        simp_all
    | none =>
      refine iff_of_true (shorten_of_none hmarker hroot) ⟨hno, ?_⟩
      rintro - r hr habs - ⟨rest, hparts⟩
      have hsome := afterRoot?_eq_some.2 ⟨r, hr, habs.trans h.symm, hparts.symm⟩
      rw [hroot] at hsome
      exact nomatch hsome

/-- What was shortened once is shortened again just if it is not settled. -/
theorem shorten_shorten_iff : n.shorten (n.shorten l) = n.shorten l ↔ n.Settled (n.shorten l) := by
  cases habs : (n.shorten l).absolute with
  | false => exact shorten_eq_self_iff habs
  | true =>
    -- an absolute location is what it was before
    rcases shorten_cases n l with ⟨front, rest, -, heq⟩ | ⟨hmarker, heq⟩
    · rw [heq] at habs
      exact nomatch habs
    · rw [heq] at habs ⊢
      refine iff_of_true heq ⟨afterMarker?_eq_none.1 hmarker, fun hfalse => ?_⟩
      rw [habs] at hfalse
      exact nomatch hfalse

/-- A marker that occurs once does not occur behind itself. -/
theorem not_mem_parts_shorten {m : String} (hm : n.marker = some m) (hne : m ≠ "")
    (hone : l.parts.count m.toList ≤ 1) : m.toList ∉ (n.shorten l).parts := by
  cases hmarker : afterMarker? n.marker l.parts with
  | some rest =>
    obtain ⟨m', hm', -, front, -, hparts⟩ := afterMarker?_eq_some hmarker
    obtain rfl := Option.some.inj (hm.symm.trans hm')
    rw [hparts, List.count_append, List.count_cons_self] at hone
    have hrest : rest.count m.toList = 0 := by omega
    rw [shorten_of_marker hmarker]
    exact List.count_eq_zero.1 hrest
  | none =>
    exact fun hmem => afterMarker?_eq_none.1 hmarker m hm hne (parts_shorten_suffix.subset hmem)

/-- A path that is its own canonical path has no blanks at its ends: what is written is no longer
than what is left of the path after trimming. -/
theorem trim_of_normalize_eq {path : String} (h : n.normalize path = path) :
    Text.trim path.toList = path.toList := by
  have hlength : (n.shorten (Location.ofPath path)).text.length ≤
      (Text.trim path.toList).length :=
    Location.length_text_le parts_shorten_suffix.sublist absolute_of_shorten
  have htext : (n.shorten (Location.ofPath path)).text = path.toList := by
    rw [← String.toList_ofList (l := Location.text _), ← normalize_eq, h]
  rw [htext] at hlength
  exact (Text.trim_sublist _).eq_of_length_le hlength

/-- A canonical path spells the location that it was written for, unless it has blanks at its
ends. -/
theorem ofPath_normalize {path : String}
    (h : Text.trim (n.normalize path).toList = (n.normalize path).toList) :
    Location.ofPath (n.normalize path) = n.shorten (Location.ofPath path) := by
  rw [normalize_eq, String.toList_ofList] at h
  rw [normalize_eq]
  exact Location.ofPath_text (named_shorten (Location.named_ofPath path)) h

/-- If no part of a path begins or ends with a blank, its canonical path does not either. -/
theorem trim_normalize {path : String}
    (h : ∀ part ∈ (Location.ofPath path).parts, Text.trim part = part) :
    Text.trim (n.normalize path).toList = (n.normalize path).toList := by
  rw [normalize_eq, String.toList_ofList]
  exact Location.trim_text fun part hpart => h part (parts_shorten_suffix.subset hpart)

/-- Without a marker and under an absolute root nothing is left to cut off, so only blanks could
come to the ends of a canonical path. -/
theorem normalize_normalize_of_noMarker {path : String} (hmarker : n.marker.getD "" = "")
    (hroot : ∀ root, n.repoRoot = some root → Path.startsWithSlash root.toList = true)
    (hparts : ∀ part ∈ (Location.ofPath path).parts, Text.trim part = part) :
    n.normalize (n.normalize path) = n.normalize path := by
  rw [normalize_eq_normalize_iff, ofPath_normalize (trim_normalize hparts), shorten_shorten_iff]
  constructor
  · intro m hm hne
    simp only [hm, Option.getD_some] at hmarker
    exact absurd hmarker hne
  · intro _ root hr hrelative
    simp [hroot root hr] at hrelative

/-- A canonical path is canonical just if it has no blanks at its ends, and neither the marker nor a
relative root occurs in it again. So it is if no part of the path begins or ends with a blank, the
marker occurs once in it, and the root is absolute. -/
theorem normalize_normalize_iff (n : Normalizer) (path : String) :
    (n.normalize (n.normalize path) = n.normalize path ↔
      Text.trim (n.normalize path).toList = (n.normalize path).toList ∧
        n.Settled (Location.ofPath (n.normalize path))) ∧
    ((∀ part ∈ (Location.ofPath path).parts, Text.trim part = part) →
      (∀ m, n.marker = some m → (Location.ofPath path).parts.count m.toList ≤ 1) →
      (∀ root, n.repoRoot = some root → Path.startsWithSlash root.toList = true) →
      n.normalize (n.normalize path) = n.normalize path) := by
  have hiff : n.normalize (n.normalize path) = n.normalize path ↔
      Text.trim (n.normalize path).toList = (n.normalize path).toList ∧
        n.Settled (Location.ofPath (n.normalize path)) := by
    constructor
    · intro heq
      have htrim := trim_of_normalize_eq heq
      rw [normalize_eq_normalize_iff, ofPath_normalize htrim, shorten_shorten_iff] at heq
      rw [ofPath_normalize htrim]
      exact ⟨htrim, heq⟩
    · rintro ⟨htrim, hsettled⟩
      rw [ofPath_normalize htrim] at hsettled
      rw [normalize_eq_normalize_iff, ofPath_normalize htrim]
      exact shorten_shorten_iff.2 hsettled
  refine ⟨hiff, fun hparts hmarker hroot => ?_⟩
  have htrim : Text.trim (n.normalize path).toList = (n.normalize path).toList :=
    trim_normalize hparts
  refine hiff.2 ⟨htrim, ?_⟩
  rw [ofPath_normalize htrim]
  refine ⟨fun m hm hne => not_mem_parts_shorten hm hne (hmarker m hm), ?_⟩
  intro _ root hr hrelative
  rw [hroot root hr] at hrelative
  exact nomatch hrelative

theorem normalize_normalize_iff_of_one_marker :
    let n : Normalizer := { marker := some "proj", repoRoot := some "/w" }
    n.normalize "/w/proj/a/b.py" = "a/b.py" ∧
      n.normalize (n.normalize "/w/proj/a/b.py") = n.normalize "/w/proj/a/b.py" := by
  intro n
  refine ⟨by decide, (normalize_normalize_iff n "/w/proj/a/b.py").2 (by decide) ?_ ?_⟩
  · rintro m ⟨⟩
    decide
  · rintro root ⟨⟩
    decide

/-- A path in which the marker occurs twice is cut twice. -/
theorem normalize_normalize_ne_of_two_markers :
    let n : Normalizer := { marker := some "src" }
    n.normalize "/w/src/pkg/src/a.py" = "pkg/src/a.py" ∧
      n.normalize "pkg/src/a.py" = "a.py" ∧
      ¬ n.normalize (n.normalize "/w/src/pkg/src/a.py") = n.normalize "/w/src/pkg/src/a.py" := by
  decide

end Normalizer

end RefactorAudit
