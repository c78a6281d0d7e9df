-- SUMMARY: Names below a directory: what their path spells, and when their keys differ.
import RefactorAudit.FileTree.Walk
import RefactorAudit.Path.Hierarchy
import RefactorAudit.Proofs.Report.CanonicalPath

/-!
# Joined paths

Names that are joined to a directory follow it, each behind a slash. So the path leads to the place
of the directory and from there along the names, and the path of a source ends as the last name
does. What a normaliser cuts off such a path is the same for all names below the directory, unless
the marker or a relative root of the repository lies deeper than the directory.
-/

namespace RefactorAudit

/-! ## Joining -/

namespace Path

variable {directory name : String} {names : List String}

/-- A directory without the slash at its end. -/
def stem (directory : List Char) : List Char :=
  if directory.getLast? = some '/' then directory.dropLast else directory

theorem getLast?_append_cons {front text : List Char} (h : text ≠ []) :
    (front ++ '/' :: text).getLast? = text.getLast? := by
  obtain ⟨c, rest, rfl⟩ := List.exists_cons_of_ne_nil h
  rw [List.getLast?_append_cons, List.getLast?_cons_cons]

theorem IsName.getLast?_ne_slash {part : List Char} (h : IsName part) : part.getLast? ≠ some '/' :=
  fun hlast => absurd (h.noSlash '/' (List.mem_of_getLast? hlast)) (by decide)

theorem IsName.not_startsWith (h : IsName name.toList) : name.startsWith "/" = false := by
  rw [Bool.eq_false_iff, Ne, String.startsWith_string_iff]
  rintro ⟨rest, hrest⟩
  exact absurd (h.noSlash '/' (hrest ▸ List.mem_append_left _ (List.mem_singleton_self _)))
    (by decide)

theorem endsWith_slash_iff : directory.endsWith "/" = true ↔ directory.toList.getLast? = some '/' := by
  rw [String.endsWith_eq_endsWith_toSlice, String.Slice.endsWith_string_iff, String.copy_toSlice]
  constructor
  · rintro ⟨front, hfront⟩
    rw [← hfront]
    exact List.getLast?_concat
  · intro hlast
    obtain ⟨front, hfront⟩ := List.getLast?_eq_some_iff.1 hlast
    exact ⟨front, hfront.symm⟩

theorem toList_join (hdirectory : directory ≠ "") (hname : IsName name.toList) :
    (join directory name).toList = stem directory.toList ++ '/' :: name.toList := by
  have hempty : directory.isEmpty = false := String.isEmpty_eq_false_iff.2 hdirectory
  simp only [join, hname.not_startsWith, hempty, Bool.or_false, Bool.false_eq_true, if_false]
  split
  · next hslash =>
    rw [endsWith_slash_iff] at hslash
    obtain ⟨front, hfront⟩ := List.getLast?_eq_some_iff.1 hslash
    rw [String.toList_append, stem, if_pos hslash, hfront, List.dropLast_concat,
      List.append_assoc, List.singleton_append]
  · next hnone =>
    rw [endsWith_slash_iff] at hnone
    rw [String.toList_append, String.toList_append, stem, if_neg hnone, List.append_assoc]
    rfl

theorem join_ne_empty (hdirectory : directory ≠ "") (hname : IsName name.toList) :
    join directory name ≠ "" := by
  rintro heq
  have htext := toList_join hdirectory hname
  rw [heq] at htext
  exact absurd htext.symm (by simp)

/-- Every name stands behind a slash. -/
theorem toList_joinAll (hdirectory : directory ≠ "") (hne : names ≠ [])
    (h : ∀ name ∈ names, IsName name.toList) :
    (joinAll directory names).toList =
      stem directory.toList ++ '/' :: Normalizer.joined (names.map String.toList) := by
  induction names generalizing directory with
  | nil => exact absurd rfl hne
  | cons name rest ih =>
    have hname := h name List.mem_cons_self
    have hjoin := toList_join hdirectory hname
    have hall : joinAll directory (name :: rest) = joinAll (join directory name) rest := rfl
    cases rest with
    | nil => rw [hall, joinAll, List.foldl_nil, hjoin, List.map_singleton, Normalizer.joined,
        List.intercalate_singleton]
    | cons second rest =>
      have hstem : stem (join directory name).toList = (join directory name).toList := by
        rw [stem, if_neg]
        rw [hjoin, getLast?_append_cons hname.ne_nil]
        exact hname.getLast?_ne_slash
      rw [hall, ih (join_ne_empty hdirectory hname) (List.cons_ne_nil _ _)
        fun name hname => h name (List.mem_cons_of_mem _ hname), hstem, hjoin]
      simp [Normalizer.joined, List.intercalate_cons_cons]

/-! ## The file at the end -/

theorem exists_joined_eq (hne : names ≠ []) (h : ∀ name ∈ names, IsName name.toList) :
    ∃ front last, IsName last ∧ '/' :: Normalizer.joined (names.map String.toList) =
      front ++ '/' :: last := by
  induction names with
  | nil => exact absurd rfl hne
  | cons name rest ih =>
    cases rest with
    | nil =>
      refine ⟨[], name.toList, h name List.mem_cons_self, ?_⟩
      rw [List.map_singleton, Normalizer.joined, List.intercalate_singleton, List.nil_append]
    | cons second rest =>
      obtain ⟨front, last, hlast, heq⟩ := ih (List.cons_ne_nil _ _)
        fun name hname => h name (List.mem_cons_of_mem _ hname)
      refine ⟨'/' :: name.toList ++ front, last, hlast, ?_⟩
      rw [List.append_assoc, ← heq]
      simp [Normalizer.joined, List.intercalate_cons_cons]

/-- The path to a source ends as its file does. -/
theorem getLast?_of_isSource {path : String} {front last : List Char} (hlast : IsName last)
    (hpath : path.toList = front ++ '/' :: last) (h : isSource path = true) :
    path.toList.getLast? = some 'y' := by
  have hparts : (Text.split (· = '/') path.toList).filter isNamed =
      (Text.split (· = '/') front).filter isNamed ++ [last] := by
    have hslash : ∀ c ∈ last, decide (c = '/') = false := fun c hc => by
      have hno := hlast.noSlash c hc
      simp only [isSlash, Bool.or_eq_false_iff] at hno
      exact hno.1
    rw [hpath, Text.split_append_cons (by decide), Text.split_of_none hslash, List.filter_append]
    simp [hlast.named]
  have hname : fileName? path = none ∨ fileName? path = some last := by
    rw [fileName?, hparts, List.getLast?_concat]
    split
    · exact .inl rfl
    · exact .inr rfl
  rw [hpath, getLast?_append_cons hlast.ne_nil]
  rw [isSource, decide_eq_true_eq, ending?] at h
  rcases hname with hnone | hsome
  · rw [hnone] at h
    exact nomatch h
  · rw [hsome, Option.bind_eq_bind, Option.bind_some] at h
    dsimp only at h
    split at h
    · exact nomatch h
    · have hending : (last.reverse.takeWhile (· ≠ '.')).reverse = ['p', 'y'] :=
        String.ofList_injective (Option.some.inj h)
      rw [List.reverse_eq_iff] at hending
      have hprefix := List.takeWhile_prefix (l := last.reverse) (· ≠ '.')
      rw [hending] at hprefix
      obtain ⟨rest, hrest⟩ := hprefix
      rw [← List.head?_reverse, ← hrest]
      rfl

/-- Below every directory the names of a source make a text with the same end. -/
theorem getLast?_joinAll (hdirectory : directory ≠ "") (hne : names ≠ [])
    (h : ∀ name ∈ names, IsName name.toList) (hsource : isSource (joinAll directory names) = true) :
    ('/' :: Normalizer.joined (names.map String.toList)).getLast? = some 'y' := by
  obtain ⟨front, last, hlast, hjoined⟩ := exists_joined_eq hne h
  have hpath := toList_joinAll hdirectory hne h
  rw [hjoined, ← List.append_assoc] at hpath
  have hend := getLast?_of_isSource hlast hpath hsource
  rwa [hpath, getLast?_append_cons hlast.ne_nil, ← getLast?_append_cons hlast.ne_nil, ← hjoined]
    at hend

end Path

/-! ## The location of a joined path -/

namespace Location

/-- Where a directory leads, as the beginning of a longer path. -/
def ofDirectory (directory : String) : Location where
  absolute := Path.startsWithSlash
    ((Path.stem directory.toList).dropWhile Text.isBlank ++ ['/'])
  parts := Path.parts ((Path.stem directory.toList).dropWhile Text.isBlank)

/-- The path to a source leads to the place of the directory and from there along the names. -/
theorem ofPath_joinAll {directory : String} {names : List String} (hdirectory : directory ≠ "")
    (hne : names ≠ []) (h : ∀ name ∈ names, Path.IsName name.toList)
    (hend : ('/' :: Normalizer.joined (names.map String.toList)).getLast? = some 'y') :
    ofPath (Path.joinAll directory names) =
      ⟨(ofDirectory directory).absolute,
        (ofDirectory directory).parts ++ names.map String.toList⟩ := by
  have htrim : Text.trim (Path.joinAll directory names).toList =
      (Path.stem directory.toList).dropWhile Text.isBlank ++
        '/' :: Normalizer.joined (names.map String.toList) := by
    rw [Path.toList_joinAll hdirectory hne h, Text.trim, Text.dropWhile_append_cons (by decide)]
    refine Text.trimEnd_eq_iff.2 fun c hc => ?_
    rw [List.getLast?_append_cons, hend] at hc
    obtain rfl := Option.some.inj hc
    decide
  have hnamed : ∀ part ∈ names.map String.toList, Path.IsName part := by
    intro part hpart
    obtain ⟨name, hname, rfl⟩ := List.mem_map.1 hpart
    exact h name hname
  unfold ofPath ofDirectory
  rw [htrim, Path.parts_append, parts_joined hnamed]
  cases (Path.stem directory.toList).dropWhile Text.isBlank <;> rfl

end Location

/-! ## Keys below a directory -/

namespace Normalizer

variable {n : Normalizer} {front : List (List Char)} {l : Location} {found : List (List String)}

/-- Below a directory no two keys fall together: the marker is on the way to the directory, or else
it is in no path below, and the root of the repository is absolute or no deeper than the
directory. -/
def KeepsApart (n : Normalizer) (directory : Location) (found : List (List String)) : Prop :=
  (∃ m, n.marker = some m ∧ m ≠ "" ∧ m.toList ∈ directory.parts) ∨
    (∀ m, n.marker = some m → m ≠ "" → ∀ names ∈ found, m ∉ names) ∧
      ∀ root, n.repoRoot = some root → Path.startsWithSlash root.toList = true ∨
        Path.parts root.toList <+: directory.parts

/-- A marker on the way to a directory is found before the names below are looked at. -/
theorem shorten_append_of_marker {m : String} (hm : n.marker = some m) (hne : m ≠ "")
    (hmem : m.toList ∈ front) :
    ∃ rest, ∀ absolute names, n.shorten ⟨absolute, front ++ names⟩ = ⟨false, rest ++ names⟩ := by
  obtain ⟨before, behind, rfl, hbefore⟩ := List.eq_append_cons_of_mem hmem
  refine ⟨behind, fun absolute names => shorten_of_marker ?_⟩
  have hfound : m ≠ "" ∧ m.toList ∈ before ++ m.toList :: behind ++ names :=
    ⟨hne, List.mem_append_left _ (List.mem_append_right _ List.mem_cons_self)⟩
  simp only [afterMarker?, hm]
  rw [if_neg (by simpa using hfound), List.append_assoc, List.cons_append,
    dropWhile_append_cons_self hbefore, List.drop_one, List.tail_cons]

/-- A root of the repository that is no deeper than a directory is cut off all paths below, or off
none. -/
theorem shorten_append_of_root
    (hroot : ∀ root, n.repoRoot = some root → Path.parts root.toList <+: l.parts) :
    ∃ absolute rest, ∀ names, afterMarker? n.marker (l.parts ++ names) = none →
      n.shorten ⟨l.absolute, l.parts ++ names⟩ = ⟨absolute, rest ++ names⟩ := by
  by_cases hcut : ∃ root, n.repoRoot = some root ∧ Path.startsWithSlash root.toList = l.absolute
  · obtain ⟨root, hsome, habsolute⟩ := hcut
    obtain ⟨behind, hbehind⟩ := hroot root hsome
    refine ⟨false, behind, fun names hmarker => shorten_of_root hmarker ?_⟩
    refine afterRoot?_eq_some.2 ⟨root, hsome, habsolute, ?_⟩
    rw [← hbehind, List.append_assoc]
  · refine ⟨l.absolute, l.parts, fun names hmarker => shorten_of_none hmarker ?_⟩
    rw [Option.eq_none_iff_forall_ne_some]
    intro rest hrest
    obtain ⟨root, hsome, habsolute, -⟩ := afterRoot?_eq_some.1 hrest
    exact hcut ⟨root, hsome, habsolute⟩

theorem shorten_inj_below (h : KeepsApart n l found) {a b : List String} (ha : a ∈ found)
    (hb : b ∈ found)
    (heq : n.shorten ⟨l.absolute, l.parts ++ a.map String.toList⟩ =
      n.shorten ⟨l.absolute, l.parts ++ b.map String.toList⟩) : a = b := by
  have hcancel {rest : List (List Char)}
      (hrest : rest ++ a.map String.toList = rest ++ b.map String.toList) : a = b :=
    List.map_injective_iff.2 (fun _ _ => String.toList_inj.1) (List.append_cancel_left hrest)
  by_cases hway : ∃ m, n.marker = some m ∧ m ≠ "" ∧ m.toList ∈ l.parts
  · obtain ⟨m, hm, hne, hmem⟩ := hway
    obtain ⟨rest, hrest⟩ := shorten_append_of_marker hm hne hmem
    rw [hrest, hrest] at heq
    exact hcancel (congrArg Location.parts heq)
  · obtain ⟨hmarker, hroot⟩ := h.resolve_left hway
    have hnone (names : List String) (hnames : names ∈ found) :
        afterMarker? n.marker (l.parts ++ names.map String.toList) = none := by
      refine afterMarker?_eq_none.2 fun m hm hne hin => ?_
      rcases List.mem_append.1 hin with hin | hin
      · exact hway ⟨m, hm, hne, hin⟩
      · obtain ⟨name, hname, hsame⟩ := List.mem_map.1 hin
        exact hmarker m hm hne names hnames (String.toList_inj.1 hsame ▸ hname)
    by_cases habsolute : ∃ root, n.repoRoot = some root ∧ Path.startsWithSlash root.toList = true
    · obtain ⟨root, hsome, hslash⟩ := habsolute
      rw [shorten_eq_place (hnone a ha) hsome hslash, shorten_eq_place (hnone b hb) hsome hslash,
        place_inj] at heq
      simp only [Location.fullParts] at heq
      split at heq
      · exact hcancel heq
      · rw [← List.append_assoc, ← List.append_assoc] at heq
        exact hcancel heq
    · obtain ⟨absolute, rest, hrest⟩ := shorten_append_of_root (n := n) (l := l) fun root hsome =>
        (hroot root hsome).resolve_left fun hslash => habsolute ⟨root, hsome, hslash⟩
      rw [hrest _ (hnone a ha), hrest _ (hnone b hb)] at heq
      exact hcancel (congrArg Location.parts heq)

end Normalizer

end RefactorAudit
