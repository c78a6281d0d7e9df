-- SUMMARY: When the audit of a directory has an entry for each of its files.
import RefactorAudit.Proofs.Audit.Isolation
import RefactorAudit.Proofs.FileTree.Walk
import RefactorAudit.Proofs.Path.Joining
import Mathlib.Data.Finset.Card

/-!
# Completeness

An audit puts the entry of every source under the canonical path of the source, and an entry takes
the place of an earlier one with the same key. So there are as many entries as keys: no source is
lost just if no two of them share a key. Below one directory they share none, unless the marker or a
relative root of the repository lies deeper than the directory, or a backslash stands in a name.
-/

namespace RefactorAudit

/-! ## Tables -/

namespace Table

variable {β : Type}

theorem toFinset_names_ofList (pairs : List (String × β)) :
    (names (ofList pairs)).toFinset = (names pairs).toFinset := by
  ext name
  rw [List.mem_toFinset, List.mem_toFinset, mem_names_ofList]

/-- A table has one pair for each of the names that it is made of. -/
theorem length_ofList (pairs : List (String × β)) :
    (ofList pairs).length = (names pairs).toFinset.card := by
  rw [← toFinset_names_ofList, List.toFinset_card_of_nodup (sorted_ofList pairs).nodup, names,
    List.length_map]

end Table

namespace Audit

variable {t : FileTree} {original : Option String} {root : String} {c : Context}
variable {corpus : Corpus} {names : List String}

/-! ## Sources and their keys -/

/-- The sources that an audit finds on either side. -/
def audited (t : FileTree) (original : Option String) (root : String) (c : Context) :
    Finset (List String) :=
  (sources t original root c.exclude).value.toFinset

/-- The key under which a source is listed. -/
def key (root : String) (c : Context) (names : List String) : String :=
  c.normalizer.normalize (Walk.pathOf root names)

theorem mem_audited :
    names ∈ audited t original root c ↔ names ∈ (sources t original root c.exclude).value :=
  List.mem_toFinset

theorem ne_empty_of_isDirectory (h : t.isDirectory root) : root ≠ "" := by
  rintro rfl
  exact nomatch h

/-- Each source is found by the walk on one of the sides. -/
theorem exists_of_mem_sources (h : names ∈ (sources t original root c.exclude).value) :
    ∃ dir, (dir = root ∨ original = some dir) ∧
      names ∈ (Walk.run t dir .source c.exclude).value := by
  unfold sources at h
  cases original with
  | none => exact ⟨root, .inl rfl, h⟩
  | some before =>
    rcases List.mem_append.1 (Ascending.mem_ofList.1 h) with h | h
    · exact ⟨root, .inl rfl, h⟩
    · exact ⟨before, .inr rfl, h⟩

/-- The location of a source below the directory. -/
theorem ofPath_pathOf (hroots : ∀ dir, dir = root ∨ original = some dir → t.isDirectory dir)
    (hfound : names ∈ audited t original root c) (hnames : ∀ name ∈ names, Path.IsName name.toList) :
    Location.ofPath (Walk.pathOf root names) =
      ⟨(Location.ofDirectory root).absolute,
        (Location.ofDirectory root).parts ++ names.map String.toList⟩ := by
  obtain ⟨dir, hdir, hrun⟩ := exists_of_mem_sources (mem_audited.1 hfound)
  have hne := (Walk.of_mem_run (hroots dir hdir) hrun).1
  have hend := Path.getLast?_joinAll (ne_empty_of_isDirectory (hroots dir hdir)) hne hnames
    (Walk.isSource_of_mem_run (hroots dir hdir) hrun)
  exact Location.ofPath_joinAll (ne_empty_of_isDirectory (hroots root (.inl rfl))) hne hnames hend

/-- Where keys are kept apart, no two sources share one. -/
theorem injOn_key (hroots : ∀ dir, dir = root ∨ original = some dir → t.isDirectory dir)
    (hnames : ∀ names ∈ audited t original root c, ∀ name ∈ names, Path.IsName name.toList)
    (hapart : c.normalizer.KeepsApart (Location.ofDirectory root)
      (sources t original root c.exclude).value) :
    Set.InjOn (key root c) (audited t original root c) := by
  intro a ha b hb heq
  rw [Finset.mem_coe] at ha hb
  rw [key, key, Normalizer.normalize_eq_normalize_iff, ofPath_pathOf hroots ha (hnames a ha),
    ofPath_pathOf hroots hb (hnames b hb)] at heq
  exact Normalizer.shorten_inj_below hapart (mem_audited.1 ha) (mem_audited.1 hb) heq

/-! ## Reports -/

theorem names_reportOf (t : FileTree) (original : Option String) (root : String) (corpus : Corpus)
    (c : Context) : (Table.names (reportOf t original root corpus c)).toFinset =
      (audited t original root c).image (key root c) := by
  ext k
  rw [reportOf, Table.toFinset_names_ofList, List.mem_toFinset, Table.names, List.map_map,
    List.mem_map, Finset.mem_image]
  simp only [mem_audited]
  rfl

/-- A report has as many entries as its sources have keys. -/
theorem length_reportOf (t : FileTree) (original : Option String) (root : String) (corpus : Corpus)
    (c : Context) : (reportOf t original root corpus c).length =
      ((audited t original root c).image (key root c)).card := by
  rw [← names_reportOf, reportOf, Table.length_ofList, Table.toFinset_names_ofList]

/-- The audit of directories that there are has an entry for each source that it finds, just if no
two sources share a key. In any case there is an entry under each key and under nothing else, and
that of a source whose key is its own is the one made for it, be it for an audit or for a fault. No
two sources share a key if the marker is on the way to the directory or in no path below it, the
root of the repository is absolute or no deeper than the directory, and no name has a slash of
either kind in it. -/
theorem directory_loses_no_file (t : FileTree) (original : Option String) (root : String)
    (c : Context) (hroots : ∀ dir, dir = root ∨ original = some dir → t.isDirectory dir) :
    ∃ report, (directory t original root c).run.value = .ok report ∧
      (report.length = (audited t original root c).card ↔
        Set.InjOn (key root c) (audited t original root c)) ∧
      (∀ k, (Table.get? k report).isSome ↔ ∃ names ∈ audited t original root c, key root c names = k) ∧
      (∀ names, Audits t original root c names → Table.get? (key root c names) report =
        some (listed t original root (testsOf t root c) c names).value.2) ∧
      ((∀ names ∈ audited t original root c, ∀ name ∈ names, Path.IsName name.toList) →
        c.normalizer.KeepsApart (Location.ofDirectory root)
          (sources t original root c.exclude).value →
          report.length = (audited t original root c).card) := by
  have hlength : (reportOf t original root (testsOf t root c) c).length =
      (audited t original root c).card ↔ Set.InjOn (key root c) (audited t original root c) := by
    rw [length_reportOf, Finset.card_image_iff]
  refine ⟨_, value_directory_testsOf hroots, hlength, fun k => ?_,
    fun names haudits => get?_reportOf haudits, fun hnames hapart => ?_⟩
  · rw [← Table.mem_names_iff, ← List.mem_toFinset, names_reportOf, Finset.mem_image]
  · exact hlength.2 (injOn_key hroots hnames hapart)

/-- Three files of one name, one of them only in the original and one that is not well formed, have
an entry each: the marker is the directory itself. -/
theorem directory_loses_no_file_of_same_name :
    let source := Node.file "def run():\n    pass\n".toUTF8
    let t : FileTree :=
      { root := .directory
          [("old", .directory [("util.py", source)]),
           ("src", .directory
             [("api", .directory [("util.py", .file "def (".toUTF8)]),
              ("web", .directory [("util.py", source)])])] }
    let c : Context := { normalizer := { marker := some "src" } }
    ∃ report, (directory t (some "old") "src" c).run.value = .ok report ∧ report.length = 3 ∧
      (Table.get? "api/util.py" report).isSome ∧ (Table.get? "util.py" report).isSome := by
  intro source t c
  have hfound : (sources t (some "old") "src" c.exclude).value =
      [["api", "util.py"], ["util.py"], ["web", "util.py"]] := by
    decide +kernel +zetaReduce
  have hroots : ∀ dir, dir = "src" ∨ some "old" = some dir → t.isDirectory dir := by
    rintro dir (rfl | hdir)
    · decide +kernel +zetaReduce
    · cases hdir
      decide +kernel +zetaReduce
  have hnames : ∀ names ∈ audited t (some "old") "src" c,
      ∀ name ∈ names, Path.IsName name.toList := by
    simp only [mem_audited, hfound]
    decide
  have hapart : c.normalizer.KeepsApart (Location.ofDirectory "src")
      (sources t (some "old") "src" c.exclude).value := .inl ⟨"src", rfl, by decide, by decide⟩
  obtain ⟨report, hreport, -, hkeys, -, hlength⟩ :=
    directory_loses_no_file t (some "old") "src" c hroots
  refine ⟨report, hreport, ?_, (hkeys _).2 ⟨["api", "util.py"], ?_, ?_⟩,
    (hkeys _).2 ⟨["util.py"], ?_, ?_⟩⟩
  · rw [hlength hnames hapart, audited, hfound]
    decide
  · simp [mem_audited, hfound]
  · decide +kernel +zetaReduce
  · simp [mem_audited, hfound]
  · decide +kernel +zetaReduce

/-- Where the marker lies deeper than the directory, the entry of one file takes the place of that
of another one. -/
theorem directory_length_lt_of_deeper_marker :
    let t : FileTree :=
      { root := .directory [("new", .directory
          [("api", .directory [("src", .directory [("util.py", .file "def (".toUTF8)])]),
           ("web", .directory [("src", .directory [("util.py", .file "x = 1\n".toUTF8)])])])] }
    let c : Context := { normalizer := { marker := some "src" } }
    ∃ report, (directory t none "new" c).run.value = .ok report ∧ report.length = 1 ∧
      (audited t none "new" c).card = 2 := by
  intro t c
  have hfound : (sources t none "new" c.exclude).value =
      [["api", "src", "util.py"], ["web", "src", "util.py"]] := by
    decide +kernel +zetaReduce
  have hroots : ∀ dir, dir = "new" ∨ none = some dir → t.isDirectory dir := by
    rintro dir (rfl | hdir)
    · decide +kernel +zetaReduce
    · exact nomatch hdir
  refine ⟨_, value_directory_testsOf hroots, ?_, ?_⟩
  · rw [length_reportOf, audited, hfound]
    decide +kernel +zetaReduce
  · rw [audited, hfound]
    decide

end Audit

end RefactorAudit
