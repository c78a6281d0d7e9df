-- SUMMARY: The entry of a file does not depend on the other files of a tree.
import RefactorAudit.Audit.Project
import RefactorAudit.Proofs.Collection.Canonical
import RefactorAudit.Proofs.Outcome

/-!
# Isolation

An audit reads a file of a tree through its path only. So the entry of a source is the same in two
runs over trees that hold the same in its place on both sides, whatever else there is in the trees.
In the report the entry stands under a key; it is still there at the end unless another source has
the same key.
-/

namespace RefactorAudit

/-! ## Files -/

namespace FileTree

variable {t t' : FileTree} {path : String}

/-- What the file at a path holds, if there is a file. -/
def contents? (t : FileTree) (path : String) : Option ByteArray :=
  match t.node? path with
  | some (.file contents) => some contents
  | _ => none

theorem isFile_eq (t : FileTree) (path : String) : t.isFile path = (t.contents? path).isSome := by
  unfold isFile contents?
  cases t.node? path with
  | none => rfl
  | some node =>
    cases node with
    | file contents => rfl
    | directory entries => rfl

theorem text_eq {contents : ByteArray} (h : t.contents? path = some contents) :
    t.text path = (Node.file contents).text := by
  unfold contents? node? at h
  unfold text
  cases hplace : t.locate path with
  | error refusal => simp [hplace, Except.toOption] at h
  | ok place =>
    obtain ⟨names, node, above⟩ := place
    cases node with
    | file found =>
      simp only [hplace, Except.toOption, Option.map_some, Option.some.injEq] at h
      rw [h]
      rfl
    | directory entries => simp [hplace, Except.toOption] at h

/-- A file is read the same in any tree that holds the same in its place. -/
theorem snapshot_congr (h : t.contents? path = t'.contents? path) (hfile : t.isFile path) :
    t.snapshot path = t'.snapshot path := by
  rw [isFile_eq] at hfile
  obtain ⟨contents, hcontents⟩ := Option.isSome_iff_exists.1 hfile
  unfold snapshot read
  rw [text_eq hcontents, text_eq (h ▸ hcontents)]

end FileTree

namespace Audit

/-! ## Entries -/

variable {t t' : FileTree} {original : Option String} {root : String} {c : Context}
variable {corpus : Corpus} {names : List String}

theorem changed_congr {before : Option String} {path : String} (tests : Option Corpus)
    (hbefore : ∀ path, before = some path → t.snapshot path = t'.snapshot path)
    (hafter : t.snapshot path = t'.snapshot path) :
    changed t before path tests c = changed t' before path tests c := by
  unfold changed
  rw [hafter]
  cases before with
  | none => rfl
  | some path =>
    dsimp only
    rw [hbefore path rfl]

theorem pair_congr {before after : Option String} (tests : Option Corpus)
    (hbefore : ∀ path, before = some path → t.snapshot path = t'.snapshot path)
    (hafter : ∀ path, after = some path → t.snapshot path = t'.snapshot path) :
    pair t before after tests c = pair t' before after tests c := by
  cases after with
  | some path => exact changed_congr tests hbefore (hafter path rfl)
  | none =>
    cases before with
    | none => rfl
    | some path =>
      unfold pair removed
      dsimp only
      rw [hbefore path rfl]

/-- The same file, or the same absence, in the place of some names below both roots. -/
def SamePlaces (t t' : FileTree) (original : Option String) (root : String)
    (names : List String) : Prop :=
  ∀ dir, dir = root ∨ original = some dir →
    t.contents? (Walk.pathOf dir names) = t'.contents? (Walk.pathOf dir names)

theorem listed_congr (h : SamePlaces t t' original root names) :
    listed t original root corpus c names = listed t' original root corpus c names := by
  have hisFile (dir : String) (hdir : dir = root ∨ original = some dir) :
      t.isFile (Walk.pathOf dir names) = t'.isFile (Walk.pathOf dir names) := by
    rw [FileTree.isFile_eq, FileTree.isFile_eq, h dir hdir]
  have hbefore : (original.map fun dir => Walk.pathOf dir names).filter t.isFile =
      (original.map fun dir => Walk.pathOf dir names).filter t'.isFile := by
    cases original with
    | none => rfl
    | some dir => simp only [Option.map_some, Option.filter_some, hisFile dir (.inr rfl)]
  unfold listed
  dsimp only
  rw [← hbefore, ← hisFile root (.inl rfl)]
  rw [pair_congr (some corpus) ?_ ?_]
  · intro path hpath
    obtain ⟨hmap, hfile⟩ := Option.filter_eq_some_iff.1 hpath
    obtain ⟨dir, hdir, rfl⟩ := Option.map_eq_some_iff.1 hmap
    exact FileTree.snapshot_congr (h dir (.inr hdir)) hfile
  · intro path hpath
    split at hpath
    · next hfile =>
      cases hpath
      exact FileTree.snapshot_congr (h root (.inl rfl)) hfile
    · exact nomatch hpath

/-! ## Reports -/

/-- A source that an audit finds, and whose key no other source of it has. -/
structure Audits (t : FileTree) (original : Option String) (root : String) (c : Context)
    (names : List String) : Prop where
  found : names ∈ (sources t original root c.exclude).value
  alone : ∀ other ∈ (sources t original root c.exclude).value,
    c.normalizer.normalize (Walk.pathOf root other) =
      c.normalizer.normalize (Walk.pathOf root names) → other = names

/-- What an audit reports about all sources that it finds. -/
def reportOf (t : FileTree) (original : Option String) (root : String) (corpus : Corpus)
    (c : Context) : Report :=
  Table.ofList ((sources t original root c.exclude).value.map fun names =>
    (listed t original root corpus c names).value)

/-- The tests that an audit uses: those below the directory, unless there are given ones. -/
def testsOf (t : FileTree) (root : String) (c : Context) : Corpus :=
  c.tests.getD (t.discoverCorpus root c.exclude).value

/-- An audit of directories that there are succeeds. -/
theorem value_directory_testsOf
    (hroots : ∀ dir, dir = root ∨ original = some dir → t.isDirectory dir) :
    (directory t original root c).run.value = .ok (reportOf t original root (testsOf t root c) c) := by
  have hrequire : requireBoth (requireDirectory t) root original = pure () := by
    unfold requireBoth requireDirectory
    cases original with
    | none => simp [hroots root]
    | some dir => simp [hroots root, hroots dir]
  unfold directory reportOf testsOf
  rw [hrequire]
  cases c.tests <;>
  · simp only [pure_bind, Attempt.value_lift_bind]
    split
    · rw [Attempt.value_lift_bind, Attempt.value_pure, Noted.value_mapM]
      rfl
    · rw [Attempt.value_pure, Noted.value_mapM]
      rfl

theorem value_directory (htests : c.tests = some corpus)
    (hroots : ∀ dir, dir = root ∨ original = some dir → t.isDirectory dir) :
    (directory t original root c).run.value = .ok (reportOf t original root corpus c) := by
  rw [value_directory_testsOf hroots, testsOf, htests, Option.getD_some]

theorem get?_reportOf (h : Audits t original root c names) :
    Table.get? (c.normalizer.normalize (Walk.pathOf root names))
      (reportOf t original root corpus c) = some (listed t original root corpus c names).value.2 := by
  have hkey (other : List String) : (listed t original root corpus c other).value.1 =
      c.normalizer.normalize (Walk.pathOf root other) := rfl
  apply Table.get?_ofList_of_forall
  · exact List.mem_map.2 ⟨names, h.found, rfl⟩
  · intro pair hpair hname
    obtain ⟨other, hother, rfl⟩ := List.mem_map.1 hpair
    rw [h.alone other hother (hkey other ▸ hname)]

/-- Two audits of the same directories with the same tests succeed, and they agree on every source
that both find and whose file is the same on both sides. Its entry is that of the one pair of files:
what other files hold, or whether there are any, does not matter. -/
theorem directory_isolates {t t' : FileTree} {original : Option String} {root : String}
    {c : Context} {corpus : Corpus} {names : List String} (htests : c.tests = some corpus)
    (hroots : ∀ dir, dir = root ∨ original = some dir → t.isDirectory dir ∧ t'.isDirectory dir)
    (hsame : SamePlaces t t' original root names)
    (haudits : Audits t original root c names) (haudits' : Audits t' original root c names) :
    ∃ report report' entry, (directory t original root c).run.value = .ok report ∧
      (directory t' original root c).run.value = .ok report' ∧
      Table.get? (c.normalizer.normalize (Walk.pathOf root names)) report = some entry ∧
      Table.get? (c.normalizer.normalize (Walk.pathOf root names)) report' = some entry ∧
      entry = (listed t original root corpus c names).value.2 := by
  have hreport := value_directory htests fun dir hdir => (hroots dir hdir).1
  have hreport' := value_directory htests fun dir hdir => (hroots dir hdir).2
  have hentry' : Table.get? (c.normalizer.normalize (Walk.pathOf root names))
      (reportOf t' original root corpus c) = some (listed t' original root corpus c names).value.2 :=
    get?_reportOf haudits'
  rw [← listed_congr hsame] at hentry'
  exact ⟨_, _, _, hreport, hreport', get?_reportOf haudits, hentry', rfl⟩

/-- Beside an unchanged file there is another one that is not well formed, and an original that is
no text. -/
theorem directory_isolates_of_broken_files :
    let source := Node.file "def run():\n    pass\n".toUTF8
    let before := Node.file "def go():\n    pass\n".toUTF8
    let t : FileTree :=
      { root := .directory [("new", .directory [("a.py", source)]),
                            ("old", .directory [("a.py", before)])] }
    let t' : FileTree :=
      { root := .directory [("new", .directory [("a.py", source), ("b.py", .file "def (".toUTF8)]),
                            ("old", .directory [("a.py", before), ("c.py", .file ⟨#[255]⟩)])] }
    let c : Context := { tests := some .empty }
    ∃ report report' entry, (directory t (some "old") "new" c).run.value = .ok report ∧
      (directory t' (some "old") "new" c).run.value = .ok report' ∧
      Table.get? "new/a.py" report = some entry ∧ Table.get? "new/a.py" report' = some entry := by
  intro source before t t' c
  have hfound : (sources t (some "old") "new" c.exclude).value = [["a.py"]] := by
    decide +kernel +zetaReduce
  have hfound' : (sources t' (some "old") "new" c.exclude).value = [["a.py"], ["b.py"], ["c.py"]] := by
    decide +kernel +zetaReduce
  have hkey : c.normalizer.normalize (Walk.pathOf "new" ["a.py"]) = "new/a.py" := by
    decide +kernel +zetaReduce
  have hroots : ∀ dir, dir = "new" ∨ some "old" = some dir →
      t.isDirectory dir ∧ t'.isDirectory dir := by
    rintro dir (rfl | hdir)
    · decide +kernel +zetaReduce
    · cases hdir
      decide +kernel +zetaReduce
  have hsame : SamePlaces t t' (some "old") "new" ["a.py"] := by
    rintro dir (rfl | hdir)
    · decide +kernel +zetaReduce
    · cases hdir
      decide +kernel +zetaReduce
  have haudits : Audits t (some "old") "new" c ["a.py"] := by
    refine ⟨by simp [hfound], ?_⟩
    simp [hfound]
  have haudits' : Audits t' (some "old") "new" c ["a.py"] := by
    refine ⟨by simp [hfound'], ?_⟩
    rw [hfound']
    decide +kernel +zetaReduce
  obtain ⟨report, report', entry, hreport, hreport', hentry, hentry', -⟩ :=
    directory_isolates rfl hroots hsame haudits haudits'
  rw [hkey] at hentry hentry'
  exact ⟨report, report', entry, hreport, hreport', hentry, hentry'⟩

end Audit

end RefactorAudit
