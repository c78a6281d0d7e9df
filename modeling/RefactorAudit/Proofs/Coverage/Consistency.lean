-- SUMMARY: Every line that a report counts as hit is executable.
import RefactorAudit.Coverage.Reading
import RefactorAudit.Proofs.Coverage.Sections
import RefactorAudit.Proofs.Outcome

/-!
# Consistency

The line data of a file start empty, and lines are recorded one by one. The lines that were hit are
then executable, and both sets ascend. All readers build the files of a report in this way.
-/

namespace RefactorAudit

/-! ## A file -/

namespace FileCoverage

variable {α β : Type} {c : FileCoverage α}

/-- Both sets of lines ascend, and the hit lines are executable. -/
structure Consistent (c : FileCoverage α) : Prop extends Ordered c where
  hit_subset : c.hit ⊆ c.executable

theorem consistent_start (summary : Option (CoverageSummary α)) :
    ({ summary } : FileCoverage α).Consistent :=
  ⟨⟨List.Pairwise.nil, List.Pairwise.nil⟩, List.nil_subset _⟩

theorem Consistent.record (h : c.Consistent) (line hits : Nat) : (c.record line hits).Consistent := by
  refine ⟨h.toOrdered.record line hits, ?_⟩
  intro n hn
  rw [mem_executable_record]
  rcases mem_hit_record.1 hn with ⟨rfl, -⟩ | hhit
  · exact .inl rfl
  · exact .inr (h.hit_subset hhit)

theorem Consistent.recordAll (h : c.Consistent) (records : List (Nat × Nat)) :
    (c.recordAll records).Consistent := by
  induction records generalizing c with
  | nil => exact h
  | cons r rest ih => exact ih (h.record r.1 r.2)

/-- The same lines, with figures of another kind. -/
def mapFigures (f : α → β) (c : FileCoverage α) : FileCoverage β :=
  { hit := c.hit
    executable := c.executable
    summary := c.summary.map fun s =>
      { covered := s.covered, statements := s.statements, percent := s.percent.map f } }

theorem Consistent.mapFigures (h : c.Consistent) (f : α → β) : (c.mapFigures f).Consistent :=
  ⟨⟨h.hit, h.executable⟩, h.hit_subset⟩

end FileCoverage

namespace Coverage

/-! ## The files of a report -/

namespace Files

variable {α β : Type} {files after : Files α}

/-- The line data of all files are consistent. -/
def Consistent (files : Files α) : Prop := ∀ entry ∈ files, entry.2.Consistent

/-- What a reader does with the files when it takes up a part of a report. -/
inductive Step (files : Files α) : Files α → Prop where
  | keep : Step files files
  | touch (path : String) : Step files (files.touch path)
  | record (path : String) (line hits : Nat) : Step files (files.record path line hits)

theorem consistent_nil : Consistent ([] : Files α) := fun _ h => nomatch h

theorem Consistent.update {change : FileCoverage α → FileCoverage α} (h : Consistent files)
    (path : String) (hchange : ∀ c, c.Consistent → (change c).Consistent) :
    Consistent (Table.update path {} change files) := by
  intro entry hentry
  rcases Table.mem_put hentry with rfl | hmem
  · apply hchange
    cases hget : Table.get? path files with
    | none => exact FileCoverage.consistent_start none
    | some c => exact h _ (Table.mem_of_get? hget)
  · exact h entry hmem

theorem Consistent.step (h : Consistent files) (hstep : Step files after) : Consistent after := by
  cases hstep with
  | keep => exact h
  | touch path => exact h.update path fun c hc => hc
  | record path line hits => exact h.update path fun c hc => hc.record line hits

/-- The same files, with figures of another kind. -/
def mapFigures (f : α → β) (files : Files α) : Files β :=
  files.map fun entry => (entry.1, entry.2.mapFigures f)

theorem Consistent.mapFigures (h : Consistent files) (f : α → β) :
    Consistent (mapFigures f files) := by
  intro entry hentry
  obtain ⟨before, hbefore, rfl⟩ := List.mem_map.1 hentry
  exact (h before hbefore).mapFigures f

end Files

/-! ## Tracefiles -/

namespace Tracefile

variable {α : Type}

theorem State.step_files (s : State α) (r : Record) : Files.Step s.files (s.step r).files := by
  unfold State.step
  split
  · exact .touch _
  · split
    · exact .record _ _ _
    · exact .keep
  · exact .keep
  · exact .keep

theorem consistent_readLines {number : Nat} {s after : State α} {lines : List (List Char)}
    (h : Files.Consistent s.files) (hread : readLines number s lines = .ok after) :
    Files.Consistent after.files := by
  induction lines generalizing number s with
  | nil =>
    cases hread
    exact h
  | cons line rest ih =>
    unfold readLines at hread
    split at hread
    · exact nomatch hread
    · next r _ => exact ih (h.step (s.step_files r)) hread

theorem consistent_read {text : String} {files : Files α} (hread : read text = .ok files) :
    Files.Consistent files := by
  unfold read at hread
  cases hlines : readLines 1 ({} : State α) (lines text.toList) with
  | error problem =>
    rw [hlines] at hread
    exact nomatch hread
  | ok after =>
    rw [hlines] at hread
    cases hread
    exact consistent_readLines Files.consistent_nil hlines

end Tracefile

/-! ## Cobertura reports -/

namespace Cobertura

variable {α : Type} {s after : State α}

theorem State.step_files {tag : Markup.Tag} (h : s.step tag = .ok after) :
    Files.Step s.files after.files := by
  unfold State.step at h
  split at h
  · cases h
    split
    · exact .keep
    · exact .keep
  · split at h
    · cases h
      exact .keep
    · split at h
      · split at h
        · exact nomatch h
        · cases h
          exact .touch _
      · split at h
        · split at h
          · cases h
            exact .keep
          · obtain ⟨line, -, hrest⟩ := bind_eq_ok.1 h
            obtain ⟨hits, -, hrecord⟩ := bind_eq_ok.1 hrest
            cases hrecord
            exact .record _ line hits
        · cases h
          exact .keep

theorem consistent_foldlM {tags : List Markup.Tag} (h : Files.Consistent s.files)
    (hread : tags.foldlM State.step s = .ok after) : Files.Consistent after.files := by
  induction tags generalizing s with
  | nil =>
    cases hread
    exact h
  | cons tag rest ih =>
    rw [List.foldlM_cons] at hread
    obtain ⟨next, hstep, hrest⟩ := bind_eq_ok.1 hread
    exact ih (h.step (State.step_files hstep)) hrest

theorem consistent_read {document : String} {files : Files α} (hread : read document = .ok files) :
    Files.Consistent files := by
  obtain ⟨after, htags, hclosed⟩ := bind_eq_ok.1 hread
  split at hclosed
  · cases hclosed
    exact consistent_foldlM Files.consistent_nil htags
  · exact nomatch hclosed

end Cobertura

/-! ## JSON reports -/

namespace JsonReport

open Json (Value)

variable {α : Type} [Figure α]

/-- The lines of an entry are recorded, the executed ones as hit once. -/
theorem fileOf_eq_recordAll (fields : Json.Fields α) :
    fileOf fields = FileCoverage.recordAll
      ((linesField fields "executed_lines").map (·, 1) ++
        (linesField fields "missing_lines").map (·, 0))
      { summary := ((fields.get? "summary").bind Value.object?).map summaryOf } := by
  rw [FileCoverage.recordAll_append, FileCoverage.recordAll, FileCoverage.recordAll,
    List.foldl_map, List.foldl_map]
  rfl

theorem consistent_fileOf (fields : Json.Fields α) : (fileOf fields).Consistent := by
  rw [fileOf_eq_recordAll]
  exact (FileCoverage.consistent_start _).recordAll _

theorem consistent_filesOf (report : Value α) : Files.Consistent (filesOf report) := by
  intro entry hentry
  obtain ⟨listed, -, rfl⟩ := List.mem_map.1 (Table.mem_of_mem_ofList hentry)
  exact consistent_fileOf (listed.2.object?.getD [])

theorem consistent_read {text : String} {files : Files} (hread : read text = .ok files) :
    Files.Consistent files := by
  obtain ⟨report, -, rfl⟩ := map_eq_ok.1 hread
  exact consistent_filesOf report

end JsonReport

/-! ## Reports of every format -/

theorem Format.consistent_files {format : Format} {text : String} {files : Files}
    (h : format.files text = .ok files) : Files.Consistent files := by
  cases format with
  | xml => exact Cobertura.consistent_read (mapError_eq_ok.1 h)
  | json => exact JsonReport.consistent_read h
  | lcov => exact Tracefile.consistent_read (mapError_eq_ok.1 h)

namespace Index

variable {α β : Type} {i : Index α}

/-- The line data of all files of an index are consistent. -/
def Consistent (i : Index α) : Prop := Files.Consistent i.files

/-- The same index, with figures of another kind. -/
def mapFigures (f : α → β) (i : Index α) : Index β :=
  { files := i.files.mapFigures f, repoRoot := i.repoRoot, format := i.format }

theorem Consistent.mapFigures (h : i.Consistent) (f : α → β) : (i.mapFigures f).Consistent :=
  Files.Consistent.mapFigures h f

theorem Consistent.withRepoRoot (h : i.Consistent) (root : Option String) :
    (i.withRepoRoot root).Consistent := h

theorem consistent_ofText {format : Format} {origin text : String} {i : Index}
    (h : ofText format origin text = .ok i) : i.Consistent := by
  unfold ofText at h
  split at h
  · next hfiles =>
    cases h
    exact Format.consistent_files hfiles
  · exact nomatch h

theorem Consistent.find? (h : i.Consistent) {requested : String} {file : FileCoverage α}
    (hfind : (i.find? requested).map (·.2) = some file) : file.Consistent := by
  obtain ⟨⟨path, found⟩, hfound, rfl⟩ := Option.map_eq_some_iff.1 hfind
  simp only [Index.find?, Option.bind_eq_bind, Option.bind_eq_some_iff, Option.pure_def,
    Option.some.injEq, Prod.mk.injEq] at hfound
  obtain ⟨name, -, entry, hget, rfl, rfl⟩ := hfound
  exact h _ (Table.mem_of_get? hget)

end Index

end Coverage

end RefactorAudit
