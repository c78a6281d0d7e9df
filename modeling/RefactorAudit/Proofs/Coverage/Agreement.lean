-- SUMMARY: The formats of coverage reports say the same about the same data.
import RefactorAudit.Proofs.Coverage.CoberturaSections
import RefactorAudit.Proofs.Coverage.JsonSections
import RefactorAudit.Proofs.Coverage.TracefileSections

/-!
# Agreement of the formats

Each format is read as the files that its sections add up to. What the files hold is determined by
the data alone: by which files have sections, and by which lines of them are recorded and hit.
-/

namespace RefactorAudit.Coverage

variable {α : Type} {files a b : Files α} {sections others : List Section}

/-! ## What sections say -/

/-- The files hold what the sections record, and nothing else. -/
structure Files.Describes (files : Files α) (sections : List Section) : Prop where
  sorted : Table.Sorted files
  names : ∀ k, k ∈ files.names ↔ ∃ s ∈ sections, key s.path = k
  ordered : ∀ k c, files.get? k = some c → c.Ordered
  executable : ∀ k c, files.get? k = some c → ∀ n, n ∈ c.executable ↔
    ∃ s ∈ sections, key s.path = k ∧ ∃ hits, (n, hits) ∈ s.records
  hit : ∀ k c, files.get? k = some c → ∀ n, n ∈ c.hit ↔
    ∃ s ∈ sections, key s.path = k ∧ ∃ hits, (n, hits) ∈ s.records ∧ 0 < hits
  summary : ∀ k c, files.get? k = some c → c.summary = none

theorem Files.describes_ofSections (sections : List Section) :
    (ofSections sections : Files α).Describes sections := by
  have hfile : ∀ k c, Table.get? k (ofSections sections : Files α) = some c →
      c = .ofRecords (recordsOf k sections) := by
    intro k c hget
    rw [get?_ofSections] at hget
    split at hget
    · exact (Option.some.inj hget).symm
    · exact nomatch hget
  refine ⟨sorted_ofSections sections, fun k => ?_, ?_, ?_, ?_, ?_⟩
  · rw [Table.mem_names_iff, get?_ofSections]
    split
    · next hk => simp [hk]
    · next hk => simp [hk]
  · intro k c hget
    rw [hfile k c hget]
    exact FileCoverage.ordered_ofRecords _
  · intro k c hget n
    rw [hfile k c hget, FileCoverage.mem_executable_ofRecords]
    constructor
    · rintro ⟨hits, hr⟩
      obtain ⟨s, hs, hk, hr⟩ := mem_recordsOf.1 hr
      exact ⟨s, hs, hk, hits, hr⟩
    · rintro ⟨s, hs, hk, hits, hr⟩
      exact ⟨hits, mem_recordsOf.2 ⟨s, hs, hk, hr⟩⟩
  · intro k c hget n
    rw [hfile k c hget, FileCoverage.mem_hit_ofRecords]
    constructor
    · rintro ⟨hits, hr, hpos⟩
      obtain ⟨s, hs, hk, hr⟩ := mem_recordsOf.1 hr
      exact ⟨s, hs, hk, hits, hr, hpos⟩
    · rintro ⟨s, hs, hk, hits, hr, hpos⟩
      exact ⟨hits, mem_recordsOf.2 ⟨s, hs, hk, hr⟩, hpos⟩
  · intro k c hget
    rw [hfile k c hget, FileCoverage.ofRecords, FileCoverage.summary_recordAll]

/-! ## The same data -/

/-- Sections that record the same, in any order, split in any way and as often as they like. -/
structure SameData (others sections : List Section) : Prop where
  paths : ∀ p, (∃ t ∈ others, t.path = p) ↔ ∃ s ∈ sections, s.path = p
  records : ∀ p r, (∃ t ∈ others, t.path = p ∧ r ∈ t.records) ↔
    ∃ s ∈ sections, s.path = p ∧ r ∈ s.records

theorem SameData.refl (sections : List Section) : SameData sections sections :=
  ⟨fun _ => Iff.rfl, fun _ _ => Iff.rfl⟩

theorem SameData.valid (h : SameData others sections) (hsections : ∀ s ∈ sections, s.Valid) :
    ∀ t ∈ others, t.Valid := by
  refine fun t ht => ⟨fun c hc => ?_, fun r hr => ?_⟩
  · obtain ⟨s, hs, hpath⟩ := (h.paths t.path).1 ⟨t, ht, rfl⟩
    exact (hsections s hs).path c (hpath ▸ hc)
  · obtain ⟨s, hs, -, hr⟩ := (h.records t.path r).1 ⟨t, ht, rfl, hr⟩
    exact (hsections s hs).records r hr

theorem SameData.mem_recordsOf_iff (h : SameData others sections) {k : String} {r : Nat × Nat} :
    r ∈ recordsOf k others ↔ r ∈ recordsOf k sections := by
  rw [mem_recordsOf, mem_recordsOf]
  constructor
  · rintro ⟨t, ht, rfl, hr⟩
    obtain ⟨s, hs, hpath, hr⟩ := (h.records t.path r).1 ⟨t, ht, rfl, hr⟩
    exact ⟨s, hs, congrArg key hpath, hr⟩
  · rintro ⟨s, hs, rfl, hr⟩
    obtain ⟨t, ht, hpath, hr⟩ := (h.records s.path r).2 ⟨s, hs, rfl, hr⟩
    exact ⟨t, ht, congrArg key hpath, hr⟩

theorem SameData.exists_key_iff (h : SameData others sections) {k : String} :
    (∃ t ∈ others, key t.path = k) ↔ ∃ s ∈ sections, key s.path = k := by
  constructor
  · rintro ⟨t, ht, rfl⟩
    obtain ⟨s, hs, hpath⟩ := (h.paths t.path).1 ⟨t, ht, rfl⟩
    exact ⟨s, hs, congrArg key hpath⟩
  · rintro ⟨s, hs, rfl⟩
    obtain ⟨t, ht, hpath⟩ := (h.paths s.path).2 ⟨s, hs, rfl⟩
    exact ⟨t, ht, congrArg key hpath⟩

/-- The same data make the same files. -/
theorem SameData.ofSections_eq (h : SameData others sections) :
    (Files.ofSections others : Files α) = Files.ofSections sections := by
  refine (Files.sorted_ofSections others).ext (Files.sorted_ofSections sections) fun k => ?_
  have hrecords : (FileCoverage.ofRecords (recordsOf k others) : FileCoverage α) =
      .ofRecords (recordsOf k sections) :=
    FileCoverage.ofRecords_eq
      (fun n => exists_congr fun hits => h.mem_recordsOf_iff)
      (fun n => exists_congr fun hits => and_congr_left' h.mem_recordsOf_iff)
  rw [Files.get?_ofSections, Files.get?_ofSections, hrecords]
  exact if_congr h.exists_key_iff rfl rfl

theorem SameData.keys (h : SameData others sections)
    (hkeys : ∀ s ∈ sections, ∀ t ∈ sections, key s.path = key t.path → s.path = t.path) :
    ∀ s ∈ others, ∀ t ∈ others, key s.path = key t.path → s.path = t.path := by
  intro s hs t ht heq
  obtain ⟨s', hs', hpath⟩ := (h.paths s.path).1 ⟨s, hs, rfl⟩
  obtain ⟨t', ht', hpath'⟩ := (h.paths t.path).1 ⟨t, ht, rfl⟩
  rw [← hpath, ← hpath'] at heq ⊢
  exact hkeys s' hs' t' ht' heq

/-! ## Agreement -/

/-- The formats agree: if different paths have different keys, the reports on the same data, in
whatever order and division, are all read as the same files, and these hold what the data say. -/
theorem read_same_files
    (hsections : ∀ s ∈ sections, s.Valid)
    (hkeys : ∀ s ∈ sections, ∀ t ∈ sections, key s.path = key t.path → s.path = t.path) :
    ∃ files : Files, files.Describes sections ∧
      ∀ others, SameData others sections →
        Cobertura.read (Cobertura.reportText others) = .ok files ∧
        Tracefile.read (Tracefile.reportText others) = .ok files ∧
        JsonReport.read (JsonReport.document (JsonReport.entriesOf others)).compact = .ok files ∧
        ∀ entries text, JsonReport.Lists entries others →
          Json.StandsFor text (JsonReport.document entries) →
          JsonReport.read text = .ok files := by
  refine ⟨Files.ofSections sections, Files.describes_ofSections sections, fun others h => ?_⟩
  have hvalid := h.valid hsections
  have hjson : ∀ entries text, JsonReport.Lists entries others →
      Json.StandsFor text (JsonReport.document entries) →
      JsonReport.read text = .ok (Files.ofSections others) :=
    fun entries text hlists htext => JsonReport.read_eq hvalid hlists (h.keys hkeys) htext
  rw [← h.ofSections_eq]
  refine ⟨Cobertura.read_reportText hvalid, Tracefile.read_reportText hvalid, ?_, hjson⟩
  exact hjson _ _ (JsonReport.lists_entriesOf others) (Json.standsFor_compact _)

/-- A file with two sections, one of its lines recorded as missing and as hit. -/
def repeatedFile : List Section :=
  [⟨"./src/a&b.py", [(3, 0), (1, 2), (2, 0)]⟩, ⟨"src/c.py", [(7, 0)]⟩, ⟨"./src/a&b.py", [(3, 5)]⟩]

theorem read_same_files_of_repeated_file :
    (∀ s ∈ repeatedFile, s.Valid) ∧
    (∀ s ∈ repeatedFile, ∀ t ∈ repeatedFile, key s.path = key t.path → s.path = t.path) ∧
    ∃ (files : Files) (c : FileCoverage),
      Cobertura.read (Cobertura.reportText repeatedFile) = .ok files ∧
      Tracefile.read (Tracefile.reportText repeatedFile) = .ok files ∧
      JsonReport.read (JsonReport.document (JsonReport.entriesOf repeatedFile)).compact =
        .ok files ∧
      files.get? "src/a&b.py" = some c ∧ 3 ∈ c.hit ∧ 2 ∈ c.executable ∧ 2 ∉ c.hit := by
  have hsections : ∀ s ∈ repeatedFile, s.Valid := by decide
  have hkeys : ∀ s ∈ repeatedFile, ∀ t ∈ repeatedFile,
      key s.path = key t.path → s.path = t.path := by decide
  obtain ⟨files, hfiles, hread⟩ := read_same_files hsections hkeys
  obtain ⟨hxml, hlcov, hjson, -⟩ := hread repeatedFile (SameData.refl repeatedFile)
  have hname : "src/a&b.py" ∈ files.names :=
    (hfiles.names _).2 ⟨⟨"./src/a&b.py", [(3, 5)]⟩, by decide, by decide⟩
  obtain ⟨c, hc⟩ := Option.isSome_iff_exists.1 (Table.mem_names_iff.1 hname)
  refine ⟨hsections, hkeys, files, c, hxml, hlcov, hjson, hc, ?_, ?_, ?_⟩
  · exact (hfiles.hit _ c hc 3).2
      ⟨⟨"./src/a&b.py", [(3, 5)]⟩, by decide, by decide, 5, by decide, by decide⟩
  · exact (hfiles.executable _ c hc 2).2
      ⟨⟨"./src/a&b.py", [(3, 0), (1, 2), (2, 0)]⟩, by decide, by decide, 0, by decide⟩
  · rw [hfiles.hit _ c hc 2]
    rintro ⟨s, hs, -, hits, hr, hpos⟩
    have hnone : ∀ s ∈ repeatedFile, ∀ r ∈ s.records, r.1 = 2 → r.2 = 0 := by decide
    exact absurd hpos (Nat.not_lt.2 (Nat.le_of_eq (hnone s hs _ hr rfl)))

end RefactorAudit.Coverage
