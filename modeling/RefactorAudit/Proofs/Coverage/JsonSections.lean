-- SUMMARY: Sections listed in a JSON coverage report are read back.
import RefactorAudit.Coverage.JsonReport
import RefactorAudit.Proofs.Coverage.Sections
import RefactorAudit.Proofs.Json.Reading
import Mathlib.Data.List.Dedup

/-!
# Sections in JSON reports

A JSON report lists each file once, with all its executed and all its missing lines. Read back, it
has the files of the sections that it lists, whatever the order of its files and lines.
-/

namespace RefactorAudit.Coverage.JsonReport

open Json (Shape Value Reads ReadsField)

/-! ## Written form -/

/-- What a report says about a file. -/
structure Entry where
  path : String
  executed : List Nat
  missing : List Nat
  deriving DecidableEq, Repr, Inhabited

variable {α : Type}

def linesValue (lines : List Nat) : Value α := .array (lines.map .ofNat)

def Entry.fields (e : Entry) : Json.Fields α :=
  [("executed_lines", linesValue e.executed), ("missing_lines", linesValue e.missing)]

/-- The files of a report, in the order of its text. -/
def filesFields (entries : List Entry) : List (String × Value α) :=
  entries.map fun e => (e.path, .object e.fields)

/-- The report on files, in the order of its text. -/
def document (entries : List Entry) : Value α := .object [("files", .object (filesFields entries))]

/-- The entries list the files of sections, each once, and the lines of all sections of a file. -/
structure Lists (entries : List Entry) (sections : List Section) : Prop where
  nodup : (entries.map Entry.path).Nodup
  paths : ∀ p, (∃ e ∈ entries, e.path = p) ↔ ∃ s ∈ sections, s.path = p
  executed : ∀ e ∈ entries, ∀ n, n ∈ e.executed ↔
    ∃ s ∈ sections, s.path = e.path ∧ ∃ hits, (n, hits) ∈ s.records ∧ 0 < hits
  missing : ∀ e ∈ entries, ∀ n, n ∈ e.missing ↔
    ∃ s ∈ sections, s.path = e.path ∧ (n, 0) ∈ s.records

/-- The lines of a file that were executed as often as a test asks for. -/
def linesWhere (test : Nat → Bool) (path : String) (sections : List Section) : List Nat :=
  (((sections.filter fun s => s.path = path).flatMap Section.records).filter
    fun r => test r.2).map (·.1)

/-- Entries that list sections: the files in order of their last section, their lines in order of
the records. -/
def entriesOf (sections : List Section) : List Entry :=
  (sections.map Section.path).dedup.map fun path =>
    { path
      executed := linesWhere (0 < ·) path sections
      missing := linesWhere (· = 0) path sections }

variable {e : Entry} {entries : List Entry} {sections : List Section} {n : Nat}

theorem mem_linesWhere {test : Nat → Bool} {path : String} :
    n ∈ linesWhere test path sections ↔
      ∃ s ∈ sections, s.path = path ∧ ∃ hits, (n, hits) ∈ s.records ∧ test hits = true := by
  simp only [linesWhere, List.mem_map, List.mem_filter, List.mem_flatMap, decide_eq_true_eq]
  constructor
  · rintro ⟨⟨_, hits⟩, ⟨⟨s, ⟨hs, hpath⟩, hr⟩, htest⟩, rfl⟩
    exact ⟨s, hs, hpath, hits, hr, htest⟩
  · rintro ⟨s, hs, hpath, hits, hr, htest⟩
    exact ⟨(n, hits), ⟨⟨s, ⟨hs, hpath⟩, hr⟩, htest⟩, rfl⟩

theorem lists_entriesOf (sections : List Section) : Lists (entriesOf sections) sections := by
  have hpaths : (entriesOf sections).map Entry.path = (sections.map Section.path).dedup := by
    rw [entriesOf, List.map_map]
    exact List.map_id _
  refine ⟨hpaths ▸ List.nodup_dedup _, fun p => ?_, fun e he n => ?_, fun e he n => ?_⟩
  · rw [← List.mem_map, hpaths, List.mem_dedup, List.mem_map]
  · obtain ⟨path, -, rfl⟩ := List.mem_map.1 he
    simp [mem_linesWhere]
  · obtain ⟨path, -, rfl⟩ := List.mem_map.1 he
    simp [mem_linesWhere]

/-! ## Reading -/

theorem reads_lines {depth : Nat} {lines : List Nat} (hdepth : depth < Json.ReadM.depthLimit)
    (h : ∀ n ∈ lines, n ≤ Text.limit64) :
    Reads (.list lineShape) depth (linesValue lines) (linesValue lines) := by
  refine Json.reads_list hdepth (List.forall₂_same.2 fun v hv => ?_)
  obtain ⟨n, hn, rfl⟩ := List.mem_map.1 hv
  exact Json.reads_natural (h n hn) (h n hn)

theorem reads_entry {depth : Nat} (hdepth : depth + 1 < Json.ReadM.depthLimit)
    (hexecuted : ∀ n ∈ e.executed, n ≤ Text.limit64)
    (hmissing : ∀ n ∈ e.missing, n ≤ Text.limit64) :
    Reads fileShape depth (.object e.fields) (.object e.fields) := by
  have hsorted : Table.ofList (e.fields : Json.Fields) = e.fields := by
    simp [Entry.fields, Table.ofList, Table.putAll, Table.put, String.lt_asymm (by decide :
      "executed_lines" < "missing_lines")]
  have hfields : List.Forall₂ (ReadsField [("executed_lines", false, .list lineShape),
      ("missing_lines", false, .list lineShape), ("summary", false, .nullable summaryShape)]
      (depth + 1)) e.fields e.fields :=
    .cons ⟨rfl, false, .list lineShape, rfl, reads_lines hdepth hexecuted⟩
      (.cons ⟨rfl, false, .list lineShape, rfl, reads_lines hdepth hmissing⟩ .nil)
  have hnodup : ((e.fields : Json.Fields).map (·.1)).Nodup := by simp [Entry.fields]
  have hread : Reads fileShape depth (.object e.fields) (.object (Table.ofList e.fields)) :=
    Json.reads_record (Nat.lt_of_succ_lt hdepth) hfields hnodup rfl
  rwa [hsorted] at hread

/-- The text of a report is read with its files in order of their paths. -/
theorem reads_document (h : ∀ e ∈ entries, (∀ n ∈ e.executed, n ≤ Text.limit64) ∧
    ∀ n ∈ e.missing, n ≤ Text.limit64) :
    Reads shape 0 (document entries)
      (.object [("files", .object (Table.ofList (filesFields entries)))]) := by
  have hentries : List.Forall₂
      (fun a b : String × Value => a.1 = b.1 ∧ Reads fileShape 2 a.2 b.2)
      (filesFields entries) (filesFields entries) := by
    refine List.forall₂_same.2 fun field hfield => ⟨rfl, ?_⟩
    obtain ⟨e, he, rfl⟩ := List.mem_map.1 hfield
    exact reads_entry (by decide) (h e he).1 (h e he).2
  have hfiles : List.Forall₂ (ReadsField [("files", true, .map fileShape)] 1)
      [("files", .object (filesFields entries))]
      [("files", .object (Table.ofList (filesFields entries)))] :=
    .cons ⟨rfl, true, .map fileShape, rfl, Json.reads_map (by decide) hentries⟩ .nil
  exact Json.reads_record (by decide) hfiles (by simp) rfl

/-! ## Files -/

/-- The records of a file that an entry amounts to. -/
def Entry.records (e : Entry) : List (Nat × Nat) :=
  e.executed.map (·, 1) ++ e.missing.map (·, 0)

theorem mem_records {hits : Nat} :
    (n, hits) ∈ e.records ↔ n ∈ e.executed ∧ hits = 1 ∨ n ∈ e.missing ∧ hits = 0 := by
  simp [Entry.records, eq_comm]

/-- One entry holds what all sections of its file record. -/
theorem Lists.ofRecords_eq (h : Lists entries sections)
    (hkeys : ∀ s ∈ sections, ∀ t ∈ sections, key s.path = key t.path → s.path = t.path)
    (he : e ∈ entries) :
    (FileCoverage.ofRecords e.records : FileCoverage α) =
      .ofRecords (recordsOf (key e.path) sections) := by
  obtain ⟨t, ht, hte⟩ := (h.paths e.path).1 ⟨e, he, rfl⟩
  have hrecords : ∀ r, r ∈ recordsOf (key e.path) sections ↔
      ∃ s ∈ sections, s.path = e.path ∧ r ∈ s.records := by
    intro r
    rw [mem_recordsOf]
    constructor
    · rintro ⟨s, hs, hkey, hr⟩
      exact ⟨s, hs, (hkeys s hs t ht (hkey.trans (congrArg key hte.symm))).trans hte, hr⟩
    · rintro ⟨s, hs, hpath, hr⟩
      exact ⟨s, hs, congrArg key hpath, hr⟩
  refine FileCoverage.ofRecords_eq (fun n => ?_) (fun n => ?_)
  · constructor
    · rintro ⟨hits, hr⟩
      rcases mem_records.1 hr with ⟨hn, -⟩ | ⟨hn, -⟩
      · obtain ⟨s, hs, hpath, hits, hr, -⟩ := (h.executed e he n).1 hn
        exact ⟨hits, (hrecords _).2 ⟨s, hs, hpath, hr⟩⟩
      · exact ⟨0, (hrecords _).2 ((h.missing e he n).1 hn)⟩
    · rintro ⟨hits, hr⟩
      obtain ⟨s, hs, hpath, hr⟩ := (hrecords _).1 hr
      rcases Nat.eq_zero_or_pos hits with rfl | hpos
      · exact ⟨0, mem_records.2 (.inr ⟨(h.missing e he n).2 ⟨s, hs, hpath, hr⟩, rfl⟩)⟩
      · exact ⟨1, mem_records.2 (.inl ⟨(h.executed e he n).2 ⟨s, hs, hpath, hits, hr, hpos⟩, rfl⟩)⟩
  · constructor
    · rintro ⟨hits, hr, hpos⟩
      rcases mem_records.1 hr with ⟨hn, -⟩ | ⟨-, rfl⟩
      · obtain ⟨s, hs, hpath, hits, hr, hpos⟩ := (h.executed e he n).1 hn
        exact ⟨hits, (hrecords _).2 ⟨s, hs, hpath, hr⟩, hpos⟩
      · exact absurd hpos (Nat.lt_irrefl 0)
    · rintro ⟨hits, hr, hpos⟩
      obtain ⟨s, hs, hpath, hr⟩ := (hrecords _).1 hr
      have hn := (h.executed e he n).2 ⟨s, hs, hpath, hits, hr, hpos⟩
      exact ⟨1, mem_records.2 (.inl ⟨hn, rfl⟩), Nat.one_pos⟩

theorem linesField_eq {fields : Json.Fields α} {name : String} {lines : List Nat}
    (h : Table.get? name fields = some (linesValue lines)) : linesField fields name = lines := by
  have hnumber : ∀ n : Nat, ((Value.ofNat n : Value α).number?.bind (·.toNat?)) = some n := by
    intro n
    change (if (n : Int) ≥ 0 then some (n : Int).toNat else none) = some n
    rw [if_pos (Int.natCast_nonneg n), Int.toNat_natCast]
  rw [linesField, h]
  change List.filterMap _ (lines.map Value.ofNat) = lines
  rw [List.filterMap_map]
  exact (List.filterMap_congr fun n _ => hnumber n).trans List.filterMap_some

variable [Figure α]

theorem fileOf_fields (e : Entry) : (fileOf e.fields : FileCoverage α) = .ofRecords e.records := by
  have hexecuted : linesField (e.fields : Json.Fields α) "executed_lines" = e.executed :=
    linesField_eq rfl
  have hmissing : linesField (e.fields : Json.Fields α) "missing_lines" = e.missing :=
    linesField_eq rfl
  have hsummary : Table.get? "summary" (e.fields : Json.Fields α) = none := rfl
  rw [fileOf, hexecuted, hmissing, hsummary, FileCoverage.ofRecords, FileCoverage.recordAll,
    Entry.records, List.foldl_append, List.foldl_map, List.foldl_map]
  rfl

/-- A key has the file of the only entry under it. -/
theorem get?_filesOf {k : String} {c : FileCoverage α} (hnodup : (entries.map Entry.path).Nodup)
    (hkeys : ∀ e ∈ entries, ∀ f ∈ entries, key e.path = key f.path → e.path = f.path) :
    Table.get? k
        (filesOf (.object [("files", .object (Table.ofList (filesFields entries)))])) = some c ↔
      ∃ e ∈ entries, key e.path = k ∧ .ofRecords e.records = c := by
  have hnames : (Table.names (filesFields entries : List (String × Value α))).Nodup := by
    rw [Table.names, filesFields, List.map_map]
    exact hnodup
  have hmem : ∀ {field : String × Value α}, field ∈ Table.ofList (filesFields entries) ↔
      ∃ e ∈ entries, (e.path, .object e.fields) = field :=
    (Table.mem_ofList_iff hnames).trans List.mem_map
  have hread : filesOf (.object [("files", .object (Table.ofList (filesFields entries)))]) =
      Table.ofList ((Table.ofList (filesFields entries : List (String × Value α))).map
        fun field => (key field.1, fileOf (field.2.object?.getD []))) := rfl
  have hfiles : (Table.names ((Table.ofList (filesFields entries : List (String × Value α))).map
      fun field => (key field.1, fileOf (field.2.object?.getD [])))).Nodup := by
    have hpath : ∀ p ∈ Table.names (Table.ofList (filesFields entries : List (String × Value α))),
        ∃ e ∈ entries, e.path = p := by
      intro p hp
      obtain ⟨field, hfield, rfl⟩ := List.mem_map.1 hp
      obtain ⟨e, he, rfl⟩ := hmem.1 hfield
      exact ⟨e, he, rfl⟩
    have hinjective := (Table.sorted_ofList (filesFields entries : List (String × Value α))).nodup
    rw [Table.names, List.map_map]
    change (List.map (key ∘ Prod.fst) _).Nodup
    rw [← List.map_map]
    refine List.Nodup.map_on (fun p hp q hq heq => ?_) hinjective
    obtain ⟨e, he, rfl⟩ := hpath p hp
    obtain ⟨f, hf, rfl⟩ := hpath q hq
    exact hkeys e he f hf heq
  rw [hread, ← (Table.sorted_ofList _).mem_iff, Table.mem_ofList_iff hfiles, List.mem_map]
  constructor
  · rintro ⟨field, hfield, heq⟩
    obtain ⟨e, he, rfl⟩ := hmem.1 hfield
    obtain ⟨rfl, rfl⟩ := Prod.mk.inj heq
    exact ⟨e, he, rfl, (fileOf_fields e).symm⟩
  · rintro ⟨e, he, rfl, rfl⟩
    exact ⟨_, hmem.2 ⟨e, he, rfl⟩, Prod.ext rfl (fileOf_fields e)⟩

/-- The files of the report are what the sections add up to. -/
theorem filesOf_document (hlists : Lists entries sections)
    (hkeys : ∀ s ∈ sections, ∀ t ∈ sections, key s.path = key t.path → s.path = t.path) :
    (filesOf (.object [("files", .object (Table.ofList (filesFields entries)))]) : Files α) =
      Files.ofSections sections := by
  have hsection : ∀ e ∈ entries, ∃ s ∈ sections, s.path = e.path :=
    fun e he => (hlists.paths e.path).1 ⟨e, he, rfl⟩
  have hentry : ∀ s ∈ sections, ∃ e ∈ entries, e.path = s.path :=
    fun s hs => (hlists.paths s.path).2 ⟨s, hs, rfl⟩
  have hkeys' : ∀ e ∈ entries, ∀ f ∈ entries, key e.path = key f.path → e.path = f.path := by
    intro e he f hf heq
    obtain ⟨s, hs, hse⟩ := hsection e he
    obtain ⟨t, ht, htf⟩ := hsection f hf
    rw [← hse, ← htf] at heq ⊢
    exact hkeys s hs t ht heq
  have hsorted : Table.Sorted
      (filesOf (.object [("files", .object (Table.ofList (filesFields entries)))]) : Files α) :=
    Table.sorted_ofList _
  refine hsorted.ext (Files.sorted_ofSections sections) fun k => Option.ext fun c => ?_
  rw [get?_filesOf hlists.nodup hkeys', Files.get?_ofSections]
  constructor
  · rintro ⟨e, he, rfl, rfl⟩
    obtain ⟨s, hs, hse⟩ := hsection e he
    rw [if_pos ⟨s, hs, congrArg key hse⟩, hlists.ofRecords_eq hkeys he]
  · intro hget
    split at hget
    · next hk =>
      obtain ⟨s, hs, rfl⟩ := hk
      obtain ⟨e, he, hes⟩ := hentry s hs
      refine ⟨e, he, congrArg key hes, ?_⟩
      rw [hlists.ofRecords_eq hkeys he, hes]
      exact Option.some.inj hget
    · exact nomatch hget

/-- Every text of a report that lists sections is read as what they add up to. -/
theorem read_eq {text : String} (hsections : ∀ s ∈ sections, s.Valid)
    (hlists : Lists entries sections)
    (hkeys : ∀ s ∈ sections, ∀ t ∈ sections, key s.path = key t.path → s.path = t.path)
    (htext : Json.StandsFor text (document entries)) :
    read text = .ok (Files.ofSections sections) := by
  have hlimit : ∀ s ∈ sections, ∀ r ∈ s.records, r.1 ≤ Text.limit64 := by
    intro s hs r hr
    have hlt : r.1 < 2 ^ 64 := Nat.lt_trans ((hsections s hs).records r hr).1 (by decide)
    exact Nat.le_pred_of_lt hlt
  have hentries : ∀ e ∈ entries, (∀ n ∈ e.executed, n ≤ Text.limit64) ∧
      ∀ n ∈ e.missing, n ≤ Text.limit64 := by
    refine fun e he => ⟨fun n hn => ?_, fun n hn => ?_⟩
    · obtain ⟨s, hs, -, hits, hr, -⟩ := (hlists.executed e he n).1 hn
      exact hlimit s hs _ hr
    · obtain ⟨s, hs, -, hr⟩ := (hlists.missing e he n).1 hn
      exact hlimit s hs _ hr
  rw [read, Json.readText_eq (reads_document hentries) htext]
  exact congrArg Except.ok (filesOf_document hlists hkeys)

end RefactorAudit.Coverage.JsonReport
