-- SUMMARY: How many findings of a list a merged report counts for a file.
import RefactorAudit.Proofs.Report.Reading
import RefactorAudit.Severity.Score

/-!
# Listed findings

The findings of a list are grouped by the paths that they name, as they are written. Merging unites
the paths, but not the groups: of several spellings of one file the greatest counts. So a file is
listed just if a finding names it, and all of its findings are counted just if they spell it alike.
-/

namespace RefactorAudit.Report

open Json (Fields Value)

variable {α : Type} {n : Normalizer} {findings : List (Value α)} {key path : String}

/-! ## Groups -/

/-- A finding is about the file of a canonical path. -/
def isAbout (n : Normalizer) (key : String) (finding : Value α) : Bool :=
  (pathOf? finding).any fun path => n.normalize path = key

/-- A finding spells its file in a given way. -/
def spells (path : String) (finding : Value α) : Bool := pathOf? finding = some path

theorem isAbout_iff {finding : Value α} :
    isAbout n key finding ↔ ∃ path, pathOf? finding = some path ∧ n.normalize path = key := by
  simp [isAbout, Option.any_eq_true]

theorem isAbout_of_spells {finding : Value α} (h : spells path finding)
    (hpath : n.normalize path = key) : isAbout n key finding :=
  isAbout_iff.2 ⟨path, of_decide_eq_true h, hpath⟩

/-- All findings about a file spell it alike. -/
def OneSpelling (n : Normalizer) (findings : List (Value α)) (key : String) : Prop :=
  ∀ f ∈ findings, ∀ g ∈ findings, isAbout n key f → isAbout n key g → pathOf? f = pathOf? g

theorem mem_grouped {source : Source} {fields : Fields α} :
    (path, fields) ∈ grouped source findings ↔ (∃ f ∈ findings, spells path f) ∧
      fields = record source (.array (findings.filter (spells path))) := by
  simp only [grouped, List.mem_map, Ascending.mem_ofList, List.mem_filterMap]
  constructor
  · rintro ⟨path, ⟨f, hf, hpath⟩, heq⟩
    obtain ⟨rfl, rfl⟩ := Prod.mk.inj heq
    exact ⟨⟨f, hf, decide_eq_true hpath⟩, rfl⟩
  · rintro ⟨⟨f, hf, hspells⟩, rfl⟩
    exact ⟨path, ⟨f, hf, of_decide_eq_true hspells⟩, rfl⟩

theorem mem_names_grouped {source : Source} :
    path ∈ Table.names (grouped source findings) ↔ ∃ f ∈ findings, spells path f := by
  simp [Table.names, mem_grouped]

/-- Each group goes as a whole into the field for findings. -/
theorem writes_grouped {v : Value α} :
    Writes n (grouped .lint findings) key "lint_issues" path v ↔
      (∃ f ∈ findings, spells path f) ∧ n.normalize path = key ∧
        v = .array (findings.filter (spells path)) := by
  constructor
  · rintro ⟨fields, hmem, hkey, hget⟩
    obtain ⟨hspelled, rfl⟩ := mem_grouped.1 hmem
    exact ⟨hspelled, hkey, (Option.some.inj hget).symm⟩
  · rintro ⟨hspelled, hkey, rfl⟩
    exact ⟨_, mem_grouped.2 ⟨hspelled, rfl⟩, hkey, rfl⟩

/-! ## Counts -/

/-- How many findings a merged report counts for a file. -/
def lintCount [Figure α] (merged : Merged α) (key : String) : Nat :=
  Record.count ((Table.get? key merged).getD []) "lint_issues"

theorem lintCount_eq [Figure α] {merged : Merged α} {items : List (Value α)}
    (h : Records.field? key "lint_issues" merged = some (.array items)) :
    lintCount merged key = items.length := by
  unfold Records.field? at h
  obtain ⟨fields, hfields, hget⟩ := Option.bind_eq_some_iff.1 h
  rw [lintCount, hfields, Option.getD_some, Record.count, hget]

theorem mem_names_merge_grouped :
    key ∈ Table.names (merge n [grouped .lint findings]) ↔ ∃ f ∈ findings, isAbout n key f := by
  rw [mem_names_merge]
  constructor
  · rintro ⟨records, hrecords, path, hpath, hkey⟩
    obtain rfl := List.mem_singleton.1 hrecords
    obtain ⟨f, hf, hspells⟩ := mem_names_grouped.1 hpath
    exact ⟨f, hf, isAbout_of_spells hspells hkey⟩
  · rintro ⟨f, hf, habout⟩
    obtain ⟨path, hpath, hkey⟩ := isAbout_iff.1 habout
    exact ⟨_, List.mem_singleton_self _, path,
      mem_names_grouped.2 ⟨f, hf, decide_eq_true hpath⟩, hkey⟩

/-- Of all spellings of a file only the findings under the greatest are counted. -/
theorem exists_lintCount_eq [Figure α] (hordered : Records.Ordered (grouped .lint findings))
    (h : ∃ f ∈ findings, isAbout n key f) :
    ∃ path, (∃ f ∈ findings, spells path f) ∧ n.normalize path = key ∧
      (∀ f ∈ findings, ∀ other, spells other f → n.normalize other = key → other ≤ path) ∧
      lintCount (merge n [grouped .lint findings]) key = findings.countP (spells path) := by
  obtain ⟨f, hf, habout⟩ := h
  obtain ⟨path, hpath, hkey⟩ := isAbout_iff.1 habout
  have hwrites := writes_grouped.2 ⟨⟨f, hf, decide_eq_true hpath⟩, hkey, rfl⟩
  have hsome : (Records.field? key "lint_issues"
      (merge n [grouped .lint findings])).isSome :=
    (field?_mergeOne_isSome hordered).2 (.inl ⟨_, _, hwrites⟩)
  obtain ⟨v, hv⟩ := Option.isSome_iff_exists.1 hsome
  rcases (field?_mergeOne hordered).1 hv with ⟨last, hlast, hgreatest⟩ | ⟨hnone, -⟩
  · obtain ⟨hspelled, hlastKey, rfl⟩ := writes_grouped.1 hlast
    refine ⟨last, hspelled, hlastKey, fun g hg other hother hotherKey => ?_, ?_⟩
    · exact hgreatest other _ (writes_grouped.2 ⟨⟨g, hg, hother⟩, hotherKey, rfl⟩)
    · rw [List.countP_eq_length_filter]
      exact lintCount_eq hv
  · exact absurd hwrites (hnone _ _)

/-- A spelling has all findings about a file just if there is no other spelling. -/
theorem countP_spells_eq_iff (hpath : n.normalize path = key)
    (hspelled : ∃ f ∈ findings, spells path f) :
    findings.countP (spells path) = findings.countP (isAbout n key) ↔
      OneSpelling n findings key := by
  have hsublist : (findings.filter (spells path)).Sublist (findings.filter (isAbout n key)) :=
    List.monotone_filter_right findings fun f hf => isAbout_of_spells hf hpath
  constructor
  · intro hcount
    rw [List.countP_eq_length_filter, List.countP_eq_length_filter] at hcount
    have hall : ∀ f ∈ findings, isAbout n key f → pathOf? f = some path := by
      intro f hf habout
      have hmem := List.mem_filter.2 ⟨hf, habout⟩
      rw [← hsublist.eq_of_length hcount] at hmem
      exact of_decide_eq_true (List.mem_filter.1 hmem).2
    intro f hf g hg habout habout'
    rw [hall f hf habout, hall g hg habout']
  · intro hone
    obtain ⟨g, hg, hspells⟩ := hspelled
    refine List.countP_congr fun f hf => ⟨fun h => isAbout_of_spells h hpath, fun habout => ?_⟩
    have heq := hone f hf g hg habout (isAbout_of_spells hspells hpath)
    exact decide_eq_true (heq.trans (of_decide_eq_true hspells))

theorem read_array {source : Source} {origin text : String} {findings : List Value}
    (h : Json.readText .any text = .ok (.array findings)) :
    (read source origin text).run.value = .ok (grouped source findings) :=
  value_read h rfl

/-- The findings of a list that is merged alone: a file is listed just if some finding names it, and
its count never exceeds the findings about it. No finding is lost just if all of them spell the file
alike; otherwise those under the greatest spelling are counted. -/
theorem lintCount_eq_iff_one_spelling (n : Normalizer) (origin text : String)
    (findings : List Value) (hread : Json.readText .any text = .ok (.array findings)) :
    ∃ records, (read .lint origin text).run.value = .ok records ∧
      ∀ key : String,
        (key ∈ Table.names (merge n [records]) ↔ ∃ f ∈ findings, isAbout n key f) ∧
        lintCount (merge n [records]) key ≤ findings.countP (isAbout n key) ∧
        (lintCount (merge n [records]) key = findings.countP (isAbout n key) ↔
          OneSpelling n findings key) ∧
        ((∃ f ∈ findings, isAbout n key f) → ∃ path, n.normalize path = key ∧
          (∀ f ∈ findings, ∀ other, spells other f → n.normalize other = key → other ≤ path) ∧
          lintCount (merge n [records]) key = findings.countP (spells path)) := by
  have hordered : Records.Ordered (grouped .lint findings) := by
    cases Json.ordered_of_readText hread with
    | array hitems => exact ordered_grouped hitems
  refine ⟨_, read_array hread, fun key => ?_⟩
  by_cases habout : ∃ f ∈ findings, isAbout n key f
  · obtain ⟨path, hspelled, hkey, hgreatest, hcount⟩ := exists_lintCount_eq hordered habout
    refine ⟨mem_names_merge_grouped, ?_, ?_, fun _ => ⟨path, hkey, hgreatest, hcount⟩⟩
    · rw [hcount]
      exact List.countP_mono_left fun f _ hf => isAbout_of_spells hf hkey
    · rw [hcount]
      exact countP_spells_eq_iff hkey hspelled
  · have habsent : lintCount (merge n [grouped .lint findings]) key = 0 := by
      have hnone := mt mem_names_merge_grouped.1 habout
      rw [Table.mem_names_iff, Option.not_isSome_iff_eq_none] at hnone
      rw [lintCount, hnone]
      rfl
    have hzero : findings.countP (isAbout n key) = 0 :=
      List.countP_eq_zero.2 fun f hf hf' => habout ⟨f, hf, hf'⟩
    refine ⟨mem_names_merge_grouped, ?_, ?_, fun h => absurd h habout⟩
    · rw [habsent]
      exact Nat.zero_le _
    · rw [habsent, hzero]
      exact iff_of_true rfl fun f hf _ _ hf' => absurd ⟨f, hf, hf'⟩ habout

/-- Two findings spell their file alike, and a third one is about another file. -/
theorem lintCount_eq_iff_one_spelling_of_two_files :
    let text := "[\x7b\"file\":\"./a\"\x7d,\x7b\"path\":\"./a\"\x7d,\x7b\"file\":\"b\"\x7d]"
    let findings : List Value := [.object [("file", .string "./a")],
      .object [("path", .string "./a")], .object [("file", .string "b")]]
    Json.readText .any text = .ok (.array findings) ∧ OneSpelling {} findings "a" ∧
      ∃ records, (read .lint "ruff.json" text).run.value = .ok records ∧
        lintCount (merge {} [records]) "a" = 2 := by
  intro text findings
  have hread : Json.readText .any text = .ok (.array findings) := by
    cbv
  have hone : OneSpelling {} findings "a" := by
    unfold OneSpelling
    decide
  obtain ⟨records, hrecords, hcounts⟩ := lintCount_eq_iff_one_spelling {} "ruff.json" text findings hread
  refine ⟨hread, hone, records, hrecords, ?_⟩
  rw [(hcounts "a").2.2.1.2 hone]
  decide

/-- One list spells a file in two ways, and only one of its three findings is counted. -/
theorem lintCount_lt_of_two_spellings :
    let text := "[\x7b\"file\":\"./a\"\x7d,\x7b\"file\":\"a\"\x7d,\x7b\"file\":\"./a\"\x7d]"
    let findings : List Value := [.object [("file", .string "./a")],
      .object [("file", .string "a")], .object [("file", .string "./a")]]
    Json.readText .any text = .ok (.array findings) ∧
      ∃ records, (read .lint "ruff.json" text).run.value = .ok records ∧
        lintCount (merge {} [records]) "a" = 1 ∧ findings.countP (isAbout {} "a") = 3 := by
  intro text findings
  have hread : Json.readText .any text = .ok (.array findings) := by
    cbv
  exact ⟨hread, _, read_array hread, by decide, by decide⟩

end RefactorAudit.Report
