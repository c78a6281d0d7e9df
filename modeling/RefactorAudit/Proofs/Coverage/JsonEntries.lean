-- SUMMARY: Which of the lines that a JSON coverage report lists are kept.
import RefactorAudit.Proofs.Coverage.Consistency
import RefactorAudit.Proofs.Coverage.JsonSections
import RefactorAudit.Proofs.Json.Ordered

/-!
# Entries of JSON reports

A JSON report lists lines under paths, and several paths may have one key. Of the entries under a
key the one with the greatest path counts alone. So the lines of a key are kept just if this entry
lists them all.
-/

namespace RefactorAudit

/-! ## Renamed tables -/

namespace Table

variable {β γ : Type}

/-- Of several names that become one, the greatest has its value kept. -/
theorem exists_greatest_of_get?_ofList {table : Table β} {key : String} {value : γ}
    (rename : String → String) (change : β → γ) (h : Sorted table)
    (hget : get? key (ofList (table.map fun pair => (rename pair.1, change pair.2))) =
      some value) :
    ∃ last ∈ table, rename last.1 = key ∧ change last.2 = value ∧
      ∀ other ∈ table, rename other.1 = key → other.1 ≤ last.1 := by
  rw [get?_ofList] at hget
  induction table using List.reverseRecOn with
  | nil => exact nomatch hget
  | append_singleton front pair ih =>
    obtain ⟨hfront, -, hlt⟩ := List.pairwise_append.1 h
    rw [List.map_append, List.reverse_append] at hget
    change get? key ((rename pair.1, change pair.2) :: _) = some value at hget
    rw [get?_cons] at hget
    split at hget
    · next heq =>
      refine ⟨pair, by simp, heq.symm, Option.some.inj hget, fun other hother _ => ?_⟩
      rcases List.mem_append.1 hother with hother | hother
      · exact String.not_lt.1 (String.lt_asymm (hlt other hother pair List.mem_cons_self))
      · obtain rfl := List.mem_singleton.1 hother
        exact String.le_refl _
    · next hne =>
      obtain ⟨last, hlast, hkey, hvalue, hgreatest⟩ := ih hfront hget
      refine ⟨last, List.mem_append_left _ hlast, hkey, hvalue, fun other hother hotherKey => ?_⟩
      rcases List.mem_append.1 hother with hother | hother
      · exact hgreatest other hother hotherKey
      · obtain rfl := List.mem_singleton.1 hother
        exact absurd hotherKey.symm hne

end Table

namespace Coverage.JsonReport

open Json (Fields Value)

variable {α : Type} {report entry : Value α} {name path k : String} {n : Nat}

/-! ## What a report lists -/

/-- The entries of a report, by path. -/
def entries (report : Value α) : Fields α := ((report.get? "files").bind Value.object?).getD []

/-- The entry lists the line in one of its fields. -/
def Listed (name : String) (n : Nat) (entry : Value α) : Prop :=
  ∃ lines, entry.get? name = some (.array lines) ∧ .ofNat n ∈ lines

def Executed (n : Nat) (entry : Value α) : Prop := Listed "executed_lines" n entry

/-- The entry lists the line as executed or as missing. -/
def Executable (n : Nat) (entry : Value α) : Prop :=
  Executed n entry ∨ Listed "missing_lines" n entry

/-- The coverage holds what the entries under a key list, and nothing else. -/
structure KeepsLines (report : Value α) (k : String) (c : FileCoverage α) : Prop where
  executable : ∀ n, n ∈ c.executable ↔
    ∃ entry ∈ entries report, key entry.1 = k ∧ Executable n entry.2
  hit : ∀ n, n ∈ c.hit ↔ ∃ entry ∈ entries report, key entry.1 = k ∧ Executed n entry.2

/-! ## Reading -/

theorem toNat?_eq_some_iff {v : Value α} : v.number?.bind (·.toNat?) = some n ↔ v = .ofNat n := by
  constructor
  · intro h
    obtain ⟨number, hnumber, hn⟩ := Option.bind_eq_some_iff.1 h
    cases v with
    | number found =>
      obtain rfl := Option.some.inj hnumber
      cases found with
      | int value =>
        simp only [Json.Number.toNat?] at hn
        split at hn
        · next hnonneg =>
          rw [← Option.some.inj hn, Value.ofNat, Int.toNat_of_nonneg hnonneg]
        · exact nomatch hn
      | float _ => exact nomatch hn
    | null => exact nomatch hnumber
    | bool _ => exact nomatch hnumber
    | string _ => exact nomatch hnumber
    | array _ => exact nomatch hnumber
    | object _ => exact nomatch hnumber
  · rintro rfl
    simp [Value.ofNat, Value.number?, Json.Number.toNat?]

/-- The lines of a field are those that the entry lists in it. -/
theorem mem_linesField :
    n ∈ linesField (entry.object?.getD []) name ↔ Listed name n entry := by
  have hget : Table.get? name (entry.object?.getD []) = entry.get? name := by
    cases entry <;> rfl
  simp only [linesField, hget, List.mem_filterMap, toNat?_eq_some_iff]
  constructor
  · rintro ⟨v, hv, rfl⟩
    cases hfield : (entry.get? name).bind Value.array? with
    | none =>
      rw [hfield] at hv
      exact absurd hv List.not_mem_nil
    | some lines =>
      rw [hfield] at hv
      obtain ⟨found, hfound, harray⟩ := Option.bind_eq_some_iff.1 hfield
      cases found with
      | array items =>
        obtain rfl := Option.some.inj harray
        exact ⟨items, hfound, hv⟩
      | null => cases harray
      | bool _ => cases harray
      | string _ => cases harray
      | number _ => cases harray
      | object _ => cases harray
  · rintro ⟨lines, hlines, hmem⟩
    rw [hlines]
    exact ⟨_, hmem, rfl⟩

/-! ## Written reports -/

section written

variable {listed : List Entry}

theorem executed_fields {e : Entry} : Executed n (.object e.fields : Value α) ↔ n ∈ e.executed := by
  have hlines : linesField (e.fields : Fields α) "executed_lines" = e.executed := linesField_eq rfl
  rw [Executed, ← mem_linesField]
  exact hlines ▸ Iff.rfl

theorem executable_fields {e : Entry} :
    Executable n (.object e.fields : Value α) ↔ n ∈ e.executed ∨ n ∈ e.missing := by
  have hlines : linesField (e.fields : Fields α) "missing_lines" = e.missing := linesField_eq rfl
  rw [Executable, executed_fields, ← mem_linesField]
  exact hlines ▸ Iff.rfl

theorem mem_entries_document (h : (listed.map Entry.path).Nodup) {pair : String × Value α} :
    pair ∈ entries (.object [("files", .object (Table.ofList (filesFields listed)))]) ↔
      ∃ e ∈ listed, (e.path, .object e.fields) = pair := by
  have hnames : (Table.names (filesFields listed : List (String × Value α))).Nodup := by
    rw [Table.names, filesFields, List.map_map]
    exact h
  exact (Table.mem_ofList_iff hnames).trans List.mem_map

theorem readText_document (listed : List Entry)
    (h : ∀ e ∈ listed, (∀ n ∈ e.executed, n ≤ Text.limit64) ∧
      ∀ n ∈ e.missing, n ≤ Text.limit64) :
    Json.readText shape (document listed).compact =
      .ok (.object [("files", .object (Table.ofList (filesFields listed)))]) :=
  Json.readText_eq (reads_document h) (Json.standsFor_compact _)

end written

/-! ## Files -/

variable [Figure α]

theorem mem_executable_fileOf :
    n ∈ (fileOf (entry.object?.getD []) : FileCoverage α).executable ↔ Executable n entry := by
  rw [fileOf_eq_recordAll, FileCoverage.mem_executable_recordAll]
  simp only [List.mem_append, List.mem_map, Prod.mk.injEq, mem_linesField]
  constructor
  · rintro (h | ⟨hits, ⟨_, h, rfl, -⟩ | ⟨_, h, rfl, -⟩⟩)
    · exact absurd h List.not_mem_nil
    · exact .inl h
    · exact .inr h
  · rintro (h | h)
    · exact .inr ⟨1, .inl ⟨n, h, rfl, rfl⟩⟩
    · exact .inr ⟨0, .inr ⟨n, h, rfl, rfl⟩⟩

theorem mem_hit_fileOf :
    n ∈ (fileOf (entry.object?.getD []) : FileCoverage α).hit ↔ Executed n entry := by
  rw [fileOf_eq_recordAll, FileCoverage.mem_hit_recordAll]
  simp only [List.mem_append, List.mem_map, Prod.mk.injEq, mem_linesField]
  constructor
  · rintro (h | ⟨hits, ⟨_, h, rfl, -⟩ | ⟨_, -, -, rfl⟩, hpos⟩)
    · exact absurd h List.not_mem_nil
    · exact h
    · exact absurd hpos (Nat.lt_irrefl 0)
  · intro h
    exact .inr ⟨1, .inl ⟨n, h, rfl, rfl⟩, Nat.one_pos⟩

theorem names_filesOf (report : Value α) :
    k ∈ Table.names (filesOf report) ↔ ∃ entry ∈ entries report, key entry.1 = k := by
  have hread : filesOf report = Table.ofList ((entries report).map
      fun pair => (key pair.1, fileOf (pair.2.object?.getD []))) := rfl
  rw [hread, Table.mem_names_ofList, Table.names, List.map_map, List.mem_map]
  rfl

/-- The entry with the greatest path under a key is the file of the key. -/
theorem exists_greatest_of_get?_filesOf {c : FileCoverage α} (h : Table.Sorted (entries report))
    (hget : Table.get? k (filesOf report) = some c) :
    ∃ last ∈ entries report, key last.1 = k ∧
      (∀ other ∈ entries report, key other.1 = k → other.1 ≤ last.1) ∧
      (∀ n, n ∈ c.executable ↔ Executable n last.2) ∧ ∀ n, n ∈ c.hit ↔ Executed n last.2 := by
  obtain ⟨last, hlast, hkey, rfl, hgreatest⟩ := Table.exists_greatest_of_get?_ofList key
    (fun entry : Value α => fileOf (entry.object?.getD [])) h hget
  exact ⟨last, hlast, hkey, hgreatest, fun _ => mem_executable_fileOf, fun _ => mem_hit_fileOf⟩

omit [Figure α] in
/-- No line is lost just if the entry that counts lists all lines of the key. -/
theorem keepsLines_iff {c : FileCoverage α} {last : String × Value α}
    (hlast : last ∈ entries report) (hkey : key last.1 = k)
    (hexecutable : ∀ n, n ∈ c.executable ↔ Executable n last.2)
    (hhit : ∀ n, n ∈ c.hit ↔ Executed n last.2) :
    KeepsLines report k c ↔ ∀ other ∈ entries report, key other.1 = k →
      ∀ n, (Executable n other.2 → Executable n last.2) ∧
        (Executed n other.2 → Executed n last.2) := by
  constructor
  · intro h other hother hotherKey n
    constructor
    · intro hn
      rw [← hexecutable, h.executable]
      exact ⟨other, hother, hotherKey, hn⟩
    · intro hn
      rw [← hhit, h.hit]
      exact ⟨other, hother, hotherKey, hn⟩
  · intro h
    constructor
    · intro n
      rw [hexecutable]
      constructor
      · intro hn
        exact ⟨last, hlast, hkey, hn⟩
      · rintro ⟨other, hother, hotherKey, hn⟩
        exact (h other hother hotherKey n).1 hn
    · intro n
      rw [hhit]
      constructor
      · intro hn
        exact ⟨last, hlast, hkey, hn⟩
      · rintro ⟨other, hother, hotherKey, hn⟩
        exact (h other hother hotherKey n).2 hn

theorem sorted_entries {text : String} {report : Value}
    (h : Json.readText shape text = .ok report) : Table.Sorted (entries report) := by
  have hordered := Json.ordered_of_readText h
  cases hfiles : (report.get? "files").bind Value.object? with
  | none =>
    rw [entries, hfiles]
    exact Table.sorted_nil
  | some fields =>
    obtain ⟨files, hget, hobject⟩ := Option.bind_eq_some_iff.1 hfiles
    rw [entries, hfiles, Option.getD_some]
    cases hordered.get? hget with
    | object hsorted _ =>
      obtain rfl := Option.some.inj hobject
      exact hsorted
    | null => exact nomatch hobject
    | bool _ => exact nomatch hobject
    | number _ => exact nomatch hobject
    | string _ => exact nomatch hobject
    | array _ => exact nomatch hobject

theorem exists_report_of_read {text : String} {files : Files} (h : read text = .ok files) :
    ∃ report, Json.readText shape text = .ok report ∧ files = filesOf report := by
  unfold read at h
  cases hvalue : Json.readText shape text with
  | error message =>
    rw [hvalue] at h
    exact nomatch h
  | ok report =>
    rw [hvalue] at h
    exact ⟨report, rfl, (Except.ok.inj h).symm⟩

/-- A report that is read has a file for each key of its entries, with the lines of the entry whose
path is the greatest under the key. No line is lost just if this entry lists all of them. -/
theorem keeps_lines_iff_listed_last (text : String) (files : Files) (h : read text = .ok files) :
    ∃ report, Json.readText shape text = .ok report ∧
      (∀ k, k ∈ Table.names files ↔ ∃ entry ∈ entries report, key entry.1 = k) ∧
      ∀ k c, Table.get? k files = some c → ∃ last ∈ entries report, key last.1 = k ∧
        (∀ other ∈ entries report, key other.1 = k → other.1 ≤ last.1) ∧
        (∀ n, n ∈ c.executable ↔ Executable n last.2) ∧
        (∀ n, n ∈ c.hit ↔ Executed n last.2) ∧
        (KeepsLines report k c ↔ ∀ other ∈ entries report, key other.1 = k →
          ∀ n, (Executable n other.2 → Executable n last.2) ∧
            (Executed n other.2 → Executed n last.2)) := by
  obtain ⟨report, hreport, rfl⟩ := exists_report_of_read h
  refine ⟨report, hreport, fun k => names_filesOf report, fun k c hget => ?_⟩
  obtain ⟨last, hlast, hkey, hgreatest, hexecutable, hhit⟩ :=
    exists_greatest_of_get?_filesOf (sorted_entries hreport) hget
  exact ⟨last, hlast, hkey, hgreatest, hexecutable, hhit,
    keepsLines_iff hlast hkey hexecutable hhit⟩

/-- A report on three files, two of them the same: the last spelling has all lines of the first. -/
theorem keeps_lines_iff_listed_last_of_two_spellings :
    let listed : List Entry := [⟨"./a.py", [1], [2]⟩, ⟨"b.py", [], [4]⟩, ⟨"a.py", [1, 3], [2]⟩]
    let a : FileCoverage := { executable := [1, 2, 3], hit := [1, 3] }
    read (document listed).compact = .ok [("a.py", a), ("b.py", { executable := [4] })] ∧
      ∃ report, Json.readText shape (document listed).compact = .ok report ∧
        KeepsLines report "a.py" a := by
  intro listed a
  have htext := readText_document listed (by decide)
  have hread : read (document listed).compact =
      .ok [("a.py", a), ("b.py", { executable := [4] })] := by
    rw [read, htext]
    decide
  obtain ⟨report, hreport, -, hkeys⟩ := keeps_lines_iff_listed_last _ _ hread
  obtain rfl := Except.ok.inj (htext.symm.trans hreport)
  obtain ⟨last, -, -, -, hexecutable, hhit, hkeeps⟩ := hkeys "a.py" a rfl
  refine ⟨hread, _, hreport, hkeeps.2 fun other hother hkey n => ?_⟩
  rw [← hexecutable, ← hhit]
  obtain ⟨e, he, rfl⟩ := (mem_entries_document (by decide)).1 hother
  rw [executable_fields, executed_fields]
  have hlines : ∀ e ∈ listed, key e.path = "a.py" →
      (∀ n ∈ e.executed ++ e.missing, n ∈ a.executable) ∧ ∀ n ∈ e.executed, n ∈ a.hit := by
    decide
  obtain ⟨hall, hexecuted⟩ := hlines e he hkey
  exact ⟨fun hn => hall n (List.mem_append.2 hn), hexecuted n⟩

/-- Two spellings of a file: the line that the first one lists as executed is lost. -/
theorem line_lost_of_two_spellings :
    let text := (document [⟨"./a.py", [1], []⟩, ⟨"a.py", [], [2]⟩]).compact
    text = "\x7b\"files\":\x7b\"./a.py\":\x7b\"executed_lines\":[1],\"missing_lines\":[]\x7d," ++
      "\"a.py\":\x7b\"executed_lines\":[],\"missing_lines\":[2]\x7d\x7d\x7d" ∧
    ∃ report coverage, Json.readText shape text = .ok report ∧
      read text = .ok [("a.py", coverage)] ∧
      (∃ entry ∈ entries report, key entry.1 = "a.py" ∧ Executed 1 entry.2) ∧
      1 ∉ coverage.executable ∧ 1 ∉ coverage.hit ∧ ¬ KeepsLines report "a.py" coverage := by
  intro text
  have hreport := readText_document [⟨"./a.py", [1], []⟩, ⟨"a.py", [], [2]⟩] (by decide)
  have hread : read text = .ok [("a.py", { executable := [2] })] := by
    rw [read, hreport]
    decide
  have hlisted : ∃ entry ∈ entries (.object [("files", .object (Table.ofList
      (filesFields [⟨"./a.py", [1], []⟩, ⟨"a.py", [], [2]⟩])))] : Value),
      key entry.1 = "a.py" ∧ Executed 1 entry.2 := by
    refine ⟨_, (mem_entries_document (by decide)).2 ⟨⟨"./a.py", [1], []⟩, by decide, rfl⟩,
      by decide, ?_⟩
    rw [executed_fields]
    decide
  refine ⟨by cbv, _, _, hreport, hread, hlisted, by decide, by decide, fun hkeeps => ?_⟩
  exact absurd ((hkeeps.hit 1).2 hlisted) List.not_mem_nil

end Coverage.JsonReport

end RefactorAudit
