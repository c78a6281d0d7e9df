-- SUMMARY: What is read from a report is all that the report says.
import RefactorAudit.Proofs.Collection.Selection
import RefactorAudit.Proofs.Report.ListedFindings

/-!
# Conservation

A document that is an object or a list can be read, and no other one. An object by path keeps each
value, as it is or wrapped. A list of findings is divided: each finding goes to the file that it
belongs to, in the order of the list, and only findings that belong to no file are left out.
-/

namespace RefactorAudit.Report

open Json (Fields Value)

variable {α : Type} {source : Source} {finding : Value α} {findings : List (Value α)}
variable {path : String}

/-! ## Files of findings -/

/-- The first of the path fields that holds a text names the file that a finding belongs to. -/
def BelongsTo (finding : Value α) (path : String) : Prop :=
  ∃ before name after, ["filename", "path", "file"] = before ++ name :: after ∧
    finding.get? name = some (.string path) ∧
    ∀ other ∈ before, ∀ text, finding.get? other ≠ some (.string text)

/-- None of the path fields holds a text. -/
def IsPathless (finding : Value α) : Prop := ∀ path, ¬ BelongsTo finding path

theorem bind_string?_eq_some_iff {name text : String} :
    (finding.get? name).bind Value.string? = some text ↔ finding.get? name = some (.string text) := by
  cases finding.get? name with
  | none => simp
  | some v => cases v <;> simp [Value.string?]

theorem pathOf?_eq_some_iff : pathOf? finding = some path ↔ BelongsTo finding path := by
  simp only [pathOf?, List.findSome?_eq_some_iff, bind_string?_eq_some_iff, BelongsTo, pathFields,
    Option.eq_none_iff_forall_ne_some, ne_eq]

theorem pathOf?_eq_none_iff : pathOf? finding = none ↔ IsPathless finding := by
  simp only [IsPathless, ← pathOf?_eq_some_iff, Option.eq_none_iff_forall_ne_some, ne_eq]

instance : Decidable (BelongsTo finding path) := decidable_of_iff _ pathOf?_eq_some_iff

instance : Decidable (IsPathless finding) := decidable_of_iff _ pathOf?_eq_none_iff

/-! ## Objects by path -/

/-- What a source says about a file is kept as it is if it has the form of the records of that
source. Any other value is wrapped as a whole. -/
inductive IsRecordOf (source : Source) : Value α → Fields α → Prop where
  | own (fields : Fields α) (h : ∀ field, source.field? = some field →
      (Table.get? field fields).isSome) : IsRecordOf source (.object fields) fields
  | wrapped (value : Value α) (h : ∀ fields, value = .object fields →
      ∃ field, source.field? = some field ∧ Table.get? field fields = none) :
      IsRecordOf source value [(source.wrapField, value)]

/-- There is one record for each entry of an object by path. -/
structure KeepsEntries (source : Source) (byPath : Fields α) (records : Records α) : Prop where
  nodup : records.names.Nodup
  kept : List.Forall₂ (fun entry record => record.1 = entry.1 ∧ IsRecordOf source entry.2 record.2)
    byPath records

theorem isRecordOf_record (source : Source) (value : Value α) :
    IsRecordOf source value (record source value) := by
  unfold record
  split
  · next fields =>
    cases hfield : source.field? with
    | none => exact .own fields fun field h => by simp [hfield] at h
    | some field =>
      simp only [Option.isNone_some, Bool.false_or, Source.wrapField, hfield, Option.getD_some]
      split
      · next hhas =>
        refine .own fields fun other h => ?_
        rw [hfield, Option.some.injEq] at h
        exact h ▸ hhas
      · next hlacks =>
        have hwrapped : IsRecordOf source (.object fields) [(source.wrapField, .object fields)] := by
          refine .wrapped _ fun other h => ⟨field, hfield, ?_⟩
          cases h
          simpa using hlacks
        simpa [Source.wrapField, hfield] using hwrapped
  · next hother => exact .wrapped value fun fields h => absurd h (hother fields)

/-- A record has the field that belongs to its source. -/
theorem IsRecordOf.isSome_get? {value : Value α} {fields : Fields α} {field : String}
    (h : IsRecordOf source value fields) (hfield : source.field? = some field) :
    (Table.get? field fields).isSome := by
  cases h with
  | own fields h => exact h field hfield
  | wrapped value h => simp [Source.wrapField, hfield, Table.get?]

theorem keepsEntries {byPath : Fields α} (h : byPath.Sorted) :
    KeepsEntries source byPath (byPath.map fun (path, value) => (path, record source value)) where
  nodup := by
    rw [Table.names, List.map_map]
    exact h.nodup
  kept := by
    apply List.forall₂_map_right_iff.2
    exact List.forall₂_same.2 fun entry _ => ⟨rfl, isRecordOf_record source entry.2⟩

/-! ## Lists of findings -/

/-- A list of findings is divided into groups: one for each file, with the findings that belong to
it in the order of the list. Each group is put into the field that belongs to the source. The
findings that are left out are those without a file. -/
structure Divides (source : Source) (findings : List (Value α))
    (groups : List (String × List (Value α))) (records : Records α) : Prop where
  records_eq : records = groups.map fun (path, items) => (path, [(source.wrapField, .array items)])
  nodup : (groups.map (·.1)).Nodup
  mem_iff : ∀ path, path ∈ groups.map (·.1) ↔ ∃ finding ∈ findings, BelongsTo finding path
  items_eq : ∀ group ∈ groups, group.2 = findings.filter fun finding => BelongsTo finding group.1
  conserved : (groups.map (·.2.length)).sum + findings.countP (fun f => IsPathless f) =
    findings.length

/-- The findings of each file, in the order of the files. -/
def groupsOf (findings : List (Value α)) : List (String × List (Value α)) :=
  (Ascending.ofList (findings.filterMap pathOf?)).map fun path =>
    (path, findings.filter fun finding => BelongsTo finding path)

theorem names_groupsOf (findings : List (Value α)) :
    (groupsOf findings).map (·.1) = Ascending.ofList (findings.filterMap pathOf?) := by
  simp [groupsOf, Function.comp_def]

theorem nodup_names_groupsOf (findings : List (Value α)) :
    ((groupsOf findings).map (·.1)).Nodup := by
  rw [names_groupsOf]
  apply (Ascending.sorted_ofList _).imp
  intro path other hlt heq
  exact String.lt_irrefl other (heq ▸ hlt)

theorem BelongsTo.unique {other : String} (h : BelongsTo finding path)
    (hother : BelongsTo finding other) : path = other := by
  rw [← pathOf?_eq_some_iff] at h hother
  exact Option.some.inj (h.symm.trans hother)

/-- No finding belongs to two files, so the lengths of the groups add up. -/
theorem sum_length_groupsOf (findings : List (Value α)) :
    ((groupsOf findings).map (·.2.length)).sum = findings.countP fun f => ¬ IsPathless f := by
  have hapart : (Ascending.ofList (findings.filterMap pathOf?)).Pairwise fun path other =>
      ∀ f ∈ findings, ¬ (decide (BelongsTo f path) ∧ decide (BelongsTo f other)) := by
    rw [← names_groupsOf]
    apply (nodup_names_groupsOf findings).imp
    rintro path other hne f - ⟨hpath, hother⟩
    exact hne ((of_decide_eq_true hpath).unique (of_decide_eq_true hother))
  have hlengths : (groupsOf findings).map (·.2.length) =
      (Ascending.ofList (findings.filterMap pathOf?)).map fun path =>
        findings.countP fun f => BelongsTo f path := by
    simp [groupsOf, List.countP_eq_length_filter]
  rw [hlengths, ← Selection.countP_any_eq_sum hapart]
  apply List.countP_congr
  intro f hf
  simp only [List.any_eq_true, Ascending.mem_ofList, List.mem_filterMap, pathOf?_eq_some_iff,
    decide_eq_true_eq]
  constructor
  · rintro ⟨path, -, hpath⟩ hpathless
    exact hpathless path hpath
  · intro hfile
    simp only [IsPathless, not_forall, not_not] at hfile
    obtain ⟨path, hpath⟩ := hfile
    exact ⟨path, ⟨f, hf, hpath⟩, hpath⟩

theorem divides_groupsOf (source : Source) (findings : List (Value α)) :
    Divides source findings (groupsOf findings) (grouped source findings) where
  records_eq := by
    simp [grouped, groupsOf, record, ← pathOf?_eq_some_iff]
  nodup := nodup_names_groupsOf findings
  mem_iff path := by
    simp [names_groupsOf, pathOf?_eq_some_iff]
  items_eq group hgroup := by
    obtain ⟨path, -, rfl⟩ := List.mem_map.1 hgroup
    rfl
  conserved := by
    rw [sum_length_groupsOf, Nat.add_comm]
    simpa using (List.length_eq_countP_add_countP (fun f => decide (IsPathless f))).symm

/-! ## Reading -/

/-- A document that is an object or a list. -/
def IsContainer (document : Value α) : Prop :=
  (∃ byPath, document = .object byPath) ∨ ∃ findings, document = .array findings

theorem isContainer_iff {document : Value α} :
    IsContainer document ↔ ∃ records, recordsOf? source document = some records := by
  cases document <;> simp [IsContainer, recordsOf?]

/-- Each record of a document is made of a value. -/
theorem exists_record_of_mem {document : Value α} {records : Records α}
    (h : recordsOf? source document = some records) {entry : String × Fields α}
    (hentry : entry ∈ records) : ∃ value, entry.2 = record source value := by
  cases document with
  | object byPath =>
    cases h
    obtain ⟨pair, -, rfl⟩ := List.mem_map.1 hentry
    exact ⟨_, rfl⟩
  | array findings =>
    cases h
    obtain ⟨path, -, rfl⟩ := List.mem_map.1 hentry
    exact ⟨.array _, rfl⟩
  | null => exact nomatch h
  | bool _ => exact nomatch h
  | number _ => exact nomatch h
  | string _ => exact nomatch h

/-- Reading fails just if the document is neither an object nor a list. An object by path gives one
record for each path, and a list gives one for each file that a finding belongs to, with all
findings that do. Whatever the document, a record has the field that belongs to its source. -/
theorem read_conserves (source : Source) (origin text : String) :
    ((∃ fault, (read source origin text).run.value = .error fault) ↔
      ∀ document, Json.readText .any text = .ok document → ¬ IsContainer document) ∧
    (∀ byPath, Json.readText .any text = .ok (.object byPath) →
      ∃ records, (read source origin text).run.value = .ok records ∧
        KeepsEntries source byPath records) ∧
    (∀ findings, Json.readText .any text = .ok (.array findings) →
      ∃ groups records, (read source origin text).run.value = .ok records ∧
        Divides source findings groups records) ∧
    ∀ records field, (read source origin text).run.value = .ok records →
      source.field? = some field → ∀ entry ∈ records, (Table.get? field entry.2).isSome := by
  refine ⟨?_, fun byPath h => ?_, fun findings h => ?_, fun records field h hfield entry hentry => ?_⟩
  · constructor
    · rintro ⟨fault, hfault⟩ document hdocument hcontainer
      obtain ⟨records, hrecords⟩ : ∃ records, recordsOf? source document = some records :=
        isContainer_iff.1 hcontainer
      rw [value_read hdocument hrecords] at hfault
      exact nomatch hfault
    · intro hnone
      cases hread : (read source origin text).run.value with
      | error fault => exact ⟨fault, rfl⟩
      | ok records =>
        obtain ⟨document, hdocument, hrecords⟩ := value_read_eq_ok_iff.1 hread
        exact absurd (isContainer_iff.2 ⟨records, hrecords⟩) (hnone document hdocument)
  · refine ⟨_, value_read h rfl, keepsEntries ?_⟩
    cases Json.ordered_of_readText h with
    | object hfields _ => exact hfields
  · exact ⟨_, _, value_read h rfl, divides_groupsOf source findings⟩
  · obtain ⟨document, -, hrecords⟩ := value_read_eq_ok_iff.1 h
    obtain ⟨value, hvalue⟩ := exists_record_of_mem hrecords hentry
    exact (hvalue ▸ isRecordOf_record source value).isSome_get? hfield

set_option maxRecDepth 4000 in
/-- An object with a record of its own and one that is wrapped, a list with a finding that names no
file, and a document that is neither. -/
theorem read_conserves_of_wrapped_and_pathless :
    let objectText := "\x7b\"a.py\":\x7b\"lint_issues\":[]\x7d,\"b.py\":\x7b\"E501\":null\x7d\x7d"
    let byPath : Fields := [("a.py", .object [("lint_issues", .array [])]),
      ("b.py", .object [("E501", .null)])]
    let kept : Records := [("a.py", [("lint_issues", .array [])]),
      ("b.py", [("lint_issues", .object [("E501", .null)])])]
    let listText := "[\x7b\"file\":\"b\"\x7d,\x7b\"line\":null\x7d,\x7b\"path\":\"a\"\x7d," ++
      "\x7b\"file\":null,\"path\":\"b\"\x7d]"
    let findings : List Value := [.object [("file", .string "b")], .object [("line", .null)],
      .object [("path", .string "a")], .object [("file", .null), ("path", .string "b")]]
    (Json.readText .any objectText = .ok (.object byPath) ∧
      (read .lint "lint.json" objectText).run.value = .ok kept ∧ KeepsEntries .lint byPath kept) ∧
    (Json.readText .any listText = .ok (.array findings) ∧
      ∃ groups records, (read .lint "lint.json" listText).run.value = .ok records ∧
        Divides .lint findings groups records ∧ (groups.map (·.2.length)).sum = 3) ∧
    ∃ fault, (read .lint "lint.json" "true").run.value = .error fault := by
  intro objectText byPath kept listText findings
  have hobject : Json.readText .any objectText = .ok (.object byPath) := by
    cbv
  have hlist : Json.readText .any listText = .ok (.array findings) := by
    cbv
  have hother : Json.readText .any "true" = .ok (.bool true : Value) := by
    cbv
  have hkept : (read .lint "lint.json" objectText).run.value = .ok kept := value_read hobject rfl
  refine ⟨⟨hobject, hkept, ?_⟩, ⟨hlist, ?_⟩, ?_⟩
  · obtain ⟨records, hrecords, hkeeps⟩ :=
      (read_conserves .lint "lint.json" objectText).2.1 byPath hobject
    have hsame : kept = records := Except.ok.inj (hkept.symm.trans hrecords)
    exact hsame ▸ hkeeps
  · obtain ⟨groups, records, hrecords, hdivides⟩ :=
      (read_conserves .lint "lint.json" listText).2.2.1 findings hlist
    have hpathless : findings.countP (fun f => IsPathless f) = 1 := by
      decide
    have hconserved := hdivides.conserved
    rw [hpathless] at hconserved
    exact ⟨groups, records, hrecords, hdivides, Nat.succ.inj hconserved⟩
  · apply (read_conserves .lint "lint.json" "true").1.2
    rintro document hdocument (⟨_, rfl⟩ | ⟨_, rfl⟩)
    · cases hother.symm.trans hdocument
    · cases hother.symm.trans hdocument

end RefactorAudit.Report
