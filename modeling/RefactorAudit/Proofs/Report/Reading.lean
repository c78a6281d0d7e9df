-- SUMMARY: The records of a report that is read are in order.
import RefactorAudit.Proofs.Json.Ordered
import RefactorAudit.Proofs.Outcome
import RefactorAudit.Proofs.Report.LastWriter

/-!
# Records of read reports

A report that is read has its paths in order, and the fields under each of them, be it an object by
path or a list of findings. So what is said about merging reports in order holds of all reports that
are read.
-/

namespace RefactorAudit.Report

open Json (Fields Value)

variable {α : Type} {source : Source} {v document : Value α} {records : Records α}

theorem sorted_record (h : v.Ordered) : Table.Sorted (record source v) := by
  have hsingle : Table.Sorted [(source.wrapField, v)] := List.pairwise_singleton _ _
  cases h with
  | object hfields _ =>
    rw [record]
    split
    · exact hfields
    · exact hsingle
  | null => exact hsingle
  | bool _ => exact hsingle
  | number _ => exact hsingle
  | string _ => exact hsingle
  | array _ => exact hsingle

theorem ordered_grouped {findings : List (Value α)} (h : ∀ v ∈ findings, v.Ordered) :
    Records.Ordered (grouped source findings) := by
  refine ⟨?_, fun entry hentry => ?_⟩
  · rw [Table.Sorted, grouped, List.pairwise_map]
    exact Ascending.sorted_ofList _
  · obtain ⟨path, -, rfl⟩ := List.mem_map.1 hentry
    exact sorted_record (.array fun v hv => h v (List.mem_filter.1 hv).1)

theorem ordered_recordsOf? (hdocument : document.Ordered)
    (h : recordsOf? source document = some records) : records.Ordered := by
  cases hdocument with
  | object hfields hvalues =>
    obtain rfl := Option.some.inj h
    refine ⟨?_, fun entry hentry => ?_⟩
    · rw [Table.Sorted, List.pairwise_map]
      exact hfields
    · obtain ⟨field, hfield, rfl⟩ := List.mem_map.1 hentry
      exact sorted_record (hvalues field hfield)
  | array hitems =>
    obtain rfl := Option.some.inj h
    exact ordered_grouped hitems
  | null => exact nomatch h
  | bool _ => exact nomatch h
  | number _ => exact nomatch h
  | string _ => exact nomatch h

/-! ## Reports -/

section

variable {origin text : String} {records : Records}

theorem value_read {document : Value}
    (hdocument : Json.readText .any text = .ok document)
    (hrecords : recordsOf? source document = some records) :
    (read source origin text).run.value = .ok records := by
  simp only [read, hdocument, hrecords]
  split <;> rfl

/-- What is read are the records of the document. -/
theorem value_read_eq_ok_iff :
    (read source origin text).run.value = .ok records ↔ ∃ document,
      Json.readText .any text = .ok document ∧ recordsOf? source document = some records := by
  constructor
  · intro h
    cases hdocument : Json.readText .any text with
    | error message =>
      unfold read at h
      rw [hdocument] at h
      exact nomatch h
    | ok document =>
      cases hfound : recordsOf? source document with
      | none =>
        unfold read at h
        simp only [hdocument, hfound] at h
        exact nomatch h
      | some found =>
        rw [value_read hdocument hfound] at h
        cases h
        exact ⟨document, rfl, hfound⟩
  · rintro ⟨document, hdocument, hrecords⟩
    exact value_read hdocument hrecords

/-- Whatever a tool writes, the records that are read from it are in order. -/
theorem ordered_of_read (h : (read source origin text).run.value = .ok records) :
    records.Ordered := by
  obtain ⟨document, hdocument, hrecords⟩ := value_read_eq_ok_iff.1 h
  exact ordered_recordsOf? (Json.ordered_of_readText hdocument) hrecords

end

/-! ## Merged reports -/

theorem sorted_fields (h : v.Ordered) : Table.Sorted (v.object?.getD []) := by
  cases h with
  | object hfields _ => exact hfields
  | null => exact Table.sorted_nil
  | bool _ => exact Table.sorted_nil
  | number _ => exact Table.sorted_nil
  | string _ => exact Table.sorted_nil
  | array _ => exact Table.sorted_nil

/-- A merged report that is read has its paths in order. -/
theorem Merged.sorted_of_read {text : String} {merged : Merged}
    (h : Merged.read text = .ok merged) : Table.Sorted merged := by
  obtain ⟨document, hdocument, rfl⟩ := map_eq_ok.1 h
  simp only [Merged.ofJson, Table.Sorted, List.pairwise_map]
  exact sorted_fields (Json.ordered_of_readText hdocument)

end RefactorAudit.Report
