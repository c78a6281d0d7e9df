-- SUMMARY: A later merge goes on from a merged report that was written and read again.
import RefactorAudit.CommandLine.Run
import RefactorAudit.Proofs.Report.CanonicalPath
import RefactorAudit.Proofs.Report.LastWriter
import Mathlib

/-!
# Prior reports

A merged report is kept as a document, and a later merge may begin with it as the prior report. What
is read as a prior report are the records that were written, the empty ones included. Where canonical
paths stay as they are, merging takes these records over unchanged, so the later merge goes on where
the earlier one has ended.
-/

namespace RefactorAudit.Report

open Json (Fields Value)

variable {α : Type} {n : Normalizer} {records merged : Records α} {a b : List (Records α)}

/-! ## Reading a merged report -/

/-- The records in the document of a merged report are those that it was made of. -/
theorem recordsOf?_toJson (m : Merged α) : recordsOf? .prior m.toJson = some m := by
  have hentry : ∀ entry : String × Fields α,
      (entry.1, record .prior (.object entry.2)) = entry := fun _ => rfl
  simp only [Merged.toJson, recordsOf?, List.map_map, Function.comp_def, hentry, List.map_id']

theorem read_prior {m : Merged} {origin text : String}
    (h : Json.readText .any text = .ok m.toJson) : read .prior origin text = pure m := by
  simp only [read, h, recordsOf?_toJson]
  rfl

/-! ## Merging a merged report -/

/-- Records under canonical paths that are not taken yet are added as they are. -/
theorem mergeOne_eq_putAll (h : records.Ordered)
    (hkeys : ∀ key ∈ Table.names records, n.normalize key = key)
    (hfresh : ∀ key ∈ Table.names records, Table.get? key merged = none) :
    mergeOne n merged records = Table.putAll merged records := by
  induction records generalizing merged with
  | nil => rfl
  | cons entry rest ih =>
    obtain ⟨path, fields⟩ := entry
    have hpath : n.normalize path = path := hkeys path List.mem_cons_self
    have hnone : Table.get? path merged = none := hfresh path List.mem_cons_self
    have hfields : Table.putAll [] fields = fields :=
      (h.2 (path, fields) List.mem_cons_self).ofList_eq
    have hput : Table.update path [] (fun found => Table.putAll found fields) merged =
        Table.put path fields merged := by
      simp only [Table.update, hnone, Option.getD_none, hfields]
    have hrest : Records.Ordered rest :=
      ⟨h.1.of_cons, fun entry hentry => h.2 entry (List.mem_cons_of_mem _ hentry)⟩
    have hother : ∀ key ∈ Table.names rest, key ≠ path := by
      rintro key hkey rfl
      exact (List.nodup_cons.1 h.1.nodup).1 hkey
    have hstep : mergeOne n merged ((path, fields) :: rest) =
        mergeOne n (Table.put path fields merged) rest := by
      rw [← hput]
      simp only [mergeOne, List.foldl_cons, hpath]
    rw [hstep, ih hrest (fun key hkey => hkeys key (List.mem_cons_of_mem _ hkey))]
    · rfl
    · intro key hkey
      rw [Table.get?_put, if_neg (hother key hkey)]
      exact hfresh key (List.mem_cons_of_mem _ hkey)

/-- A merged report whose paths stay as they are is merged to itself. -/
theorem mergeOne_merge (hkeys : ∀ key ∈ Table.names (merge n a), n.normalize key = key) :
    mergeOne n [] (merge n a) = merge n a := by
  have hordered := ordered_merge n a
  rw [mergeOne_eq_putAll hordered hkeys fun _ _ => rfl]
  exact hordered.1.ofList_eq

theorem merge_append (n : Normalizer) (a b : List (Records α)) :
    merge n (a ++ b) = b.foldl (mergeOne n) (merge n a) := List.foldl_append

/-- Merging first some reports, and then the written and read result with the others, gives what
merging all of them at once gives. Read back is what was written; there is no marker, the root is
absolute, and no part of a path in the first reports begins or ends with a blank. -/
theorem merge_prior_eq_merge_append (n : Normalizer) (hmarker : n.marker.getD "" = "")
    (hroot : ∀ root, n.repoRoot = some root → Path.startsWithSlash root.toList = true)
    (a b : List Records)
    (hparts : ∀ records ∈ a, ∀ path ∈ Table.names records,
      ∀ part ∈ (Location.ofPath path).parts, Text.trim part = part)
    (origin : String)
    (hread : Json.readText .any (CommandLine.documentText (merge n a).toJson) =
      .ok (merge n a).toJson) :
    ∃ prior, read .prior origin (CommandLine.documentText (merge n a).toJson) = pure prior ∧
      merge n ([prior] ++ b) = merge n (a ++ b) := by
  have hkeys : ∀ key ∈ Table.names (merge n a), n.normalize key = key := by
    intro key hkey
    obtain ⟨records, hrecords, path, hpath, rfl⟩ := mem_names_merge.1 hkey
    exact Normalizer.normalize_normalize_of_noMarker hmarker hroot (hparts records hrecords path hpath)
  refine ⟨merge n a, read_prior hread, ?_⟩
  calc merge n ([merge n a] ++ b)
      = b.foldl (mergeOne n) (mergeOne n [] (merge n a)) := merge_append n _ b
    _ = b.foldl (mergeOne n) (merge n a) := by rw [mergeOne_merge hkeys]
    _ = merge n (a ++ b) := (merge_append n a b).symm

set_option maxRecDepth 4000 in
/-- Two reports spell a path in two ways, one of them with an empty record beside it. -/
theorem merge_prior_eq_merge_append_of_spellings :
    let n : Normalizer := { repoRoot := some "/w" }
    let a : List Records :=
      [[("./a.py", [("doc", .string "none")]), ("b.py", [])], [("/w/a.py", [("typed", .bool true)])]]
    let b : List Records := [[("a.py", [("doc", .string "full")])]]
    (n.marker.getD "" = "" ∧ Path.startsWithSlash "/w".toList = true ∧
      (∀ records ∈ a, ∀ path ∈ Table.names records,
        ∀ part ∈ (Location.ofPath path).parts, Text.trim part = part) ∧
      Json.readText .any (CommandLine.documentText (merge n a).toJson) = .ok (merge n a).toJson) ∧
      ∃ prior, read .prior "p.json" (CommandLine.documentText (merge n a).toJson) = pure prior ∧
        merge n ([prior] ++ b) = merge n (a ++ b) := by
  intro n a b
  have hmarker : n.marker.getD "" = "" := rfl
  have hroot : Path.startsWithSlash "/w".toList = true := by decide
  have hparts : ∀ records ∈ a, ∀ path ∈ Table.names records,
      ∀ part ∈ (Location.ofPath path).parts, Text.trim part = part := by
    intro records hrecords
    simp only [a, List.mem_cons, List.not_mem_nil, or_false] at hrecords
    rcases hrecords with rfl | rfl <;> decide
  have hread : Json.readText .any (CommandLine.documentText (merge n a).toJson) =
      .ok (merge n a).toJson := by
    cbv
  refine ⟨⟨hmarker, hroot, hparts, hread⟩, ?_⟩
  refine merge_prior_eq_merge_append n hmarker ?_ a b hparts "p.json" hread
  rintro root ⟨⟩
  exact hroot

end RefactorAudit.Report
