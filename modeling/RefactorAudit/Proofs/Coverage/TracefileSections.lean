-- SUMMARY: Sections written as a tracefile are read back.
import RefactorAudit.Coverage.Tracefile
import RefactorAudit.Proofs.Coverage.Sections
import RefactorAudit.Proofs.Path.Parts
import RefactorAudit.Proofs.Text.Digits
import Mathlib.Data.List.Forall2
import Mathlib.Data.List.TakeWhile

/-!
# Sections in tracefiles

A section is written as a record of its file, one record for each of its lines, and a record that
ends it. Each of them is a line of text of its own, so the reader takes up the records one by one.
-/

namespace RefactorAudit.Coverage.Tracefile

/-! ## Written form -/

def fileLine (s : Section) : List Char := "SF:".toList ++ s.path.toList

def dataLine (r : Nat × Nat) : List Char :=
  "DA:".toList ++ (Nat.toDigits 10 r.1 ++ ',' :: Nat.toDigits 10 r.2)

def sectionLines (s : Section) : List (List Char) :=
  fileLine s :: (s.records.map dataLine ++ ["end_of_record".toList])

/-- The tracefile on sections. -/
def reportText (sections : List Section) : String :=
  String.ofList ((sections.flatMap sectionLines).flatMap (· ++ ['\n']))

variable {α : Type} {s : Section} {sections : List Section} {r : Nat × Nat}

/-! ## Lines -/

/-- Lines that hold no line ends are read as they are written. -/
theorem lines_flatMap {written : List (List Char)}
    (h : ∀ line ∈ written, '\n' ∉ line ∧ '\r' ∉ line) :
    lines (written.flatMap (· ++ ['\n'])) = written := by
  have hsplit : Text.split (· = '\n') (written.flatMap (· ++ ['\n'])) = written ++ [[]] := by
    induction written with
    | nil => rfl
    | cons line rest ih =>
      have hline : ∀ c ∈ line, decide (c = '\n') = false := by
        intro c hc
        refine decide_eq_false ?_
        rintro rfl
        exact (h line List.mem_cons_self).1 hc
      rw [List.flatMap_cons, List.append_assoc, List.singleton_append,
        Text.split_append hline (decide_eq_true rfl),
        ih fun other hother => h other (List.mem_cons_of_mem _ hother), List.cons_append]
  have hreturn : ∀ line ∈ written, (line.reverse.dropWhile (· = '\r')).reverse = line := by
    intro line hline
    have hnot := (h line hline).2
    cases hreverse : line.reverse with
    | nil => rw [List.reverse_eq_nil_iff.1 hreverse]; rfl
    | cons c rest =>
      have hc : c ≠ '\r' := by
        rintro rfl
        exact hnot (List.mem_reverse.1 (hreverse ▸ List.mem_cons_self))
      rw [List.dropWhile_cons_of_neg (by simpa using hc), ← hreverse, List.reverse_reverse]
  simp only [lines, hsplit, List.getLast?_concat, if_true, List.dropLast_concat]
  rw [List.map_congr_left hreturn, List.map_id']

theorem not_mem_of_not_control {cs : List Char} (h : ∀ c ∈ cs, isControl c = false) :
    '\n' ∉ cs ∧ '\r' ∉ cs :=
  ⟨fun hc => absurd (h _ hc) (by decide), fun hc => absurd (h _ hc) (by decide)⟩

theorem not_control_of_isDigit {c : Char} (h : c.isDigit = true) : isControl c = false := by
  have hrange : 48 ≤ c.toNat ∧ c.toNat ≤ 57 := by
    simp only [Char.isDigit, Bool.and_eq_true, decide_eq_true_eq, ge_iff_le] at h
    exact h
  simp only [isControl, Bool.or_eq_false_iff, Bool.and_eq_false_iff, decide_eq_false_iff_not]
  omega

/-- A section is written without line ends in its lines. -/
theorem not_mem_sectionLines (hs : s.Valid) :
    ∀ line ∈ sectionLines s, '\n' ∉ line ∧ '\r' ∉ line := by
  have hdigits : ∀ n, ∀ c ∈ Nat.toDigits 10 n, isControl c = false :=
    fun n c hc => not_control_of_isDigit (Text.isDigit_toDigits hc)
  intro line hline
  refine not_mem_of_not_control fun c hc => ?_
  simp only [sectionLines, List.mem_cons, List.mem_append, List.mem_map, List.not_mem_nil,
    or_false] at hline
  rcases hline with rfl | ⟨r, -, rfl⟩ | rfl
  · rcases List.mem_append.1 hc with hc | hc
    · exact not_control_of_all (by decide) c hc
    · exact hs.path c hc
  · rcases List.mem_append.1 hc with hc | hc
    · exact not_control_of_all (by decide) c hc
    · rcases List.mem_append.1 hc with hc | hc
      · exact hdigits r.1 c hc
      · rcases List.mem_cons.1 hc with rfl | hc
        · decide
        · exact hdigits r.2 c hc
  · exact not_control_of_all (by decide) c hc

/-! ## Records -/

def fileRecord (s : Section) : Record := { kind := "SF", fields := [.text s.path] }

def dataRecord (r : Nat × Nat) : Record :=
  { kind := "DA", fields := [.number r.1, .number r.2, .absent] }

def endRecord : Record := { kind := "end_of_record", fields := [] }

theorem read_fileLine (s : Section) : Record.read (fileLine s) = .ok (fileRecord s) := by
  have hfields : readFields true [("path", .text)] (some s.path.toList) = .ok [.text s.path] := by
    change Except.ok [Field.text (String.ofList s.path.toList)] = _
    rw [String.ofList_toList]
  change (readFields true [("path", .text)] (some s.path.toList)).bind
    (fun fields => .ok ({ kind := "SF", fields } : Record)) = _
  rw [hfields]
  rfl

theorem read_natural {name : String} {n limit : Nat} (h : n ≤ limit) :
    FieldKind.read name (Nat.toDigits 10 n) (.natural limit) = .ok (.number n) := by
  rw [FieldKind.read, Text.natural_toDigits h]
  rfl

theorem read_dataLine (hr : r.1 < 2 ^ 32 ∧ r.2 < 2 ^ 64) :
    Record.read (dataLine r) = .ok (dataRecord r) := by
  have hcomma : ∀ n, ∀ c ∈ Nat.toDigits 10 n, decide (c ≠ ',') = true := by
    intro n c hc
    refine decide_eq_true ?_
    rintro rfl
    exact absurd (Text.isDigit_toDigits hc) (by decide)
  have hline : FieldKind.read "line" (Nat.toDigits 10 r.1) (.natural Text.limit32) =
      .ok (.number r.1) := read_natural (Nat.le_pred_of_lt hr.1)
  have hcount : FieldKind.read "count" (Nat.toDigits 10 r.2) (.natural Text.limit64) =
      .ok (.number r.2) := read_natural (Nat.le_pred_of_lt hr.2)
  have hbefore : (Nat.toDigits 10 r.1 ++ ',' :: Nat.toDigits 10 r.2).takeWhile (· ≠ ',') =
      Nat.toDigits 10 r.1 := by
    rw [List.takeWhile_append_of_pos (hcomma r.1), List.takeWhile_cons_of_neg (by simp),
      List.append_nil]
  have hbehind : (Nat.toDigits 10 r.1 ++ ',' :: Nat.toDigits 10 r.2).dropWhile (· ≠ ',') =
      ',' :: Nat.toDigits 10 r.2 := by
    rw [List.dropWhile_append_of_pos (hcomma r.1), List.dropWhile_cons_of_neg (by simp)]
  have hlast : (Nat.toDigits 10 r.2).takeWhile (· ≠ ',') = Nat.toDigits 10 r.2 :=
    List.takeWhile_eq_self_iff.2 (hcomma r.2)
  have hnone : (Nat.toDigits 10 r.2).dropWhile (· ≠ ',') = [] :=
    List.dropWhile_eq_nil_iff.2 (hcomma r.2)
  have hfields : readFields true [("line", .natural Text.limit32), ("count", .natural Text.limit64),
      ("checksum", .remark)] (some (Nat.toDigits 10 r.1 ++ ',' :: Nat.toDigits 10 r.2)) =
      .ok [.number r.1, .number r.2, .absent] := by
    simp only [readFields, List.isEmpty_cons, Bool.false_and, Bool.false_eq_true, if_false, hbefore,
      hbehind, hlast, hnone, hline, hcount]
    rfl
  change (readFields true [("line", .natural Text.limit32), ("count", .natural Text.limit64),
    ("checksum", .remark)] (some (Nat.toDigits 10 r.1 ++ ',' :: Nat.toDigits 10 r.2))).bind
    (fun fields => .ok ({ kind := "DA", fields } : Record)) = _
  rw [hfields]
  rfl

theorem read_endLine : Record.read "end_of_record".toList = .ok endRecord := rfl

def sectionRecords (s : Section) : List Record :=
  fileRecord s :: (s.records.map dataRecord ++ [endRecord])

/-- The lines of a section are read as its records. -/
theorem forall₂_section (hs : s.Valid) :
    List.Forall₂ (fun line record => Record.read line = .ok record)
      (sectionLines s) (sectionRecords s) := by
  refine .cons (read_fileLine s) (List.rel_append ?_ (.cons read_endLine .nil))
  rw [List.forall₂_map_left_iff, List.forall₂_map_right_iff, List.forall₂_same]
  exact fun r hr => read_dataLine (hs.records r hr)

theorem forall₂_sections (h : ∀ s ∈ sections, s.Valid) :
    List.Forall₂ (fun line record => Record.read line = .ok record)
      (sections.flatMap sectionLines) (sections.flatMap sectionRecords) := by
  induction sections with
  | nil => exact .nil
  | cons s rest ih =>
    exact List.rel_append (forall₂_section (h s List.mem_cons_self))
      (ih fun t ht => h t (List.mem_cons_of_mem _ ht))

/-! ## Steps -/

variable {st : State α} {path : String} {number : Nat}

/-- Lines that are records are taken up one after the other. -/
theorem readLines_eq {written : List (List Char)} {records : List Record}
    (h : List.Forall₂ (fun line record => Record.read line = .ok record) written records) :
    readLines number st written = .ok (records.foldl State.step st) := by
  induction h generalizing st number with
  | nil => rfl
  | cons hline _ ih =>
    rw [readLines, hline]
    exact ih

theorem foldl_data {records : List (Nat × Nat)} (hcurrent : st.current = some path) :
    (records.map dataRecord).foldl State.step st =
      { st with files := Files.recordAll path records st.files } := by
  induction records generalizing st with
  | nil => rfl
  | cons r rest ih =>
    have hstep : st.step (dataRecord r) = { st with files := st.files.record path r.1 r.2 } := by
      simp only [State.step, dataRecord, hcurrent]
    rw [List.map_cons, List.foldl_cons, hstep]
    exact ih hcurrent

/-- A section leaves no file open. -/
theorem foldl_section (st : State α) (s : Section) :
    (sectionRecords s).foldl State.step st =
      { files := Files.add st.files s, current := none } := by
  have hopened : (st.step (fileRecord s)).current = some (key s.path) := rfl
  rw [sectionRecords, List.foldl_cons, List.foldl_append, foldl_data hopened]
  rfl

theorem foldl_sections (hcurrent : st.current = none) (sections : List Section) :
    (sections.flatMap sectionRecords).foldl State.step st =
      { st with files := sections.foldl Files.add st.files } := by
  induction sections generalizing st with
  | nil => rfl
  | cons s rest ih =>
    rw [List.flatMap_cons, List.foldl_append, foldl_section, ih rfl, ← hcurrent]
    rfl

/-- The files of the tracefile on sections are what the sections add up to. -/
theorem read_reportText (h : ∀ s ∈ sections, s.Valid) :
    (read (reportText sections) : Except (Nat × Problem) (Files α)) =
      .ok (Files.ofSections sections) := by
  have hlines : lines (reportText sections).toList = sections.flatMap sectionLines := by
    rw [reportText, String.toList_ofList]
    refine lines_flatMap fun line hline => ?_
    obtain ⟨s, hs, hline⟩ := List.mem_flatMap.1 hline
    exact not_mem_sectionLines (h s hs) line hline
  have hstart : ({} : State α).current = none := rfl
  rw [read, hlines, readLines_eq (forall₂_sections h), foldl_sections hstart]
  rfl

example : reportText [⟨"a", [(1, 0)]⟩] = "SF:a\nDA:1,0\nend_of_record\n" := by decide

end RefactorAudit.Coverage.Tracefile
