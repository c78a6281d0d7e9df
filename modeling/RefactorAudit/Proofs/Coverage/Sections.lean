-- SUMMARY: Line data in sections, and the files that they add up to.
import RefactorAudit.Coverage.Index
import RefactorAudit.Proofs.Collection.Canonical
import Mathlib.Algebra.Group.Nat.Defs
import Mathlib.Data.List.Induction

/-!
# Sections

A report gives its line data in sections: a file and how often its lines were executed. A file may
have several sections, and a line may be recorded several times. The files of a report are what the
sections add up to, and they depend on what is recorded only.
-/

namespace RefactorAudit

/-! ## The records of a file -/

namespace FileCoverage

variable {α : Type} {n : Nat} {c d : FileCoverage α}
variable {records others : List (Nat × Nat)}

/-- Both sets of lines ascend. -/
structure Ordered (c : FileCoverage α) : Prop where
  hit : Ascending.Sorted c.hit
  executable : Ascending.Sorted c.executable

/-- Lines that are kept in order are determined by which they are. -/
theorem Ordered.ext (hc : c.Ordered) (hd : d.Ordered)
    (hhit : ∀ n, n ∈ c.hit ↔ n ∈ d.hit) (hexec : ∀ n, n ∈ c.executable ↔ n ∈ d.executable)
    (hsummary : c.summary = d.summary) : c = d := by
  obtain ⟨hit, executable, summary⟩ := c
  obtain ⟨hit', executable', summary'⟩ := d
  obtain rfl : hit = hit' := hc.hit.ext hd.hit hhit
  obtain rfl : executable = executable' := hc.executable.ext hd.executable hexec
  obtain rfl : summary = summary' := hsummary
  rfl

theorem Ordered.record (h : c.Ordered) (line hits : Nat) : (c.record line hits).Ordered := by
  refine ⟨?_, Ascending.sorted_insert h.executable⟩
  rw [FileCoverage.record]
  dsimp only
  split
  · exact Ascending.sorted_insert h.hit
  · exact h.hit

/-- Takes up records of a line and how often it was executed. -/
def recordAll (records : List (Nat × Nat)) (c : FileCoverage α) : FileCoverage α :=
  records.foldl (fun c r => c.record r.1 r.2) c

/-- The coverage that records add up to. -/
def ofRecords (records : List (Nat × Nat)) : FileCoverage α := recordAll records {}

theorem recordAll_append (c : FileCoverage α) :
    recordAll (records ++ others) c = recordAll others (recordAll records c) := List.foldl_append

theorem Ordered.recordAll (h : c.Ordered) (records : List (Nat × Nat)) :
    (recordAll records c).Ordered := by
  induction records generalizing c with
  | nil => exact h
  | cons r rest ih => exact ih (h.record r.1 r.2)

theorem summary_recordAll (records : List (Nat × Nat)) (c : FileCoverage α) :
    (recordAll records c).summary = c.summary := by
  induction records generalizing c with
  | nil => rfl
  | cons r rest ih => exact ih _

theorem mem_executable_recordAll :
    n ∈ (recordAll records c).executable ↔ n ∈ c.executable ∨ ∃ hits, (n, hits) ∈ records := by
  induction records generalizing c with
  | nil => simp [recordAll]
  | cons r rest ih =>
    obtain ⟨line, hits⟩ := r
    have hrest : n ∈ (recordAll ((line, hits) :: rest) c).executable ↔
        n ∈ (c.record line hits).executable ∨ ∃ hits, (n, hits) ∈ rest := ih
    rw [hrest, mem_executable_record]
    simp only [List.mem_cons, Prod.mk.injEq, exists_or, exists_and_left, exists_eq, and_true]
    rw [or_comm (a := n = line), or_assoc]

theorem mem_hit_recordAll :
    n ∈ (recordAll records c).hit ↔ n ∈ c.hit ∨ ∃ hits, (n, hits) ∈ records ∧ 0 < hits := by
  induction records generalizing c with
  | nil => simp [recordAll]
  | cons r rest ih =>
    obtain ⟨line, hits⟩ := r
    have hrest : n ∈ (recordAll ((line, hits) :: rest) c).hit ↔
        n ∈ (c.record line hits).hit ∨ ∃ hits, (n, hits) ∈ rest ∧ 0 < hits := ih
    rw [hrest, mem_hit_record]
    constructor
    · rintro ((⟨rfl, hpos⟩ | hmem) | ⟨hits, hmem, hpos⟩)
      · exact .inr ⟨hits, List.mem_cons_self, hpos⟩
      · exact .inl hmem
      · exact .inr ⟨hits, List.mem_cons_of_mem _ hmem, hpos⟩
    · rintro (hmem | ⟨hits', hmem, hpos⟩)
      · exact .inl (.inr hmem)
      · rcases List.mem_cons.1 hmem with heq | hmem
        · obtain ⟨rfl, rfl⟩ := Prod.mk.inj heq
          exact .inl (.inl ⟨rfl, hpos⟩)
        · exact .inr ⟨hits', hmem, hpos⟩

theorem ordered_empty : ({} : FileCoverage α).Ordered := ⟨List.Pairwise.nil, List.Pairwise.nil⟩

theorem ordered_ofRecords (records : List (Nat × Nat)) :
    (ofRecords records : FileCoverage α).Ordered := ordered_empty.recordAll records

theorem mem_executable_ofRecords :
    n ∈ (ofRecords records : FileCoverage α).executable ↔ ∃ hits, (n, hits) ∈ records := by
  rw [ofRecords, mem_executable_recordAll]
  exact or_iff_right List.not_mem_nil

theorem mem_hit_ofRecords :
    n ∈ (ofRecords records : FileCoverage α).hit ↔ ∃ hits, (n, hits) ∈ records ∧ 0 < hits := by
  rw [ofRecords, mem_hit_recordAll]
  exact or_iff_right List.not_mem_nil

/-- Neither the order of the records matters nor how often a line is recorded. -/
theorem ofRecords_eq (hexec : ∀ n, (∃ hits, (n, hits) ∈ records) ↔ ∃ hits, (n, hits) ∈ others)
    (hhit : ∀ n, (∃ hits, (n, hits) ∈ records ∧ 0 < hits) ↔ ∃ hits, (n, hits) ∈ others ∧ 0 < hits) :
    (ofRecords records : FileCoverage α) = ofRecords others := by
  refine (ordered_ofRecords records).ext (ordered_ofRecords others) (fun n => ?_) (fun n => ?_) ?_
  · rw [mem_hit_ofRecords, mem_hit_ofRecords]
    exact hhit n
  · rw [mem_executable_ofRecords, mem_executable_ofRecords]
    exact hexec n
  · rw [ofRecords, ofRecords, summary_recordAll, summary_recordAll]

end FileCoverage

/-! ## The files of a report -/

namespace Coverage

/-- The lines of a file that a report lists together: the number of each line and how often it was
executed. -/
structure Section where
  path : String
  records : List (Nat × Nat)
  deriving DecidableEq, Repr, Inhabited

/-- The control characters of Unicode. -/
def isControl (c : Char) : Bool := c.toNat < 32 || (127 ≤ c.toNat && c.toNat ≤ 159)

/-- Every format can hold the section: its path is one line of text, and the numbers have the size
that the formats provide for. -/
structure Section.Valid (s : Section) : Prop where
  path : ∀ c ∈ s.path.toList, isControl c = false
  records : ∀ r ∈ s.records, r.1 < 2 ^ 32 ∧ r.2 < 2 ^ 64

theorem not_control_of_all {cs : List Char} (h : cs.all (!isControl ·) = true) :
    ∀ c ∈ cs, isControl c = false := by
  simpa using h

instance (s : Section) : Decidable s.Valid :=
  decidable_of_iff (s.path.toList.all (!isControl ·) = true ∧
      ∀ r ∈ s.records, r.1 < 2 ^ 32 ∧ r.2 < 2 ^ 64)
    ⟨fun ⟨hpath, hrecords⟩ => ⟨not_control_of_all hpath, hrecords⟩,
      fun h => ⟨by simpa using h.path, h.records⟩⟩

variable {α : Type} {k : String} {n : Nat} {s : Section} {sections : List Section}

/-- Takes up records of the lines of a file. -/
def Files.recordAll (path : String) (records : List (Nat × Nat)) (files : Files α) : Files α :=
  records.foldl (fun files r => Files.record path r.1 r.2 files) files

/-- Takes up a section. -/
def Files.add (files : Files α) (s : Section) : Files α :=
  Files.recordAll (key s.path) s.records (files.touch (key s.path))

/-- The files that sections add up to. -/
def Files.ofSections (sections : List Section) : Files α := sections.foldl Files.add []

/-- All records under a key. -/
def recordsOf (k : String) (sections : List Section) : List (Nat × Nat) :=
  (sections.filter fun s => key s.path = k).flatMap Section.records

theorem mem_recordsOf {r : Nat × Nat} :
    r ∈ recordsOf k sections ↔ ∃ s ∈ sections, key s.path = k ∧ r ∈ s.records := by
  simp [recordsOf, and_assoc]

theorem Files.get?_recordAll {path : String} {records : List (Nat × Nat)} {files : Files α}
    {c : FileCoverage α} (h : Table.get? path files = some c) :
    Table.get? k (recordAll path records files) =
      if k = path then some (c.recordAll records) else Table.get? k files := by
  induction records generalizing files c with
  | nil =>
    split
    · next heq => rw [heq]; exact h
    · rfl
  | cons r rest ih =>
    have hrecord : Table.get? path (record path r.1 r.2 files) = some (c.record r.1 r.2) := by
      rw [record, Table.get?_update, if_pos rfl, h, Option.getD_some]
    have hrest := ih hrecord
    rw [record, Table.get?_update] at hrest
    refine hrest.trans ?_
    split
    · rfl
    · rfl

theorem Files.get?_add (files : Files α) :
    Table.get? k (files.add s) =
      if k = key s.path then some (((Table.get? k files).getD {}).recordAll s.records)
      else Table.get? k files := by
  have htouch : Table.get? (key s.path) (files.touch (key s.path)) =
      some ((Table.get? (key s.path) files).getD {}) := by
    rw [touch, Table.get?_update, if_pos rfl, id]
  rw [add, get?_recordAll htouch]
  split
  · next heq => rw [heq]
  · next hne => rw [touch, Table.get?_update, if_neg hne]

/-- A key holds all that any section records under it. -/
theorem Files.get?_ofSections (k : String) (sections : List Section) :
    Table.get? k (ofSections sections : Files α) =
      if ∃ s ∈ sections, key s.path = k then some (.ofRecords (recordsOf k sections))
      else none := by
  induction sections using List.reverseRecOn with
  | nil => simp [ofSections, Table.get?]
  | append_singleton front s ih =>
    have hadd : (ofSections (front ++ [s]) : Files α) = (ofSections front).add s := by
      simp [ofSections]
    have hstart : (Table.get? k (ofSections front : Files α)).getD {} =
        .ofRecords (recordsOf k front) := by
      rw [ih]
      split
      · rfl
      · next hnone =>
        have hempty : recordsOf k front = [] := by
          rw [recordsOf, List.filter_eq_nil_iff.2 fun s hs heq =>
            hnone ⟨s, hs, of_decide_eq_true heq⟩, List.flatMap_nil]
        rw [hempty]
        rfl
    rw [hadd, get?_add, hstart]
    split
    · next heq =>
      have hrecords : recordsOf k (front ++ [s]) = recordsOf k front ++ s.records := by
        simp [recordsOf, heq]
      rw [if_pos ⟨s, by simp, heq.symm⟩, hrecords]
      exact congrArg some (FileCoverage.recordAll_append _).symm
    · next hne =>
      have hrecords : recordsOf k (front ++ [s]) = recordsOf k front := by
        simp [recordsOf, Ne.symm hne]
      rw [ih, hrecords]
      simp [Ne.symm hne, or_and_right, exists_or]

theorem Files.sorted_recordAll {path : String} {records : List (Nat × Nat)} {files : Files α}
    (h : Table.Sorted files) : Table.Sorted (recordAll path records files) := by
  induction records generalizing files with
  | nil => exact h
  | cons r rest ih => exact ih (Table.sorted_update h)

theorem Files.sorted_ofSections (sections : List Section) :
    Table.Sorted (ofSections sections : Files α) := by
  induction sections using List.reverseRecOn with
  | nil => exact Table.sorted_nil
  | append_singleton front s ih =>
    rw [ofSections, List.foldl_append]
    exact sorted_recordAll (Table.sorted_update ih)

end Coverage

end RefactorAudit
