-- SUMMARY: What a merged report says: of all reports that write a field, the last one counts.
import RefactorAudit.Proofs.Collection.Canonical
import RefactorAudit.Report.Merge
import Mathlib.Data.List.Induction

/-!
# The last writer wins

A merged report has a record for every canonical path of its reports. Each field of a record holds
what was written into it last: by the last report that writes it, and there under the greatest of
the paths that have this canonical path. So reports that write no field in common can be merged in
any order.
-/

namespace RefactorAudit.Report

open Json (Fields Value)

variable {α : Type} {n : Normalizer} {records merged : Records α} {reports : List (Records α)}
variable {key field path : String} {v : Value α}

/-! ## Records in order -/

/-- The paths ascend, and so do the fields under each of them. -/
def Records.Ordered (records : Records α) : Prop :=
  Table.Sorted records ∧ ∀ entry ∈ records, Table.Sorted entry.2

/-- What a field of a path holds. -/
def Records.field? (key field : String) (records : Records α) : Option (Value α) :=
  (Table.get? key records).bind (Table.get? field)

theorem Records.Ordered.ext {a b : Records α} (ha : a.Ordered) (hb : b.Ordered)
    (hnames : ∀ key, key ∈ Table.names a ↔ key ∈ Table.names b)
    (hfields : ∀ key field, a.field? key field = b.field? key field) : a = b := by
  refine ha.1.ext hb.1 fun key => ?_
  have hkey := hnames key
  rw [Table.mem_names_iff, Table.mem_names_iff] at hkey
  cases hfa : Table.get? key a with
  | none => simp_all
  | some fa =>
    obtain ⟨fb, hfb⟩ := Option.isSome_iff_exists.1 (hkey.1 (by simp [hfa]))
    have hsa := ha.2 _ (ha.1.mem_iff.2 hfa)
    have hsb := hb.2 _ (hb.1.mem_iff.2 hfb)
    have heq : fa = fb := hsa.ext hsb fun field => by
      simpa [Records.field?, hfa, hfb] using hfields key field
    rw [hfb, heq]

theorem ordered_update {fields : Fields α} (h : merged.Ordered) :
    Records.Ordered (Table.update key [] (fun found => Table.putAll found fields) merged) := by
  refine ⟨Table.sorted_update h.1, fun entry hentry => ?_⟩
  rcases Table.mem_put hentry with rfl | hentry
  · refine Table.sorted_putAll ?_
    cases hget : Table.get? key merged with
    | none => exact Table.sorted_nil
    | some found => exact h.2 _ (h.1.mem_iff.2 hget)
  · exact h.2 _ hentry

theorem ordered_mergeOne (h : merged.Ordered) : Records.Ordered (mergeOne n merged records) := by
  induction records generalizing merged with
  | nil => exact h
  | cons entry rest ih => exact ih (ordered_update h)

/-- A merged report is in order, whatever it is made of. -/
theorem ordered_merge (n : Normalizer) (reports : List (Records α)) :
    Records.Ordered (merge n reports) := by
  suffices h : ∀ merged : Records α, merged.Ordered →
      Records.Ordered (reports.foldl (mergeOne n) merged) from
    h [] ⟨Table.sorted_nil, fun _ hentry => absurd hentry List.not_mem_nil⟩
  induction reports with
  | nil => exact fun _ h => h
  | cons records rest ih => exact fun _ h => ih _ (ordered_mergeOne h)

/-! ## One report -/

/-- A report writes a value into a field of a canonical path, under a path of its own. -/
def Writes (n : Normalizer) (records : Records α) (key field path : String) (v : Value α) : Prop :=
  ∃ fields, (path, fields) ∈ records ∧ n.normalize path = key ∧ Table.get? field fields = some v

/-- A report writes the value under the greatest of its paths that write the field. -/
def WritesLast (n : Normalizer) (records : Records α) (key field path : String) (v : Value α) :
    Prop :=
  Writes n records key field path v ∧
    ∀ path' v', Writes n records key field path' v' → path' ≤ path

theorem writes_concat {fields : Fields α} {last : String} :
    Writes n (records ++ [(last, fields)]) key field path v ↔
      Writes n records key field path v ∨
        (path = last ∧ n.normalize last = key ∧ Table.get? field fields = some v) := by
  constructor
  · rintro ⟨found, hmem, hkey, hget⟩
    rcases List.mem_append.1 hmem with hmem | hmem
    · exact .inl ⟨found, hmem, hkey, hget⟩
    · obtain ⟨rfl, rfl⟩ := Prod.mk.inj (List.mem_singleton.1 hmem)
      exact .inr ⟨rfl, hkey, hget⟩
  · rintro (⟨found, hmem, hkey, hget⟩ | ⟨rfl, hkey, hget⟩)
    · exact ⟨found, List.mem_append_left _ hmem, hkey, hget⟩
    · exact ⟨fields, List.mem_append_right _ (List.mem_singleton_self _), hkey, hget⟩

theorem mergeOne_concat {fields : Fields α} :
    mergeOne n merged (records ++ [(path, fields)]) =
      Table.update (n.normalize path) [] (fun found => Table.putAll found fields)
        (mergeOne n merged records) := by
  simp only [mergeOne, List.foldl_append, List.foldl_cons, List.foldl_nil]

/-- An entry sets its fields under its canonical path and keeps all others. -/
theorem field?_update {fields : Fields α} (h : Table.Sorted fields) {key' : String} :
    Records.field? key field
        (Table.update key' [] (fun found => Table.putAll found fields) merged) =
      if key = key' then (Table.get? field fields).or (merged.field? key field)
      else merged.field? key field := by
  simp only [Records.field?, Table.get?_update]
  split
  · next heq =>
    subst heq
    rw [Option.bind_some, Table.get?_putAll, Table.get?_reverse h.nodup]
    cases Table.get? key merged <;> rfl
  · rfl

theorem Records.Ordered.init {last : String × Fields α} (h : Records.Ordered (records ++ [last])) :
    records.Ordered ∧ Table.Sorted last.2 ∧ ∀ entry ∈ records, entry.1 < last.1 := by
  obtain ⟨hinit, -, hlast⟩ := List.pairwise_append.1 h.1
  exact ⟨⟨hinit, fun entry hentry => h.2 _ (List.mem_append_left _ hentry)⟩,
    h.2 _ (List.mem_append_right _ (List.mem_singleton_self _)),
    fun entry hentry => hlast entry hentry last (List.mem_singleton_self _)⟩

/-- If the last entry writes the field, its value counts, for its path is the greatest. -/
theorem exists_writesLast_concat {fields : Fields α} {last : String} {w : Value α}
    (h : Records.Ordered (records ++ [(last, fields)])) (hkey : n.normalize last = key)
    (hw : Table.get? field fields = some w) :
    (∃ path, WritesLast n (records ++ [(last, fields)]) key field path v) ↔ w = v := by
  have hbelow : ∀ path v', Writes n records key field path v' → path < last :=
    fun path v' ⟨found, hmem, _⟩ => h.init.2.2 _ hmem
  have hwrites : Writes n (records ++ [(last, fields)]) key field last w :=
    writes_concat.2 (.inr ⟨rfl, hkey, hw⟩)
  constructor
  · rintro ⟨path, hpath, hmax⟩
    rcases writes_concat.1 hpath with hpath | ⟨rfl, -, hv⟩
    · exact absurd (hbelow _ _ hpath) (String.not_lt.2 (hmax _ _ hwrites))
    · exact Option.some.inj (hw.symm.trans hv)
  · rintro rfl
    refine ⟨last, hwrites, fun path' v' h' => ?_⟩
    rcases writes_concat.1 h' with h' | ⟨rfl, -⟩
    · exact Std.le_of_lt (hbelow _ _ h')
    · exact Std.le_refl _

/-- If the last entry does not write the field, it changes nothing. -/
theorem writes_concat_of_not {fields : Fields α} {last : String}
    (h : ¬ (n.normalize last = key ∧ (Table.get? field fields).isSome)) :
    Writes n (records ++ [(last, fields)]) key field path v ↔
      Writes n records key field path v := by
  rw [writes_concat]
  refine or_iff_left fun ⟨_, hkey, hget⟩ => h ⟨hkey, ?_⟩
  simp [hget]

/-- After merging one report, a field holds what the report writes last, and what it held before if
the report does not write it. -/
theorem field?_mergeOne (h : records.Ordered) :
    Records.field? key field (mergeOne n merged records) = some v ↔
      (∃ path, WritesLast n records key field path v) ∨
        ((∀ path v', ¬ Writes n records key field path v') ∧ merged.field? key field = some v) := by
  induction records using List.reverseRecOn with
  | nil =>
    have hnone : ∀ path v', ¬ Writes n ([] : Records α) key field path v' :=
      fun _ _ ⟨_, hmem, _⟩ => List.not_mem_nil hmem
    constructor
    · exact fun hget => .inr ⟨hnone, hget⟩
    · rintro (⟨path, hwrites, -⟩ | ⟨-, hget⟩)
      · exact absurd hwrites (hnone _ _)
      · exact hget
  | append_singleton records last ih =>
    obtain ⟨lastPath, fields⟩ := last
    obtain ⟨hinit, hfields, -⟩ := h.init
    rw [mergeOne_concat, field?_update hfields]
    by_cases hlast : n.normalize lastPath = key ∧ (Table.get? field fields).isSome
    · obtain ⟨hkey, hsome⟩ := hlast
      obtain ⟨w, hw⟩ := Option.isSome_iff_exists.1 hsome
      rw [if_pos hkey.symm, hw, Option.some_or, Option.some_inj,
        exists_writesLast_concat h hkey hw]
      refine (or_iff_left fun ⟨hnone, _⟩ => ?_).symm
      exact hnone lastPath w (writes_concat.2 (.inr ⟨rfl, hkey, hw⟩))
    · simp only [WritesLast, writes_concat_of_not hlast] at ih ⊢
      rw [← ih hinit]
      split
      · next heq =>
        have hnone : Table.get? field fields = none := by
          simpa [heq] using hlast
        rw [hnone, Option.none_or]
      · rfl

theorem field?_mergeOne_isSome (h : records.Ordered) :
    (Records.field? key field (mergeOne n merged records)).isSome ↔
      (∃ path v, Writes n records key field path v) ∨ (merged.field? key field).isSome := by
  induction records using List.reverseRecOn with
  | nil =>
    refine ⟨.inr, ?_⟩
    rintro (⟨_, _, _, hmem, _⟩ | hsome)
    · exact absurd hmem List.not_mem_nil
    · exact hsome
  | append_singleton records last ih =>
    obtain ⟨lastPath, fields⟩ := last
    obtain ⟨hinit, hfields, -⟩ := h.init
    have hlast : (∃ path v, path = lastPath ∧ n.normalize lastPath = key ∧
        Table.get? field fields = some v) ↔
          n.normalize lastPath = key ∧ (Table.get? field fields).isSome := by
      simp [Option.isSome_iff_exists]
    simp only [writes_concat, exists_or, hlast]
    rw [mergeOne_concat, field?_update hfields, or_right_comm, ← ih hinit]
    split
    · next heq => simp [heq, or_comm]
    · next hne => simp [Ne.symm hne]

theorem mem_names_mergeOne :
    key ∈ Table.names (mergeOne n merged records) ↔
      key ∈ Table.names merged ∨ ∃ path ∈ Table.names records, n.normalize path = key := by
  induction records using List.reverseRecOn with
  | nil => simp [mergeOne, Table.names]
  | append_singleton records last ih =>
    obtain ⟨lastPath, fields⟩ := last
    rw [mergeOne_concat, Table.mem_names_iff, Table.get?_update]
    split
    · next heq => simp [Table.names, heq]
    · next hne =>
      rw [← Table.mem_names_iff, ih]
      simp [Table.names, or_and_right, exists_or, Ne.symm hne]

/-! ## Many reports -/

/-- The report with a given number writes a value into a field of a canonical path. -/
def WritesAt (n : Normalizer) (reports : List (Records α)) (key field : String) (i : Nat)
    (path : String) (v : Value α) : Prop :=
  ∃ records, reports[i]? = some records ∧ Writes n records key field path v

/-- No other report writes the field later, nor does this one under a greater path. -/
def WritesLastAt (n : Normalizer) (reports : List (Records α)) (key field : String) (i : Nat)
    (path : String) (v : Value α) : Prop :=
  WritesAt n reports key field i path v ∧
    ∀ j path' v', WritesAt n reports key field j path' v' → j < i ∨ (j = i ∧ path' ≤ path)

theorem WritesAt.lt {i : Nat} (h : WritesAt n reports key field i path v) : i < reports.length := by
  obtain ⟨records, hget, -⟩ := h
  exact (List.getElem?_eq_some_iff.1 hget).1

theorem writesAt_concat {i : Nat} :
    WritesAt n (reports ++ [records]) key field i path v ↔
      WritesAt n reports key field i path v ∨
        (i = reports.length ∧ Writes n records key field path v) := by
  simp only [WritesAt]
  rcases Nat.lt_trichotomy i reports.length with hlt | rfl | hgt
  · simp [List.getElem?_append_left hlt, Nat.ne_of_lt hlt]
  · simp
  · have hnone : reports[i]? = none := List.getElem?_eq_none (Nat.le_of_lt hgt)
    have hnone' : (reports ++ [records])[i]? = none :=
      List.getElem?_eq_none (by simp only [List.length_append, List.length_singleton]; omega)
    simp [hnone, hnone', Nat.ne_of_gt hgt]

theorem merge_concat :
    merge n (reports ++ [records]) = mergeOne n (merge n reports) records := by
  simp only [merge, List.foldl_append, List.foldl_cons, List.foldl_nil]

theorem field?_merge (h : ∀ records ∈ reports, records.Ordered) :
    Records.field? key field (merge n reports) = some v ↔
      ∃ i path, WritesLastAt n reports key field i path v := by
  induction reports using List.reverseRecOn with
  | nil =>
    constructor
    · exact fun hget => nomatch hget
    · exact fun ⟨i, path, hwrites, _⟩ => absurd hwrites.lt (Nat.not_lt_zero i)
  | append_singleton reports records ih =>
    have hreports : ∀ records ∈ reports, records.Ordered :=
      fun records hmem => h records (List.mem_append_left _ hmem)
    have hrecords : records.Ordered :=
      h records (List.mem_append_right _ (List.mem_singleton_self _))
    rw [merge_concat, field?_mergeOne hrecords, ih hreports]
    constructor
    · rintro (⟨path, hwrites, hmax⟩ | ⟨hnone, i, path, hwrites, hlast⟩)
      · refine ⟨reports.length, path, writesAt_concat.2 (.inr ⟨rfl, hwrites⟩), ?_⟩
        intro j path' v' h'
        rcases writesAt_concat.1 h' with hearlier | ⟨rfl, hsame⟩
        · exact .inl hearlier.lt
        · exact .inr ⟨rfl, hmax _ _ hsame⟩
      · refine ⟨i, path, writesAt_concat.2 (.inl hwrites), fun j path' v' h' => ?_⟩
        rcases writesAt_concat.1 h' with h' | ⟨-, h'⟩
        · exact hlast _ _ _ h'
        · exact absurd h' (hnone _ _)
    · rintro ⟨i, path, hwrites, hlast⟩
      rcases writesAt_concat.1 hwrites with hearlier | ⟨rfl, hsame⟩
      · refine .inr ⟨fun path' v' h' => ?_, i, path, hearlier, fun j path' v' h' =>
          hlast _ _ _ (writesAt_concat.2 (.inl h'))⟩
        have hlater := hlast _ _ _ (writesAt_concat.2 (.inr ⟨rfl, h'⟩))
        have hlt := hearlier.lt
        omega
      · refine .inl ⟨path, hsame, fun path' v' h' => ?_⟩
        rcases hlast _ _ _ (writesAt_concat.2 (.inr ⟨rfl, h'⟩)) with hlt | ⟨-, hle⟩
        · exact absurd hlt (Nat.lt_irrefl _)
        · exact hle

theorem mem_names_merge :
    key ∈ Table.names (merge n reports) ↔
      ∃ records ∈ reports, ∃ path ∈ Table.names records, n.normalize path = key := by
  induction reports using List.reverseRecOn with
  | nil => simp [merge, Table.names]
  | append_singleton reports records ih =>
    rw [merge_concat, mem_names_mergeOne, ih]
    simp [or_and_right, exists_or]

theorem field?_merge_isSome (h : ∀ records ∈ reports, records.Ordered) :
    (Records.field? key field (merge n reports)).isSome ↔
      ∃ records ∈ reports, ∃ path v, Writes n records key field path v := by
  induction reports using List.reverseRecOn with
  | nil => simp [merge, Records.field?, Table.get?]
  | append_singleton reports records ih =>
    have hreports : ∀ records ∈ reports, records.Ordered :=
      fun records hmem => h records (List.mem_append_left _ hmem)
    have hrecords : records.Ordered :=
      h records (List.mem_append_right _ (List.mem_singleton_self _))
    rw [merge_concat, field?_mergeOne_isSome hrecords, ih hreports]
    simp [or_and_right, exists_or, or_comm]

/-! ## Reports that write different fields -/

/-- Two reports write no field of a canonical path in common. -/
def Apart (n : Normalizer) (a b : Records α) : Prop :=
  ∀ key field path path' v v', Writes n a key field path v → ¬ Writes n b key field path' v'

theorem Apart.symm {a b : Records α} (h : Apart n a b) : Apart n b a :=
  fun key field path path' v v' hb ha => h key field path' path v' v ha hb

/-- If no two reports write a field in common, the one that writes it decides. -/
theorem exists_writesLastAt_iff (h : reports.Pairwise (Apart n)) :
    (∃ i path, WritesLastAt n reports key field i path v) ↔
      ∃ records ∈ reports, ∃ path, WritesLast n records key field path v := by
  constructor
  · rintro ⟨i, path, ⟨records, hget, hwrites⟩, hlast⟩
    refine ⟨records, List.mem_of_getElem? hget, path, hwrites, fun path' v' h' => ?_⟩
    rcases hlast i path' v' ⟨records, hget, h'⟩ with hlt | ⟨-, hle⟩
    · exact absurd hlt (Nat.lt_irrefl i)
    · exact hle
  · rintro ⟨records, hmem, path, hwrites, hmax⟩
    obtain ⟨i, hget⟩ := List.getElem?_of_mem hmem
    refine ⟨i, path, ⟨records, hget, hwrites⟩, ?_⟩
    rintro j path' v' ⟨other, hother, h'⟩
    by_cases hij : j = i
    · subst hij
      obtain rfl : records = other := Option.some.inj (hget.symm.trans hother)
      exact .inr ⟨rfl, hmax _ _ h'⟩
    · obtain ⟨hi, rfl⟩ := List.getElem?_eq_some_iff.1 hget
      obtain ⟨hj, rfl⟩ := List.getElem?_eq_some_iff.1 hother
      rcases Nat.lt_or_gt_of_ne hij with hlt | hgt
      · exact absurd hwrites (List.pairwise_iff_getElem.1 h _ _ hj hi hlt _ _ _ _ _ _ h')
      · exact absurd h' (List.pairwise_iff_getElem.1 h _ _ hi hj hgt _ _ _ _ _ _ hwrites)

/-- Reports that write no field in common can be merged in any order. -/
theorem merge_perm {others : List (Records α)} (h : ∀ records ∈ reports, records.Ordered)
    (hapart : reports.Pairwise (Apart n)) (hperm : others.Perm reports) :
    merge n others = merge n reports := by
  have hothers : ∀ records ∈ others, records.Ordered :=
    fun records hmem => h records (hperm.mem_iff.1 hmem)
  have hapart' : others.Pairwise (Apart n) :=
    (hperm.pairwise_iff fun h => h.symm).2 hapart
  refine (ordered_merge n others).ext (ordered_merge n reports) (fun key => ?_) fun key field => ?_
  · simp only [mem_names_merge, hperm.mem_iff]
  · refine Option.ext fun v => ?_
    simp only [field?_merge h, field?_merge hothers, exists_writesLastAt_iff hapart,
      exists_writesLastAt_iff hapart', hperm.mem_iff]

/-! ## The merged report -/

/-- Merging is exactly "the last writer wins", for every canonical path and every field of it. -/
theorem merge_last_writer_wins (n : Normalizer) (reports : List (Records α))
    (h : ∀ records ∈ reports, records.Ordered) :
    (∀ key, key ∈ Table.names (merge n reports) ↔
      ∃ records ∈ reports, ∃ path ∈ Table.names records, n.normalize path = key) ∧
    (∀ key field, (Records.field? key field (merge n reports)).isSome ↔
      ∃ records ∈ reports, ∃ path v, Writes n records key field path v) ∧
    (∀ key field v, Records.field? key field (merge n reports) = some v ↔
      ∃ i path, WritesLastAt n reports key field i path v) ∧
    (reports.Pairwise (Apart n) → ∀ others : List (Records α), others.Perm reports →
      merge n others = merge n reports) := by
  refine ⟨fun key => mem_names_merge, fun key field => field?_merge_isSome h,
    fun key field v => field?_merge h, fun hapart others hperm => ?_⟩
  exact merge_perm h hapart hperm

/-- One report spells a path in two ways, a later one in a third way. -/
theorem merge_last_writer_wins_of_spellings :
    let n : Normalizer := { repoRoot := some "/w" }
    let reports : List (Records Unit) :=
      [[("./a.py", [("hits", .ofNat 1), ("lines", .ofNat 2)]), ("a.py", [("hits", .ofNat 3)])],
        [("/w/a.py", [("lines", .ofNat 4)])]]
    (∀ records ∈ reports, records.Ordered) ∧
      Records.field? "a.py" "hits" (merge n reports) = some (.ofNat 3) := by
  intro n reports
  have hordered : ∀ records ∈ reports, records.Ordered := by
    intro records hmem
    simp only [reports, List.mem_cons, List.not_mem_nil, or_false] at hmem
    unfold Records.Ordered Table.Sorted
    rcases hmem with rfl | rfl <;> decide
  refine ⟨hordered, ((merge_last_writer_wins n reports hordered).2.2.1 _ _ _).2 ?_⟩
  refine ⟨0, "a.py", ⟨_, rfl, _, List.mem_cons_of_mem _ (List.mem_singleton_self _), by decide,
    rfl⟩, ?_⟩
  rintro j path' v' ⟨records, hget, fields, hmem, -, hfield⟩
  match j, hget with
  | 0, hget =>
    obtain rfl := Option.some.inj hget
    refine .inr ⟨rfl, ?_⟩
    simp only [List.mem_cons, List.not_mem_nil, or_false, Prod.mk.injEq] at hmem
    rcases hmem with ⟨rfl, -⟩ | ⟨rfl, -⟩ <;> decide
  | 1, hget =>
    obtain rfl := Option.some.inj hget
    simp only [List.mem_singleton, Prod.mk.injEq] at hmem
    obtain ⟨-, rfl⟩ := hmem
    exact nomatch hfield

end RefactorAudit.Report
