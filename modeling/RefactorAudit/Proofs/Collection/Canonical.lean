-- SUMMARY: Ascending lists and tables are determined by what they hold.
import RefactorAudit.Collection.Ascending
import RefactorAudit.Collection.Table
import Mathlib.Data.List.Sort

/-!
# Canonical collections

Every operation on ascending lists and tables keeps their order. Two ascending lists with the same
elements are equal, and so are two tables in order that say the same about every name.
-/

namespace RefactorAudit

/-! ## Ascending lists -/

namespace Ascending

variable {α : Type} [LE α] [LT α] [DecidableLT α] [DecidableEq α]
variable [Std.IsLinearOrder α] [Std.LawfulOrderLT α]

/-- Each element is less than all behind it. -/
def Sorted (xs : List α) : Prop := xs.Pairwise (· < ·)

omit [DecidableLT α] [DecidableEq α] in
theorem lt_of_not_lt {x y : α} (hne : x ≠ y) (h : ¬ x < y) : y < x := by
  rcases Std.lt_trichotomy x y with hlt | heq | hgt
  · exact absurd hlt h
  · exact absurd heq hne
  · exact hgt

theorem sorted_insert {x : α} {xs : List α} (h : Sorted xs) : Sorted (insert x xs) := by
  induction xs with
  | nil => exact List.pairwise_singleton _ _
  | cons y rest ih =>
    obtain ⟨hy, hrest⟩ := List.pairwise_cons.1 h
    simp only [insert]
    split
    · exact h
    · next hne =>
      split
      · next hlt =>
        refine List.pairwise_cons.2 ⟨fun z hz => ?_, h⟩
        rcases List.mem_cons.1 hz with rfl | hz
        · exact hlt
        · exact Std.lt_trans hlt (hy z hz)
      · next hnlt =>
        refine List.pairwise_cons.2 ⟨fun z hz => ?_, ih hrest⟩
        rcases mem_insert.1 hz with rfl | hz
        · exact lt_of_not_lt hne hnlt
        · exact hy z hz

theorem sorted_ofList (xs : List α) : Sorted (ofList xs) := by
  suffices h : ∀ all : List α, Sorted all → Sorted (xs.foldl (fun all x => insert x all) all) from
    h [] List.Pairwise.nil
  induction xs with
  | nil => exact fun all h => h
  | cons x rest ih => exact fun all h => ih _ (sorted_insert h)

omit [DecidableLT α] [DecidableEq α] in
/-- Equal sets are equal lists. -/
theorem Sorted.ext {xs ys : List α} (hx : Sorted xs) (hy : Sorted ys)
    (h : ∀ x, x ∈ xs ↔ x ∈ ys) : xs = ys := by
  have hirrefl : Std.Irrefl (α := α) (· < ·) := ⟨fun _ => Std.lt_irrefl⟩
  have hantisymm : Std.Antisymm (α := α) (· < ·) :=
    ⟨fun _ _ hab hba => absurd (Std.lt_trans hab hba) Std.lt_irrefl⟩
  exact List.Pairwise.eq_of_mem_iff hx hy h

end Ascending

/-! ## Tables -/

namespace Table

variable {β γ : Type}

/-- The names ascend, so that each stands for one value. -/
def Sorted (table : Table β) : Prop := table.Pairwise fun a b => a.1 < b.1

theorem sorted_nil : Sorted ([] : Table β) := List.Pairwise.nil

theorem get?_cons (name key : String) (value : β) (rest : Table β) :
    get? key ((name, value) :: rest) = if key = name then some value else get? key rest := by
  simp only [get?, eq_comm]

theorem mem_put {name : String} {value : β} {table : Table β} {pair : String × β}
    (h : pair ∈ put name value table) : pair = (name, value) ∨ pair ∈ table := by
  induction table with
  | nil => exact .inl (List.mem_singleton.1 h)
  | cons other rest ih =>
    obtain ⟨n, v⟩ := other
    simp only [put] at h
    split at h
    · rcases List.mem_cons.1 h with rfl | h
      · exact .inl rfl
      · exact .inr (List.mem_cons_of_mem _ h)
    · split at h
      · exact List.mem_cons.1 h
      · rcases List.mem_cons.1 h with rfl | h
        · exact .inr List.mem_cons_self
        · exact (ih h).imp_right (List.mem_cons_of_mem _)

theorem sorted_put {name : String} {value : β} {table : Table β} (h : Sorted table) :
    Sorted (put name value table) := by
  induction table with
  | nil => exact List.pairwise_singleton _ _
  | cons other rest ih =>
    obtain ⟨n, v⟩ := other
    obtain ⟨hn, hrest⟩ := List.pairwise_cons.1 h
    simp only [put]
    split
    · next heq => exact List.pairwise_cons.2 ⟨fun pair hp => heq ▸ hn pair hp, hrest⟩
    · next hne =>
      split
      · next hlt =>
        refine List.pairwise_cons.2 ⟨fun pair hp => ?_, h⟩
        rcases List.mem_cons.1 hp with rfl | hp
        · exact hlt
        · exact String.lt_trans hlt (hn pair hp)
      · next hnlt =>
        refine List.pairwise_cons.2 ⟨fun pair hp => ?_, ih hrest⟩
        rcases mem_put hp with rfl | hp
        · exact Ascending.lt_of_not_lt (Ne.symm hne) hnlt
        · exact hn pair hp

theorem sorted_update {name : String} {start : β} {change : β → β} {table : Table β}
    (h : Sorted table) : Sorted (update name start change table) := sorted_put h

theorem sorted_putAll {table other : Table β} (h : Sorted table) : Sorted (putAll table other) := by
  induction other generalizing table with
  | nil => exact h
  | cons pair rest ih => exact ih (sorted_put h)

theorem mem_putAll {table other : Table β} {pair : String × β} (h : pair ∈ putAll table other) :
    pair ∈ table ∨ pair ∈ other := by
  induction other generalizing table with
  | nil => exact .inl h
  | cons first rest ih =>
    rcases ih h with h | h
    · rcases mem_put h with rfl | h
      · exact .inr List.mem_cons_self
      · exact .inl h
    · exact .inr (List.mem_cons_of_mem _ h)

theorem mem_of_mem_ofList {pairs : List (String × β)} {pair : String × β}
    (h : pair ∈ ofList pairs) : pair ∈ pairs :=
  (mem_putAll h).resolve_left List.not_mem_nil

theorem sorted_ofList (pairs : List (String × β)) : Sorted (ofList pairs) :=
  sorted_putAll sorted_nil

theorem mem_of_get? {table : Table β} {name : String} {value : β}
    (h : get? name table = some value) : (name, value) ∈ table := by
  induction table with
  | nil => exact nomatch h
  | cons other rest ih =>
    obtain ⟨n, v⟩ := other
    rw [get?_cons] at h
    split at h
    · next heq =>
      cases h
      exact heq ▸ List.mem_cons_self
    · exact List.mem_cons_of_mem _ (ih h)

/-- A name that comes once stands for the value of its only pair. -/
theorem mem_iff_of_nodup {table : Table β} (h : table.names.Nodup) {name : String} {value : β} :
    (name, value) ∈ table ↔ get? name table = some value := by
  induction table with
  | nil => simp [get?]
  | cons other rest ih =>
    obtain ⟨n, v⟩ := other
    obtain ⟨hn, hrest⟩ := List.nodup_cons.1 h
    rw [List.mem_cons, get?_cons, ih hrest]
    split
    · next heq =>
      subst heq
      have hnone : get? name rest ≠ some value := fun hget =>
        hn (List.mem_map.2 ⟨(name, value), (ih hrest).2 hget, rfl⟩)
      simp [hnone, eq_comm]
    · next hne => simp [hne]

theorem Sorted.nodup {table : Table β} (h : Sorted table) : table.names.Nodup := by
  rw [names, List.Nodup, List.pairwise_map]
  refine h.imp ?_
  intro a b hlt heq
  exact String.lt_irrefl b.1 (heq ▸ hlt)

theorem Sorted.mem_iff {table : Table β} (h : Sorted table) {name : String} {value : β} :
    (name, value) ∈ table ↔ get? name table = some value := mem_iff_of_nodup h.nodup

/-- Ordered tables that say the same about every name are equal. -/
theorem Sorted.ext {a b : Table β} (ha : Sorted a) (hb : Sorted b)
    (h : ∀ name, get? name a = get? name b) : a = b := by
  have hirrefl : Std.Irrefl (α := String × β) fun a b => a.1 < b.1 :=
    ⟨fun pair => String.lt_irrefl pair.1⟩
  have hantisymm : Std.Antisymm (α := String × β) fun a b => a.1 < b.1 :=
    ⟨fun _ _ hab hba => absurd hba (String.lt_asymm hab)⟩
  refine List.Pairwise.eq_of_mem_iff ha hb fun pair => ?_
  rw [ha.mem_iff, hb.mem_iff, h]

theorem mem_names_iff {table : Table β} {name : String} :
    name ∈ table.names ↔ (get? name table).isSome := by
  induction table with
  | nil => simp [names, get?]
  | cons other rest ih =>
    obtain ⟨n, v⟩ := other
    simp only [names, List.map_cons, List.mem_cons] at ih ⊢
    rw [get?_cons, ih]
    split
    · next heq => simp [heq]
    · next hne => simp [hne]

theorem get?_append (name : String) (a b : Table β) :
    get? name (a ++ b) = (get? name a).or (get? name b) := by
  induction a with
  | nil => rfl
  | cons pair rest ih =>
    obtain ⟨n, v⟩ := pair
    rw [List.cons_append, get?_cons, get?_cons, ih]
    split <;> rfl

/-- Of several pairs of one name the last one counts, and all go before what was there. -/
theorem get?_putAll (name : String) (table other : Table β) :
    get? name (putAll table other) = (get? name other.reverse).or (get? name table) := by
  induction other generalizing table with
  | nil => rfl
  | cons pair rest ih =>
    obtain ⟨n, v⟩ := pair
    have hfold : putAll table ((n, v) :: rest) = putAll (put n v table) rest := rfl
    rw [hfold, ih, get?_put, List.reverse_cons, get?_append, get?_cons, Option.or_assoc]
    split <;> rfl

theorem get?_ofList (name : String) (pairs : List (String × β)) :
    get? name (ofList pairs) = get? name pairs.reverse := by
  rw [ofList, get?_putAll]
  exact Option.or_none

theorem mem_names_ofList {name : String} {pairs : List (String × β)} :
    name ∈ names (ofList pairs) ↔ name ∈ names pairs := by
  rw [mem_names_iff, get?_ofList, ← mem_names_iff, names, List.map_reverse, List.mem_reverse,
    ← names]

/-- Where all pairs of a name agree, it does not matter which of them counts. -/
theorem get?_ofList_of_forall {pairs : List (String × β)} {name : String} {value : β}
    (hmem : (name, value) ∈ pairs) (h : ∀ pair ∈ pairs, pair.1 = name → pair.2 = value) :
    get? name (ofList pairs) = some value := by
  rw [get?_ofList]
  have hname : name ∈ names pairs.reverse :=
    List.mem_map.2 ⟨(name, value), List.mem_reverse.2 hmem, rfl⟩
  obtain ⟨found, hfound⟩ := Option.isSome_iff_exists.1 (mem_names_iff.1 hname)
  have hvalue := h (name, found) (List.mem_reverse.1 (mem_of_get? hfound)) rfl
  rw [hfound, ← hvalue]

/-- If each pair has a name of its own, the last pair of a name is the first one. -/
theorem get?_reverse {table : Table β} (h : table.names.Nodup) (name : String) :
    get? name table.reverse = get? name table := by
  have hreverse : (names table.reverse).Nodup := by
    rw [names, List.map_reverse]
    exact List.nodup_reverse.2 h
  refine Option.ext fun value => ?_
  rw [← mem_iff_of_nodup hreverse, List.mem_reverse, mem_iff_of_nodup h]

/-- A table in order is the table of its own pairs. -/
theorem Sorted.ofList_eq {table : Table β} (h : Sorted table) : ofList table = table := by
  refine (sorted_ofList table).ext h fun name => ?_
  rw [get?_ofList, get?_reverse h.nodup]

theorem mem_names_put {name key : String} {value : β} {table : Table β} :
    key ∈ names (put name value table) ↔ key = name ∨ key ∈ names table := by
  rw [mem_names_iff, mem_names_iff, get?_put]
  split
  · next heq => simp [heq]
  · next hne => simp [hne]

/-- A name that is new adds its pair and changes no other. -/
theorem perm_put {name : String} {value : β} {table : Table β} (h : get? name table = none) :
    (put name value table).Perm ((name, value) :: table) := by
  induction table with
  | nil => exact .refl _
  | cons other rest ih =>
    obtain ⟨n, v⟩ := other
    rw [get?_cons] at h
    split at h
    · exact nomatch h
    · next hne =>
      simp only [put, if_neg (Ne.symm hne)]
      split
      · exact .refl _
      · exact ((ih h).cons _).trans (.swap _ _ _)

/-- Of pairs that have each a name of its own all are kept. -/
theorem mem_ofList_iff {pairs : List (String × β)} (h : (names pairs).Nodup) {pair : String × β} :
    pair ∈ ofList pairs ↔ pair ∈ pairs := by
  obtain ⟨name, value⟩ := pair
  rw [(sorted_ofList pairs).mem_iff, get?_ofList, get?_reverse h, mem_iff_of_nodup h]

end Table

end RefactorAudit
