-- SUMMARY: Sets as ascending lists.

/-!
# Ascending lists

A finite set is kept as a list in ascending order, each element once. Equal sets are equal lists.
-/

namespace RefactorAudit.Ascending

variable {α : Type} [LT α] [DecidableLT α] [DecidableEq α]

/-- Puts an element in its place, if it is not there yet. -/
def insert (x : α) : List α → List α
  | [] => [x]
  | y :: rest =>
    if x = y then y :: rest
    else if x < y then x :: y :: rest
    else y :: insert x rest

/-- The elements of a list, ascending, each once. -/
def ofList (xs : List α) : List α := xs.foldl (fun all x => insert x all) []

@[simp] theorem mem_insert {x y : α} {xs : List α} : y ∈ insert x xs ↔ y = x ∨ y ∈ xs := by
  induction xs with
  | nil => simp [insert]
  | cons z rest ih =>
    simp only [insert]
    split
    · next h => subst h; simp
    · split
      · simp
      · simp only [List.mem_cons, ih]
        constructor
        · rintro (h | h | h) <;> simp [h]
        · rintro (h | h | h) <;> simp [h]

@[simp] theorem mem_ofList {y : α} {xs : List α} : y ∈ ofList xs ↔ y ∈ xs := by
  suffices h : ∀ all : List α, y ∈ xs.foldl (fun all x => insert x all) all ↔ y ∈ all ∨ y ∈ xs by
    simpa [ofList] using h []
  induction xs with
  | nil => simp
  | cons x rest ih =>
    intro all
    simp only [List.foldl_cons, ih, mem_insert, List.mem_cons]
    constructor
    · rintro ((h | h) | h) <;> simp [h]
    · rintro (h | h | h) <;> simp [h]

end RefactorAudit.Ascending
