-- SUMMARY: Tables from names to values, sorted by name.

/-!
# Tables

A table holds one value a name. Its pairs are kept in ascending order of the names, so equal tables
are equal lists; `get?` is what a table says about a name.
-/

namespace RefactorAudit

/-- Pairs of a name and a value, in ascending order of the names. -/
abbrev Table (β : Type) := List (String × β)

namespace Table

variable {β : Type}

/-- The value of a name. -/
def get? (name : String) : Table β → Option β
  | [] => none
  | (n, v) :: rest => if n = name then some v else get? name rest

/-- Sets the value of a name in its place. -/
def put (name : String) (value : β) : Table β → Table β
  | [] => [(name, value)]
  | (n, v) :: rest =>
    if n = name then (name, value) :: rest
    else if name < n then (name, value) :: (n, v) :: rest
    else (n, v) :: put name value rest

/-- Takes over all pairs of another table. -/
def putAll (table other : Table β) : Table β :=
  other.foldl (fun all (name, value) => put name value all) table

/-- The table of a list of pairs; of several pairs of one name the last one counts. -/
def ofList (pairs : List (String × β)) : Table β := putAll [] pairs

/-- Changes the value of a name, starting from a given one if there is none. -/
def update (name : String) (start : β) (change : β → β) (table : Table β) : Table β :=
  put name (change ((get? name table).getD start)) table

/-- The names of a table. -/
def names (table : Table β) : List String := table.map (·.1)

/-- A name is set by `put` and by nothing else. -/
theorem get?_put (name key : String) (value : β) (table : Table β) :
    get? key (put name value table) = if key = name then some value else get? key table := by
  induction table with
  | nil => simp [put, get?, eq_comm]
  | cons pair rest ih =>
    obtain ⟨n, v⟩ := pair
    simp only [put]
    split
    · next h => subst h; simp only [get?, eq_comm]; split <;> simp_all
    · split
      · simp only [get?, eq_comm]
      · simp only [get?, ih]; split <;> simp_all

/-- An update changes the value of its name only. -/
theorem get?_update (name key : String) (start : β) (change : β → β) (table : Table β) :
    get? key (update name start change table)
      = if key = name then some (change ((get? name table).getD start)) else get? key table :=
  get?_put ..

end Table

end RefactorAudit
