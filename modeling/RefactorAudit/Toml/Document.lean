-- SUMMARY: TOML documents as tables of values.
import RefactorAudit.Collection.Table
import RefactorAudit.Toml.Scalar

/-!
# Documents

The statements of a document are put together to one table. Every value keeps the place where it is
written. A table is written once: by a header, as an inline table, or by the keys of its entries.
-/

namespace RefactorAudit.Toml

/-- How a table came to be. -/
inductive Origin where
  /-- By its own header. -/
  | header
  /-- On the way to a table with a header. -/
  | path
  /-- By keys with dots. -/
  | keys
  | inline
  deriving DecidableEq, Repr, Inhabited

/-- A value and the place where it is written. -/
inductive Item where
  | plain (place : Nat) (value : Scalar)
  | list (place : Nat) (items : List Item)
  | tables (place : Nat) (items : List Item)
  | table (place : Nat) (origin : Origin) (entries : List (String × Item))
  deriving Repr, Inhabited

namespace Item

def place : Item → Nat
  | plain place _ => place
  | list place _ => place
  | tables place _ => place
  | table place _ _ => place

end Item

/-- A part of a key with its place. -/
structure KeyPart where
  place : Nat
  name : String
  deriving DecidableEq, Repr, Inhabited

def KeyPart.ofPiece (piece : Piece) : Except Fault KeyPart :=
  (Scalar.readKey piece).map fun name => { place := piece.start, name }

/-- How many parts a key may have. -/
def pathLimit : Nat := 80

/-- The parts of a key as it is written. -/
def readPath (pieces : List Piece) : Except Fault (List KeyPart) := do
  let path ← pieces.mapM KeyPart.ofPiece
  if path.length > pathLimit then throw .tooDeep
  return path

/-- The entries of a table. -/
abbrev Entries := Table Item

/-- A fault at a part of a key. -/
def KeyPart.refuse {β : Type} (part : KeyPart) : Except Fault β := .error (.malformed part.place)

/-! ## Entries -/

/-- Adds an entry to a table. The parts of its key before the last lead through tables that keys
have made; `origin` tells how the table itself came to be. -/
def addEntry (origin : Origin) (entries : Entries) (path : List KeyPart) (item : Item) :
    Except Fault Entries :=
  match path with
  | [] => .ok entries
  | [part] =>
    match entries.get? part.name with
    | some _ => part.refuse
    | none => .ok (entries.put part.name item)
  | part :: next :: rest =>
    match entries.get? part.name with
    | none => do
      let inner ← addEntry .keys [] (next :: rest) item
      return entries.put part.name (.table part.place .keys inner)
    | some (.table place .keys inner) => do
      return entries.put part.name (.table place .keys (← addEntry .keys inner (next :: rest) item))
    | some (.table _ .path _) =>
      if rest.isEmpty && origin ≠ .inline then next.refuse else part.refuse
    | some _ => part.refuse

mutual

/-- The value that is written. -/
def Written.item : Written → Except Fault Item
  | .plain piece => (Scalar.ofPiece piece).map (.plain piece.start)
  | .list start items => (itemsOf items).map (.list start)
  | .inline start entries => (entriesOf [] entries).map (.table start .inline)

def itemsOf : List Written → Except Fault (List Item)
  | [] => .ok []
  | w :: rest => do
    let item ← w.item
    return item :: (← itemsOf rest)

/-- Adds the entries of an inline table. -/
def entriesOf (found : Entries) : List (List Piece × Written) → Except Fault Entries
  | [] => .ok found
  | (key, w) :: rest => do
    let path ← readPath key
    let item ← w.item
    entriesOf (← addEntry .inline found path item) rest

end

/-! ## Headers -/

/-- Changes the table at the end of a path from a table, making tables on the way where there are
none. In a list of tables the way goes through the last one. -/
def within (change : Entries → Except Fault Entries) :
    List KeyPart → Entries → Except Fault Entries
  | [], entries => change entries
  | part :: rest, entries =>
    match entries.get? part.name with
    | none => do
      return entries.put part.name (.table part.place .path (← within change rest []))
    | some (.table place origin inner) =>
      if origin = .inline then part.refuse
      else do return entries.put part.name (.table place origin (← within change rest inner))
    | some (.tables place items) =>
      match items.getLast? with
      | some (.table inside origin inner) => do
        let last := Item.table inside origin (← within change rest inner)
        return entries.put part.name (.tables place (items.dropLast ++ [last]))
      | _ => part.refuse
    | some _ => part.refuse

/-- Opens the table of a header. -/
def openTable (start : Nat) (part : KeyPart) (entries : Entries) : Except Fault Entries :=
  match entries.get? part.name with
  | none => .ok (entries.put part.name (.table start .header []))
  | some (.table _ .path inner) => .ok (entries.put part.name (.table start .header inner))
  | some _ => part.refuse

/-- Opens one more table of a list of tables. -/
def openListed (start : Nat) (part : KeyPart) (entries : Entries) : Except Fault Entries :=
  let table := Item.table start .header []
  match entries.get? part.name with
  | none => .ok (entries.put part.name (.tables start [table]))
  | some (.tables place items) => .ok (entries.put part.name (.tables place (items ++ [table])))
  | some _ => part.refuse

/-- The document so far, and the path of the table that is open. -/
structure Draft where
  root : Entries := []
  current : List KeyPart := []
  deriving Inhabited

/-- Takes up one statement. -/
def Draft.step (d : Draft) : Statement → Except Fault Draft
  | .header start listed path => do
    let path ← readPath path
    match path.getLast? with
    | none => return d
    | some part =>
      let change := if listed then openListed start part else openTable start part
      return { root := ← within change path.dropLast d.root, current := path }
  | .entry key value => do
    let path ← readPath key
    let item ← value.item
    let change (entries : Entries) := addEntry .header entries path item
    return { d with root := ← within change d.current d.root }

/-- The table that a document stands for. -/
def readEntries (text : String) : Except Fault Entries := do
  let statements ← Statement.ofDocument text.toList
  let draft ← statements.foldlM Draft.step {}
  return draft.root

/-! ## Places -/

/-- The line and the column of a place, both from one. The end of the text belongs to its last line.
Columns count characters; before a character of several bytes they count bytes. -/
def lineAndColumn (text : List Char) (place : Nat) : Nat × Nat :=
  let inside := min place (text.length - 1)
  let before := text.take inside
  let line := before.reverse.takeWhile (· ≠ '\n')
  let wide := place < text.length && (text[inside]?).any fun c => c.toNat ≥ 128
  let column := if wide then (String.ofList line).utf8ByteSize else line.length
  (before.count '\n' + 1, column + (place - inside) + 1)

/-- The wording of a fault. -/
def Fault.message (text : String) : Fault → String
  | .malformed place =>
    let (line, column) := lineAndColumn text.toList place
    s!"TOML parse error at line {line}, column {column}"
  | .tooDeep => "recursion limit\n"

end RefactorAudit.Toml
