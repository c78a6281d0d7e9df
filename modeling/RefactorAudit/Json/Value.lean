-- SUMMARY: JSON values, with objects as sorted tables.
import RefactorAudit.Collection.Table

/-!
# JSON values

A number keeps whether it was written as a whole number. The fields of an object are a table. The
kind of the other numbers is left open: documents hold floats.
-/

namespace RefactorAudit.Json

/-- A number: whole numbers of up to 64 bits are exact, all others are of the given kind. -/
inductive Number (α : Type := Float) where
  | int (value : Int)
  | float (value : α)
  deriving DecidableEq, Repr, Inhabited

inductive Value (α : Type := Float) where
  | null
  | bool (value : Bool)
  | number (value : Number α)
  | string (value : String)
  | array (items : List (Value α))
  | object (fields : List (String × Value α))
  deriving Repr, Inhabited

/-- The fields of an object. -/
abbrev Fields (α : Type := Float) := Table (Value α)

namespace Number

variable {α : Type}

def ofNat (n : Nat) : Number α := .int n

/-- The number if it is whole and not negative. -/
def toNat? : Number α → Option Nat
  | int v => if v ≥ 0 then some v.toNat else none
  | float _ => none

end Number

namespace Value

variable {α : Type}

def ofNat (n : Nat) : Value α := .number (.int n)

def ofFloat (x : α) : Value α := .number (.float x)

def ofStrings (items : List String) : Value α := .array (items.map .string)

/-- An object of the given fields. -/
def ofFields (pairs : List (String × Value α)) : Value α := .object (Table.ofList pairs)

/-- A field of an object. -/
def get? (name : String) : Value α → Option (Value α)
  | object fields => Table.get? name fields
  | _ => none

def number? : Value α → Option (Number α)
  | number n => some n
  | _ => none

def string? : Value α → Option String
  | string s => some s
  | _ => none

def array? : Value α → Option (List (Value α))
  | array items => some items
  | _ => none

def object? : Value α → Option (Fields α)
  | object fields => some fields
  | _ => none

end Value

end RefactorAudit.Json
