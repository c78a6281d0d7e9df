-- SUMMARY: Shapes that a JSON value may be required to have, and how a value misses one.
import RefactorAudit.Json.Printer
import RefactorAudit.Text.Quoted

/-!
# Shapes

A shape says which values are accepted in some place of a document. A record has named fields, some
required; fields that it does not name are passed over. It may also be written as a list of its
fields in order.
-/

namespace RefactorAudit.Json

inductive Shape where
  /-- Every value. -/
  | any
  | text (what : String)
  /-- A whole number from zero up to a limit. -/
  | natural (what : String) (limit : Nat)
  | float
  | list (item : Shape)
  /-- An object whose fields all have one shape. -/
  | map (item : Shape)
  | record (name : String) (fields : List (String × Bool × Shape))
  /-- The value or `null`. -/
  | nullable (item : Shape)
  deriving Inhabited

/-- What a shape asks for, as messages say it. -/
def Shape.what : Shape → String
  | any => "any valid JSON value"
  | text what => what
  | natural what _ => what
  | float => "f64"
  | list _ => "a sequence"
  | map _ => "a map"
  | record name _ => "struct " ++ name
  | nullable _ => "option"

/-- How a value misses its shape. -/
inductive Mismatch where
  | type (found expected : String)
  | value (found expected : String)
  | length (found : Nat) (expected : String)
  | missing (field : String)
  | duplicate (field : String)
  deriving DecidableEq, Repr, Inhabited

def Mismatch.message : Mismatch → String
  | type found expected => s!"invalid type: {found}, expected {expected}"
  | value found expected => s!"invalid value: {found}, expected {expected}"
  | length found expected => s!"invalid length {found}, expected {expected}"
  | missing field => s!"missing field `{field}`"
  | duplicate field => s!"duplicate field `{field}`"

/-- A number as messages name it. -/
def Number.described : Number → String
  | .int v => s!"integer `{v}`"
  | .float v => s!"floating point `{(Number.float v).text}`"

/-- A value as messages name it. -/
def Value.described : Value → String
  | null => "null"
  | bool b => s!"boolean `{b}`"
  | number n => n.described
  | string s => "string " ++ Text.quoted s
  | array _ => "sequence"
  | object _ => "map"

/-- A number where a whole number or a float is asked for. -/
def Number.fit (n : Number) (shape : Shape) : Except Mismatch Value :=
  match shape, n with
  | .natural what limit, .int v =>
    if 0 ≤ v ∧ v ≤ limit then .ok (.number n) else .error (.value n.described what)
  | .float, _ => .ok (.number n)
  | .any, _ => .ok (.number n)
  | shape, _ => .error (.type n.described shape.what)

/-- What a record asks for when it is written as a list. -/
def recordLength (name : String) (count : Nat) : String :=
  let ending := if count = 1 then "" else "s"
  s!"struct {name} with {count} element{ending}"

/-- The first required field that is absent. -/
def missingField (fields : List (String × Bool × Shape)) (found : Fields) : Option String :=
  (fields.find? fun (name, required, _) => required && (found.get? name).isNone).map (·.1)

mutual

/-- A value where a shape is asked for. -/
def Shape.check : Shape → Value → Except Mismatch Value
  | .any, v => .ok v
  | .text what, v =>
    match v with
    | .string s => .ok (.string s)
    | v => .error (.type v.described what)
  | .natural what limit, v =>
    match v with
    | .number n => n.fit (.natural what limit)
    | v => .error (.type v.described what)
  | .float, v =>
    match v with
    | .number n => .ok (.number n)
    | v => .error (.type v.described "f64")
  | .nullable item, v =>
    match v with
    | .null => .ok .null
    | v => item.check v
  | .list item, v =>
    match v with
    | .array items => (items.mapM item.check).map .array
    | v => .error (.type v.described "a sequence")
  | .map item, v =>
    match v with
    | .object fields =>
      (fields.mapM fun (entry : String × Value) =>
        (item.check entry.2).map fun v => (entry.1, v)).map .object
    | v => .error (.type v.described "a map")
  | .record name fields, v =>
    match v with
    | .object found => do
      let kept ← found.filterMapM fun (entry : String × Value) =>
        match checkField fields entry.1 entry.2 with
        | some result => result.map fun v => some (entry.1, v)
        | none => .ok none
      match missingField fields kept with
      | some field => .error (.missing field)
      | none => .ok (.object kept)
    | v => .error (.type v.described ("struct " ++ name))

/-- A value in the field of a record; nothing if the record does not name the field. -/
def checkField : List (String × Bool × Shape) → String → Value → Option (Except Mismatch Value)
  | [], _, _ => none
  | (name, _, shape) :: rest, key, v =>
    if name = key then some (shape.check v) else checkField rest key v

end

end RefactorAudit.Json
