-- SUMMARY: JSON values as text.
import RefactorAudit.Json.Value
import RefactorAudit.Decimal.Layout

/-!
# JSON text

Values are written on one line, or one item a line with an indentation of two blanks a level. In
strings only quotes, backslashes and control characters are escaped.
-/

namespace RefactorAudit.Json

private def hexDigit (n : Nat) : Char := "0123456789abcdef".toList.getD n '0'

/-- A character inside a string. -/
def escapeChar (c : Char) : List Char :=
  if c = '"' then ['\\', '"']
  else if c = '\\' then ['\\', '\\']
  else if c = '\n' then ['\\', 'n']
  else if c = '\r' then ['\\', 'r']
  else if c = '\t' then ['\\', 't']
  else if c = '\x08' then ['\\', 'b']
  else if c = '\x0c' then ['\\', 'f']
  else if c.toNat < 32 then
    ['\\', 'u', '0', '0', hexDigit (c.toNat / 16), hexDigit (c.toNat % 16)]
  else [c]

/-- A string with its quotes. -/
def quote (s : String) : String :=
  String.ofList ('"' :: s.toList.flatMap escapeChar ++ ['"'])

/-- A number; what is not a number is written as `null`. -/
def Number.text : Number → String
  | .int v => toString v
  | .float v => Decimal.jsonLayout.float v

namespace Value

/-- Joins texts with commas. -/
def commas (separator : String) (parts : List String) : String := separator.intercalate parts

mutual

/-- The value on one line, without blanks. -/
def compact : Value → String
  | null => "null"
  | bool b => if b then "true" else "false"
  | number n => n.text
  | string s => quote s
  | array items => "[" ++ commas "," (compactItems items) ++ "]"
  | object fields => "\x7b" ++ commas "," (compactFields fields) ++ "\x7d"

def compactItems : List Value → List String
  | [] => []
  | v :: rest => v.compact :: compactItems rest

def compactFields : List (String × Value) → List String
  | [] => []
  | (name, v) :: rest => (quote name ++ ":" ++ v.compact) :: compactFields rest

end

/-- Surrounds the parts of a list or object with brackets, one part a line. -/
def block (opening closing indent : String) (parts : List String) : String :=
  if parts.isEmpty then opening ++ closing
  else
    opening ++ "\n" ++ commas ",\n" (parts.map (indent ++ "  " ++ ·)) ++ "\n" ++ indent ++ closing

mutual

/-- The value with one item a line. -/
def pretty (indent : String) : Value → String
  | null => "null"
  | bool b => if b then "true" else "false"
  | number n => n.text
  | string s => quote s
  | array items => block "[" "]" indent (prettyItems (indent ++ "  ") items)
  | object fields => block "\x7b" "\x7d" indent (prettyFields (indent ++ "  ") fields)

def prettyItems (indent : String) : List Value → List String
  | [] => []
  | v :: rest => v.pretty indent :: prettyItems indent rest

def prettyFields (indent : String) : List (String × Value) → List String
  | [] => []
  | (name, v) :: rest => (quote name ++ ": " ++ v.pretty indent) :: prettyFields indent rest

end

end Value

end RefactorAudit.Json
