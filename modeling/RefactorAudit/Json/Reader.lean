-- SUMMARY: JSON text as values, with the place of the first fault.
import RefactorAudit.Json.Shape

/-!
# Reading JSON

A document is read once from left to right and checked against a shape on the way, so that the first
fault in the text is reported, be it one of notation or of shape. A fault stands at a byte of the
text. Lists and objects nest at most 127 deep.
-/

namespace RefactorAudit.Json

/-- What is wrong with a document. -/
inductive Problem where
  | endsInValue
  | endsInString
  | endsInList
  | endsInObject
  | expectedColon
  | expectedListEnd
  | expectedObjectEnd
  | expectedIdent
  | expectedValue
  | invalidEscape
  | invalidNumber
  | numberRange
  | controlCharacter
  | keyNotString
  | loneSurrogate
  | brokenSurrogate
  | trailingComma
  | trailingText
  | tooDeep
  | mismatch (how : Mismatch)
  deriving DecidableEq, Repr, Inhabited

def Problem.message : Problem → String
  | endsInValue => "EOF while parsing a value"
  | endsInString => "EOF while parsing a string"
  | endsInList => "EOF while parsing a list"
  | endsInObject => "EOF while parsing an object"
  | expectedColon => "expected `:`"
  | expectedListEnd => "expected `,` or `]`"
  | expectedObjectEnd => "expected `,` or `\x7d`"
  | expectedIdent => "expected ident"
  | expectedValue => "expected value"
  | invalidEscape => "invalid escape"
  | invalidNumber => "invalid number"
  | numberRange => "number out of range"
  | controlCharacter => "control character (\\u0000-\\u001F) found while parsing a string"
  | keyNotString => "key must be a string"
  | loneSurrogate => "lone leading surrogate in hex escape"
  | brokenSurrogate => "unexpected end of hex escape"
  | trailingComma => "trailing comma"
  | trailingText => "trailing characters"
  | tooDeep => "recursion limit exceeded"
  | mismatch how => how.message

/-- A fault; one of shape gets its place when the value around it ends. -/
structure Fault where
  problem : Problem
  /-- Bytes before the fault. -/
  offset : Option Nat
  deriving DecidableEq, Repr, Inhabited

/-- Line, counted from one, and bytes in the line before a byte of a text. -/
def place (text : List Char) (offset : Nat) : Nat × Nat :=
  go text 0 1 0
where
  /-- Counts on from a character that starts after `done` bytes. -/
  go : List Char → Nat → Nat → Nat → Nat × Nat
    | [], done, line, lineStart => (line, min offset done - lineStart)
    | c :: rest, done, line, lineStart =>
      if offset ≤ done then (line, offset - lineStart)
      else if c = '\n' then go rest (done + 1) (line + 1) (done + 1)
      else go rest (done + c.utf8Size) line lineStart

/-- A fault with its place in the text. -/
def Fault.message (text : String) (f : Fault) : String :=
  match f.offset with
  | none => f.problem.message
  | some offset =>
    let (line, column) := place text.toList offset
    s!"{f.problem.message} at line {line} column {column}"

/-! ## Characters -/

/-- What is still to be read. -/
structure Cursor where
  rest : List Char
  /-- Bytes read. -/
  offset : Nat := 0
  deriving Inhabited

abbrev ReadM := ExceptT Fault (StateM Cursor)

namespace ReadM

def peek : ReadM (Option Char) := do return (← get).rest.head?

def eat : ReadM Unit := modify fun c =>
  match c.rest with
  | [] => c
  | ch :: rest => ⟨rest, c.offset + ch.utf8Size⟩

/-- A fault behind the last byte read. -/
def fail (p : Problem) : ReadM α := do throw ⟨p, some (← get).offset⟩

/-- A fault at the next byte. -/
def failAhead (p : Problem) : ReadM α := do
  let c ← get
  throw ⟨p, some (if c.rest.isEmpty then c.offset else c.offset + 1)⟩

def mismatch (how : Mismatch) : ReadM α := throw ⟨.mismatch how, none⟩

/-- Gives the faults of shape in a part of the document their place, behind what was read of it. -/
def placed (m : ReadM α) : ReadM α := fun c =>
  match m c with
  | (.error ⟨p, none⟩, c) => (.error ⟨p, some c.offset⟩, c)
  | r => r

def isSpace (c : Char) : Bool := c = ' ' || c = '\n' || c = '\t' || c = '\r'

/-- Skips blanks. -/
def skipBlanks : ReadM (Option Char) := do
  modify fun c => ⟨c.rest.dropWhile isSpace, c.offset + (c.rest.takeWhile isSpace).length⟩
  peek

/-- Reads the rest of a word. -/
def word : List Char → ReadM Unit
  | [] => return
  | expected :: rest => do
    match ← peek with
    | none => fail .endsInValue
    | some c =>
      if c ≠ expected then failAhead .expectedIdent
      eat
      word rest

/-! ## Strings -/

def hexValue (c : Char) : Option Nat :=
  if c.isDigit then some (c.toNat - '0'.toNat)
  else if 'a' ≤ c && c ≤ 'f' then some (c.toNat - 'a'.toNat + 10)
  else if 'A' ≤ c && c ≤ 'F' then some (c.toNat - 'A'.toNat + 10)
  else none

/-- The number that four hexadecimal digits stand for. -/
def hexNumber : List Char → Option Nat
  | [a, b, c, d] => do
    return (((← hexValue a) * 16 + (← hexValue b)) * 16 + (← hexValue c)) * 16 + (← hexValue d)
  | _ => none

/-- Four hexadecimal digits. A fault stands behind four bytes. -/
def fourHex : ReadM Nat := do
  let c ← get
  let left := c.rest.foldl (fun n ch => n + ch.utf8Size) 0
  if left < 4 then throw ⟨.endsInString, some (c.offset + left)⟩
  match hexNumber (c.rest.take 4) with
  | some n =>
    set (⟨c.rest.drop 4, c.offset + 4⟩ : Cursor)
    return n
  | none => throw ⟨.invalidEscape, some (c.offset + 4)⟩

/-- Reads one expected character of a second escape; a fault stands behind the byte found
instead. -/
def expectInPair (expected : Char) : ReadM Unit := do
  match ← peek with
  | none => fail .endsInString
  | some c => if c = expected then eat else failAhead .brokenSurrogate

/-- A character given by number, or by two numbers that form a pair. -/
def unicodeEscape : ReadM Char := do
  let n ← fourHex
  if 0xDC00 ≤ n && n ≤ 0xDFFF then fail .loneSurrogate
  else if n < 0xD800 || n > 0xDBFF then return Char.ofNat n
  else
    expectInPair '\\'
    expectInPair 'u'
    let m ← fourHex
    if m < 0xDC00 || m > 0xDFFF then fail .loneSurrogate
    return Char.ofNat ((n - 0xD800) * 1024 + (m - 0xDC00) + 0x10000)

/-- The character that an escape of one character stands for. -/
def plainEscape? : Char → Option Char
  | '"' => some '"'
  | '\\' => some '\\'
  | '/' => some '/'
  | 'b' => some '\x08'
  | 'f' => some '\x0c'
  | 'n' => some '\n'
  | 'r' => some '\r'
  | 't' => some '\t'
  | _ => none

/-- The character that an escape stands for. -/
def escape : ReadM Char := do
  match ← peek with
  | none => fail .endsInString
  | some 'u' =>
    eat
    unicodeEscape
  | some c =>
    match plainEscape? c with
    | some meant =>
      eat
      return meant
    | none => failAhead .invalidEscape

/-- The rest of a string, its opening quote read. -/
def stringRest : Nat → List Char → ReadM String
  | 0, _ => fail .endsInString
  | fuel + 1, read => do
    match ← peek with
    | none => fail .endsInString
    | some '"' =>
      eat
      return String.ofList read.reverse
    | some '\\' =>
      eat
      stringRest fuel ((← escape) :: read)
    | some c =>
      eat
      if c.toNat < 32 then fail .controlCharacter else stringRest fuel (c :: read)

def string : ReadM String := do stringRest ((← get).rest.length + 1) []

/-! ## Numbers -/

def isDigit (c : Char) : Bool := c.isDigit

def digitValue (c : Char) : Nat := c.toNat - '0'.toNat

/-- The digits ahead, taken. -/
def digits : ReadM (List Char) := fun c =>
  let ds := c.rest.takeWhile isDigit
  (.ok ds, ⟨c.rest.dropWhile isDigit, c.offset + ds.length⟩)

/-- The largest whole number that is kept exact. -/
def wholeLimit : Nat := Nat.pow 2 64 - 1

/-- Takes digits into a number as long as it stays within the limit; the digits that are left over
come back. -/
def gather : Nat → List Char → Nat × List Char
  | n, [] => (n, [])
  | n, d :: ds =>
    let m := n * 10 + digitValue d
    if m > wholeLimit then (n, d :: ds) else gather m ds

/-- A power of ten as a float. -/
def tenTo (n : Nat) : Float := Float.ofScientific 1 false n

/-- Scales a whole number by a power of ten, in floats: one product or quotient, for very small
numbers several quotients. -/
def scale (fuel : Nat) (x : Float) (exponent : Int) : Option Float :=
  if exponent.natAbs ≤ 308 then
    if exponent ≥ 0 then
      let y := x * tenTo exponent.toNat
      if y.isInf then none else some y
    else some (x / tenTo exponent.natAbs)
  else if x == 0 then some x
  else if exponent ≥ 0 then none
  else match fuel with
    | 0 => some 0
    | fuel + 1 => scale fuel (x / tenTo 308) (exponent + 308)

/-- The float with the given digits and exponent. -/
def floatOf (negative : Bool) (n : Nat) (exponent : Int) : ReadM Number := do
  match scale 64 (Float.ofNat n) exponent with
  | some x => return .float (if negative then -x else x)
  | none => fail .numberRange

/-- The largest exponent that is counted. -/
def exponentLimit : Nat := Nat.pow 2 31 - 1

/-- Takes digits into an exponent; nothing if it is too large. -/
def gatherExponent : Nat → ReadM (Option Nat)
  | n => do
    let ds ← digits
    return ds.foldl (fun e d => e.bind fun e =>
      let m := e * 10 + digitValue d
      if m > exponentLimit then none else some m) (some n)

/-- The part of a number from its exponent on. -/
def exponentPart (negative : Bool) (n : Nat) (exponent : Int) : ReadM Number := do
  eat
  let down ← match ← peek with
    | some '+' => eat; pure false
    | some '-' => eat; pure true
    | _ => pure false
  match ← peek with
  | none => fail .endsInValue
  | some c =>
    if !c.isDigit then failAhead .invalidNumber
    eat
    let start ← get
    match ← gatherExponent (digitValue c) with
    | some e => floatOf negative n (if down then exponent - e else exponent + e)
    | none =>
      if n ≠ 0 && !down then
        -- the fault stands behind the digit that is one too many
        let small := overflowAt (digitValue c) start.rest
        throw ⟨.numberRange, some (start.offset + small)⟩
      else return .float (if negative then -0.0 else 0.0)
where
  /-- How many digits are read until the exponent is too large. -/
  overflowAt : Nat → List Char → Nat
    | _, [] => 0
    | e, d :: ds =>
      let m := e * 10 + digitValue d
      if m > exponentLimit then 1 else 1 + overflowAt m ds

def isExponentMark : Option Char → Bool
  | some c => c = 'e' || c = 'E'
  | none => false

/-- The part of a number from its point on. -/
def fractionPart (negative : Bool) (n : Nat) (exponent : Int) : ReadM Number := do
  eat
  let ds ← digits
  if ds.isEmpty then
    match ← peek with
    | some _ => failAhead .invalidNumber
    | none => failAhead .endsInValue
  let (n', left) := gather n ds
  let exponent := exponent - ((ds.length - left.length : Nat) : Int)
  if isExponentMark (← peek) then exponentPart negative n' exponent
  else floatOf negative n' exponent

/-- A number behind its sign. -/
def number (negative : Bool) : ReadM Number := do
  match ← peek with
  | none => fail .endsInValue
  | some '0' =>
    eat
    match ← peek with
    | some c => if c.isDigit then failAhead .invalidNumber else finish 0 0
    | none => finish 0 0
  | some c =>
    if !c.isDigit then failAhead .invalidNumber
    let ds ← digits
    let (n, left) := gather 0 ds
    finish n left.length
where
  /-- What follows the digits; `dropped` of them are not in `n`. -/
  finish (n dropped : Nat) : ReadM Number := do
    match ← peek with
    | some '.' => fractionPart negative n dropped
    | some 'e' | some 'E' => exponentPart negative n dropped
    | _ =>
      if dropped > 0 then floatOf negative n dropped
      else if !negative then return .int n
      else if n = 0 || n > Nat.pow 2 63 then return .float (-(Float.ofNat n))
      else return .int (-(n : Int))

/-! ## Values that are passed over -/

/-- Passes over a string, its opening quote read. Numbers of characters are not looked at. -/
def skipString : Nat → ReadM Unit
  | 0 => fail .endsInString
  | fuel + 1 => do
    match ← peek with
    | none => fail .endsInString
    | some '"' => eat
    | some '\\' =>
      eat
      match ← peek with
      | none => fail .endsInString
      | some c =>
        if c ≠ 'u' && (plainEscape? c).isNone then failAhead .invalidEscape
        eat
        if c = 'u' then
          let _ ← fourHex
        skipString fuel
    | some c => if c.toNat < 32 then fail .controlCharacter else do eat; skipString fuel

/-- Reads one digit. -/
def demandDigit : ReadM Unit := do
  if !((← peek).elim false Char.isDigit) then failAhead .invalidNumber
  eat

def skipExponent : ReadM Unit := do
  eat
  match ← peek with
  | some '+' | some '-' => eat
  | _ => pure ()
  demandDigit
  let _ ← digits

/-- Passes over a number behind its sign. -/
def skipNumber : ReadM Unit := do
  let first ← peek
  demandDigit
  if first = some '0' then
    if ((← peek).elim false Char.isDigit) then failAhead .invalidNumber
  else
    let _ ← digits
  if (← peek) = some '.' then
    eat
    if (← digits).isEmpty then failAhead .invalidNumber
  if isExponentMark (← peek) then skipExponent

/-- Passes over a value. `frames` are the open brackets around it, innermost first. -/
def skipValue : Nat → List Char → ReadM Unit
  | 0, _ => fail .endsInValue
  | fuel + 1, frames => do
    match ← skipBlanks with
    | none => failAhead .endsInValue
    | some c =>
      if c = '[' || c = '\x7b' then
        eat
        skipMore fuel false (c :: frames)
      else
        match c with
        | 'n' => eat; word "ull".toList
        | 't' => eat; word "rue".toList
        | 'f' => eat; word "alse".toList
        | '-' => eat; skipNumber
        | '"' => eat; skipString ((← get).rest.length + 1)
        | _ => if c.isDigit then skipNumber else failAhead .expectedValue
        skipMore fuel true frames
where
  /-- Goes on after a value or an opening bracket. -/
  skipMore : Nat → Bool → List Char → ReadM Unit
    | _, _, [] => return
    | 0, _, _ => fail .endsInValue
    | fuel + 1, afterValue, frame :: frames => do
      let inList := frame = '['
      match ← skipBlanks with
      | none => failAhead (if inList then .endsInList else .endsInObject)
      | some c =>
        if c = ',' && afterValue then
          eat
          item fuel frame frames
        else if (c = ']' && inList) || (c = '\x7d' && !inList) then
          eat
          skipMore fuel true frames
        else if afterValue then
          failAhead (if inList then .expectedListEnd else .expectedObjectEnd)
        else item fuel frame frames
  /-- The next item of a list or object. -/
  item : Nat → Char → List Char → ReadM Unit
    | 0, _, _ => fail .endsInValue
    | fuel + 1, frame, frames => do
      if frame ≠ '[' then
        match ← skipBlanks with
        | some '"' => eat
        | some _ => failAhead .keyNotString
        | none => failAhead .endsInObject
        skipString ((← get).rest.length + 1)
        match ← skipBlanks with
        | some ':' => eat
        | some _ => failAhead .expectedColon
        | none => failAhead .endsInObject
      skipValue fuel (frame :: frames)

/-! ## Values -/

/-- Looks for the next item of a list. -/
def nextItem (first : Bool) : ReadM Bool := do
  match ← skipBlanks with
  | none => failAhead .endsInList
  | some ']' => return false
  | some c =>
    if first then return true
    else if c = ',' then
      eat
      match ← skipBlanks with
      | some ']' => failAhead .trailingComma
      | some _ => return true
      | none => failAhead .endsInValue
    else failAhead .expectedListEnd

/-- Looks for the next key of an object. -/
def nextKey (first : Bool) : ReadM Bool := do
  match ← skipBlanks with
  | none => failAhead .endsInObject
  | some '\x7d' => return false
  | some c =>
    if first then if c = '"' then return true else failAhead .keyNotString
    else if c = ',' then
      eat
      match ← skipBlanks with
      | some '"' => return true
      | some '\x7d' => failAhead .trailingComma
      | some _ => failAhead .keyNotString
      | none => failAhead .endsInValue
    else failAhead .expectedObjectEnd

/-- Reads a key, which is known to be ahead. -/
def key : ReadM String := do
  eat
  string

def colon : ReadM Unit := do
  match ← skipBlanks with
  | some ':' => eat
  | some _ => failAhead .expectedColon
  | none => failAhead .endsInObject

/-- Reads the end of a list. -/
def listEnd : ReadM Unit := do
  match ← skipBlanks with
  | some ']' => eat
  | some ',' =>
    eat
    match ← skipBlanks with
    | some ']' => failAhead .trailingComma
    | _ => failAhead .trailingText
  | some _ => failAhead .trailingText
  | none => failAhead .endsInList

/-- Reads the end of an object. -/
def objectEnd : ReadM Unit := do
  match ← skipBlanks with
  | some '\x7d' => eat
  | some ',' => failAhead .trailingComma
  | some _ => failAhead .trailingText
  | none => failAhead .endsInObject

/-- Reads the content of a list or object and then its end. The end is tried even after a fault in
the content, whose place may so lie behind it. -/
def enclosed (content : ReadM α) (end_ : ReadM Unit) : ReadM α := fun c =>
  let (result, c) := content c
  let (closed, c) := end_ c
  match result, closed with
  | .ok a, .ok _ => (.ok a, c)
  | .error e, _ => (.error e, c)
  | _, .error e => (.error e, c)

/-- A value of the wrong type: it is read as far as needed to name it. -/
def wrongType (expected : String) : ReadM α := placed do
  let reject (found : Value) : ReadM α := mismatch (.type found.described expected)
  match ← peek with
  | some 'n' => eat; word "ull".toList; reject .null
  | some 't' => eat; word "rue".toList; reject (.bool true)
  | some 'f' => eat; word "alse".toList; reject (.bool false)
  | some '-' => eat; reject (.number (← number true))
  | some '"' => eat; reject (.string (← string))
  | some '[' => reject (.array [])
  | some '\x7b' => reject (.object [])
  | some c =>
    if c.isDigit then reject (.number (← number false)) else failAhead .expectedValue
  | none => failAhead .expectedValue

/-- How deep lists and objects may nest. -/
def depthLimit : Nat := 127

/-- Goes one level deeper, if that is allowed. -/
def deeper (depth : Nat) : ReadM Unit := do
  if depth ≥ depthLimit then failAhead .tooDeep

def liftMismatch : Except Mismatch α → ReadM α
  | .ok a => return a
  | .error how => mismatch how

mutual

/-- Reads a value of a shape at a depth of nesting. -/
def value : Nat → Nat → Shape → ReadM Value
  | 0, _, _ => fail .endsInValue
  | fuel + 1, depth, shape => do
    let ahead ← skipBlanks
    match ahead with
    | none => failAhead .endsInValue
    | some c =>
      match shape with
      | .nullable item =>
        if c = 'n' then do
          eat
          word "ull".toList
          return .null
        else value fuel depth item
      | .text what =>
        if c = '"' then do
          eat
          return .string (← string)
        else wrongType what
      | .natural .. | .float =>
        if c = '-' then placed do
          eat
          liftMismatch ((← number true).fit shape)
        else if c.isDigit then placed do liftMismatch ((← number false).fit shape)
        else wrongType shape.what
      | .list item =>
        if c = '[' then placed do
          deeper depth
          eat
          return .array (← enclosed (items fuel (depth + 1) item true) listEnd)
        else wrongType shape.what
      | .map item =>
        if c = '\x7b' then placed do
          deeper depth
          eat
          return .object (Table.ofList (← enclosed (pairs fuel (depth + 1) item true) objectEnd))
        else wrongType shape.what
      | .record name fields =>
        if c = '[' then placed do
          deeper depth
          eat
          return .object (Table.ofList
            (← enclosed (inOrder fuel (depth + 1) name fields fields.length 0 true) listEnd))
        else if c = '\x7b' then placed do
          deeper depth
          eat
          return .object (← enclosed (known fuel (depth + 1) fields [] true) objectEnd)
        else wrongType shape.what
      | .any =>
        match c with
        | 'n' => eat; word "ull".toList; return .null
        | 't' => eat; word "rue".toList; return .bool true
        | 'f' => eat; word "alse".toList; return .bool false
        | '-' => eat; return .number (← number true)
        | '"' => eat; return .string (← string)
        | '[' =>
          deeper depth
          eat
          return .array (← enclosed (items fuel (depth + 1) .any true) listEnd)
        | '\x7b' =>
          deeper depth
          eat
          return .object (Table.ofList (← enclosed (pairs fuel (depth + 1) .any true) objectEnd))
        | _ => if c.isDigit then return .number (← number false) else failAhead .expectedValue

/-- The items of a list. -/
def items : Nat → Nat → Shape → Bool → ReadM (List Value)
  | 0, _, _, _ => fail .endsInList
  | fuel + 1, depth, shape, first => do
    if ← nextItem first then
      let v ← value fuel depth shape
      return v :: (← items fuel depth shape false)
    else return []

/-- The fields of an object. -/
def pairs : Nat → Nat → Shape → Bool → ReadM (List (String × Value))
  | 0, _, _, _ => fail .endsInObject
  | fuel + 1, depth, shape, first => do
    if ← nextKey first then
      let name ← key
      colon
      let v ← value fuel depth shape
      return (name, v) :: (← pairs fuel depth shape false)
    else return []

/-- The fields of a record that is written as an object. -/
def known : Nat → Nat → List (String × Bool × Shape) → Fields → Bool → ReadM Fields
  | 0, _, _, _, _ => fail .endsInObject
  | fuel + 1, depth, fields, found, first => do
    if ← nextKey first then
      let name ← key
      match fields.find? (·.1 = name) with
      | some (_, _, shape) =>
        if (found.get? name).isSome then mismatch (.duplicate name)
        colon
        let v ← value fuel depth shape
        known fuel depth fields (found.put name v) false
      | none =>
        colon
        skipValue (4 * (← get).rest.length + 8) []
        known fuel depth fields found false
    else match missingField fields found with
      | some name => mismatch (.missing name)
      | none => return found

/-- The fields of a record that is written as a list. -/
def inOrder : Nat → Nat → String → List (String × Bool × Shape) → Nat → Nat → Bool →
    ReadM (List (String × Value))
  | 0, _, _, _, _, _, _ => fail .endsInList
  | _, _, _, [], _, _, _ => return []
  | fuel + 1, depth, record, (name, required, shape) :: rest, count, index, first => do
    if ← nextItem first then
      let v ← value fuel depth shape
      return (name, v) :: (← inOrder fuel depth record rest count (index + 1) false)
    else if required then mismatch (.length index (recordLength record count))
    else inOrder fuel depth record rest count (index + 1) first

end

/-- A whole document. -/
def document (shape : Shape) : ReadM Value := do
  let v ← value (4 * (← get).rest.length + 8) 0 shape
  match ← skipBlanks with
  | some _ => failAhead .trailingText
  | none => return v

end ReadM

/-- Reads a document of a shape. -/
def read (shape : Shape) (text : String) : Except Fault Value :=
  ((ReadM.document shape).run.run { rest := text.toList }).1

/-- Reads a document; the message of a fault tells its place. -/
def readText (shape : Shape) (text : String) : Except String Value :=
  (read shape text).mapError (·.message text)

end RefactorAudit.Json
