-- SUMMARY: Keys, strings, numbers and times of a TOML document.
import RefactorAudit.Decimal.Nearest
import RefactorAudit.Toml.Statement

/-!
# Scalars

Here the written text of keys and plain values gets its meaning. A fault stands where a text stops
being well formed; a bare word that is nothing at all is a fault as a whole.
-/

namespace RefactorAudit.Toml

/-- What a plain value means. -/
inductive Scalar where
  | string (value : String)
  | integer (value : Int)
  /-- A float; none if it is too large. -/
  | float (value : Option Float)
  | boolean (value : Bool)
  | time
  deriving Repr, Inhabited

namespace Scalar

/-! ## Strings -/

def hexValue? (c : Char) : Option Nat :=
  if c.isDigit then some (c.toNat - '0'.toNat)
  else if 'a' ≤ c && c ≤ 'f' then some (c.toNat - 'a'.toNat + 10)
  else if 'A' ≤ c && c ≤ 'F' then some (c.toNat - 'A'.toNat + 10)
  else none

/-- The characters that a backslash makes of other ones. -/
def escapes : List (Char × Char) :=
  [('b', '\x08'), ('e', '\x1b'), ('f', '\x0c'), ('n', '\n'), ('r', '\x0d'), ('t', '\t'), ('"', '"'),
    ('\\', '\\')]

/-- How many hexadecimal digits stand for a character behind a backslash and a letter. -/
def hexLengths : List (Char × Nat) := [('x', 2), ('u', 4), ('U', 8)]

/-- The character of a number of hexadecimal digits at a place. -/
def hexCharacter (count place : Nat) (cs : List Char) : Except Fault Char :=
  let digits := (cs.take count).map hexValue?
  match digits.mapM id with
  | none => .error (.malformed (place + (digits.takeWhile Option.isSome).length))
  | some values =>
    if values.length < count then .error (.malformed (place + values.length))
    else
      let code := values.foldl (fun n d => 16 * n + d) 0
      if code.isValidChar then .ok (Char.ofNat code) else .error (.malformed place)

/-- Refuses control characters other than the ends of the lines of a long string. A carriage return
that stands alone is a fault where the line feed is missing. -/
def allowed (long : Bool) (place : Nat) (c : Char) (rest : List Char) : Except Fault Unit :=
  if long && c = '\n' then .ok ()
  else if long && c = '\x0d' then
    if rest.head? = some '\n' then .ok () else .error (.malformed (place + 1))
  else if Reading.isControl c then .error (.malformed place)
  else .ok ()

/-- The content of a basic string from a place on, up to its closing quotes. In a long string, a
backslash at the end of a line takes away all blanks and line ends behind it. -/
def basicContent (long : Bool) : Nat → Nat → List Char → Except Fault (List Char)
  | _, _, [] => .ok []
  | 0, place, _ => .error (.malformed place)
  | fuel + 1, place, '\\' :: rest =>
    match rest with
    | [] => .error (.malformed (place + 1))
    | c :: after =>
      match escapes.lookup c with
      | some d => do return d :: (← basicContent long fuel (place + 2) after)
      | none =>
        match hexLengths.lookup c with
        | some count => do
          let d ← hexCharacter count (place + 2) after
          return d :: (← basicContent long fuel (place + 2 + count) (after.drop count))
        | none =>
          let blanks := rest.takeWhile Token.isBlank
          let behind := rest.dropWhile Token.isBlank
          let lineEnds := behind.head? = some '\n' || behind.take 2 = ['\x0d', '\n']
          if long && lineEnds then
            let skipped := behind.takeWhile fun d => Token.isBlank d || Token.isLineEnd d
            basicContent long fuel (place + 1 + blanks.length + skipped.length)
              (behind.drop skipped.length)
          else .error (.malformed (place + 1))
  | fuel + 1, place, c :: rest =>
    do
      allowed long place c rest
      return c :: (← basicContent long fuel (place + 1) rest)

/-- The content of a literal string from a place on, up to its closing quotes. -/
def literalContent (long : Bool) : Nat → List Char → Except Fault (List Char)
  | _, [] => .ok []
  | place, c :: rest => do
    allowed long place c rest
    return c :: (← literalContent long (place + 1) rest)

/-- What stands between the quotes. A line end right behind long opening quotes does not count. The
content of a string that is not closed is read before that fault. -/
def unquoted (piece : Piece) (quote : Char) (long : Bool)
    (content : Nat → List Char → Except Fault (List Char)) : Except Fault String := do
  let size := if long then 3 else 1
  let inner := piece.text.drop size
  let closing := List.replicate size quote
  let closed := inner.length ≥ size && inner.reverse.take size = closing
  let body := if closed then inner.take (inner.length - size) else inner
  let skipped :=
    if !long then 0
    else if body.head? = some '\n' then 1
    else if body.take 2 = ['\x0d', '\n'] then 2
    else 0
  let cs ← content (piece.start + size + skipped) (body.drop skipped)
  if closed then return String.ofList cs
  else throw (.malformed (piece.start + piece.text.length))

/-- The content of a quoted piece. -/
def readString (piece : Piece) (quotes : Quotes) : Except Fault String :=
  let fuel := piece.text.length + 1
  match quotes with
  | .literal => unquoted piece '\'' false (literalContent false)
  | .longLiteral => unquoted piece '\'' true (literalContent true)
  | .basic => unquoted piece '"' false (basicContent false fuel)
  | .longBasic => unquoted piece '"' true (basicContent true fuel)

/-! ## Keys -/

def isKeyCharacter (c : Char) : Bool := c.isAlphanum || c = '-' || c = '_'

/-- A part of a key. -/
def readKey (piece : Piece) : Except Fault String :=
  match piece.quotes with
  | some quotes => readString piece quotes
  | none =>
    if piece.text.isEmpty then .error (.malformed piece.start)
    else
      match piece.text.findIdx? fun c => !isKeyCharacter c with
      | some n => .error (.malformed (piece.start + n))
      | none => .ok (String.ofList piece.text)

/-! ## Numbers -/

/-- Takes the underscores out of digits, between which they have to stand. -/
def withoutUnderscores (isDigit : Char → Bool) : Nat → Option Char → List Char →
    Except Fault (List Char)
  | _, _, [] => .ok []
  | place, last, '_' :: rest =>
    if last.any isDigit && rest.head?.any isDigit then
      withoutUnderscores isDigit (place + 1) (some '_') rest
    else .error (.malformed place)
  | place, _, c :: rest => do
    return c :: (← withoutUnderscores isDigit (place + 1) (some c) rest)

/-- The number with the given digits. -/
def ofDigits (base : Nat) (digits : List Char) : Nat :=
  digits.foldl (fun n c => base * n + (hexValue? c).getD 0) 0

/-- A whole number behind the mark of its base. -/
def based (base place : Nat) (digits : List Char) : Except Fault Scalar := do
  let isDigit (c : Char) : Bool := (hexValue? c).any (· < base)
  match digits.findIdx? fun c => !isDigit c && c ≠ '_' with
  | some n => throw (.malformed (place + n))
  | none =>
    let digits ← withoutUnderscores isDigit place none digits
    if digits.isEmpty then throw (.malformed place)
    return .integer (ofDigits base digits)

/-- Decimal digits, at least one, and no leading zero unless it is allowed. -/
def digitRun (zeros : Bool) (place : Nat) (cs : List Char) : Except Fault (List Char × List Char) :=
  let isDigit (c : Char) : Bool := c.isDigit || c = '_'
  let digits := cs.takeWhile isDigit
  if digits.isEmpty then .error (.malformed place)
  else if !zeros && digits.length > 1 && digits.head? = some '0' then .error (.malformed place)
  else do return (← withoutUnderscores Char.isDigit place none digits, cs.dropWhile isDigit)

/-- A float behind its sign. -/
def readFloat (negative : Bool) (place : Nat) (cs : List Char) : Except Fault Scalar := do
  let at_ (rest : List Char) : Nat := place + (cs.length - rest.length)
  let (whole, rest) ← digitRun false place cs
  let (fraction, rest) ← match rest with
    | '.' :: rest => digitRun true (at_ rest) rest
    | rest => pure ([], rest)
  let (exponent, rest) ← match rest with
    | c :: rest =>
      if c = 'e' || c = 'E' then do
        let sign := rest.head?
        let rest := if sign = some '-' || sign = some '+' then rest.drop 1 else rest
        let (digits, rest) ← digitRun true (at_ rest) rest
        let n : Int := ofDigits 10 digits
        pure (if sign = some '-' then -n else n, rest)
      else pure (0, c :: rest)
    | [] => pure (0, [])
  if !rest.isEmpty then throw (.malformed (at_ rest))
  let x := Decimal.nearest (ofDigits 10 (whole ++ fraction)) (exponent - fraction.length)
  return .float (if x.isInf then none else some (if negative then -x else x))

/-- A decimal integer behind its sign. -/
def readInteger (negative : Bool) (place : Nat) (cs : List Char) : Except Fault Scalar := do
  let (digits, rest) ← digitRun false place cs
  if !rest.isEmpty then throw (.malformed (place + (cs.length - rest.length)))
  let n : Int := ofDigits 10 digits
  return .integer (if negative then -n else n)

/-! ## Times -/

/-- A number of a fixed number of digits, within limits. -/
def field? (count low high : Nat) (cs : List Char) : Option (Nat × List Char) :=
  let digits := cs.take count
  let n := ofDigits 10 digits
  if digits.length = count && digits.all Char.isDigit && low ≤ n && n ≤ high then
    some (n, cs.drop count)
  else none

/-- What follows a given character. -/
def skip? (c : Char) : List Char → Option (List Char)
  | d :: rest => if c = d then some rest else none
  | [] => none

/-- How many days a month has. -/
def daysOf (year month : Nat) : Nat :=
  if month = 2 then
    if (year % 4 = 0 && year % 100 ≠ 0) || year % 400 = 0 then 29 else 28
  else if [4, 6, 9, 11].contains month then 30
  else 31

/-- What follows a date. -/
def afterDate? (cs : List Char) : Option (List Char) := do
  let (year, cs) ← field? 4 0 9999 cs
  let (month, cs) ← field? 2 1 12 (← skip? '-' cs)
  let (_, cs) ← field? 2 1 (daysOf year month) (← skip? '-' cs)
  return cs

/-- What follows a time of the day, whose seconds may be left out. -/
def afterClock? (cs : List Char) : Option (List Char) := do
  let (_, cs) ← field? 2 0 23 cs
  let (_, cs) ← field? 2 0 59 (← skip? ':' cs)
  let some cs := skip? ':' cs | return cs
  let (_, cs) ← field? 2 0 60 cs
  match cs with
  | '.' :: rest => if rest.head?.any Char.isDigit then some (rest.dropWhile Char.isDigit) else none
  | cs => some cs

/-- Whether a text is nothing or the offset of a time zone. -/
def isOffset (cs : List Char) : Bool :=
  match cs with
  | [] => true
  | ['Z'] | ['z'] => true
  | c :: rest =>
    (c = '+' || c = '-') && ((do
      let (_, cs) ← field? 2 0 23 rest
      let (_, cs) ← field? 2 0 59 (← skip? ':' cs)
      return cs.isEmpty : Option Bool).getD false)

/-- Whether a text is a date, a time of the day, or both. -/
def isTime (cs : List Char) : Bool :=
  match afterDate? cs with
  | none => (afterClock? cs).any List.isEmpty
  | some [] => true
  | some (c :: rest) =>
    (c = 'T' || c = 't' || c = ' ') && (afterClock? rest).any isOffset

/-! ## Bare words -/

/-- A number or time behind its sign. -/
def numeral (signed negative : Bool) (piece : Piece) (cs : List Char) : Except Fault Scalar :=
  let whole : Except Fault Scalar := .error (.malformed piece.start)
  let place := piece.start + (piece.text.length - cs.length)
  let rest := cs.dropWhile Char.isDigit
  match rest with
  | [] => readInteger negative place cs
  | c :: _ =>
    if c = '-' || c = ':' then if !signed && isTime cs then .ok .time else whole
    else if rest.contains ' ' then whole
    else if rest.any fun c => c = '.' || c = 'e' || c = 'E' then readFloat negative place cs
    else if c = '_' then readInteger negative place cs
    else whole

/-- A bare word. -/
def readWord (piece : Piece) : Except Fault Scalar :=
  let whole : Except Fault Scalar := .error (.malformed piece.start)
  let named (name : String) (meaning : Scalar) : Except Fault Scalar :=
    if piece.text = name.toList then .ok meaning else whole
  let unsigned (signed negative : Bool) (cs : List Char) : Except Fault Scalar :=
    match cs with
    | [] => whole
    | '0' :: mark :: digits =>
      let base := (([('x', 16), ('o', 8), ('b', 2)] : List (Char × Nat)).lookup mark)
      match base with
      | some base => if signed then whole else based base (piece.start + 2) digits
      | none => numeral signed negative piece cs
    | c :: _ =>
      if c.isDigit || c = '_' || c = '.' then numeral signed negative piece cs
      else if cs = "inf".toList then
        .ok (.float (some (if negative then -1.0 / 0.0 else 1.0 / 0.0)))
      else if cs = "nan".toList then .ok (.float (some (0.0 / 0.0)))
      else whole
  match piece.text with
  | 't' :: _ => named "true" (.boolean true)
  | 'f' :: _ => named "false" (.boolean false)
  | '+' :: cs => unsigned true false cs
  | '-' :: cs => unsigned true true cs
  | cs => unsigned false false cs

/-- The meaning of a plain value. -/
def ofPiece (piece : Piece) : Except Fault Scalar :=
  match piece.quotes with
  | some quotes => (readString piece quotes).map .string
  | none => readWord piece

end Scalar

end RefactorAudit.Toml
