-- SUMMARY: The tokens of a TOML document.

/-!
# Tokens

The characters of a document are grouped to tokens; nothing is left out, so the tokens of a document
make up its text. A string ends at its closing quotes, or, if they are missing, where it can go on
no longer. What is no mark, blank, comment or string is a bare word.
-/

namespace RefactorAudit.Toml

/-- How a string is quoted. -/
inductive Quotes where
  | literal
  | basic
  | longLiteral
  | longBasic
  deriving DecidableEq, Repr, Inhabited

inductive Kind where
  | dot
  | equals
  | comma
  | openSquare
  | closeSquare
  | openCurly
  | closeCurly
  | blank
  | comment
  | newline
  | string (quotes : Quotes)
  | word
  deriving DecidableEq, Repr, Inhabited

structure Token where
  kind : Kind
  /-- The number of characters before the token. -/
  start : Nat
  text : List Char
  deriving DecidableEq, Repr, Inhabited

namespace Token

/-- The marks that are tokens of their own. -/
def mark? : Char → Option Kind
  | '.' => some .dot
  | '=' => some .equals
  | ',' => some .comma
  | '[' => some .openSquare
  | ']' => some .closeSquare
  | '\x7b' => some .openCurly
  | '\x7d' => some .closeCurly
  | _ => none

/-- Whether a token is more than a blank, a comment or the end of a line. -/
def hasMeaning (t : Token) : Bool :=
  match t.kind with
  | .blank | .comment | .newline => false
  | _ => true

def isBlank (c : Char) : Bool := c = ' ' || c = '\t'

def isLineEnd (c : Char) : Bool := c = '\n' || c = '\x0d'

/-- Whether a character belongs to a bare word that began before it. -/
def isWordPart (c : Char) : Bool :=
  (mark? c).isNone && !isBlank c && !isLineEnd c && c ≠ '#'

/-- The length of a literal string behind its opening quote. -/
def literalLength : List Char → Nat
  | [] => 0
  | '\'' :: _ => 1
  | '\n' :: _ => 0
  | _ :: rest => literalLength rest + 1

/-- The length of a basic string behind its opening quote. A quote or backslash behind a backslash
is part of it. -/
def basicLength : List Char → Nat
  | [] => 0
  | '"' :: _ => 1
  | '\n' :: _ => 0
  | '\\' :: '"' :: rest => basicLength rest + 2
  | '\\' :: '\\' :: rest => basicLength rest + 2
  | _ :: rest => basicLength rest + 1

/-- How many further quotes, two at most, stand behind three closing ones. -/
def furtherQuotes (quote : Char) (rest : List Char) : Nat :=
  ((rest.take 2).takeWhile (· = quote)).length

/-- The length of a long literal string behind its opening quotes. -/
def longLiteralLength : List Char → Nat
  | [] => 0
  | '\'' :: '\'' :: '\'' :: rest => 3 + furtherQuotes '\'' rest
  | _ :: rest => longLiteralLength rest + 1

/-- The length of a long basic string behind its opening quotes. -/
def longBasicLength : List Char → Nat
  | [] => 0
  | '"' :: '"' :: '"' :: rest => 3 + furtherQuotes '"' rest
  | '\\' :: '"' :: rest => longBasicLength rest + 2
  | '\\' :: '\\' :: rest => longBasicLength rest + 2
  | _ :: rest => longBasicLength rest + 1

/-- The kind of the token that a text begins with, and how many characters it has behind its
first. -/
def first (c : Char) (rest : List Char) : Kind × Nat :=
  match mark? c with
  | some kind => (kind, 0)
  | none =>
    if isBlank c then (.blank, (rest.takeWhile isBlank).length)
    else if c = '#' then (.comment, (rest.takeWhile fun d => !isLineEnd d).length)
    else if c = '\n' then (.newline, 0)
    else if c = '\x0d' then (.newline, if rest.head? = some '\n' then 1 else 0)
    else
      match c, rest with
      | '\'', '\'' :: '\'' :: rest => (.string .longLiteral, 2 + longLiteralLength rest)
      | '\'', rest => (.string .literal, literalLength rest)
      | '"', '"' :: '"' :: rest => (.string .longBasic, 2 + longBasicLength rest)
      | '"', rest => (.string .basic, basicLength rest)
      | _, rest => (.word, (rest.takeWhile isWordPart).length)

/-- The tokens of a text that begins at a place of the document. -/
def scan (start : Nat) : List Char → List Token
  | [] => []
  | c :: rest =>
    let (kind, length) := first c rest
    { kind, start, text := c :: rest.take length } :: scan (start + 1 + length) (rest.drop length)
  termination_by cs => cs.length
  decreasing_by simp only [List.length_drop, List.length_cons]; omega

/-- The tokens of a document. A mark of the byte order at its beginning is passed over. -/
def ofDocument (text : List Char) : List Token :=
  match text with
  | '\ufeff' :: rest => scan 1 rest
  | text => scan 0 text

end Token

end RefactorAudit.Toml
