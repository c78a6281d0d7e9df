-- SUMMARY: The statements of a TOML document.
import RefactorAudit.Toml.Token

/-!
# Statements

A document is a list of statements: headers of tables and entries with a key and a value. Their
parts are still the text that was written. A fault tells where a document stops making sense.
-/

namespace RefactorAudit.Toml

/-- Why a document makes no sense. -/
inductive Fault where
  /-- It stops making sense at a place, counted in characters. -/
  | malformed (place : Nat)
  /-- A key leads through too many tables. -/
  | tooDeep
  deriving DecidableEq, Repr, Inhabited

/-- A key or a plain value as it is written. Bare words have no quotes. -/
structure Piece where
  start : Nat
  text : List Char
  quotes : Option Quotes
  deriving DecidableEq, Repr, Inhabited

/-- A value as it is written. -/
inductive Written where
  | plain (piece : Piece)
  | list (start : Nat) (items : List Written)
  | inline (start : Nat) (entries : List (List Piece × Written))
  deriving Repr, Inhabited

inductive Statement where
  /-- The header of a table, or of one more table of a list of tables. -/
  | header (start : Nat) (listed : Bool) (path : List Piece)
  | entry (path : List Piece) (value : Written)
  deriving Repr, Inhabited

/-! ## Reading -/

/-- The tokens ahead, the place behind the last token with a meaning before them, and the place
where the document ends. -/
structure Ahead where
  tokens : List Token
  behind : Nat := 0
  stop : Nat
  deriving Inhabited

/-- Passes over the first token. -/
def Ahead.pass (a : Ahead) (t : Token) : Ahead :=
  { a with
    tokens := a.tokens.drop 1
    behind := if t.hasMeaning then t.start + t.text.length else a.behind }

/-- Reading statements from tokens. -/
abbrev Reading := StateT Ahead (Except Fault)

namespace Reading

def peek : Reading (Option Token) := return (← get).tokens.head?

/-- Passes over the token ahead. -/
def next : Reading Unit := modify fun a => (a.tokens.head?.map a.pass).getD a

/-- The place of the token ahead. -/
def place : Reading Nat := do
  let ahead ← get
  return (ahead.tokens.head?.map (·.start)).getD ahead.stop

def fail {β : Type} (place : Nat) : Reading β := throw (.malformed place)

/-- A fault at the token ahead. -/
def failHere {β : Type} : Reading β := do fail (← place)

/-- A fault behind the last token with a meaning, where a closing mark is missing. -/
def failBehind {β : Type} : Reading β := do fail (← get).behind

/-- Passes over the token ahead if it is of a kind. -/
def accept (kind : Kind) : Reading Bool := do
  match ← peek with
  | some t => if t.kind = kind then next; return true else return false
  | none => return false

def skipBlank : Reading Unit := do
  let _ ← accept .blank

/-- Characters that may not stand in comments and strings. -/
def isControl (c : Char) : Bool := (c.toNat < 32 && c ≠ '\t') || c.toNat = 127

/-- Passes over a comment, which has no control characters. -/
def comment (t : Token) : Reading Unit := do
  next
  match t.text.findIdx? isControl with
  | some n => fail (t.start + n)
  | none => return

/-- Passes over the end of a line. A carriage return does not stand alone. -/
def newline (t : Token) : Reading Unit := do
  next
  if t.text = ['\x0d'] then fail (t.start + 1)

/-- Nothing but a comment may stand before the end of the line. -/
def lineEnd : Reading Unit := do
  skipBlank
  match ← peek with
  | none => return
  | some t =>
    match t.kind with
    | .newline => newline t
    | .comment =>
      comment t
      match ← peek with
      | some t => if t.kind = .newline then newline t else failHere
      | none => return
    | _ => failHere

/-! ## Keys -/

/-- The part of a key that a token is. -/
def keyPart? (t : Token) : Option Piece :=
  match t.kind with
  | .string quotes => some { start := t.start, text := t.text, quotes := some quotes }
  | .word => some { start := t.start, text := t.text, quotes := none }
  | _ => none

/-- An empty part where a part of a key is missing. -/
def missingPart : Reading Piece := return { start := ← place, text := [], quotes := none }

/-- The parts of a key behind its first part. -/
def furtherParts : Nat → Reading (List Piece)
  | 0 => return []
  | fuel + 1 => do
    skipBlank
    if ← accept .dot then
      skipBlank
      match (← peek).bind keyPart? with
      | some part =>
        next
        return part :: (← furtherParts fuel)
      | none =>
        let part ← missingPart
        return part :: (← furtherParts fuel)
    else return []

/-- A key whose first part is known. -/
def keyFrom (part : Piece) : Reading (List Piece) := do
  return part :: (← furtherParts (← get).tokens.length)

/-! ## Values -/

/-- What goes on with a bare value: words and dots, also behind a blank, as times have one. -/
def bareRest : List Token → List Token
  | [] => []
  | [t] => if t.kind = .word || t.kind = .dot then [t] else []
  | t :: u :: rest =>
    if t.kind = .word || t.kind = .dot then t :: bareRest (u :: rest)
    else if t.kind = .blank && (u.kind = .word || u.kind = .dot) then t :: bareRest (u :: rest)
    else []

/-- A value of words, dots and blanks. -/
def bare (start : Nat) : Reading Piece := do
  let taken := bareRest (← get).tokens
  modify (taken.foldl Ahead.pass)
  return { start, text := taken.flatMap (·.text), quotes := none }

/-- What an inline table waits for. -/
inductive Awaited where
  | key
  | equals
  | value
  | comma
  deriving DecidableEq, Repr, Inhabited

/-- How deep values may be nested. -/
def depthLimit : Nat := 80

mutual

/-- A value. It may be missing; then it is an empty word. -/
def value : Nat → Nat → Reading Written
  | 0, _ => failHere
  | fuel + 1, depth => do
    match ← peek with
    | none => return .plain (← missingPart)
    | some t =>
      match t.kind with
      | .string quotes =>
        next
        return .plain { start := t.start, text := t.text, quotes := some quotes }
      | .word | .dot => return .plain (← bare t.start)
      | .openSquare =>
        if depth = 0 then failHere
        next
        return .list t.start (← listItems fuel (depth - 1) true)
      | .openCurly =>
        if depth = 0 then failHere
        next
        return .inline t.start (← inlineEntries fuel (depth - 1) .key [])
      | .comment | .comma | .newline | .blank => return .plain (← missingPart)
      | .equals | .closeSquare | .closeCurly => failHere

/-- The items of a list behind its bracket. Comments and line ends may stand between them. -/
def listItems : Nat → Nat → Bool → Reading (List Written)
  | 0, _, _ => failHere
  | fuel + 1, depth, wantsItem => do
    match ← peek with
    | none => failBehind
    | some t =>
      match t.kind with
      | .blank =>
        next
        listItems fuel depth wantsItem
      | .comment =>
        comment t
        listItems fuel depth wantsItem
      | .newline =>
        newline t
        listItems fuel depth wantsItem
      | .closeSquare =>
        next
        return []
      | .comma =>
        if wantsItem then failHere
        next
        listItems fuel depth true
      | .equals | .closeCurly => failHere
      | .string _ | .word | .dot | .openSquare | .openCurly =>
        if !wantsItem then failHere
        let item ← value fuel depth
        return item :: (← listItems fuel depth false)

/-- The entries of an inline table behind its brace. Comments and line ends may stand between their
parts, and a comma behind the last one. -/
def inlineEntries : Nat → Nat → Awaited → List Piece → Reading (List (List Piece × Written))
  | 0, _, _, _ => failHere
  | fuel + 1, depth, awaited, key => do
    match ← peek with
    | none => failBehind
    | some t =>
      match t.kind with
      | .blank =>
        next
        inlineEntries fuel depth awaited key
      | .comment =>
        comment t
        inlineEntries fuel depth awaited key
      | .newline =>
        newline t
        inlineEntries fuel depth awaited key
      | .closeCurly =>
        if awaited = .equals || awaited = .value then failHere
        next
        return []
      | .comma =>
        if awaited ≠ .comma then failHere
        next
        inlineEntries fuel depth .key []
      | .equals =>
        match awaited with
        | .key =>
          let part ← missingPart
          next
          inlineEntries fuel depth .value [part]
        | .equals =>
          next
          inlineEntries fuel depth .value key
        | _ => failHere
      | .closeSquare => failHere
      | .string _ | .word | .dot | .openSquare | .openCurly =>
        match awaited with
        | .key =>
          match keyPart? t, t.kind with
          | some part, _ =>
            next
            inlineEntries fuel depth .equals (← keyFrom part)
          | none, .dot => inlineEntries fuel depth .equals (← keyFrom (← missingPart))
          | none, _ => failHere
        | .value =>
          let item ← value fuel depth
          return (key, item) :: (← inlineEntries fuel depth .comma [])
        | _ => failHere

end

/-! ## Statements -/

/-- The entry behind the equals sign of its key. -/
def entry (key : List Piece) : Reading Statement := do
  next
  skipBlank
  let v ← value (4 * (← get).tokens.length + 4) depthLimit
  lineEnd
  return .entry key v

/-- An entry that begins with a key. -/
def keyed (part : Piece) : Reading Statement := do
  let key ← keyFrom part
  match ← peek with
  | some t => if t.kind = .equals then entry key else failHere
  | none => failHere

/-- The header of a table behind its first bracket. -/
def header (start : Nat) : Reading Statement := do
  let listed ← accept .openSquare
  skipBlank
  match (← peek).bind keyPart? with
  | none => failHere
  | some part =>
    next
    let key ← keyFrom part
    if !(← accept .closeSquare) then failBehind
    if listed then
      if !(← accept .closeSquare) then failHere
    lineEnd
    return .header start listed key

/-- All statements. -/
def statements : Nat → Reading (List Statement)
  | 0 => return []
  | fuel + 1 => do
    match ← peek with
    | none => return []
    | some t =>
      match t.kind with
      | .blank =>
        next
        statements fuel
      | .newline =>
        newline t
        statements fuel
      | .comment =>
        comment t
        statements fuel
      | .openSquare =>
        next
        let s ← header t.start
        return s :: (← statements fuel)
      | .string _ | .word =>
        next
        let s ← keyed ((keyPart? t).getD default)
        return s :: (← statements fuel)
      | .dot =>
        let s ← keyed (← missingPart)
        return s :: (← statements fuel)
      | .equals =>
        let part ← missingPart
        let s ← entry [part]
        return s :: (← statements fuel)
      | .comma | .closeSquare | .openCurly | .closeCurly => failHere

end Reading

/-- The statements of a document. -/
def Statement.ofDocument (text : List Char) : Except Fault (List Statement) :=
  let tokens := Token.ofDocument text
  ((Reading.statements (tokens.length + 1)).run { tokens, stop := text.length }).map (·.1)

end RefactorAudit.Toml
