-- SUMMARY: Tokens that depend on line ends, indentation and open strings.
import RefactorAudit.Python.Grammar
import RefactorAudit.Text.Position

/-!
# Layout

Some tokens of Python are not told by their text alone. A line end is a token only where a
statement may end; a change of indentation opens or closes a block; what stands inside a string
depends on how the string was opened. The layout carries what is needed for that from token to
token: the open blocks and the open strings.
-/

namespace RefactorAudit.Python

open RefactorAudit.Text (Position)
open RefactorAudit.Grammar (TokenSet)

/-- How an open string was opened. -/
structure Delimiter where
  quote : Char
  triple : Bool := false
  raw : Bool := false
  bytes : Bool := false
  format : Bool := false
  deriving DecidableEq, Repr, Inhabited

/-- The open blocks by their indentation, innermost first, and the open strings. -/
structure Layout where
  indents : List Nat := []
  strings : List Delimiter := []
  /-- The string opened last, if still open, is a format string. -/
  insideFormat : Bool := false
  deriving DecidableEq, Repr, Inhabited

/-- The indentation of the innermost block; the text itself is a block without indentation. -/
def Layout.indent (l : Layout) : Nat := l.indents.headD 0

/-- Bounds on what is counted, and on what is kept of a layout from token to token. -/
structure LayoutBounds where
  /-- The blanks in front of a line are counted modulo this number. -/
  blanks : Nat
  /-- Indentations are kept modulo this number. -/
  indentation : Nat
  /-- At most so many open strings are kept, the outermost ones. -/
  strings : Nat
  /-- At most so many open strings and blocks together are kept. -/
  entries : Nat

def layoutBounds : LayoutBounds :=
  { blanks := 65536, indentation := 256, strings := 255, entries := 1022 }

/-- What is kept of a layout from token to token. -/
def Layout.kept (l : Layout) : Layout :=
  let strings := l.strings.drop (l.strings.length - layoutBounds.strings)
  let room := layoutBounds.entries - strings.length
  { l with
    strings
    indents := (l.indents.drop (l.indents.length - room)).map (· % layoutBounds.indentation) }

/-- A text ready for reading. -/
abbrev Source := Array Char

/-- A token found by its layout. -/
structure LayoutToken where
  token : Nat
  start : Position
  stop : Position
  layout : Layout
  deriving Inhabited

/-! ## Token numbers -/

def newlineToken : Nat := tokenNumber "_newline"
def indentToken : Nat := tokenNumber "_indent"
def dedentToken : Nat := tokenNumber "_dedent"
def stringStartToken : Nat := tokenNumber "string_start"
def stringContentToken : Nat := tokenNumber "_string_content"
def escapeInterpolationToken : Nat := tokenNumber "escape_interpolation"
def stringEndToken : Nat := tokenNumber "string_end"
def exceptToken : Nat := tokenNumber "except"

/-- The closing brackets. -/
def closers : TokenSet :=
  [")", "]", "\x7d"].foldl (fun s name => s.join (.single (tokenNumber name))) 0

/-! ## Inside a string -/

/-- The place behind the character at a place; a place at the end of the text stays. -/
def Source.next (s : Source) (p : Position) : Position :=
  match s[p.index]? with
  | some c => p.past c
  | none => p

/-- The place behind the character at a place if it is the given one. -/
def Source.over (s : Source) (c : Char) (p : Position) : Position :=
  if s[p.index]? = some c then p.past c else p

/-- A doubled brace in a format string. The first result is the token; the second tells that a
brace stands here which is not doubled. -/
def doubledBrace (s : Source) (d : Delimiter) (p : Position) : Option Position × Bool :=
  match s[p.index]? with
  | some c =>
    if d.format && (c = '\x7b' || c = '\x7d') then
      let q := p.past c
      if s[q.index]? = some c then (some (q.past c), false) else (none, true)
    else (none, false)
  | none => (none, false)

/-- What reading inside a string comes to. -/
inductive StringRead where
  | found (token : LayoutToken)
  /-- An escape, an interpolation or a broken string stands here. -/
  | nothing
  /-- The text ends inside the string. -/
  | ranOut (at_ : Position)
  deriving Inhabited

/-- Reads the text of a string up to its end, an escape or an interpolation. `content` tells whether
some text has been read since `start`. The end of the string is its own token. -/
def stringText (s : Source) (l : Layout) (d : Delimiter) (start : Position) :
    Nat → Position → Bool → StringRead
  | 0, p, _ => .ranOut p
  | fuel + 1, p, content =>
    let text (stop : Position) : StringRead := .found ⟨stringContentToken, start, stop, l⟩
    let ending (stop : Position) : StringRead := .found ⟨stringEndToken, start, stop,
      { l with strings := l.strings.tail, insideFormat := false }⟩
    let pause : StringRead := if content then text p else .nothing
    match s[p.index]? with
    | none => .ranOut p
    | some c =>
      let q := p.past c
      if c = '\x00' then .ranOut p
      else if d.format && (c = '\x7b' || c = '\x7d') then pause
      else if c = '\\' then
        if d.raw then
          let q := match s[q.index]? with
            | some e => if e = d.quote || e = '\\' then q.past e else q
            | none => q
          let q := if s[q.index]? = some '\r' then s.over '\n' (s.next q) else s.over '\n' q
          stringText s l d start fuel q content
        else if d.bytes && (s[q.index]? = some 'N' || s[q.index]? = some 'u'
            || s[q.index]? = some 'U') then
          stringText s l d start fuel (s.next (s.next q)) true
        else pause
      else if c = d.quote then
        if !d.triple then (if content then text p else ending q)
        else if s[q.index]? ≠ some c then text q
        else
          let q := q.past c
          if s[q.index]? ≠ some c then text q
          else if content then text p
          else ending (q.past c)
      else if c = '\n' && content && !d.triple then .nothing
      else stringText s l d start fuel q true

/-! ## Between tokens -/

/-- What lies between two tokens. -/
structure Gap where
  /-- The place of the next character that belongs to a token. -/
  stop : Position
  lineEnded : Bool := false
  indent : Nat := 0
  /-- The indentation of the first comment on a line of its own. -/
  comment : Option Nat := none
  deriving Inhabited

/-- More blanks in front of a line. -/
def Gap.indented (g : Gap) (blanks : Nat) (stop : Position) : Gap :=
  { g with stop, indent := (g.indent + blanks) % layoutBounds.blanks }

/-- Skips to the end of the line, but not over it. -/
def Source.lineEnd (s : Source) : Nat → Position → Position
  | 0, p => p
  | fuel + 1, p =>
    match s[p.index]? with
    | some c => if c = '\n' || c = '\x00' then p else s.lineEnd fuel (p.past c)
    | none => p

/-- Reads blanks, line ends, joined lines and, where `comments` is set, comments on lines of their
own. There is no result if a comment follows a token on its line or a backslash joins nothing. -/
def gap (s : Source) (comments : Bool) : Nat → Gap → Option Gap
  | 0, g => some g
  | fuel + 1, g =>
    let p := g.stop
    match s[p.index]? with
    | none => some { g with lineEnded := true, indent := 0 }
    | some c =>
      let q := p.past c
      if c = '\n' then gap s comments fuel { g with stop := q, lineEnded := true, indent := 0 }
      else if c = ' ' then gap s comments fuel (g.indented 1 q)
      else if c = '\r' || c = '\x0c' then gap s comments fuel { g with stop := q, indent := 0 }
      else if c = '\t' then gap s comments fuel (g.indented 8 q)
      else if c = '#' && comments then
        if !g.lineEnded then none else
        let stop := s.next (s.lineEnd s.size p)
        gap s comments fuel { g with
          stop, indent := 0, comment := g.comment <|> some g.indent }
      else if c = '\\' then
        let q := s.over '\r' q
        match s[q.index]? with
        | some '\n' => gap s comments fuel { g with stop := s.next q }
        | none => gap s comments fuel { g with stop := q }
        | some _ => none
      else some g

/-- The marks in front of a quote, in any order and number. The second result tells whether there
are any. -/
def stringMarks (s : Source) : Nat → Position → Delimiter → Bool → Position × Delimiter × Bool
  | 0, p, d, marked => (p, d, marked)
  | fuel + 1, p, d, marked =>
    match s[p.index]? with
    | some c =>
      let next (d : Delimiter) := stringMarks s fuel (p.past c) d true
      if c = 'f' || c = 'F' then next { d with format := true }
      else if c = 'r' || c = 'R' then next { d with raw := true }
      else if c = 'b' || c = 'B' then next { d with bytes := true }
      else if c = 'u' || c = 'U' then next d
      else (p, d, marked)
    | none => (p, d, marked)

/-- The opening of a string: marks, then a quote, three equal quotes or a backquote. -/
def stringStart (s : Source) (p : Position) : Option (Position × Delimiter) :=
  let (p, d, _) := stringMarks s (s.size + 1) p ⟨' ', false, false, false, false⟩ false
  match s[p.index]? with
  | some c =>
    let q := p.past c
    let d := { d with quote := c }
    if c = '`' then some (q, d)
    else if c = '\'' || c = '"' then
      if s[q.index]? = some c && s[(q.past c).index]? = some c then
        some ((q.past c).past c, { d with triple := true })
      else some (q, d)
    else none
  | none => none

/-- The token at a place outside a string that depends on the layout, if there is one among the
expected tokens. Tokens without text of their own stand at `mark` and are counted from `start`. -/
def outsideToken (s : Source) (expected : TokenSet) (anything : Bool) (l : Layout)
    (start mark : Position) : Option LayoutToken := do
  let wants (token : Nat) : Bool := expected.has token
  let g ← gap s (wants indentToken || wants dedentToken || wants newlineToken
    || wants exceptToken) (s.size + 2) { stop := mark }
  let start := if g.stop.index > mark.index then mark else start
  let quoted := match s[g.stop.index]? with
    | some c => c = '"' || c = '\'' || c = '`'
    | none => false
  let closing := wants dedentToken || (!wants newlineToken
    && !(wants stringStartToken && quoted) && expected &&& closers == 0)
  if g.lineEnded && wants indentToken && g.indent > l.indent then
    some ⟨indentToken, start, mark, { l with indents := g.indent :: l.indents }⟩
  else if g.lineEnded && closing && g.indent < l.indent && !l.insideFormat
      && g.comment.all (· < l.indent) then
    some ⟨dedentToken, start, mark, { l with indents := l.indents.tail }⟩
  else if g.lineEnded && wants newlineToken && !anything then
    some ⟨newlineToken, start, mark, l⟩
  else if g.comment.isNone && wants stringStartToken then
    let (stop, d) ← stringStart s g.stop
    some ⟨stringStartToken, if g.stop.index > mark.index then g.stop else start, stop,
      { l with strings := d :: l.strings, insideFormat := d.format }⟩
  else none

/-- The token at a place that depends on the layout, if there is one among the expected tokens.
`anything` is set when the reader has lost its place and expects every token; then no token is
taken from inside a string and no line end counts. -/
def layoutToken (s : Source) (expected : TokenSet) (anything : Bool) (layout : Option Layout)
    (p : Position) : Option LayoutToken :=
  (find (layout.getD {})).map fun token => { token with layout := token.layout.kept }
where
  find (l : Layout) : Option LayoutToken :=
  match l.strings with
  | [] => outsideToken s expected anything l p p
  | d :: _ =>
    if anything then outsideToken s expected anything l p p else
    let (doubled, brace) :=
      if expected.has escapeInterpolationToken then doubledBrace s d p else (none, false)
    match doubled, brace with
    | some stop, _ => some ⟨escapeInterpolationToken, p, stop, l⟩
    | none, true => none
    | none, false =>
      if expected.has stringContentToken then
        match stringText s l d p (s.size + 1) p false with
        | .found token => some token
        | .nothing => none
        | .ranOut stop => outsideToken s expected anything l p stop
      else outsideToken s expected anything l p p

end RefactorAudit.Python
