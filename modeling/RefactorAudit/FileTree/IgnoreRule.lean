-- SUMMARY: The lines of ignore files.
import RefactorAudit.FileTree.Wildcard
import RefactorAudit.Text.Blank

/-!
# Ignore rules

Each line of an ignore file is a rule about paths below its directory. `!` takes a rule back, a
slash at the end restricts it to directories, and a pattern without any other slash matches at every
depth. Paths are matched byte by byte; `*` and `?` do not match a slash, and braces list
alternatives. A line that is not well formed is passed over.
-/

namespace RefactorAudit

/-- A rule about the paths below a directory. -/
structure IgnoreRule where
  pattern : List Wildcard
  /-- Whether the rule keeps what it matches. -/
  keeps : Bool
  onlyDirectories : Bool
  deriving Repr, Inhabited

namespace IgnoreRule

/-! ## Patterns -/

/-- The pieces of a pattern. -/
inductive Piece where
  | plain (piece : Wildcard)
  /-- The bytes of a character. -/
  | character (c : Char)
  /-- `**` at the beginning: any directories. -/
  | leading
  /-- `**` between two slashes: any directories, also none. -/
  | between
  /-- `**` at the end: anything behind a slash. -/
  | trailing
  deriving Repr, Inhabited

/-- The bytes of a text. -/
def bytes (cs : List Char) : List Nat := ((String.ofList cs).toUTF8.toList).map UInt8.toNat

namespace Piece

open Wildcard (slash)

def wildcards : Piece → List Wildcard
  | plain piece => [piece]
  | character c => (bytes [c]).map .exactly
  | leading => [.either [[], [.exactly slash], [.anything, .exactly slash]]]
  | between => [.either [[.exactly slash], [.exactly slash, .anything, .exactly slash]]]
  | trailing => [.exactly slash, .anything]

end Piece

/-- The alternatives between two braces. Empty ones do not count. -/
def alternatives (options : List (List Piece)) : List Piece :=
  let options := (options.filter fun pieces => !pieces.isEmpty).map (·.flatMap Piece.wildcards)
  if options.isEmpty then [] else [.plain (.either options)]

/-- The byte ranges of a class. A character of several bytes counts byte by byte; in a range, the
last byte of its first end goes up to the first byte of the other. -/
def byteRanges (low high : Char) : List (Nat × Nat) :=
  let single (n : Nat) : Nat × Nat := (n, n)
  let first := bytes [low]
  let last := bytes [high]
  if low = high then first.map single
  else first.dropLast.map single ++ [(first.getLast?.getD 0, last.head?.getD 0)]
    ++ (last.drop 1).map single

/-- Why a class cannot be read. -/
inductive ClassFault where
  | unclosed
  | emptyRange
  deriving DecidableEq, Repr, Inhabited

/-- The ranges of a class, the last one first, and what follows the closing bracket. Behind a dash,
a range ends with the next character. -/
def classFrom : List (Char × Char) → Bool → List Char →
    Except ClassFault (List (Char × Char) × List Char)
  | _, _, [] => .error .unclosed
  | ranges, inRange, ']' :: rest => .ok (if inRange then ('-', '-') :: ranges else ranges, rest)
  | (low, _) :: ranges, true, c :: rest =>
    if c < low then .error .emptyRange else classFrom ((low, c) :: ranges) false rest
  | ranges, false, '-' :: rest => classFrom ranges true rest
  | ranges, _, c :: rest => classFrom ((c, c) :: ranges) false rest

/-- A class behind its opening bracket. A bracket or dash that stands first belongs to it. -/
def classOf (cs : List Char) : Except ClassFault (Wildcard × List Char) :=
  let negated := cs.head? = some '!' || cs.head? = some '^'
  match if negated then cs.drop 1 else cs with
  | [] => .error .unclosed
  | c :: rest => do
    let (ranges, rest) ← classFrom [(c, c)] false rest
    return (.within negated (ranges.flatMap fun (low, high) => byteRanges low high), rest)

/-- A pattern that is being read. -/
structure Draft where
  /-- The pieces so far, the last one first. -/
  pieces : List Piece := []
  /-- For each open brace the alternatives so far and the pieces before it. -/
  braces : List (List (List Piece) × List Piece) := []
  /-- The character before. -/
  last : Option Char := none
  /-- Whether a bracket was met that is not closed. From then on brackets stand for themselves. -/
  openBracket : Bool := false
  deriving Inhabited

namespace Draft

def add (d : Draft) (piece : Piece) (last : Char) : Draft :=
  { d with pieces := piece :: d.pieces, last := some last }

/-- Takes up two stars, of which a slash or nothing may stand on both sides. Gives what follows. -/
def stars (d : Draft) (rest : List Char) : Draft × List Char :=
  let plain := (d.add (.plain .inside) '*').add (.plain .inside) '*'
  let inBraces := !d.braces.isEmpty
  if d.pieces.isEmpty then
    match rest with
    | [] => (d.add .leading '*', [])
    | '/' :: rest => (d.add .leading '/', rest)
    | rest => (plain, rest)
  else if d.last ≠ some '/' && !(inBraces && (d.last = some ',' || d.last = some '\x7b')) then
    (plain, rest)
  else
    let put (piece : Piece) : List Piece :=
      match d.pieces with
      | .leading :: before => .leading :: before
      | .trailing :: before => .trailing :: before
      | _ :: before => piece :: before
      | [] => [piece]
    match rest with
    | [] => ({ d with pieces := put .trailing, last := some '*' }, [])
    | '/' :: rest => ({ d with pieces := put .between, last := some '/' }, rest)
    | c :: _ =>
      if inBraces && (c = ',' || c = '\x7d') then
        ({ d with pieces := put .trailing, last := some '*' }, rest)
      else (plain, rest)

end Draft

/-- Reads on in a pattern. None if it is not well formed. -/
def readFrom? : Nat → Draft → List Char → Option (List Piece)
  | _, d, [] => if d.braces.isEmpty then some d.pieces.reverse else none
  | 0, _, _ => none
  | fuel + 1, d, c :: rest =>
    match c, rest with
    | '?', _ => readFrom? fuel (d.add (.plain .notSlash) c) rest
    | '*', '*' :: rest =>
      let (d, rest) := d.stars rest
      readFrom? fuel d rest
    | '*', _ => readFrom? fuel (d.add (.plain .inside) c) rest
    | '\\', [] => none
    | '\\', e :: rest => readFrom? fuel (d.add (.character e) e) rest
    | '\x7b', _ =>
      let braces := ([], d.pieces) :: d.braces
      readFrom? fuel { d with pieces := [], braces, last := some c } rest
    | '\x7d', _ =>
      match d.braces with
      | [] => none
      | (options, before) :: braces =>
        let whole := alternatives ((d.pieces :: options).reverse.map List.reverse)
        readFrom? fuel { d with pieces := whole ++ before, braces, last := some c } rest
    | _, _ =>
      match c, d.braces with
      | ',', (options, before) :: braces =>
        let braces := (d.pieces :: options, before) :: braces
        readFrom? fuel { d with pieces := [], braces, last := some c } rest
      | _, _ =>
        if c = '[' && !d.openBracket then
          match classOf rest with
          | .ok (piece, rest) => readFrom? fuel (d.add (.plain piece) ']') rest
          | .error .unclosed =>
            readFrom? fuel { d.add (.character c) c with openBracket := true } rest
          | .error .emptyRange => none
        else readFrom? fuel (d.add (.character c) c) rest

/-- The pattern that a text stands for. -/
def pattern? (cs : List Char) : Option (List Wildcard) :=
  match readFrom? cs.length {} cs with
  | some [.leading] => some [.anything]
  | found => found.map (·.flatMap Piece.wildcards)

/-! ## Lines -/

def endsWith (cs ending : List Char) : Bool := ending.reverse.isPrefixOf cs.reverse

/-- The rule of a pattern behind the marks at its beginning. -/
def ofPattern? (keeps anchored : Bool) (cs : List Char) : Option IgnoreRule :=
  let onlyDirectories := cs.getLast? = some '/'
  let cs := if onlyDirectories then cs.dropLast else cs
  let cs := if onlyDirectories && cs.getLast? = some '\\' then cs.dropLast else cs
  let cs := if anchored || cs.contains '/' || cs = ['*', '*'] then cs else "**/".toList ++ cs
  let cs := if endsWith cs "/**".toList then cs ++ "/*".toList else cs
  (pattern? cs).map fun pattern => { pattern, keeps, onlyDirectories }

/-- The rule of a line, if it has one. Blanks at its end do not count unless they are quoted. -/
def ofLine? (line : List Char) : Option IgnoreRule :=
  let line := if endsWith line "\\ ".toList then line else Text.trimEnd line
  match line with
  | [] => none
  | '#' :: _ => none
  | '\\' :: '!' :: rest => ofPattern? false false ('!' :: rest)
  | '\\' :: '#' :: rest => ofPattern? false false ('#' :: rest)
  | '!' :: '/' :: rest => ofPattern? true true rest
  | '!' :: rest => ofPattern? true false rest
  | '/' :: rest => ofPattern? false true rest
  | rest => ofPattern? false false rest

/-- The lines of a file. Line ends are line feeds, before which a carriage return may stand. -/
def linesOf : List UInt8 → List (List UInt8)
  | [] => []
  | b :: rest =>
    if b = 10 then [] :: linesOf rest
    else if b = 13 && rest.head? = some 10 then [] :: linesOf (rest.drop 1)
    else
      match linesOf rest with
      | [] => [[b]]
      | line :: lines => (b :: line) :: lines
  termination_by bytes => bytes.length

/-- The lines up to the first one that is not text. -/
def textLines : List (List UInt8) → List (List Char)
  | [] => []
  | line :: rest =>
    match String.fromUTF8? ⟨line.toArray⟩ with
    | some text => text.toList :: textLines rest
    | none => []

/-- The rules of a file. Marks of the byte order before the first line do not count. -/
def ofFile (contents : ByteArray) : List IgnoreRule :=
  match textLines (linesOf contents.toList) with
  | [] => []
  | first :: rest => (first.dropWhile (· = '\ufeff') :: rest).filterMap ofLine?

/-- Whether a rule is about a path. -/
def covers (r : IgnoreRule) (path : List Nat) (isDirectory : Bool) : Bool :=
  (!r.onlyDirectories || isDirectory) && Wildcard.isMatch r.pattern path

/-- Whether rules keep a path or not; the last rule about it counts. None if there is no such
rule. -/
def keeps? (rules : List IgnoreRule) (path : List Nat) (isDirectory : Bool) : Option Bool :=
  (rules.reverse.find? fun r => r.covers path isDirectory).map (·.keeps)

end IgnoreRule

end RefactorAudit
