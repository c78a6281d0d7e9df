-- SUMMARY: Tokens told by their text, and the choice of the next token of a source.
import RefactorAudit.Python.Layout

/-!
# Tokens

The next token of a source is the longest text that forms one of the tokens looked for. Where none
of them stands, any token is taken, so that the reader can report what it met; characters that begin
no token at all are gathered into a broken token.

A word is read as a name first. It is a keyword only if that keyword is expected.
-/

namespace RefactorAudit.Python

open RefactorAudit.Text (Position)
open RefactorAudit.Grammar

/-- The end of the text. -/
def endToken : Nat := terminals.size

/-! ## Scanning -/

/-- What a scanner finds at a place. -/
structure Scanned where
  /-- The token and where it ends. -/
  token : Option (Nat × Position) := none
  /-- Where the blanks in front of the token end. -/
  start : Position
  /-- Where the scanner could not go on. -/
  stuck : Position
  deriving Inhabited

/-- Runs a scanner on. `fuel` counts characters. -/
def Source.scanFrom (s : Source) (scanner : Scanner) :
    Nat → Nat → Option (Nat × Position) → Position → Position → Scanned
  | 0, _, found, start, p => ⟨found, start, p⟩
  | fuel + 1, n, found, start, p =>
    let state := scanner.states[n]?.getD {}
    let found := match state.token with
      | some token => some (token, p)
      | none => found
    let stepOver (letter : Nat) (q : Position) : Scanned :=
      let step := state.steps[letter]?.getD {}
      if step.state = 0 then ⟨found, start, p⟩
      else s.scanFrom scanner fuel step.state found (if step.blank then q else start) q
    match s[p.index]? with
    | none =>
      if state.atEnd then ⟨some (endToken, p), start, p⟩
      else if state.nullAtEnd then stepOver 0 p
      else ⟨found, start, p⟩
    | some c => stepOver (Letter.of c) (p.past c)

/-- Runs a scanner at a place. -/
def Source.scan (s : Source) (scanner : Scanner) (p : Position) : Scanned :=
  s.scanFrom scanner (s.size + 2 - p.index) 1 none p p

/-! ## The next token -/

/-- A token of a source. -/
structure Token where
  /-- Nothing for characters that form no token. -/
  symbol : Option Nat
  start : Position
  stop : Position
  /-- The text is that of a keyword, even if it is read as a name here. -/
  keyword : Bool := false
  /-- The layout after the token, if the token depends on the layout. -/
  layout : Option Layout := none
  /-- The token has changed the layout. -/
  changed : Bool := false
  deriving Inhabited

/-- The state of looking for a token. -/
private structure Search where
  at_ : Position
  anything : Bool
  /-- The characters passed over that form no token. -/
  broken : Option (Position × Position) := none

/-- Tells a keyword from a name: the keyword, if the whole text of the name is that of one. -/
def Source.keyword? (s : Source) (a : Automaton) (start stop : Position) : Option Nat :=
  match (s.scan a.keywordScanner start).token with
  | some (token, end_) => if end_.index = stop.index then some token else none
  | none => none

/-- Finds the next token in a state of the automaton. `moved` tells that the reader has read
something since its last fault. A token without text counts only if it changes the layout, or if the
reader knows its place and has moved. -/
def readToken (s : Source) (a : Automaton) (here : Nat) (moved : Bool) (layout : Option Layout)
    (p : Position) : Token :=
  go (2 * s.size + 8) { at_ := p, anything := here = errorState }
where
  /-- One attempt; `fuel` counts them. -/
  go : Nat → Search → Token
    | 0, search => ⟨none, search.at_, search.at_, false, none, false⟩
    | fuel + 1, search =>
      let from_ := if search.anything then errorState else here
      let begin_ :=
        if search.at_.index = 0 then s.over '\ufeff' search.at_ else search.at_
      let found := layoutToken s (a.expected from_) search.anything layout begin_
      let found := found.bind fun token =>
        let changed := layout != some token.layout
        let empty := token.stop.offset ≤ search.at_.offset
        if empty && !changed && (search.anything || !moved) then none else some (token, changed)
      match found with
      | some (token, changed) =>
        finish search ⟨some token.token, token.start, token.stop, false, some token.layout, changed⟩
      | none =>
        let scanned := s.scan (a.scanner from_) begin_
        match scanned.token with
        | some (token, stop) => finish search (plain token scanned.start stop)
        | none =>
          if !search.anything then go fuel { at_ := p, anything := true }
          else
            let (start, end_) := search.broken.getD (scanned.start, scanned.start)
            let stop :=
              if scanned.stuck.index = end_.index then s.next scanned.stuck else scanned.stuck
            go fuel { search with at_ := stop, broken := some (start, stop) }
  /-- A token found by its text. A name with the text of an expected keyword is that keyword. -/
  plain (token : Nat) (start stop : Position) : Token :=
    let keyword := if token = a.grammar.name then s.keyword? a start stop else none
    let symbol := match keyword with
      | some k => if (a.expected here).has k then k else token
      | none => token
    ⟨some symbol, start, stop, keyword.isSome, none, false⟩
  /-- Characters passed over come before the token that was found behind them. -/
  finish (search : Search) (token : Token) : Token :=
    match search.broken with
    | some (start, stop) => ⟨none, start, stop, false, none, false⟩
    | none => token

end RefactorAudit.Python
