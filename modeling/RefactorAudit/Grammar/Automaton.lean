-- SUMMARY: The automaton of a grammar: its states, and what is looked for in each of them.
import RefactorAudit.Grammar.Merging
import RefactorAudit.Grammar.Scanner

/-!
# Automaton

The states of a grammar after merging. Each state acts on the tokens that it expects, and looks for
them with a scanner that it shares with other states. A scanner may look for more tokens than a
state expects, as long as this does not change how the expected ones are read; a reader then knows
which token it has met in their place.

A keyword is found as a name first and told from it afterwards, so that a name can still stand where
the keyword cannot.
-/

namespace RefactorAudit.Grammar

/-- A state of an automaton. -/
structure State where
  /-- The tokens on which something can be done. -/
  expected : TokenSet
  /-- The actions on each token: reductions first, a shift last. -/
  actions : Array (Array Action)
  /-- The state behind each rule; the error state if the rule cannot stand here. -/
  moves : Array Nat
  /-- The number of the scanner that looks for the expected tokens. -/
  scanner : Nat
  deriving Inhabited

/-- The automaton of a grammar. -/
structure Automaton where
  grammar : Indexed
  states : Array State
  scanners : Array Scanner
  /-- The scanner that tells which keyword a name is. -/
  keywordScanner : Scanner
  deriving Inhabited

/-! ## Tokens of a grammar -/

/-- The tokens of a grammar, how they can be confused, and which of them meet in a state. -/
structure TokenSurvey where
  grammar : Indexed
  network : Network
  confusions : Confusions
  /-- For each token, the tokens expected together with it in some state. -/
  together : Array TokenSet
  /-- The same for states in which no name is expected. -/
  togetherWithoutName : Array TokenSet
  deriving Inhabited

namespace TokenSurvey

/-- The letters that a token can begin with, blanks in front of it among them. -/
def firstLetters (net : Network) (token : Nat) : List Nat :=
  match net.entries[token]?.join with
  | some entry => (net.moves (net.reach [entry])).flatMap (·.letters)
  | none => []

/-- The tokens expected together with each token in the drafts that are looked at. -/
def gather (g : Indexed) (drafts : Array Draft) : Array TokenSet :=
  (Array.range g.endToken).map fun t =>
    drafts.foldl (fun s d => if d.expected.has t then s.join d.expected else s) 0

/-- Surveys the tokens of a grammar. -/
def ofDrafts (g : Indexed) (letterCount : Nat) (blanks : List Nat) (drafts : Array Draft) :
    TokenSurvey :=
  let network := Network.ofSpellings letterCount blanks (g.terminals.map (·.spelling))
  let starts := (Array.range g.endToken).map (firstLetters network)
  let follow := g.following.map fun s =>
    ((s.members g.endToken).flatMap fun t => starts[t]?.getD []).eraseDups
  { grammar := g, network
    confusions := .ofNetwork network fun t => follow[t]?.getD []
    together := gather g drafts
    togetherWithoutName := gather g (drafts.filter fun d => !d.expected.has g.name) }

variable (s : TokenSurvey)

def tokens : List Nat := List.range s.grammar.endToken

def meet (a b : Nat) : Bool := (s.together[a]?.getD 0).has b

/-- Whether a token can be told from a name after the name was found: it has the text of a name, of
no other keyword, and stands to the other tokens as a name does. -/
def isKeyword (candidates : List Nat) (t : Nat) : Bool :=
  let name := s.grammar.name
  let shadowed := candidates.any fun o => o ≠ t && (s.confusions.of o t).sameText
  let differs := s.tokens.any fun o =>
    o ≠ name && !candidates.contains o && s.network.spelled o
      && (s.togetherWithoutName[t]?.getD 0).has o
      && s.confusions.of t o ≠ s.confusions.of name o
  candidates.contains t && !shadowed && !differs

/-- The keywords. -/
def keywords : TokenSet :=
  let name := s.grammar.name
  let nameStarts := (firstLetters s.network name).eraseDups
  let candidates := s.tokens.filter fun t =>
    t ≠ name && s.network.spelled t && (firstLetters s.network t).all nameStarts.contains
      && (s.confusions.of t name).sameText && !(s.confusions.of t name).ownText
  TokenSet.ofList (candidates.filter (s.isKeyword candidates))

/-- What matters about tokens when states are merged. A name disturbs no keyword and no keyword a
name. -/
def relations (keywords : TokenSet) : TokenRelations :=
  let g := s.grammar
  { watched := g.watched
    disturbs := (Array.range g.endToken).map fun t =>
      TokenSet.ofList (s.tokens.filter fun o =>
        (s.confusions.of t o).disturbs && !(t = g.name && keywords.has o)
          && !(o = g.name && keywords.has t)) }

/-- The tokens that are looked for when the reader has lost its place: all but those that would
disturb the reading of a token that is safe from every token it never meets. -/
def lost (keywords : TokenSet) : TokenSet :=
  let safe := s.tokens.filter fun t => s.network.spelled t && s.tokens.all fun o =>
    o = t || s.meet t o || !s.network.spelled o ||
      !(let c := s.confusions.of t o
        (c.longerWithinText || c.atBlanks) && !(s.confusions.of o t).atBlanks)
  let disturbing (t : Nat) : Bool :=
    safe.any fun o => !s.meet t o && (s.confusions.of t o).disturbs
  TokenSet.ofList (s.grammar.endToken :: s.tokens.filter fun t =>
    s.grammar.isLayout t || safe.contains t || keywords.has t || t = s.grammar.name
      || !disturbing t)

/-- For each token, the tokens that may change its reading if they are looked for as well. -/
def harms : Array TokenSet :=
  (Array.range s.grammar.endToken).map fun t =>
    TokenSet.ofList (s.tokens.filter fun o =>
      let c := s.confusions.of t o
      c.disturbs || c.shorter
        || (!s.meet t o && (c.overlaps || (s.confusions.of o t).overlaps)))

/-- The tokens that are looked for where some tokens are expected: a name for each keyword, and
nothing for tokens that are found by the layout. -/
def sought (keywords expected : TokenSet) : TokenSet :=
  TokenSet.ofList (((List.range (s.grammar.endToken + 1)).filter expected.has).filterMap fun t =>
    if t = s.grammar.endToken then some t
    else if s.grammar.isLayout t then none
    else if keywords.has t then some s.grammar.name
    else some t)

end TokenSurvey

/-- Whether two sets of tokens can be looked for together: no token that only one of them holds may
change the reading of the other. -/
def compatible (harms : Array TokenSet) (count : Nat) (a b : TokenSet) : Bool :=
  let harmless (others : TokenSet) (t : Nat) : Bool :=
    TokenSet.meet (harms[t]?.getD 0) others = 0
  ((a.without b).members count).all (harmless b) && ((b.without a).members count).all (harmless a)

/-- Adds a set of tokens to the first set that it can be looked for together with. The result is the
number of that set. -/
def addSought (harms : Array TokenSet) (sets : Array TokenSet) (tokens : TokenSet) :
    Nat × Array TokenSet :=
  match sets.findIdx? (compatible harms harms.size · tokens) with
  | some n => (n, sets.modify n (·.join tokens))
  | none => (sets.size, sets.push tokens)

/-! ## The whole automaton -/

namespace Automaton

/-- The automaton of a grammar. `blanks` are the letters of blanks between tokens. -/
def ofGrammar (g : Indexed) (letterCount : Nat) (blanks : List Nat) : Automaton :=
  let drafts := g.drafts
  let survey := TokenSurvey.ofDrafts g letterCount blanks drafts
  let keywords := survey.keywords
  let lost := survey.lost keywords
  let drafts := drafts.modify errorState fun d =>
    { d with
      expected := lost.join g.extras
      actions := d.actions.mapIdx fun t _ =>
        if g.extras.has t then #[Action.skip] else if lost.has t then #[Action.recover] else #[] }
  let merged := arrange (g.leadPast (merge (survey.relations keywords) drafts))
  let harms := survey.harms
  let (states, sets) := merged.foldl (fun ((states : Array State), sets) d =>
    let (scanner, sets) := addSought harms sets (survey.sought keywords d.expected)
    (states.push { expected := d.expected, actions := d.actions, moves := d.moves, scanner }, sets))
    (#[], #[])
  { grammar := g, states
    scanners := sets.map survey.network.scanner
    keywordScanner := survey.network.scanner keywords }

def state (a : Automaton) (n : Nat) : State := a.states[n]?.getD default

def expected (a : Automaton) (n : Nat) : TokenSet := (a.state n).expected

/-- The actions in a state on a token: reductions first, a shift last. -/
def actions (a : Automaton) (n token : Nat) : Array Action := (a.state n).actions[token]?.getD #[]

/-- The state behind a rule. -/
def move (a : Automaton) (n rule : Nat) : Nat := (a.state n).moves[rule]?.getD errorState

/-- Whether two states look for the same tokens, by text and by layout. -/
def looksAlike (a : Automaton) (m n : Nat) : Bool :=
  (a.state m).scanner = (a.state n).scanner &&
    a.grammar.watched.meet (a.expected m) = a.grammar.watched.meet (a.expected n)

/-- The scanner of a state. -/
def scanner (a : Automaton) (n : Nat) : Scanner := a.scanners[(a.state n).scanner]?.getD default

end Automaton

end RefactorAudit.Grammar
