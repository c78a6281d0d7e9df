-- SUMMARY: The names that the tests of a project mention.
import Std.Data.HashSet.Basic
import RefactorAudit.Snapshot
import RefactorAudit.Text.Blank

/-!
# Test corpora

A method counts as tested if its own name or its full dotted name stands anywhere in the tests.
Tests are read as plain text: words, joined to chains where single dots stand between them.
-/

namespace RefactorAudit

namespace Mention

/-! ## Words and chains -/

/-- What a text consists of, blanks left out. -/
inductive Token where
  | word (name : String)
  | dot
  /-- A character or number that belongs to no name. -/
  | other
  deriving DecidableEq, Repr, Inhabited

/-- The characters of a word, which does not begin with a digit. -/
def isWordPart (c : Char) : Bool := c.isAlphanum || c = '_'

/-- A run of word characters: the word in it begins behind its leading digits. -/
def ofRun (run : List Char) : List Token :=
  let name := run.dropWhile Char.isDigit
  (if name.length = run.length then [] else [.other])
    ++ (if name.isEmpty then [] else [.word (String.ofList name)])

def tokens : List Char → List Token
  | [] => []
  | c :: rest =>
    if isWordPart c then
      ofRun (c :: rest.takeWhile isWordPart) ++ tokens (rest.dropWhile isWordPart)
    else if Text.isBlank c then tokens rest
    else (if c = '.' then .dot else .other) :: tokens rest
  termination_by cs => cs.length
  decreasing_by
    · have := (List.dropWhile_sublist (l := rest) isWordPart).length_le
      simp only [List.length_cons]; omega
    · simp
    · simp

/-- The words of a text, those that are joined by dots together. -/
def chains : List Token → List (List String)
  | [] => []
  | .word w :: .dot :: .word v :: rest =>
    match chains (.word v :: rest) with
    | first :: others => (w :: first) :: others
    | [] => [[w]]
  | .word w :: rest => [w] :: chains rest
  | _ :: rest => chains rest

/-- The parts of a chain with at least two words. -/
def windows : List String → List (List String)
  | [] => []
  | w :: rest => (List.range rest.length).map (fun n => w :: rest.take (n + 1)) ++ windows rest

/-- The names that a word mentions: itself, and what it tests. -/
def namesOf (word : String) : List String :=
  match Text.dropStart? "test_".toList word.toList with
  | some (c :: rest) => [word, String.ofList (c :: rest)]
  | _ => [word]

end Mention

/-! ## Corpora -/

/-- The names in a number of test files. -/
structure Corpus where
  /-- Single names. -/
  names : Std.HashSet String := {}
  /-- Names with dots. -/
  dotted : Std.HashSet String := {}
  fileCount : Nat := 0

namespace Corpus

def empty : Corpus := {}

instance : Inhabited Corpus := ⟨empty⟩

def isEmpty (c : Corpus) : Bool := c.fileCount = 0

/-- Takes up one more test file. -/
def add (c : Corpus) (source : String) : Corpus :=
  let chains := Mention.chains (Mention.tokens source.toList)
  { names := (chains.flatten.flatMap Mention.namesOf).foldl (·.insert ·) c.names
    dotted := ((chains.flatMap Mention.windows).map (".".intercalate ·)).foldl (·.insert ·) c.dotted
    fileCount := c.fileCount + 1 }

def ofSources (sources : List String) : Corpus := sources.foldl add empty

/-- Whether the tests mention a method. -/
def references (c : Corpus) (name : String) : Bool :=
  c.names.contains (Names.simple name) || c.dotted.contains name

end Corpus

end RefactorAudit
