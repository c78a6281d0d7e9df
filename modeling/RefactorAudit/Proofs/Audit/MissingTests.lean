-- SUMMARY: Which methods are reported although a test names them.
import RefactorAudit.Audit.Findings
import RefactorAudit.Proofs.Audit.Mention
import RefactorAudit.Text.Identifier

/-!
# Missing tests

The words of a test file are made of the letters of ASCII, digits and underscores, but a method may
be named by any identifier. A name of the first kind that a test mentions is referenced and never
reported. A name with any other character is in no corpus at all.
-/

namespace RefactorAudit

/-! ## Identifiers -/

namespace Text

variable {c : Char} {name text : List Char}

/-- The text can be the name of a method. -/
def IsIdentifier (name : List Char) : Prop :=
  ∃ c rest, name = c :: rest ∧ isIdentifierStart c = true ∧
    ∀ d ∈ rest, isIdentifierContinue d = true

def IsAscii (text : List Char) : Prop := ∀ c ∈ text, c.toNat < 128

instance (text : List Char) : Decidable (IsAscii text) :=
  List.decidableBAll (fun c : Char => c.toNat < 128) text

theorem isIdentifierContinue_of_isIdentifierStart (h : isIdentifierStart c = true) :
    isIdentifierContinue c = true := by
  simp only [isIdentifierStart, isIdentifierContinue, Char.isAlphanum, Bool.or_eq_true,
    Bool.and_eq_true] at h ⊢
  rcases h with (h | h) | ⟨hge, h⟩
  · exact .inl (.inl h)
  · exact .inl (.inr (.inl h))
  · exact .inr ⟨hge, .inl h⟩

end Text

namespace Mention

open Text (IsAscii IsIdentifier IsRun StandsAlone isIdentifierContinue isIdentifierStart)

variable {c : Char} {name text : List Char}

theorem toNat_lt_of_isWordPart (h : isWordPart c = true) : c.toNat < 128 := by
  simp only [isWordPart, Char.isAlphanum, Char.isAlpha, Char.isUpper, Char.isLower, Char.isDigit,
    Bool.or_eq_true, Bool.and_eq_true, decide_eq_true_eq] at h
  rcases h with ((⟨-, hle⟩ | ⟨-, hle⟩) | ⟨-, hle⟩) | rfl
  · exact Nat.lt_of_le_of_lt hle (by decide)
  · exact Nat.lt_of_le_of_lt hle (by decide)
  · exact Nat.lt_of_le_of_lt hle (by decide)
  · decide

theorem isIdentifierContinue_of_isWordPart (h : isWordPart c = true) :
    isIdentifierContinue c = true := by
  simp only [isWordPart, Bool.or_eq_true, decide_eq_true_eq] at h
  simp only [isIdentifierContinue, Bool.or_eq_true, decide_eq_true_eq]
  exact .inl h.symm

/-- Among the characters of ASCII, words and identifiers are made of the same ones. -/
theorem isWordPart_of_isIdentifierContinue (h : isIdentifierContinue c = true)
    (hc : c.toNat < 128) : isWordPart c = true := by
  simp only [isIdentifierContinue, Bool.or_eq_true, Bool.and_eq_true, decide_eq_true_eq] at h
  simp only [isWordPart, Bool.or_eq_true, decide_eq_true_eq]
  rcases h with h | ⟨hge, -⟩
  · exact h.symm
  · exact absurd hc (Nat.not_lt.2 hge)

theorem isDigit_eq_false_of_isIdentifierStart (h : isIdentifierStart c = true) :
    c.isDigit = false := by
  rw [Bool.eq_false_iff]
  intro hdigit
  simp only [Char.isDigit, Bool.and_eq_true, decide_eq_true_eq] at hdigit
  have hlow : 48 ≤ c.toNat := hdigit.1
  have hhigh : c.toNat ≤ 57 := hdigit.2
  simp only [isIdentifierStart, Char.isAlpha, Char.isUpper, Char.isLower, Bool.or_eq_true,
    Bool.and_eq_true, decide_eq_true_eq] at h
  rcases h with (rfl | ⟨hge, -⟩ | ⟨hge, -⟩) | ⟨hge, -⟩
  · exact absurd hhigh (by decide)
  · have hge : 65 ≤ c.toNat := hge
    omega
  · have hge : 97 ≤ c.toNat := hge
    omega
  · omega

/-- What a text mentions is made of word characters. -/
theorem Mentions.isAscii (h : Mentions text name) : IsAscii name := by
  obtain ⟨-, run, hrun, hname⟩ := mentions_iff.1 h
  intro c hc
  have hmem : c ∈ run.dropWhile Char.isDigit := by
    rcases hname with hname | hname
    · rw [hname]
      exact hc
    · rw [hname]
      exact List.mem_append_right _ hc
  exact toNat_lt_of_isWordPart (hrun.all_join c ((List.dropWhile_sublist _).mem hmem))

/-- An identifier that stands alone in a text is one of its runs. -/
theorem mentions_of_standsAlone (hname : IsIdentifier name) (hascii : IsAscii name)
    (h : StandsAlone isIdentifierContinue name text) : Mentions text name := by
  obtain ⟨c, rest, rfl, hstart, hrest⟩ := hname
  have hcontinue : ∀ d ∈ c :: rest, isIdentifierContinue d = true := by
    intro d hd
    rcases List.mem_cons.1 hd with rfl | hd
    · exact Text.isIdentifierContinue_of_isIdentifierStart hstart
    · exact hrest d hd
  have hrun : IsRun isWordPart (c :: rest) text := by
    refine ⟨List.cons_ne_nil _ _, fun d hd => ?_, ?_⟩
    · exact isWordPart_of_isIdentifierContinue (hcontinue d hd) (hascii d hd)
    · exact h.mono fun d => isIdentifierContinue_of_isWordPart
  refine mentions_iff.2 ⟨List.cons_ne_nil _ _, c :: rest, hrun, .inl ?_⟩
  rw [List.dropWhile_cons_of_neg]
  simp [isDigit_eq_false_of_isIdentifierStart hstart]

end Mention

/-! ## Reported methods -/

namespace Audit

open Text (IsAscii IsIdentifier StandsAlone isIdentifierContinue)

variable {α : Type} {name : String}

theorem mem_firsts {all : List String} : name ∈ firsts all ↔ name ∈ all := by
  induction all with
  | nil => rfl
  | cons n rest ih =>
    rw [firsts, List.mem_cons, List.mem_cons, List.mem_filter, ih]
    by_cases heq : name = n
    · simp [heq]
    · simp [heq]

/-- The names that are looked for in the tests. -/
def candidates (s : Snapshot α) (diff : Option Diff) : List String :=
  s.methods.map (·.name) ++ (diff.map (·.missing)).getD []

theorem mem_missingTests {s : Snapshot α} {diff : Option Diff} {corpus : Corpus} {mark : String} :
    name ∈ missingTests s diff corpus mark ↔
      name ∈ candidates s diff ∧ Names.isPrivate mark name = false ∧
        corpus.references name = false := by
  simp only [missingTests, candidates, List.mem_filter, mem_firsts, Bool.not_eq_true', and_assoc]

/-- A method whose own name a test mentions is referenced, and so not reported, just if this name is
written in ASCII. Otherwise no test saves it. -/
theorem mentioned_reported_iff_not_ascii (sources : List String) (name : String)
    (hname : IsIdentifier (Names.simple name).toList)
    (h : ∃ source ∈ sources,
      StandsAlone isIdentifierContinue (Names.simple name).toList source.toList) :
    ((Corpus.ofSources sources).references name = true ↔ IsAscii (Names.simple name).toList) ∧
    ∀ (s : Snapshot α) (diff : Option Diff) (mark : String),
      name ∈ missingTests s diff (Corpus.ofSources sources) mark ↔
        name ∈ candidates s diff ∧ Names.isPrivate mark name = false ∧
          ¬ IsAscii (Names.simple name).toList := by
  have hreferences : (Corpus.ofSources sources).references name = true ↔
      IsAscii (Names.simple name).toList := by
    rw [Corpus.references_iff]
    constructor
    · rintro ⟨source, -, hmentions⟩
      exact hmentions.isAscii
    · intro hascii
      obtain ⟨source, hsource, halone⟩ := h
      exact ⟨source, hsource, Mention.mentions_of_standsAlone hname hascii halone⟩
  refine ⟨hreferences, fun s diff mark => ?_⟩
  rw [mem_missingTests, ← hreferences, Bool.not_eq_true]

/-- The method is called on a value whose name is not written in ASCII. -/
theorem mentioned_reported_iff_not_ascii_of_call :
    let source := "é.parse(x)"
    IsIdentifier (Names.simple "Reader.parse").toList ∧
    StandsAlone isIdentifierContinue (Names.simple "Reader.parse").toList source.toList ∧
    (Corpus.ofSources [source]).references "Reader.parse" = true ∧
    "Reader.parse" ∉ missingTests (.new "a.py" [.found "Reader.parse" 1 2 1] : Snapshot) none
      (Corpus.ofSources [source]) "_" := by
  intro source
  have hname : IsIdentifier (Names.simple "Reader.parse").toList :=
    ⟨'p', "arse".toList, by decide, by decide, List.all_eq_true.1 (by decide)⟩
  have halone : StandsAlone isIdentifierContinue (Names.simple "Reader.parse").toList
      source.toList := .between "é.".toList "(x)".toList (by decide) (by decide) (by decide)
  have hascii : IsAscii (Names.simple "Reader.parse").toList := by decide
  obtain ⟨hreferences, hreported⟩ := mentioned_reported_iff_not_ascii (α := Float) [source]
    "Reader.parse" hname ⟨source, List.mem_singleton.2 rfl, halone⟩
  refine ⟨hname, halone, hreferences.2 hascii, fun hmem => ?_⟩
  exact ((hreported _ _ _).1 hmem).2.2 hascii

/-- A test calls the method, and it is reported all the same. -/
theorem reported_of_accented_name :
    let source := "def test_order():\n    assert café() == 1\n"
    IsIdentifier (Names.simple "café").toList ∧
    StandsAlone isIdentifierContinue (Names.simple "café").toList source.toList ∧
    (Corpus.ofSources [source]).references "café" = false ∧
    "café" ∈ missingTests (.new "a.py" [.found "café" 1 2 1] : Snapshot) none
      (Corpus.ofSources [source]) "_" := by
  intro source
  have hname : IsIdentifier (Names.simple "café").toList :=
    ⟨'c', "afé".toList, by decide, by decide, List.all_eq_true.1 (by decide +kernel)⟩
  have halone : StandsAlone isIdentifierContinue (Names.simple "café").toList source.toList :=
    .between "def test_order():\n    assert ".toList "() == 1\n".toList (by decide) (by decide)
      (by decide)
  have hnot : (Corpus.ofSources [source]).references "café" = false := by
    rw [Bool.eq_false_iff]
    intro hreferences
    obtain ⟨_, -, hmentions⟩ := (Corpus.references_iff [source]).1 hreferences
    exact absurd hmentions.isAscii (by decide)
  exact ⟨hname, halone, hnot, mem_missingTests.2 ⟨List.mem_cons_self, by decide, hnot⟩⟩

end Audit

end RefactorAudit
