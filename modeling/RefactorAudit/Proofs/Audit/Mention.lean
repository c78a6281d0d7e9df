-- SUMMARY: Which names a test corpus mentions.
import RefactorAudit.Audit.Corpus
import RefactorAudit.Proofs.Text.Run
import Mathlib

/-!
# Mentioned names

The words of a test file are its runs of word characters, each without its leading digits. A corpus
mentions these words and what they test, and nothing else: a name with dots is mentioned just if the
last of its parts is, so the order of the files and the names with dots do not matter.
-/

namespace RefactorAudit

/-! ## Own names -/

namespace Names

variable {front rest : List Char} {words : List String}

theorem afterLastDot_append_cons (front rest : List Char) :
    afterLastDot (front ++ '.' :: rest) = afterLastDot rest := by
  rw [afterLastDot, afterLastDot, List.reverse_append, List.reverse_cons, List.append_assoc,
    List.takeWhile_append]
  split
  · next hall =>
    have hself : rest.reverse.takeWhile (· ≠ '.') = rest.reverse :=
      (List.takeWhile_sublist _).eq_of_length hall
    rw [hself]
    simp
  · rfl

theorem afterLastDot_of_not_mem (h : '.' ∉ rest) : afterLastDot rest = rest := by
  have hall : ∀ c ∈ rest.reverse, decide (c ≠ '.') = true := by
    intro c hc
    apply decide_eq_true
    rintro rfl
    exact h (List.mem_reverse.1 hc)
  rw [afterLastDot, List.takeWhile_eq_self_iff.2 hall, List.reverse_reverse]

theorem not_mem_afterLastDot : '.' ∉ afterLastDot rest := by
  intro h
  have hp := List.mem_takeWhile_imp (List.mem_reverse.1 h)
  simp at hp

theorem simple_simple (name : String) : simple (simple name) = simple name := by
  rw [simple, simple, String.toList_ofList, afterLastDot_of_not_mem not_mem_afterLastDot]

/-- The own name stands behind the last dot of a name; without a dot it is the whole name. -/
def IsOwn (own name : String) : Prop :=
  '.' ∉ own.toList ∧ (own = name ∨ ∃ front, name.toList = front ++ '.' :: own.toList)

theorem eq_or_exists_eq_append_afterLastDot (cs : List Char) :
    afterLastDot cs = cs ∨ ∃ front, cs = front ++ '.' :: afterLastDot cs := by
  have hsplit : cs = (cs.reverse.dropWhile (· ≠ '.')).reverse ++ afterLastDot cs := by
    rw [afterLastDot, ← List.reverse_append, List.takeWhile_append_dropWhile, List.reverse_reverse]
  have hhead := List.head?_dropWhile_not (fun c : Char => decide (c ≠ '.')) cs.reverse
  cases hdrop : cs.reverse.dropWhile (· ≠ '.') with
  | nil =>
    rw [hdrop] at hsplit
    exact .inl hsplit.symm
  | cons c rest =>
    rw [hdrop] at hsplit hhead
    obtain rfl : c = '.' := by simpa using hhead
    exact .inr ⟨rest.reverse, by simpa using hsplit⟩

theorem isOwn_simple (name : String) : IsOwn (simple name) name := by
  unfold IsOwn simple
  rw [String.toList_ofList]
  refine ⟨not_mem_afterLastDot, ?_⟩
  rcases eq_or_exists_eq_append_afterLastDot name.toList with h | h
  · exact .inl (by rw [h, String.ofList_toList])
  · exact .inr h

/-- A name has one own name, the one that is looked for. -/
theorem isOwn_iff {own name : String} : IsOwn own name ↔ own = simple name := by
  constructor
  · rintro ⟨hdot, rfl | ⟨front, hname⟩⟩
    · rw [simple, afterLastDot_of_not_mem hdot, String.ofList_toList]
    · rw [simple, hname, afterLastDot_append_cons, afterLastDot_of_not_mem hdot,
        String.ofList_toList]
  · rintro rfl
    exact isOwn_simple name

/-- The last part of a name is the last word that dots join to it. -/
theorem simple_intercalate (hne : words ≠ []) (h : ∀ w ∈ words, '.' ∉ w.toList) :
    simple (".".intercalate words) ∈ words := by
  induction words with
  | nil => exact absurd rfl hne
  | cons w rest ih =>
    cases rest with
    | nil =>
      have hself : simple (".".intercalate [w]) = w := by
        rw [String.intercalate_singleton, simple,
          afterLastDot_of_not_mem (h w List.mem_cons_self), String.ofList_toList]
      rw [hself]
      exact List.mem_cons_self
    | cons v rest =>
      have hnext : simple (".".intercalate (w :: v :: rest)) =
          simple (".".intercalate (v :: rest)) := by
        have htext : (".".intercalate (w :: v :: rest)).toList =
            w.toList ++ '.' :: (".".intercalate (v :: rest)).toList := by
          rw [String.intercalate_cons_cons, String.toList_append, String.toList_append,
            List.append_assoc]
          rfl
        rw [simple, htext, afterLastDot_append_cons, ← simple]
      rw [hnext]
      apply List.mem_cons_of_mem
      exact ih (List.cons_ne_nil _ _) fun u hu => h u (List.mem_cons_of_mem _ hu)

end Names

namespace Mention

open Text (IsRun)

variable {text : List Char} {name : String}

/-! ## Words -/

/-- The name that a token is. -/
def Token.word? : Token → Option String
  | .word name => some name
  | _ => none

/-- The words among some tokens. -/
def wordsOf (all : List Token) : List String := all.filterMap Token.word?

theorem wordsOf_append (front rest : List Token) :
    wordsOf (front ++ rest) = wordsOf front ++ wordsOf rest :=
  List.filterMap_append

theorem mem_wordsOf_ofRun {run : List Char} :
    name ∈ wordsOf (ofRun run) ↔ name ≠ "" ∧ run.dropWhile Char.isDigit = name.toList := by
  have hdigits : wordsOf (if (run.dropWhile Char.isDigit).length = run.length then []
      else [.other]) = [] := by
    split <;> rfl
  rw [ofRun, wordsOf_append, hdigits, List.nil_append]
  cases hword : run.dropWhile Char.isDigit with
  | nil =>
    simp only [List.isEmpty_nil, if_true]
    constructor
    · intro h
      exact absurd h List.not_mem_nil
    · rintro ⟨hne, heq⟩
      exact absurd (String.toList_eq_nil_iff.1 heq.symm) hne
  | cons c rest =>
    simp only [List.isEmpty_cons, Bool.false_eq_true, if_false]
    rw [show wordsOf [.word (String.ofList (c :: rest))] = [String.ofList (c :: rest)] from rfl,
      List.mem_singleton]
    constructor
    · rintro rfl
      refine ⟨?_, String.toList_ofList.symm⟩
      intro hempty
      have hnil := congrArg String.toList hempty
      rw [String.toList_ofList] at hnil
      exact nomatch hnil
    · rintro ⟨-, heq⟩
      rw [heq, String.ofList_toList]

/-- The words of a text are its runs of word characters without their leading digits. -/
theorem mem_wordsOf_tokens : name ∈ wordsOf (tokens text) ↔
    name ≠ "" ∧ ∃ run, IsRun isWordPart run text ∧ run.dropWhile Char.isDigit = name.toList := by
  induction text using tokens.induct with
  | case1 =>
    rw [tokens]
    constructor
    · intro h
      exact absurd h List.not_mem_nil
    · rintro ⟨-, run, hrun, -⟩
      exact absurd hrun Text.not_isRun_nil
  | case2 c rest hc ih =>
    have htext : c :: rest = (c :: rest.takeWhile isWordPart) ++ rest.dropWhile isWordPart := by
      rw [List.cons_append, List.takeWhile_append_dropWhile]
    have hfront : ∀ d ∈ c :: rest.takeWhile isWordPart, isWordPart d = true := by
      intro d hd
      rcases List.mem_cons.1 hd with rfl | hd
      · exact hc
      · exact List.mem_takeWhile_imp hd
    have hrest : ∀ d ∈ (rest.dropWhile isWordPart).head?, isWordPart d = false := by
      intro d hd
      have hhead := List.head?_dropWhile_not isWordPart rest
      rw [hd] at hhead
      exact hhead
    have hruns : ∀ run, IsRun isWordPart run (c :: rest) ↔
        run = c :: rest.takeWhile isWordPart ∨
          IsRun isWordPart run (rest.dropWhile isWordPart) := by
      intro run
      rw [htext]
      exact Text.isRun_append_iff (List.cons_ne_nil _ _) hfront hrest
    rw [tokens, if_pos hc, wordsOf_append, List.mem_append, ih, mem_wordsOf_ofRun]
    simp only [hruns]
    constructor
    · rintro (⟨hne, heq⟩ | ⟨hne, run, hrun, heq⟩)
      · exact ⟨hne, _, .inl rfl, heq⟩
      · exact ⟨hne, run, .inr hrun, heq⟩
    · rintro ⟨hne, run, rfl | hrun, heq⟩
      · exact .inl ⟨hne, heq⟩
      · exact .inr ⟨hne, run, hrun, heq⟩
  | case3 c rest hc hblank ih =>
    have hnot : isWordPart c = false := by simpa using hc
    rw [tokens, if_neg hc, if_pos hblank, ih]
    simp only [Text.isRun_cons_iff hnot]
  | case4 c rest hc hblank ih =>
    have hnot : isWordPart c = false := by simpa using hc
    have hsymbol : wordsOf ((if c = '.' then .dot else .other) :: tokens rest) =
        wordsOf (tokens rest) := by
      split <;> rfl
    rw [tokens, if_neg hc, if_neg hblank, hsymbol, ih]
    simp only [Text.isRun_cons_iff hnot]

/-- Joining words to chains keeps them all. -/
theorem flatten_chains (all : List Token) : (chains all).flatten = wordsOf all := by
  induction all using chains.induct with
  | case1 => rfl
  | case2 w v rest first others hchains ih =>
    rw [hchains] at ih
    rw [chains, hchains]
    change w :: (first :: others).flatten = w :: wordsOf (.word v :: rest)
    rw [ih]
  | case3 w v rest hchains ih =>
    rw [hchains] at ih
    rw [chains, hchains]
    change [w] = w :: wordsOf (.word v :: rest)
    rw [← ih]
    rfl
  | case4 w rest hdot ih =>
    rw [chains]
    · change w :: (chains rest).flatten = w :: wordsOf rest
      rw [ih]
    · exact hdot
  | case5 token rest hchain hword ih =>
    rw [chains, ih]
    · cases token with
      | word w => exact (hword w rfl).elim
      | dot => rfl
      | other => rfl
    · exact hchain
    · exact hword

/-! ## Names -/

/-- A word mentions itself and what stands behind `test_` in it. -/
theorem mem_namesOf {word : String} (hword : word ≠ "") : name ∈ namesOf word ↔
    name ≠ "" ∧ (word.toList = name.toList ∨ word.toList = "test_".toList ++ name.toList) := by
  have hself : word.toList = name.toList ↔ name = word := by
    rw [String.toList_inj, eq_comm]
  rw [hself]
  unfold namesOf
  split
  · next c rest hdrop =>
    rw [Text.dropStart?_eq_some_iff.1 hdrop, List.append_cancel_left_eq, List.mem_cons,
      List.mem_singleton]
    constructor
    · rintro (rfl | rfl)
      · exact ⟨hword, .inl rfl⟩
      · refine ⟨?_, .inr String.toList_ofList.symm⟩
        intro hempty
        rw [← String.toList_eq_nil_iff, String.toList_ofList] at hempty
        exact nomatch hempty
    · rintro ⟨-, heq | heq⟩
      · exact .inl heq
      · exact .inr (by rw [heq, String.ofList_toList])
  · next hnone =>
    rw [List.mem_singleton]
    constructor
    · rintro rfl
      exact ⟨hword, .inl rfl⟩
    · rintro ⟨hne, heq | heq⟩
      · exact heq
      · obtain ⟨c, rest, htext⟩ := List.exists_cons_of_ne_nil
          fun hnil => hne (String.toList_eq_nil_iff.1 hnil)
        rw [htext] at heq
        exact absurd (Text.dropStart?_eq_some_iff.2 heq) (hnone c rest)

/-- The characters that words are made of: the letters of ASCII, the digits and the underscore. -/
def IsWordCharacter (c : Char) : Prop :=
  ('A' ≤ c ∧ c ≤ 'Z') ∨ ('a' ≤ c ∧ c ≤ 'z') ∨ ('0' ≤ c ∧ c ≤ '9') ∨ c = '_'

instance (c : Char) : Decidable (IsWordCharacter c) := by
  unfold IsWordCharacter
  infer_instance

theorem isWordPart_eq : isWordPart = fun c => decide (IsWordCharacter c) := by
  funext c
  rw [Bool.eq_iff_iff, decide_eq_true_iff]
  simp only [isWordPart, IsWordCharacter, Char.isAlphanum, Char.isAlpha, Char.isUpper, Char.isLower,
    Char.isDigit, Bool.or_eq_true, Bool.and_eq_true, decide_eq_true_eq, or_assoc]
  exact Iff.rfl

/-- The text mentions a name: a run of it, less its leading digits, is the name or tests it. -/
def Mentions (text name : List Char) : Prop :=
  name ≠ [] ∧ ∃ run, IsRun (fun c => decide (IsWordCharacter c)) run text ∧
    (run.dropWhile Char.isDigit = name ∨ run.dropWhile Char.isDigit = "test_".toList ++ name)

theorem mentions_iff {name : List Char} : Mentions text name ↔
    name ≠ [] ∧ ∃ run, IsRun isWordPart run text ∧
      (run.dropWhile Char.isDigit = name ∨
        run.dropWhile Char.isDigit = "test_".toList ++ name) := by
  rw [isWordPart_eq]
  exact Iff.rfl

theorem mem_names_iff :
    name ∈ (chains (tokens text)).flatten.flatMap namesOf ↔ Mentions text name.toList := by
  rw [mentions_iff, flatten_chains, List.mem_flatMap]
  constructor
  · rintro ⟨word, hword, hname⟩
    obtain ⟨hne, run, hrun, heq⟩ := mem_wordsOf_tokens.1 hword
    obtain ⟨hne', hname⟩ := (mem_namesOf hne).1 hname
    refine ⟨fun hnil => hne' (String.toList_eq_nil_iff.1 hnil), run, hrun, ?_⟩
    rw [heq]
    exact hname
  · rintro ⟨hne, run, hrun, hname⟩
    have hne' : name ≠ "" := fun h => hne (String.toList_eq_nil_iff.2 h)
    have htext : (String.ofList (run.dropWhile Char.isDigit)).toList = run.dropWhile Char.isDigit :=
      String.toList_ofList
    have hword : String.ofList (run.dropWhile Char.isDigit) ≠ "" := by
      intro hempty
      rw [← String.toList_eq_nil_iff, htext] at hempty
      rw [hempty] at hname
      rcases hname with hname | hname
      · exact hne hname.symm
      · exact nomatch hname
    refine ⟨_, mem_wordsOf_tokens.2 ⟨hword, run, hrun, htext.symm⟩, ?_⟩
    rw [mem_namesOf hword, htext]
    exact ⟨hne', hname⟩

/-! ## Names with dots -/

/-- A window is a part of the chain that is not empty. -/
theorem of_mem_windows {chain window : List String} (h : window ∈ windows chain) :
    window ≠ [] ∧ window ⊆ chain := by
  induction chain with
  | nil => exact nomatch h
  | cons w rest ih =>
    rw [windows, List.mem_append, List.mem_map] at h
    rcases h with ⟨n, -, rfl⟩ | h
    · refine ⟨List.cons_ne_nil _ _, ?_⟩
      exact List.cons_subset_cons w (List.take_subset _ _)
    · obtain ⟨hne, hsubset⟩ := ih h
      exact ⟨hne, fun other hother => List.mem_cons_of_mem w (hsubset hother)⟩

theorem not_mem_dot_of_mem_wordsOf (h : name ∈ wordsOf (tokens text)) : '.' ∉ name.toList := by
  obtain ⟨-, run, hrun, heq⟩ := mem_wordsOf_tokens.1 h
  intro hdot
  rw [← heq] at hdot
  have hpart := hrun.all_join '.' ((List.dropWhile_sublist _).mem hdot)
  exact absurd hpart (by decide)

/-- The last part of a name with dots is a word of the text. -/
theorem simple_mem_of_mem_windows
    (h : name ∈ ((chains (tokens text)).flatMap windows).map (".".intercalate ·)) :
    Mentions text (Names.simple name).toList := by
  obtain ⟨window, hwindow, rfl⟩ := List.mem_map.1 h
  obtain ⟨chain, hchain, hwindow⟩ := List.mem_flatMap.1 hwindow
  obtain ⟨hne, hsubset⟩ := of_mem_windows hwindow
  have hwords : ∀ w ∈ window, w ∈ wordsOf (tokens text) := by
    intro w hw
    rw [← flatten_chains]
    exact List.mem_flatten.2 ⟨chain, hchain, hsubset hw⟩
  have hsimple := Names.simple_intercalate hne fun w hw => not_mem_dot_of_mem_wordsOf (hwords w hw)
  obtain ⟨hempty, run, hrun, heq⟩ := mem_wordsOf_tokens.1 (hwords _ hsimple)
  rw [mentions_iff]
  exact ⟨fun hnil => hempty (String.toList_eq_nil_iff.1 hnil), run, hrun, .inl heq⟩

end Mention

/-! ## Corpora -/

namespace Corpus

open Mention (Mentions)

variable {name : String}

theorem contains_foldl_insert (names : List String) (all : Std.HashSet String) :
    (names.foldl (·.insert ·) all).contains name = true ↔
      name ∈ names ∨ all.contains name = true := by
  induction names generalizing all with
  | nil => simp
  | cons n rest ih =>
    rw [List.foldl_cons, ih, Std.HashSet.contains_insert, Bool.or_eq_true, beq_iff_eq,
      List.mem_cons, eq_comm, or_assoc, or_left_comm]

theorem ofSources_append (sources : List String) (source : String) :
    ofSources (sources ++ [source]) = (ofSources sources).add source := by
  rw [ofSources, List.foldl_append]
  rfl

theorem contains_names_ofSources (sources : List String) :
    (ofSources sources).names.contains name = true ↔
      ∃ source ∈ sources, Mentions source.toList name.toList := by
  induction sources using List.reverseRecOn with
  | nil => simp [ofSources, empty]
  | append_singleton front source ih =>
    rw [ofSources_append, add]
    dsimp only
    rw [contains_foldl_insert, Mention.mem_names_iff, ih]
    simp [or_and_right, exists_or, or_comm]

/-- Whatever the names with dots, their last parts are mentioned. -/
theorem contains_names_of_dotted (sources : List String)
    (h : (ofSources sources).dotted.contains name = true) :
    ∃ source ∈ sources, Mentions source.toList (Names.simple name).toList := by
  induction sources using List.reverseRecOn with
  | nil => simp [ofSources, empty] at h
  | append_singleton front source ih =>
    rw [ofSources_append, add] at h
    dsimp only at h
    rw [contains_foldl_insert] at h
    rcases h with h | h
    · exact ⟨source, by simp, Mention.simple_mem_of_mem_windows h⟩
    · obtain ⟨other, hother, hmentions⟩ := ih h
      exact ⟨other, List.mem_append_left _ hother, hmentions⟩

theorem references_iff (sources : List String) :
    (ofSources sources).references name = true ↔
      ∃ source ∈ sources, Mentions source.toList (Names.simple name).toList := by
  rw [references, Bool.or_eq_true, contains_names_ofSources]
  constructor
  · rintro (h | h)
    · exact h
    · exact contains_names_of_dotted sources h
  · intro h
    exact .inl h

/-- The tests reference a method just if they mention its own name, behind its last dot. The names
with dots, the order of the files and what is added later take nothing back. -/
theorem references_exactly_mentioned (sources : List String) (name : String) :
    Names.IsOwn (Names.simple name) name ∧
    ((ofSources sources).references name = true ↔
      ∃ source ∈ sources, Mentions source.toList (Names.simple name).toList) ∧
    (ofSources sources).references name = (ofSources sources).references (Names.simple name) ∧
    { ofSources sources with dotted := {} }.references name =
      (ofSources sources).references name ∧
    (∀ others : List String, others.Perm sources →
      (ofSources others).references name = (ofSources sources).references name) ∧
    ∀ source, (ofSources sources).references name = true →
      ((ofSources sources).add source).references name = true := by
  refine ⟨Names.isOwn_simple name, references_iff sources, ?_, ?_, ?_, ?_⟩
  · rw [Bool.eq_iff_iff, references_iff, references_iff, Names.simple_simple]
  · rw [Bool.eq_iff_iff, references_iff, ← contains_names_ofSources, references, Bool.or_eq_true]
    simp
  · intro others hperm
    rw [Bool.eq_iff_iff, references_iff, references_iff]
    simp only [hperm.mem_iff]
  · intro source h
    obtain ⟨other, hother, hmentions⟩ := (references_iff sources).1 h
    rw [← ofSources_append, references_iff]
    exact ⟨other, List.mem_append_left _ hother, hmentions⟩

end Corpus

end RefactorAudit
