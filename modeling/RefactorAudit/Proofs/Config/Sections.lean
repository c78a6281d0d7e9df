-- SUMMARY: What a document says about the fields of a configuration.
import RefactorAudit.Config
import RefactorAudit.Proofs.Outcome
import Mathlib.Algebra.GroupWithZero.Nat
import Mathlib.Algebra.Ring.Int.Defs
import Mathlib.Data.List.Induction

/-!
# Sections

A document has a value for some of the fields of a section, and for the others there is a standard
value. Each kind of value has its own form of item: a natural number, a text, a list of texts or a
number. A section is an item too, with the configuration that its fields give as its value. Reading
goes through the items one after the other, and each of them sets the field of its name. So it ends
with the configuration that the document gives, in which every field has the value of its last item.
-/

namespace RefactorAudit.Config

open Toml (Item Entries)

variable {β : Type} {item : Item} {name : String}

/-! ## Forms of values -/

/-- A whole number from zero to a limit. -/
inductive IsNatural (limit : Nat) : Item → Nat → Prop where
  | intro (place n : Nat) (h : n ≤ limit) : IsNatural limit (.plain place (.integer n)) n

inductive IsText : Item → String → Prop where
  | intro (place : Nat) (text : String) : IsText (.plain place (.string text)) text

inductive IsTexts : Item → List String → Prop where
  | list (place : Nat) {items : List Item} {texts : List String}
      (h : List.Forall₂ IsText items texts) : IsTexts (.list place items) texts
  | tables (place : Nat) {items : List Item} {texts : List String}
      (h : List.Forall₂ IsText items texts) : IsTexts (.tables place items) texts

/-- A float that is not too large, or a whole number of up to 64 bits with or without a sign. -/
inductive IsNumber : Item → Float → Prop where
  | float (place : Nat) (x : Float) : IsNumber (.plain place (.float (some x))) x
  | integer (place : Nat) (n : Int) (hlow : -2 ^ 63 ≤ n) (hhigh : n < 2 ^ 64) :
      IsNumber (.plain place (.integer n)) (Float.ofInt n)

/-- The fields of a section: the entries of a table, the items of a list in the order of the names,
or none in the place of a time. -/
inductive HasFields (names : List String) : Item → List (String × Item) → Prop where
  | table (place : Nat) (origin : Toml.Origin) (entries : List (String × Item)) :
      HasFields names (.table place origin entries) entries
  | list (place : Nat) (items : List Item) :
      HasFields names (.list place items) (names.zip items)
  | tables (place : Nat) (items : List Item) :
      HasFields names (.tables place items) (names.zip items)
  | time (place : Nat) : HasFields names (.plain place .time) []

/-! ## Reading a value -/

theorem natural_eq_ok_iff {limit n : Nat} :
    natural limit item = .ok n ↔ IsNatural limit item n := by
  constructor
  · intro h
    unfold natural at h
    split at h
    · next place m =>
      split at h
      · next hbounds =>
        cases h
        simp only [Bool.and_eq_true, decide_eq_true_eq] at hbounds
        lift m to Nat using hbounds.1
        exact .intro place m (Int.ofNat_le.1 hbounds.2)
      · exact nomatch h
    · exact nomatch h
  · rintro ⟨place, _, h⟩
    simp [natural, h]

theorem string_eq_ok_iff {text : String} : string item = .ok text ↔ IsText item text := by
  constructor
  · intro h
    unfold string at h
    split at h
    · cases h
      exact .intro _ _
    · exact nomatch h
  · rintro ⟨⟩
    rfl

theorem strings_eq_ok_iff {texts : List String} :
    strings item = .ok texts ↔ IsTexts item texts := by
  constructor
  · intro h
    unfold strings at h
    split at h
    · exact .list _ (by simpa only [mapM_eq_ok, string_eq_ok_iff] using h)
    · exact .tables _ (by simpa only [mapM_eq_ok, string_eq_ok_iff] using h)
    · exact nomatch h
  · rintro (⟨_, h⟩ | ⟨_, h⟩) <;> simpa only [strings, mapM_eq_ok, string_eq_ok_iff] using h

theorem fits_iff {n : Int} : fits 64 n = true ↔ -2 ^ 63 ≤ n ∧ n < 2 ^ 64 := by
  simp [fits]

theorem number_eq_ok_iff {x : Float} : number item = .ok x ↔ IsNumber item x := by
  constructor
  · intro h
    unfold number at h
    split at h
    · cases h
      exact .float _ _
    · split at h
      · next hfits =>
        cases h
        obtain ⟨hlow, hhigh⟩ := fits_iff.1 hfits
        exact .integer _ _ hlow hhigh
      · exact nomatch h
    · exact nomatch h
  · rintro (_ | ⟨_, n, hlow, hhigh⟩)
    · rfl
    · rw [number, if_pos (fits_iff.2 ⟨hlow, hhigh⟩)]
      rfl

theorem fieldsOf_eq_ok_iff {names : List String} {fields : List (String × Item)} :
    fieldsOf names item = .ok fields ↔ HasFields names item fields := by
  constructor
  · intro h
    unfold fieldsOf at h
    split at h
    · cases h
      exact .table _ _ _
    · cases h
      exact .list _ _
    · cases h
      exact .tables _ _
    · cases h
      exact .time _
    · exact nomatch h
  · rintro ⟨⟩ <;> rfl

/-! ## Fields -/

/-- The last item of a name. -/
def IsLast (name : String) (fields : List (String × Item)) (item : Item) : Prop :=
  ∃ front rest, fields = front ++ (name, item) :: rest ∧ ∀ field ∈ rest, field.1 ≠ name

/-- A field has the value of the last item of its name, or the standard one if there is none. -/
inductive Gives (form : Item → β → Prop) (name : String) (fields : List (String × Item))
    (standard : β) : β → Prop where
  | written {item : Item} {value : β} (hlast : IsLast name fields item) (h : form item value) :
      Gives form name fields standard value
  | missing (h : ∀ field ∈ fields, field.1 ≠ name) : Gives form name fields standard standard

/-- The fields of the section about audits give its settings. -/
structure GivesAudit (fields : List (String × Item)) (s : AuditSettings) : Prop where
  threshold : Gives (IsNatural (2 ^ 32 - 1)) "complexity_threshold" fields 10 s.threshold
  privateMark : Gives IsText "private_prefix" fields "_" s.privateMark
  jobs : Gives (IsNatural (2 ^ 64 - 1)) "jobs" fields 0 s.jobs
  exclude : Gives IsTexts "exclude" fields [] s.exclude

structure GivesPaths (fields : List (String × Item)) (s : PathSettings) : Prop where
  marker : Gives (fun item value => ∃ text, IsText item text ∧ value = some text)
    "project_root_marker" fields none s.marker
  repoRoot : Gives (fun item value => ∃ text, IsText item text ∧ value = some text)
    "repo_root" fields none s.repoRoot

structure GivesWeights (fields : List (String × Item)) (w : Severity.Weights) : Prop where
  typeErrors : Gives IsNumber "type_errors" fields 3.0 w.typeErrors
  lintIssues : Gives IsNumber "lint_issues" fields 1.0 w.lintIssues
  complexity : Gives IsNumber "complexity" fields 2.0 w.complexity
  coverageDeficit : Gives IsNumber "coverage_deficit" fields 0.5 w.coverageDeficit

/-- The item is a section, and its fields give its settings. -/
def IsSection (names : List String) (gives : List (String × Item) → β → Prop) (item : Item)
    (value : β) : Prop :=
  ∃ fields, HasFields names item fields ∧ gives fields value

/-- A document gives a configuration, section by section. -/
structure GivesConfig (entries : Entries) (c : Config) : Prop where
  audit : Gives
    (IsSection ["complexity_threshold", "private_prefix", "jobs", "exclude"] GivesAudit)
    "audit" entries { threshold := 10, privateMark := "_", jobs := 0, exclude := [] } c.audit
  paths : Gives (IsSection ["project_root_marker", "repo_root"] GivesPaths)
    "paths" entries { marker := none, repoRoot := none } c.paths
  weights : Gives
    (IsSection ["type_errors", "lint_issues", "complexity", "coverage_deficit"] GivesWeights)
    "severity" entries
    { typeErrors := 3.0, lintIssues := 1.0, complexity := 2.0, coverageDeficit := 0.5 } c.weights

/-! ## One item -/

variable {form : Item → β → Prop} {key : String} {standard before after : β}
variable {fields entries : List (String × Item)}

/-- An item sets the field of its own name and leaves every other one as it is. -/
inductive Sets (form : Item → β → Prop) (key : String) :
    String → Item → β → β → Prop where
  | own {item : Item} {before after : β} (h : form item after) : Sets form key key item before after
  | other {name : String} {item : Item} {value : β} (h : name ≠ key) :
      Sets form key name item value value

theorem gives_nil (form : Item → β → Prop) (key : String) (standard : β) :
    Gives form key [] standard standard :=
  .missing fun _ h => absurd h List.not_mem_nil

/-- What a field has follows the items one by one. -/
theorem Gives.step (h : Gives form key fields standard before)
    (hset : Sets form key name item before after) :
    Gives form key (fields ++ [(name, item)]) standard after := by
  cases hset with
  | own hform => exact .written ⟨fields, [], rfl, by simp⟩ hform
  | other hne =>
    cases h with
    | written hlast hform =>
      obtain ⟨front, rest, rfl, hrest⟩ := hlast
      refine .written ⟨front, rest ++ [(name, item)], by simp, ?_⟩ hform
      simpa [or_imp, forall_and, hne] using hrest
    | missing hnone =>
      apply Gives.missing
      simpa [or_imp, forall_and, hne] using hnone

theorem GivesAudit.step {s s' : AuditSettings} (h : GivesAudit fields s)
    (hset : setAudit s name item = .ok s') : GivesAudit (fields ++ [(name, item)]) s' := by
  obtain ⟨hthreshold, hmark, hjobs, hexclude⟩ := h
  unfold setAudit at hset
  split at hset
  · obtain ⟨value, hvalue, hs⟩ := bind_eq_ok.1 hset
    cases hs
    exact ⟨hthreshold.step (.own (natural_eq_ok_iff.1 hvalue)), hmark.step (.other (by decide)),
      hjobs.step (.other (by decide)), hexclude.step (.other (by decide))⟩
  · obtain ⟨value, hvalue, hs⟩ := bind_eq_ok.1 hset
    cases hs
    exact ⟨hthreshold.step (.other (by decide)), hmark.step (.own (string_eq_ok_iff.1 hvalue)),
      hjobs.step (.other (by decide)), hexclude.step (.other (by decide))⟩
  · obtain ⟨value, hvalue, hs⟩ := bind_eq_ok.1 hset
    cases hs
    exact ⟨hthreshold.step (.other (by decide)), hmark.step (.other (by decide)),
      hjobs.step (.own (natural_eq_ok_iff.1 hvalue)), hexclude.step (.other (by decide))⟩
  · obtain ⟨value, hvalue, hs⟩ := bind_eq_ok.1 hset
    cases hs
    exact ⟨hthreshold.step (.other (by decide)), hmark.step (.other (by decide)),
      hjobs.step (.other (by decide)), hexclude.step (.own (strings_eq_ok_iff.1 hvalue))⟩
  · next hnot₁ hnot₂ hnot₃ hnot₄ =>
    obtain ⟨-, -, hs⟩ := bind_eq_ok.1 hset
    cases hs
    exact ⟨hthreshold.step (.other hnot₁), hmark.step (.other hnot₂), hjobs.step (.other hnot₃),
      hexclude.step (.other hnot₄)⟩

theorem GivesPaths.step {s s' : PathSettings} (h : GivesPaths fields s)
    (hset : setPaths s name item = .ok s') : GivesPaths (fields ++ [(name, item)]) s' := by
  obtain ⟨hmarker, hrepoRoot⟩ := h
  unfold setPaths at hset
  split at hset
  · obtain ⟨text, htext, hs⟩ := bind_eq_ok.1 hset
    cases hs
    exact ⟨hmarker.step (.own ⟨text, string_eq_ok_iff.1 htext, rfl⟩),
      hrepoRoot.step (.other (by decide))⟩
  · obtain ⟨text, htext, hs⟩ := bind_eq_ok.1 hset
    cases hs
    exact ⟨hmarker.step (.other (by decide)),
      hrepoRoot.step (.own ⟨text, string_eq_ok_iff.1 htext, rfl⟩)⟩
  · next hnot₁ hnot₂ =>
    obtain ⟨-, -, hs⟩ := bind_eq_ok.1 hset
    cases hs
    exact ⟨hmarker.step (.other hnot₁), hrepoRoot.step (.other hnot₂)⟩

theorem GivesWeights.step {w w' : Severity.Weights} (h : GivesWeights fields w)
    (hset : setWeight w name item = .ok w') : GivesWeights (fields ++ [(name, item)]) w' := by
  obtain ⟨htypes, hlint, hcomplexity, hdeficit⟩ := h
  unfold setWeight at hset
  split at hset
  · obtain ⟨value, hvalue, hw⟩ := bind_eq_ok.1 hset
    cases hw
    exact ⟨htypes.step (.own (number_eq_ok_iff.1 hvalue)), hlint.step (.other (by decide)),
      hcomplexity.step (.other (by decide)), hdeficit.step (.other (by decide))⟩
  · obtain ⟨value, hvalue, hw⟩ := bind_eq_ok.1 hset
    cases hw
    exact ⟨htypes.step (.other (by decide)), hlint.step (.own (number_eq_ok_iff.1 hvalue)),
      hcomplexity.step (.other (by decide)), hdeficit.step (.other (by decide))⟩
  · obtain ⟨value, hvalue, hw⟩ := bind_eq_ok.1 hset
    cases hw
    exact ⟨htypes.step (.other (by decide)), hlint.step (.other (by decide)),
      hcomplexity.step (.own (number_eq_ok_iff.1 hvalue)), hdeficit.step (.other (by decide))⟩
  · obtain ⟨value, hvalue, hw⟩ := bind_eq_ok.1 hset
    cases hw
    exact ⟨htypes.step (.other (by decide)), hlint.step (.other (by decide)),
      hcomplexity.step (.other (by decide)), hdeficit.step (.own (number_eq_ok_iff.1 hvalue))⟩
  · next hnot₁ hnot₂ hnot₃ hnot₄ =>
    obtain ⟨-, -, hw⟩ := bind_eq_ok.1 hset
    cases hw
    exact ⟨htypes.step (.other hnot₁), hlint.step (.other hnot₂), hcomplexity.step (.other hnot₃),
      hdeficit.step (.other hnot₄)⟩

/-! ## All items -/

variable {σ : Type}

/-- What each item keeps true of the items so far holds at the end of a section. -/
theorem of_foldlM {set : σ → String → Item → Parsed σ} {start s : σ}
    {P : List (String × Item) → σ → Prop} (hstart : P [] start)
    (hstep : ∀ {fields s name item s'}, P fields s → set s name item = .ok s' →
      P (fields ++ [(name, item)]) s')
    (h : fields.foldlM (fun s (name, item) => set s name item) start = .ok s) : P fields s := by
  induction fields using List.reverseRecOn generalizing s with
  | nil =>
    cases h
    exact hstart
  | append_singleton fields field ih =>
    rw [List.foldlM_append] at h
    obtain ⟨before, hbefore, hlast⟩ := bind_eq_ok.1 h
    rw [List.foldlM_cons] at hlast
    obtain ⟨after, hset, hs⟩ := bind_eq_ok.1 hlast
    cases hs
    exact hstep (ih hbefore) hset

theorem isSection_of_readSection {names : List String} {set : σ → String → Item → Parsed σ}
    {start s : σ} {gives : List (String × Item) → σ → Prop} (hstart : gives [] start)
    (hstep : ∀ {fields s name item s'}, gives fields s → set s name item = .ok s' →
      gives (fields ++ [(name, item)]) s')
    (h : readSection names set start item = .ok s) : IsSection names gives item s := by
  obtain ⟨fields, hfields, hfold⟩ := bind_eq_ok.1 h
  exact ⟨fields, fieldsOf_eq_ok_iff.1 hfields, of_foldlM hstart hstep hfold⟩

theorem givesAudit_nil : GivesAudit [] {} := by
  constructor <;> exact gives_nil _ _ _

theorem givesPaths_nil : GivesPaths [] {} := by
  constructor <;> exact gives_nil _ _ _

theorem givesWeights_nil : GivesWeights [] .standard := by
  constructor <;> exact gives_nil _ _ _

theorem GivesConfig.step {c c' : Config} (h : GivesConfig entries c)
    (hset : setSection c name item = .ok c') : GivesConfig (entries ++ [(name, item)]) c' := by
  obtain ⟨haudit, hpaths, hweights⟩ := h
  unfold setSection at hset
  split at hset
  · obtain ⟨s, hs, hc⟩ := bind_eq_ok.1 hset
    cases hc
    have hsection := isSection_of_readSection givesAudit_nil GivesAudit.step hs
    exact ⟨haudit.step (.own hsection), hpaths.step (.other (by decide)),
      hweights.step (.other (by decide))⟩
  · obtain ⟨s, hs, hc⟩ := bind_eq_ok.1 hset
    cases hc
    have hsection := isSection_of_readSection givesPaths_nil GivesPaths.step hs
    exact ⟨haudit.step (.other (by decide)), hpaths.step (.own hsection),
      hweights.step (.other (by decide))⟩
  · obtain ⟨w, hw, hc⟩ := bind_eq_ok.1 hset
    cases hc
    have hsection := isSection_of_readSection givesWeights_nil GivesWeights.step hw
    exact ⟨haudit.step (.other (by decide)), hpaths.step (.other (by decide)),
      hweights.step (.own hsection)⟩
  · next hnot₁ hnot₂ hnot₃ =>
    obtain ⟨-, -, hc⟩ := bind_eq_ok.1 hset
    cases hc
    exact ⟨haudit.step (.other hnot₁), hpaths.step (.other hnot₂), hweights.step (.other hnot₃)⟩

/-- What is read from a table is the configuration that the table gives. -/
theorem givesConfig_of_ofEntries {entries : Entries} {c : Config} (h : ofEntries entries = .ok c) :
    GivesConfig entries c :=
  of_foldlM ⟨gives_nil _ _ _, gives_nil _ _ _, gives_nil _ _ _⟩ GivesConfig.step h

end RefactorAudit.Config
