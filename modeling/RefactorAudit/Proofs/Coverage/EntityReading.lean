-- SUMMARY: Entities are read in one pass from the left, one level of escaping at a time.
import RefactorAudit.Proofs.Coverage.Entities

/-!
# Reading entities

The entities are replaced kind by kind, in as many passes as there are kinds. No pass makes an
entity for a later one: the character that it puts in stands in none of them, and the ampersand
comes last. So all passes together are one pass from the left that never looks back at what it has
read, and a text that was escaped several times is read back one level at a time.
-/

namespace RefactorAudit

namespace Text

/-- A text without the new character stands at the front only if it stood there before. -/
theorem prefix_of_prefix_replace {old front text : List Char} {c : Char} (hold : old ≠ [])
    (hc : c ∉ front) (h : front <+: replace old [c] text) : front <+: text := by
  induction front generalizing text with
  | nil => exact List.nil_prefix
  | cons d front ih =>
    cases text with
    | nil => simp [replace_nil] at h
    | cons e text =>
      by_cases hfound : old <+: e :: text
      · -- The new character would be the first one.
        obtain ⟨more, hmore⟩ := hfound
        rw [← hmore, replace_append hold] at h
        obtain ⟨hd, -⟩ := List.cons_prefix_cons.1 h
        exact absurd (by simp [hd]) hc
      · rw [replace_cons hfound] at h
        obtain ⟨rfl, hrest⟩ := List.cons_prefix_cons.1 h
        have hfront : c ∉ front := fun hmem => hc (List.mem_cons_of_mem _ hmem)
        exact List.cons_prefix_cons.2 ⟨rfl, ih hfront hrest⟩

end Text

namespace Coverage.Markup

/-! ## One pass -/

/-- A pass through a text from the left. An entity at the front is read as its character, any other
character as itself, and the pass goes on with what follows. -/
inductive ReadsOnce (table : List (Char × String)) : List Char → List Char → Prop where
  | nil : ReadsOnce table [] []
  | entity {c : Char} {entity : String} {rest read : List Char} (hmem : (c, entity) ∈ table)
      (hrest : ReadsOnce table rest read) : ReadsOnce table (entity.toList ++ rest) (c :: read)
  | plain {c : Char} {rest read : List Char}
      (hnone : ∀ pair ∈ table, ¬ pair.2.toList <+: c :: rest)
      (hrest : ReadsOnce table rest read) : ReadsOnce table (c :: rest) (c :: read)

/-- The character that is read for an entity stands in no entity that is read later. -/
def Settled (table : List (Char × String)) : Prop :=
  table.Pairwise fun pair later => pair.1 ∉ later.2.toList

theorem settled_entities : Settled entities := by
  simp [entities, Settled]

variable {table : List (Char × String)} {c : Char} {entity : String} {text read : List Char}

theorem Separable.ne_nil (h : Separable table) {pair : Char × String} (hpair : pair ∈ table) :
    pair.2.toList ≠ [] := by
  induction table with
  | nil => simp at hpair
  | cons first rest ih =>
    obtain ⟨-, -, ⟨tail, htail⟩, -, hrest⟩ := h
    rcases List.mem_cons.1 hpair with rfl | hpair
    · simp [htail]
    · exact ih hrest hpair

/-- A pass for one kind of entity leaves a text from which the other kinds give the same. -/
theorem ReadsOnce.replace (hsep : Separable ((c, entity) :: table))
    (hsettled : Settled ((c, entity) :: table)) (h : ReadsOnce ((c, entity) :: table) text read) :
    ReadsOnce table (Text.replace entity.toList [c] text) read := by
  have hne : entity.toList ≠ [] := hsep.ne_nil List.mem_cons_self
  have hfresh : ∀ pair ∈ table, c ∉ pair.2.toList := (List.pairwise_cons.1 hsettled).1
  induction h with
  | nil =>
    rw [Text.replace_nil]
    exact .nil
  | @entity d other rest read hmem hrest ih =>
    rcases List.mem_cons.1 hmem with heq | hmem
    · -- The character that was put in begins no other entity.
      obtain ⟨rfl, rfl⟩ := Prod.mk.inj heq
      rw [Text.replace_append hne]
      refine .plain ?_ ih
      intro pair hpair hprefix
      obtain ⟨e, tail, hcons⟩ := List.exists_cons_of_ne_nil
        (hsep.ne_nil (List.mem_cons_of_mem _ hpair))
      rw [hcons] at hprefix
      obtain ⟨hd, -⟩ := List.cons_prefix_cons.1 hprefix
      exact hfresh pair hpair (by simp [hcons, hd])
    · rw [replace_entity hsep hmem]
      exact .entity hmem ih
  | @plain d rest read hnone hrest ih =>
    have hreplace : Text.replace entity.toList [c] (d :: rest) =
        d :: Text.replace entity.toList [c] rest :=
      Text.replace_cons (hnone _ List.mem_cons_self)
    rw [hreplace]
    -- No entity begins here that did not begin here before.
    refine .plain ?_ ih
    intro pair hpair hprefix
    rw [← hreplace] at hprefix
    exact hnone pair (List.mem_cons_of_mem _ hpair)
      (Text.prefix_of_prefix_replace hne (hfresh pair hpair) hprefix)

theorem ReadsOnce.eq_of_nil (h : ReadsOnce [] text read) : text = read := by
  induction h with
  | nil => rfl
  | entity hmem => simp at hmem
  | plain _ _ ih => rw [ih]

/-- Passes for one kind after the other read what one pass for all kinds reads. -/
theorem ReadsOnce.foldl (hsep : Separable table) (hsettled : Settled table)
    (h : ReadsOnce table text read) :
    table.foldl (fun text pair => Text.replace pair.2.toList [pair.1] text) text = read := by
  induction table generalizing text with
  | nil => exact h.eq_of_nil
  | cons pair table ih =>
    have hrest : Separable table := hsep.2.2.2.2
    exact ih hrest (List.pairwise_cons.1 hsettled).2 (h.replace hsep hsettled)

/-- Every text can be read, whatever stands in it. -/
theorem exists_readsOnce (hsep : Separable table) (text : List Char) :
    ∃ read, ReadsOnce table text read := by
  induction hlength : text.length using Nat.strong_induction_on generalizing text with
  | _ length ih =>
    cases text with
    | nil => exact ⟨[], .nil⟩
    | cons c rest =>
      by_cases hentity : ∃ pair ∈ table, pair.2.toList <+: c :: rest
      · obtain ⟨⟨d, entity⟩, hmem, more, hmore⟩ := hentity
        have hpos : 0 < entity.toList.length := List.length_pos_of_ne_nil (hsep.ne_nil hmem)
        have hlt : more.length < length := by
          rw [← hlength, ← hmore, List.length_append]
          exact Nat.lt_add_of_pos_left hpos
        obtain ⟨read, hread⟩ := ih _ hlt more rfl
        exact ⟨d :: read, hmore ▸ .entity hmem hread⟩
      · obtain ⟨read, hread⟩ := ih rest.length (by simp [← hlength]) rest rfl
        refine ⟨c :: read, .plain ?_ hread⟩
        intro pair hpair hprefix
        exact hentity ⟨pair, hpair, hprefix⟩

theorem readsOnce_iff : ReadsOnce entities text read ↔ unescape text = read := by
  have hunescape {read : List Char} (h : ReadsOnce entities text read) : unescape text = read :=
    h.foldl separable_entities settled_entities
  constructor
  · exact hunescape
  · intro h
    obtain ⟨read', hread'⟩ := exists_readsOnce separable_entities text
    exact (hunescape hread').symm.trans h ▸ hread'

/-! ## Levels -/

/-- What stands for a character in escaped text. -/
def spelling : Char → String
  | '&' => "&amp;"
  | '<' => "&lt;"
  | '>' => "&gt;"
  | '"' => "&quot;"
  | '\'' => "&apos;"
  | c => String.singleton c

theorem escape_eq (text : List Char) : escape text = text.flatMap fun c => (spelling c).toList := by
  have hwritten (c : Char) : written entities c = (spelling c).toList := by
    unfold spelling
    split
    case h_6 hamp hlt hgt hquot hapos =>
      have hnone : entities.lookup c = none := by
        simpa [entities, List.lookup_eq_none_iff] using ⟨hlt, hgt, hquot, hapos, hamp⟩
      simp [written_of_lookup_none hnone]
    all_goals simp [written, entities, List.lookup]
  exact List.flatMap_congr fun c _ => hwritten c

/-- Each reading takes back one level of escaping and no more. -/
theorem iterate_unescape (levels more : Nat) (text : List Char) :
    unescape^[levels] (escape^[levels + more] text) = escape^[more] text := by
  have hinverse : Function.LeftInverse unescape escape := unescape_escape
  rw [Function.iterate_add_apply]
  exact hinverse.iterate levels _

/-- Escaping writes the five characters with a meaning as entities, and reading gives the text back,
also where it looks like an entity: reading is one pass through the text, so it takes back one level
of escaping. -/
theorem unescape_one_level (text : List Char) :
    escape text = text.flatMap (fun c => (spelling c).toList) ∧
    unescape (escape text) = text ∧
    (∀ levels more, unescape^[levels] (escape^[levels + more] text) = escape^[more] text) ∧
    ∀ read, ReadsOnce entities text read ↔ unescape text = read := by
  refine ⟨escape_eq text, unescape_escape text, ?_, ?_⟩
  · intro levels more
    exact iterate_unescape levels more text
  · intro read
    exact readsOnce_iff

example : unescape "&amp;amp;lt;".toList = "&amp;lt;".toList := by decide +kernel

end Coverage.Markup

end RefactorAudit
