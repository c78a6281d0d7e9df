-- SUMMARY: The tags of a document with comments, character data and instructions in it.
import RefactorAudit.Proofs.Coverage.Elements

/-!
# Documents

A document is a sequence of elements, text and stretches without tags. Such a stretch goes on to the
first place where its end is written, whatever stands in it; so it is taken out as a whole and what
remains are elements and text. The tags of the document are its elements.
-/

namespace RefactorAudit.Coverage.Markup

/-! ## Written form -/

/-- A part of a document. -/
inductive Item where
  | element (e : Element)
  | text (content : List Char)
  | comment (content : List Char)
  | characterData (content : List Char)
  | instruction (content : List Char)

/-- Text between an opening and a closing bracket. -/
def enclose (bracket : String × String) (content : List Char) : List Char :=
  bracket.1.toList ++ (content ++ bracket.2.toList)

def commentBracket : String × String := ("<!--", "-->")

def characterDataBracket : String × String := ("<![CDATA[", "]]>")

def instructionBracket : String × String := ("<?", "?>")

def Item.written : Item → List Char
  | element e => e.text
  | text content => content
  | comment content => enclose commentBracket content
  | characterData content => enclose characterDataBracket content
  | instruction content => enclose instructionBracket content

/-- The content of a stretch without tags does not hold the end of the stretch. -/
def Item.WellFormed : Item → Prop
  | element e => e.WellFormed
  | text content => '<' ∉ content
  | comment content => ¬ commentBracket.2.toList <:+: content
  | characterData content => ¬ characterDataBracket.2.toList <:+: content
  | instruction content => ¬ instructionBracket.2.toList <:+: content

instance (item : Item) : Decidable item.WellFormed :=
  match item with
  | .element e => inferInstanceAs (Decidable e.WellFormed)
  | .text content => inferInstanceAs (Decidable ('<' ∉ content))
  | .comment content => inferInstanceAs (Decidable (¬ commentBracket.2.toList <:+: content))
  | .characterData content =>
    inferInstanceAs (Decidable (¬ characterDataBracket.2.toList <:+: content))
  | .instruction content => inferInstanceAs (Decidable (¬ instructionBracket.2.toList <:+: content))

def Item.element? : Item → Option Element
  | element e => some e
  | _ => none

/-- The text of a document. -/
def documentText (items : List Item) : String := String.ofList (items.flatMap Item.written)

/-- The elements of a document, in order. -/
def elementsOf (items : List Item) : List Element := items.filterMap Item.element?

variable {bracket : String × String} {closing content rest : List Char} {fuel : Nat}
variable {item : Item} {items : List Item}

theorem mem_elementsOf {e : Element} : e ∈ elementsOf items ↔ .element e ∈ items := by
  simp only [elementsOf, List.mem_filterMap]
  constructor
  · rintro ⟨item, hitem, he⟩
    cases item with
    | element other =>
      obtain rfl := Option.some.inj he
      exact hitem
    | text _ => exact nomatch he
    | comment _ => exact nomatch he
    | characterData _ => exact nomatch he
    | instruction _ => exact nomatch he
  · intro h
    exact ⟨.element e, h, rfl⟩

/-! ## Stretches without tags -/

/-- The last character of an end occurs in it once. -/
def ClosesOnce (closing : List Char) : Prop :=
  ∃ front last, closing = front ++ [last] ∧ last ∉ front

theorem closesOnce_of_mem_brackets (h : bracket ∈ brackets) : ClosesOnce bracket.2.toList := by
  simp only [brackets, List.mem_cons, List.not_mem_nil, or_false] at h
  rcases h with rfl | rfl | rfl
  · exact ⟨['-', '-'], '>', rfl, by decide⟩
  · exact ⟨[']', ']'], '>', rfl, by decide⟩
  · exact ⟨['?'], '>', rfl, by decide⟩

/-- An end does not begin before the end that is written: it would be part of the content, or its
last character would stand in the front of the written one. -/
theorem not_begins_of_not_within (hclosing : ClosesOnce closing) (hne : content ≠ [])
    (h : ¬ closing <:+: content) : ¬ closing <+: content ++ (closing ++ rest) := by
  intro hbegins
  obtain ⟨front, last, heq, hlast⟩ := hclosing
  rcases List.prefix_or_prefix_of_prefix hbegins (List.prefix_append content (closing ++ rest))
    with hwithin | ⟨more, hmore⟩
  · exact h hwithin.isInfix
  · have hwritten : more <+: front ++ [last] ++ rest := by
      rw [← hmore, List.prefix_append_right_inj, hmore, heq] at hbegins
      exact hbegins
    have hmem : last ∈ more := by
      have hend : (content ++ more).getLast? = some last := by
        rw [hmore, heq, List.getLast?_concat]
      cases hmore' : more.getLast? with
      | none =>
        rw [List.getLast?_eq_none_iff] at hmore'
        rw [hmore', List.append_nil] at hmore
        exact absurd (hmore ▸ List.infix_rfl) h
      | some d =>
        rw [List.getLast?_append, hmore', Option.some_or] at hend
        exact Option.some.inj hend ▸ List.mem_of_getLast? hmore'
    have hlength : more.length ≤ front.length := by
      have hpos := List.length_pos_of_ne_nil hne
      have hsum := congrArg List.length (hmore.trans heq)
      simp only [List.length_append, List.length_singleton] at hsum
      omega
    rw [List.append_assoc] at hwritten
    have hfront := List.prefix_of_prefix_length_le hwritten (List.prefix_append front _) hlength
    exact hlast (hfront.mem hmem)

theorem after?_append (hclosing : ClosesOnce closing) (h : ¬ closing <:+: content) :
    after? closing (content ++ (closing ++ rest)) = some rest := by
  induction content with
  | nil =>
    obtain ⟨front, last, heq, -⟩ := hclosing
    have hdrop : Text.dropStart? closing (closing ++ rest) = some rest :=
      Text.dropStart?_eq_some_iff.2 rfl
    obtain ⟨c, tail, hcons⟩ := List.exists_cons_of_ne_nil
      (show closing ++ rest ≠ [] by simp [heq])
    rw [List.nil_append, hcons, after?, ← hcons, hdrop]
    rfl
  | cons c content ih =>
    have hdrop : Text.dropStart? closing (c :: (content ++ (closing ++ rest))) = none := by
      rw [Option.eq_none_iff_forall_not_mem]
      intro after hafter
      have heq := Text.dropStart?_eq_some_iff.1 hafter
      exact not_begins_of_not_within hclosing (List.cons_ne_nil c content) h ⟨after, heq.symm⟩
    rw [List.cons_append, after?, hdrop, Option.none_or]
    exact ih fun hwithin => h (hwithin.trans (List.suffix_cons c content).isInfix)

/-- No opening bracket is the beginning of another one. -/
theorem eq_of_begins_opening : ∀ a ∈ brackets, ∀ b ∈ brackets,
    a.1.toList <+: b.1.toList → a = b := by
  decide

/-- The stretch that begins here is the one that is written, and it ends where it is written to. -/
theorem afterBracket?_enclose (hbracket : bracket ∈ brackets)
    (h : ¬ bracket.2.toList <:+: content) :
    afterBracket? (enclose bracket content ++ rest) = some rest := by
  have htext : enclose bracket content ++ rest =
      bracket.1.toList ++ (content ++ (bracket.2.toList ++ rest)) := by simp [enclose]
  have hdrop : Text.dropStart? bracket.1.toList (enclose bracket content ++ rest) =
      some (content ++ (bracket.2.toList ++ rest)) := Text.dropStart?_eq_some_iff.2 htext
  have hafter : (Text.dropStart? bracket.1.toList (enclose bracket content ++ rest)).bind
      (after? bracket.2.toList) = some rest := by
    rw [hdrop]
    exact after?_append (closesOnce_of_mem_brackets hbracket) h
  cases hfound : afterBracket? (enclose bracket content ++ rest) with
  | none =>
    have hnone := List.findSome?_eq_none_iff.1 hfound bracket hbracket
    exact nomatch hafter.symm.trans hnone
  | some found =>
    obtain ⟨other, hother, hsome⟩ := List.exists_of_findSome?_eq_some hfound
    obtain ⟨inner, hinner, -⟩ := Option.bind_eq_some_iff.1 hsome
    have hbegins : other.1.toList <+: bracket.1.toList ++ (content ++ (bracket.2.toList ++ rest)) :=
      ⟨inner, (htext.symm.trans (Text.dropStart?_eq_some_iff.1 hinner)).symm⟩
    have heq : other = bracket := by
      rcases List.prefix_or_prefix_of_prefix hbegins (List.prefix_append _ _) with hle | hle
      · exact eq_of_begins_opening other hother bracket hbracket hle
      · exact (eq_of_begins_opening bracket hbracket other hother hle).symm
    rw [heq] at hsome
    exact hsome.symm.trans hafter

theorem tagged_enclose (hbracket : bracket ∈ brackets) (h : ¬ bracket.2.toList <:+: content) :
    tagged (enclose bracket content ++ rest) = tagged rest := by
  have hafter : afterBracket? (enclose bracket content ++ rest) = some rest :=
    afterBracket?_enclose hbracket h
  obtain ⟨c, tail, hcons⟩ := List.exists_cons_of_ne_nil
    fun hnil : enclose bracket content ++ rest = [] => by
      rw [hnil] at hafter
      cases hafter
  rw [hcons] at hafter ⊢
  rw [tagged]
  split
  · next after heq =>
    rw [hafter] at heq
    obtain rfl := Option.some.inj heq
    rfl
  · next heq =>
    rw [hafter] at heq
    cases heq

/-! ## Tags -/

/-- What is left of an item when the stretches without tags are taken out. -/
def Item.kept : Item → List Char
  | element e => e.text
  | text content => content
  | _ => []

theorem tagged_item (h : item.WellFormed) :
    tagged (item.written ++ rest) = item.kept ++ tagged rest := by
  cases item with
  | element e => exact tagged_element h
  | text content => exact tagged_append_of_not_mem fun c hc heq => h (heq ▸ hc)
  | comment content => exact tagged_enclose (by decide) h
  | characterData content => exact tagged_enclose (by decide) h
  | instruction content => exact tagged_enclose (by decide) h

theorem tagged_items (h : ∀ item ∈ items, item.WellFormed) :
    tagged (items.flatMap Item.written) = items.flatMap Item.kept := by
  induction items with
  | nil => rw [List.flatMap_nil, List.flatMap_nil, tagged]
  | cons item items ih =>
    rw [List.flatMap_cons, List.flatMap_cons, tagged_item (h item List.mem_cons_self),
      ih fun other hother => h other (List.mem_cons_of_mem _ hother)]

/-- Text before a tag is passed over. -/
theorem tagsWithin_append (h : '<' ∉ content) :
    tagsWithin fuel (content ++ rest) = tagsWithin fuel rest := by
  have hpos : ∀ c ∈ content, decide (c ≠ '<') = true :=
    fun c hc => decide_eq_true fun heq => h (heq ▸ hc)
  cases fuel with
  | zero => rfl
  | succ fuel => rw [tagsWithin, tagsWithin, List.dropWhile_append_of_pos hpos]

theorem tagsWithin_items (h : ∀ item ∈ items, item.WellFormed)
    (hfuel : (elementsOf items).length < fuel) :
    tagsWithin fuel (items.flatMap Item.kept) = (elementsOf items).map Element.tag := by
  induction items generalizing fuel with
  | nil => cases fuel <;> rfl
  | cons item items ih =>
    have hrest : ∀ other ∈ items, other.WellFormed :=
      fun other hother => h other (List.mem_cons_of_mem _ hother)
    have hitem := h item List.mem_cons_self
    rw [List.flatMap_cons]
    cases item with
    | element e =>
      obtain ⟨fuel, rfl⟩ : ∃ k, fuel = k + 1 :=
        Nat.exists_eq_succ_of_ne_zero (Nat.ne_of_gt (Nat.zero_lt_of_lt hfuel))
      have htail := ih hrest (Nat.lt_of_succ_lt_succ hfuel)
      rw [Item.kept, tagsWithin_element hitem, htail]
      rfl
    | text content =>
      rw [Item.kept, tagsWithin_append hitem]
      exact ih hrest hfuel
    | comment content => exact ih hrest hfuel
    | characterData content => exact ih hrest hfuel
    | instruction content => exact ih hrest hfuel

theorem length_elementsOf_le (items : List Item) :
    (elementsOf items).length ≤ (items.flatMap Item.kept).length := by
  induction items with
  | nil => exact Nat.le_refl _
  | cons item items ih =>
    rw [List.flatMap_cons, List.length_append]
    cases item with
    | element e =>
      have hone : 1 ≤ e.text.length := by simp [Element.text]
      change (elementsOf items).length + 1 ≤ e.text.length + _
      omega
    | text content => exact Nat.le_trans ih (Nat.le_add_left _ _)
    | comment content => exact Nat.le_trans ih (Nat.le_add_left _ _)
    | characterData content => exact Nat.le_trans ih (Nat.le_add_left _ _)
    | instruction content => exact Nat.le_trans ih (Nat.le_add_left _ _)

/-- The tags of a document are its elements, whatever stands between them. -/
theorem tags_document (h : ∀ item ∈ items, item.WellFormed) :
    tags (documentText items).toList = (elementsOf items).map Element.tag := by
  rw [tags, documentText, String.toList_ofList, tagged_items h]
  exact tagsWithin_items h (Nat.lt_succ_of_le (length_elementsOf_le items))

end RefactorAudit.Coverage.Markup
