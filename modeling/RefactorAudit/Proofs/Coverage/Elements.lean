-- SUMMARY: The tags of a document that is written as a sequence of elements.
import RefactorAudit.Coverage.Markup
import RefactorAudit.Proofs.Text.Digits
import Mathlib

/-!
# Elements

An element tag is written as its name and its attributes between angle brackets. If the values of
the attributes hold no angle brackets, the tags of a sequence of elements are read one by one, and
each tag has the attributes that were written.
-/

namespace RefactorAudit.Coverage.Markup

/-! ## Written form -/

/-- An attribute as it is written. -/
structure Attribute where
  /-- The blanks in front of the name. -/
  gap : List Char := [' ']
  name : List Char
  /-- The blanks on both sides of the equals sign. -/
  around : List Char × List Char := ([], [])
  quote : Char := '"'
  value : List Char

/-- An element tag as it is written. -/
structure Element where
  closing : Bool := false
  name : List Char
  attributes : List Attribute := []
  /-- The blanks behind the attributes. -/
  gap : List Char := []
  selfClosing : Bool := false

def Attribute.text (a : Attribute) : List Char :=
  a.gap ++ (a.name ++ (a.around.1 ++ '=' :: (a.around.2 ++ a.quote :: (a.value ++ [a.quote]))))

/-- What stands between the name and the end of the tag. -/
def Element.inner (e : Element) : List Char :=
  e.attributes.flatMap Attribute.text ++ (e.gap ++ if e.selfClosing then ['/'] else [])

def Element.text (e : Element) : List Char :=
  '<' :: ((if e.closing then ['/'] else []) ++ (e.name ++ (e.inner ++ ['>'])))

/-- The tag that an element is read as. -/
def Element.tag (e : Element) : Tag where
  closing := e.closing
  name := String.ofList e.name
  attributes := e.inner

/-- A text has the form of a name. -/
def IsName (name : List Char) : Prop :=
  ∃ c rest, name = c :: rest ∧ startsName c = true ∧ ∀ d ∈ rest, isNamePart d = true

instance (name : List Char) : Decidable (IsName name) :=
  match name with
  | [] => .isFalse fun ⟨_, _, h, _⟩ => nomatch h
  | c :: rest =>
    decidable_of_iff (startsName c = true ∧ rest.all isNamePart = true)
      ⟨fun ⟨hc, hrest⟩ => ⟨c, rest, rfl, hc, List.all_eq_true.1 hrest⟩,
        fun ⟨_, _, heq, hc, hrest⟩ => by cases heq; exact ⟨hc, List.all_eq_true.2 hrest⟩⟩

structure Attribute.WellFormed (a : Attribute) : Prop where
  gap_ne_nil : a.gap ≠ []
  gap_blank : ∀ c ∈ a.gap, Text.isBlank c = true
  name : IsName a.name
  around_blank : ∀ c ∈ a.around.1 ++ a.around.2, Text.isBlank c = true
  quote : a.quote = '"' ∨ a.quote = '\''
  value : ∀ c ∈ a.value, c ≠ '<' ∧ c ≠ '>' ∧ c ≠ a.quote

instance (a : Attribute) : Decidable a.WellFormed :=
  decidable_of_iff (a.gap ≠ [] ∧ a.gap.all Text.isBlank = true ∧ IsName a.name ∧
      (a.around.1 ++ a.around.2).all Text.isBlank = true ∧ (a.quote = '"' ∨ a.quote = '\'') ∧
      a.value.all (fun c => c ≠ '<' ∧ c ≠ '>' ∧ c ≠ a.quote) = true)
    ⟨fun ⟨hne, hgap, hname, haround, hquote, hvalue⟩ => ⟨hne, List.all_eq_true.1 hgap, hname,
        List.all_eq_true.1 haround, hquote,
        fun c hc => of_decide_eq_true (List.all_eq_true.1 hvalue c hc)⟩,
      fun h => ⟨h.gap_ne_nil, List.all_eq_true.2 h.gap_blank, h.name,
        List.all_eq_true.2 h.around_blank, h.quote,
        List.all_eq_true.2 fun c hc => decide_eq_true (h.value c hc)⟩⟩

structure Element.WellFormed (e : Element) : Prop where
  name : IsName e.name
  attributes : ∀ a ∈ e.attributes, a.WellFormed
  gap_blank : ∀ c ∈ e.gap, Text.isBlank c = true

instance (e : Element) : Decidable e.WellFormed :=
  decidable_of_iff (IsName e.name ∧ (∀ a ∈ e.attributes, a.WellFormed) ∧
      e.gap.all Text.isBlank = true)
    ⟨fun ⟨hname, hattributes, hgap⟩ => ⟨hname, hattributes, List.all_eq_true.1 hgap⟩,
      fun h => ⟨h.name, h.attributes, List.all_eq_true.2 h.gap_blank⟩⟩

/-! ## Characters -/

variable {c : Char} {cs rest name : List Char} {a : Attribute} {e : Element}

theorem isBlank_of_startsName (h : startsName c = true) : Text.isBlank c = false := by
  rw [Bool.eq_false_iff]
  intro hblank
  have hrange : 65 ≤ c.toNat ∧ c.toNat ≤ 122 := by
    simp only [startsName, Char.isAlpha, Char.isUpper, Char.isLower, Bool.or_eq_true,
      Bool.and_eq_true, decide_eq_true_eq] at h
    rcases h with (⟨hge, hle⟩ | ⟨hge, hle⟩) | rfl
    · have hge : 65 ≤ c.toNat := hge
      have hle : c.toNat ≤ 90 := hle
      omega
    · have hge : 97 ≤ c.toNat := hge
      have hle : c.toNat ≤ 122 := hle
      omega
    · decide
  rcases Text.toNat_of_isBlank hblank with h | h <;> omega

theorem not_startsName_of_isBlank (h : Text.isBlank c = true) : startsName c = false := by
  rw [Bool.eq_false_iff]
  intro hstart
  rw [isBlank_of_startsName hstart] at h
  exact nomatch h

/-- No blank goes on with a name. -/
theorem not_isNamePart_of_isBlank (h : Text.isBlank c = true) : isNamePart c = false := by
  have hp := Text.of_isBlank (p := fun c => !isNamePart c) (by decide +kernel) h
  simpa using hp

/-- Nothing goes on with a name here. -/
def EndsName (rest : List Char) : Prop := ∀ c tail, rest = c :: tail → isNamePart c = false

theorem endsName_append (hcs : ∀ c ∈ cs, Text.isBlank c = true) (h : EndsName rest) :
    EndsName (cs ++ rest) := by
  intro c tail heq
  cases cs with
  | nil => exact h c tail heq
  | cons d cs =>
    obtain ⟨rfl, -⟩ := List.cons.inj heq
    exact not_isNamePart_of_isBlank (hcs _ List.mem_cons_self)

theorem endsName_cons (h : isNamePart c = false) : EndsName (c :: rest) := by
  rintro _ _ ⟨⟩
  exact h

theorem dropWhile_isBlank_append (h : ∀ c ∈ cs, Text.isBlank c = true) :
    (cs ++ rest).dropWhile Text.isBlank = rest.dropWhile Text.isBlank :=
  List.dropWhile_append_of_pos h

/-! ## Names and attributes -/

theorem IsName.exists_cons (h : IsName name) :
    ∃ c tail, name = c :: tail ∧ startsName c = true :=
  let ⟨c, tail, hname, hstart, _⟩ := h
  ⟨c, tail, hname, hstart⟩

/-- A name is read up to the first character that does not go on with it. -/
theorem name?_append (h : IsName name) (hrest : EndsName rest) :
    name? (name ++ rest) = some (name, rest) := by
  obtain ⟨c, tail, rfl, hstart, htail⟩ := h
  have hsplit : rest.takeWhile isNamePart = [] ∧ rest.dropWhile isNamePart = rest := by
    cases rest with
    | nil => exact ⟨rfl, rfl⟩
    | cons d rest => simp [List.takeWhile, List.dropWhile, hrest d rest rfl]
  rw [List.cons_append, name?, if_pos hstart, List.takeWhile_append_of_pos htail,
    List.dropWhile_append_of_pos htail, hsplit.1, hsplit.2, List.append_nil]

theorem quoted?_append {quote : Char} (h : ∀ c ∈ cs, c ≠ quote) :
    quoted? quote (cs ++ quote :: rest) = some (cs, rest) := by
  have hpos : ∀ c ∈ cs, decide (c ≠ quote) = true := fun c hc => decide_eq_true (h c hc)
  rw [quoted?, List.dropWhile_append_of_pos hpos, List.takeWhile_append_of_pos hpos,
    List.dropWhile_cons_of_neg (by simp), List.takeWhile_cons_of_neg (by simp), List.append_nil]

theorem value?_append (h : a.WellFormed) :
    value? (a.around.1 ++ '=' :: (a.around.2 ++ a.quote :: (a.value ++ a.quote :: rest))) =
      some (a.value, rest) := by
  have hbefore : ∀ c ∈ a.around.1, Text.isBlank c = true :=
    fun c hc => h.around_blank c (List.mem_append_left _ hc)
  have hafter : ∀ c ∈ a.around.2, Text.isBlank c = true :=
    fun c hc => h.around_blank c (List.mem_append_right _ hc)
  have hvalue : ∀ c ∈ a.value, c ≠ a.quote := fun c hc => (h.value c hc).2.2
  have hequals : ('=' :: (a.around.2 ++ a.quote :: (a.value ++ a.quote :: rest))).dropWhile
      Text.isBlank = '=' :: (a.around.2 ++ a.quote :: (a.value ++ a.quote :: rest)) := rfl
  have hquote : (a.quote :: (a.value ++ a.quote :: rest)).dropWhile Text.isBlank =
      a.quote :: (a.value ++ a.quote :: rest) := by
    rcases h.quote with hq | hq <;> rw [hq] <;> rfl
  simp only [value?, dropWhile_isBlank_append hbefore, hequals, dropWhile_isBlank_append hafter,
    hquote]
  have hread : quoted? a.quote (a.value ++ a.quote :: rest) = some (a.value, rest) :=
    quoted?_append hvalue
  rcases h.quote with hq | hq <;> simp only [hq] at hread ⊢ <;> exact hread

/-- What begins no name is passed over. -/
theorem attributesWithin_append {fuel : Nat} (h : ∀ c ∈ cs, startsName c = false)
    (hfuel : (cs ++ rest).length < fuel) :
    ∃ less, rest.length < less ∧
      attributesWithin fuel (cs ++ rest) = attributesWithin less rest := by
  induction cs generalizing fuel with
  | nil => exact ⟨fuel, hfuel, rfl⟩
  | cons c cs ih =>
    obtain ⟨fuel, rfl⟩ : ∃ k, fuel = k + 1 :=
      Nat.exists_eq_succ_of_ne_zero (Nat.ne_of_gt (Nat.zero_lt_of_lt hfuel))
    have hfewer : (cs ++ rest).length < fuel := Nat.lt_of_succ_lt_succ hfuel
    obtain ⟨less, hless, heq⟩ := ih (fun d hd => h d (List.mem_cons_of_mem _ hd)) hfewer
    refine ⟨less, hless, ?_⟩
    rw [List.cons_append, attributesWithin]
    simp only [name?, h c List.mem_cons_self, Bool.false_eq_true, if_false]
    exact heq

/-- One attribute is read behind its blanks. -/
theorem attributesWithin_attribute {fuel : Nat} (h : a.WellFormed)
    (hfuel : (a.text ++ rest).length < fuel) :
    ∃ less, rest.length < less ∧
      attributesWithin fuel (a.text ++ rest) = (a.name, a.value) :: attributesWithin less rest := by
  have htext : a.text ++ rest = a.gap ++ (a.name ++ (a.around.1 ++ '=' :: (a.around.2 ++
      a.quote :: (a.value ++ a.quote :: rest)))) := by simp [Attribute.text]
  have hgap : ∀ c ∈ a.gap, startsName c = false :=
    fun c hc => not_startsName_of_isBlank (h.gap_blank c hc)
  have hends : EndsName (a.around.1 ++ '=' :: (a.around.2 ++
      a.quote :: (a.value ++ a.quote :: rest))) :=
    endsName_append (fun c hc => h.around_blank c (List.mem_append_left _ hc))
      (endsName_cons (by decide +kernel))
  have hread := name?_append h.name hends
  rw [htext] at hfuel ⊢
  obtain ⟨less, hless, heq⟩ := attributesWithin_append hgap hfuel
  obtain ⟨less, rfl⟩ : ∃ k, less = k + 1 :=
    Nat.exists_eq_succ_of_ne_zero (Nat.ne_of_gt (Nat.zero_lt_of_lt hless))
  refine ⟨less, ?_, heq.trans ?_⟩
  · simp only [List.length_append, List.length_cons] at hless
    omega
  · obtain ⟨c, tail, hname, -⟩ := h.name.exists_cons
    rw [hname, List.cons_append] at hread ⊢
    simp only [attributesWithin, hread, value?_append h]

/-- The attributes are read one by one, whatever stands behind them in the tag. -/
theorem attributesWithin_flatMap {attributes : List Attribute} {fuel : Nat}
    (h : ∀ a ∈ attributes, a.WellFormed) (hrest : ∀ c ∈ rest, startsName c = false)
    (hfuel : (attributes.flatMap Attribute.text ++ rest).length < fuel) :
    attributesWithin fuel (attributes.flatMap Attribute.text ++ rest) =
      attributes.map fun a => (a.name, a.value) := by
  induction attributes generalizing fuel with
  | nil =>
    rw [List.flatMap_nil, List.nil_append] at hfuel ⊢
    rw [← List.append_nil rest] at hfuel ⊢
    obtain ⟨less, -, heq⟩ := attributesWithin_append hrest hfuel
    rw [heq]
    cases less <;> rfl
  | cons a attributes ih =>
    rw [List.flatMap_cons, List.append_assoc] at hfuel ⊢
    obtain ⟨less, hless, heq⟩ := attributesWithin_attribute (h a List.mem_cons_self) hfuel
    rw [heq, ih (fun b hb => h b (List.mem_cons_of_mem _ hb)) hless]
    rfl

/-- An attribute of an element is found by its name. -/
theorem attribute?_tag (h : e.WellFormed) (name : String) :
    e.tag.attribute? name = (e.attributes.map fun a => (a.name, a.value)).lookup name.toList := by
  have hrest : ∀ c ∈ e.gap ++ (if e.selfClosing then ['/'] else []), startsName c = false := by
    intro c hc
    rcases List.mem_append.1 hc with hgap | hslash
    · exact not_startsName_of_isBlank (h.gap_blank c hgap)
    · split at hslash
      · obtain rfl := List.mem_singleton.1 hslash
        decide
      · exact nomatch hslash
  rw [Tag.attribute?, Element.tag, Element.inner,
    attributesWithin_flatMap h.attributes hrest (Nat.lt_succ_self _)]

/-! ## Tags -/

/-- Only the slash at its end makes an element close itself: the attributes end with a quote. -/
theorem isSelfClosing_tag (h : e.WellFormed) : e.tag.isSelfClosing = e.selfClosing := by
  have hlast : ∀ attributes : List Attribute, (∀ a ∈ attributes, a.WellFormed) →
      (Text.trimEnd (attributes.flatMap Attribute.text)).getLast? ≠ some '/' := by
    intro attributes hattributes
    rcases List.eq_nil_or_concat attributes with rfl | ⟨front, a, rfl⟩
    · decide
    · have ha := hattributes a (by simp)
      have hquote : Text.isBlank a.quote = false ∧ a.quote ≠ '/' := by
        rcases ha.quote with hq | hq <;> rw [hq] <;> decide
      have htext : (front ++ [a]).flatMap Attribute.text = (front.flatMap Attribute.text ++
          (a.gap ++ (a.name ++ (a.around.1 ++ '=' :: (a.around.2 ++ a.quote :: a.value))))) ++
          [a.quote] := by simp [Attribute.text]
      rw [List.concat_eq_append, htext, Text.trimEnd_append_singleton hquote.1,
        List.getLast?_concat]
      simpa using hquote.2
  cases hself : e.selfClosing with
  | true =>
    have hinner : e.inner = (e.attributes.flatMap Attribute.text ++ e.gap) ++ ['/'] := by
      simp [Element.inner, hself]
    rw [Tag.isSelfClosing, Element.tag, hinner, Text.trimEnd_append_singleton (by decide),
      List.getLast?_concat]
    rfl
  | false =>
    have hinner : e.inner = e.attributes.flatMap Attribute.text ++ e.gap := by
      simp [Element.inner, hself]
    rw [Tag.isSelfClosing, Element.tag, hinner, Text.trimEnd_append_of_blank h.gap_blank]
    exact decide_eq_false (hlast _ h.attributes)

theorem ne_of_startsName (h : startsName c = true) : c ≠ '/' ∧ c ≠ '<' ∧ c ≠ '>' ∧ c ≠ '!' ∧
    c ≠ '?' := by
  refine ⟨?_, ?_, ?_, ?_, ?_⟩ <;> rintro rfl <;> exact absurd h (by decide)

theorem ne_of_isBlank (h : Text.isBlank c = true) : c ≠ '<' ∧ c ≠ '>' := by
  refine ⟨?_, ?_⟩ <;> rintro rfl <;> exact absurd h (by decide)

theorem ne_of_isNamePart (h : isNamePart c = true) : c ≠ '<' ∧ c ≠ '>' := by
  refine ⟨?_, ?_⟩ <;> rintro rfl <;> exact absurd h (by decide +kernel)

theorem IsName.ne_of_mem (h : IsName name) (hc : c ∈ name) : c ≠ '<' ∧ c ≠ '>' := by
  obtain ⟨d, tail, rfl, hstart, htail⟩ := h
  rcases List.mem_cons.1 hc with rfl | hc
  · exact ⟨(ne_of_startsName hstart).2.1, (ne_of_startsName hstart).2.2.1⟩
  · exact ne_of_isNamePart (htail c hc)

theorem Attribute.WellFormed.ne_of_mem (h : a.WellFormed) (hc : c ∈ a.text) :
    c ≠ '<' ∧ c ≠ '>' := by
  have hquote : a.quote ≠ '<' ∧ a.quote ≠ '>' := by
    rcases h.quote with hq | hq <;> rw [hq] <;> decide
  simp only [Attribute.text, List.mem_append, List.mem_cons, List.not_mem_nil, or_false] at hc
  rcases hc with hc | hc | hc | rfl | hc | rfl | hc | rfl
  · exact ne_of_isBlank (h.gap_blank c hc)
  · exact h.name.ne_of_mem hc
  · exact ne_of_isBlank (h.around_blank c (List.mem_append_left _ hc))
  · decide
  · exact ne_of_isBlank (h.around_blank c (List.mem_append_right _ hc))
  · exact hquote
  · exact ⟨(h.value c hc).1, (h.value c hc).2.1⟩
  · exact hquote

theorem Element.WellFormed.ne_of_mem (h : e.WellFormed) (hc : c ∈ e.inner) : c ≠ '<' ∧ c ≠ '>' := by
  rcases List.mem_append.1 hc with hc | hc
  · obtain ⟨a, ha, hc⟩ := List.mem_flatMap.1 hc
    exact (h.attributes a ha).ne_of_mem hc
  · rcases List.mem_append.1 hc with hc | hc
    · exact ne_of_isBlank (h.gap_blank c hc)
    · split at hc
      · obtain rfl := List.mem_singleton.1 hc
        decide
      · exact nomatch hc

/-- The name of an element ends where its attributes begin. -/
theorem endsName_inner (h : e.WellFormed) : EndsName (e.inner ++ '>' :: rest) := by
  have hclose : EndsName ((if e.selfClosing then ['/'] else []) ++ '>' :: rest) := by
    split
    · exact endsName_cons (by decide +kernel)
    · exact endsName_cons (by decide +kernel)
  rw [Element.inner]
  cases hattributes : e.attributes with
  | nil =>
    rw [List.flatMap_nil, List.nil_append, List.append_assoc]
    exact endsName_append h.gap_blank hclose
  | cons a attributes =>
    have ha := h.attributes a (hattributes ▸ List.mem_cons_self)
    obtain ⟨c, gap, hgap⟩ := List.exists_cons_of_ne_nil ha.gap_ne_nil
    rw [List.flatMap_cons, Attribute.text, hgap]
    exact endsName_cons (not_isNamePart_of_isBlank (ha.gap_blank c (hgap ▸ List.mem_cons_self)))

theorem read?_element (h : e.WellFormed) :
    Tag.read? ((if e.closing then ['/'] else []) ++ (e.name ++ (e.inner ++ '>' :: rest))) =
      some (e.tag, rest) := by
  obtain ⟨c, tail, hname, hstart⟩ := h.name.exists_cons
  have hblank : ¬ Text.isBlank c = true := by simp [isBlank_of_startsName hstart]
  have hslash : c ≠ '/' := (ne_of_startsName hstart).1
  have hread : name? (e.name ++ (e.inner ++ '>' :: rest)) = some (e.name, e.inner ++ '>' :: rest) :=
    name?_append h.name (endsName_inner h)
  have hinner : ∀ d ∈ e.inner, decide (d ≠ '>') = true :=
    fun d hd => decide_eq_true (h.ne_of_mem hd).2
  have hdrop : (e.inner ++ '>' :: rest).dropWhile (· ≠ '>') = '>' :: rest := by
    rw [List.dropWhile_append_of_pos hinner, List.dropWhile_cons_of_neg (by simp)]
  have htake : (e.inner ++ '>' :: rest).takeWhile (· ≠ '>') = e.inner := by
    rw [List.takeWhile_append_of_pos hinner, List.takeWhile_cons_of_neg (by simp), List.append_nil]
  have hskip : (e.name ++ (e.inner ++ '>' :: rest)).dropWhile Text.isBlank =
      e.name ++ (e.inner ++ '>' :: rest) := by
    rw [hname, List.cons_append, List.dropWhile_cons_of_neg hblank]
  cases hclosing : e.closing with
  | true =>
    have hdash : ¬ Text.isBlank '/' = true := by decide
    simp only [Tag.read?, if_true, List.singleton_append, List.dropWhile_cons_of_neg hdash, hskip,
      hread, Option.bind_eq_bind, Option.bind_some, hdrop, htake, Element.tag, hclosing]
  | false =>
    rw [hname] at hread hskip
    simp only [List.cons_append] at hread hskip
    simp only [Tag.read?, Bool.false_eq_true, if_false, List.nil_append, hname, List.cons_append,
      hskip, List.cons.injEq, hslash, false_and, imp_self, implies_true, hread, Option.bind_eq_bind,
      Option.bind_some, hdrop, htake, Element.tag, hclosing]

theorem tagsWithin_element {fuel : Nat} (h : e.WellFormed) :
    tagsWithin (fuel + 1) (e.text ++ rest) = e.tag :: tagsWithin fuel rest := by
  have htext : e.text ++ rest =
      '<' :: ((if e.closing then ['/'] else []) ++ (e.name ++ (e.inner ++ '>' :: rest))) := by
    simp [Element.text]
  rw [htext, tagsWithin, List.dropWhile_cons_of_neg (by simp)]
  simp only [read?_element h]

theorem tagsWithin_flatMap {elements : List Element} {fuel : Nat} (h : ∀ e ∈ elements, e.WellFormed)
    (hfuel : elements.length < fuel) :
    tagsWithin fuel (elements.flatMap Element.text) = elements.map Element.tag := by
  induction elements generalizing fuel with
  | nil => cases fuel <;> rfl
  | cons e elements ih =>
    obtain ⟨fuel, rfl⟩ : ∃ k, fuel = k + 1 :=
      Nat.exists_eq_succ_of_ne_zero (Nat.ne_of_gt (Nat.zero_lt_of_lt hfuel))
    rw [List.flatMap_cons, tagsWithin_element (h e List.mem_cons_self),
      ih (fun f hf => h f (List.mem_cons_of_mem _ hf)) (Nat.lt_of_succ_lt_succ hfuel)]
    rfl

/-! ## Documents -/

/-- A stretch without tags begins with `<!` or `<?`. -/
theorem afterBracket?_eq_none (h : c = '<' → rest.head? ≠ some '!' ∧ rest.head? ≠ some '?') :
    afterBracket? (c :: rest) = none := by
  rw [afterBracket?, List.findSome?_eq_none_iff]
  rintro ⟨opening, closing⟩ hpair
  have hstart : ∀ pair ∈ brackets, ∃ d tail, pair.1.toList = '<' :: d :: tail ∧
      (d = '!' ∨ d = '?') := by
    intro pair hpair
    simp only [brackets, List.mem_cons, List.not_mem_nil, or_false] at hpair
    rcases hpair with rfl | rfl | rfl
    · exact ⟨'!', ['-', '-'], rfl, .inl rfl⟩
    · exact ⟨'!', "[CDATA[".toList, rfl, .inl rfl⟩
    · exact ⟨'?', [], rfl, .inr rfl⟩
  obtain ⟨d, tail, heq, hd⟩ := hstart _ hpair
  have hdrop : Text.dropStart? opening.toList (c :: rest) = none := by
    rw [heq, Text.dropStart?]
    split
    · next hc =>
      obtain ⟨hexcl, hquest⟩ := h hc.symm
      cases rest with
      | nil => rfl
      | cons e rest =>
        rw [Text.dropStart?, if_neg]
        rintro rfl
        rcases hd with rfl | rfl
        · exact hexcl rfl
        · exact hquest rfl
    · rfl
  simp only [hdrop, Option.bind_none]

theorem tagged_cons (h : c = '<' → rest.head? ≠ some '!' ∧ rest.head? ≠ some '?') :
    tagged (c :: rest) = c :: tagged rest := by
  rw [tagged]
  split
  · next heq =>
    rw [afterBracket?_eq_none h] at heq
    cases heq
  · rfl

theorem tagged_append_of_not_mem (h : ∀ c ∈ cs, c ≠ '<') :
    tagged (cs ++ rest) = cs ++ tagged rest := by
  induction cs with
  | nil => rfl
  | cons c cs ih =>
    rw [List.cons_append, tagged_cons fun hc => absurd hc (h c List.mem_cons_self),
      ih fun d hd => h d (List.mem_cons_of_mem _ hd), List.cons_append]

/-- An element is kept. -/
theorem tagged_element (h : e.WellFormed) : tagged (e.text ++ rest) = e.text ++ tagged rest := by
  obtain ⟨c, tail, hname, hstart⟩ := h.name.exists_cons
  obtain ⟨-, -, -, hexcl, hquest⟩ := ne_of_startsName hstart
  have hafter : ∀ c ∈ (if e.closing then ['/'] else []) ++ (e.name ++ (e.inner ++ ['>'])),
      c ≠ '<' := by
    intro c hc
    simp only [List.mem_append, List.mem_singleton] at hc
    rcases hc with hc | hc | hc | rfl
    · split at hc
      · obtain rfl := List.mem_singleton.1 hc
        decide
      · exact nomatch hc
    · exact (h.name.ne_of_mem hc).1
    · exact (h.ne_of_mem hc).1
    · decide
  have hhead : ∀ more, ((if e.closing then ['/'] else []) ++ (e.name ++ (e.inner ++ ['>'])) ++
      more).head? ≠ some '!' ∧ ((if e.closing then ['/'] else []) ++
      (e.name ++ (e.inner ++ ['>'])) ++ more).head? ≠ some '?' := by
    intro more
    cases e.closing with
    | true => exact ⟨by simp, by simp⟩
    | false => rw [hname]; exact ⟨by simpa using hexcl, by simpa using hquest⟩
  rw [Element.text, List.cons_append, tagged_cons fun _ => hhead rest,
    tagged_append_of_not_mem hafter, List.cons_append]

/-- The tags of a sequence of elements are its elements. -/
theorem tags_flatMap {elements : List Element} (h : ∀ e ∈ elements, e.WellFormed) :
    tags (elements.flatMap Element.text) = elements.map Element.tag := by
  have hkept : tagged (elements.flatMap Element.text) = elements.flatMap Element.text := by
    induction elements with
    | nil => rw [List.flatMap_nil, tagged]
    | cons e elements ih =>
      rw [List.flatMap_cons, tagged_element (h e List.mem_cons_self),
        ih fun f hf => h f (List.mem_cons_of_mem _ hf)]
  have hlength : elements.length ≤ (elements.flatMap Element.text).length := by
    clear h hkept
    induction elements with
    | nil => exact Nat.le_refl _
    | cons e elements ih =>
      rw [List.flatMap_cons, List.length_append, List.length_cons, Element.text, List.length_cons]
      omega
  rw [tags, hkept]
  exact tagsWithin_flatMap h (Nat.lt_succ_of_le hlength)

end RefactorAudit.Coverage.Markup
