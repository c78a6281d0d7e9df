-- SUMMARY: What a Cobertura report says is told by its elements, one after the other.
import RefactorAudit.Coverage.Reading
import RefactorAudit.Proofs.Coverage.Documents

/-!
# Elements of Cobertura reports

Only the elements of a report are looked at, in their order. A class element lists its file and
opens it for the lines behind it, a self-closing one leaves no class open. A report is malformed
just if a class names no file, a line in a class has no number, or there is no root; then the first
of the faults is told.
-/

namespace RefactorAudit.Coverage

/-! ## Elements -/

namespace Markup

variable {e : Element} {name : String}

def Element.opens (e : Element) (name : String) : Bool := !e.closing && e.name = name.toList

def Element.closes (e : Element) (name : String) : Bool := e.closing && e.name = name.toList

/-- The value of an attribute, as it is written. -/
def Element.value? (e : Element) (name : String) : Option (List Char) :=
  (e.attributes.find? fun a => a.name = name.toList).map (·.value)

theorem lookup_attributes (attributes : List Attribute) (name : List Char) :
    (attributes.map fun a => (a.name, a.value)).lookup name =
      (attributes.find? fun a => a.name = name).map (·.value) := by
  induction attributes with
  | nil => rfl
  | cons a attributes ih =>
    rw [List.map_cons, List.lookup_cons, List.find?_cons, ih]
    by_cases h : a.name = name
    · simp [h]
    · have hne : (name == a.name) = false := by simpa using Ne.symm h
      simp [h, hne]

theorem attribute?_eq_value? (h : e.WellFormed) (name : String) :
    e.tag.attribute? name = e.value? name := by
  rw [attribute?_tag h, lookup_attributes]
  rfl

theorem tag_name_eq_iff : e.tag.name = name ↔ e.name = name.toList := by
  constructor
  · rintro rfl
    exact String.toList_ofList.symm
  · intro h
    rw [Element.tag, h]
    exact String.ofList_toList

theorem opens_iff : e.opens name = true ↔ e.tag.closing = false ∧ e.tag.name = name := by
  rw [tag_name_eq_iff]
  simp [Element.opens, Element.tag]

theorem closes_iff : e.closes name = true ↔ e.tag.closing = true ∧ e.tag.name = name := by
  rw [tag_name_eq_iff]
  simp [Element.closes, Element.tag]

theorem not_opens_of_opens {other : String} (h : e.opens name = true) (hne : name ≠ other) :
    ¬ e.opens other = true :=
  fun hother => hne ((opens_iff.1 h).2.symm.trans (opens_iff.1 hother).2)

theorem not_closes_of_opens (h : e.opens name = true) (other : String) :
    ¬ e.closes other = true := by
  intro hcloses
  have hclosing := (opens_iff.1 h).1
  rw [(closes_iff.1 hcloses).1] at hclosing
  exact nomatch hclosing

end Markup

namespace Cobertura

open Markup (Element Item documentText elementsOf)

variable {α : Type} {e : Element} {es front : List Element} {st : State α} {name : String}

/-! ## What one element says -/

/-- The file that a class element names. -/
def file? (e : Element) : Option String :=
  (e.value? "filename").map fun value => key (String.ofList (Markup.unescape value))

/-- The number in an attribute of a line element. -/
def number? (e : Element) (name : String) : Option Nat :=
  (e.value? name).bind fun value => (Text.natural Text.limit64 (Text.trim value)).toOption

/-- Takes up an element; one without the attributes that it needs changes nothing. -/
def State.take (s : State α) (e : Element) : State α :=
  if e.opens "coverage" then { s with sawRoot := true }
  else if e.opens "class" then
    match file? e with
    | some file =>
      { s with files := s.files.touch file, current := if e.selfClosing then none else some file }
    | none => s
  else if e.closes "class" then { s with current := none }
  else if e.opens "line" then
    match s.current, number? e "number", number? e "hits" with
    | some file, some line, some hits => { s with files := s.files.record file line hits }
    | _, _, _ => s
  else s

/-- Why an attribute of a line is no number. -/
def numberProblem? (e : Element) (name : String) : Option Problem :=
  match e.value? name with
  | none => some (.lineWithout name)
  | some value =>
    if (Text.natural Text.limit64 (Text.trim value)).toOption.isSome then none
    else some (.invalidNumber name (String.ofList value))

/-- What is wrong with an element. A line outside all classes may be malformed. -/
def problem? (s : State α) (e : Element) : Option Problem :=
  if e.opens "class" then if (file? e).isSome then none else some .classWithoutFile
  else if e.opens "line" && s.current.isSome then
    (numberProblem? e "number").or (numberProblem? e "hits")
  else none

theorem numberProblem?_eq_none_iff : numberProblem? e name = none ↔ (number? e name).isSome := by
  unfold numberProblem? number?
  cases e.value? name with
  | none => simp
  | some value => simp [Option.isSome_iff_ne_none]

theorem number_tag (h : e.WellFormed) (name : String) : number e.tag name =
    match numberProblem? e name with
    | some problem => .error problem
    | none => .ok ((number? e name).getD 0) := by
  unfold number numberProblem? number?
  rw [Markup.attribute?_eq_value? h]
  cases e.value? name with
  | none => rfl
  | some value =>
    dsimp only [Option.bind_some]
    cases Text.natural Text.limit64 (Text.trim value) with
    | ok n => rfl
    | error fault => rfl

/-- The step of a line in a class reads two numbers. -/
theorem step_line_tag {file : String} (hline : e.opens "line" = true)
    (hcurrent : st.current = some file) : st.step e.tag = (do
      let line ← number e.tag "number"
      let hits ← number e.tag "hits"
      return { st with files := st.files.record file line hits }) := by
  obtain ⟨hopen, hname⟩ := Markup.opens_iff.1 hline
  unfold State.step
  rw [hopen, hname, hcurrent]
  rfl

theorem step_class_tag (h : e.WellFormed) (hclass : e.opens "class" = true) (st : State α) :
    st.step e.tag =
      match file? e with
      | none => .error .classWithoutFile
      | some file => .ok { st with
          files := st.files.touch file, current := if e.selfClosing then none else some file } := by
  obtain ⟨hopen, hname⟩ := Markup.opens_iff.1 hclass
  unfold State.step file?
  rw [hopen, hname, Markup.attribute?_eq_value? h, Markup.isSelfClosing_tag h]
  cases e.value? "filename" with
  | none => rfl
  | some value => rfl

/-- Nothing is asked of elements that are neither classes nor lines in a class. -/
theorem step_other_tag (hclass : ¬ e.opens "class" = true)
    (hline : e.opens "line" = true → st.current = none) : st.step e.tag = .ok (st.take e) := by
  rw [State.take, if_neg hclass]
  simp only [Markup.opens_iff, Markup.closes_iff] at hclass hline ⊢
  unfold State.step
  cases hend : e.tag.closing with
  | true => simp only [Bool.true_eq_false, false_and, true_and, if_true, if_false]
  | false =>
    have hclass : ¬ e.tag.name = "class" := fun hname => hclass ⟨hend, hname⟩
    simp only [Bool.false_eq_true, false_and, true_and, if_false, if_neg hclass]
    by_cases hroot : e.tag.name = "coverage"
    · rw [if_pos hroot, if_pos hroot]
    by_cases hname : e.tag.name = "line"
    · rw [if_neg hroot, if_neg hroot, if_pos hname, if_pos hname, hline ⟨hend, hname⟩]
    · rw [if_neg hroot, if_neg hroot, if_neg hname, if_neg hname]

/-- A tag is taken up as the element that it is read from. -/
theorem step_tag (h : e.WellFormed) (st : State α) : st.step e.tag =
    match problem? st e with
    | some problem => .error problem
    | none => .ok (st.take e) := by
  by_cases hclass : e.opens "class" = true
  · rw [step_class_tag h hclass, problem?, State.take, if_pos hclass, if_pos hclass,
      if_neg (Markup.not_opens_of_opens hclass (by decide))]
    cases file? e with
    | none => rfl
    | some file => rfl
  by_cases hline : e.opens "line" = true ∧ st.current.isSome = true
  · obtain ⟨hopens, hcurrent⟩ := hline
    obtain ⟨file, hfile⟩ := Option.isSome_iff_exists.1 hcurrent
    rw [step_line_tag hopens hfile, number_tag h, number_tag h, problem?, State.take, hfile,
      if_neg hclass, if_neg (Markup.not_opens_of_opens hopens (by decide)), if_neg hclass,
      if_neg (Markup.not_closes_of_opens hopens "class"), if_pos hopens, hopens]
    cases hnumber : numberProblem? e "number" with
    | some problem => rfl
    | none =>
      cases hhits : numberProblem? e "hits" with
      | some problem => rfl
      | none =>
        obtain ⟨line, hline⟩ := Option.isSome_iff_exists.1 (numberProblem?_eq_none_iff.1 hnumber)
        obtain ⟨hits, hhits⟩ := Option.isSome_iff_exists.1 (numberProblem?_eq_none_iff.1 hhits)
        rw [hline, hhits]
        rfl
  · have hnone : problem? st e = none := by
      rw [problem?, if_neg hclass, if_neg]
      simpa using hline
    rw [hnone]
    refine step_other_tag hclass fun hopens => ?_
    simpa [hopens] using hline

/-! ## What a report says -/

/-- The first fault of the elements. -/
def firstProblem? (s : State α) : List Element → Option Problem
  | [] => none
  | e :: es => (problem? s e).or (firstProblem? (s.take e) es)

/-- What is wrong with a report; the root is asked for last. -/
def problemOf? (es : List Element) : Option Problem :=
  (firstProblem? ({} : State) es).or
    (if es.any (·.opens "coverage") then none else some .noRoot)

/-- The files of a report that nothing is wrong with. -/
def filesOf (es : List Element) : Files := (es.foldl State.take {}).files

theorem foldlM_tags (h : ∀ e ∈ es, e.WellFormed) (st : State α) :
    (es.map Element.tag).foldlM State.step st =
      match firstProblem? st es with
      | some problem => .error problem
      | none => .ok (es.foldl State.take st) := by
  induction es generalizing st with
  | nil => rfl
  | cons e es ih =>
    rw [List.map_cons, List.foldlM_cons, step_tag (h e List.mem_cons_self), firstProblem?]
    cases problem? st e with
    | some problem => rfl
    | none => exact ih (fun other hother => h other (List.mem_cons_of_mem _ hother)) (st.take e)

theorem sawRoot_take (st : State α) (e : Element) :
    (st.take e).sawRoot = (st.sawRoot || e.opens "coverage") := by
  unfold State.take
  by_cases hroot : e.opens "coverage" = true
  · simp [hroot]
  · rw [if_neg hroot, Bool.eq_false_iff.2 hroot, Bool.or_false]
    split
    · split <;> rfl
    · split
      · rfl
      · split
        · split <;> rfl
        · rfl

theorem sawRoot_foldl (st : State α) (es : List Element) :
    (es.foldl State.take st).sawRoot = (st.sawRoot || es.any (·.opens "coverage")) := by
  induction es generalizing st with
  | nil => exact (Bool.or_false _).symm
  | cons e es ih => rw [List.foldl_cons, ih, sawRoot_take, List.any_cons, Bool.or_assoc]

theorem read_documentText {items : List Item} (h : ∀ item ∈ items, item.WellFormed) :
    read (documentText items) =
      match problemOf? (elementsOf items) with
      | some problem => .error problem
      | none => .ok (filesOf (elementsOf items)) := by
  have helements : ∀ e ∈ elementsOf items, e.WellFormed :=
    fun e he => h (.element e) (Markup.mem_elementsOf.1 he)
  rw [read, Markup.tags_document h, ofTags, foldlM_tags helements, problemOf?, filesOf]
  cases firstProblem? ({} : State) (elementsOf items) with
  | some problem => rfl
  | none =>
    have hroot := sawRoot_foldl ({} : State) (elementsOf items)
    rw [Bool.false_or] at hroot
    rw [Option.none_or, ← hroot]
    change (if (List.foldl State.take _ _).sawRoot = true then _ else _) = _
    split
    · rfl
    · rfl

/-! ## Malformed reports -/

/-- The class tag that is read last. -/
def lastClass? (front : List Element) : Option Element :=
  (front.filter fun e => e.name = "class".toList).getLast?

/-- What stands behind the elements stands in a class. -/
def InClass (front : List Element) : Prop :=
  ∃ e, lastClass? front = some e ∧ e.closing = false ∧ e.selfClosing = false

inductive Malformed (es : List Element) : Prop where
  | classWithoutFile (e : Element) (mem : e ∈ es) (opens : e.opens "class" = true)
      (file : e.value? "filename" = none)
  | lineWithoutNumber (front : List Element) (e : Element) (rest : List Element)
      (split : es = front ++ e :: rest) (inClass : InClass front) (opens : e.opens "line" = true)
      (name : String) (mem : name ∈ ["number", "hits"]) (number : number? e name = none)
  | noRoot (root : ∀ e ∈ es, e.opens "coverage" = false)

theorem isSome_file?_iff : (file? e).isSome = true ↔ e.value? "filename" ≠ none := by
  rw [file?, Option.isSome_map, Option.isSome_iff_ne_none]

theorem lastClass?_concat : lastClass? (front ++ [e]) =
    if e.name = "class".toList then some e else lastClass? front := by
  rw [lastClass?, List.filter_append, List.getLast?_append, List.filter_singleton]
  by_cases hclass : e.name = "class".toList
  · rw [decide_eq_true hclass, if_pos hclass]
    rfl
  · rw [decide_eq_false hclass, if_neg hclass]
    rfl

/-- Each class tag says whether a class is open behind it. -/
theorem isSome_current_take (h : e.opens "class" = true → (file? e).isSome = true)
    (st : State α) : (st.take e).current.isSome =
      if e.name = "class".toList then !e.closing && !e.selfClosing else st.current.isSome := by
  by_cases hopens : e.opens "class" = true
  · obtain ⟨file, hfile⟩ := Option.isSome_iff_exists.1 (h hopens)
    have hclosing : e.closing = false := (Markup.opens_iff.1 hopens).1
    have hname := Markup.tag_name_eq_iff.1 (Markup.opens_iff.1 hopens).2
    rw [State.take, if_neg (Markup.not_opens_of_opens hopens (by decide)), if_pos hopens, hfile,
      if_pos hname, hclosing]
    cases e.selfClosing with
    | true => rfl
    | false => rfl
  by_cases hcloses : e.closes "class" = true
  · have hclosing : e.closing = true := (Markup.closes_iff.1 hcloses).1
    have hname := Markup.tag_name_eq_iff.1 (Markup.closes_iff.1 hcloses).2
    have hroot : ¬ e.opens "coverage" = true :=
      fun hroot => Markup.not_closes_of_opens hroot "class" hcloses
    rw [State.take, if_neg hroot, if_neg hopens, if_pos hcloses, if_pos hname, hclosing]
    rfl
  have hname : ¬ e.name = "class".toList := by
    intro hname
    have hname := Markup.tag_name_eq_iff.2 hname
    cases hclosing : e.closing with
    | true => exact hcloses (Markup.closes_iff.2 ⟨hclosing, hname⟩)
    | false => exact hopens (Markup.opens_iff.2 ⟨hclosing, hname⟩)
  rw [State.take, if_neg hopens, if_neg hcloses, if_neg hname]
  split
  · rfl
  · split
    · split <;> rfl
    · rfl

theorem isSome_current_foldl (h : ∀ e ∈ front, e.opens "class" = true → (file? e).isSome = true) :
    (front.foldl State.take ({} : State α)).current.isSome = true ↔ InClass front := by
  induction front using List.reverseRecOn with
  | nil => simp [InClass, lastClass?]
  | append_singleton front e ih =>
    have hfront := ih fun other hother => h other (List.mem_append_left _ hother)
    have he := h e (List.mem_append_right _ List.mem_cons_self)
    rw [List.foldl_append, List.foldl_cons, List.foldl_nil, isSome_current_take he, InClass,
      lastClass?_concat]
    split
    · simp
    · exact hfront

theorem isSome_firstProblem?_iff : (firstProblem? st es).isSome = true ↔
    ∃ front e rest, es = front ++ e :: rest ∧
      (problem? (front.foldl State.take st) e).isSome = true := by
  induction es generalizing st with
  | nil => simp [firstProblem?]
  | cons e es ih =>
    rw [firstProblem?, Option.isSome_or, Bool.or_eq_true, ih]
    constructor
    · rintro (h | ⟨front, found, rest, rfl, h⟩)
      · exact ⟨[], e, es, rfl, h⟩
      · exact ⟨e :: front, found, rest, rfl, h⟩
    · rintro ⟨front, found, rest, heq, h⟩
      cases front with
      | nil =>
        obtain ⟨rfl, rfl⟩ := List.cons.inj heq
        exact .inl h
      | cons first front =>
        obtain ⟨rfl, rfl⟩ := List.cons.inj heq
        exact .inr ⟨front, found, rest, rfl, h⟩

/-- Something is wrong with an element if it is a class without a file or a line in a class that
lacks a number. -/
theorem isSome_problem?_iff : (problem? st e).isSome = true ↔
    (e.opens "class" = true ∧ e.value? "filename" = none) ∨
      (e.opens "line" = true ∧ st.current.isSome = true ∧
        ∃ name ∈ ["number", "hits"], number? e name = none) := by
  have hnumber : ∀ name, (numberProblem? e name).isSome = true ↔ number? e name = none := by
    intro name
    rw [Option.isSome_iff_ne_none, Ne, numberProblem?_eq_none_iff, Option.isSome_iff_ne_none,
      not_not]
  unfold problem?
  by_cases hclass : e.opens "class" = true
  · have hline : ¬ e.opens "line" = true := Markup.not_opens_of_opens hclass (by decide)
    rw [if_pos hclass]
    cases hfile : e.value? "filename" with
    | none => simp [file?, hfile, hclass]
    | some value => simp [file?, hfile, hline]
  · by_cases hline : (e.opens "line" && st.current.isSome) = true
    · obtain ⟨hopens, hcurrent⟩ := Bool.and_eq_true_iff.1 hline
      rw [if_neg hclass, if_pos hline, Option.isSome_or, Bool.or_eq_true, hnumber, hnumber]
      simp [hclass, hopens, hcurrent]
    · rw [if_neg hclass, if_neg hline]
      rw [Bool.and_eq_true_iff] at hline
      constructor
      · intro h
        exact nomatch h
      · rintro (⟨hopens, -⟩ | ⟨hopens, hcurrent, -⟩)
        · exact absurd hopens hclass
        · exact absurd ⟨hopens, hcurrent⟩ hline

theorem isSome_firstProblem?_of_class (he : e ∈ es) (hopens : e.opens "class" = true)
    (hfile : e.value? "filename" = none) : (firstProblem? st es).isSome = true := by
  obtain ⟨front, rest, rfl⟩ := List.append_of_mem he
  refine isSome_firstProblem?_iff.2 ⟨front, e, rest, rfl, ?_⟩
  exact isSome_problem?_iff.2 (.inl ⟨hopens, hfile⟩)

theorem classes_have_files_or (front : List Element) :
    (∀ e ∈ front, e.opens "class" = true → (file? e).isSome = true) ∨
      ∃ e ∈ front, e.opens "class" = true ∧ e.value? "filename" = none := by
  by_cases h : ∃ e ∈ front, e.opens "class" = true ∧ e.value? "filename" = none
  · exact .inr h
  · exact .inl fun e he hopens => isSome_file?_iff.2 fun hfile => h ⟨e, he, hopens, hfile⟩

theorem isSome_noRoot_iff :
    (if es.any (·.opens "coverage") then none else some Problem.noRoot).isSome = true ↔
      ∀ e ∈ es, e.opens "coverage" = false := by
  cases hany : es.any (·.opens "coverage") with
  | true =>
    obtain ⟨e, he, hopens⟩ := List.any_eq_true.1 hany
    constructor
    · intro h
      exact nomatch h
    · intro h
      rw [h e he] at hopens
      exact nomatch hopens
  | false =>
    refine ⟨fun _ e he => ?_, fun _ => rfl⟩
    exact Bool.eq_false_iff.2 (List.any_eq_false.1 hany e he)

theorem isSome_problemOf?_iff : (problemOf? es).isSome = true ↔ Malformed es := by
  rw [problemOf?, Option.isSome_or, Bool.or_eq_true, isSome_noRoot_iff]
  constructor
  · rintro (hfirst | hroot)
    · obtain ⟨front, e, rest, rfl, hproblem⟩ := isSome_firstProblem?_iff.1 hfirst
      rcases isSome_problem?_iff.1 hproblem with
        ⟨hopens, hfile⟩ | ⟨hopens, hcurrent, name, hname, hnumber⟩
      · exact .classWithoutFile e (by simp) hopens hfile
      -- A class is open before the line, unless one without a file was passed over.
      · rcases classes_have_files_or front with hfiles | ⟨c, hc, hclass, hfile⟩
        · have hin := (isSome_current_foldl hfiles).1 hcurrent
          exact .lineWithoutNumber front e rest rfl hin hopens name hname hnumber
        · exact .classWithoutFile c (List.mem_append_left _ hc) hclass hfile
    · exact .noRoot hroot
  · intro h
    cases h with
    | classWithoutFile e he hopens hfile =>
      exact .inl (isSome_firstProblem?_of_class he hopens hfile)
    | lineWithoutNumber front e rest split hin hopens name hname hnumber =>
      subst split
      rcases classes_have_files_or front with hfiles | ⟨c, hc, hclass, hfile⟩
      · refine .inl (isSome_firstProblem?_iff.2 ⟨front, e, rest, rfl, isSome_problem?_iff.2 ?_⟩)
        exact .inr ⟨hopens, (isSome_current_foldl hfiles).2 hin, name, hname, hnumber⟩
      · exact .inl (isSome_firstProblem?_of_class (List.mem_append_left _ hc) hclass hfile)
    | noRoot hroot => exact .inr hroot

/-- A report is what its elements say, whatever stands between them: its files are taken up element
by element, and it is refused just if it is malformed. A self-closing class leaves no class open. -/
theorem read_eq_fold_of_elements (items : List Item) (h : ∀ item ∈ items, item.WellFormed)
    (origin : String) :
    read (documentText items) =
        (match problemOf? (elementsOf items) with
        | some problem => .error problem
        | none => .ok (filesOf (elementsOf items))) ∧
      ((∃ message, Index.ofText .xml origin (documentText items) =
        .error (.malformedReport origin message)) ↔ Malformed (elementsOf items)) := by
  have hread := read_documentText h
  refine ⟨hread, ?_⟩
  rw [← isSome_problemOf?_iff, Index.ofText, Format.files, hread]
  cases problemOf? (elementsOf items) with
  | some problem => exact iff_of_true ⟨problem.message, rfl⟩ rfl
  | none => exact iff_of_false (fun ⟨_, hmessage⟩ => nomatch hmessage) Bool.false_ne_true

/-- What is written in a comment or in character data is no element. -/
theorem read_eq_fold_of_elements_of_ghosts :
    let items : List Item := [
      .instruction "xml version=\"1.0\" ".toList,
      .element { name := "coverage".toList },
      .comment " <class filename=\"ghost.py\"> ".toList,
      .element { name := "class".toList, attributes := [
        { name := "filename".toList, quote := '\'', value := "real.py".toList }] },
      .characterData " <line number=\"9\" hits=\"3\"/> ".toList,
      .text " > ".toList,
      .element { name := "line".toList, selfClosing := true, attributes := [
        { name := "hits".toList, value := "0".toList },
        { name := "number".toList, around := ([' '], [' ']), value := "2".toList }] },
      .element { closing := true, name := "class".toList },
      .element { closing := true, name := "coverage".toList }]
    read (documentText items) = .ok [("real.py", ({ executable := [2] } : FileCoverage))] ∧
      ¬ Malformed (elementsOf items) := by
  intro items
  obtain ⟨hread, hmalformed⟩ := read_eq_fold_of_elements items (by decide +kernel) "coverage.xml"
  have hfiles : filesOf (elementsOf items) = [("real.py", { executable := [2] })] := by
    decide +kernel
  refine ⟨hread.trans (congrArg _ hfiles), fun h => ?_⟩
  obtain ⟨message, hmessage⟩ := hmalformed.2 h
  rw [Index.ofText, Format.files, hread] at hmessage
  exact nomatch hmessage

/-- Takes up an element as if a self-closing class left the class open that it stands in. -/
def State.takeNested (s : State α) (e : Element) : State α :=
  if e.opens "class" && e.selfClosing then { s.take e with current := s.current } else s.take e

/-- Behind a self-closing class, a line of the class around it is lost. -/
theorem line_lost_behind_self_closing_class :
    let items : List Item := [
      .element { name := "coverage".toList },
      .element { name := "class".toList, attributes := [
        { name := "filename".toList, value := "a.py".toList }] },
      .element { name := "class".toList, selfClosing := true, attributes := [
        { name := "filename".toList, value := "b.py".toList }] },
      .element { name := "line".toList, selfClosing := true, attributes := [
        { name := "number".toList, value := "1".toList },
        { name := "hits".toList, value := "1".toList }] },
      .element { closing := true, name := "class".toList },
      .element { closing := true, name := "coverage".toList }]
    let files := ((elementsOf items).foldl State.takeNested ({} : State)).files
    documentText items = "<coverage><class filename=\"a.py\"><class filename=\"b.py\"/>" ++
        "<line number=\"1\" hits=\"1\"/></class></coverage>" ∧
      (∀ item ∈ items, item.WellFormed) ∧
      files = [("a.py", { executable := [1], hit := [1] }), ("b.py", {})] ∧
      read (documentText items) = .ok [("a.py", ({} : FileCoverage)), ("b.py", {})] ∧
      read (documentText items) ≠ .ok files := by
  intro items files
  have hwellFormed : ∀ item ∈ items, item.WellFormed := by decide +kernel
  have hfiles : files = [("a.py", { executable := [1], hit := [1] }), ("b.py", {})] := by
    decide +kernel
  have hread : read (documentText items) = .ok [("a.py", ({} : FileCoverage)), ("b.py", {})] := by
    rw [read_documentText hwellFormed]
    decide +kernel
  refine ⟨by decide +kernel, hwellFormed, hfiles, hread, fun h => ?_⟩
  rw [hread, hfiles] at h
  exact nomatch h

end Cobertura

end RefactorAudit.Coverage
