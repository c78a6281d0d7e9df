-- SUMMARY: Sections written in the Cobertura format are read back.
import RefactorAudit.Proofs.Coverage.CoberturaElements
import RefactorAudit.Proofs.Coverage.Entities
import RefactorAudit.Proofs.Coverage.Sections

/-!
# Sections in Cobertura reports

A section is written as a `class` element with one `line` element for each record. Between two
sections no class is open, so the reader adds up the files section by section.
-/

namespace RefactorAudit.Coverage.Cobertura

open Markup (Element)

/-! ## Written form -/

def lineText (r : Nat × Nat) : List Char :=
  "<line number=\"".toList ++ (Nat.toDigits 10 r.1 ++ ("\" hits=\"".toList ++
    (Nat.toDigits 10 r.2 ++ "\"/>".toList)))

def sectionText (s : Section) : List Char :=
  "<class filename=\"".toList ++ (Markup.escape s.path.toList ++ ("\">".toList ++
    (s.records.flatMap lineText ++ "</class>".toList)))

/-- The report on sections. -/
def reportText (sections : List Section) : String :=
  String.ofList ("<coverage>".toList ++ (sections.flatMap sectionText ++ "</coverage>".toList))

def lineElement (r : Nat × Nat) : Element where
  name := "line".toList
  attributes := [{ name := "number".toList, value := Nat.toDigits 10 r.1 },
    { name := "hits".toList, value := Nat.toDigits 10 r.2 }]
  selfClosing := true

def classElement (s : Section) : Element where
  name := "class".toList
  attributes := [{ name := "filename".toList, value := Markup.escape s.path.toList }]

def classEnd : Element where
  closing := true
  name := "class".toList

def sectionElements (s : Section) : List Element :=
  classElement s :: (s.records.map lineElement ++ [classEnd])

def rootElement : Element where
  name := "coverage".toList

def rootEnd : Element where
  closing := true
  name := "coverage".toList

def reportElements (sections : List Section) : List Element :=
  rootElement :: (sections.flatMap sectionElements ++ [rootEnd])

variable {α : Type} {s : Section} {sections : List Section} {r : Nat × Nat}

theorem lineText_eq (r : Nat × Nat) : lineText r = (lineElement r).text := by
  unfold lineText lineElement
  generalize Nat.toDigits 10 r.1 = number
  generalize Nat.toDigits 10 r.2 = hits
  simp [Element.text, Element.inner, Markup.Attribute.text]

theorem sectionText_eq (s : Section) :
    sectionText s = (sectionElements s).flatMap Element.text := by
  have hlines : (s.records.map lineElement).flatMap Element.text = s.records.flatMap lineText := by
    rw [List.flatMap_map]
    exact List.flatMap_congr fun r _ => (lineText_eq r).symm
  unfold sectionElements
  rw [List.flatMap_cons, List.flatMap_append, hlines]
  unfold sectionText classElement
  generalize s.records.flatMap lineText = lines
  generalize Markup.escape s.path.toList = file
  simp [classEnd, Element.text, Element.inner, Markup.Attribute.text]

theorem toList_reportText (sections : List Section) :
    (reportText sections).toList = (reportElements sections).flatMap Element.text := by
  have hsections : (sections.flatMap sectionElements).flatMap Element.text =
      sections.flatMap sectionText := by
    rw [List.flatMap_assoc]
    exact List.flatMap_congr fun s _ => (sectionText_eq s).symm
  have htext : (reportText sections).toList =
      "<coverage>".toList ++ (sections.flatMap sectionText ++ "</coverage>".toList) :=
    String.toList_ofList
  rw [htext, reportElements, List.flatMap_cons, List.flatMap_append, hsections]
  generalize sections.flatMap sectionText = inner
  simp [rootElement, rootEnd, Element.text, Element.inner]

/-! ## Tags -/

/-- An attribute between one blank and the next quote. -/
theorem wellFormed_attribute {name value : List Char} (hname : Markup.IsName name)
    (hvalue : ∀ c ∈ value, c ≠ '<' ∧ c ≠ '>' ∧ c ≠ '"') :
    Markup.Attribute.WellFormed { name, value } := by
  refine ⟨by simp, ?_, hname, by simp, .inl rfl, hvalue⟩
  intro c hc
  obtain rfl := List.mem_singleton.1 hc
  decide

theorem wellFormed_lineElement (r : Nat × Nat) : (lineElement r).WellFormed := by
  have hdigits : ∀ n, ∀ c ∈ Nat.toDigits 10 n, c ≠ '<' ∧ c ≠ '>' ∧ c ≠ '"' := by
    intro n c hc
    have hdigit := Text.isDigit_toDigits hc
    refine ⟨?_, ?_, ?_⟩ <;> rintro rfl <;> exact absurd hdigit (by decide)
  have hnames : Markup.IsName "line".toList ∧ Markup.IsName "number".toList ∧
      Markup.IsName "hits".toList := by decide +kernel
  refine ⟨hnames.1, ?_, by simp [lineElement]⟩
  intro a ha
  rcases List.mem_pair.1 ha with rfl | rfl
  · exact wellFormed_attribute hnames.2.1 (hdigits _)
  · exact wellFormed_attribute hnames.2.2 (hdigits _)

theorem wellFormed_classElement (s : Section) : (classElement s).WellFormed := by
  have hnames : Markup.IsName "class".toList ∧ Markup.IsName "filename".toList := by decide +kernel
  refine ⟨hnames.1, ?_, by simp [classElement]⟩
  intro a ha
  obtain rfl := List.mem_singleton.1 ha
  refine wellFormed_attribute hnames.2 fun c hc => ?_
  refine ⟨?_, ?_, ?_⟩ <;> rintro rfl <;> exact Markup.not_mem_escape (by decide) hc

theorem wellFormed_reportElements {e : Element} (h : e ∈ reportElements sections) :
    e.WellFormed := by
  have hnames : Markup.IsName "class".toList ∧ Markup.IsName "coverage".toList := by decide +kernel
  simp only [reportElements, sectionElements, List.mem_cons, List.mem_append, List.mem_flatMap,
    List.mem_map, List.not_mem_nil, or_false] at h
  rcases h with rfl | ⟨s, -, rfl | ⟨r, -, rfl⟩ | rfl⟩ | rfl
  · exact ⟨hnames.2, by simp [rootElement], by simp [rootElement]⟩
  · exact wellFormed_classElement s
  · exact wellFormed_lineElement r
  · exact ⟨hnames.1, by simp [classEnd], by simp [classEnd]⟩
  · exact ⟨hnames.2, by simp [rootEnd], by simp [rootEnd]⟩

theorem tags_reportText (sections : List Section) :
    Markup.tags (reportText sections).toList = (reportElements sections).map Element.tag := by
  rw [toList_reportText]
  exact Markup.tags_flatMap fun e he => wellFormed_reportElements he

/-! ## Steps -/

variable {st : State α} {path : String}

theorem step_root (st : State α) : st.step rootElement.tag = .ok { st with sawRoot := true } := by
  simp [State.step, Element.tag, rootElement]

theorem step_rootEnd (st : State α) : st.step rootEnd.tag = .ok st := by
  simp [State.step, Element.tag, rootEnd]

theorem step_classEnd (st : State α) :
    st.step classEnd.tag = .ok { st with current := none } := by
  simp [State.step, Element.tag, classEnd]

theorem step_class (st : State α) (s : Section) :
    st.step (classElement s).tag =
      .ok { st with files := st.files.touch (key s.path), current := some (key s.path) } := by
  have hvalue : (classElement s).value? "filename" = some (Markup.escape s.path.toList) := rfl
  have hfile : file? (classElement s) = some (key s.path) := by
    rw [file?, hvalue, Option.map_some, Markup.unescape_escape, String.ofList_toList]
  rw [step_class_tag (wellFormed_classElement s) rfl, hfile]
  rfl

/-- Digits of a line are read back as the number. -/
theorem number_line {name : String} {n : Nat} (hn : n < 2 ^ 64)
    (h : (lineElement r).tag.attribute? name = some (Nat.toDigits 10 n)) :
    number (lineElement r).tag name = .ok n := by
  have hlimit : n ≤ Text.limit64 := Nat.le_pred_of_lt hn
  rw [number, h]
  simp only [Text.trim_toDigits, Text.natural_toDigits hlimit]
  rfl

theorem step_line (hcurrent : st.current = some path) (hr : r.1 < 2 ^ 32 ∧ r.2 < 2 ^ 64) :
    st.step (lineElement r).tag = .ok { st with files := st.files.record path r.1 r.2 } := by
  have hnumber : number (lineElement r).tag "number" = .ok r.1 :=
    number_line (Nat.lt_trans hr.1 (by decide))
      (Markup.attribute?_tag (wellFormed_lineElement r) "number")
  have hhits : number (lineElement r).tag "hits" = .ok r.2 :=
    number_line hr.2 (Markup.attribute?_tag (wellFormed_lineElement r) "hits")
  rw [step_line_tag rfl hcurrent, hnumber, hhits]
  rfl

/-- The lines of a section are recorded for the class that is open. -/
theorem foldlM_lines {records : List (Nat × Nat)} (hcurrent : st.current = some path)
    (h : ∀ r ∈ records, r.1 < 2 ^ 32 ∧ r.2 < 2 ^ 64) :
    (records.map fun r => (lineElement r).tag).foldlM State.step st =
      .ok { st with files := Files.recordAll path records st.files } := by
  induction records generalizing st with
  | nil => rfl
  | cons r rest ih =>
    rw [List.map_cons, List.foldlM_cons, step_line hcurrent (h r List.mem_cons_self)]
    exact ih hcurrent fun r hr => h r (List.mem_cons_of_mem _ hr)

/-- A section leaves no class open. -/
theorem foldlM_section (st : State α) (hs : s.Valid) :
    ((sectionElements s).map Element.tag).foldlM State.step st =
      .ok { st with files := Files.add st.files s, current := none } := by
  have hopened : (State.current { st with
      files := st.files.touch (key s.path), current := some (key s.path) }) =
      some (key s.path) := rfl
  have hlines := foldlM_lines hopened hs.records
  have htags : (sectionElements s).map Element.tag = (classElement s).tag ::
      (s.records.map (fun r => (lineElement r).tag) ++ [classEnd.tag]) := by
    simp [sectionElements]
  rw [htags, List.foldlM_cons, step_class]
  change List.foldlM State.step _ (_ ++ [classEnd.tag]) = _
  rw [List.foldlM_append, hlines]
  change List.foldlM State.step _ [classEnd.tag] = _
  rw [List.foldlM_cons, step_classEnd]
  rfl

theorem foldlM_sections (hcurrent : st.current = none) (h : ∀ s ∈ sections, s.Valid) :
    ((sections.flatMap sectionElements).map Element.tag).foldlM State.step st =
      .ok { st with files := sections.foldl Files.add st.files } := by
  induction sections generalizing st with
  | nil => rfl
  | cons s rest ih =>
    rw [List.flatMap_cons, List.map_append, List.foldlM_append,
      foldlM_section st (h s List.mem_cons_self)]
    refine (ih rfl fun t ht => h t (List.mem_cons_of_mem _ ht)).trans ?_
    rw [← hcurrent]
    rfl

/-- The files of the report on sections are what the sections add up to. -/
theorem read_reportText (h : ∀ s ∈ sections, s.Valid) :
    (read (reportText sections) : Except Problem (Files α)) = .ok (Files.ofSections sections) := by
  have hstart : ({ sawRoot := true } : State α).current = none := rfl
  have hsections := foldlM_sections hstart h
  have htags : (reportElements sections).map Element.tag =
      rootElement.tag :: ((sections.flatMap sectionElements).map Element.tag ++ [rootEnd.tag]) := by
    simp [reportElements]
  have hall : ((reportElements sections).map Element.tag).foldlM State.step ({} : State α) =
      .ok { files := Files.ofSections sections, sawRoot := true } := by
    rw [htags, List.foldlM_cons, step_root]
    change List.foldlM State.step _ (_ ++ [rootEnd.tag]) = _
    rw [List.foldlM_append, hsections]
    change List.foldlM State.step _ [rootEnd.tag] = _
    rw [List.foldlM_cons, step_rootEnd]
    rfl
  rw [read, tags_reportText, ofTags, hall]
  rfl

example : reportText [⟨"a<b", [(1, 0)]⟩] =
    "<coverage><class filename=\"a&lt;b\"><line number=\"1\" hits=\"0\"/></class></coverage>" := by
  decide

end RefactorAudit.Coverage.Cobertura
