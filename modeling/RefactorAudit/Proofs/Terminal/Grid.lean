-- SUMMARY: What a grid shows.
import RefactorAudit.Proofs.Path.Parts
import RefactorAudit.Terminal.Grid
import Mathlib.Data.List.Forall2
import Mathlib.Data.List.GetD

/-!
# Shown texts

A grid shows a header and rows of texts. Each row has as many lines as its highest text, and on each
of them a line of every text, with blanks up to the width of the column. So the texts stand between
the bars, column by column, from top to bottom, and nothing else does.
-/

namespace RefactorAudit.Terminal

/-! ## Lines of a grid -/

/-- The lines of a text. -/
structure AreLines (lines : List (List Char)) (text : String) : Prop where
  ne_nil : lines ≠ []
  joined : ['\n'].intercalate lines = text.toList
  unbroken : ∀ line ∈ lines, '\n' ∉ line

/-- A line across the columns: a piece for each of them with blanks up to its width, one more blank
on either side, and dashed bars between the columns. -/
inductive Across : List Nat → List (List Char) → List Char → Prop where
  | last {size : Nat} {piece : List Char} (h : width piece ≤ size) :
      Across [size] [piece] (' ' :: (piece ++ (List.replicate (size - width piece) ' ' ++ [' '])))
  | cons {size : Nat} {piece : List Char} {sizes : List Nat} {pieces : List (List Char)}
      {rest : List Char} (h : width piece ≤ size) (hrest : Across sizes pieces rest) :
      Across (size :: sizes) (piece :: pieces)
        (' ' :: (piece ++ (List.replicate (size - width piece) ' ' ++ ' ' :: '┆' :: rest)))

/-- The lines of a row have the lines of its cells beside each other, from the top on. -/
structure ShowsCells (sizes : List Nat) (cells : Cells) (shown : List String) : Prop where
  complete : ∀ cell ∈ cells, cell.length ≤ shown.length
  tight : ∃ cell ∈ cells, cell.length = shown.length
  across : ∀ n (h : n < shown.length), ∃ inner,
    Across sizes (cells.map fun cell => cell.getD n []) inner ∧
      shown[n].toList = '│' :: (inner ++ ['│'])

/-- The lines of a row show its texts. -/
def ShowsRow (sizes : List Nat) (texts shown : List String) : Prop :=
  ∃ cells, List.Forall₂ AreLines cells texts ∧ ShowsCells sizes cells shown

/-- A rule across the columns. -/
def IsRule (left line cross right : Char) (sizes : List Nat) (text : String) : Prop :=
  text.toList = left ::
    ([cross].intercalate (sizes.map fun size => List.replicate (size + 2) line) ++ [right])

/-- A text shows a grid: the header above a double line, then the rows with dashed lines between
them, all of it framed. -/
inductive ShowsGrid (header : List String) (rows : List (List String)) (text : String) : Prop where
  | intro {sizes : List Nat} {head : List String} {body : List (List String)}
      {top under between bottom : String} (hhead : ShowsRow sizes header head)
      (hbody : List.Forall₂ (ShowsRow sizes) rows body) (htop : IsRule '┌' '─' '┬' '┐' sizes top)
      (hunder : IsRule '╞' '═' '╪' '╡' sizes under)
      (hbetween : IsRule '├' '╌' '┼' '┤' sizes between)
      (hbottom : IsRule '└' '─' '┴' '┘' sizes bottom)
      (htext : text.toList =
        ([top] ++ head ++ [under] ++ [between].intercalate body ++ [bottom]).flatMap
          fun line => line.toList ++ ['\n']) :
      ShowsGrid header rows text

namespace Grid

variable {sizes all : List Nat} {cell : List (List Char)} {row : Cells} {rows : List Cells}
variable {n : Nat}

/-! ## Cells -/

theorem areLines_split (text : String) :
    AreLines (Text.split (fun c => decide (c = '\n')) text.toList) text where
  ne_nil := Text.split_ne_nil _ _
  joined := Text.intercalate_split '\n' text.toList
  unbroken line hline hbreak := by
    simpa using Text.separates_of_mem_split hline hbreak

theorem areLines_cells (texts : List String) : List.Forall₂ AreLines (cells texts) texts := by
  simp only [cells, List.forall₂_map_left_iff, List.forall₂_same]
  intro text _
  exact areLines_split text

/-! ## Widths -/

/-- The greatest number of a list is in it, unless it is the one to start from. -/
theorem foldl_max (xs : List Nat) (least : Nat) :
    least ≤ xs.foldl max least ∧ (∀ x ∈ xs, x ≤ xs.foldl max least) ∧
      (xs.foldl max least = least ∨ xs.foldl max least ∈ xs) := by
  induction xs generalizing least with
  | nil => simp
  | cons x rest ih =>
    obtain ⟨hleast, hall, hattained⟩ := ih (max least x)
    simp only [List.foldl_cons, List.mem_cons]
    refine ⟨by omega, ?_, ?_⟩
    · rintro y (rfl | hy)
      · omega
      · exact hall y hy
    · rcases hattained with heq | hmem
      · rw [heq]
        rcases Nat.le_total least x with h | h
        · exact .inr (.inl (Nat.max_eq_right h))
        · exact .inl (Nat.max_eq_left h)
      · exact .inr (.inr hmem)

theorem width_le_cellWidth {line : List Char} (h : line ∈ cell) : width line ≤ cellWidth cell :=
  (foldl_max (cell.map width) 0).2.1 _ (List.mem_map_of_mem h)

/-- Each cell fits into its column. -/
def Fits (sizes : List Nat) (row : Cells) : Prop :=
  List.Forall₂ (fun size cell => cellWidth cell ≤ size) sizes row

theorem Fits.mono (h : Fits all row) (hle : List.Forall₂ (· ≤ ·) all sizes) : Fits sizes row := by
  induction h generalizing sizes with
  | nil =>
    cases hle
    exact .nil
  | cons hcell _ ih =>
    cases hle with
    | cons hsize hrest => exact .cons (Nat.le_trans hcell hsize) (ih hrest)

/-- Columns that grow with a row have room for it, and for all that had room before. -/
theorem fits_zipWith_max (h : row.length = all.length) :
    List.Forall₂ (· ≤ ·) all (List.zipWith max all (row.map cellWidth)) ∧
      Fits (List.zipWith max all (row.map cellWidth)) row := by
  induction all generalizing row with
  | nil =>
    obtain rfl := List.length_eq_zero_iff.1 h
    exact ⟨.nil, .nil⟩
  | cons size all ih =>
    cases row with
    | nil => simp at h
    | cons cell row =>
      obtain ⟨hle, hfits⟩ := ih (Nat.succ.inj h)
      exact ⟨.cons (Nat.le_max_left _ _) hle, .cons (Nat.le_max_right _ _) hfits⟩

theorem fits_foldl (h : ∀ row ∈ rows, row.length = all.length) :
    (∀ other, Fits all other →
        Fits (rows.foldl (fun all row => List.zipWith max all (row.map cellWidth)) all) other) ∧
      ∀ row ∈ rows,
        Fits (rows.foldl (fun all row => List.zipWith max all (row.map cellWidth)) all) row := by
  induction rows generalizing all with
  | nil => simp
  | cons row rest ih =>
    obtain ⟨hle, hfits⟩ := fits_zipWith_max (h row List.mem_cons_self)
    have hlength : ∀ other ∈ rest,
        other.length = (List.zipWith max all (row.map cellWidth)).length := by
      intro other hother
      rw [← hle.length_eq]
      exact h other (List.mem_cons_of_mem _ hother)
    obtain ⟨hkept, hrest⟩ := ih hlength
    refine ⟨fun other hother => hkept other (hother.mono hle), fun other hother => ?_⟩
    rcases List.mem_cons.1 hother with rfl | hother
    · exact hkept _ hfits
    · exact hrest other hother

/-- The columns have room for every row. -/
theorem fits_widths {header : Cells} (h : ∀ row ∈ rows, row.length = header.length)
    {row : Cells} (hrow : row ∈ header :: rows) : Fits (widths (header :: rows)) row := by
  have hheader : Fits (header.map cellWidth) header := by
    simp [Fits, List.forall₂_map_left_iff, List.forall₂_same]
  have hlength : ∀ row ∈ rows, row.length = (header.map cellWidth).length := by
    simpa using h
  obtain ⟨hkept, hfits⟩ := fits_foldl hlength
  rcases List.mem_cons.1 hrow with rfl | hrow
  · exact hkept _ hheader
  · exact hfits row hrow

/-! ## Rows -/

/-- The pieces of the cells on one line. -/
theorem across_parts (h : Fits sizes row) (hne : row ≠ []) (n : Nat) :
    Across sizes (row.map fun cell => cell.getD n [])
      ("┆".intercalate (List.zipWith (fun size (cell : List (List Char)) =>
        " " ++ String.ofList (padded size (cell.getD n [])) ++ " ") sizes row)).toList := by
  induction h with
  | nil => exact absurd rfl hne
  | @cons size cell sizes row hcell hrest ih =>
    have hpiece : width (cell.getD n []) ≤ size := by
      by_cases hn : n < cell.length
      · rw [List.getD_eq_getElem _ _ hn]
        exact Nat.le_trans (width_le_cellWidth (List.getElem_mem hn)) hcell
      · rw [List.getD_eq_default _ _ (Nat.le_of_not_lt hn)]
        exact Nat.zero_le _
    cases hrest with
    | nil => simpa [padded] using Across.last hpiece
    | cons hnext hmore =>
      have hacross := Across.cons hpiece (ih (List.cons_ne_nil _ _))
      simpa [padded, String.toList_intercalate, List.intercalate_cons_cons] using hacross

theorem showsCells_rowLines (h : Fits sizes row) (hne : row ≠ [])
    (hcells : ∀ cell ∈ row, cell ≠ []) : ShowsCells sizes row (rowLines sizes row) := by
  obtain ⟨hone, hall, hattained⟩ := foldl_max (row.map List.length) 1
  have hlength : (rowLines sizes row).length = (row.map List.length).foldl max 1 := by
    simp [rowLines]
  refine ⟨?_, ?_, ?_⟩
  · intro cell hcell
    rw [hlength]
    exact hall _ (List.mem_map_of_mem hcell)
  · rw [hlength]
    rcases hattained with heq | hmem
    · obtain ⟨cell, rest, rfl⟩ := List.exists_cons_of_ne_nil hne
      have hpos := List.length_pos_iff.2 (hcells cell List.mem_cons_self)
      have hle := hall cell.length (by simp)
      exact ⟨cell, List.mem_cons_self, by omega⟩
    · obtain ⟨cell, hcell, heq⟩ := List.mem_map.1 hmem
      exact ⟨cell, hcell, heq⟩
  · intro n hn
    refine ⟨_, across_parts h hne n, ?_⟩
    simp [rowLines]

theorem showsRow_rowLines {texts : List String} (h : Fits sizes (cells texts)) (hne : texts ≠ []) :
    ShowsRow sizes texts (rowLines sizes (cells texts)) := by
  refine ⟨cells texts, areLines_cells texts, showsCells_rowLines h ?_ ?_⟩
  · intro hnil
    exact hne (List.map_eq_nil_iff.1 hnil)
  · intro cell hcell
    obtain ⟨text, -, rfl⟩ := List.mem_map.1 hcell
    exact Text.split_ne_nil _ _

/-! ## Grids -/

/-- With nothing between them lists are put behind each other. -/
theorem intercalate_empty {α : Type} (parts : List (List α)) :
    [].intercalate parts = parts.flatten := by
  induction parts with
  | nil => rfl
  | cons part rest ih =>
    cases rest with
    | nil => simp
    | cons next rest => simp [List.intercalate_cons_cons, ih]

theorem isRule_rule (left line cross right : Char) (sizes : List Nat) :
    IsRule left line cross right sizes (rule (String.singleton left) (String.singleton line)
      (String.singleton cross) (String.singleton right) sizes) := by
  simp [IsRule, rule, intercalate_empty, Function.comp_def]

/-- Lines that are put behind each other, each one with its end. -/
theorem toList_ended (shown : List String) :
    ("".intercalate (shown.map (· ++ "\n"))).toList =
      shown.flatMap fun line => line.toList ++ ['\n'] := by
  simp [intercalate_empty, List.flatMap, Function.comp_def]

/-- The lines of a grid show its texts, if every row has a text for each column. -/
theorem showsGrid_lines {header : List String} {rows : List (List String)} (hne : header ≠ [])
    (hrows : ∀ row ∈ rows, row.length = header.length) :
    ShowsGrid header rows
      ("".intercalate ((lines (cells header) (rows.map cells)).map (· ++ "\n"))) := by
  have hfits : ∀ texts ∈ header :: rows,
      Fits (widths (cells header :: rows.map cells)) (cells texts) := by
    intro texts htexts
    apply fits_widths
    · simpa [cells] using hrows
    · simpa using List.mem_map_of_mem htexts
  have hbody : List.Forall₂ (ShowsRow (widths (cells header :: rows.map cells))) rows
      ((rows.map cells).map (rowLines (widths (cells header :: rows.map cells)))) := by
    simp only [List.map_map, List.forall₂_map_right_iff, List.forall₂_same]
    intro texts htexts
    apply showsRow_rowLines (hfits texts (List.mem_cons_of_mem _ htexts))
    intro hnil
    apply hne
    apply List.length_eq_zero_iff.1
    rw [← hrows texts htexts, hnil]
    rfl
  exact .intro (showsRow_rowLines (hfits header List.mem_cons_self) hne) hbody
    (isRule_rule '┌' '─' '┬' '┐' _) (isRule_rule '╞' '═' '╪' '╡' _) (isRule_rule '├' '╌' '┼' '┤' _)
    (isRule_rule '└' '─' '┴' '┘' _) (toList_ended _)

end Grid

end RefactorAudit.Terminal
