-- SUMMARY: The texts that stand for a JSON value.
import RefactorAudit.Json.Reader

/-!
# Spellings

A value has many texts: blanks may stand between its parts, and a character of a string may be
written as an escape. Numbers are written in one way. What the printer writes, on one line or one
item a line, is one of the texts of a value.
-/

namespace RefactorAudit.Json

open ReadM (isSpace plainEscape? hexNumber)

/-! ## Strings -/

/-- The ways to write a character inside a string. -/
inductive SpellsChar : Char → List Char → Prop where
  | plain {c} : c ≠ '"' → c ≠ '\\' → 32 ≤ c.toNat → SpellsChar c [c]
  | escaped {c letter} : plainEscape? letter = some c → SpellsChar c ['\\', letter]
  | numbered {c digits} : hexNumber digits = some c.toNat → SpellsChar c ('\\' :: 'u' :: digits)
  /-- A character beyond the first plane is given by two numbers. -/
  | paired {c first second high low} :
    hexNumber first = some high → 0xD800 ≤ high → high ≤ 0xDBFF →
    hexNumber second = some low → 0xDC00 ≤ low → low ≤ 0xDFFF →
    c.toNat = (high - 0xD800) * 1024 + (low - 0xDC00) + 0x10000 →
    SpellsChar c ('\\' :: 'u' :: (first ++ '\\' :: 'u' :: second))

inductive SpellsChars : List Char → List Char → Prop where
  | nil : SpellsChars [] []
  | cons {c cs text body} : SpellsChar c text → SpellsChars cs body →
    SpellsChars (c :: cs) (text ++ body)

/-- A string between its quotes. -/
inductive SpellsString : String → List Char → Prop where
  | quoted {s body} : SpellsChars s.toList body → SpellsString s ('"' :: (body ++ ['"']))

/-! ## Values -/

def Blank (text : List Char) : Prop := ∀ c ∈ text, isSpace c = true

/-- What stands in front of an item: blanks, and a comma unless it is the first one. -/
inductive Separates : Bool → List Char → Prop where
  | first {blanks} : Blank blanks → Separates true blanks
  | comma {before after} : Blank before → Blank after → Separates false (before ++ ',' :: after)

mutual

inductive Spells : Value → List Char → Prop where
  | null : Spells .null "null".toList
  | true : Spells (.bool true) "true".toList
  | false : Spells (.bool false) "false".toList
  | number (n : Number) : Spells (.number n) n.text.toList
  | string {s text} : SpellsString s text → Spells (.string s) text
  | array {items text} : SpellsItems true items text → Spells (.array items) ('[' :: text)
  | object {fields text} : SpellsFields true fields text → Spells (.object fields) ('\x7b' :: text)

/-- The items that are left of a list, up to its end. -/
inductive SpellsItems : Bool → List Value → List Char → Prop where
  | nil {first blanks} : Blank blanks → SpellsItems first [] (blanks ++ [']'])
  | cons {first before v text items rest} :
    Separates first before → Spells v text → SpellsItems false items rest →
    SpellsItems first (v :: items) (before ++ (text ++ rest))

/-- The fields that are left of an object, up to its end. -/
inductive SpellsFields : Bool → List (String × Value) → List Char → Prop where
  | nil {first blanks} : Blank blanks → SpellsFields first [] (blanks ++ ['\x7d'])
  | cons {first before name quoted between after v text fields rest} :
    Separates first before → SpellsString name quoted → Blank between → Blank after →
    Spells v text → SpellsFields false fields rest →
    SpellsFields first ((name, v) :: fields)
      (before ++ (quoted ++ (between ++ ':' :: (after ++ (text ++ rest)))))

end

/-- A text stands for a value if it is a spelling between blanks. -/
def StandsFor (text : String) (v : Value) : Prop :=
  ∃ before inner after, Blank before ∧ Spells v inner ∧ Blank after ∧
    text.toList = before ++ (inner ++ after)

/-! ## Printed values -/

theorem blank_nil : Blank [] := fun _ hc => nomatch hc

theorem blank_space : Blank [' '] := by
  simp [Blank, isSpace]

theorem spellsChar_escapeChar (c : Char) : SpellsChar c (escapeChar c) := by
  have hhex : ∀ k < 32, hexNumber ['0', '0', "0123456789abcdef".toList.getD (k / 16) '0',
      "0123456789abcdef".toList.getD (k % 16) '0'] = some k := by decide
  unfold escapeChar
  split
  · next h => subst h; exact .escaped rfl
  split
  · next h => subst h; exact .escaped rfl
  split
  · next h => subst h; exact .escaped rfl
  split
  · next h => subst h; exact .escaped rfl
  split
  · next h => subst h; exact .escaped rfl
  split
  · next h => subst h; exact .escaped rfl
  split
  · next h => subst h; exact .escaped rfl
  split
  · next h => exact .numbered (hhex c.toNat h)
  · next hquote hslash _ _ _ _ _ h => exact .plain hquote hslash (Nat.le_of_not_lt h)

theorem spellsChars_escapeChar (cs : List Char) : SpellsChars cs (cs.flatMap escapeChar) := by
  induction cs with
  | nil => exact .nil
  | cons c cs ih => exact .cons (spellsChar_escapeChar c) ih

theorem spellsString_quote (s : String) : SpellsString s (quote s).toList := by
  rw [quote, String.toList_ofList, List.cons_append]
  exact .quoted (spellsChars_escapeChar s.toList)

theorem toList_commas_cons (separator part : String) (parts : List String) :
    (Value.commas separator (part :: parts)).toList =
      part.toList ++ parts.flatMap fun part => separator.toList ++ part.toList := by
  induction parts generalizing part with
  | nil => simp [Value.commas]
  | cons next parts ih =>
    have hnext := ih next
    simp only [Value.commas] at hnext ⊢
    rw [String.intercalate_cons_cons, String.toList_append, String.toList_append, hnext]
    simp

theorem separates_comma : Separates false [','] := .comma blank_nil blank_nil

mutual

/-- The printer writes a text of the value. -/
theorem spells_compact : (v : Value) → Spells v v.compact.toList
  | .null => by
    rw [Value.compact]
    exact .null
  | .bool true => by
    rw [Value.compact]
    exact .true
  | .bool false => by
    rw [Value.compact]
    exact .false
  | .number n => by
    rw [Value.compact]
    exact .number n
  | .string s => by
    rw [Value.compact]
    exact .string (spellsString_quote s)
  | .array [] => by
    rw [Value.compact, Value.compactItems]
    exact .array (.nil blank_nil)
  | .array (v :: items) => by
    have hitems := SpellsItems.cons (.first blank_nil) (spells_compact v)
      (spellsItems_compact items)
    rw [Value.compact, Value.compactItems, String.toList_append, String.toList_append,
      toList_commas_cons]
    simpa using Spells.array hitems
  | .object [] => by
    rw [Value.compact, Value.compactFields]
    exact .object (.nil blank_nil)
  | .object ((name, v) :: fields) => by
    have hfields := SpellsFields.cons (.first blank_nil) (spellsString_quote name) blank_nil
      blank_nil (spells_compact v) (spellsFields_compact fields)
    rw [Value.compact, Value.compactFields, String.toList_append, String.toList_append,
      toList_commas_cons]
    simpa using Spells.object hfields

theorem spellsItems_compact : (items : List Value) →
    SpellsItems false items
      (((Value.compactItems items).flatMap fun part => ',' :: part.toList) ++ [']'])
  | [] => by
    rw [Value.compactItems]
    exact .nil blank_nil
  | v :: items => by
    have hitems := SpellsItems.cons separates_comma (spells_compact v) (spellsItems_compact items)
    rw [Value.compactItems]
    simpa using hitems

theorem spellsFields_compact : (fields : List (String × Value)) →
    SpellsFields false fields
      (((Value.compactFields fields).flatMap fun part => ',' :: part.toList) ++ ['\x7d'])
  | [] => by
    rw [Value.compactFields]
    exact .nil blank_nil
  | (name, v) :: fields => by
    have hfields := SpellsFields.cons separates_comma (spellsString_quote name) blank_nil blank_nil
      (spells_compact v) (spellsFields_compact fields)
    rw [Value.compactFields]
    simpa using hfields

end

/-! ## Values with one item a line -/

/-- The start of a line: the end of the one before it, and the indentation. -/
def lineStart (indent : String) : List Char := '\n' :: indent.toList

theorem blank_lineStart {indent : String} (h : Blank indent.toList) : Blank (lineStart indent) := by
  intro c hc
  rcases List.mem_cons.1 hc with rfl | hc
  · rfl
  · exact h c hc

theorem blank_deeper {indent : String} (h : Blank indent.toList) :
    Blank (indent ++ "  ").toList := by
  intro c hc
  rw [String.toList_append] at hc
  rcases List.mem_append.1 hc with hc | hc
  · exact h c hc
  · simp at hc
    exact hc ▸ rfl

theorem block_nil (opening closing indent : String) :
    Value.block opening closing indent [] = opening ++ closing := rfl

/-- A block has its parts on lines of their own, a comma at the end of each line but the last. -/
theorem toList_block_cons (opening closing indent part : String) (parts : List String) :
    (Value.block opening closing indent (part :: parts)).toList =
      opening.toList ++ (lineStart (indent ++ "  ") ++ (part.toList ++
        ((parts.flatMap fun part => ',' :: (lineStart (indent ++ "  ") ++ part.toList)) ++
          (lineStart indent ++ closing.toList)))) := by
  simp [Value.block, toList_commas_cons, lineStart, List.flatMap_map]

mutual

/-- The printer writes a text of the value, whatever blanks the lines begin with. -/
theorem spells_pretty : (v : Value) → {indent : String} → Blank indent.toList →
    Spells v (v.pretty indent).toList
  | .null, _, _ => by
    rw [Value.pretty]
    exact .null
  | .bool true, _, _ => by
    rw [Value.pretty]
    exact .true
  | .bool false, _, _ => by
    rw [Value.pretty]
    exact .false
  | .number n, _, _ => by
    rw [Value.pretty]
    exact .number n
  | .string s, _, _ => by
    rw [Value.pretty]
    exact .string (spellsString_quote s)
  | .array [], _, _ => by
    rw [Value.pretty, Value.prettyItems, block_nil]
    exact .array (.nil blank_nil)
  | .array (v :: items), indent, h => by
    have hdeeper := blank_deeper h
    have hitems := SpellsItems.cons (.first (blank_lineStart hdeeper)) (spells_pretty v hdeeper)
      (spellsItems_pretty items h)
    rw [Value.pretty, Value.prettyItems, toList_block_cons]
    exact .array hitems
  | .object [], _, _ => by
    rw [Value.pretty, Value.prettyFields, block_nil]
    exact .object (.nil blank_nil)
  | .object ((name, v) :: fields), indent, h => by
    have hdeeper := blank_deeper h
    have hfields := SpellsFields.cons (.first (blank_lineStart hdeeper)) (spellsString_quote name)
      blank_nil blank_space (spells_pretty v hdeeper) (spellsFields_pretty fields h)
    rw [Value.pretty, Value.prettyFields, toList_block_cons]
    simpa using Spells.object hfields

theorem spellsItems_pretty : (items : List Value) → {indent : String} → Blank indent.toList →
    SpellsItems false items
      (((Value.prettyItems (indent ++ "  ") items).flatMap fun part =>
        ',' :: (lineStart (indent ++ "  ") ++ part.toList)) ++ (lineStart indent ++ [']']))
  | [], _, h => by
    rw [Value.prettyItems]
    exact .nil (blank_lineStart h)
  | v :: items, indent, h => by
    have hdeeper := blank_deeper h
    have hitems := SpellsItems.cons (.comma blank_nil (blank_lineStart hdeeper))
      (spells_pretty v hdeeper) (spellsItems_pretty items h)
    rw [Value.prettyItems]
    simpa using hitems

theorem spellsFields_pretty : (fields : List (String × Value)) → {indent : String} →
    Blank indent.toList →
    SpellsFields false fields
      (((Value.prettyFields (indent ++ "  ") fields).flatMap fun part =>
        ',' :: (lineStart (indent ++ "  ") ++ part.toList)) ++ (lineStart indent ++ ['\x7d']))
  | [], _, h => by
    rw [Value.prettyFields]
    exact .nil (blank_lineStart h)
  | (name, v) :: fields, indent, h => by
    have hdeeper := blank_deeper h
    have hfields := SpellsFields.cons (.comma blank_nil (blank_lineStart hdeeper))
      (spellsString_quote name) blank_nil blank_space (spells_pretty v hdeeper)
      (spellsFields_pretty fields h)
    rw [Value.prettyFields]
    simpa using hfields

end

theorem standsFor_compact (v : Value) : StandsFor v.compact v :=
  ⟨[], v.compact.toList, [], blank_nil, spells_compact v, blank_nil, by simp⟩

/-- A document that is printed, with the end of its last line, stands for its value. -/
theorem standsFor_pretty (v : Value) : StandsFor (v.pretty "" ++ "\n") v := by
  have hempty : Blank "".toList := fun _ hc => nomatch hc
  refine ⟨[], (v.pretty "").toList, ['\n'], blank_nil, spells_pretty v hempty, ?_, by simp⟩
  intro c hc
  obtain rfl := List.mem_singleton.1 hc
  rfl

end RefactorAudit.Json
