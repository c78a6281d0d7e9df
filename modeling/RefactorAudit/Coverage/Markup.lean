-- SUMMARY: The tags of a markup document and their attributes.
import RefactorAudit.Text.Blank
import RefactorAudit.Text.WordCharacter

/-!
# Markup

A document is read tag by tag, without building a tree. Comments, character data sections and
processing instructions hold no tags and are taken out first. A tag ends at the first `>`, and what
does not look like a tag is passed over.
-/

namespace RefactorAudit.Coverage.Markup

/-! ## Entities -/

/-- Characters with a meaning in markup, and the entities that stand for them. -/
def entities : List (Char × String) :=
  [('<', "&lt;"), ('>', "&gt;"), ('"', "&quot;"), ('\'', "&apos;"), ('&', "&amp;")]

/-- Writes the characters with a meaning as entities. -/
def escape (text : List Char) : List Char :=
  text.flatMap fun c => ((entities.lookup c).map String.toList).getD [c]

/-- Reads entities back, the ampersand last so that each is read once. -/
def unescape (text : List Char) : List Char :=
  entities.foldl (fun text (c, entity) => Text.replace entity.toList [c] text) text

/-! ## What holds no tags -/

/-- What follows the first occurrence of a text. -/
def after? (text : List Char) : List Char → Option (List Char)
  | [] => Text.dropStart? text []
  | c :: rest => (Text.dropStart? text (c :: rest)).or (after? text rest)

/-- The beginnings and ends of stretches without tags. -/
def brackets : List (String × String) :=
  [("<!--", "-->"), ("<![CDATA[", "]]>"), ("<?", "?>")]

/-- What follows a stretch without tags, if one begins here and ends somewhere. -/
def afterBracket? (cs : List Char) : Option (List Char) :=
  brackets.findSome? fun (opening, closing) =>
    (Text.dropStart? opening.toList cs).bind (after? closing.toList)

theorem length_dropStart? {start cs rest : List Char} (h : Text.dropStart? start cs = some rest) :
    rest.length + start.length = cs.length := by
  induction start generalizing cs with
  | nil => simp_all [Text.dropStart?]
  | cons c start ih =>
    cases cs with
    | nil => simp [Text.dropStart?] at h
    | cons d cs =>
      simp only [Text.dropStart?] at h
      split at h
      · have := ih h; simp only [List.length_cons]; omega
      · simp at h

theorem length_after? {text cs rest : List Char} (h : after? text cs = some rest) :
    rest.length ≤ cs.length := by
  induction cs with
  | nil =>
    have := length_dropStart? (by simpa [after?] using h)
    exact Nat.le_of_add_right_le (Nat.le_of_eq this)
  | cons c cs ih =>
    simp only [after?, Option.or_eq_some_iff] at h
    rcases h with h | ⟨_, h⟩
    · have := length_dropStart? h; omega
    · have := ih h; simp only [List.length_cons]; omega

theorem length_afterBracket? {cs rest : List Char} (h : afterBracket? cs = some rest) :
    rest.length < cs.length := by
  obtain ⟨⟨opening, closing⟩, mem, h⟩ := List.exists_of_findSome?_eq_some h
  obtain ⟨inner, start, ending⟩ := Option.bind_eq_some_iff.1 h
  have := length_after? ending
  have := length_dropStart? start
  simp only [brackets, List.mem_cons, List.not_mem_nil, or_false, Prod.mk.injEq] at mem
  rcases mem with ⟨rfl, _⟩ | ⟨rfl, _⟩ | ⟨rfl, _⟩ <;> simp at this <;> omega

/-- A document without the stretches that hold no tags. -/
def tagged : List Char → List Char
  | [] => []
  | c :: rest =>
    match h : afterBracket? (c :: rest) with
    | some after =>
      have := length_afterBracket? h
      tagged after
    | none => c :: tagged rest
  termination_by cs => cs.length
  decreasing_by
    · exact this
    · exact Nat.lt_succ_self rest.length

/-! ## Names -/

def startsName (c : Char) : Bool := c.isAlpha || c = '_'

def isNamePart (c : Char) : Bool := Text.isWordCharacter c || c = ':' || c = '.' || c = '-'

/-- The name at the beginning of a text, and what follows it. -/
def name? : List Char → Option (List Char × List Char)
  | [] => none
  | c :: rest =>
    if startsName c then some (c :: rest.takeWhile isNamePart, rest.dropWhile isNamePart) else none

/-! ## Tags -/

structure Tag where
  closing : Bool
  name : String
  /-- What stands between the name and the end of the tag. -/
  attributes : List Char
  deriving DecidableEq, Repr, Inhabited

namespace Tag

/-- Whether the tag closes the element that it opens. -/
def isSelfClosing (t : Tag) : Bool := (Text.trimEnd t.attributes).getLast? = some '/'

/-- The tag behind a `<`, and what follows it. -/
def read? (cs : List Char) : Option (Tag × List Char) := do
  let cs := cs.dropWhile Text.isBlank
  let (closing, cs) := match cs with
    | '/' :: rest => (true, rest)
    | cs => (false, cs)
  let (name, cs) ← name? (cs.dropWhile Text.isBlank)
  match cs.dropWhile (· ≠ '>') with
  | [] => none
  | _ :: rest =>
    some ({ closing, name := String.ofList name, attributes := cs.takeWhile (· ≠ '>') }, rest)

end Tag

/-- The tags of a text, in order; `fuel` bounds the length of the text. -/
def tagsWithin : Nat → List Char → List Tag
  | 0, _ => []
  | fuel + 1, cs =>
    match cs.dropWhile (· ≠ '<') with
    | [] => []
    | _ :: rest =>
      match Tag.read? rest with
      | some (tag, after) => tag :: tagsWithin fuel after
      | none => tagsWithin fuel rest

/-- The tags of a document. -/
def tags (document : List Char) : List Tag :=
  let text := tagged document
  tagsWithin (text.length + 1) text

/-! ## Attributes -/

/-- The text up to a quote, and what follows the quote. -/
def quoted? (quote : Char) (cs : List Char) : Option (List Char × List Char) :=
  match cs.dropWhile (· ≠ quote) with
  | [] => none
  | _ :: rest => some (cs.takeWhile (· ≠ quote), rest)

/-- The value behind the name of an attribute, and what follows it. -/
def value? (cs : List Char) : Option (List Char × List Char) :=
  match cs.dropWhile Text.isBlank with
  | '=' :: rest =>
    match rest.dropWhile Text.isBlank with
    | '"' :: rest => quoted? '"' rest
    | '\'' :: rest => quoted? '\'' rest
    | _ => none
  | _ => none

/-- The attributes in a text, in order; `fuel` bounds the length of the text. -/
def attributesWithin : Nat → List Char → List (List Char × List Char)
  | 0, _ => []
  | fuel + 1, cs =>
    match cs with
    | [] => []
    | _ :: rest =>
      match name? cs with
      | none => attributesWithin fuel rest
      | some (name, behind) =>
        match value? behind with
        | some (value, after) => (name, value) :: attributesWithin fuel after
        | none => attributesWithin fuel behind

/-- The value of the first attribute of a name. -/
def Tag.attribute? (t : Tag) (name : String) : Option (List Char) :=
  (attributesWithin (t.attributes.length + 1) t.attributes).lookup name.toList

end RefactorAudit.Coverage.Markup
