-- SUMMARY: How many columns of a terminal a text takes.
import RefactorAudit.Terminal.Characters

/-!
# Display width

Characters of the scripts of East Asia and most pictures take two columns; marks that combine with
the character before them, and characters that are not shown, take none; all others, control
characters included, take one. What stands behind a character can change this: a mark can ask for
it as a picture or as a letter, and pictures, flags and some letters join with the one behind them.
A text is therefore measured from its end.
-/

namespace RefactorAudit.Terminal

/-! ## What stands behind a character -/

/-- The shape that the mark behind a character asks for. -/
inductive Shape where
  | own
  | picture
  | text
  /-- A quotation mark of two columns. -/
  | wideQuote
  deriving DecidableEq, Repr

/-- The start of a sequence that the characters before it can join. -/
inductive Follower where
  /-- Nothing that joins. -/
  | plain
  | lineFeed
  | alef
  | lamed (joined : Bool)
  | ya (joined : Bool)
  | tifinagh (joined : Bool)
  | orkhonI (joined : Bool)
  | yaVowel
  | tifinaghJoiner
  | lisuTone
  | khmerLetter
  /-- The vowel signs of Kirat Rai of one stroke and of two. -/
  | vowelE
  | vowelAi
  | picture
  | joinedPicture
  | joinedKeycap
  | tone
  /-- One half of a flag, and several of them. -/
  | flagHalf
  | flags
  | joinedFlag
  /-- Flags behind a joiner, by whether the halves that follow it make up whole flags. -/
  | joinedFlags (whole : Bool)
  /-- The end of a tag sequence, its letters and its digits, counted from the end. -/
  | tagEnd
  | tagLetters (count : Nat)
  | tagDigits (count : Nat)
  deriving DecidableEq, Repr

/-- What decides with a character how wide it is. -/
structure Behind where
  follower : Follower
  shape : Shape := .own

namespace Follower

/-- Whether the letters of the sequence join across marks. -/
def isLigature : Follower → Bool
  | .lamed _ | .ya _ | .tifinagh _ | .orkhonI _ | .yaVowel | .tifinaghJoiner | .lisuTone
  | .khmerLetter => true
  | _ => false

/-- The sequence behind a mark that asks for a shape. -/
def behindMark (f : Follower) : Follower :=
  if f.isLigature || f = .alef then f else .plain

/-- The sequence behind a joiner. -/
def behindJoiner : Follower → Follower
  | .lamed _ => .lamed true
  | .ya _ => .ya true
  | .tifinagh _ => .tifinagh true
  | .orkhonI _ => .orkhonI true
  | f => f

end Follower

/-! ## Single characters -/

namespace Mark

/-- Joins the characters around it. -/
def joiner : Char := '\u200d'

/-- Asks for the character before it as a picture. -/
def picture : Char := '\ufe0f'

/-- Asks for the character before it as text. -/
def text : Char := '\ufe0e'

/-- Asks for the quotation mark before it as wide. -/
def wideQuote : Char := '\ufe01'

/-- Puts the character before it on a key. -/
def keycap : Char := '\u20e3'

end Mark

/-- Whether the code point of a character lies between two others. -/
def between (first last : Nat) (c : Char) : Bool := first ≤ c.toNat && c.toNat ≤ last

/-- Whether a character gives its tone to the picture before it. -/
def isTone : Char → Bool := between 0x1F3FB 0x1F3FF

/-- Whether a character is one half of a flag. -/
def isFlagHalf : Char → Bool := between 0x1F1E6 0x1F1FF

/-- Whether a character is a quotation mark that has a wide form. -/
def isQuote (c : Char) : Bool := c = '‘' || c = '’' || c = '“' || c = '”'

/-- The columns of a character that joins with nothing behind it, and what it is for the one before
it. -/
def alone (c : Char) : Int × Behind :=
  if c = Mark.picture then (0, ⟨.plain, .picture⟩)
  else if c = Mark.text then (0, ⟨.plain, .text⟩)
  else if c = Mark.wideQuote then (0, ⟨.plain, .wideQuote⟩)
  else if c.toNat = 0x5DC then (1, ⟨.lamed false, .own⟩)
  else if alefs.has c then (1, ⟨.alef, .own⟩)
  else if khmerLetters.has c then (1, ⟨.khmerLetter, .own⟩)
  else if c.toNat = 0x17D8 then (3, ⟨.plain, .own⟩)
  else if c.toNat = 0x1A10 then (1, ⟨.ya false, .own⟩)
  else if tifinaghConsonants.has c then (1, ⟨.tifinagh false, .own⟩)
  else if between 0xA4FC 0xA4FD c then (1, ⟨.lisuTone, .own⟩)
  else if c.toNat = 0x10C03 then (1, ⟨.orkhonI false, .own⟩)
  else if c.toNat = 0x16D67 then (1, ⟨.vowelE, .own⟩)
  else if c.toNat = 0x16D68 then (1, ⟨.vowelAi, .own⟩)
  else if isFlagHalf c then (1, ⟨.flagHalf, .own⟩)
  else if isTone c then (2, ⟨.tone, .own⟩)
  else if pictures.has c then (2, ⟨.picture, .own⟩)
  else if zeroCharacters.has c then (0, ⟨.plain, .own⟩)
  else if wideCharacters.has c then (2, ⟨.plain, .own⟩)
  else (1, ⟨.plain, .own⟩)

/-! ## Sequences -/

/-- The columns that a letter adds to those behind it, and the sequence it starts; `none` where it
does not join. -/
def joinLetter? (f : Follower) (c : Char) : Option (Int × Follower) :=
  let n := c.toNat
  match f with
  | .alef =>
    if lams.has c then some (0, .plain)
    else if zeroCharacters.has c && !joinBreakers.has c then some (0, .alef)
    else none
  | .lamed true => if n = 0x5D0 then some (0, .plain) else none
  | .khmerLetter => if n = 0x17D2 then some (-1, .plain) else none
  | .ya true => if n = 0x1A17 then some (0, .yaVowel) else none
  | .yaVowel => if n = 0x1A15 then some (0, .plain) else none
  | .tifinagh joined =>
    if n = 0x2D7F then some (1, .tifinaghJoiner)
    else if joined && tifinaghConsonants.has c then some (0, .plain)
    else none
  | .tifinaghJoiner => if tifinaghConsonants.has c then some (-1, .plain) else none
  | .lisuTone => if between 0xA4F8 0xA4FB c then some (0, .plain) else none
  | .orkhonI true => if n = 0x10C32 then some (0, .plain) else none
  | .vowelE =>
    if n = 0x16D63 || n = 0x16D69 then some (0, .plain)
    else if n = 0x16D67 then some (0, .vowelAi)
    else if n = 0x16D68 then some (1, .vowelE)
    else none
  | .vowelAi => if n = 0x16D63 then some (0, .plain) else none
  | _ => none

/-- The sequence of tags before one, if a character goes on with it: letters, then up to three
digits, end with the picture of a flag. -/
def joinTag? (f : Follower) (c : Char) : Option Follower :=
  let letter := between 0xE0061 0xE007A c
  let digit := between 0xE0030 0xE0039 c
  let flag := c.toNat = 0x1F3F4
  match f with
  | .tagEnd =>
    if letter then some (.tagLetters 1) else if digit then some (.tagDigits 1) else none
  | .tagLetters count =>
    if letter && count < 6 then some (.tagLetters (count + 1))
    else if digit && count < 5 then some (.tagDigits 1)
    else if flag && 3 ≤ count then some .picture
    else none
  | .tagDigits count =>
    if digit && count < 3 then some (.tagDigits (count + 1))
    else if flag && count = 3 then some .picture
    else none
  | _ => none

/-- The columns that a part of a picture adds to those behind it, and the sequence it starts; `none`
where it does not join. -/
def joinPicture? (f : Follower) (c : Char) : Option (Int × Follower) :=
  match f with
  | .picture => if c = Mark.joiner then some (0, .joinedPicture) else none
  | .tone =>
    if tonedPictures.has c then some (0, .picture)
    else if c = Mark.joiner then some (0, .joinedPicture)
    else none
  | .flagHalf => if isFlagHalf c then some (1, .flags) else none
  | .flags =>
    if isFlagHalf c then some (1, .flags)
    else if c = Mark.joiner then some (0, .joinedPicture)
    else none
  | .joinedFlag => if isFlagHalf c then some (-1, .joinedFlags true) else none
  | .joinedFlags whole =>
    if c = Mark.joiner then some (0, .joinedPicture)
    else if isFlagHalf c then some (if whole then 3 else -1, .joinedFlags !whole)
    else none
  | .joinedPicture =>
    if c = Mark.keycap then some (0, .joinedKeycap)
    else if isFlagHalf c then some (1, .joinedFlag)
    else if isTone c then some (0, .tone)
    else if c.toNat = 0xE007F then some (0, .tagEnd)
    else if pictures.has c then some (0, .picture)
    else none
  | f => (joinTag? f c).map (0, ·)

/-! ## Whole texts -/

/-- The columns that a character of its own shape adds to those behind it. -/
def addOwn (f : Follower) (c : Char) : Int × Behind :=
  if f.isLigature && joiningMarks.has c then
    (0, ⟨if c = Mark.joiner then f.behindJoiner else f, .own⟩)
  else
    match joinLetter? f c <|> joinPicture? f c with
    | some (columns, next) => (columns, ⟨next, .own⟩)
    | none => alone c

/-- The columns that a character adds to those behind it, and what it is for the one before it. -/
def addBefore (b : Behind) (c : Char) : Int × Behind :=
  let joined := b.follower = .joinedPicture || b.follower = .joinedKeycap
  if b.shape = .picture && pictureBases.has c then
    (if joined then 0 else 2, ⟨.picture, .own⟩)
  else
    let f := if b.shape = .picture then b.follower.behindMark else b.follower
    if c.toNat ≤ 0xA0 then
      if c = '\n' then (1, ⟨.lineFeed, .own⟩)
      else (if c = '\r' && f = .lineFeed then 0 else 1, ⟨.plain, .own⟩)
    else if c = Mark.picture then
      let kept := f = .joinedPicture || f = .joinedKeycap
      (0, ⟨if kept then f else f.behindMark, .picture⟩)
    else if c = Mark.text then (0, ⟨f.behindMark, .text⟩)
    else if b.shape = .text && textBases.has c then (1, ⟨.plain, .own⟩)
    else if b.shape = .wideQuote && isQuote c then (2, ⟨.plain, .own⟩)
    else addOwn f c

/-- The columns of a text. -/
def width (text : List Char) : Nat :=
  (text.foldr
    (fun c (columns, b) => let (added, next) := addBefore b c; (columns + added, next))
    ((0 : Int), (⟨.plain, .own⟩ : Behind))).1.toNat

end RefactorAudit.Terminal
