-- SUMMARY: The characters of words.
import RefactorAudit.Text.Identifier

/-!
# Word characters

The characters that make up words, as the Unicode standard recommends for patterns: everything
alphabetic, marks, decimal digits, connecting punctuation and the two joiners. They are the
characters of identifiers, with a few more and a few less.
-/

namespace RefactorAudit.Text

/-- Word characters that do not go on with an identifier. -/
def furtherWordCharacters : Ranges := #[
  (0x37A, 0x37A), (0x488, 0x489), (0x1ABE, 0x1ABE), (0x20DD, 0x20E0), (0x20E2, 0x20E4),
  (0x24B6, 0x24E9), (0x2E2F, 0x2E2F), (0xA670, 0xA672), (0xFC5E, 0xFC63), (0xFDFA, 0xFDFB),
  (0xFE70, 0xFE70), (0xFE72, 0xFE72), (0xFE74, 0xFE74), (0xFE76, 0xFE76), (0xFE78, 0xFE78),
  (0xFE7A, 0xFE7A), (0xFE7C, 0xFE7C), (0xFE7E, 0xFE7E), (0x1F130, 0x1F149), (0x1F150, 0x1F169),
  (0x1F170, 0x1F189)]

/-- Characters that go on with an identifier and are no word characters. -/
def identifierSymbols : Ranges := #[
  (0xB7, 0xB7), (0x387, 0x387), (0x1369, 0x1371), (0x19DA, 0x19DA), (0x2118, 0x2118),
  (0x212E, 0x212E), (0x30FB, 0x30FB), (0xFF65, 0xFF65)]

/-- Whether a character belongs to a word. -/
def isWordCharacter (c : Char) : Bool :=
  c = '_' || c.isAlphanum ||
    (c.toNat ≥ 128 && ((isIdentifierContinue c && !identifierSymbols.has c)
      || furtherWordCharacters.has c))

end RefactorAudit.Text
