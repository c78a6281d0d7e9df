-- SUMMARY: Bold and coloured text for terminals.
import RefactorAudit.Text.Blank

/-!
# Terminal styles

A style is switched on before a text and off behind it. Where the text switches styles off itself,
the style is switched on again.
-/

namespace RefactorAudit.Terminal

inductive Colour where
  | red
  | green
  | yellow
  | magenta
  deriving DecidableEq, Repr, Inhabited

def Colour.code : Colour → String
  | red => "31"
  | green => "32"
  | yellow => "33"
  | magenta => "35"

structure Style where
  bold : Bool := false
  colour : Option Colour := none
  deriving DecidableEq, Repr, Inhabited

/-- What switches every style off. -/
def off : String := "\x1b[0m"

/-- What switches a style on. -/
def Style.on (s : Style) : String :=
  let codes := (if s.bold then ["1"] else []) ++ (s.colour.map Colour.code).toList
  "\x1b[" ++ ";".intercalate codes ++ "m"

/-- A text in a style, or as it is if the terminal shows no styles. -/
def Style.paint (s : Style) (styled : Bool) (text : String) : String :=
  if styled then
    let inner := Text.replace off.toList (off ++ s.on).toList text.toList
    s.on ++ String.ofList inner ++ off
  else text

end RefactorAudit.Terminal
