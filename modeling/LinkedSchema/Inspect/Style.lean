/-!
# Styled text

Text on a terminal, with a style opened before it and reset behind it by escape sequences.

* `Colour`, `Style` — how a piece of text looks;
* `Style.paint` — a piece of text in a style, or plain where styles are off.
-/

namespace LinkedSchema.Inspect

/-- The colours in use. -/
inductive Colour
  | green
  | yellow
  | blue
  | magenta
  | cyan
deriving DecidableEq, Repr

/-- The parameter that selects a colour for letters. -/
def Colour.code : Colour → String
  | .green => "32"
  | .yellow => "33"
  | .blue => "34"
  | .magenta => "35"
  | .cyan => "36"

/-- How a piece of text looks. -/
structure Style where
  bold : Bool := false
  colour : Option Colour := none
deriving DecidableEq, Repr

/-- The sequence that ends all styles. -/
def resetSequence : List Char := ['\x1b', '[', '0', 'm']

/-- The sequence that opens a style. -/
def Style.opening (style : Style) : List Char :=
  let codes := (if style.bold then ["1"] else []) ++ style.colour.toList.map Colour.code
  ['\x1b', '['] ++ (String.intercalate ";" codes).toList ++ ['m']

/-- Opens a style again behind every reset that a text contains. -/
def reopen (opening : List Char) : List Char → List Char
  | [] => []
  | '\x1b' :: '[' :: '0' :: 'm' :: rest => resetSequence ++ opening ++ reopen opening rest
  | c :: rest => c :: reopen opening rest

/-- A text in a style, or as it is where styles are off. -/
def Style.paint (style : Style) (coloured : Bool) (text : String) : String :=
  if coloured then
    String.ofList (style.opening ++ reopen style.opening text.toList ++ resetSequence)
  else text

end LinkedSchema.Inspect
