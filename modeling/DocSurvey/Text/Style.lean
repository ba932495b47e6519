import DocSurvey.Text.Search

/-! Text on a terminal: colours, weight, and the escape codes that show them. -/

namespace DocSurvey.Text

/-- The colours in use. -/
inductive Colour where
  | red
  | green
  | yellow
  | blue
  | cyan
  deriving Repr, DecidableEq, Inhabited

def Colour.code : Colour → String
  | .red => "31"
  | .green => "32"
  | .yellow => "33"
  | .blue => "34"
  | .cyan => "36"

/-- How a text is shown. -/
structure Style where
  bold : Bool := false
  dimmed : Bool := false
  colour : Option Colour := none
  deriving Repr, DecidableEq, Inhabited

namespace Style

def reset : String := "\x1b[0m"

def opening (style : Style) : String :=
  let weight := (if style.bold then ["1"] else []) ++ (if style.dimmed then ["2"] else [])
  "\x1b[" ++ ";".intercalate (weight ++ style.colour.toList.map Colour.code) ++ "m"

/-- The text with a further text behind each place where a mark occurs. -/
def insertBehind (mark further : List Char) : (taken : Nat) → List Char → List Char
  | _, [] => []
  | taken + 1, c :: rest =>
      c :: ((if taken = 0 then further else []) ++ insertBehind mark further taken rest)
  | 0, c :: rest =>
      if mark.isPrefixOf (c :: rest) then
        c :: insertBehind mark further (mark.length - 1) rest
      else
        c :: insertBehind mark further 0 rest

/-- The text in the style, if styles are shown. Where the text itself turns styles off, the style is
turned on again.
-/
def apply (shown : Bool) (style : Style) (text : String) : String :=
  if shown then
    let inner := insertBehind reset.toList style.opening.toList 0 text.toList
    style.opening ++ String.ofList inner ++ reset
  else
    text

end Style

end DocSurvey.Text
