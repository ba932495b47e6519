import DocSurvey.Json.Parser
import DocSurvey.Number.Whole

/-! What a plain scalar means where nothing tells its type: null, a truth value, a number or a text.
A number may have a sign; a whole number may have the base sixteen, eight or two, and one that
starts with a needless zero is a text.
-/

namespace DocSurvey.Yaml

/-- The meaning of a plain scalar. -/
inductive Plain where
  | null
  | flag (value : Bool)
  | integer (value : Int)
  | fraction (value : Json)
  /-- Infinity or no number, as messages spell it. -/
  | special (spelled : String)
  | text
  deriving Inhabited

def digitIn? (base : Nat) (c : Char) : Option Nat :=
  if Text.isHexDigit c && Text.hexValue c < base then some (Text.hexValue c) else none

/-- The number of digits in a base; there has to be one. -/
def numberIn? (base : Nat) (digits : List Char) : Option Nat :=
  if digits.isEmpty then none
  else digits.foldlM (fun n c => (digitIn? base c).map (base * n + ·)) 0

/-- The number of digits behind the mark of a base, or without one. -/
def wholeNumber? (text : List Char) : Option Nat :=
  let based := match text with
    | '0' :: 'x' :: digits => numberIn? 16 digits
    | '0' :: 'o' :: digits => numberIn? 8 digits
    | '0' :: 'b' :: digits => numberIn? 2 digits
    | _ => none
  match based with
  | some n => some n
  | none => numberIn? 10 text

def hasNeedlessZero (text : List Char) : Bool :=
  let digits := match text with
    | '-' :: rest => rest
    | '+' :: rest => rest
    | text => text
  match digits with
  | '0' :: rest => !rest.isEmpty && rest.all Text.isAsciiDigit
  | _ => false

def integer? (text : List Char) : Option Int :=
  if hasNeedlessZero text then
    none
  else
    match text with
    | '-' :: rest => (wholeNumber? rest).map fun n => -(n : Int)
    | '+' :: rest => (wholeNumber? rest).map fun n => (n : Int)
    | rest => (wholeNumber? rest).map fun n => (n : Int)

/-- The number with a fraction or an exponent that a text without a plus sign spells. -/
def decimal? (text : List Char) : Option Json := do
  let (negative, text) := match text with
    | '-' :: rest => (true, rest)
    | rest => (false, rest)
  let whole := text.takeWhile Text.isAsciiDigit
  let behind := text.drop whole.length
  let (places, behind) := match behind with
    | '.' :: rest =>
        let places := rest.takeWhile Text.isAsciiDigit
        (places, rest.drop places.length)
    | rest => ([], rest)
  let (power, behind) ← Json.readExponent behind
  if (whole ++ places).isEmpty || !behind.isEmpty then
    none
  else
    Json.ofScientific? negative (Number.ofDigits (whole ++ places))
      (power.getD 0 - (places.length : Int))

def nulls : List String := ["", "null", "Null", "NULL", "~"]

/-- The meaning of a number that is not whole. -/
def fraction? (text : List Char) : Option Plain :=
  let unsigned := match text with
    | '+' :: rest => if rest.head?.any ['+', '-'].contains then none else some rest
    | rest => some rest
  if (unsigned.map String.ofList).any [".inf", ".Inf", ".INF"].contains then
    some (.special "inf")
  else if ["-.inf", "-.Inf", "-.INF"].contains (String.ofList text) then
    some (.special "-inf")
  else if [".nan", ".NaN", ".NAN"].contains (String.ofList text) then
    some (.special "NaN")
  else
    (unsigned.bind decimal?).map .fraction

def plainMeaning (text : List Char) : Plain :=
  let word := String.ofList text
  if nulls.contains word then .null
  else if ["true", "True", "TRUE"].contains word then .flag true
  else if ["false", "False", "FALSE"].contains word then .flag false
  else
    match integer? text with
    | some value =>
        if Number.fitsSigned 128 value || Number.fitsUnsigned 128 value then .integer value
        else (fraction? text).getD .text
    | none => if hasNeedlessZero text then .text else (fraction? text).getD .text

end DocSurvey.Yaml
