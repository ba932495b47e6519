import DocSurvey.Text.CharClass

/-! How far a number literal reaches in a Python text. Underscores stand between groups of digits,
and a decimal literal may end in one.
-/

namespace DocSurvey.Python

open DocSurvey.Text

/-- The length of the digits at the start of a text, with single underscores behind them. -/
def digitsLength (isDigit : Char → Bool) : List Char → Nat
  | [] => 0
  | [c] => if isDigit c then 1 else 0
  | c :: d :: rest =>
      if isDigit c then
        if d == '_' then 2 + digitsLength isDigit rest else 1 + digitsLength isDigit (d :: rest)
      else
        0

def groupsLength (isDigit : Char → Bool) : List Char → Nat
  | [] => 0
  | [c] => if isDigit c then 1 else 0
  | c :: d :: rest =>
      if isDigit c then
        1 + groupsLength isDigit (d :: rest)
      else if c == '_' && isDigit d then
        2 + groupsLength isDigit rest
      else
        0

/-- One, if the text starts with one of the characters. -/
def suffixLength (characters : List Char) (text : List Char) : Nat :=
  if text.head?.any characters.contains then 1 else 0

def exponentLength : List Char → Nat
  | c :: rest =>
      if c == 'e' || c == 'E' then
        let sign := suffixLength ['+', '-'] rest
        let digits := digitsLength isAsciiDigit (rest.drop sign)
        if digits == 0 then 0 else 1 + sign + digits
      else
        0
  | [] => 0

def basedLength (text : List Char) : Nat :=
  match text with
  | '0' :: mark :: digits =>
      let isDigit? : Option (Char → Bool) := match mark with
        | 'x' | 'X' => some isHexDigit
        | 'o' | 'O' => some fun c => '0' ≤ c && c ≤ '7'
        | 'b' | 'B' => some fun c => c == '0' || c == '1'
        | _ => none
      match isDigit?.map fun isDigit => groupsLength isDigit digits with
      | none | some 0 => 0
      | some length => 2 + length + suffixLength ['l', 'L'] (digits.drop length)
  | _ => 0

def decimalLength (text : List Char) : Nat :=
  let whole := digitsLength isAsciiDigit text
  let behind := text.drop whole
  match behind with
  | '.' :: fraction =>
      let places := digitsLength isAsciiDigit fraction
      if whole + places == 0 then
        0
      else
        let length := whole + 1 + places
        let length := length + exponentLength (text.drop length)
        length + suffixLength ['j', 'J'] (text.drop length)
  | _ =>
      if whole == 0 then
        0
      else
        let exponent := exponentLength behind
        let marks := if exponent == 0 then ['l', 'L', 'j', 'J'] else ['j', 'J']
        whole + exponent + suffixLength marks (text.drop (whole + exponent))

/-- The length of the number literal at the start of a text, zero if there is none. -/
def numberLength (text : List Char) : Nat :=
  let based := basedLength text
  if based == 0 then decimalLength text else based

end DocSurvey.Python
