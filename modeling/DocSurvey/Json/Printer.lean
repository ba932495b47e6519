import DocSurvey.Json.Value
import DocSurvey.Text.Quoted

/-! JSON as text: spread over lines with two spaces for each level, or on a single line.
-/

namespace DocSurvey.Json

/-- A code point as an escape with four hexadecimal digits. -/
def unicodeEscape (code : Nat) : List Char :=
  let hex := Text.hexDigits code
  ['\\', 'u'] ++ List.replicate (4 - hex.length) '0' ++ hex

def escapedChar (c : Char) : List Char :=
  match c with
  | '"' => ['\\', '"']
  | '\\' => ['\\', '\\']
  | '\n' => ['\\', 'n']
  | '\r' => ['\\', 'r']
  | '\t' => ['\\', 't']
  | '\x08' => ['\\', 'b']
  | '\x0c' => ['\\', 'f']
  | c => if c.toNat < 32 then unicodeEscape c.toNat else [c]

def stringText (text : List Char) : List Char :=
  '"' :: (text.flatMap escapedChar ++ ['"'])

/-- A line break followed by the blanks of a level. -/
def newline (level : Nat) : List Char :=
  '\n' :: List.replicate (2 * level) ' '

mutual

/-- The text of a value whose first line stands at the given level. -/
def prettyChars (level : Nat) : Json → List Char
  | .null => ['n', 'u', 'l', 'l']
  | .bool true => ['t', 'r', 'u', 'e']
  | .bool false => ['f', 'a', 'l', 's', 'e']
  | .int value => intText value
  | .fraction negative size => fractionText negative size
  | .string text => stringText text.toList
  | .array [] => ['[', ']']
  | .array (item :: items) =>
      '[' :: (newline (level + 1) ++ prettyChars (level + 1) item
        ++ prettyItems (level + 1) items ++ newline level ++ [']'])
  | .object [] => ['\x7b', '\x7d']
  | .object ((name, value) :: members) =>
      '\x7b' :: (newline (level + 1) ++ stringText name.toList ++ [':', ' ']
        ++ prettyChars (level + 1) value ++ prettyMembers (level + 1) members ++ newline level
        ++ ['\x7d'])

def prettyItems (level : Nat) : List Json → List Char
  | [] => []
  | item :: items => ',' :: (newline level ++ prettyChars level item ++ prettyItems level items)

def prettyMembers (level : Nat) : List (String × Json) → List Char
  | [] => []
  | (name, value) :: members =>
      ',' :: (newline level ++ stringText name.toList ++ [':', ' '] ++ prettyChars level value
        ++ prettyMembers level members)

end

def pretty (value : Json) : String :=
  String.ofList (prettyChars 0 value)

/-- A character inside a string that must not break a line for any reader. -/
def singleLineChar (c : Char) : List Char :=
  if c = '\u0085' || c = '\u2028' || c = '\u2029' then unicodeEscape c.toNat else escapedChar c

mutual

/-- The text of a value on a single line. -/
def compactChars : Json → List Char
  | .null => ['n', 'u', 'l', 'l']
  | .bool true => ['t', 'r', 'u', 'e']
  | .bool false => ['f', 'a', 'l', 's', 'e']
  | .int value => intText value
  | .fraction negative size => fractionText negative size
  | .string text => '"' :: (text.toList.flatMap singleLineChar ++ ['"'])
  | .array [] => ['[', ']']
  | .array (item :: items) => '[' :: (compactChars item ++ compactItems items ++ [']'])
  | .object [] => ['\x7b', '\x7d']
  | .object ((name, value) :: members) =>
      '\x7b' :: '"' :: (name.toList.flatMap singleLineChar ++ ['"', ':'] ++ compactChars value
        ++ compactMembers members ++ ['\x7d'])

def compactItems : List Json → List Char
  | [] => []
  | item :: items => ',' :: (compactChars item ++ compactItems items)

def compactMembers : List (String × Json) → List Char
  | [] => []
  | (name, value) :: members =>
      ',' :: '"' :: (name.toList.flatMap singleLineChar ++ ['"', ':'] ++ compactChars value
        ++ compactMembers members)

end

def compact (value : Json) : String :=
  String.ofList (compactChars value)

end DocSurvey.Json
