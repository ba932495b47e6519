import DocSurvey.Text.CharClass

/-! A place in a YAML text, and the characters that matter there. -/

namespace DocSurvey.Yaml

/-- A line and a column, both from zero. -/
structure Mark where
  line : Nat
  column : Nat
  deriving Repr, DecidableEq, Inhabited

/-- A place in a text: what is left, where that starts, and how many characters lie before it. -/
structure Cursor where
  rest : List Char
  mark : Mark
  index : Nat
  deriving Repr, Inhabited

def isBlank (c : Char) : Bool :=
  c == ' ' || c == '\t'

def isBreak (c : Char) : Bool :=
  c == '\r' || c == '\n' || c == '\u0085' || c == '\u2028' || c == '\u2029'

/-- The characters that a text may hold at all. -/
def isAllowed (c : Char) : Bool :=
  c == '\t' || c == '\n' || c == '\r' || (' ' ≤ c && c ≤ '~') || c == '\u0085'
    || ('\u00a0' ≤ c && c != '\ufffe' && c != '\uffff')

def isNameChar (c : Char) : Bool :=
  Text.isAsciiLetter c || Text.isAsciiDigit c || c == '_' || c == '-'

namespace Cursor

def ofText (text : List Char) : Cursor :=
  ⟨text, ⟨0, 0⟩, 0⟩

def peek? (cursor : Cursor) : Option Char :=
  cursor.rest.head?

def isAt (cursor : Cursor) (c : Char) : Bool :=
  cursor.peek? == some c

def startsBlank (text : List Char) : Bool :=
  match text with
  | [] => true
  | c :: _ => isBlank c || isBreak c

def isAtBlank (cursor : Cursor) : Bool :=
  startsBlank cursor.rest

def isAtLineEnd (cursor : Cursor) : Bool :=
  match cursor.peek? with
  | none => true
  | some c => isBreak c

def skip (cursor : Cursor) (count : Nat) : Cursor :=
  { rest := cursor.rest.drop count
    mark := { cursor.mark with column := cursor.mark.column + count }
    index := cursor.index + count }

/-- Behind a line break; a carriage return and a line feed are one break. -/
def skipLine (cursor : Cursor) : Cursor :=
  let count := if ['\r', '\n'].isPrefixOf cursor.rest then 2 else 1
  { rest := cursor.rest.drop count
    mark := ⟨cursor.mark.line + 1, 0⟩
    index := cursor.index + count }

/-- The line break that is next, as it stands in a value. -/
def breakText (cursor : Cursor) : List Char :=
  match cursor.peek? with
  | some c => if c == '\u2028' || c == '\u2029' then [c] else if isBreak c then ['\n'] else []
  | none => []

def skipWhile (cursor : Cursor) (isMember : Char → Bool) : Cursor :=
  cursor.skip (cursor.rest.takeWhile isMember).length

def skipComment (cursor : Cursor) : Cursor :=
  if cursor.isAt '#' then cursor.skipWhile (!isBreak ·) else cursor

/-- A line of its own that starts with the characters and then a blank is next. -/
def isAtIndicator (cursor : Cursor) (characters : String) : Bool :=
  cursor.mark.column == 0 && characters.toList.isPrefixOf cursor.rest
    && startsBlank (cursor.rest.drop characters.length)

/-- The start or the end of a document is marked here. -/
def isAtDocumentMark (cursor : Cursor) : Bool :=
  cursor.isAtIndicator "---" || cursor.isAtIndicator "..."

end Cursor

end DocSurvey.Yaml
