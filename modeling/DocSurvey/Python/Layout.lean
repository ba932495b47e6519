import DocSurvey.Text.CharClass

/-! The blank text between two tokens of a Python file: how far the next code stands from the
margin, and which blanks count towards that distance.
-/

namespace DocSurvey.Python

/-- Where a run of blanks leads: whether it crosses a line break, the column it reaches on the last
line, how many characters it passes, and the text behind it.
-/
structure Gap where
  broken : Bool
  column : Nat
  passed : Nat
  rest : List Char
  deriving Repr, DecidableEq, Inhabited

/-- The blanks that no column is counted for. -/
def isLooseBlank (c : Char) : Bool :=
  c == '\x0b' || c == '\ufeff' || c == '\u2060' || c == '\u200b'

/-- Blanks of either sort, line breaks included. -/
def isAnyBlank (c : Char) : Bool :=
  c == ' ' || c == '\t' || c == '\n' || c == '\r' || c == '\x0c' || isLooseBlank c

def dropComment (text : List Char) : List Char :=
  text.dropWhile (· != '\n')

def commentLength (text : List Char) : Nat :=
  (text.takeWhile (· != '\n')).length

def tabWidth : Nat := 8

/-- Measures the blanks in front of the next token, with the line break seen, the column reached and
the characters passed so far. A line feed, a carriage return and a form feed start a new column
count; a backslash at the end of a line joins it to the next; the end of the text counts as a line
break.
-/
def measure (broken : Bool) (column passed : Nat) : List Char → Gap
  | [] => ⟨true, 0, passed, []⟩
  | '\n' :: rest => measure true 0 (passed + 1) rest
  | ' ' :: rest => measure broken (column + 1) (passed + 1) rest
  | '\t' :: rest => measure broken (column + tabWidth) (passed + 1) rest
  | '\r' :: rest => measure broken 0 (passed + 1) rest
  | '\x0c' :: rest => measure broken 0 (passed + 1) rest
  | '\\' :: '\n' :: rest => measure broken column (passed + 2) rest
  | '\\' :: '\r' :: '\n' :: rest => measure broken column (passed + 3) rest
  | ['\\'] => ⟨true, 0, passed + 1, []⟩
  | ['\\', '\r'] => ⟨true, 0, passed + 2, []⟩
  | text => ⟨broken, column, passed, text⟩

theorem measure_lineFeed (broken : Bool) (column passed : Nat) (rest : List Char)
    : measure broken column passed ('\n' :: rest) = measure true 0 (passed + 1) rest :=
  rfl

theorem measure_space (broken : Bool) (column passed : Nat) (rest : List Char)
    : measure broken column passed (' ' :: rest) = measure broken (column + 1) (passed + 1) rest :=
  rfl

def gapToToken (text : List Char) : Gap :=
  measure false 0 0 text

/-- The blanks in front of the next code: comments that have a line of their own are passed over,
those on the first line are not. The characters of the text bound the repetitions.
-/
def gapToCode (text : List Char) : Gap :=
  go text (gapToToken text)
where
  go : List Char → Gap → Gap
    | [], gap => gap
    | _ :: budget, gap =>
        match gap.broken, gap.rest with
        | true, '#' :: rest =>
            go budget (measure true 0 (gap.passed + 1 + commentLength rest) (dropComment rest))
        | _, _ => gap

/-- What may stand behind a token. -/
inductive Place where
  /-- Another token has to follow, so a line break may not lead out of the block. -/
  | between
  /-- A closing bracket may follow, so line breaks do not count. -/
  | bracketed
  /-- The end of the statement may follow, and a line break is that end. -/
  | ending
  deriving Repr, DecidableEq, Inhabited

def isStringFlag (c : Char) : Bool :=
  ['f', 'F', 'r', 'R', 'b', 'B', 'u', 'U'].contains c

def isQuote (c : Char) : Bool :=
  c == '"' || c == '\'' || c == '\x60'

def opensString (text : List Char) : Bool :=
  (text.dropWhile isStringFlag).head?.any isQuote

/-- How many characters stand in front of the next token, or nothing when none can follow. A token
between others may not stand left of the block's column, unless inside a formatted string or a
string itself. Behind a blank that no column is counted for, a string cannot start. The characters
of the text bound the repetitions.
-/
def blanksAhead (place : Place) (column : Nat) (inFormat : Bool) (text : List Char) : Option Nat :=
  go ('\n' :: text) 0 text
where
  go : List Char → Nat → List Char → Option Nat
    | [], _, _ => none
    | _ :: budget, passed, text =>
        let gap := gapToToken text
        if place == .ending && gap.broken then
          some passed
        else if place == .between && gap.broken && gap.column < column && !inFormat
            && !gap.rest.head?.any isQuote then
          none
        else
          let passed := passed + gap.passed
          match gap.rest with
          | '#' :: rest => go budget (passed + 1 + commentLength rest) (dropComment rest)
          | c :: rest =>
              if isLooseBlank c then
                let passed := passed + 1 + (rest.takeWhile isAnyBlank).length
                match rest.dropWhile isAnyBlank with
                | '#' :: comment =>
                    go budget (passed + 1 + commentLength comment) (dropComment comment)
                | '\\' :: joined => go budget passed ('\\' :: joined)
                | [] => if place == .ending then none else some passed
                | found => if opensString found then none else some passed
              else
                some passed
          | [] => some passed

end DocSurvey.Python
