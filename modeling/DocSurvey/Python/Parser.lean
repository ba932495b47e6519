import DocSurvey.Python.Layout
import DocSurvey.Python.Syntax

/-! The parts that all rules of the Python grammar are made of: the state of a parse, single tokens,
words, and the nodes built so far. Every rule starts at its first token and leaves the parse at the
token behind it, so that the next rule can look at it directly.
-/

namespace DocSurvey.Python

open DocSurvey.Text

/-- The text that is left, whether the innermost open string is a formatted one, and the parts
built so far, the last one first.
-/
structure State where
  rest : List Char
  inFormat : Bool
  built : List Syntax
  deriving Inhabited

/-- A rule of the grammar: it reads a part of the text or refuses it. -/
abbrev Parser := StateT State Option

namespace Parser

def ahead : Parser (List Char) :=
  return (← get).rest

def take (count : Nat) : Parser Unit :=
  modify fun s =>
    let passed := s.rest.take count
    { s with
      rest := s.rest.drop count
      built := if passed.isEmpty then s.built else .text passed :: s.built }

def require (condition : Bool) : Parser Unit :=
  if condition then pure () else failure

/-- The rule would read what is next; nothing is read. -/
def wouldRead (rule : Parser α) : Parser Bool := do
  let before ← get
  let found ← optional rule
  set before
  return found.isSome

/-- One item for each character that is left and one for the end. No loop that reads something each
time repeats more often.
-/
def budget : Parser (List Char) :=
  return '\n' :: (← ahead)

/-- Repeats a step as long as it answers that there is more. A step that does so has read at least
one character, which bounds the repetitions.
-/
def whileMore (step : Parser Bool) : Parser Unit := do
  go (← budget)
where
  go : List Char → Parser Unit
    | [] => failure
    | _ :: budget => do
        if ← step then go budget

/-- Repeats a step as long as it gives a next value. -/
def iterate (step : α → Parser (Option α)) (start : α) : Parser α := do
  go (← budget) start
where
  go : List Char → α → Parser α
    | [], _ => failure
    | _ :: budget, value => do
        match ← step value with
        | some next => go budget next
        | none => pure value

/-- Puts what the rule builds into a node of the kind that the rule gives. -/
def node (rule : Parser Kind) : Parser Unit := do
  let outer := (← get).built
  modify fun s => { s with built := [] }
  let kind ← rule
  modify fun s => { s with built := .node kind s.built.reverse :: outer }

/-- Runs a rule and tells which text it took. -/
def withText (rule : Parser α) : Parser (α × List Char) := do
  let outer := (← get).built
  modify fun s => { s with built := [] }
  let value ← rule
  let pieces := (← get).built
  modify fun s => { s with built := pieces ++ outer }
  return (value, Syntax.textOf pieces.reverse)

end Parser

/-- Where a conditional expression may stand without brackets around it. -/
inductive Ternary where
  | allowed
  /-- Nowhere: what a comprehension runs over. -/
  | barred
  /-- In the body of a lambda expression only: a comprehension's condition. -/
  | insideLambda
  deriving Repr, DecidableEq, Inhabited

/-- The surroundings of a phrase: the column of its block, what may stand behind it, and whether it
may be a conditional expression.
-/
structure Context where
  column : Nat
  after : Place
  ternary : Ternary
  deriving Repr, DecidableEq, Inhabited

namespace Context

def statement (column : Nat) : Context := ⟨column, .ending, .allowed⟩

def inBrackets (c : Context) : Context := ⟨c.column, .bracketed, .allowed⟩

/-- In front of a token that has to follow. -/
def inner (c : Context) : Context := ⟨c.column, .between, .allowed⟩

end Context

/-- What an expression can be besides a value. -/
inductive Shape where
  | name
  /-- An attribute or a subscript. -/
  | member
  /-- A starred name, attribute or subscript. -/
  | splat
  /-- Brackets around nothing but targets. -/
  | targets
  /-- Adjacent string literals. -/
  | strings (literals : List StringLiteral)
  | other
  deriving Repr, DecidableEq, Inhabited

/-- Something may be assigned to the expression. -/
def Shape.isTarget : Shape → Bool
  | .name | .member | .splat | .targets => true
  | .strings _ | .other => false

/-- The rules that contain one another. -/
inductive Phrase where
  /-- An expression without a comma. -/
  | expression (c : Context)
  /-- An expression without `and`, `or`, `if` and `as`. -/
  | unit (c : Context)
  /-- An operand of an arithmetic operator. -/
  | operand (c : Context)
  /-- A replacement field of a formatted string. -/
  | field (c : Context)
  /-- A type, and whether a colon and a bound may follow. -/
  | type (c : Context) (bounded : Bool)
  /-- The pattern of a case, and whether a keyword and a name for what it matches may go with it. -/
  | pattern (c : Context) (named : Bool)
  /-- The statements of a block whose code starts in the column. -/
  | items (column : Nat)
  deriving Repr, Inhabited

/-- How the rules refer to one another. -/
abbrev Rules := Phrase → Parser Shape

namespace Parser

def skip (column : Nat) (place : Place) : Parser Unit := do
  let s ← get
  match blanksAhead place column s.inFormat s.rest with
  | some count => take count
  | none => failure

/-- Takes so many characters as one token and what is blank behind it. -/
def token (c : Context) (count : Nat) : Parser Unit := do
  take count
  skip c.column c.after

def isAt (characters : String) : Parser Bool :=
  return characters.toList.isPrefixOf (← ahead)

def symbol (c : Context) (characters : String) : Parser Unit := do
  require (← isAt characters)
  token c characters.length

/-- Takes the characters as one token if they are next. -/
def accept (c : Context) (characters : String) : Parser Bool := do
  if ← isAt characters then
    token c characters.length
    pure true
  else
    pure false

/-- The identifier or keyword at the start of a text; empty if there is none. -/
def wordOf : List Char → List Char
  | [] => []
  | c :: rest => if isIdentifierStart c then c :: rest.takeWhile isIdentifierChar else []

def wordAhead : Parser (List Char) :=
  return wordOf (← ahead)

def isAtWord (keyword : String) : Parser Bool :=
  return (← wordAhead) == keyword.toList

def acceptAny (c : Context) (symbols : List String) : Parser Bool := do
  let text ← ahead
  match symbols.find? fun characters => characters.toList.isPrefixOf text with
  | some characters =>
      symbol c characters
      pure true
  | none => pure false

def word (c : Context) (keyword : String) : Parser Unit := do
  require (← isAtWord keyword)
  token c keyword.length

def acceptWord (c : Context) (keyword : String) : Parser Bool := do
  if ← isAtWord keyword then
    token c keyword.length
    pure true
  else
    pure false

def name (c : Context) : Parser Unit := do
  let found ← wordAhead
  require !found.isEmpty
  token c found.length

def dottedName (c : Context) : Parser Unit := do
  name c
  whileMore do
    if ← accept c.inner "." then
      name c
      pure true
    else
      pure false

def isAtEnd : Parser Bool := do
  let rest ← ahead
  return (gapToToken rest).broken || rest.head? == some ';'

/-- Something that an expression can begin with is next, and none of the keywords. -/
def expressionAhead (stops : List String) : Parser Bool := do
  let text ← ahead
  let opens := opensString text || match text with
    | c :: rest =>
        isIdentifierStart c || isAsciiDigit c || ['(', '[', '{', '.', '~'].contains c
          || (['+', '-', '*'].contains c && rest.head? != some '=')
    | [] => false
  return opens && !(stops.map String.toList).contains (wordOf text)

/-- Items with commas between them. A comma may stand behind the last one: it does where `more`
denies that an item follows.
-/
def commaSeparated (c : Context) (more : Parser Bool) (item : Parser α) : Parser (List α) := do
  go (← budget) [← item]
where
  go : List Char → List α → Parser (List α)
    | [], _ => failure
    | _ :: budget, items => do
        if ← accept c "," then
          if ← more then
            go budget ((← item) :: items)
          else
            pure items.reverse
        else
          pure items.reverse

/-- Further items behind the first one, up to a closing bracket. -/
def furtherItems (c : Context) (closing : String) (item : Parser α) : Parser (List α) := do
  if ← accept c "," then
    if ← isAt closing then
      pure []
    else
      commaSeparated c (return !(← isAt closing)) item
  else
    pure []

end Parser

end DocSurvey.Python
