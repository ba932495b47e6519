import DocSurvey.Python.Pattern
import DocSurvey.Python.SimpleStatement

/-! Statements of Python that hold blocks. A block is the code behind a colon that stands further
from the margin than the line with the colon, or the rest of that line.
-/

namespace DocSurvey.Python

open DocSurvey.Text DocSurvey.Python.Parser

/-- The next code stands left of the column, on a line of its own, and so ends the block. -/
def blockEnds (column : Nat) : Parser Bool := do
  let s ← get
  let gap := gapToCode s.rest
  return gap.broken && gap.column < column && !s.inFormat

def colon (column : Nat) : Parser (Option Gap) := do
  require (← isAt ":")
  take 1
  skip column .ending
  let rest ← ahead
  return if (gapToToken rest).broken then some (gapToCode rest) else none

/-- A colon and a block. Code that is not set off from the margin leaves the block empty. -/
def suite (rules : Rules) (column : Nat) : Parser Unit := do
  let gap? ← colon column
  node do
    match gap? with
    | some gap =>
        if column < gap.column then
          let _ ← rules (.items gap.column)
    | none => statementLine rules column
    return .block

def acceptClause (column : Nat) (keyword : String) : Parser Bool := do
  if ← blockEnds column then
    return false
  else if ← wouldRead (do skip column .bracketed; word (.statement column) keyword) then
    skip column .bracketed
    word (Context.statement column).inner keyword
    return true
  else
    return false

def elseClause (rules : Rules) (column : Nat) : Parser Unit := do
  if ← acceptClause column "else" then
    suite rules column

def ifStatement (rules : Rules) (column : Nat) : Parser Unit := do
  let c := (Context.statement column).inner
  word c "if"
  let _ ← rules (.expression c)
  suite rules column
  whileMore do
    if ← acceptClause column "elif" then
      let _ ← rules (.expression c)
      suite rules column
      pure true
    else
      pure false
  elseClause rules column

def forStatement (rules : Rules) (column : Nat) : Parser Unit := do
  let c := (Context.statement column).inner
  let _ ← acceptWord c "async"
  word c "for"
  targetList rules c
  word c "in"
  let _ ← expressionList rules c
  suite rules column
  elseClause rules column

def whileStatement (rules : Rules) (column : Nat) : Parser Unit := do
  let c := (Context.statement column).inner
  word c "while"
  let _ ← rules (.expression c)
  suite rules column
  elseClause rules column

def withStatement (rules : Rules) (column : Nat) : Parser Unit := do
  let c := (Context.statement column).inner
  let _ ← acceptWord c "async"
  word c "with"
  let _ ← expressionList rules c
  suite rules column

def groupClauses (rules : Rules) (column : Nat) : Parser Unit := do
  let c := (Context.statement column).inner
  let clause : Parser Unit := do
    symbol c "*"
    let _ ← rules (.expression c)
    suite rules column
  let opening : Parser Unit := do
    require !(← blockEnds column)
    skip column .bracketed
    require (← isAt "except*")
    take "except".length
  opening
  clause
  whileMore do
    if ← wouldRead opening then
      opening
      clause
      pure true
    else
      pure false

def exceptClauses (rules : Rules) (column : Nat) : Parser Unit := do
  let c := (Context.statement column).inner
  let clause : Parser Bool := do
    if ← acceptClause column "except" then
      if ← expressionAhead [] then
        let _ ← rules (.expression c)
        if ← accept c "," then
          let _ ← rules (.expression c)
      suite rules column
      pure true
    else
      pure false
  require (← clause)
  whileMore clause

/-- A statement that handles errors: one sort of clauses for them, or a final clause alone. -/
def tryStatement (rules : Rules) (column : Nat) : Parser Unit := do
  let c := (Context.statement column).inner
  word c "try"
  suite rules column
  if ← acceptClause column "finally" then
    suite rules column
  else
    groupClauses rules column <|> exceptClauses rules column
    elseClause rules column
    if ← acceptClause column "finally" then
      suite rules column

def functionDefinition (rules : Rules) (column : Nat) : Parser Unit :=
  node do
    let c := (Context.statement column).inner
    let isAsync ← acceptWord c "async"
    word c "def"
    name c
    if ← isAt "[" then
      typeArguments rules c
    parameters rules c
    if ← accept c "->" then
      let _ ← rules (.type c false)
    suite rules column
    return .function isAsync

def classDefinition (rules : Rules) (column : Nat) : Parser Unit :=
  node do
    let c := (Context.statement column).inner
    word c "class"
    name c
    if ← isAt "[" then
      typeArguments rules c
    if ← isAt "(" then
      arguments rules c
    suite rules column
    return .classDefinition

/-- A definition behind its decorators, each on a line of its own. -/
def decorated (rules : Rules) (column : Nat) : Parser Unit := do
  let c := Context.statement column
  whileMore do
    if ← accept c.inner "@" then
      let _ ← rules (.expression c)
      require (gapToToken (← ahead)).broken
      skip column .between
      pure true
    else
      pure false
  if ← isAtWord "class" then
    classDefinition rules column
  else
    functionDefinition rules column

def caseClause (rules : Rules) (column : Nat) : Parser Unit := do
  let c := (Context.statement column).inner
  word c "case"
  let morePatterns : Parser Bool := return !(← isAt ":") && !(← isAtWord "if")
  let _ ← commaSeparated c morePatterns (rules (.pattern c true))
  if ← acceptWord c "if" then
    let _ ← rules (.expression { c with ternary := .insideLambda })
  suite rules column

/-- A `match` statement; it may have no cases. -/
def matchStatement (rules : Rules) (column : Nat) : Parser Unit := do
  let c := Context.statement column
  word c "match"
  let _ ← expressionList rules c.inner
  let some gap ← colon column | failure
  if column < gap.column then
    whileMore do
      if ← blockEnds gap.column then
        pure false
      else
        skip gap.column .bracketed
        caseClause rules gap.column
        pure true

/-- The word in front of another keyword makes a statement of it. -/
def asyncAhead (column : Nat) (keyword : String) : Parser Bool :=
  wouldRead do
    word (.statement column) "async"
    word (.statement column) keyword

def statement (rules : Rules) (column : Nat) : Parser Unit := do
  let compound (rule : Parser Unit) : Parser Unit := node do rule; return .compound
  match String.ofList (← wordAhead) with
  | "def" => functionDefinition rules column
  | "class" => classDefinition rules column
  | "if" => compound (ifStatement rules column)
  | "for" => compound (forStatement rules column)
  | "while" => compound (whileStatement rules column)
  | "with" => compound (withStatement rules column)
  | "try" => compound (tryStatement rules column)
  | "match" => compound (matchStatement rules column) <|> statementLine rules column
  | "async" =>
      if ← asyncAhead column "def" then
        functionDefinition rules column
      else if ← asyncAhead column "for" then
        compound (forStatement rules column)
      else if ← asyncAhead column "with" then
        compound (withStatement rules column)
      else
        statementLine rules column
  | _ =>
      if ← isAt "@" then
        decorated rules column
      else
        statementLine rules column

/-- Reads the next statement of a block, unless the block ends in front of it. -/
def nextStatement (rules : Rules) (column : Nat) : Parser Bool := do
  if ← blockEnds column then
    pure false
  else
    skip column .bracketed
    if (← ahead).isEmpty then
      require (column == 0)
      pure false
    else
      statement rules column
      pure true

/-- The statements of a block, up to code that stands left of its column or the end of the text. -/
def items (rules : Rules) (column : Nat) : Parser Unit :=
  whileMore (nextStatement rules column)

end DocSurvey.Python
