import DocSurvey.Python.Annotation

/-! Statements of Python that hold no blocks, and lines of them. -/

namespace DocSurvey.Python

open DocSurvey.Text DocSurvey.Python.Parser

def importedNames (c : Context) : Parser Unit := do
  let _ ← commaSeparated c (return !(← wordAhead).isEmpty) do
    dottedName c
    if ← acceptWord c.inner "as" then
      name c

def importedGroup (c : Context) : Parser Unit := do
  if ← accept c.inner "(" then
    importedNames c.inBrackets
    symbol c ")"
  else
    importedNames c

/-- An import of names from a module, which dots in front make a relative one. -/
def importFrom (c : Context) : Parser Unit := do
  word c.inner "from"
  if ← acceptWord c.inner "__future__" then
    word c.inner "import"
    importedGroup c
  else
    let relative ← isAt "."
    whileMore (accept c.inner ".")
    if !(relative && (← isAtWord "import")) then
      dottedName c.inner
    word c.inner "import"
    if ← accept c "*" then
      pure ()
    else
      importedGroup c

/-- The operators that an assignment is combined with, longer ones first. -/
def combinedAssignments : List String :=
  ["**=", "//=", ">>=", "<<=", "+=", "-=", "*=", "/=", "@=", "%=", "&=", "|=", "^="]

/-- Expressions, or a chain of assignments. The answer holds the string literals that the statement
opens with.
-/
def expressionStatement (rules : Rules) (c : Context) : Parser (List StringLiteral) := do
  let side : Parser (List Shape) := do
    if ← isAtWord "yield" then
      yielded rules c
      return [.other]
    else
      expressionList rules c
  let first ← side
  let _ ← iterate (fun shapes => do
    if ← pure (!(← isAt "==")) <&&> accept c.inner "="
        <||> acceptAny c.inner combinedAssignments then
      require (shapes.all Shape.isTarget)
      return some (← side)
    else if ← accept c.inner ":" then
      require (shapes.all Shape.isTarget)
      let _ ← rules (.type c true)
      if ← accept c.inner "=" then
        return some (← side)
      else
        return none
    else
      return none) first
  return match first.head? with
    | some (.strings literals) => literals
    | _ => []

/-- The older statement that prints its arguments, the first of which may be where to. -/
def printStatement (rules : Rules) (c : Context) : Parser Unit := do
  word c "print"
  let _ ← accept c.inner ">>"
  let _ ← expressionList rules c

def execStatement (rules : Rules) (c : Context) : Parser Unit := do
  word c "exec"
  if opensString (← ahead) then
    let _ ← literal rules c
    skip c.column c.after
  else
    name c
  if ← acceptWord c.inner "in" then
    let _ ← commaSeparated c (pure true) (rules (.expression c))

def chevronAhead (c : Context) : Parser Bool :=
  wouldRead do
    word c "print"
    require ((← isAt ">>") && !(← isAt ">>="))

def typeAlias (rules : Rules) (c : Context) : Parser Unit := do
  word c "type"
  let _ ← rules (.type c.inner true)
  symbol c.inner "="
  let _ ← rules (.type c true)

def wholeExpression (rules : Rules) (c : Context) : Parser Kind := do
  let opening ← expressionStatement rules c
  require (← isAtEnd)
  return .expression opening

/-- A statement without blocks. Words that were keywords only once, or are keywords only in some
statements, start such a statement if no expression can be read.
-/
def simpleStatement (rules : Rules) (c : Context) : Parser Unit :=
  node do
    let keyword ← wordAhead
    match String.ofList keyword with
    | "import" =>
        word c.inner "import"
        importedNames c
        return .simple
    | "from" =>
        importFrom c
        return .simple
    | "print" =>
        if ← chevronAhead c then
          printStatement rules c
          return .legacy .print
        else
          wholeExpression rules c <|> (do printStatement rules c; return .legacy .print)
    | "exec" =>
        wholeExpression rules c <|> (do execStatement rules c; return .legacy .exec)
    | "type" =>
        wholeExpression rules c <|> (do typeAlias rules c; return .simple)
    | "assert" =>
        word c.inner "assert"
        let _ ← commaSeparated c (pure true) (rules (.expression c))
        return .simple
    | "return" =>
        word c "return"
        if ← expressionAhead [] then
          let _ ← expressionList rules c
        return .simple
    | "del" =>
        word c.inner "del"
        let _ ← expressionList rules c
        return .simple
    | "raise" =>
        word c "raise"
        if ← expressionAhead ["from"] then
          let _ ← expressionList rules c ["from"]
        if ← acceptWord c.inner "from" then
          let _ ← rules (.expression c)
        return .simple
    | "pass" | "break" | "continue" =>
        token c keyword.length
        return .simple
    | "global" | "nonlocal" =>
        token c.inner keyword.length
        let _ ← commaSeparated c (pure true) (name c)
        return .simple
    | _ =>
        return .expression (← expressionStatement rules c)

/-- Statements with semicolons between them, up to the end of the line. -/
def statementLine (rules : Rules) (column : Nat) : Parser Unit := do
  let c := Context.statement column
  let atLineEnd : Parser Bool := return (gapToToken (← ahead)).broken
  simpleStatement rules c
  whileMore do
    if ← accept c ";" then
      if ← atLineEnd then
        pure false
      else
        simpleStatement rules c
        pure true
    else
      pure false
  require (← atLineEnd)

end DocSurvey.Python
