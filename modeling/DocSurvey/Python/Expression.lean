import DocSurvey.Python.Literal

/-! Expressions of Python. Which operator binds tighter changes nothing about where an expression
ends or what it can be, so chains of operators are read without precedence.
-/

namespace DocSurvey.Python

open DocSurvey.Text DocSurvey.Python.Parser

/-- A rule for items in brackets: another item follows a comma unless the bracket closes. -/
def unlessAt (closings : List String) : Parser Bool := do
  let text ← ahead
  return !(closings.any fun closing => closing.toList.isPrefixOf text)

/-- What follows the first item of a comprehension: a `for`, possibly behind `async`. -/
def clauseAhead : Parser Bool :=
  return [ "for".toList, "async".toList ].contains (← wordAhead)

def targetList (rules : Rules) (c : Context) : Parser Unit := do
  let shapes ← commaSeparated c (expressionAhead ["in"]) (rules (.operand c))
  require (shapes.all Shape.isTarget)

/-- The clauses of a comprehension. The values that one runs over and its conditions end where the
next clause starts.
-/
def clauses (rules : Rules) (c : Context) : Parser Unit := do
  require (← clauseAhead)
  let inside := c.inBrackets
  whileMore do
    if ← acceptWord c.inner "if" then
      let _ ← rules (.expression { inside with ternary := .insideLambda })
      pure true
    else if ← clauseAhead then
      let _ ← acceptWord c.inner "async"
      word c.inner "for"
      targetList rules c.inner
      word c.inner "in"
      let _ ← commaSeparated inside (expressionAhead ["for", "async", "if"])
        (rules (.expression { inside with ternary := .barred }))
      pure true
    else
      pure false

def expressionList (rules : Rules) (c : Context) (stops : List String := [])
    : Parser (List Shape) :=
  commaSeparated c (expressionAhead stops) (rules (.expression c))

def yielded (rules : Rules) (c : Context) : Parser Unit := do
  word c "yield"
  if ← acceptWord c.inner "from" then
    let _ ← rules (.expression c)
  else if ← expressionAhead ["from"] then
    let _ ← expressionList rules c

/-- An item of a list, a tuple, a set or the arguments of a call. -/
inductive Item where
  /-- An expression, from which a comprehension can start. -/
  | expression (shape : Shape)
  /-- A starred expression or a `yield`. -/
  | marked (shape : Shape)
  deriving Repr, Inhabited

/-- What an item can be besides a value. -/
def Item.shape : Item → Shape
  | .expression shape => shape
  | .marked shape => shape

/-- A star in front of a name or a member makes a target of it. -/
def Shape.starred : Shape → Shape
  | .name | .member => .splat
  | _ => .other

def starred (rules : Rules) (c : Context) : Parser Item := do
  symbol c.inner "*"
  let shape ← rules (.expression c)
  return .marked shape.starred

def item (rules : Rules) (c : Context) : Parser Item := do
  if ← isAtWord "yield" then
    yielded rules c
    return .marked .other
  else if (← isAt "*") && !(← isAt "**") then
    let before ← get
    let found ← starred rules c
    if ← clauseAhead then
      set before
      return .expression (← rules (.expression c))
    else
      return found
  else
    return .expression (← rules (.expression c))

/-- What stands in round or square brackets: a comprehension, or items with commas between them.
They are targets together if each of them is one.
-/
def bracketed (rules : Rules) (c : Context) (opening closing : String) : Parser Shape := do
  let inside := c.inBrackets
  symbol inside opening
  if ← accept c closing then
    return .targets
  let first ← item rules inside
  match first, ← clauseAhead with
  | .expression _, true =>
      clauses rules inside
      symbol c closing
      return .other
  | _, _ =>
      let others ← furtherItems inside closing (item rules inside)
      symbol c closing
      return if (first :: others).all (·.shape.isTarget) then .targets else .other

def entryValue (rules : Rules) (c : Context) : Parser Unit := do
  symbol c.inner ":"
  let _ ← rules (.expression c)

def entry (rules : Rules) (c : Context) : Parser Unit := do
  if ← accept c.inner "**" then
    let _ ← rules (.expression c)
  else
    let _ ← rules (.expression c)
    entryValue rules c

def braced (rules : Rules) (c : Context) : Parser Shape := do
  let inside := c.inBrackets
  let closing := "\x7d"
  let entries : Parser Unit := do
    let _ ← furtherItems inside closing (entry rules inside)
  let elements : Parser Unit := do
    let _ ← furtherItems inside closing (item rules inside)
  symbol inside "\x7b"
  if ← isAt "**" then
    entry rules inside
    entries
  else if ← isAt closing <||> accept inside "," then
    pure ()
  else
    match ← item rules inside with
    | .marked _ => elements
    | .expression _ =>
        let keyed ← isAt ":"
        if keyed then
          entryValue rules inside
        if ← clauseAhead then
          clauses rules inside
        else if keyed then
          entries
        else
          elements
  symbol c closing
  return .other

def expressionKeywords : List (List Char) :=
  ["not", "lambda", "True", "False", "None"].map String.toList

def argumentName (c : Context) : Parser Unit := do
  let found ← wordAhead
  require (!found.isEmpty && !expressionKeywords.contains found)
  name c
  require !(← isAt "==")
  symbol c.inner "="

def argument (rules : Rules) (c : Context) : Parser Bool := do
  if ← accept c.inner "**" then
    let _ ← rules (.expression c)
    return false
  else if (← optional (argumentName c)).isSome then
    let _ ← rules (.expression c)
    return false
  else
    match ← item rules c with
    | .expression _ => return true
    | .marked _ => return false

def arguments (rules : Rules) (c : Context) : Parser Unit := do
  let inside := c.inBrackets
  symbol inside "("
  if ← isAt ")" <||> accept inside "," then
    pure ()
  else
    let generates ← argument rules inside
    if generates && (← clauseAhead) then
      clauses rules inside
    else
      let _ ← furtherItems inside ")" (argument rules inside)
  symbol c ")"

def subscript (rules : Rules) (c : Context) : Parser Unit := do
  let bound : Parser Unit := do
    if ← unlessAt [":", ",", "]"] then
      let _ ← rules (.expression c)
  if ← isAt ":" then pure () else
    let _ ← rules (.expression c)
  if ← accept c ":" then
    bound
    if ← accept c ":" then
      bound

/-- The calls, indices and attributes behind an operand. The answer also says whether the whole
is a name or has an index or an attribute in it.
-/
def trailers (rules : Rules) (c : Context) (start : Shape) : Parser (Shape × Bool) := do
  let inside := c.inBrackets
  iterate (fun (_, sound) => do
    if ← isAt "(" then
      arguments rules c
      return some (.other, sound)
    else if ← accept c.inner "[" then
      let _ ← commaSeparated inside (unlessAt ["]"]) (subscript rules inside)
      symbol c "]"
      return some (.member, true)
    else if ← accept c.inner "." then
      name c
      return some (.member, true)
    else
      return none) (start, start == .name)

def operatorKeywords : List (List Char) :=
  ["and", "or", "in", "is", "not", "if", "else", "as", "for", "async", "from"].map String.toList

/-- An operand without a sign and without what stands behind it. -/
def atom (rules : Rules) (c : Context) : Parser Shape := do
  let text ← ahead
  if opensString text then
    return .strings (← literals rules c)
  let length := numberLength text
  if length != 0 then
    token c length
    return .other
  let found := wordOf text
  if !found.isEmpty then
    token c found.length
    return if (["True", "False", "None"].map String.toList).contains found then .other else .name
  if ← isAt "(" then
    bracketed rules c "(" ")"
  else if ← isAt "[" then
    bracketed rules c "[" "]"
  else if ← isAt "\x7b" then
    braced rules c
  else
    symbol c "..."
    return .other

/-- An operand that an `await` can wait for is next. -/
def awaitable : Parser Bool := do
  let text ← ahead
  let found := wordOf text
  return opensString text || text.head?.any isAsciiDigit
    || (!found.isEmpty && !operatorKeywords.contains found)
    || text.head? == some '\x7b' || "...".toList.isPrefixOf text

/-- An operand of an arithmetic operator: signs, `await` or a star may stand in front of it. -/
def operand (rules : Rules) (c : Context) : Parser Shape := do
  if ← acceptAny c.inner ["+", "-", "~"] then
    let _ ← rules (.operand c)
    return .other
  else if ← isAt "*" then
    symbol c.inner "*"
    let (shape, sound) ← trailers rules c (← atom rules c)
    require sound
    return shape.starred
  else if ← isAtWord "await" then
    let before ← get
    word c "await"
    if ← awaitable then
      let _ ← rules (.operand c)
      return .other
    else
      set before
      return (← trailers rules c (← atom rules c)).1
  else
    return (← trailers rules c (← atom rules c)).1

def arithmeticOperators : List String :=
  ["**", "//", "<<", ">>", "+", "-", "*", "/", "%", "@", "&", "|", "^"]

def comparisonOperators : List String :=
  ["<=", ">=", "==", "!=", "<>", "<", ">"]

/-- Takes an arithmetic operator that no assignment is combined with. -/
def arithmeticOperator (c : Context) : Parser Bool := do
  let text ← ahead
  match arithmeticOperators.find? fun operator => operator.toList.isPrefixOf text with
  | some operator =>
      if (text.drop operator.length).head? == some '=' then
        pure false
      else
        symbol c operator
        pure true
  | none => pure false

def comparisonOperator (c : Context) : Parser Bool := do
  let text ← ahead
  match comparisonOperators.find? fun operator => operator.toList.isPrefixOf text with
  | some operator =>
      if (arithmeticOperators.any fun longer => longer.length == 2 && longer.toList.isPrefixOf text)
      then
        pure false
      else
        symbol c operator
        pure true
  | none =>
      if ← acceptWord c "in" then
        pure true
      else if ← acceptWord c "not" then
        word c "in"
        pure true
      else if ← acceptWord c "is" then
        let _ ← acceptWord c "not"
        pure true
      else
        pure false

/-- Operands with arithmetic operators and comparisons between them. -/
def comparison (rules : Rules) (c : Context) : Parser Shape := do
  let first ← rules (.operand c)
  iterate (fun _ => do
    if ← arithmeticOperator c.inner <||> comparisonOperator c.inner then
      let _ ← rules (.operand c)
      return some .other
    else
      return none) first

/-- The name and the type, or the star and the name, of a parameter with its default value. -/
def parameter (rules : Rules) (c : Context) (typed : Bool) : Parser Unit := do
  let annotation : Parser Unit := do
    if typed then
      if ← accept c.inner ":" then
        let _ ← rules (.type c true)
  let default : Parser Unit := do
    if ← accept c.inner "=" then
      let _ ← rules (.expression c)
  let starredName : Parser Unit := do
    let shape ← rules (.operand c)
    require (shape == .name || shape == .member)
    annotation
  if ← isAt "(" then
    let shape ← atom rules c
    require (shape == .targets)
    default
  else if ← accept c.inner "**" then
    starredName
  else if ← accept c "*" then
    if ← unlessAt [",", ")", ":"] then
      starredName
  else if ← accept c "/" then
    pure ()
  else
    name c
    annotation
    default

def lambda (rules : Rules) (c : Context) : Parser Unit := do
  word c.inner "lambda"
  if ← unlessAt [":"] then
    let _ ← commaSeparated c.inner (unlessAt [":"]) (parameter rules c.inner false)
  symbol c.inner ":"
  let body : Context := match c.ternary with
    | .insideLambda => { c with ternary := .allowed }
    | _ => c
  let _ ← rules (.expression body)

/-- An expression without `and`, `or`, `if` and `as`. -/
def unit (rules : Rules) (c : Context) : Parser Shape := do
  if ← acceptWord c.inner "not" then
    let _ ← rules (.unit c)
    return .other
  else if ← isAtWord "lambda" then
    lambda rules c
    return .other
  else
    let plain := !(← wordAhead).isEmpty
    let shape ← comparison rules c
    if ← pure (plain && shape == .name) <&&> accept c.inner ":=" then
      let _ ← rules (.unit c)
      return .other
    else
      return shape

/-- An expression without a comma. -/
def expression (rules : Rules) (c : Context) : Parser Shape := do
  let first ← rules (.unit c)
  iterate (fun _ => do
    if ← acceptWord c.inner "and" <||> acceptWord c.inner "or" then
      let _ ← rules (.unit c)
      return some .other
    else if ← acceptWord c.inner "as" then
      let _ ← rules (.expression c)
      return some .other
    else if ← pure (c.ternary == .allowed) <&&> acceptWord c.inner "if" then
      let _ ← rules (.expression c.inner)
      word c.inner "else"
      let _ ← rules (.expression c)
      return some .other
    else
      return none) first

def field (rules : Rules) (c : Context) : Parser Unit := do
  let inside := c.inBrackets
  symbol c.inner "\x7b"
  if ← isAtWord "yield" then
    yielded rules inside
  else
    let _ ← expressionList rules inside
  let _ ← accept inside "="
  if ← isAt "!" then
    let conversion ← ahead
    require ((conversion.drop 1).head?.any fun letter => 'a' ≤ letter && letter ≤ 'z')
    token inside 2
  if ← isAt ":" then
    take 1
    whileMore do
      let text ← ahead
      if ← isAt "\x7b" then
        let _ ← rules (.field c)
        pure true
      else
        let passed := (text.takeWhile fun character =>
          character != '{' && character != '}').length
        take passed
        pure (passed != 0)
  require (← isAt "\x7d")
  take 1

end DocSurvey.Python
