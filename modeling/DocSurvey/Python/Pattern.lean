import DocSurvey.Python.Expression

/-! The patterns of Python's case clauses. -/

namespace DocSurvey.Python

open DocSurvey.Text DocSurvey.Python.Parser

/-- A number, with a minus sign or not, alone or as the real part of a complex one. -/
def numericPattern (c : Context) : Parser Unit := do
  let number : Parser Unit := do
    let length := numberLength (← ahead)
    require (length != 0)
    token c length
  let _ ← accept c.inner "-"
  number
  if ← acceptAny c.inner ["+", "-"] then
    number

def bracketedPatterns (rules : Rules) (c : Context) (opening closing : String) : Parser Unit := do
  let inside := c.inBrackets
  symbol inside opening
  if ← isAt closing then
    pure ()
  else
    let _ ← rules (.pattern inside true)
    let _ ← furtherItems inside closing (rules (.pattern inside true))
  symbol c closing

def splatPattern (c : Context) : Parser Unit := do
  if ← accept c.inner "**" then
    name c
  else
    symbol c.inner "*"
    name c

/-- An entry of a dictionary pattern: a key and what its value matches, or the rest. -/
def entryPattern (rules : Rules) (c : Context) : Parser Unit := do
  if ← isAt "*" then
    splatPattern c
  else
    let _ ← rules (.pattern c.inner false)
    symbol c.inner ":"
    let _ ← rules (.pattern c true)

def dictionaryPattern (rules : Rules) (c : Context) : Parser Unit := do
  let inside := c.inBrackets
  symbol inside "\x7b"
  if ← isAt "\x7d" then
    pure ()
  else
    entryPattern rules inside
    let _ ← furtherItems inside "\x7d" (entryPattern rules inside)
  symbol c "\x7d"

def closedPattern (rules : Rules) (c : Context) : Parser Unit := do
  let text ← ahead
  if opensString text then
    let _ ← literals rules c
  else if ← isAt "-" <||> pure (numberLength text != 0) then
    numericPattern c
  else if ← isAt "*" then
    splatPattern c
  else if ← isAt "(" then
    bracketedPatterns rules c "(" ")"
  else if ← isAt "[" then
    bracketedPatterns rules c "[" "]"
  else if ← isAt "\x7b" then
    dictionaryPattern rules c
  else if (["True", "False", "None"].map String.toList).contains (wordOf text) then
    name c
  else
    dottedName c
    if ← isAt "(" then
      bracketedPatterns rules c "(" ")"

/-- A pattern. One of a class's attributes has a keyword in front, and `as` gives a name to what is
matched.
-/
def casePattern (rules : Rules) (c : Context) (named : Bool) : Parser Unit := do
  let keyword : Parser Unit := do
    require (!opensString (← ahead))
    name c.inner
    symbol c.inner "="
  if named then
    let _ ← optional keyword
  closedPattern rules c
  whileMore do
    if ← accept c.inner "|" then
      closedPattern rules c
      pure true
    else if ← pure named <&&> acceptWord c.inner "as" then
      name c
      pure true
    else
      pure false

end DocSurvey.Python
