import DocSurvey.Python.Expression

/-! Types in annotations and parameter lists of Python definitions. A name with square brackets is
a generic type there, whose arguments are types again.
-/

namespace DocSurvey.Python

open DocSurvey.Text DocSurvey.Python.Parser

def typeArguments (rules : Rules) (c : Context) : Parser Unit := do
  let inside := c.inBrackets
  symbol c.inner "["
  let _ ← rules (.type inside true)
  let _ ← furtherItems inside "]" (rules (.type inside true))
  symbol c "]"

/-- The words that are no names of generic types. -/
def plainWords : List (List Char) :=
  expressionKeywords ++ ["print", "exec", "async", "await", "match"].map String.toList

/-- A name in front of square brackets. -/
def genericName (c : Context) : Parser Unit := do
  let text ← ahead
  require (!opensString text && !plainWords.contains (wordOf text))
  name c.inner
  require (← isAt "[")

/-- A type, with alternatives, members and, where one is allowed, a bound behind it. -/
def typed (rules : Rules) (c : Context) (bounded : Bool) : Parser Unit := do
  if ← wouldRead (genericName c) then
    genericName c
    typeArguments rules c
  else if ← accept c.inner "**" then
    name c
  else
    let _ ← rules (.expression c)
  whileMore do
    if ← accept c.inner "|" then
      let _ ← rules (.type c false)
      pure true
    else if ← accept c.inner "." then
      name c
      pure true
    else if ← pure bounded <&&> accept c.inner ":" then
      let _ ← rules (.type c true)
      pure true
    else
      pure false

def parameters (rules : Rules) (c : Context) : Parser Unit := do
  let inside := c.inBrackets
  symbol inside "("
  if ← isAt ")" then
    pure ()
  else
    parameter rules inside true
    let _ ← furtherItems inside ")" (parameter rules inside true)
  symbol c ")"

end DocSurvey.Python
