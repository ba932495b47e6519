/-! When the output is coloured. -/

namespace DocSurvey.CommandLine

/-- What the environment says about colours: texts of variables, if they are set, and whether the
output goes to a terminal.
-/
structure ColourWishes where
  always : Option String
  never : Option String
  usually : Option String
  terminal : Bool
  deriving Repr, DecidableEq, Inhabited

/-- The output is coloured if that is forced, and not if it is refused; else on a terminal, unless a
variable is zero.
-/
def ColourWishes.coloured (wishes : ColourWishes) : Bool :=
  if wishes.always.any (· != "0") then true
  else if wishes.never.isSome then false
  else wishes.terminal && wishes.usually.all (· != "0")

end DocSurvey.CommandLine
