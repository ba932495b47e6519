import DocSurvey.Declarations.Counts
import DocSurvey.Declarations.Pattern
import DocSurvey.Number.Whole

/-! The functions of JavaScript and TypeScript files, counted by their outer form alone. Each form
is counted for itself, so one function can count twice; classes are not counted.
-/

namespace DocSurvey.Script

open Pattern

def functionForms : List Pattern :=
  [ [text "function", someBlanks, word, blanks, text "("],
    [text "const", someBlanks, word, blanks, text "=", blanks, text "("],
    [text "export", someBlanks, text "function", someBlanks, word, blanks, text "("],
    [word, blanks, text ":", blanks, text "function", blanks, text "("],
    [word, blanks, text ":", blanks, text "(", .run 0 (· != ')'), text ")", blanks, text "=>"] ]

/-- The form of a comment that documents something. -/
def documentation : Pattern :=
  [text "/**", .upTo "*/".toList]

/-- The functions and the documenting comments of a file. -/
def definitions (source : List Char) : DeclarationCounts where
  functions := Number.total (functionForms.map fun form => form.count source)
  documentedFunctions := documentation.count source
  classes := 0
  documentedClasses := 0

/-- A repository has no more documented functions than functions, whatever comments it holds. -/
def capped (counts : DeclarationCounts) : DeclarationCounts :=
  { counts with documentedFunctions := min counts.documentedFunctions counts.functions }

end DocSurvey.Script
