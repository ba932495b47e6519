import DocSurvey.Declarations.Script
import DocSurvey.Python.Definitions
import DocSurvey.Text.Search

/-! The languages whose declarations are counted: how a repository is told to be of one, which of
its files are looked at, and how their declarations are found.
-/

namespace DocSurvey

/-- A language whose declarations are counted. -/
structure Language where
  name : String
  /-- How declarations are recognised. -/
  strategy : String
  /-- A file with one of these extensions makes the repository one of the language. -/
  tellingExtensions : List String
  /-- The extensions of the files that are counted. -/
  extensions : List String
  /-- The directories of the name are left out when files are counted. -/
  excludes : (directory : String) → Bool
  /-- The declarations of a file, or why it has none. -/
  definitions : (path source : String) → Except String DeclarationCounts
  /-- The counts of a repository, once those of its files are added up. -/
  finalize : DeclarationCounts → DeclarationCounts := id

namespace Language

def handles (language : Language) (extension : String) : Bool :=
  language.extensions.contains extension

/-- Python, whose files are parsed. -/
def python : Language where
  name := "python"
  strategy := "structured-parse"
  tellingExtensions := ["py"]
  extensions := ["py"]
  excludes directory :=
    Text.occursIn "venv".toList directory.toList || directory == "__pycache__"
  definitions path source :=
    (Python.definitions source.toList).mapError (Python.Refusal.message path)

/-- JavaScript and TypeScript, whose files are searched for patterns. -/
def javascript : Language where
  name := "javascript"
  strategy := "pattern-match"
  tellingExtensions := ["js", "ts"]
  extensions := ["js", "ts", "jsx", "tsx"]
  excludes directory :=
    directory == "node_modules" || Text.occursIn "build".toList directory.toList
  definitions _ source := .ok (Script.definitions source.toList)
  finalize := Script.capped

/-- The languages in the order in which a repository is tried for them. -/
def all : List Language := [.python, .javascript]

def ofName? (text : String) : Option Language :=
  all.find? fun language => language.name == text

end Language

end DocSurvey
