import DocSurvey.Files.Tree
import DocSurvey.Log
import DocSurvey.Text.Lowercase

/-! The quality of a README: the sections it mentions, and marks for examples and pictures. Case
does not matter, and neither does where in the text a word stands.
-/

namespace DocSurvey.Readme

open DocSurvey.Text

/-- The words of the sections that a README should have. -/
def sections : List String :=
  ["overview", "installation", "usage", "api", "configuration", "contributing", "license"]

/-- What earns a further mark: any text of a group does. -/
def extras : List (List String) :=
  [["example", "\x60\x60\x60"], ["![", "https://img.shields.io"]]

def pointsPerMark : Nat := 10

def fullScore : Nat := 100

def markGroups : List (List String) :=
  sections.map (fun word => [word]) ++ extras

/-- The marks that a text in lower case earns. -/
def marks (text : List Char) : Nat :=
  markGroups.countP fun group => group.any fun word => occursIn word.toList text

/-- The score of a README. All marks together make it full. -/
def score (content : List Char) : Nat :=
  let earned := marks (lower content)
  if earned = markGroups.length then fullScore else min (earned * pointsPerMark) fullScore

def isReadmeName (name : String) : Bool :=
  equalsIgnoringCase (name.toList.take 6) "README".toList

/-- An entry of a directory is a README: a file that is named so. -/
def isReadme (entry : String × Node) : Bool :=
  match entry.2 with
  | .file _ => isReadmeName entry.1
  | _ => false

/-- The name of the README among the entries of a directory, in whatever order they are listed: the
first one by name.
-/
def first? (entries : List (String × Node)) : Option String :=
  (Data.orderedByKey (entries.filter isReadme)).head?.map Prod.fst

/-- The README of a repository: of the files directly in it that are named so, the first by name. -/
def find? (tree : FileTree) (repository : String) : Option String := do
  let entries ← (tree.readDirectory repository).toOption
  return Path.join repository (← first? entries)

/-- The score of a repository's README; zero without one that can be read. -/
def scoreOf (tree : FileTree) (repository : String) : Logged Nat := do
  match find? tree repository with
  | none => return 0
  | some path =>
      match tree.readText path with
      | .ok content => return score content.toList
      | .error cause =>
          Logged.say .warn .readme s!"Error analyzing README in {repository}: {cause.message}"
          return 0

end DocSurvey.Readme
