import DocSurvey.Declarations.Language
import DocSurvey.Files.Walk
import DocSurvey.Log

/-! The declarations of a repository. Its language is the first one that any of its files tells of,
and all files of that language outside the directories left out are counted. A file that cannot be
read or counted is passed over with a warning.
-/

namespace DocSurvey.Declarations

/-- What stands behind the last dot of the name of what was found; empty if there is nothing. -/
def extensionOf (path : String) : String :=
  ((Path.fileName? path).bind Path.extensionOf?).getD ""

/-- A file below the path tells of the language. -/
def tellsOf (tree : FileTree) (path : String) (language : Language) : Bool :=
  (tree.found path).any fun found => found.isFile
    && (match (Path.fileName? (found.path path)).bind Path.extensionOf? with
        | some extension => language.tellingExtensions.contains extension
        | none => false)

/-- The first of the languages that a file of the repository tells of. -/
def languageOf? (tree : FileTree) (path : String) (languages : List Language := Language.all)
    : Option Language :=
  languages.find? (tellsOf tree path)

/-- The files of the language below the path, the directories left out passed over. -/
def sources (tree : FileTree) (path : String) (language : Language)
    : Except SystemError (List Visit) :=
  return (← tree.walkFrom (fun name => !language.excludes name) path).filter fun found =>
    found.isFile && language.handles (extensionOf (found.path path))

/-- The declarations of a file that was found, or why it has none. -/
def countFile (language : Language) (path : String) (node : Node)
    : Except String DeclarationCounts :=
  match node with
  | .file (some content) => language.definitions path content
  | _ => .error SystemError.notText.message

/-- The declarations of the files in the order they were found, those of a file that has none passed
over.
-/
def countFiles (language : Language) (path : String) : List Visit → Logged DeclarationCounts
  | [] => return .zero
  | found :: rest => do
      let file := found.path path
      match countFile language file found.node with
      | .ok counts => return counts + (← countFiles language path rest)
      | .error problem =>
          Logged.say .warn .declarations s!"Error analyzing {file}: {problem}"
          countFiles language path rest

def scan (tree : FileTree) (path : String) (language : Language) : Logged DeclarationCounts := do
  match sources tree path language with
  | .ok files => return language.finalize (← countFiles language path files)
  | .error cause =>
      Logged.say .warn .declarations
        s!"Error walking {path}: {FileTree.walkProblem path cause}"
      return language.finalize .zero

/-- The declarations of a repository; none if it is of none of the languages. -/
def count (tree : FileTree) (path : String) (languages : List Language := Language.all)
    : Logged DeclarationCounts := do
  match languageOf? tree path languages with
  | some language =>
      Logged.say .debug .declarations
        s!"classified {path} language=\"{language.name}\" strategy={language.strategy}"
      scan tree path language
  | none =>
      Logged.say .debug .declarations s!"no declaration extractor matches {path}"
      return .zero

end DocSurvey.Declarations
