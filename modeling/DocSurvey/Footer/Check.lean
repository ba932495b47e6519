import DocSurvey.Files.Walk
import DocSurvey.Footer.Analysis
import DocSurvey.Log

/-! The footers of all READMEs below a root. -/

namespace DocSurvey.Footer

open Text

def isReadmeName (name : String) : Bool :=
  lower name.toList == "readme.md".toList

/-- The paths of all READMEs below the root, without those in directories that are left out. -/
def readmes (tree : FileTree) (root : String) (excluded : List String) : Logged (List String) := do
  match tree.walkFrom (fun name => !excluded.contains name) root with
  | .error cause =>
      Logged.say .warn .footers s!"Error walking {root}: {FileTree.walkProblem root cause}"
      return []
  | .ok found =>
      let files := found.filter fun found =>
        found.isFile && (Path.fileName? (found.path root)).any isReadmeName
      return files.map fun found => found.path root

def analyzeFile (tree : FileTree) (rules : Rules) (path : String) : Logged Result := do
  match tree.readText path with
  | .ok content => return .analyzed (rules.analyze content.toList)
  | .error cause =>
      Logged.say .warn .footers s!"Could not read {path}: {cause.message}"
      return .unreadable s!"Could not read file: {cause.message}"

def analyzeFiles (tree : FileTree) (rules : Rules) (root : String)
    : List String → Logged (List (String × Result))
  | [] => return []
  | path :: rest => do
      let result ← analyzeFile tree rules path
      let others ← analyzeFiles tree rules root rest
      return (Path.relativeKey root path, result) :: others

/-- What comes out for all READMEs below the root. -/
def checkAll (tree : FileTree) (settings : Config.Footer) : Logged Results := do
  let files ← readmes tree settings.root settings.excludedDirectories
  Logged.say .debug .footers s!"found {files.length} README files under {settings.root}"
  let results ← analyzeFiles tree (.ofSettings settings) settings.root files
  return Data.orderedByKey results

end DocSurvey.Footer
