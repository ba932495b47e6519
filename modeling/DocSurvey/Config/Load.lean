import DocSurvey.Config.Settings
import DocSurvey.Files.Tree
import DocSurvey.Yaml.Reader

/-! Settings from a file. Where no file is named, the usual names are tried; where none of them is
there, all settings are the defaults.
-/

namespace DocSurvey.Config

/-- Why settings could not be loaded. -/
inductive LoadError where
  | unreadable (path : String) (cause : SystemError)
  /-- The file is not one document, or a mapping in it has a key twice. -/
  | malformed (path : String)
  | refused (path : String) (fault : Yaml.Fault)

def LoadError.message : LoadError → String
  | .unreadable path cause => s!"loading config {path}: {cause.message}"
  | .malformed path => s!"loading config {path}: not a well-formed document"
  | .refused path fault => s!"loading config {path}: {fault.message}"

/-- The names that settings files usually have, the first one found counts. -/
def usualNames : List String := ["docaudit.yaml", ".docaudit.yaml"]

/-- The file of the settings, if there is one. -/
def discover? (tree : FileTree) : Option String :=
  usualNames.find? tree.contains

def parse (path text : String) : Except LoadError Settings :=
  match Yaml.read? text.toList with
  | none => .error (.malformed path)
  | some none => .ok {}
  | some (some document) =>
      match Yaml.readNode "" Settings.kind document with
      | .ok value => .ok (.ofValue value)
      | .error fault =>
          if document.hasRepeatedKey then .error (.malformed path) else .error (.refused path fault)

def loadFile (tree : FileTree) (path : String) : Except LoadError Settings :=
  match tree.readText path with
  | .ok text => parse path text
  | .error cause => .error (.unreadable path cause)

/-- The file that settings are loaded from, if any. -/
def source? (tree : FileTree) (path? : Option String) : Option String :=
  match path? with
  | some path => some path
  | none => discover? tree

/-- The settings of the named file, or of the one found, or the defaults. -/
def load (tree : FileTree) (path? : Option String) : Except LoadError Settings :=
  match source? tree path? with
  | some path => loadFile tree path
  | none => .ok {}

end DocSurvey.Config
