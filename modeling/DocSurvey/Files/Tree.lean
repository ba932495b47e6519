import DocSurvey.Data.Ordered
import DocSurvey.Files.Path

/-! A directory tree and the changes made to it. A tree maps the names that lead to a file, a
directory or a link to what stands there; the names are kept in order, so that the entries of a
directory follow it, sorted by name. Main statements: what is put at a place is found there, and
nothing else changes.
-/

namespace DocSurvey

/-- What the system answers when a path cannot be used. -/
inductive SystemError where
  | missing
  | exists
  | notDirectory
  | isDirectory
  | tooManyLinks
  | notText
  deriving Repr, DecidableEq, Inhabited

def SystemError.message : SystemError → String
  | .missing => "No such file or directory (os error 2)"
  | .exists => "File exists (os error 17)"
  | .notDirectory => "Not a directory (os error 20)"
  | .isDirectory => "Is a directory (os error 21)"
  | .tooManyLinks => "Too many levels of symbolic links (os error 40)"
  | .notText => "stream did not contain valid UTF-8"

/-- What stands at a place. A file whose bytes are no text has no content to read. -/
inductive Node where
  | file (content : Option String)
  | directory
  | link (target : String)
  deriving Repr, DecidableEq, Inhabited

/-- The names that lead from the top of the tree to a place. -/
abbrev Place := List String

/-- The places of a tree and what stands there. -/
structure FileTree where
  entries : List (Place × Node)
  deriving Repr, Inhabited

namespace FileTree

def empty : FileTree := ⟨[]⟩

/-- What stands at a place; at the top stands a directory. -/
def get? (tree : FileTree) (place : Place) : Option Node :=
  if place.isEmpty then some .directory else tree.entries.lookup place

def insert (tree : FileTree) (place : Place) (node : Node) : FileTree :=
  ⟨Data.insertByKey place node tree.entries⟩

def erase (tree : FileTree) (place : Place) : FileTree :=
  ⟨tree.entries.filter fun entry => !place.isPrefixOf entry.1⟩

/-- The entries of the directory at a place, in the order of the tree. -/
def children (tree : FileTree) (place : Place) : List (String × Node) :=
  tree.entries.filterMap fun (found, node) =>
    match found.getLast? with
    | some name => if found.dropLast = place then some (name, node) else none
    | none => none

/-- A step on the way along a path. -/
inductive Step where
  /-- Stays in the directory. -/
  | stay
  | up
  | down (name : String)
  deriving Repr, DecidableEq, Inhabited

def Step.ofComponent : Path.Component → Step
  | .root | .current => .stay
  | .parent => .up
  | .name text => .down text

/-- A path with a slash at its end, or a dot behind one, asks for a directory. -/
def asksDirectory (path : String) : Bool :=
  match path.toList.reverse with
  | '/' :: _ | '.' :: '/' :: _ => true
  | _ => false

def steps (path : String) : List Step :=
  let inner := (Path.components path).map Step.ofComponent
  if asksDirectory path then inner ++ [.stay] else inner

def linkLimit : Nat := 40

/-- Where steps come to a stop: at a place, or at a link in a directory, with the steps behind it.
-/
inductive Stop where
  | place (last : Place)
  | link (directory : Place) (target : String) (rest : List Step)
  deriving Repr, DecidableEq, Inhabited

/-- Where steps from a directory come to a stop. They stop at a link, and go past one at the end if
`follow` says so. Only the last step may lead to nothing.
-/
def advance (tree : FileTree) (follow : Bool) : List Step → Place → Except SystemError Stop
  | [], place => .ok (.place place)
  | .stay :: rest, place => tree.advance follow rest place
  | .up :: rest, place => tree.advance follow rest place.dropLast
  | .down name :: rest, place =>
      let next := place ++ [name]
      match tree.get? next with
      | none => if rest.isEmpty then .ok (.place next) else .error .missing
      | some .directory => tree.advance follow rest next
      | some (.file _) => if rest.isEmpty then .ok (.place next) else .error .notDirectory
      | some (.link target) =>
          if rest.isEmpty && !follow then .ok (.place next) else .ok (.link place target rest)

/-- Where the target of a link in a directory starts: at the top of the tree if it is absolute. -/
def linkStart (directory : Place) (target : String) : Place :=
  if Path.isAbsolute target then [] else directory

/-- The place that steps lead to from a directory, through so many links at most. -/
def walk (tree : FileTree) (follow : Bool)
    : (links : Nat) → List Step → Place → Except SystemError Place
  | links, way, place => do
      match ← tree.advance follow way place with
      | .place last => .ok last
      | .link directory target rest =>
          match links with
          | 0 => .error .tooManyLinks
          | links + 1 => tree.walk follow links (steps target ++ rest) (linkStart directory target)

/-- The place that a path leads to. The top of the tree is where every path starts: it is the root
of all files for an absolute path, and the working directory for any other one.
-/
def locate (tree : FileTree) (follow : Bool) (path : String) : Except SystemError Place :=
  if path.isEmpty then .error .missing else tree.walk follow linkLimit (steps path) []

/-- What a path leads to, and where it stands. -/
def find (tree : FileTree) (follow : Bool) (path : String) : Except SystemError (Place × Node) := do
  let place ← tree.locate follow path
  match tree.get? place with
  | some node => .ok (place, node)
  | none => .error .missing

def contains (tree : FileTree) (path : String) : Bool :=
  (tree.find true path).isOk

def isDirectory (tree : FileTree) (path : String) : Bool :=
  match tree.find true path with
  | .ok (_, .directory) => true
  | _ => false

def readText (tree : FileTree) (path : String) : Except SystemError String := do
  match ← tree.find true path with
  | (_, .file (some content)) => .ok content
  | (_, .file none) => .error .notText
  | (_, _) => .error .isDirectory

def readDirectory (tree : FileTree) (path : String)
    : Except SystemError (List (String × Node)) := do
  match ← tree.find true path with
  | (place, .directory) => .ok (tree.children place)
  | _ => .error .notDirectory

/-- The tree with a file where the path leads. -/
def withFile (tree : FileTree) (path : String) (content : Option String)
    : Except SystemError FileTree := do
  let place ← tree.locate true path
  match tree.get? place with
  | some .directory => .error .isDirectory
  | _ => .ok (tree.insert place (.file content))

/-- The tree with a directory in one that is there. -/
def withDirectory (tree : FileTree) (path : String) : Except SystemError FileTree := do
  let place ← tree.locate false path
  match tree.get? place with
  | some _ => .error .exists
  | none => .ok (tree.insert place .directory)

/-- No directory can be made under the path, because one on the way is missing. -/
def isCutOff (tree : FileTree) (path : String) : Bool :=
  match tree.withDirectory path with
  | .error .missing => true
  | _ => false

/-- The tree with a link where the path leads. -/
def withLink (tree : FileTree) (path target : String) : Except SystemError FileTree := do
  let place ← tree.locate false path
  if target.isEmpty then
    .error .missing
  else
    match tree.get? place with
    | some _ => .error .exists
    | none => .ok (tree.insert place (.link target))

/-- The tree without what the path leads to and what lies below it. -/
def without (tree : FileTree) (path : String) : Except SystemError FileTree := do
  let (place, _) ← tree.find false path
  .ok (tree.erase place)

end FileTree

/-- Changes to a tree. Those made before an error stay. -/
abbrev FileAction (ε : Type) := ExceptT ε (StateM FileTree)

namespace FileAction

/-- A single change, or an error and none. -/
def change (step : FileTree → Except ε FileTree) : FileAction ε Unit := do
  match step (← get) with
  | .ok changed => set changed
  | .error cause => throw cause

/-- The changed tree, and the error that ended the changes, if one did. -/
def apply (action : FileAction ε Unit) (tree : FileTree) : FileTree × Option ε :=
  match (ExceptT.run action).run tree with
  | (.ok _, changed) => (changed, none)
  | (.error cause, changed) => (changed, some cause)

/-- Makes a directory, or finds that there is one already. -/
def makeOrFind (path : String) : FileAction SystemError Unit := do
  let tree ← get
  match tree.withDirectory path with
  | .ok made => set made
  | .error cause => if tree.isDirectory path then pure () else throw cause

/-- Makes a directory. Where the way to it is cut off, another action that may make the way comes
first.
-/
def makeDirectory (path : String) (above : FileAction SystemError Unit)
    : FileAction SystemError Unit := do
  if (← get).isCutOff path then
    above
    makeOrFind path
  else
    makeOrFind path

/-- Makes a directory and those it lies in, so far as they are missing. The components of its path
are given from the last to the first.
-/
def makeDirectoriesFrom : List Path.Component → FileAction SystemError Unit
  | [] => pure ()
  | last :: before =>
      let path := "/".intercalate ((last :: before).reverse.map Path.Component.text)
      makeDirectory path (makeDirectoriesFrom before)

/-- Makes a directory and those it lies in, so far as they are missing. A slash at the end of its
path says nothing, while a dot there asks for a directory that no one has to make.
-/
def makeDirectories (path : String) : FileAction SystemError Unit :=
  match (Path.components path).reverse with
  | [] => pure ()
  | _ :: before =>
      let spelling := if Path.endsInDot path then path else Path.written path
      makeDirectory spelling (makeDirectoriesFrom before)

/-- Puts an entry where the path leads, with the directories it lies in. -/
def put (path : String) (node : Node) : FileAction SystemError Unit := do
  match node with
  | .directory => makeDirectories path
  | .file content =>
      makeDirectories (Path.parent path)
      change fun tree => tree.withFile path content
  | .link target =>
      makeDirectories (Path.parent path)
      change fun tree => tree.withLink path target

end FileAction

namespace FileTree

/-- The places of the tree, each followed by a mark of what stands there, in the order of the texts.
-/
def list (tree : FileTree) : List String :=
  let texts := tree.entries.map fun (place, node) =>
    "/".intercalate place ++ match node with
      | .file _ => ""
      | .directory => "/"
      | .link _ => "@"
  texts.mergeSort fun left right => !(right < left)

end FileTree

end DocSurvey
