import DocSurvey.Text.Search

/-! The text of a path and the components it names. Slashes that repeat and dots inside a path name
nothing; a dot at the start and a slash at the start are components.
-/

namespace DocSurvey.Path

/-- A component of a path. -/
inductive Component where
  | root
  | current
  | parent
  | name (text : String)
  deriving Repr, DecidableEq, Inhabited

def Component.text : Component → String
  | .root => "/"
  | .current => "."
  | .parent => ".."
  | .name text => text

/-- The parts of a text between the slashes, empty ones included. -/
def pieces (path : List Char) : List (List Char) :=
  match path with
  | [] => [[]]
  | '/' :: rest => [] :: pieces rest
  | c :: rest =>
      match pieces rest with
      | first :: others => (c :: first) :: others
      | [] => [[c]]

/-- The component a part stands for, if it stands for one behind others. -/
def innerComponent (piece : List Char) : Option Component :=
  if piece == [] || piece == ['.'] then
    none
  else if piece == ['.', '.'] then
    some .parent
  else
    some (.name (String.ofList piece))

/-- The component that the first part of a path stands for, if it stands for one. -/
def openingComponent (piece : List Char) : Option Component :=
  if piece == [] then
    some .root
  else if piece == ['.'] then
    some .current
  else
    innerComponent piece

def components (path : String) : List Component :=
  if path.isEmpty then
    []
  else
    match pieces path.toList with
    | [] => []
    | first :: rest => (openingComponent first).toList ++ rest.filterMap innerComponent

def isAbsolute (path : String) : Bool :=
  path.toList.head? == some '/'

/-- The path may lead out of the directory it starts in. -/
def leaves (path : String) : Bool :=
  isAbsolute path || (components path).contains .parent

/-- The path of what the second path names, seen from the first one. -/
def join (base child : String) : String :=
  if isAbsolute child || base.isEmpty then
    child
  else if base.toList.getLast? == some '/' then
    base ++ child
  else
    base ++ "/" ++ child

def fileName? (path : String) : Option String :=
  match (components path).getLast? with
  | some (.name text) => some text
  | _ => none

/-- What stands behind the last dot of a file name, unless the name starts with that dot. -/
def extensionOf? (name : String) : Option String :=
  let reversed := name.toList.reverse
  let behind := reversed.takeWhile (· != '.')
  match reversed.drop behind.length with
  | '.' :: _ :: _ => some (String.ofList behind.reverse)
  | _ => none

/-- A reversed path without the slashes and dots behind its last component. -/
def trimTail : List Char → List Char
  | ['/'] | ['.', '/'] => ['/']
  | '/' :: rest | '.' :: '/' :: rest => trimTail rest
  | text => text

/-- The path of the directory that the last component lies in; the root of all files lies in none.
-/
def parent (path : String) : String :=
  match trimTail path.toList.reverse with
  | ['/'] => ""
  | name => String.ofList (trimTail (name.dropWhile (· != '/'))).reverse

/-- A dot stands at the end of the path, behind a slash and before others at most. -/
def endsInDot (path : String) : Bool :=
  match path.toList.reverse.dropWhile (· == '/') with
  | '.' :: '/' :: _ => true
  | _ => false

/-- The path as it is written from its components. -/
def written (path : String) : String :=
  "/".intercalate ((components path).map Component.text)

/-- The components of the path behind those of the root. -/
def relativeTo? (root path : String) : Option (List Component) :=
  let start := components root
  let whole := components path
  if start.isPrefixOf whole then some (whole.drop start.length) else none

/-- The path as seen from the root, with a slash between components; the whole path if it does not
lie below the root.
-/
def relativeKey (root path : String) : String :=
  let found := (relativeTo? root path).getD (components path)
  "/".intercalate (found.map Component.text)

end DocSurvey.Path
