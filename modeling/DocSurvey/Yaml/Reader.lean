import DocSurvey.Data.Schema
import DocSurvey.Yaml.Node
import DocSurvey.Yaml.Plain

/-! Checked data from a YAML document. The entries of a record are looked at in the order they are
written; those that it does not know are passed over. An error names the place of the value and the
path that leads to it.
-/

namespace DocSurvey.Yaml

open Data

/-- A value that was refused: the path that leads to it, where it starts, and why. -/
structure Fault where
  path : String
  start : Mark
  cause : Data.Error

/-- The error in words. At the very start of a text no place is named, and no path at the top. -/
def Fault.message (fault : Fault) : String :=
  let path := if fault.path.isEmpty then "" else fault.path ++ ": "
  let place :=
    if fault.start = ⟨0, 0⟩ then ""
    else s!" at line {fault.start.line + 1} column {fault.start.column + 1}"
  path ++ fault.cause.message ++ place

/-- What a number that is not whole is in messages. -/
def spelled (value : Json) : List Char :=
  match value with
  | .fraction negative size => (if negative then ['-'] else []) ++ Number.plainText size
  | _ => []

/-- What a scalar without quotes and tags is in messages. -/
def foundPlain (text : String) : Found :=
  match plainMeaning text.toList with
  | .null => .unit
  | .flag value => .flag value
  | .integer value =>
      if Number.fitsSigned 64 value || Number.fitsUnsigned 64 value then .integer value
      else .wide value
  | .fraction value => .fraction (spelled value)
  | .special text => .fraction text.toList
  | .text => .text text

/-- The tag of a type that every document knows. -/
def standardTag (name : String) : String :=
  "tag:yaml.org,2002:" ++ name

/-- Why a scalar is not what was expected. One that does not even fit its own tag is refused for
that.
-/
def refuseScalar (expected : String) (tag : Option String) (style : ScalarStyle) (text : String)
    : Data.Error :=
  let unfit (type : String) : Data.Error := .invalidValue (.text text) type
  let meaning := plainMeaning text.toList
  match tag with
  | none =>
      .invalidType (if style = .plain then foundPlain text else .text text) expected
  | some tag =>
      if tag = standardTag "bool" then
        match meaning with
        | .flag value => .invalidType (.flag value) expected
        | _ => unfit "a boolean"
      else if tag = standardTag "int" then
        match meaning with
        | .integer _ => .invalidType (foundPlain text) expected
        | _ => unfit "an integer"
      else if tag = standardTag "float" then
        match fraction? text.toList with
        | some (.fraction value) => .invalidType (.fraction (spelled value)) expected
        | some (.special text) => .invalidType (.fraction text.toList) expected
        | _ => unfit "a float"
      else if tag = standardTag "null" then
        match meaning, text.isEmpty with
        | .null, false => .invalidType .unit expected
        | _, _ => unfit "null"
      else if tag.startsWith "!" && style = .plain then
        .invalidType (foundPlain text) expected
      else
        .invalidType (.text text) expected

/-- Why a node is not what was expected. -/
def refuse (path expected : String) (node : Node) : Fault :=
  let cause := match node with
    | .scalar _ tag style text => refuseScalar expected tag style text
    | .sequence _ _ _ => .invalidType .sequence expected
    | .mapping _ _ _ => .invalidType .map expected
  ⟨path, node.start, cause⟩

def readText (path expected : String) (node : Node) : Except Fault String :=
  match node with
  | .scalar _ _ _ text => .ok text
  | _ => .error (refuse path expected node)

def isNothing (style : ScalarStyle) (text : String) : Bool :=
  style = .plain && text.isEmpty

def readTexts (path : String) (node : Node) : Except Fault (List String) :=
  match node with
  | .sequence _ _ items =>
      (items.zipIdx).mapM fun (item, index) => readText s!"{path}[{index}]" "a string" item
  | .scalar _ _ style text =>
      if isNothing style text then .ok [] else .error (refuse path "a sequence" node)
  | .mapping _ _ _ => .error (refuse path "a sequence" node)

def readInteger (path label : String) (least greatest : Int) (node : Node) : Except Fault Int :=
  match node with
  | .scalar _ _ .plain text =>
      match integer? text.toList with
      | some value =>
          if least ≤ value && value ≤ greatest then .ok value else .error (refuse path label node)
      | none => .error (refuse path label node)
  | _ => .error (refuse path label node)

def fieldPath (path name : String) : String :=
  if path.isEmpty then name else path ++ "." ++ name

/-- A field may be given only once. -/
def checkFresh (path : String) (key : Node) (name : String) (values : List (String × Value))
    : Except Fault Unit :=
  if (values.lookup name).isSome then .error ⟨path, key.start, .duplicateField name⟩ else .ok ()

/-- The entries of a mapping that a record knows, in the order they are written, read by the
functions of the fields.
-/
def readEntries (path : String) (fields : List (String × (Node → Except Fault Value)))
    : List (String × Value) → List (Node × Node) → Except Fault (List (String × Value))
  | values, [] => .ok values
  | values, (key, node) :: rest => do
      let name ← readText path "field identifier" key
      match fields.lookup name with
      | none => readEntries path fields values rest
      | some read => do
          checkFresh path key name values
          let value ← read node
          readEntries path fields (values ++ [(name, value)]) rest

mutual

def readNode (path : String) : Kind → Node → Except Fault Value
  | .text, node => (readText path "a string" node).map .text
  | .path, node => (readText path "path string" node).map .text
  | .integer label least greatest, node =>
      (readInteger path label least greatest node).map .integer
  | .flag, node =>
      match node with
      | .scalar _ _ .plain text =>
          match plainMeaning text.toList with
          | .flag value => .ok (.flag value)
          | _ => .error (refuse path "a boolean" node)
      | _ => .error (refuse path "a boolean" node)
  | .time, node => do
      let text ← readText path Kind.time.expected node
      match Time.Instant.read text.toList with
      | .ok value => .ok (.time value)
      | .error cause => .error ⟨path, node.start, .notATime cause⟩
  | .texts, node => (readTexts path node).map .texts
  | .record label _ fields, node =>
      match node with
      | .mapping _ _ entries =>
          (readEntries path (fieldReaders path fields) [] entries).map .record
      | .scalar _ _ style text =>
          if isNothing style text then .ok (.record [])
          else .error (refuse path ("struct " ++ label) node)
      | .sequence _ _ _ => .error (refuse path ("struct " ++ label) node)

def fieldReaders (path : String)
    : List (String × Kind) → List (String × (Node → Except Fault Value))
  | [] => []
  | (name, kind) :: rest =>
      (name, fun node => readNode (fieldPath path name) kind node) :: fieldReaders path rest

end

/-- A value that tells keys apart: what is written differently but means the same is the same. -/
def keyOf : Node → Option (Sum String String)
  | .scalar _ tag style text =>
      if style = .plain && tag.isNone then
        match plainMeaning text.toList with
        | .null => some (.inr "null")
        | .flag value => some (.inr (toString value))
        | .integer value => some (.inr (toString value))
        | .fraction value => some (.inr (String.ofList (spelled value)))
        | .special text => some (.inr text)
        | .text => some (.inl text)
      else
        some (.inl text)
  | _ => none

def repeatsKey : List (Option (Sum String String)) → Bool
  | [] => false
  | none :: rest => repeatsKey rest
  | some key :: rest => rest.contains (some key) || repeatsKey rest

mutual

def Node.hasRepeatedKey : Node → Bool
  | .scalar _ _ _ _ => false
  | .sequence _ _ items => anyRepeatedKey items
  | .mapping _ _ entries => repeatsKey (entries.map fun entry => keyOf entry.1)
      || anyRepeatedEntry entries

def anyRepeatedKey : List Node → Bool
  | [] => false
  | item :: rest => item.hasRepeatedKey || anyRepeatedKey rest

def anyRepeatedEntry : List (Node × Node) → Bool
  | [] => false
  | (key, value) :: rest =>
      key.hasRepeatedKey || value.hasRepeatedKey || anyRepeatedEntry rest

end

end DocSurvey.Yaml
