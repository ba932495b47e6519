import DocSurvey.Time.Reader
import DocSurvey.Json.Printer

/-! Why data does not have the shape that a reader asks for.
-/

namespace DocSurvey.Data

/-- What data holds instead of the expected value, as messages name it. -/
inductive Found where
  | unit
  | null
  | flag (value : Bool)
  | integer (value : Int)
  /-- A number that only a type of 128 bits holds. -/
  | wide (value : Int)
  | fraction (spelled : List Char)
  | text (value : String)
  | sequence
  | map
  | taggedValue

namespace Found

def describe : Found → String
  | unit => "unit value"
  | null => "null"
  | flag value => "boolean `" ++ (if value then "true" else "false") ++ "`"
  | integer value => "integer `" ++ String.ofList (Json.intText value) ++ "`"
  | wide value =>
      let type := if value < 0 then "i128" else "u128"
      "integer `" ++ String.ofList (Json.intText value) ++ "` as " ++ type
  | fraction spelled => "floating point `" ++ String.ofList spelled ++ "`"
  | text value => "string " ++ Text.quoted value
  | sequence => "sequence"
  | map => "map"
  | taggedValue => "enum"

end Found

/-- Why a value was refused. -/
inductive Error where
  | invalidType (found : Found) (expected : String)
  | invalidValue (found : Found) (expected : String)
  | missingField (name : String)
  | invalidLength (length : Nat) (expected : String)
  | noVariant (type : String)
  | notATime (error : Time.TimeError)
  | duplicateField (name : String)

namespace Error

def message : Error → String
  | invalidType found expected => "invalid type: " ++ found.describe ++ ", expected " ++ expected
  | invalidValue found expected => "invalid value: " ++ found.describe ++ ", expected " ++ expected
  | missingField name => "missing field `" ++ name ++ "`"
  | invalidLength length expected =>
      "invalid length " ++ Number.text length ++ ", expected " ++ expected
  | noVariant type => "data did not match any variant of untagged enum " ++ type
  | notATime error => error.message
  | duplicateField name => "duplicate field `" ++ name ++ "`"

end Error

end DocSurvey.Data
