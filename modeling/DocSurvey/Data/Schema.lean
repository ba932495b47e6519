import DocSurvey.Data.Error
import DocSurvey.Number.Whole

/-! Schemas of data. A schema says which fields a record has and of what kind each of them is; what
a reader has checked against it is a record of plain values, from which domain types are built.
-/

namespace DocSurvey.Data

/-- The kinds of values that fields hold. A record names its fields in the order of declaration, and
says whether all of them must be present. -/
inductive Kind where
  | text
  | path
  | integer (label : String) (least greatest : Int)
  | flag
  | time
  | texts
  | record (label : String) (complete : Bool) (fields : List (String × Kind))

namespace Kind

/-- Numbers of 64 bits that count things. -/
def count : Kind :=
  .integer "usize" 0 (Number.bitRange 64 - 1)

def word32 : Kind :=
  .integer "u32" 0 (Number.bitRange 32 - 1)

def word64 : Kind :=
  .integer "u64" 0 (Number.bitRange 64 - 1)

def signed64 : Kind :=
  .integer "i64" (-Number.bitRange 63) (Number.bitRange 63 - 1)

/-- What a reader says it expects where a value is of another kind. -/
def expected : Kind → String
  | text => "a string"
  | path => "path string"
  | integer label _ _ => label
  | flag => "a boolean"
  | time => "an RFC 3339 formatted date and time string"
  | texts => "a sequence"
  | record label _ _ => "struct " ++ label

end Kind

/-- A value that has been checked against its kind. -/
inductive Value where
  | text (value : String)
  | integer (value : Int)
  | flag (value : Bool)
  | time (value : Time.Instant)
  | texts (values : List String)
  | record (fields : List (String × Value))
deriving Inhabited

namespace Value

def field? (value : Value) (name : String) : Option Value :=
  match value with
  | .record fields => fields.lookup name
  | _ => none

def textD (value : Value) (name : String) (default : String) : String :=
  match value.field? name with
  | some (.text t) => t
  | _ => default

def natD (value : Value) (name : String) (default : Nat) : Nat :=
  match value.field? name with
  | some (.integer n) => n.toNat
  | _ => default

def flagD (value : Value) (name : String) (default : Bool) : Bool :=
  match value.field? name with
  | some (.flag b) => b
  | _ => default

def timeD (value : Value) (name : String) (default : Time.Instant) : Time.Instant :=
  match value.field? name with
  | some (.time t) => t
  | _ => default

/-- The texts in a field, or others if the field is absent. -/
def textsD (value : Value) (name : String) (default : List String) : List String :=
  match value.field? name with
  | some (.texts ts) => ts
  | _ => default

/-- The record in a field, or the empty one if the field is absent. -/
def recordD (value : Value) (name : String) : Value :=
  match value.field? name with
  | some r => r
  | none => .record []

end Value

end DocSurvey.Data
