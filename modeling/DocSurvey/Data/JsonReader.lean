import DocSurvey.Data.Schema

/-! Checking JSON against a schema. Of several faults in a record, one in a present field comes
before a missing field; present fields are looked at in the order of their names and missing ones in
the order of declaration. A record may also be given as the list of its values in that order.
-/

namespace DocSurvey.Data

/-- What a JSON value is called where another was expected. -/
def Found.ofJson : Json → Found
  | .null => .null
  | .bool value => .flag value
  | .int value => .integer value
  | .fraction negative size => .fraction (Json.fractionText negative size)
  | .string value => .text value
  | .array _ => .sequence
  | .object _ => .map

def readText (expected : String) : Json → Except Error String
  | .string value => .ok value
  | other => .error (.invalidType (.ofJson other) expected)

def readTexts : Json → Except Error (List String)
  | .array items => items.mapM (readText "a string")
  | other => .error (.invalidType (.ofJson other) "a sequence")

/-- The first fault among the fields, given what was read for each field that is present. -/
def firstFault (complete : Bool) (readings : List (String × Option (Except Error Value)))
    : Option Error :=
  let byName := readings.mergeSort fun a b => a.1 ≤ b.1
  let fault := byName.findSome? fun (_, reading) =>
    match reading with
    | some (.error e) => some e
    | _ => none
  let missing := readings.find? fun (_, reading) => reading.isNone
  match fault, missing with
  | some e, _ => some e
  | none, some (name, _) => if complete then some (.missingField name) else none
  | none, none => none

def presentValues (readings : List (String × Option (Except Error Value)))
    : List (String × Value) :=
  readings.filterMap fun (name, reading) =>
    match reading with
    | some (.ok value) => some (name, value)
    | _ => none

mutual

/-- The value of the given kind that a JSON value spells. -/
def readJson : Kind → Json → Except Error Value
  | .text, json => (readText "a string" json).map .text
  | .path, json => (readText "path string" json).map .text
  | .integer label least greatest, json =>
      match json with
      | .int value =>
          if least ≤ value && value ≤ greatest then .ok (.integer value)
          else .error (.invalidValue (.integer value) label)
      | other => .error (.invalidType (.ofJson other) label)
  | .flag, json =>
      match json with
      | .bool value => .ok (.flag value)
      | other => .error (.invalidType (.ofJson other) "a boolean")
  | .time, json => do
      let text ← readText Kind.time.expected json
      match Time.Instant.read text.toList with
      | .ok value => .ok (.time value)
      | .error e => .error (.notATime e)
  | .texts, json => (readTexts json).map .texts
  | .record label complete fields, json =>
      match json with
      | .object members =>
          let readings := readMembers fields members
          match firstFault complete readings with
          | some e => .error e
          | none => .ok (.record (presentValues readings))
      | .array items => do
          let values ← readItems label complete fields.length 0 fields items
          if fields.length < items.length then
            .error (.invalidLength items.length "fewer elements in array")
          else .ok (.record values)
      | other => .error (.invalidType (.ofJson other) ("struct " ++ label))

/-- What the members of an object hold for each field. -/
def readMembers : List (String × Kind) → List (String × Json)
    → List (String × Option (Except Error Value))
  | [], _ => []
  | (name, kind) :: fields, members =>
      (name, (Json.lookup members name).map (readJson kind)) :: readMembers fields members

/-- The fields of a record that is given as a list. -/
def readItems (label : String) (complete : Bool) (size index : Nat)
    : List (String × Kind) → List Json → Except Error (List (String × Value))
  | [], _ => .ok []
  | _ :: _, [] =>
      if complete then
        .error (.invalidLength index
          ("struct " ++ label ++ " with " ++ Number.text size ++ " elements"))
      else .ok []
  | (name, kind) :: fields, item :: items => do
      let value ← readJson kind item
      let values ← readItems label complete size (index + 1) fields items
      .ok ((name, value) :: values)

end

end DocSurvey.Data
