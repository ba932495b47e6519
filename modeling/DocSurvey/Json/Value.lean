import DocSurvey.Number.Decimal

/-! JSON values. Whole numbers are kept apart from numbers with a fraction, and an object keeps the
order of its members; where a name is given twice, the last member counts.
-/

namespace DocSurvey

/-- A JSON value. A fraction has a sign of its own, since zero may carry one. -/
inductive Json where
  | null
  | bool (flag : Bool)
  | int (value : Int)
  | fraction (negative : Bool) (size : Number.Binary64)
  | string (text : String)
  | array (items : List Json)
  | object (members : List (String × Json))
deriving Inhabited

namespace Json

def nat (n : Nat) : Json :=
  .int n

def number (q : Number.Binary64) : Json :=
  .fraction (q < 0) (if q < 0 then -q else q)

def strings (texts : List String) : Json :=
  .array (texts.map .string)

/-- The member of the given name in a list of members. -/
def lookup (members : List (String × Json)) (name : String) : Option Json :=
  (members.reverse.find? (·.1 == name)).map (·.2)

def get? (value : Json) (name : String) : Option Json :=
  match value with
  | .object members => lookup members name
  | _ => none

def fractionText (negative : Bool) (size : Number.Binary64) : List Char :=
  if negative then '-' :: Number.dataText size else Number.dataText size

def intText : Int → List Char
  | .ofNat n => Number.digits n
  | .negSucc n => '-' :: Number.digits (n + 1)

end Json

end DocSurvey
