import DocSurvey.Json.Value
import DocSurvey.Number.Whole
import DocSurvey.Text.CharClass

/-! Reading JSON text. The grammar is the strict one: no leading zeros, no bare control characters,
no lone surrogates, and at most 127 arrays and objects inside one another.
-/

namespace DocSurvey.Json

open Text

/-- The text after the blanks that JSON allows between tokens. -/
def skipBlanks (text : List Char) : List Char :=
  text.dropWhile fun c => c == ' ' || c == '\n' || c == '\r' || c == '\t'

def readHex4 : List Char → Option (Nat × List Char)
  | a :: b :: c :: d :: rest =>
      if [a, b, c, d].all isHexDigit then
        some ([a, b, c, d].foldl (fun value digit => value * 16 + hexValue digit) 0, rest)
      else none
  | _ => none

/-- The character of an escape, given the text after its `u`. -/
def readUnicode (text : List Char) : Option (Char × List Char) := do
  let (first, rest) ← readHex4 text
  if 0xD800 ≤ first && first < 0xDC00 then
    match rest with
    | '\\' :: 'u' :: rest =>
        let (second, rest) ← readHex4 rest
        if 0xDC00 ≤ second && second < 0xE000 then
          some (Char.ofNat (0x10000 + (first - 0xD800) * 0x400 + (second - 0xDC00)), rest)
        else none
    | _ => none
  else if 0xDC00 ≤ first && first < 0xE000 then none
  else some (Char.ofNat first, rest)

/-- The character of an escape, given the text after its backslash. -/
def readEscape : List Char → Option (Char × List Char)
  | '"' :: rest => some ('"', rest)
  | '\\' :: rest => some ('\\', rest)
  | '/' :: rest => some ('/', rest)
  | 'b' :: rest => some ('\x08', rest)
  | 'f' :: rest => some ('\x0c', rest)
  | 'n' :: rest => some ('\n', rest)
  | 'r' :: rest => some ('\r', rest)
  | 't' :: rest => some ('\t', rest)
  | 'u' :: rest => readUnicode rest
  | _ => none

/-- The characters up to the closing quote, given the text after the opening one. -/
def readString : (fuel : Nat) → List Char → Option (List Char × List Char)
  | 0, _ => none
  | _ + 1, [] => none
  | fuel + 1, c :: rest =>
      if c = '"' then some ([], rest)
      else if c = '\\' then do
        let (escaped, rest) ← readEscape rest
        let (chars, rest) ← readString fuel rest
        some (escaped :: chars, rest)
      else if c.toNat < 32 then none
      else do
        let (chars, rest) ← readString fuel rest
        some (c :: chars, rest)

/-- The nearest number of binary floating point, unless it is too large. -/
def toBinary64? (q : Rat) : Option Number.Binary64 :=
  if q = 0 then some 0
  else
    let unit : Rat := (2 : Rat) ^ (max (Number.binaryExponent q - 52) Number.Scientific.lowest)
    let nearest : Rat := Number.roundHalfEven (q / unit) * unit
    if (2 : Rat) ^ (1024 : Nat) ≤ nearest then none else some nearest

/-- The value of a number with a fraction or an exponent: `mantissa · 10 ^ exponent`. -/
def ofScientific? (negative : Bool) (mantissa : Nat) (exponent : Int) : Option Json :=
  let size : Int := (Number.digits mantissa).length + exponent
  if mantissa = 0 || size < -400 then some (.fraction negative 0)
  else if 400 < size then none
  else (toBinary64? (mantissa * (10 : Rat) ^ exponent)).map (.fraction negative)

/-- The exponent of a number, zero if it has none, and the rest of the text. -/
def readExponent (text : List Char) : Option (Option Int × List Char) :=
  match text with
  | c :: rest =>
      if c = 'e' || c = 'E' then
        let (negative, rest) :=
          match rest with
          | '-' :: rest => (true, rest)
          | '+' :: rest => (false, rest)
          | rest => (false, rest)
        let ds := rest.takeWhile isAsciiDigit
        if ds.isEmpty then none
        else
          let size : Int := Number.ofDigits ds
          some (some (if negative then -size else size), rest.dropWhile isAsciiDigit)
      else some (none, text)
  | [] => some (none, [])

/-- The digits after the point, if the text starts with a point. -/
def readFraction (text : List Char) : Option (Option (List Char) × List Char) :=
  match text with
  | '.' :: rest =>
      let ds := rest.takeWhile isAsciiDigit
      if ds.isEmpty then none else some (some ds, rest.dropWhile isAsciiDigit)
  | _ => some (none, text)

/-- The value of a whole number; one beyond 64 bits is rounded like a fraction. -/
def ofWhole? (negative : Bool) (size : Nat) : Option Json :=
  if negative then
    if size = 0 then some (.fraction true 0)
    else if size ≤ Number.bitRange 63 then some (.int (-(size : Int)))
    else ofScientific? true size 0
  else if size < Number.bitRange 64 then some (.int size)
  else ofScientific? false size 0

def readNumber (text : List Char) : Option (Json × List Char) := do
  let (negative, text) :=
    match text with
    | '-' :: rest => (true, rest)
    | _ => (false, text)
  let whole := text.takeWhile isAsciiDigit
  let text := text.dropWhile isAsciiDigit
  if whole.isEmpty || (whole.head? == some '0' && 1 < whole.length) then none
  else
    let (places, text) ← readFraction text
    let (power, text) ← readExponent text
    if places.isNone && power.isNone then
      let value ← ofWhole? negative (Number.ofDigits whole)
      some (value, text)
    else
      let places := places.getD []
      let value ← ofScientific? negative (Number.ofDigits (whole ++ places))
        (power.getD 0 - (places.length : Int))
      some (value, text)

mutual

/-- A value at the start of the text, which may hold `depth` levels of arrays and objects. -/
def readValue : (fuel depth : Nat) → List Char → Option (Json × List Char)
  | 0, _, _ => none
  | fuel + 1, depth, text =>
      match skipBlanks text with
      | 'n' :: 'u' :: 'l' :: 'l' :: rest => some (.null, rest)
      | 't' :: 'r' :: 'u' :: 'e' :: rest => some (.bool true, rest)
      | 'f' :: 'a' :: 'l' :: 's' :: 'e' :: rest => some (.bool false, rest)
      | '"' :: rest => do
          let (chars, rest) ← readString (rest.length + 1) rest
          some (.string (String.ofList chars), rest)
      | '[' :: rest =>
          if depth = 0 then none
          else
            match skipBlanks rest with
            | ']' :: rest => some (.array [], rest)
            | rest => do
                let (items, rest) ← readItems fuel (depth - 1) rest
                some (.array items, rest)
      | '\x7b' :: rest =>
          if depth = 0 then none
          else
            match skipBlanks rest with
            | '\x7d' :: rest => some (.object [], rest)
            | rest => do
                let (members, rest) ← readMembers fuel (depth - 1) rest
                some (.object members, rest)
      | text => readNumber text

/-- The items of an array up to and with its closing bracket. -/
def readItems : (fuel depth : Nat) → List Char → Option (List Json × List Char)
  | 0, _, _ => none
  | fuel + 1, depth, text => do
      let (item, rest) ← readValue fuel depth text
      match skipBlanks rest with
      | ',' :: rest =>
          let (items, rest) ← readItems fuel depth rest
          some (item :: items, rest)
      | ']' :: rest => some ([item], rest)
      | _ => none

/-- The members of an object up to and with its closing brace. -/
def readMembers : (fuel depth : Nat) → List Char → Option (List (String × Json) × List Char)
  | 0, _, _ => none
  | fuel + 1, depth, text =>
      match skipBlanks text with
      | '"' :: rest => do
          let (name, rest) ← readString (rest.length + 1) rest
          match skipBlanks rest with
          | ':' :: rest =>
              let (value, rest) ← readValue fuel depth rest
              match skipBlanks rest with
              | ',' :: rest =>
                  let (members, rest) ← readMembers fuel depth rest
                  some ((String.ofList name, value) :: members, rest)
              | '\x7d' :: rest => some ([(String.ofList name, value)], rest)
              | _ => none
          | _ => none
      | _ => none

end

/-- Blanks in front of a value make no difference to it. -/
theorem readValue_congr {text other : List Char} (same : skipBlanks text = skipBlanks other)
    (fuel depth : Nat)
    : readValue fuel depth text = readValue fuel depth other := by
  cases fuel with
  | zero => rfl
  | succ fuel => rw [readValue, readValue, same]

section Openings

variable (fuel depth : Nat) (text : List Char)

/-- A quote opens a string. -/
theorem readValue_quote
    : readValue (fuel + 1) depth ('"' :: text) = (do
        let (chars, rest) ← readString (text.length + 1) text
        some (.string (String.ofList chars), rest)) :=
  rfl

/-- A bracket opens a list, which may be empty. -/
theorem readValue_bracket
    : readValue (fuel + 1) (depth + 1) ('[' :: text)
      = match skipBlanks text with
        | ']' :: rest => some (.array [], rest)
        | rest => (do
            let (items, rest) ← readItems fuel depth rest
            some (.array items, rest)) :=
  rfl

/-- A brace opens an object, which may be empty. -/
theorem readValue_brace
    : readValue (fuel + 1) (depth + 1) ('\x7b' :: text)
      = match skipBlanks text with
        | '\x7d' :: rest => some (.object [], rest)
        | rest => (do
            let (members, rest) ← readMembers fuel depth rest
            some (.object members, rest)) :=
  rfl

end Openings

/-- The value that a text spells, if it spells exactly one. -/
def parseChars (text : List Char) : Option Json :=
  match readValue (2 * text.length + 2) 127 text with
  | some (value, rest) => if (skipBlanks rest).isEmpty then some value else none
  | none => none

def parse (text : String) : Option Json :=
  parseChars text.toList

end DocSurvey.Json
