import DocSurvey.Python.Number
import DocSurvey.Python.Parser

/-! String literals of Python: the quotes that open and close them, escapes, and the replacement
fields of formatted strings.
-/

namespace DocSurvey.Python

open DocSurvey.Text

/-- How a string is written: the characters its flags allow, and the quotes around it. -/
structure QuoteStyle where
  formatted : Bool
  raw : Bool
  bytes : Bool
  quote : Char
  tripled : Bool
  deriving Repr, DecidableEq, Inhabited

namespace QuoteStyle

def marks (style : QuoteStyle) : List Char :=
  List.replicate (if style.tripled then 3 else 1) style.quote

/-- The style of the string that opens a text, and the length of its flags and quotes. A backtick
is never tripled.
-/
def ofText? (text : List Char) : Option (QuoteStyle × Nat) :=
  let flags := text.takeWhile isStringFlag
  match text.drop flags.length with
  | quote :: rest =>
      if isQuote quote then
        let style : QuoteStyle :=
          { formatted := flags.any fun c => c == 'f' || c == 'F'
            raw := flags.any fun c => c == 'r' || c == 'R'
            bytes := flags.any fun c => c == 'b' || c == 'B'
            quote
            tripled := quote != '\x60' && [quote, quote].isPrefixOf rest }
        some (style, flags.length + style.marks.length)
      else
        none
  | [] => none

end QuoteStyle

/-- So many characters of the class start the text. -/
def startsWithMany (isMember : Char → Bool) (count : Nat) (text : List Char) : Bool :=
  (text.take count).length == count && (text.take count).all isMember

def escapeLength (text : List Char) : Nat :=
  match text with
  | '\n' :: _ => 1
  | '\r' :: '\n' :: _ => 2
  | 'u' :: digits => if startsWithMany isHexDigit 4 digits then 5 else 0
  | 'U' :: digits => if startsWithMany isHexDigit 8 digits then 9 else 0
  | 'x' :: digits => if startsWithMany isHexDigit 2 digits then 3 else 0
  | 'N' :: '{' :: named =>
      let name := named.takeWhile (· != '}')
      if name.isEmpty || name.length == named.length then 0 else name.length + 3
  | c :: _ =>
      if isAsciiDigit c then
        ((text.take 3).takeWhile isAsciiDigit).length
      else if ['\'', '"', 'a', 'b', 'f', 'n', 'r', 't', 'v', '\\'].contains c then
        1
      else
        0
  | [] => 0

def lineBreakLength : List Char → Nat
  | '\r' :: '\n' :: _ => 2
  | '\r' :: _ => 1
  | '\n' :: _ => 1
  | _ => 0

/-- One step through the body of a string. -/
inductive BodyStep where
  /-- The string ends here. -/
  | close
  /-- A replacement field starts here. -/
  | field
  /-- So many characters belong to the body; a chunk of the body ends with them or goes on. -/
  | pass (count : Nat) (endsChunk : Bool)
  deriving Repr, DecidableEq, Inhabited

/-- The next step through a body. Inside single quotes a line break may only open a chunk, and a
chunk opens behind the quotes, an escape or a field.
-/
def bodyStep (style : QuoteStyle) (chunkOpen : Bool) (text : List Char) : Option BodyStep :=
  match text with
  | [] => none
  | c :: rest =>
      if style.formatted && (c == '{' || c == '}') then
        if rest.head? == some c then
          some (.pass 2 true)
        else if c == '{' then
          some .field
        else
          none
      else if c == '\\' then
        if style.raw then
          let quoted := suffixLength [style.quote, '\\'] rest
          some (.pass (1 + quoted + lineBreakLength (rest.drop quoted)) false)
        else if style.bytes && suffixLength ['N', 'u', 'U'] rest == 1 then
          some (.pass 3 false)
        else
          some (.pass (1 + escapeLength rest) true)
      else if style.marks.isPrefixOf text then
        some .close
      else if c == '\n' && chunkOpen && !style.tripled then
        none
      else
        some (.pass 1 false)

/-- Takes one step through the body of a string. What is passed on says whether the string goes on,
whether a chunk of its body is open, and whether it holds replacement fields so far.
-/
def bodyTurn (rules : Rules) (c : Context) (style : QuoteStyle)
    : Bool × Bool × Bool → Parser (Option (Bool × Bool × Bool))
  | (going, chunkOpen, interpolated) => do
      if !going then
        return none
      match bodyStep style chunkOpen (← Parser.ahead) with
      | none => failure
      | some .close => do
          Parser.take style.marks.length
          return some (false, false, interpolated)
      | some .field => do
          let _ ← rules (.field c)
          return some (true, false, true)
      | some (.pass count endsChunk) => do
          Parser.require (((← Parser.ahead).take count).length == count)
          Parser.take count
          return some (true, !endsChunk, interpolated)

/-- The body of a string literal up to its closing quotes, and whether it holds replacement fields.
-/
def body (rules : Rules) (c : Context) (style : QuoteStyle) : Parser Bool := do
  let (_, _, interpolated) ← Parser.iterate (bodyTurn rules c style) (true, false, false)
  return interpolated

def literal (rules : Rules) (c : Context) : Parser StringLiteral := do
  let (interpolated, text) ← Parser.withText do
    let some (style, length) := QuoteStyle.ofText? (← Parser.ahead) | failure
    Parser.take length
    modify fun s => { s with inFormat := style.formatted }
    let interpolated ← body rules c style
    modify fun s => { s with inFormat := false }
    return interpolated
  return ⟨text, interpolated⟩

/-- Adjacent string literals, with the blanks behind the last one passed over. -/
def literals (rules : Rules) (c : Context) : Parser (List StringLiteral) := do
  go (← Parser.budget) []
where
  go : List Char → List StringLiteral → Parser (List StringLiteral)
    | [], _ => failure
    | _ :: budget, found => do
        let next ← literal rules c
        Parser.skip c.column c.after
        if opensString (← Parser.ahead) then
          go budget (next :: found)
        else
          pure (next :: found).reverse

end DocSurvey.Python
