import DocSurvey.Yaml.Scalar

/-! The tokens of a YAML text. Blocks have no brackets of their own: the indentation of what is read
opens and closes them. A key needs no mark of its own either: what turns out to be one, because a
colon follows it on the same line, gets its tokens afterwards.
-/

namespace DocSurvey.Yaml

/-- The sorts of tokens. -/
inductive TokenKind where
  | version (major minor : Nat)
  | tagHandle (handle tagPrefix : List Char)
  | documentStart
  | documentEnd
  | blockSequence
  | blockMapping
  | blockEnd
  | flowSequenceStart
  | flowSequenceEnd
  | flowMappingStart
  | flowMappingEnd
  | flowEntry
  | blockEntry
  | key
  | value
  | alias (name : List Char)
  | anchor (name : List Char)
  | tag (handle tagSuffix : List Char)
  | scalar (style : ScalarStyle) (text : List Char)
  | streamEnd
  deriving Repr, DecidableEq, Inhabited

/-- A token, where it starts and where it ends. -/
structure Token where
  kind : TokenKind
  start : Mark
  stop : Mark
  deriving Repr, Inhabited

/-- What may turn out to be a key: where it is, the number of its first token, and whether it has to
be one.
-/
structure SimpleKey where
  required : Bool
  number : Nat
  mark : Mark
  index : Nat
  deriving Repr, Inhabited

/-- A text being scanned. The indentations of open blocks are kept with the innermost one first,
less than zero for none; so are the possible keys of the open brackets, at least one, for what lies
outside of all.
-/
structure Scan where
  cursor : Cursor
  tokens : List Token
  indent : Int
  outer : List Int
  flow : Nat
  keyAllowed : Bool
  keys : List (Option SimpleKey)
  deriving Inhabited

namespace Scan

def ofText (text : List Char) : Scan where
  cursor := .ofText text
  tokens := []
  indent := -1
  outer := []
  flow := 0
  keyAllowed := true
  keys := [none]

def push (scan : Scan) (kind : TokenKind) (start stop : Mark) : Scan :=
  { scan with tokens := scan.tokens ++ [⟨kind, start, stop⟩] }

/-- With the next characters, so many, taken as a token. -/
def take (scan : Scan) (kind : TokenKind) (count : Nat) : Scan :=
  let behind := scan.cursor.skip count
  { scan.push kind scan.cursor.mark behind.mark with cursor := behind }

/-- With the possible key of the innermost brackets given up, unless it has to be one. -/
def dropKey (scan : Scan) : Option Scan :=
  match scan.keys with
  | some key :: rest => if key.required then none else some { scan with keys := none :: rest }
  | _ => some scan

/-- With what comes next as a possible key. -/
def saveKey (scan : Scan) : Option Scan :=
  if scan.keyAllowed then do
    let cleared ← scan.dropKey
    let key : SimpleKey :=
      { required := scan.flow == 0 && scan.indent == scan.cursor.mark.column
        number := scan.tokens.length
        mark := scan.cursor.mark
        index := scan.cursor.index }
    some { cleared with keys := some key :: cleared.keys.drop 1 }
  else
    some scan

/-- A key reaches so many characters at most. -/
def keyLimit : Nat := 1024

def isStale (scan : Scan) (key : SimpleKey) : Bool :=
  key.mark.line < scan.cursor.mark.line || key.index + keyLimit < scan.cursor.index

/-- With the possible keys given up that can no longer be keys. -/
def dropStale (scan : Scan) : Option Scan := do
  let keys ← scan.keys.mapM fun key? =>
    match key? with
    | some key =>
        if scan.isStale key then
          if key.required then failure else pure none
        else pure (some key)
    | none => pure none
  some { scan with keys }

/-- With a block opened that starts in the column, if it is deeper than the innermost one; its token
gets the number, or comes last.
-/
def openBlock (scan : Scan) (column : Nat) (number : Option Nat) (kind : TokenKind) (mark : Mark)
    : Scan :=
  if scan.flow == 0 && scan.indent < column then
    let token : Token := ⟨kind, mark, mark⟩
    { scan with
      tokens := scan.tokens.insertIdx (number.getD scan.tokens.length) token
      indent := column
      outer := scan.indent :: scan.outer }
  else
    scan

/-- With the blocks closed that are deeper than the column. -/
def closeBlocks (scan : Scan) (column : Int) : Scan :=
  if scan.flow == 0 then
    go scan scan.outer
  else
    scan
where
  go (scan : Scan) : List Int → Scan
    | [] => scan
    | indent :: outer =>
        if column < scan.indent then
          go { scan.push .blockEnd scan.cursor.mark scan.cursor.mark with indent, outer } outer
        else
          scan

/-- Behind blanks, comments and line breaks. A tab may stand where no key can. -/
def skipToToken (scan : Scan) : Scan :=
  go (scan.cursor.rest.length + 1) scan
where
  go : Nat → Scan → Scan
    | 0, scan => scan
    | budget + 1, scan =>
        let cursor := scan.cursor
        match cursor.peek? with
        | none => scan
        | some c =>
            if (cursor.mark.column == 0 && c == '\ufeff') || c == ' '
                || (c == '\t' && (scan.flow != 0 || !scan.keyAllowed)) then
              go budget { scan with cursor := cursor.skip 1 }
            else if c == '#' then
              go budget { scan with cursor := cursor.skipComment }
            else if isBreak c then
              go budget
                { scan with
                  cursor := cursor.skipLine
                  keyAllowed := scan.keyAllowed || scan.flow == 0 }
            else
              scan

/-- With all blocks closed and no key possible, as at the end of a document. -/
def closeDocument (scan : Scan) : Option Scan := do
  let cleared ← (scan.closeBlocks (-1)).dropKey
  some { cleared with keyAllowed := false }

/-- With the end of the text as the last token. It stands on a line of its own. -/
def finish (scan : Scan) : Option Scan := do
  let mark := scan.cursor.mark
  let mark := if mark.column == 0 then mark else ⟨mark.line + 1, 0⟩
  let closed ← { scan with cursor := { scan.cursor with mark } }.closeDocument
  some (closed.push .streamEnd mark mark)

def readNumber (text : List Char) : Option (Nat × List Char) :=
  let digits := text.takeWhile Text.isAsciiDigit
  if digits.isEmpty || 9 < digits.length then none
  else some (digits.foldl (fun n c => 10 * n + (c.toNat - '0'.toNat)) 0, text.drop digits.length)

/-- The characters of the addresses that tags abbreviate; commas and square brackets only where the
address is written out.
-/
def isAddressChar (whole : Bool) (c : Char) : Bool :=
  isNameChar c || [';', '/', '?', ':', '@', '&', '=', '+', '$', '.', '!', '~', '*', '\'', '(', ')',
    '%'].contains c || (whole && [',', '[', ']'].contains c)

/-- The bytes of an address, in which a percent sign and two digits may stand for a byte. -/
def addressBytes : List Char → Option (List UInt8)
  | [] => some []
  | '%' :: high :: low :: rest => do
      if Text.isHexDigit high && Text.isHexDigit low then
        return (16 * Text.hexValue high + Text.hexValue low).toUInt8 :: (← addressBytes rest)
      else
        none
  | '%' :: _ => none
  | c :: rest => return c.toNat.toUInt8 :: (← addressBytes rest)

/-- The address at the start of a text, and how long it is there. -/
def readAddress (whole : Bool) (text : List Char) : Option (List Char × Nat) := do
  let written := text.takeWhile (isAddressChar whole)
  let address ← String.fromUTF8? ⟨(← addressBytes written).toArray⟩
  return (address.toList, written.length)

/-- The handle of a tag: an exclamation mark, or a name between two of them. -/
def readHandle (text : List Char) : Option (List Char × List Char) :=
  match text with
  | '!' :: rest =>
      let name := rest.takeWhile isNameChar
      match rest.drop name.length with
      | '!' :: behind => some (['!'] ++ name ++ ['!'], behind)
      | behind => some (['!'] ++ name, behind)
  | _ => none

/-- The directive behind a percent sign. -/
def readDirective (text : List Char) : Option (TokenKind × List Char) := do
  let name := text.takeWhile isNameChar
  let behind := text.drop name.length
  let argument := behind.dropWhile isBlank
  if !(behind.head?.any isBlank) then none
  else if name == "YAML".toList then
    let (major, rest) ← readNumber argument
    match rest with
    | '.' :: rest =>
        let (minor, rest) ← readNumber rest
        some (.version major minor, rest)
    | _ => none
  else if name == "TAG".toList then
    let (handle, rest) ← readHandle argument
    let value := rest.dropWhile isBlank
    let (start, length) ← readAddress true value
    if rest.head?.any isBlank && length != 0
        && (handle == ['!'] || handle.getLast? == some '!') then
      some (.tagHandle handle start, value.drop length)
    else none
  else none

def scanDirective (scan : Scan) : Option Scan := do
  let closed ← scan.closeDocument
  let line := closed.cursor.rest.drop 1
  let (kind, behind) ← readDirective line
  let scanned := closed.take kind (1 + (line.length - behind.length))
  let next := (scanned.cursor.skipWhile isBlank).skipComment
  if next.isAtLineEnd then
    some { scanned with cursor := if next.rest.isEmpty then next else next.skipLine }
  else none

def scanName (scan : Scan) (kind : List Char → TokenKind) : Option Scan := do
  let saved ← scan.saveKey
  let name := (saved.cursor.rest.drop 1).takeWhile isNameChar
  let behind := saved.cursor.rest.drop (1 + name.length)
  let ends := Cursor.startsBlank behind
    || behind.head?.any ['?', ':', ',', ']', '}', '%', '@', '\x60'].contains
  if name.isEmpty || !ends then none
  else some { saved.take (kind name) (1 + name.length) with keyAllowed := false }

def readTag (text : List Char) : Option (List Char × List Char × Nat) :=
  match text with
  | '!' :: '<' :: rest =>
      match readAddress true rest with
      | some (address, length) =>
          if length != 0 && rest[length]? == some '>' then some ([], address, length + 3) else none
      | none => none
  | _ => do
      let (handle, behind) ← readHandle text
      let (address, width) ← readAddress false behind
      let length := handle.length + width
      if 1 < handle.length && handle.getLast? == some '!' then
        if address.isEmpty then none else some (handle, address, length)
      else
        let address := handle.drop 1 ++ address
        if address.isEmpty then some ([], ['!'], length) else some (['!'], address, length)

def scanTag (scan : Scan) : Option Scan := do
  let saved ← scan.saveKey
  let (handle, tagSuffix, length) ← readTag saved.cursor.rest
  let scanned := saved.take (.tag handle tagSuffix) length
  if scanned.cursor.isAtBlank || (scan.flow != 0 && scanned.cursor.isAt ',') then
    some { scanned with keyAllowed := false }
  else none

def scanBlockScalar (scan : Scan) (style : ScalarStyle) : Option Scan := do
  let cleared ← scan.dropKey
  let (text, behind) ← readBlock (style == .folded) cleared.indent cleared.cursor
  let scanned := cleared.push (.scalar style text) cleared.cursor.mark behind.mark
  some { scanned with cursor := behind, keyAllowed := true }

def scanQuoted (scan : Scan) (quote : Char) : Option Scan := do
  let saved ← scan.saveKey
  let (text, behind) ← readQuoted quote saved.cursor
  let scanned := saved.push (.scalar .quoted text) saved.cursor.mark behind.mark
  some { scanned with cursor := behind, keyAllowed := false }

def scanPlain (scan : Scan) : Option Scan := do
  let saved ← scan.saveKey
  let (text, behind, broken) ←
    readPlain (saved.flow != 0) (saved.indent + 1).toNat saved.cursor
  let scanned := saved.push (.scalar .plain text) saved.cursor.mark behind.mark
  some { scanned with cursor := behind, keyAllowed := broken }

def scanOpening (scan : Scan) (kind : TokenKind) : Option Scan := do
  let saved ← scan.saveKey
  let scanned := saved.take kind 1
  some
    { scanned with flow := scanned.flow + 1, keys := none :: scanned.keys, keyAllowed := true }

def scanClosing (scan : Scan) (kind : TokenKind) : Option Scan := do
  let cleared ← scan.dropKey
  let outside :=
    if cleared.flow == 0 then cleared
    else { cleared with flow := cleared.flow - 1, keys := cleared.keys.drop 1 }
  some { outside.take kind 1 with keyAllowed := false }

def scanFlowEntry (scan : Scan) : Option Scan := do
  let cleared ← scan.dropKey
  some { cleared.take .flowEntry 1 with keyAllowed := true }

def scanBlockEntry (scan : Scan) : Option Scan := do
  if scan.flow == 0 && !scan.keyAllowed then none
  else
    let mark := scan.cursor.mark
    let cleared ← (scan.openBlock mark.column none .blockSequence mark).dropKey
    some { cleared.take .blockEntry 1 with keyAllowed := true }

def scanKey (scan : Scan) : Option Scan := do
  if scan.flow == 0 && !scan.keyAllowed then none
  else
    let mark := scan.cursor.mark
    let cleared ← (scan.openBlock mark.column none .blockMapping mark).dropKey
    some { cleared.take .key 1 with keyAllowed := cleared.flow == 0 }

/-- The colon of a value. What may be a key becomes one. -/
def scanValue (scan : Scan) : Option Scan :=
  match scan.keys with
  | some key :: rest =>
      let keyed := { scan with
        tokens := scan.tokens.insertIdx key.number ⟨.key, key.mark, key.mark⟩
        keys := none :: rest }
      let opened := keyed.openBlock key.mark.column (some key.number) .blockMapping key.mark
      some { opened.take .value 1 with keyAllowed := false }
  | _ =>
      if scan.flow == 0 && !scan.keyAllowed then none
      else
        let mark := scan.cursor.mark
        let opened := scan.openBlock mark.column none .blockMapping mark
        some { opened.take .value 1 with keyAllowed := opened.flow == 0 }

def indicators : List Char :=
  ['-', '?', ':', ',', '[', ']', '{', '}', '#', '&', '*', '!', '|', '>', '\'', '"', '%', '@',
    '\x60']

/-- A plain scalar can start here. A dash starts one unless a blank follows; outside of brackets so
do a question mark and a colon. Where a key can be, the text may start with a tab, which starts
none.
-/
def startsPlain (inFlow : Bool) (text : List Char) : Bool :=
  match text with
  | [] => false
  | c :: rest =>
      (!Cursor.startsBlank text && !indicators.contains c)
        || (c == '-' && !(rest.head?.any isBlank))
        || (!inFlow && (c == '?' || c == ':') && !Cursor.startsBlank rest)

def scanToken (scan : Scan) : Option Scan :=
  let cursor := scan.cursor
  let inFlow := scan.flow != 0
  let blankNext := Cursor.startsBlank (cursor.rest.drop 1)
  match cursor.peek? with
  | none => none
  | some c =>
      if cursor.mark.column == 0 && c == '%' then scan.scanDirective
      else if cursor.isAtIndicator "---" then
        scan.closeDocument.map fun closed => closed.take .documentStart 3
      else if cursor.isAtIndicator "..." then
        scan.closeDocument.map fun closed => closed.take .documentEnd 3
      else if c == '[' then scan.scanOpening .flowSequenceStart
      else if c == '{' then scan.scanOpening .flowMappingStart
      else if c == ']' then scan.scanClosing .flowSequenceEnd
      else if c == '}' then scan.scanClosing .flowMappingEnd
      else if c == ',' then scan.scanFlowEntry
      else if c == '-' && blankNext then scan.scanBlockEntry
      else if c == '?' && (inFlow || blankNext) then scan.scanKey
      else if c == ':' && (inFlow || blankNext) then scan.scanValue
      else if c == '*' then scan.scanName .alias
      else if c == '&' then scan.scanName .anchor
      else if c == '!' then scan.scanTag
      else if c == '|' && !inFlow then scan.scanBlockScalar .literal
      else if c == '>' && !inFlow then scan.scanBlockScalar .folded
      else if c == '\'' || c == '"' then scan.scanQuoted c
      else if startsPlain inFlow cursor.rest then scan.scanPlain
      else none

/-- One token further, with the blocks closed that end in front of it; with the end of the text, if
no token is left.
-/
def step (scan : Scan) : Option (Scan × Bool) := do
  let fresh ← scan.skipToToken.dropStale
  let closed := fresh.closeBlocks fresh.cursor.mark.column
  if closed.cursor.rest.isEmpty then
    some (← closed.finish, true)
  else
    some (← closed.scanToken, false)

end Scan

/-- The tokens of a text; none if it cannot be taken apart. -/
def tokens? (text : List Char) : Option (List Token) :=
  if text.all isAllowed then
    go (text.length + 2) (.ofText text)
  else
    none
where
  go : Nat → Scan → Option (List Token)
    | 0, _ => none
    | budget + 1, scan =>
        match scan.step with
        | none => none
        | some (final, true) => some final.tokens
        | some (next, false) => go budget next

end DocSurvey.Yaml
