import DocSurvey.Yaml.Cursor

/-! The values that single scalars of a YAML text stand for. Line breaks within a plain or a quoted
scalar fold: one becomes a space, and of several the first is dropped.
-/

namespace DocSurvey.Yaml

/-- How a scalar is written. -/
inductive ScalarStyle where
  | plain
  | quoted
  | literal
  | folded
  deriving Repr, DecidableEq, Inhabited

/-- The blanks between two parts of a scalar: those on the first line, the first line break, and the
further ones.
-/
structure Fold where
  blanks : List Char
  first : List Char
  further : List Char
  broken : Bool
  deriving Repr, Inhabited

namespace Fold

def none : Fold := ⟨[], [], [], false⟩

def text (fold : Fold) : List Char :=
  if !fold.broken then fold.blanks
  else if fold.first == ['\n'] then (if fold.further.isEmpty then [' '] else fold.further)
  else fold.first ++ fold.further

end Fold

/-- Passes over blanks and line breaks. On a later line a tab may not stand left of the column, if
one is given.
-/
def readFold (tabsFrom : Option Nat) (fold : Fold) (cursor : Cursor) : Option (Fold × Cursor) :=
  go (cursor.rest.length + 1) fold cursor
where
  go : Nat → Fold → Cursor → Option (Fold × Cursor)
    | 0, _, _ => none
    | budget + 1, fold, cursor =>
        match cursor.peek? with
        | .none => some (fold, cursor)
        | some c =>
            if isBlank c then
              if fold.broken then
                if c == '\t' && tabsFrom.any (cursor.mark.column < ·) then none
                else go budget fold (cursor.skip 1)
              else
                go budget { fold with blanks := fold.blanks ++ [c] } (cursor.skip 1)
            else if isBreak c then
              if fold.broken then
                go budget { fold with further := fold.further ++ cursor.breakText } cursor.skipLine
              else
                go budget ⟨[], cursor.breakText, [], true⟩ cursor.skipLine
            else
              some (fold, cursor)

/-- A colon ends a plain scalar if a blank follows it; inside brackets, brackets and commas do too.
-/
def endsPlain (inFlow : Bool) (text : List Char) : Bool :=
  match text with
  | [] => true
  | c :: rest =>
      isBlank c || isBreak c || (c == ':' && Cursor.startsBlank rest)
        || (inFlow && [',', '[', ']', '{', '}'].contains c)

/-- Inside brackets, a colon in a plain scalar may not stand in front of a bracket or a comma. -/
def hasStrayColon (inFlow : Bool) (text : List Char) : Bool :=
  match text with
  | ':' :: c :: _ => inFlow && [',', '?', '[', ']', '{', '}'].contains c
  | _ => false

/-- The part of a plain scalar up to the next blank, and the place behind it. -/
def readPlainPart (inFlow : Bool) (cursor : Cursor) : Option (List Char × Cursor) :=
  go (cursor.rest.length + 1) [] cursor
where
  go : Nat → List Char → Cursor → Option (List Char × Cursor)
    | 0, _, _ => none
    | budget + 1, read, cursor =>
        if hasStrayColon inFlow cursor.rest then none
        else if endsPlain inFlow cursor.rest then some (read.reverse, cursor)
        else
          match cursor.rest with
          | c :: _ => go budget (c :: read) (cursor.skip 1)
          | [] => some (read.reverse, cursor)

/-- A plain scalar whose further lines stand right of the indentation: its value, the place behind
it, and whether it ends with a line break.
-/
def readPlain (inFlow : Bool) (indent : Nat) (cursor : Cursor)
    : Option (List Char × Cursor × Bool) :=
  go (cursor.rest.length + 1) [] Fold.none cursor
where
  go : Nat → List Char → Fold → Cursor → Option (List Char × Cursor × Bool)
    | 0, _, _, _ => none
    | budget + 1, value, fold, cursor =>
        if cursor.isAtDocumentMark || cursor.isAt '#' then some (value, cursor, fold.broken)
        else do
          let (part, behind) ← readPlainPart inFlow cursor
          let value := if part.isEmpty then value else value ++ fold.text ++ part
          let fold := if part.isEmpty then fold else Fold.none
          if behind.rest.isEmpty || !behind.isAtBlank then
            some (value, behind, fold.broken)
          else
            let (fold, next) ← readFold (some indent) fold behind
            if !inFlow && next.mark.column < indent then
              some (value, next, fold.broken)
            else
              go budget value fold next

def escapes : List (Char × Char) :=
  [('0', '\x00'), ('a', '\x07'), ('b', '\x08'), ('t', '\t'), ('\t', '\t'), ('n', '\n'),
    ('v', '\x0b'), ('f', '\x0c'), ('r', '\r'), ('e', '\x1b'), (' ', ' '), ('"', '"'), ('/', '/'),
    ('\\', '\\'), ('N', '\u0085'), ('_', '\u00a0'), ('L', '\u2028'), ('P', '\u2029')]

/-- The number of digits behind a letter that stands for a character's number. -/
def codeLength : Char → Option Nat
  | 'x' => some 2
  | 'u' => some 4
  | 'U' => some 8
  | _ => none

def charOfHex? (digits : List Char) : Option Char :=
  let code := digits.foldl (fun n c => 16 * n + Text.hexValue c) 0
  if digits.all Text.isHexDigit && code.isValidChar then some (Char.ofNat code) else none

/-- What a backslash and the text behind it stand for, and their length. -/
def readEscape (text : List Char) : Option (Char × Nat) :=
  match text with
  | [] => none
  | c :: rest =>
      match codeLength c with
      | some length =>
          let digits := rest.take length
          if digits.length == length then (charOfHex? digits).map (·, length + 2) else none
      | none => (escapes.lookup c).map (·, 2)

/-- The part of a quoted scalar up to the next blank or the closing quote, the place behind it, and
whether a line break was joined away at its end.
-/
def readQuotedPart (quote : Char) (cursor : Cursor) : Option (List Char × Cursor × Bool) :=
  go (cursor.rest.length + 1) [] cursor
where
  go : Nat → List Char → Cursor → Option (List Char × Cursor × Bool)
    | 0, _, _ => none
    | budget + 1, read, cursor =>
        match cursor.rest with
        | [] => some (read.reverse, cursor, false)
        | c :: rest =>
            if isBlank c || isBreak c then some (read.reverse, cursor, false)
            else if quote == '\'' && ['\'', '\''].isPrefixOf cursor.rest then
              go budget ('\'' :: read) (cursor.skip 2)
            else if c == quote then some (read.reverse, cursor, false)
            else if quote == '"' && c == '\\' then
              if rest.head?.any isBreak then
                some (read.reverse, (cursor.skip 1).skipLine, true)
              else
                match readEscape rest with
                | some (character, length) => go budget (character :: read) (cursor.skip length)
                | none => none
            else go budget (c :: read) (cursor.skip 1)

/-- A quoted scalar, from its opening quote on: its value and the place behind it. -/
def readQuoted (quote : Char) (cursor : Cursor) : Option (List Char × Cursor) :=
  go (cursor.rest.length + 1) [] (cursor.skip 1)
where
  go : Nat → List Char → Cursor → Option (List Char × Cursor)
    | 0, _, _ => none
    | budget + 1, value, cursor =>
        if cursor.isAtDocumentMark || cursor.rest.isEmpty then none
        else do
          let (part, behind, joined) ← readQuotedPart quote cursor
          let value := value ++ part
          if behind.isAt quote then
            some (value, behind.skip 1)
          else
            let start : Fold := { Fold.none with broken := joined }
            let (fold, next) ← readFold none start behind
            go budget (value ++ fold.text) next

/-- What happens to the line breaks at the end of a block scalar. -/
inductive Chomp where
  | strip
  | clip
  | keep
  deriving Repr, DecidableEq, Inhabited

def Chomp.ofChar? : Char → Option Chomp
  | '-' => some .strip
  | '+' => some .keep
  | _ => none

def indentationOf? (c : Char) : Option Nat :=
  if '1' ≤ c && c ≤ '9' then some (c.toNat - '0'.toNat) else none

/-- What stands behind the mark of a block scalar, and its length: how to chomp it, and how far it
is indented, in either order.
-/
def readHeader (text : List Char) : Chomp × Option Nat × Nat :=
  match text with
  | a :: b :: _ =>
      match Chomp.ofChar? a, indentationOf? a with
      | some chomp, _ =>
          match indentationOf? b with
          | some indent => (chomp, some indent, 2)
          | none => (chomp, none, 1)
      | none, some indent =>
          match Chomp.ofChar? b with
          | some chomp => (chomp, some indent, 2)
          | none => (.clip, some indent, 1)
      | none, none => (.clip, none, 0)
  | [a] =>
      match Chomp.ofChar? a, indentationOf? a with
      | some chomp, _ => (chomp, none, 1)
      | none, some indent => (.clip, some indent, 1)
      | none, none => (.clip, none, 0)
  | [] => (.clip, none, 0)

/-- Passes over empty lines and the indentation of the next line; where no indentation is known yet,
the deepest of these lines gives it, but at least `least`. Answers the line breaks, the indentation
and the place.
-/
def readEmptyLines (least : Nat) (indent : Option Nat) (cursor : Cursor)
    : Option (List Char × Nat × Cursor) :=
  go (cursor.rest.length + 1) [] 0 cursor
where
  go : Nat → List Char → Nat → Cursor → Option (List Char × Nat × Cursor)
    | 0, _, _, _ => none
    | budget + 1, breaks, deepest, cursor =>
        let spaces := (cursor.rest.takeWhile (· == ' ')).length
        let taken := match indent with
          | some indent => min spaces (indent - cursor.mark.column)
          | none => spaces
        let at_ := cursor.skip taken
        let deepest := max deepest at_.mark.column
        if at_.isAt '\t' && indent.all (at_.mark.column < ·) then none
        else if at_.peek?.any isBreak then
          go budget (breaks ++ at_.breakText) deepest at_.skipLine
        else
          some (breaks, indent.getD (max deepest least), at_)

/-- The lines of a block scalar, from the first one that is not empty: its value, chomped, and the
place behind it.
-/
def readBlockLines (folded : Bool) (chomp : Chomp) (least indent : Nat) (breaks : List Char)
    (cursor : Cursor) : Option (List Char × Cursor) :=
  go (cursor.rest.length + 1) [] [] breaks false cursor
where
  go : Nat → List Char → List Char → List Char → Bool → Cursor → Option (List Char × Cursor)
    | 0, _, _, _, _, _ => none
    | budget + 1, value, first, further, blankBefore, cursor =>
        if cursor.mark.column == indent && !cursor.rest.isEmpty then do
          let blankHere := cursor.peek?.any isBlank
          let joint :=
            if folded && first == ['\n'] && !blankBefore && !blankHere then
              if further.isEmpty then [' '] else []
            else first
          let line := cursor.rest.takeWhile (!isBreak ·)
          let lineEnd := cursor.skip line.length
          let behind := if lineEnd.rest.isEmpty then lineEnd else lineEnd.skipLine
          let (breaks, _, next) ← readEmptyLines least (some indent) behind
          go budget (value ++ joint ++ further ++ line) lineEnd.breakText breaks blankHere next
        else
          let kept := match chomp with
            | .strip => []
            | .clip => first
            | .keep => first ++ further
          some (value ++ kept, cursor)

/-- A block scalar, from its mark on: its value and the place behind it. The indentation is that of
the surrounding block, less than zero for none.
-/
def readBlock (folded : Bool) (surrounding : Int) (cursor : Cursor)
    : Option (List Char × Cursor) := do
  let opened := cursor.skip 1
  let (chomp, increment, length) := readHeader opened.rest
  let header := ((opened.skip length).skipWhile isBlank).skipComment
  if !header.isAtLineEnd then none
  else
    let start := if header.rest.isEmpty then header else header.skipLine
    let least := max 1 (surrounding + 1).toNat
    let indent := increment.map fun increment => (max surrounding 0).toNat + increment
    let (breaks, indent, next) ← readEmptyLines least indent start
    readBlockLines folded chomp least indent breaks next

end DocSurvey.Yaml
