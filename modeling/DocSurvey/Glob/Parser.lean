import DocSurvey.Glob.Token

/-! Reading a path pattern. Stars and question marks stand for bytes of a component, brackets for a
class of bytes and braces for alternatives; two stars span components where they are a component of
their own; a backslash takes its meaning from the character behind it.
-/

namespace DocSurvey.Glob

/-- Why a text is no pattern. -/
inductive PatternError where
  | unclosedClass
  | invalidRange (first last : Char)
  | unclosedAlternates
  | unopenedAlternates
  | danglingEscape
  deriving Repr, DecidableEq, Inhabited

def PatternError.message : PatternError → String
  | .unclosedClass => "unclosed character class; missing ']'"
  | .invalidRange first last => s!"invalid range; '{first}' > '{last}'"
  | .unclosedAlternates =>
      "unclosed alternate group; missing '\x7d' (maybe escape '\x7b' with '[\x7b]'?)"
  | .unopenedAlternates =>
      "unopened alternate group; missing '\x7b' (maybe escape '\x7d' with '[\x7d]'?)"
  | .danglingEscape => "dangling '\\'"

/-- The ranges of bytes that a range of characters stands for: each byte stands for itself, save
that the last byte of the first character reaches to the first byte of the last one.
-/
def byteRanges (first last : Char) : List (UInt8 × UInt8) :=
  let alone (bytes : List UInt8) : List (UInt8 × UInt8) := bytes.map fun byte => (byte, byte)
  let left := bytesOf first
  let right := bytesOf last
  if first == last then
    alone left
  else
    alone left.dropLast ++ [(left.getLastD 0, right.headD 0)] ++ alone right.tail

/-- What is read of a class: its ranges so far, the last one first, whether a dash waits for the end
of a range, and whether anything was read.
-/
structure ClassState where
  ranges : List (Char × Char)
  inRange : Bool
  first : Bool
  deriving Repr, Inhabited

/-- The class with another character in it. A dash makes a range of its neighbours. -/
def ClassState.add (state : ClassState) (c : Char) : Except PatternError ClassState :=
  if state.inRange then
    match state.ranges with
    | (low, _) :: rest =>
        if c < low then .error (.invalidRange low c) else .ok ⟨(low, c) :: rest, false, false⟩
    | [] => .ok ⟨[(c, c)], false, false⟩
  else if c == '-' && !state.first then
    .ok { state with inRange := true, first := false }
  else
    .ok ⟨(c, c) :: state.ranges, false, false⟩

/-- Reads a class up to its closing bracket, which may also be its first character. -/
def readClass (state : ClassState)
    : List Char → Except PatternError (List (Char × Char) × List Char)
  | [] => .error .unclosedClass
  | c :: rest =>
      if c == ']' && !state.first then
        let ranges := if state.inRange then ('-', '-') :: state.ranges else state.ranges
        .ok (ranges.reverse, rest)
      else
        match state.add c with
        | .ok next => readClass next rest
        | .error cause => .error cause

/-- Alternatives being read, with what stands before them. Branches and parts are kept with the last
one first.
-/
structure Group where
  before : List Token
  branches : List (List Token)
  deriving Repr, Inhabited

/-- A pattern being read: the groups that are open, the innermost first, the parts of the current
branch, the last one first, the character read last, and the text that is left.
-/
structure Reading where
  groups : List Group
  current : List Token
  previous : Option Char
  rest : List Char
  deriving Repr, Inhabited

namespace Reading

/-- With another part in the current branch. -/
def push (reading : Reading) (token : Token) : Reading :=
  { reading with current := token :: reading.current }

/-- With the next character taken. -/
def advance (reading : Reading) : Reading :=
  match reading.rest with
  | c :: rest => { reading with previous := some c, rest }
  | [] => reading

/-- A component ends here: at a slash, at the end of the text, or at the end of a branch. -/
def atSlash (reading : Reading) : Bool :=
  reading.rest.head? == some '/'

/-- Two stars, both taken, with the character before them. They span components if they stand
between slashes or at an end.
-/
def doubleStar (reading : Reading) (before : Option Char) : Reading :=
  let plain := (reading.push .zeroOrMore).push .zeroOrMore
  if reading.current.isEmpty then
    if reading.rest.isEmpty || reading.atSlash then (reading.push .leading).advance else plain
  else if before != some '/'
      && (reading.groups.isEmpty || (before != some ',' && before != some '{')) then
    plain
  else
    let branchEnds := !reading.groups.isEmpty
      && (reading.rest.head? == some ',' || reading.rest.head? == some '}')
    let replaceLast (token : Token) (reading : Reading) : Reading :=
      match reading.current with
      | .leading :: rest => { reading with current := .leading :: rest }
      | .trailing :: rest => { reading with current := .trailing :: rest }
      | _ :: rest => { reading with current := token :: rest }
      | [] => { reading with current := [token] }
    if reading.rest.isEmpty || branchEnds then
      replaceLast .trailing reading
    else if reading.atSlash then
      (replaceLast .spanning reading).advance
    else
      plain

/-- With one more character read, and what belongs to it. -/
def step (reading : Reading) (c : Char) : Except PatternError Reading :=
  let taken := reading.advance
  match c with
  | '?' => .ok (taken.push .any)
  | '*' =>
      if taken.rest.head? == some '*' then
        .ok (taken.advance.doubleStar reading.previous)
      else
        .ok (taken.push .zeroOrMore)
  | '[' =>
      let negated := taken.rest.head?.any fun mark => mark == '!' || mark == '^'
      let body := if negated then taken.rest.drop 1 else taken.rest
      match readClass ⟨[], false, true⟩ body with
      | .ok (ranges, rest) =>
          let ranges := ranges.flatMap fun (first, last) => byteRanges first last
          .ok ({ taken with previous := some ']', rest }.push (.class negated ranges))
      | .error cause => .error cause
  | '{' => .ok { taken with groups := ⟨taken.current, []⟩ :: taken.groups, current := [] }
  | '}' =>
      match taken.groups with
      | [] => .error .unopenedAlternates
      | group :: groups =>
          let branches := (taken.current :: group.branches).reverse.map List.reverse
          .ok { taken with groups, current := .alternates branches :: group.before }
  | ',' =>
      match taken.groups with
      | [] => .ok (taken.push (.literal (bytesOf ',')))
      | group :: groups =>
          let group := { group with branches := taken.current :: group.branches }
          .ok { taken with groups := group :: groups, current := [] }
  | '\\' =>
      match taken.rest with
      | [] => .error .danglingEscape
      | escaped :: _ => .ok (taken.advance.push (.literal (bytesOf escaped)))
  | c => .ok (taken.push (.literal (bytesOf c)))

end Reading

/-- Reads the rest of a pattern. Each step takes a character, which bounds their number. -/
def readFrom : Nat → Reading → Except PatternError (List Token)
  | 0, _ => .error .unclosedAlternates
  | budget + 1, reading =>
      match reading.rest with
      | [] =>
          if reading.groups.isEmpty then .ok reading.current.reverse else .error .unclosedAlternates
      | c :: _ =>
          match reading.step c with
          | .ok next => readFrom budget next
          | .error cause => .error cause

def read (pattern : String) : Except PatternError (List Token) :=
  readFrom (pattern.length + 1) ⟨[], [], none, pattern.toList⟩

end DocSurvey.Glob
