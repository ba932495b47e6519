/-! Path patterns and what they match. A pattern matches the bytes of a whole path; ASCII letters
match in either case. A slash is matched by a slash, by a class that it belongs to and by two
stars, but by no other part.
-/

namespace DocSurvey.Glob

/-- A part of a pattern. -/
inductive Token where
  /-- The bytes of a character. -/
  | literal (bytes : List UInt8)
  /-- One byte. -/
  | any
  /-- Bytes within a component. -/
  | zeroOrMore
  /-- Leading components, or none. -/
  | leading
  /-- What lies below a component. -/
  | trailing
  /-- A slash, or components between two slashes. -/
  | spanning
  /-- One byte that is in one of the ranges, or in none if the class is negated. -/
  | class (negated : Bool) (ranges : List (UInt8 × UInt8))
  /-- Any one of the branches. -/
  | alternates (branches : List (List Token))
  deriving Repr, Inhabited

def bytesOf (c : Char) : List UInt8 := String.utf8EncodeChar c

def slash : UInt8 := '/'.toUInt8

/-- The byte in the other case, if it is an ASCII letter. -/
def otherCase (byte : UInt8) : UInt8 :=
  if 'a'.toUInt8 ≤ byte && byte ≤ 'z'.toUInt8 then byte - 32
  else if 'A'.toUInt8 ≤ byte && byte ≤ 'Z'.toUInt8 then byte + 32
  else byte

/-- The bytes are the same up to the case of ASCII letters. -/
def sameLetter (left right : UInt8) : Bool :=
  left == right || otherCase left == right

def inRanges (ranges : List (UInt8 × UInt8)) (byte : UInt8) : Bool :=
  ranges.any fun (first, last) => first ≤ byte && byte ≤ last

def inClass (negated : Bool) (ranges : List (UInt8 × UInt8)) (byte : UInt8) : Bool :=
  (inRanges ranges byte || inRanges ranges (otherCase byte)) != negated

def isSlash (byte : UInt8) : Bool := byte == slash

/-- The places before, between and behind the bytes of a text, each with whether it is reached. -/
abbrev Reached := List Bool

/-- One byte further, where it is accepted. -/
def onward (accepts : UInt8 → Bool) (text : List UInt8) (reached : Reached) : Reached :=
  false :: List.zipWith (fun byte here => here && accepts byte) text reached

/-- Any number of bytes further, as long as they are accepted. The flag says that the first place is
reached already.
-/
def spreadFrom (accepts : UInt8 → Bool) (before : Bool) : List UInt8 → Reached → Reached
  | byte :: text, here :: reached =>
      (here || before) :: spreadFrom accepts ((here || before) && accepts byte) text reached
  | [], here :: _ => [here || before]
  | _, [] => []

/-- Any number of bytes further, as long as they are accepted. -/
def spread (accepts : UInt8 → Bool) (text : List UInt8) (reached : Reached) : Reached :=
  spreadFrom accepts false text reached

def either (left right : Reached) : Reached :=
  List.zipWith (· || ·) left right

/-- Behind any slash further on. -/
def behindSlashes (text : List UInt8) (reached : Reached) : Reached :=
  onward isSlash text (spread (fun _ => true) text reached)

mutual

/-- The part stands for no text at all: it has alternatives, but all of them are empty. -/
def Token.isVoid : Token → Bool
  | .alternates branches => allVoid branches
  | _ => false

/-- All parts stand for no text. -/
def isVoidSequence : List Token → Bool
  | [] => true
  | token :: rest => token.isVoid && isVoidSequence rest

/-- No branch stands for any text. -/
def allVoid : List (List Token) → Bool
  | [] => true
  | branch :: rest => isVoidSequence branch && allVoid rest

end

mutual

/-- The places that are reached behind a part. Empty branches do not count, and where all branches
are empty they stand for the empty text.
-/
def Token.after (text : List UInt8) (reached : Reached) : Token → Reached
  | .literal bytes =>
      bytes.foldl (fun reached byte => onward (sameLetter byte) text reached) reached
  | .any => onward (fun byte => !isSlash byte) text reached
  | .zeroOrMore => spread (fun byte => !isSlash byte) text reached
  | .leading => either reached (behindSlashes text reached)
  | .trailing => spread (fun _ => true) text (onward isSlash text reached)
  | .spanning =>
      let behind := onward isSlash text reached
      either behind (behindSlashes text behind)
  | .class negated ranges => onward (inClass negated ranges) text reached
  | .alternates branches =>
      if allVoid branches then reached
      else afterBranches text reached (reached.map fun _ => false) branches

/-- The places that are reached behind parts that follow one another. -/
def afterSequence (text : List UInt8) (reached : Reached) : List Token → Reached
  | [] => reached
  | token :: rest => afterSequence text (token.after text reached) rest

/-- The places that are reached behind one of the branches, beside those that are known. -/
def afterBranches (text : List UInt8) (reached known : Reached) : List (List Token) → Reached
  | [] => known
  | branch :: rest =>
      let found := if isVoidSequence branch then known
        else either known (afterSequence text reached branch)
      afterBranches text reached found rest

end

/-- The pattern leads from the start of a path to its end. A pattern that is nothing but leading
components matches every path.
-/
def isMatch (pattern : List Token) (path : String) : Bool :=
  match pattern with
  | [.leading] => true
  | _ =>
      let text := path.toList.flatMap bytesOf
      (afterSequence text (true :: text.map fun _ => false) pattern).getLastD false

end DocSurvey.Glob
