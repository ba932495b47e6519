import DocSurvey.Text.LetterRanges
import DocSurvey.Text.MarkRanges
import DocSurvey.Text.CaseRanges
import DocSurvey.Text.UnprintableRanges

/-! The classes of characters that the checks of this library ask for: white space, the characters
of a word, the characters of an identifier, and the classes behind case mapping and quoting.
-/

namespace DocSurvey.Text

open Category

def isWhiteSpace (c : Char) : Bool :=
  covers [(0x09, 0x0D), (0x20, 0x20), (0x85, 0x85), (0xA0, 0xA0), (0x1680, 0x1680),
    (0x2000, 0x200A), (0x2028, 0x2029), (0x202F, 0x202F), (0x205F, 0x205F), (0x3000, 0x3000)]
    c.toNat

def isAsciiLetter (c : Char) : Bool :=
  ('a' ≤ c && c ≤ 'z') || ('A' ≤ c && c ≤ 'Z')

def isAsciiDigit (c : Char) : Bool :=
  '0' ≤ c && c ≤ '9'

def isHexDigit (c : Char) : Bool :=
  isAsciiDigit c || ('a' ≤ c && c ≤ 'f') || ('A' ≤ c && c ≤ 'F')

def hexValue (c : Char) : Nat :=
  if isAsciiDigit c then c.toNat - '0'.toNat
  else if 'a' ≤ c && c ≤ 'f' then c.toNat - 'a'.toNat + 10
  else c.toNat - 'A'.toNat + 10

def isAsciiWord (c : Char) : Bool :=
  isAsciiLetter c || isAsciiDigit c || c == '_'

/-- A character of a word: alphabetic characters, marks, decimal digits, connectors and the two
join controls. -/
def isWordChar (c : Char) : Bool :=
  if c.toNat < 128 then isAsciiWord c
  else
    covers letter c.toNat || covers nonspacing c.toNat || covers spacing c.toNat
      || covers digit c.toNat || covers connector c.toNat
      || covers [(0x200C, 0x200D), (0x24B6, 0x24E9), (0x1F130, 0x1F149), (0x1F150, 0x1F169),
          (0x1F170, 0x1F189)] c.toNat

/-- Letters that an identifier must not hold because their normal form is no identifier. -/
def unstableLetters : List CharRange :=
  [(0x37A, 0x37A), (0x2E2F, 0x2E2F), (0xFC5E, 0xFC63), (0xFDFA, 0xFDFB), (0xFE70, 0xFE70),
   (0xFE72, 0xFE72), (0xFE74, 0xFE74), (0xFE76, 0xFE76), (0xFE78, 0xFE78), (0xFE7A, 0xFE7A),
   (0xFE7C, 0xFE7C), (0xFE7E, 0xFE7E)]

/-- The property XID_Start, and the underscore. -/
def isIdentifierStart (c : Char) : Bool :=
  if c.toNat < 128 then isAsciiLetter c || c == '_'
  else
    (covers letter c.toNat
        && !covers unstableLetters c.toNat
        && !covers [(0xE33, 0xE33), (0xEB3, 0xEB3), (0xFF9E, 0xFF9F)] c.toNat)
      || covers [(0x1885, 0x1886), (0x2118, 0x2118), (0x212E, 0x212E)] c.toNat

/-- The property XID_Continue. -/
def isIdentifierChar (c : Char) : Bool :=
  if c.toNat < 128 then isAsciiWord c
  else
    ((covers letter c.toNat || covers nonspacing c.toNat && !covers enclosing c.toNat
          || covers spacing c.toNat || covers digit c.toNat || covers connector c.toNat)
        && !covers unstableLetters c.toNat)
      || covers [(0xB7, 0xB7), (0x387, 0x387), (0x1369, 0x1371), (0x19DA, 0x19DA),
          (0x2118, 0x2118), (0x212E, 0x212E)] c.toNat
where
  /-- Marks that enclose, which no identifier holds. -/
  enclosing : List CharRange :=
    [(0x488, 0x489), (0x1ABE, 0x1ABE), (0x20DD, 0x20E0), (0x20E2, 0x20E4), (0xA670, 0xA672)]

def isCased (c : Char) : Bool :=
  if c.toNat < 128 then isAsciiLetter c else covers cased c.toNat

def isCaseIgnorable (c : Char) : Bool :=
  covers caseIgnorable c.toNat || covers nonspacing c.toNat

/-- Whether quoted text shows the character itself. -/
def isPrintable (c : Char) : Bool :=
  !covers unprintable c.toNat && !covers graphemeExtend c.toNat && !covers nonspacing c.toNat

end DocSurvey.Text
