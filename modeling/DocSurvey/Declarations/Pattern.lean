import DocSurvey.Text.CharClass

/-! Patterns that stand for declarations in a text, and how many places match one. A pattern is read
from left to right without trying again: no class that repeats shares a character with what may
follow it.
-/

namespace DocSurvey

open DocSurvey.Text

/-- A part of a pattern. -/
inductive PatternStep where
  /-- The characters themselves. -/
  | exactly (characters : List Char)
  /-- Characters of the class, as many as there are, but at least so many. -/
  | run (least : Nat) (isMember : Char → Bool)
  /-- The shortest text that ends with the characters. -/
  | upTo (characters : List Char)

/-- Parts that follow one another. -/
abbrev Pattern := List PatternStep

/-- The length of the shortest start of a text that ends with the characters. -/
def lengthUpTo (characters : List Char) : List Char → Option Nat
  | [] => if characters.isEmpty then some 0 else none
  | c :: rest =>
      if characters.isPrefixOf (c :: rest) then
        some characters.length
      else
        (lengthUpTo characters rest).map (· + 1)

/-- How much of the text's start a part takes. -/
def PatternStep.length? (text : List Char) : PatternStep → Option Nat
  | .exactly characters => if characters.isPrefixOf text then some characters.length else none
  | .run least isMember =>
      let length := (text.takeWhile isMember).length
      if least ≤ length then some length else none
  | .upTo characters => lengthUpTo characters text

namespace Pattern

/-- How much of the text's start the pattern takes. -/
def length? : Pattern → List Char → Option Nat
  | [], _ => some 0
  | step :: rest, text => do
      let first ← step.length? text
      let others ← length? rest (text.drop first)
      return first + others

/-- The places where the pattern matches, counted from the left so that none shares a character with
the one before it. The first characters, so many as are given, belong to a place already counted.
-/
def countFrom (pattern : Pattern) (taken : Nat) : List Char → Nat
  | [] => 0
  | c :: rest =>
      match taken with
      | n + 1 => pattern.countFrom n rest
      | 0 =>
          match length? pattern (c :: rest) with
          | some (n + 1) => 1 + pattern.countFrom n rest
          | _ => pattern.countFrom 0 rest

/-- The places where the pattern matches, none of which shares a character with another. -/
def count (pattern : Pattern) (text : List Char) : Nat :=
  pattern.countFrom 0 text

def word : PatternStep := .run 1 isWordChar

/-- White space, or none. -/
def blanks : PatternStep := .run 0 isWhiteSpace

def someBlanks : PatternStep := .run 1 isWhiteSpace

def text (characters : String) : PatternStep := .exactly characters.toList

end Pattern

end DocSurvey
