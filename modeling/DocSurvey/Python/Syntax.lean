import DocSurvey.Text.Search

/-! The syntax tree of a Python source file. A tree keeps every character of the text it was read
from, so positions need no field of their own: a node starts where the text before it ends.
-/

namespace DocSurvey.Python

open DocSurvey.Text

/-- A string literal: its text with prefix and quotes, and whether it holds a replacement field. -/
structure StringLiteral where
  text : List Char
  interpolated : Bool
  deriving Repr, DecidableEq, Inhabited

/-- A statement that only older versions of the language know. -/
inductive Legacy where
  | print
  | exec
  deriving Repr, DecidableEq, Inhabited

def Legacy.name : Legacy → String
  | .print => "print_statement"
  | .exec => "exec_statement"

/-- What a node of the tree is. -/
inductive Kind where
  /-- A whole file. -/
  | module
  /-- A function definition, with `async` in front or not. -/
  | function (isAsync : Bool)
  /-- A class definition. -/
  | classDefinition
  /-- The statements that a definition or a compound statement governs. -/
  | block
  /-- An expression statement, with the adjacent string literals that are its first expression. -/
  | expression (opening : List StringLiteral)
  /-- Any other simple statement. -/
  | simple
  /-- A statement with blocks that is no definition. -/
  | compound
  /-- A statement of an older version of the language. -/
  | legacy (statement : Legacy)
  deriving Repr, DecidableEq, Inhabited

/-- A node holds its parts in the order of the text; what belongs to no inner node is plain text. -/
inductive Syntax where
  | text (characters : List Char)
  | node (kind : Kind) (parts : List Syntax)
  deriving Repr, Inhabited

mutual

/-- Trees are compared node by node. -/
def Syntax.decEq : (left right : Syntax) → Decidable (left = right)
  | .text characters, .text others => decidable_of_iff (characters = others) (by simp)
  | .node kind parts, .node other others =>
      have := Syntax.decEqParts parts others
      decidable_of_iff (kind = other ∧ parts = others) (by simp)
  | .text _, .node _ _ => isFalse nofun
  | .node _ _, .text _ => isFalse nofun

/-- The parts of nodes are compared one by one. -/
def Syntax.decEqParts : (left right : List Syntax) → Decidable (left = right)
  | [], [] => isTrue rfl
  | part :: rest, other :: others =>
      have := Syntax.decEq part other
      have := Syntax.decEqParts rest others
      decidable_of_iff (part = other ∧ rest = others) (by simp)
  | [], _ :: _ => isFalse nofun
  | _ :: _, [] => isFalse nofun

end

instance : DecidableEq Syntax := Syntax.decEq

mutual

/-- The text a tree was read from. -/
def Syntax.toList : Syntax → List Char
  | .text characters => characters
  | .node _ parts => Syntax.textOf parts

/-- The text a sequence of trees was read from. -/
def Syntax.textOf : List Syntax → List Char
  | [] => []
  | part :: rest => part.toList ++ Syntax.textOf rest

end

def Syntax.kind? : Syntax → Option Kind
  | .text _ => none
  | .node kind _ => some kind

def Syntax.parts : Syntax → List Syntax
  | .text _ => []
  | .node _ parts => parts

/-- The prefix and the quotes cut from a literal's text. A triple quote is tried before a single
one, and both ends have to fit without sharing a character.
-/
def literalBody (text : List Char) : List Char :=
  let unprefixed := text.dropWhile isAsciiLetter
  let styles := ["\"\"\"".toList, "'''".toList, "\"".toList, "'".toList]
  match styles.find? fun quote => 2 * quote.length ≤ unprefixed.length
      && quote.isPrefixOf unprefixed && quote.isSuffixOf unprefixed with
  | some quote => (unprefixed.drop quote.length).take (unprefixed.length - 2 * quote.length)
  | none => unprefixed

def StringLiteral.flags (literal : StringLiteral) : List Char :=
  literal.text.takeWhile isAsciiLetter

/-- A plain text: neither bytes nor formatted, and without replacement fields. -/
def StringLiteral.isTextual (literal : StringLiteral) : Bool :=
  !(literal.flags.any fun c => ['b', 'B', 'f', 'F'].contains c) && !literal.interpolated

/-- Adjacent literals document a definition when all of them are plain text and one is not blank. -/
def isDocumentation (literals : List StringLiteral) : Bool :=
  literals.all StringLiteral.isTextual
    && literals.any fun literal => !isBlank (literalBody literal.text)

end DocSurvey.Python
