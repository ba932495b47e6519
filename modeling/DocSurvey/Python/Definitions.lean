import DocSurvey.Declarations.Counts
import DocSurvey.Python.Module

/-! The definitions of a Python file, the documented ones among them, and the statements that keep a
file from being counted.
-/

namespace DocSurvey.Python

/-- The block of a definition opens with a string that documents it. -/
def isDocumented (parts : List Syntax) : Bool :=
  let body := (parts.find? fun part => part.kind? == some .block).map Syntax.parts
  match (body.getD []).findSome? Syntax.kind? with
  | some (.expression opening) => isDocumentation opening
  | _ => false

/-- What a single node adds to the counts. A function with `async` in front adds nothing. -/
def ownCounts (kind : Kind) (parts : List Syntax) : DeclarationCounts :=
  match kind with
  | .function false => .function (isDocumented parts)
  | .classDefinition => .ofClass (isDocumented parts)
  | _ => .zero

mutual

/-- The functions and classes defined anywhere in a tree. -/
def Syntax.counts : Syntax → DeclarationCounts
  | .text _ => .zero
  | .node kind parts => ownCounts kind parts + Syntax.countsOf parts

def Syntax.countsOf : List Syntax → DeclarationCounts
  | [] => .zero
  | part :: rest => part.counts + Syntax.countsOf rest

end

def lineBreaks (text : List Char) : Nat :=
  text.count '\n'

mutual

/-- The first statement of an older version of the language in a tree that starts in the row, and
the row of that statement.
-/
def Syntax.legacy? (row : Nat) : Syntax → Option (Legacy × Nat)
  | .text _ => none
  | .node kind parts =>
      match kind with
      | .legacy statement => some (statement, row)
      | _ => Syntax.legacyAmong? row parts

/-- The first such statement among parts that start in the row. -/
def Syntax.legacyAmong? (row : Nat) : List Syntax → Option (Legacy × Nat)
  | [] => none
  | part :: rest =>
      match part.legacy? row with
      | some found => some found
      | none => Syntax.legacyAmong? (row + lineBreaks part.toList) rest

end

/-- Why a file has no counts. -/
inductive Refusal where
  /-- The text breaks the rules of the language. -/
  | syntaxError
  /-- The first statement of an older version of the language, and its line. -/
  | legacy (statement : Legacy) (line : Nat)
  deriving Repr, DecidableEq, Inhabited

def Refusal.message (path : String) : Refusal → String
  | .syntaxError => s!"syntax error in {path}"
  | .legacy statement line => s!"Python 2 {statement.name} at line {line} in {path}"

/-- The definitions of a tree, unless it holds a statement of an older version of the language. -/
def Syntax.definitions (tree : Syntax) : Except Refusal DeclarationCounts :=
  match tree.legacy? 0 with
  | some (statement, row) => .error (.legacy statement (row + 1))
  | none => .ok tree.counts

def definitions (text : List Char) : Except Refusal DeclarationCounts :=
  match parse text with
  | none => .error .syntaxError
  | some tree => tree.definitions

end DocSurvey.Python
