import DocSurvey.Python.Statement

/-! Whole Python files: the rules of the grammar tied together, and the tree of a file's text. -/

namespace DocSurvey.Python

open DocSurvey.Python.Parser

/-- The rule of a phrase, given how it may refer to others. -/
def ruleOf (rules : Rules) : Phrase → Parser Shape
  | .expression c => expression rules c
  | .unit c => unit rules c
  | .operand c => operand rules c
  | .field c => do field rules c; return .other
  | .type c bounded => do typed rules c bounded; return .other
  | .pattern c named => do casePattern rules c named; return .other
  | .items column => do items rules column; return .other

def nested : Nat → Rules
  | 0 => fun _ => failure
  | depth + 1 => ruleOf (nested depth)

/-- No phrase in a text of the length is nested deeper: each character leads into a few phrases at
most.
-/
def depthFor (length : Nat) : Nat :=
  4 * (length + 2)

/-- The tree of a file; nothing if the text breaks the rules of the language. A byte order mark may
open the file.
-/
def parse (text : List Char) : Option Syntax := do
  let body := match text with
    | '\ufeff' :: rest => rest
    | _ => text
  let start : State := ⟨body, false, []⟩
  let (_, final) ← (items (nested (depthFor body.length)) 0).run start
  if final.rest.isEmpty && !body.contains '\x00' then
    some (.node .module final.built.reverse)
  else
    none

end DocSurvey.Python
