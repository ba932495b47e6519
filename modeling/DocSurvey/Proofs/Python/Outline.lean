import DocSurvey.Proofs.Declarations.Counts
import DocSurvey.Python.Definitions

/-! The outline of a syntax tree: its nodes without the plain text between them. It decides what is
counted, and whether the tree holds a statement of an older version.
-/

namespace DocSurvey.Python

mutual

/-- A part without plain text; nothing is left of a part that is plain text itself. -/
def Syntax.outline : Syntax → List Syntax
  | .text _ => []
  | .node kind parts => [.node kind (Syntax.outlineOf parts)]

def Syntax.outlineOf : List Syntax → List Syntax
  | [] => []
  | part :: rest => part.outline ++ Syntax.outlineOf rest

end

namespace Syntax

@[simp] theorem outlineOf_nil : outlineOf [] = [] := by simp [outlineOf]

/-- Plain text leaves nothing in an outline. -/
@[simp] theorem outline_text (characters : List Char) : (text characters).outline = [] := by
  simp [outline]

/-- A node stays, with the outline of its parts. -/
@[simp] theorem outline_node (kind : Kind) (parts : List Syntax)
    : (node kind parts).outline = [node kind (outlineOf parts)] := by
  simp [outline]

@[simp] theorem outlineOf_cons (part : Syntax) (rest : List Syntax)
    : outlineOf (part :: rest) = part.outline ++ outlineOf rest := by
  simp [outlineOf]

/-- The outline of two sequences is that of one and then that of the other. -/
@[simp] theorem outlineOf_append (left right : List Syntax)
    : outlineOf (left ++ right) = outlineOf left ++ outlineOf right := by
  induction left with
  | nil => simp
  | cons part rest ih => simp [ih]

-----------------------------------------------------------------------------------------
-- Counts
-----------------------------------------------------------------------------------------

/-- Counts of two sequences add up, by induction over the first one. -/
theorem countsOf_append (left right : List Syntax)
    : countsOf (left ++ right) = countsOf left + countsOf right := by
  induction left with
  | nil => exact (zero_add _).symm
  | cons part rest ih =>
      rw [List.cons_append, countsOf, countsOf, ih, add_assoc]

/-- The first node among parts is of the same kind in the outline, by induction over the parts. -/
theorem findSome?_kind?_outlineOf (parts : List Syntax)
    : (outlineOf parts).findSome? kind? = parts.findSome? kind? := by
  induction parts with
  | nil => simp
  | cons part rest ih =>
      cases part with
      | text characters => simpa [List.findSome?_cons, kind?] using ih
      | node kind parts => simp [List.findSome?_cons, kind?]

/-- The first block among parts is kept with its own outline, by induction over the parts. -/
theorem find?_block_outlineOf (parts : List Syntax)
    : ((outlineOf parts).find? fun part => part.kind? == some .block).map Syntax.parts
      = ((parts.find? fun part => part.kind? == some .block).map Syntax.parts).map outlineOf := by
  induction parts with
  | nil => simp
  | cons part rest ih =>
      cases part with
      | text characters => simpa [List.find?_cons, kind?] using ih
      | node kind inner =>
          by_cases block : kind = .block
          · simp [kind?, block, Syntax.parts]
          · simpa [List.find?_cons, kind?, block] using ih

/-- A definition is documented by its outline if it is documented. -/
theorem isDocumented_outlineOf (parts : List Syntax)
    : isDocumented (outlineOf parts) = isDocumented parts := by
  unfold isDocumented
  rw [find?_block_outlineOf]
  cases (parts.find? fun part => part.kind? == some .block).map Syntax.parts with
  | none => rfl
  | some body => simp only [Option.map_some, Option.getD_some, findSome?_kind?_outlineOf]

mutual

/-- Plain text adds nothing to the counts of a tree, by induction over its nodes. -/
theorem countsOf_outline (tree : Syntax) : countsOf tree.outline = tree.counts := by
  cases tree with
  | text characters => simp [countsOf, counts]
  | node kind parts =>
      have own : ownCounts kind (outlineOf parts) = ownCounts kind parts := by
        simp only [ownCounts, isDocumented_outlineOf]
      rw [outline_node, countsOf, counts, counts, own, countsOf_outlineOf parts, countsOf]
      exact add_zero _

/-- An outline has the counts of its tree, which follows the nodes down. -/
theorem countsOf_outlineOf (parts : List Syntax)
    : countsOf (outlineOf parts) = countsOf parts := by
  cases parts with
  | nil => simp
  | cons part rest =>
      rw [outlineOf_cons, countsOf_append, countsOf_outline part, countsOf_outlineOf rest, countsOf]

end

-----------------------------------------------------------------------------------------
-- Statements of older versions
-----------------------------------------------------------------------------------------

mutual

/-- The tree holds no statement of an older version. -/
def isCurrent : Syntax → Bool
  | .text _ => true
  | .node (.legacy _) _ => false
  | .node _ parts => areCurrent parts

def areCurrent : List Syntax → Bool
  | [] => true
  | part :: rest => part.isCurrent && areCurrent rest

end

theorem areCurrent_append (left right : List Syntax)
    : areCurrent (left ++ right) = (areCurrent left && areCurrent right) := by
  induction left with
  | nil => simp [areCurrent]
  | cons part rest ih => simp [areCurrent, ih, Bool.and_assoc]

mutual

theorem areCurrent_outline (tree : Syntax) : areCurrent tree.outline = tree.isCurrent := by
  cases tree with
  | text characters => simp [areCurrent, isCurrent]
  | node kind parts =>
      have inner := areCurrent_outlineOf parts
      cases kind <;> simp [areCurrent, isCurrent, inner]

/-- No statement of an older version is in the outline exactly if there is none in the tree. -/
theorem areCurrent_outlineOf (parts : List Syntax)
    : areCurrent (outlineOf parts) = areCurrent parts := by
  cases parts with
  | nil => simp
  | cons part rest =>
      rw [outlineOf_cons, areCurrent_append, areCurrent_outline part, areCurrent_outlineOf rest,
        areCurrent]

end

mutual

/-- No such statement is found in any row, by induction over the nodes. -/
theorem legacy?_eq_none {tree : Syntax} (current : tree.isCurrent = true) (row : Nat)
    : tree.legacy? row = none := by
  cases tree with
  | text characters => simp [legacy?]
  | node kind parts =>
      cases kind with
      | legacy statement => simp [isCurrent] at current
      | _ =>
          have inner : areCurrent parts = true := by simpa [isCurrent] using current
          simpa [legacy?] using legacyAmong?_eq_none inner row

/-- Among parts without a statement of an older version none is found, by induction over them. -/
theorem legacyAmong?_eq_none {parts : List Syntax} (current : areCurrent parts = true) (row : Nat)
    : legacyAmong? row parts = none := by
  cases parts with
  | nil => simp [legacyAmong?]
  | cons part rest =>
      obtain ⟨first, others⟩ : part.isCurrent = true ∧ areCurrent rest = true := by
        simpa [areCurrent] using current
      simp [legacyAmong?, legacy?_eq_none first row, legacyAmong?_eq_none others]

end

/-- The definitions of a tree are those of its outline, if that is of the current version. -/
theorem definitions_eq_of_outline {tree : Syntax} {nodes : List Syntax}
    (same : tree.outline = nodes)
    (current : areCurrent nodes = true)
    : tree.definitions = .ok (countsOf nodes) := by
  subst same
  rw [areCurrent_outline] at current
  rw [definitions, legacy?_eq_none current, countsOf_outline]

end Syntax

end DocSurvey.Python
