import DocSurvey.Declarations.Counts
import Mathlib.Algebra.Group.Defs

/-! Counts of declarations are added field by field, in any order. -/

namespace DocSurvey

namespace DeclarationCounts

theorem add_def (left right : DeclarationCounts)
    : left + right
      = ⟨left.functions + right.functions, left.documentedFunctions + right.documentedFunctions,
          left.classes + right.classes, left.documentedClasses + right.documentedClasses⟩ := rfl

instance : Zero DeclarationCounts := ⟨zero⟩

/-- Counts are added field by field. -/
instance : AddCommMonoid DeclarationCounts where
  add_assoc left middle right := by simp only [add_def, Nat.add_assoc]
  add_comm left right := by simp only [add_def, Nat.add_comm]
  zero_add counts := by
    change zero + counts = counts
    simp [add_def, zero]
  add_zero counts := by
    change counts + zero = counts
    simp [add_def, zero]
  nsmul := nsmulRec

end DeclarationCounts

end DocSurvey
