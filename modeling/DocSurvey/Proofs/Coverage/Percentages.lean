import DocSurvey.Proofs.Coverage.Assessment
import DocSurvey.Proofs.Number.Exactness

/-! Percentages and the targets they are compared with. A rounded percentage falls short of a whole
target exactly if the exact one does: of up to `2 ^ 40` declarations, a share that falls short
leaves more room below the target than a rounding can close. Main statement: undocumented
declarations are suggested for documentation exactly below the targets, and then there are some to
name.
-/

namespace DocSurvey

open Number

namespace Score

-----------------------------------------------------------------------------------------
-- The rounding of a percentage
-----------------------------------------------------------------------------------------

/-- Up to `2 ^ 46` declarations a percentage is rounded once, when it is divided. -/
theorem percent_eq {documented total : Nat} (few : documented ≤ 2 ^ 46) (fewToo : total ≤ 2 ^ 46)
    : percent documented total
      = Binary64.round ((100 * documented : Nat) / (max total 1 : Nat)) := by
  have product : Binary64.mul (Binary64.ofNat documented) (Binary64.ofNat 100)
      = (100 * documented : Nat) := by
    rw [Binary64.ofNat_eq (by omega), Binary64.ofNat_eq (by omega), Binary64.mul, ← Nat.cast_mul,
      Nat.mul_comm]
    exact Binary64.round_natCast (by omega)
  rw [percent, product, Binary64.ofNat_eq (by omega), Binary64.div]

/-- The number next to a whole percentage on the grid of 53 digits below 128. -/
theorem round_pred {target : Nat} (positive : 0 < target) (atMost : target ≤ 100)
    : Binary64.round (target - 1 / 2 ^ 46) = target - 1 / 2 ^ 46 := by
  have digits : (target : Rat) - 1 / 2 ^ 46
      = ((target * 2 ^ 46 - 1 : Int) : Rat) * (2 : Rat) ^ (-46 : Int) := by
    push_cast
    rw [zpow_neg]
    norm_num
    ring
  rw [digits]
  exact Binary64.round_mul_zpow (by omega) (by omega) _

/-- A percentage that falls short of a whole one does so by at least the width of the grid below it.
-/
theorem percent_lt_of_lt {documented total target : Nat} (few : total ≤ 2 ^ 46)
    (atMost : target ≤ 100) (below : 100 * documented < target * max total 1)
    : percent documented total < target := by
  have bound : target * max total 1 ≤ 100 * 2 ^ 46 := Nat.mul_le_mul atMost (by omega)
  have positive : 0 < target := Nat.pos_of_mul_pos_right (Nat.zero_lt_of_lt below)
  have onePos : (0 : Rat) < (max total 1 : Nat) := by exact_mod_cast (by omega : 0 < max total 1)
  have next : ((100 * documented : Nat) : Rat) + 1 ≤ target * (max total 1 : Nat) := by
    exact_mod_cast below
  have small : ((max total 1 : Nat) : Rat) ≤ 2 ^ 46 := by
    exact_mod_cast (by omega : max total 1 ≤ 2 ^ 46)
  have apart : ((100 * documented : Nat) : Rat) / (max total 1 : Nat) ≤ target - 1 / 2 ^ 46 := by
    rw [div_le_iff₀ onePos, sub_mul]
    linarith
  calc percent documented total
      = Binary64.round ((100 * documented : Nat) / (max total 1 : Nat)) :=
        percent_eq (by omega) few
    _ ≤ Binary64.round (target - 1 / 2 ^ 46) := Binary64.round_mono (by positivity) apart
    _ = target - 1 / 2 ^ 46 := round_pred positive atMost
    _ < target := by norm_num

/-- A percentage that reaches a whole one is not rounded below it. -/
theorem le_percent_of_le {documented total target : Nat} (few : total ≤ 2 ^ 46)
    (atMost : target ≤ 100) (reached : target * max total 1 ≤ 100 * documented)
    : (target : Rat) ≤ percent documented total := by
  have bound : target * max total 1 ≤ 100 * 2 ^ 46 := Nat.mul_le_mul atMost (by omega)
  have onePos : (0 : Rat) < (max total 1 : Nat) := by exact_mod_cast (by omega : 0 < max total 1)
  -- A documented count whose conversion may be rounded is cut to one that is exact and reaches too.
  have held : target * max total 1 ≤ 100 * min documented (2 ^ 46) := by omega
  calc (target : Rat) = Binary64.round target := (Binary64.round_natCast (by omega)).symm
    _ ≤ Binary64.round ((100 * min documented (2 ^ 46) : Nat) / (max total 1 : Nat)) := by
        refine Binary64.round_mono (Nat.cast_nonneg _) ?_
        rw [le_div_iff₀ onePos]
        exact_mod_cast held
    _ = percent (min documented (2 ^ 46)) total := (percent_eq (by omega) few).symm
    _ ≤ percent documented total := percent_mono (by omega) total

/-- Rounding does not show in the comparison of a percentage with a whole one. -/
theorem percent_lt_iff {documented total target : Nat} (few : total ≤ 2 ^ 46)
    (atMost : target ≤ 100)
    : percent documented total < target ↔ 100 * documented < target * max total 1 := by
  constructor
  · intro less
    by_contra reached
    exact absurd (le_percent_of_le few atMost (by omega)) (not_le.mpr less)
  · exact percent_lt_of_lt few atMost

end Score

-----------------------------------------------------------------------------------------
-- What is suggested for documentation
-----------------------------------------------------------------------------------------

namespace Suggestion

/-- The number of declarations that a suggestion names, if it names one. -/
def count? : Suggestion → Option Nat
  | .documentFunctions count => some count
  | .documentClasses count => some count
  | .addSections => none
  | .describeApi => none
  | .overhaulReadme => none

/-- Functions are to be documented exactly below the target, with the number that is missing. -/
theorem documentFunctions_mem_all {stats : RepositoryStats} {marker : String} {count : Nat}
    : documentFunctions count ∈ all stats marker
      ↔ stats.functionCoverage < functionTarget ∧ stats.undocumentedFunctions = count := by
  simp [all]

/-- Classes are to be documented if there are any, exactly below the target. -/
theorem documentClasses_mem_all {stats : RepositoryStats} {marker : String} {count : Nat}
    : documentClasses count ∈ all stats marker
      ↔ (0 < stats.declarations.classes ∧ stats.classCoverage < classTarget)
        ∧ stats.undocumentedClasses = count := by
  simp [all]

/-- The rounded percentage of functions is below its target exactly if the exact one is. -/
theorem functionCoverage_lt_target {stats : RepositoryStats}
    (few : stats.declarations.functions ≤ 2 ^ 40)
    : stats.functionCoverage < functionTarget
      ↔ 5 * stats.declarations.documentedFunctions < 4 * max stats.declarations.functions 1 := by
  have compared : stats.functionCoverage < (80 : Nat)
      ↔ 100 * stats.declarations.documentedFunctions < 80 * max stats.declarations.functions 1 :=
    Score.percent_lt_iff (few.trans (by norm_num)) (by norm_num)
  exact compared.trans (by omega)

/-- The rounded percentage of classes is below its target exactly if the exact one is. -/
theorem classCoverage_lt_target {stats : RepositoryStats}
    (few : stats.declarations.classes ≤ 2 ^ 40) (positive : 0 < stats.declarations.classes)
    : stats.classCoverage < classTarget
      ↔ 10 * stats.declarations.documentedClasses < 9 * stats.declarations.classes := by
  have compared : stats.classCoverage < (90 : Nat)
      ↔ 100 * stats.declarations.documentedClasses < 90 * max stats.declarations.classes 1 :=
    Score.percent_lt_iff (few.trans (by norm_num)) (by norm_num)
  exact compared.trans (by omega)

end Suggestion

/-- Of up to `2 ^ 40` functions and classes, documenting more functions is suggested exactly if
fewer than four fifths of them are documented, where none at all count as one, and documenting more
classes exactly if there are some and fewer than nine tenths of them are documented; nothing else
decides it. The number that is named is what is missing to the total, more than a fifth of the
functions and more than a tenth of the classes. So no declarations are named only where there are no
functions.
-/
theorem suggested_exactly_below_targets (stats : RepositoryStats) (marker : String)
    (fewFunctions : stats.declarations.functions ≤ 2 ^ 40)
    (fewClasses : stats.declarations.classes ≤ 2 ^ 40)
    : let counts := stats.declarations
      let suggested := Suggestion.all stats marker
      ((∃ missing, .documentFunctions missing ∈ suggested)
          ↔ 5 * counts.documentedFunctions < 4 * max counts.functions 1)
      ∧ ((∃ missing, .documentClasses missing ∈ suggested)
          ↔ 0 < counts.classes ∧ 10 * counts.documentedClasses < 9 * counts.classes)
      ∧ (∀ missing,
          .documentFunctions missing ∈ suggested
          → missing + counts.documentedFunctions = counts.functions
            ∧ (0 < counts.functions → 1 ≤ missing ∧ counts.functions < 5 * missing))
      ∧ (∀ missing,
          .documentClasses missing ∈ suggested
          → missing + counts.documentedClasses = counts.classes
            ∧ 1 ≤ missing
            ∧ counts.classes < 10 * missing)
      ∧ ∀ suggestion ∈ suggested,
          suggestion.count? = some 0
          → suggestion = .documentFunctions 0 ∧ counts.functions = 0 := by
  intro counts suggested
  have functions : (∃ missing, .documentFunctions missing ∈ suggested)
      ↔ 5 * counts.documentedFunctions < 4 * max counts.functions 1 := by
    rw [← Suggestion.functionCoverage_lt_target fewFunctions]
    simp [suggested, Suggestion.documentFunctions_mem_all]
  have classes : (∃ missing, .documentClasses missing ∈ suggested)
      ↔ 0 < counts.classes ∧ 10 * counts.documentedClasses < 9 * counts.classes := by
    simp only [suggested, Suggestion.documentClasses_mem_all, exists_and_left, exists_eq',
      and_true]
    exact and_congr_right fun positive =>
      Suggestion.classCoverage_lt_target fewClasses positive
  have functionsNamed : ∀ missing, .documentFunctions missing ∈ suggested
      → missing + counts.documentedFunctions = counts.functions
        ∧ (0 < counts.functions → 1 ≤ missing ∧ counts.functions < 5 * missing) := by
    intro missing member
    have below := functions.mp ⟨missing, member⟩
    have named : counts.functions - counts.documentedFunctions = missing :=
      (Suggestion.documentFunctions_mem_all.mp member).2
    omega
  have classesNamed : ∀ missing, .documentClasses missing ∈ suggested
      → missing + counts.documentedClasses = counts.classes
        ∧ 1 ≤ missing
        ∧ counts.classes < 10 * missing := by
    intro missing member
    have below := classes.mp ⟨missing, member⟩
    have named : counts.classes - counts.documentedClasses = missing :=
      (Suggestion.documentClasses_mem_all.mp member).2
    omega
  refine ⟨functions, classes, functionsNamed, classesNamed, ?_⟩
  intro suggestion member none
  cases suggestion with
  | documentFunctions missing =>
      obtain rfl : missing = 0 := Option.some.inj none
      have named := functionsNamed 0 member
      exact ⟨rfl, by omega⟩
  | documentClasses missing =>
      obtain rfl : missing = 0 := Option.some.inj none
      have named := classesNamed 0 member
      omega
  | addSections => simp [Suggestion.count?] at none
  | describeApi => simp [Suggestion.count?] at none
  | overhaulReadme => simp [Suggestion.count?] at none

/-- As many functions as are allowed, of which one less than four fifths are documented, and nine
tenths of the classes: the functions fall short of their target by less than one in `2 ^ 40`, the
classes reach theirs.
-/
theorem suggested_just_below_target
    : let total := 2 ^ 40
      let stats : RepositoryStats :=
        { name := "Brim", declarations := ⟨total, 879609302220, 20, 18⟩, readmeScore := 0,
          hasApiDocs := false, updated := ⟨0, 0⟩ }
      stats.declarations.functions ≤ 2 ^ 40
      ∧ stats.declarations.classes ≤ 2 ^ 40
      ∧ .documentFunctions 219902325556 ∈ Suggestion.all stats "Backend"
      ∧ ¬ ∃ missing, .documentClasses missing ∈ Suggestion.all stats "Backend" := by
  intro total stats
  have fewFunctions : stats.declarations.functions ≤ 2 ^ 40 := by decide
  have fewClasses : stats.declarations.classes ≤ 2 ^ 40 := by decide
  obtain ⟨functions, classes, named, _⟩ :=
    suggested_exactly_below_targets stats "Backend" fewFunctions fewClasses
  obtain ⟨missing, member⟩ := functions.mpr (by decide)
  have whole : missing + 879609302220 = 1099511627776 := (named missing member).1
  obtain rfl : missing = 219902325556 := by omega
  exact ⟨fewFunctions, fewClasses, member, mt classes.mp (by decide)⟩

end DocSurvey
