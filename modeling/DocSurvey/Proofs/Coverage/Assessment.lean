import DocSurvey.Coverage.Issue
import DocSurvey.Proofs.Number.Rounding

/-! A score lies between zero and one hundred, and more documentation never makes an assessment
worse: not the score, not the priority, not the suggestions and not the label of the issue.
-/

namespace DocSurvey

open Number

-----------------------------------------------------------------------------------------
-- The range of the score
-----------------------------------------------------------------------------------------

namespace Score

/-- A rounded sum grows with its terms, by induction over both lists of terms. -/
theorem foldl_add_mono {points more : List Binary64} {start higher : Binary64}
    (nonneg : 0 ≤ start) (le : start ≤ higher) (nonnegs : ∀ x ∈ points, 0 ≤ x)
    (ordered : List.Forall₂ (· ≤ ·) points more)
    : points.foldl Binary64.add start ≤ more.foldl Binary64.add higher := by
  induction ordered generalizing start higher with
  | nil => exact le
  | @cons x y rest others first _ ih =>
      have nonnegOfFirst := nonnegs x (by simp)
      exact ih (Binary64.add_nonneg nonneg nonnegOfFirst)
        (Binary64.add_mono nonneg nonnegOfFirst le first)
        (fun z member => nonnegs z (List.mem_cons_of_mem x member))

/-- A rounded sum of numbers from zero on stays there, by induction over the terms. -/
theorem foldl_add_nonneg {points : List Binary64} {start : Binary64} (nonneg : 0 ≤ start)
    (nonnegs : ∀ x ∈ points, 0 ≤ x)
    : 0 ≤ points.foldl Binary64.add start := by
  induction points generalizing start with
  | nil => exact nonneg
  | cons x rest ih =>
      exact ih (Binary64.add_nonneg nonneg (nonnegs x (by simp)))
        (fun y member => nonnegs y (List.mem_cons_of_mem x member))

/-- Each term of a rounded sum costs one rounding, by induction over the terms. -/
theorem foldl_add_le {points : List Binary64} {start : Binary64} (nonneg : 0 ≤ start)
    (nonnegs : ∀ x ∈ points, 0 ≤ x)
    : points.foldl Binary64.add start
      ≤ Binary64.slack ^ points.length * (start + points.sum) := by
  induction points generalizing start with
  | nil => simp
  | cons x rest ih =>
      have nonnegOfFirst := nonnegs x (by simp)
      have nonnegOfRest : ∀ y ∈ rest, 0 ≤ y :=
        fun y member => nonnegs y (List.mem_cons_of_mem x member)
      have atMost := Binary64.round_le_slack_mul (Rat.add_nonneg nonneg nonnegOfFirst)
      have sumNonneg := List.sum_nonneg nonnegOfRest
      -- The bound takes one factor for all terms, also for those that this rounding does not touch.
      have grown : rest.sum ≤ Binary64.slack * rest.sum :=
        le_mul_of_one_le_left sumNonneg Binary64.one_le_slack
      have slackNonneg : 0 ≤ Binary64.slack := zero_le_one.trans Binary64.one_le_slack
      calc rest.foldl Binary64.add (Binary64.add start x)
          ≤ Binary64.slack ^ rest.length * (Binary64.add start x + rest.sum) :=
            ih (Binary64.add_nonneg nonneg nonnegOfFirst) nonnegOfRest
        _ ≤ Binary64.slack ^ rest.length
              * (Binary64.slack * (start + x) + Binary64.slack * rest.sum) :=
            mul_le_mul_of_nonneg_left (add_le_add atMost grown) (by positivity)
        _ = Binary64.slack ^ (x :: rest).length * (start + (x :: rest).sum) := by
            simp only [List.length_cons, List.sum_cons]
            ring

/-- No part of the score is negative. -/
theorem weighted_nonneg (weight documented total : Nat) : 0 ≤ weighted weight documented total :=
  Binary64.div_nonneg (Binary64.mul_nonneg (Binary64.ofNat_nonneg _) (Binary64.ofNat_nonneg _))
    (Binary64.ofNat_nonneg _)

/-- A weighted part is at most its weight, up to the roundings of product and quotient. -/
theorem weighted_le (weight documented total : Nat)
    : weighted weight documented total ≤ Binary64.slack ^ 2 * Binary64.ofNat weight := by
  have weightNonneg := Binary64.ofNat_nonneg weight
  have partNonneg := Binary64.ofNat_nonneg (min documented total)
  have wholeNonneg := Binary64.ofNat_nonneg (max total 1)
  have partLe : Binary64.ofNat (min documented total) ≤ Binary64.ofNat (max total 1) :=
    Binary64.ofNat_mono (by omega)
  have slackNonneg : 0 ≤ Binary64.slack := zero_le_one.trans Binary64.one_le_slack
  have product : Binary64.mul (Binary64.ofNat weight) (Binary64.ofNat (min documented total))
      ≤ Binary64.slack * Binary64.ofNat weight * Binary64.ofNat (max total 1) :=
    calc _ ≤ Binary64.slack
              * (Binary64.ofNat weight * Binary64.ofNat (min documented total)) :=
            Binary64.round_le_slack_mul (by positivity)
      _ ≤ Binary64.slack * (Binary64.ofNat weight * Binary64.ofNat (max total 1)) := by gcongr
      _ = _ := by ring
  have productNonneg := Binary64.mul_nonneg weightNonneg partNonneg
  calc weighted weight documented total
      ≤ Binary64.slack
          * (Binary64.mul (Binary64.ofNat weight) (Binary64.ofNat (min documented total))
            / Binary64.ofNat (max total 1)) :=
        Binary64.round_le_slack_mul (by positivity)
    _ ≤ Binary64.slack * (Binary64.slack * Binary64.ofNat weight) := by
        gcongr
        exact div_le_of_le_mul₀ wholeNonneg (by positivity) product
    _ = Binary64.slack ^ 2 * Binary64.ofNat weight := by ring

theorem parts_nonneg (stats : RepositoryStats) : ∀ x ∈ parts stats, 0 ≤ x := by
  intro x member
  simp only [parts, List.mem_cons, List.not_mem_nil, or_false] at member
  rcases member with rfl | rfl | rfl | rfl
  · exact weighted_nonneg _ _ _
  · exact weighted_nonneg _ _ _
  · exact Binary64.div_nonneg
      (Binary64.mul_nonneg (Binary64.ofNat_nonneg _) (Binary64.ofNat_nonneg _))
      (Binary64.ofNat_nonneg _)
  · split_ifs
    · exact Binary64.ofNat_nonneg _
    · exact le_rfl

/-- The points for a README are at most thirty, those of the highest score that counts. -/
theorem readmePart_le (score : Nat)
    : Binary64.div (Binary64.mul (Binary64.ofNat (min score 100)) (Binary64.ofNat readmeShare.1))
        (Binary64.ofNat readmeShare.2)
      ≤ 30 := by
  have highest : Binary64.div (Binary64.mul (Binary64.ofNat 100) (Binary64.ofNat readmeShare.1))
      (Binary64.ofNat readmeShare.2) = 30 := by
    decide +kernel
  rw [← highest]
  apply Binary64.div_mono_left _ (Binary64.ofNat_nonneg _)
  · exact Binary64.mul_mono (Binary64.ofNat_nonneg _) (Binary64.ofNat_nonneg _)
      (Binary64.ofNat_mono (by omega)) le_rfl
  · exact Binary64.mul_nonneg (Binary64.ofNat_nonneg _) (Binary64.ofNat_nonneg _)

/-- All points together are at most one hundred, up to the roundings of a product and a quotient. -/
theorem parts_sum_le (stats : RepositoryStats)
    : (parts stats).sum ≤ Binary64.slack ^ 2 * 100 := by
  have functions := weighted_le functionWeight stats.declarations.documentedFunctions
    stats.declarations.functions
  have classes := weighted_le classWeight stats.declarations.documentedClasses
    stats.declarations.classes
  have readme := readmePart_le stats.readmeScore
  have forty : Binary64.ofNat functionWeight = 40 := by decide +kernel
  have twenty : Binary64.ofNat classWeight = 20 := by decide +kernel
  have ten : Binary64.ofNat apiWeight = 10 := by decide +kernel
  have api : (if stats.hasApiDocs then Binary64.ofNat apiWeight else 0) ≤ 10 := by
    split_ifs
    · exact ten.le
    · norm_num
  rw [forty] at functions
  rw [twenty] at classes
  have slackSquare : (1 : Rat) ≤ Binary64.slack ^ 2 := one_le_pow₀ Binary64.one_le_slack
  simp only [parts, List.sum_cons, List.sum_nil]
  linarith

/-- The sum of the points stays below 101, since four more roundings add less than one. -/
theorem total_lt (stats : RepositoryStats) : total (parts stats) < 101 := by
  have sum := foldl_add_le le_rfl (parts_nonneg stats)
  rw [zero_add] at sum
  have slackPower : (0 : Rat) ≤ Binary64.slack ^ (parts stats).length :=
    pow_nonneg (zero_le_one.trans Binary64.one_le_slack) _
  calc total (parts stats)
      ≤ Binary64.slack ^ (parts stats).length * (parts stats).sum := sum
    _ ≤ Binary64.slack ^ (parts stats).length * (Binary64.slack ^ 2 * 100) :=
        mul_le_mul_of_nonneg_left (parts_sum_le stats) slackPower
    _ < 101 := by
        norm_num [parts, Binary64.slack]

theorem total_nonneg (stats : RepositoryStats) : 0 ≤ total (parts stats) :=
  foldl_add_nonneg le_rfl (parts_nonneg stats)

-----------------------------------------------------------------------------------------
-- The order of scores
-----------------------------------------------------------------------------------------

/-- More documented declarations make no lower percentage. -/
theorem percent_mono {documented more : Nat} (le : documented ≤ more) (total : Nat)
    : percent documented total ≤ percent more total :=
  Binary64.div_mono_left
    (Binary64.mul_nonneg (Binary64.ofNat_nonneg _) (Binary64.ofNat_nonneg _))
    (Binary64.ofNat_nonneg _)
    (Binary64.mul_mono (Binary64.ofNat_nonneg _) (Binary64.ofNat_nonneg _)
      (Binary64.ofNat_mono le) le_rfl)

/-- More documented declarations make no smaller part of the score. -/
theorem weighted_mono (weight : Nat) {documented more : Nat} (le : documented ≤ more) (total : Nat)
    : weighted weight documented total ≤ weighted weight more total :=
  Binary64.div_mono_left
    (Binary64.mul_nonneg (Binary64.ofNat_nonneg _) (Binary64.ofNat_nonneg _))
    (Binary64.ofNat_nonneg _)
    (Binary64.mul_mono (Binary64.ofNat_nonneg _) (Binary64.ofNat_nonneg _) le_rfl
      (Binary64.ofNat_mono (by omega)))

end Score

/-- The same repository with the same declarations, of which at least as many are documented, a
README that is no worse, and API documentation if it had it before.
-/
structure RepositoryStats.IsImprovedBy (before after : RepositoryStats) : Prop where
  name : after.name = before.name
  functions : after.declarations.functions = before.declarations.functions
  classes : after.declarations.classes = before.declarations.classes
  documentedFunctions
    : before.declarations.documentedFunctions ≤ after.declarations.documentedFunctions
  documentedClasses
    : before.declarations.documentedClasses ≤ after.declarations.documentedClasses
  readmeScore : before.readmeScore ≤ after.readmeScore
  hasApiDocs : before.hasApiDocs = true → after.hasApiDocs = true

namespace RepositoryStats.IsImprovedBy

variable {before after : RepositoryStats} (improved : before.IsImprovedBy after)
include improved

/-- No part of the score shrinks, part by part. -/
theorem parts_le : List.Forall₂ (· ≤ ·) (Score.parts before) (Score.parts after) := by
  have api : (if before.hasApiDocs then Binary64.ofNat Score.apiWeight else 0)
      ≤ if after.hasApiDocs then Binary64.ofNat Score.apiWeight else 0 := by
    cases had : before.hasApiDocs with
    | false =>
        simp only [Bool.false_eq_true, if_false]
        split_ifs
        · exact Binary64.ofNat_nonneg _
        · exact le_rfl
    | true => simp [improved.hasApiDocs had]
  have readme := improved.readmeScore
  unfold Score.parts
  rw [improved.functions, improved.classes]
  refine .cons ?_ (.cons ?_ (.cons ?_ (.cons api .nil)))
  · exact Score.weighted_mono _ improved.documentedFunctions _
  · exact Score.weighted_mono _ improved.documentedClasses _
  · apply Binary64.div_mono_left _ (Binary64.ofNat_nonneg _)
    · exact Binary64.mul_mono (Binary64.ofNat_nonneg _) (Binary64.ofNat_nonneg _)
        (Binary64.ofNat_mono (by omega)) le_rfl
    · exact Binary64.mul_nonneg (Binary64.ofNat_nonneg _) (Binary64.ofNat_nonneg _)

/-- The score does not shrink: sums keep the order of their terms, and so does cutting them. -/
theorem overall_le : before.overall ≤ after.overall := by
  have sums : Score.total (Score.parts before) ≤ Score.total (Score.parts after) :=
    Score.foldl_add_mono le_rfl le_rfl (Score.parts_nonneg before) improved.parts_le
  exact Int.toNat_le_toNat (Rat.floor_monotone sums)

/-- The priority does not rise again. -/
theorem priority_medium (medium : before.priority = .medium) : after.priority = .medium := by
  have scores := improved.overall_le
  unfold RepositoryStats.priority Priority.ofScore at medium ⊢
  split_ifs at medium with low
  rw [if_neg (by omega)]

end RepositoryStats.IsImprovedBy

/-- No repository has more than a hundred points. -/
theorem RepositoryStats.overall_le_hundred (stats : RepositoryStats) : stats.overall ≤ 100 := by
  have low : (Score.total (Score.parts stats)).floor < 101 :=
    Rat.floor_lt_iff.mpr (by exact_mod_cast Score.total_lt stats)
  unfold RepositoryStats.overall
  omega

-----------------------------------------------------------------------------------------
-- The suggestions
-----------------------------------------------------------------------------------------

namespace Suggestion

/-- The rules that lead to suggestions. -/
inductive Rule where
  | functions
  | classes
  | sections
  | api
  | overhaul
  deriving DecidableEq

/-- The rule that a suggestion comes from, whatever number it names. -/
def rule : Suggestion → Rule
  | .documentFunctions _ => .functions
  | .documentClasses _ => .classes
  | .addSections => .sections
  | .describeApi => .api
  | .overhaulReadme => .overhaul

/-- Of two tables of rules with conditions, the one with the weaker conditions keeps what the other
one keeps, by induction over both tables.
-/
theorem rules_sublist {strict loose : List (Bool × Suggestion)}
    (weaker
      : List.Forall₂ (fun one other => (one.1 = true → other.1 = true) ∧ one.2.rule = other.2.rule)
          strict loose)
    : ((strict.filterMap fun (applies, suggestion) =>
            if applies then some suggestion else none).map rule).Sublist
        ((loose.filterMap fun (applies, suggestion) =>
            if applies then some suggestion else none).map rule) := by
  induction weaker with
  | nil => exact .slnil
  | @cons one other _ _ first _ ih =>
      obtain ⟨applies, suggestion⟩ := one
      obtain ⟨appliesToo, suggestionToo⟩ := other
      obtain ⟨implies, same⟩ := first
      cases applies with
      | false =>
          cases appliesToo with
          | false => simpa using ih
          | true => simpa using ih.cons _
      | true =>
          have too : appliesToo = true := implies rfl
          dsimp only at same
          subst too
          simpa [same] using ih.cons_cons suggestionToo.rule

/-- A rule that still applies to a better documented repository applied to it before. -/
theorem all_sublist {before after : RepositoryStats} (improved : before.IsImprovedBy after)
    (marker : String)
    : ((all after marker).map rule).Sublist ((all before marker).map rule) := by
  apply rules_sublist
  have functions : before.functionCoverage ≤ after.functionCoverage := by
    unfold RepositoryStats.functionCoverage
    rw [improved.functions]
    exact Score.percent_mono improved.documentedFunctions _
  have classes : before.classCoverage ≤ after.classCoverage := by
    unfold RepositoryStats.classCoverage
    rw [improved.classes]
    exact Score.percent_mono improved.documentedClasses _
  have readme := improved.readmeScore
  refine .cons ⟨?_, rfl⟩ (.cons ⟨?_, rfl⟩ (.cons ⟨?_, rfl⟩
    (.cons ⟨?_, rfl⟩ (.cons ⟨?_, rfl⟩ .nil))))
  · simp only [decide_eq_true_eq]
    exact functions.trans_lt
  · simp only [Bool.and_eq_true, decide_eq_true_eq, improved.classes]
    exact fun ⟨present, few⟩ => ⟨present, classes.trans_lt few⟩
  · simp only [decide_eq_true_eq]
    omega
  · simp only [Bool.and_eq_true, Bool.not_eq_true', improved.name]
    refine fun ⟨missing, marked⟩ => ⟨?_, marked⟩
    cases had : before.hasApiDocs with
    | false => rfl
    | true => exact absurd (improved.hasApiDocs had) (by simp [missing])
  · simp only [decide_eq_true_eq]
    omega

end Suggestion

-----------------------------------------------------------------------------------------
-- The issue
-----------------------------------------------------------------------------------------

namespace IssueDraft

/-- The labels of an issue depend on the number of suggestions alone. -/
theorem forRepository?_labels (stats : RepositoryStats) (marker : String)
    : (forRepository? stats marker).map labels
      = if Suggestion.all stats marker = [] then none
        else some (labelsFor (Suggestion.all stats marker).length) := by
  unfold forRepository?
  cases Suggestion.all stats marker with
  | nil => rfl
  | cons first rest => rfl

/-- A repository has no issue exactly if there is nothing to suggest. -/
theorem forRepository?_eq_none_iff {stats : RepositoryStats} {marker : String}
    : forRepository? stats marker = none ↔ Suggestion.all stats marker = [] := by
  rw [← Option.map_eq_none_iff, forRepository?_labels]
  split_ifs with nothing
  · simp [nothing]
  · simp [nothing]

/-- An issue has the labels that its number of suggestions asks for. -/
theorem labels_of_forRepository? {stats : RepositoryStats} {marker : String} {draft : IssueDraft}
    (issue : forRepository? stats marker = some draft)
    : draft.labels = labelsFor (Suggestion.all stats marker).length := by
  have labelled := forRepository?_labels stats marker
  rw [issue] at labelled
  split_ifs at labelled
  · simp at labelled
  · simpa using labelled

/-- Fewer suggestions never make the label one of higher priority. -/
theorem labelsFor_medium {fewer more : Nat} (le : fewer ≤ more)
    (medium : "medium-priority" ∈ labelsFor more)
    : labelsFor fewer = ["documentation", "enhancement", "medium-priority"] := by
  unfold labelsFor mediumAtMost at *
  split_ifs at medium with many
  · simp at medium
  · rw [if_neg (by omega)]

end IssueDraft

/-- The score is a whole number from zero to one hundred, cut from a sum that is not negative. And
a better documented repository has no lower score and no higher priority; a rule that suggests
something for it did so before, so that it has no issue that it did not have and no label of
higher priority.
-/
theorem assessment_bounded_and_monotone
    : (∀ stats : RepositoryStats,
        0 ≤ Score.total (Score.parts stats) ∧ stats.overall ≤ 100)
      ∧ ∀ before after : RepositoryStats, before.IsImprovedBy after →
          before.overall ≤ after.overall
          ∧ (before.priority = .medium → after.priority = .medium)
          ∧ ∀ marker : String,
              ((Suggestion.all after marker).map Suggestion.rule).Sublist
                ((Suggestion.all before marker).map Suggestion.rule)
              ∧ (IssueDraft.forRepository? before marker = none
                  → IssueDraft.forRepository? after marker = none)
              ∧ ∀ old new : IssueDraft,
                  IssueDraft.forRepository? before marker = some old
                  → IssueDraft.forRepository? after marker = some new
                  → "medium-priority" ∈ old.labels
                  → "medium-priority" ∈ new.labels ∧ "high-priority" ∉ new.labels := by
  refine ⟨fun stats => ⟨Score.total_nonneg stats, stats.overall_le_hundred⟩, ?_⟩
  intro before after improved
  refine ⟨improved.overall_le, improved.priority_medium, ?_⟩
  intro marker
  have rules := Suggestion.all_sublist improved marker
  have fewer := rules.length_le
  simp only [List.length_map] at fewer
  refine ⟨rules, ?_, ?_⟩
  · intro noIssue
    have nothing := IssueDraft.forRepository?_eq_none_iff.mp noIssue
    rw [nothing, List.length_nil] at fewer
    have nothingToo := List.eq_nil_of_length_eq_zero (Nat.le_zero.mp fewer)
    exact IssueDraft.forRepository?_eq_none_iff.mpr nothingToo
  · intro old new isOld isNew medium
    rw [IssueDraft.labels_of_forRepository? isOld] at medium
    have labels := IssueDraft.labelsFor_medium fewer medium
    rw [IssueDraft.labels_of_forRepository? isNew, labels]
    decide

/-- A service with more functions than 53 digits can hold apart. Its full points round to more
than one hundred and are cut to it; with more functions documented and an API described, it keeps
an issue of medium priority for its README alone.
-/
theorem assessment_of_large_service
    : let count := 9007199254740988
      let service (documented readmeScore : Nat) (hasApiDocs : Bool) : RepositoryStats :=
        { name := "RiggerBackend", declarations := ⟨count, documented, count, count⟩, readmeScore,
          hasApiDocs, updated := ⟨0, 0⟩ }
      let before := service 2 60 false
      let after := service count 60 true
      let full := service count 100 true
      before.IsImprovedBy after
        ∧ 100 < Score.total (Score.parts full) ∧ full.overall ≤ 100
        ∧ before.overall ≤ after.overall
        ∧ ∃ old new,
            IssueDraft.forRepository? before "Backend" = some old
            ∧ IssueDraft.forRepository? after "Backend" = some new
            ∧ "medium-priority" ∈ old.labels
            ∧ "medium-priority" ∈ new.labels ∧ "high-priority" ∉ new.labels := by
  intro count service before after full
  have improved : before.IsImprovedBy after :=
    ⟨rfl, rfl, rfl, by decide, by decide, by decide, by decide⟩
  obtain ⟨range, monotone⟩ := assessment_bounded_and_monotone
  obtain ⟨scores, _, issues⟩ := monotone before after improved
  have suggestedBefore : Suggestion.all before "Backend"
      = [.documentFunctions (count - 2), .addSections, .describeApi] := by
    decide +kernel
  have suggestedAfter : Suggestion.all after "Backend" = [.addSections] := by
    decide +kernel
  obtain ⟨old, isOld⟩ : ∃ old, IssueDraft.forRepository? before "Backend" = some old := by
    rw [← Option.ne_none_iff_exists', ne_eq, IssueDraft.forRepository?_eq_none_iff, suggestedBefore]
    decide
  obtain ⟨new, isNew⟩ : ∃ new, IssueDraft.forRepository? after "Backend" = some new := by
    rw [← Option.ne_none_iff_exists', ne_eq, IssueDraft.forRepository?_eq_none_iff, suggestedAfter]
    decide
  have medium : "medium-priority" ∈ old.labels := by
    rw [IssueDraft.labels_of_forRepository? isOld, suggestedBefore]
    decide
  exact ⟨improved, by decide +kernel, (range full).2, scores, old, new, isOld, isNew, medium,
    (issues "Backend").2.2 old new isOld isNew medium⟩

end DocSurvey
