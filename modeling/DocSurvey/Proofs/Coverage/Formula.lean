import DocSurvey.Proofs.Coverage.Assessment
import DocSurvey.Proofs.Coverage.Consistency
import DocSurvey.Proofs.Number.Exactness

/-! The score is the whole part of the exact points, whatever the roundings on the way to it. They
do not lead below a whole number that the exact points reach, and they do not lead up to one that
the exact points miss: these miss it by more than all roundings add.
-/

namespace DocSurvey

open Number

namespace Score

/-- The documented share of a total, exactly; of a total of zero it is zero. -/
def share (documented total : Nat) : Rat :=
  (min documented total : Nat) / (max total 1 : Nat)

theorem share_nonneg (documented total : Nat) : 0 ≤ share documented total :=
  div_nonneg (Nat.cast_nonneg _) (Nat.cast_nonneg _)

/-- A share is at most the whole, whatever is counted as documented. -/
theorem share_le_one (documented total : Nat) : share documented total ≤ 1 := by
  have le : min documented total ≤ max total 1 := by omega
  exact div_le_one_of_le₀ (by exact_mod_cast le) (Nat.cast_nonneg _)

/-- The share of a total that is there and documented is whole. -/
theorem share_eq_one {documented total : Nat} (present : 0 < total) (all : total ≤ documented)
    : share documented total = 1 := by
  have positive : (total : Rat) ≠ 0 := by exact_mod_cast present.ne'
  rw [share, min_eq_right all, max_eq_left present, div_self positive]

/-- Of the points for a share only the quotient is rounded, as weights and counts are held. -/
theorem weighted_eq {weight documented total : Nat} (small : weight ≤ 40) (few : total ≤ 2 ^ 20)
    : weighted weight documented total = Binary64.round (weight * share documented total) := by
  have counted : min documented total ≤ 2 ^ 20 := by omega
  have product : weight * min documented total ≤ 40 * 2 ^ 20 := Nat.mul_le_mul small counted
  have exact : Binary64.mul (Binary64.ofNat weight) (Binary64.ofNat (min documented total))
      = (weight * min documented total : Nat) := by
    rw [Binary64.ofNat_eq (by omega), Binary64.ofNat_eq (by omega), Binary64.mul, ← Nat.cast_mul]
    exact Binary64.round_natCast (by omega)
  rw [weighted, exact, Binary64.ofNat_eq (by omega), Binary64.div, share]
  congr 1
  push_cast
  ring

/-- Three tenths of a score in steps of ten are a whole number. -/
theorem readmePart_eq {steps : Nat} (few : steps ≤ 10)
    : Binary64.div
        (Binary64.mul (Binary64.ofNat (min (10 * steps) 100)) (Binary64.ofNat readmeShare.1))
        (Binary64.ofNat readmeShare.2)
      = (3 * steps : Nat) := by
  have le : min (10 * steps) 100 = 10 * steps := by omega
  have product : Binary64.mul (Binary64.ofNat (10 * steps)) (Binary64.ofNat readmeShare.1)
      = (10 * steps * 3 : Nat) := by
    rw [readmeShare, Binary64.ofNat_eq (by omega), Binary64.ofNat_eq (by omega), Binary64.mul,
      ← Nat.cast_mul]
    exact Binary64.round_natCast (by omega)
  have quotient : ((10 * steps * 3 : Nat) : Rat) / (10 : Nat) = (3 * steps : Nat) := by
    push_cast
    ring
  rw [le, product, readmeShare, Binary64.ofNat_eq (by omega), Binary64.div, quotient]
  exact Binary64.round_natCast (by omega)

/-- Sums of two shares miss the next whole number by what their denominators leave between them. -/
theorem shares_le_sub {first second : Nat} {documented more total other : Nat}
    (few : total ≤ 2 ^ 20) (fewToo : other ≤ 2 ^ 20) {n : Nat}
    (below : first * share documented total + second * share more other < n)
    : first * share documented total + second * share more other ≤ n - 1 / 2 ^ 40 := by
  set one := max total 1 with oneEq
  set two := max other 1 with twoEq
  have onePos : (0 : Rat) < one := by exact_mod_cast (by omega : 0 < one)
  have twoPos : (0 : Rat) < two := by exact_mod_cast (by omega : 0 < two)
  have common : first * share documented total + second * share more other
      = ((first * min documented total * two + second * min more other * one : Nat) : Rat)
        / ((one * two : Nat) : Rat) := by
    rw [share, share, ← oneEq, ← twoEq]
    push_cast
    field_simp
  have bothPos : (0 : Rat) < ((one * two : Nat) : Rat) := by
    push_cast
    positivity
  rw [common, div_lt_iff₀ bothPos, ← Nat.cast_mul, Nat.cast_lt] at below
  have bound : one * two ≤ 2 ^ 40 :=
    calc one * two ≤ 2 ^ 20 * 2 ^ 20 := Nat.mul_le_mul (by omega) (by omega)
      _ = 2 ^ 40 := by norm_num
  have next : ((first * min documented total * two + second * min more other * one : Nat) : Rat)
      + 1 ≤ n * ((one * two : Nat) : Rat) := by exact_mod_cast below
  have gap : 1 / 2 ^ 40 * ((one * two : Nat) : Rat) ≤ 1 := by
    have cast : ((one * two : Nat) : Rat) ≤ 2 ^ 40 := by exact_mod_cast bound
    linarith
  rw [common, div_le_iff₀ bothPos, sub_mul]
  linarith

/-- The exact points of a repository: forty for functions, twenty for classes, three tenths of the
README's score and ten for API documentation.
-/
def exactPoints (stats : RepositoryStats) : Rat :=
  let declared := stats.declarations
  40 * (min declared.documentedFunctions declared.functions : Nat)
    / (max declared.functions 1 : Nat)
    + 20 * (min declared.documentedClasses declared.classes : Nat) / (max declared.classes 1 : Nat)
    + 3 * stats.readmeScore / 10
    + if stats.hasApiDocs then 10 else 0

def sharedPoints (stats : RepositoryStats) : Rat :=
  functionWeight * share stats.declarations.documentedFunctions stats.declarations.functions
    + classWeight * share stats.declarations.documentedClasses stats.declarations.classes

/-- The points for README and API documentation, where the README's score is so many tens. -/
def wholePoints (steps : Nat) (hasApiDocs : Bool) : Nat :=
  3 * steps + if hasApiDocs then apiWeight else 0

/-- The exact points are those for shares and a whole number for the README and the documentation.
-/
theorem exactPoints_eq {stats : RepositoryStats} {steps : Nat}
    (tens : stats.readmeScore = 10 * steps)
    : exactPoints stats = sharedPoints stats + wholePoints steps stats.hasApiDocs := by
  unfold exactPoints sharedPoints wholePoints share functionWeight classWeight apiWeight
  rw [tens]
  push_cast
  ring

theorem sharedPoints_nonneg (stats : RepositoryStats) : 0 ≤ sharedPoints stats :=
  add_nonneg (mul_nonneg (Nat.cast_nonneg _) (share_nonneg _ _))
    (mul_nonneg (Nat.cast_nonneg _) (share_nonneg _ _))

/-- Shares make sixty points at most. -/
theorem sharedPoints_le (stats : RepositoryStats) : sharedPoints stats ≤ 60 := by
  have functions := share_le_one stats.declarations.documentedFunctions stats.declarations.functions
  have classes := share_le_one stats.declarations.documentedClasses stats.declarations.classes
  unfold sharedPoints functionWeight classWeight
  push_cast
  linarith

/-- The declarations and the README are of a size at which no rounding shows in the score. -/
structure IsModest (stats : RepositoryStats) (steps : Nat) : Prop where
  functions : stats.declarations.functions ≤ 2 ^ 20
  classes : stats.declarations.classes ≤ 2 ^ 20
  tens : stats.readmeScore = 10 * steps
  few : steps ≤ 10

namespace IsModest

variable {stats : RepositoryStats} {steps : Nat} (modest : IsModest stats steps)
include modest

/-- Only the points for functions and classes are rounded before they are added up. -/
theorem parts_eq
    : parts stats
      = [ Binary64.round (functionWeight
            * share stats.declarations.documentedFunctions stats.declarations.functions),
          Binary64.round (classWeight
            * share stats.declarations.documentedClasses stats.declarations.classes),
          (3 * steps : Nat), (if stats.hasApiDocs then apiWeight else 0 : Nat) ] := by
  have api : (if stats.hasApiDocs then Binary64.ofNat apiWeight else 0)
      = ((if stats.hasApiDocs then apiWeight else 0 : Nat) : Rat) := by
    split_ifs
    · exact Binary64.ofNat_eq (by decide)
    · simp
  unfold parts
  rw [weighted_eq (by decide) modest.functions, weighted_eq (by decide) modest.classes,
    modest.tens, readmePart_eq modest.few, api]

/-- The sum does not fall below a whole number that the exact points reach. -/
theorem le_total {n : Nat} (reached : (n : Rat) ≤ sharedPoints stats)
    : ((n + wholePoints steps stats.hasApiDocs : Nat) : Rat) ≤ total (parts stats) := by
  have atMost : n ≤ 60 := by exact_mod_cast reached.trans (sharedPoints_le stats)
  have few := modest.few
  have api : (if stats.hasApiDocs then apiWeight else 0) ≤ 10 := by
    unfold apiWeight
    split_ifs <;> omega
  have functions : (0 : Rat) ≤ functionWeight
      * share stats.declarations.documentedFunctions stats.declarations.functions :=
    mul_nonneg (Nat.cast_nonneg _) (share_nonneg _ _)
  have classes : (0 : Rat) ≤ classWeight
      * share stats.declarations.documentedClasses stats.declarations.classes :=
    mul_nonneg (Nat.cast_nonneg _) (share_nonneg _ _)
  rw [modest.parts_eq]
  simp only [total, List.foldl_cons, List.foldl_nil]
  have first : Binary64.add 0 (Binary64.round (functionWeight
        * share stats.declarations.documentedFunctions stats.declarations.functions))
      = Binary64.round (functionWeight
        * share stats.declarations.documentedFunctions stats.declarations.functions) := by
    rw [Binary64.add, zero_add, Binary64.round_round functions]
  rw [first]
  have shared := Binary64.natCast_le_add functions classes (by omega : n < 2 ^ 52) reached
  have withReadme := Binary64.natCast_add_le_add (m := 3 * steps) (by omega) shared
  have withApi := Binary64.natCast_add_le_add
    (m := if stats.hasApiDocs then apiWeight else 0) (by omega) withReadme
  rwa [Nat.add_assoc] at withApi

/-- The sum does not rise to a whole number that the exact points miss: all roundings together add
less than the points leave to the next whole number.
-/
theorem total_lt {n : Nat} (missed : sharedPoints stats < n)
    : total (parts stats) < ((n + wholePoints steps stats.hasApiDocs : Nat) : Rat) := by
  have room : sharedPoints stats ≤ n - 1 / 2 ^ 40 :=
    shares_le_sub modest.functions modest.classes missed
  have few := modest.few
  have whole : wholePoints steps stats.hasApiDocs ≤ 40 := by
    unfold wholePoints apiWeight
    split_ifs <;> omega
  have nonneg := sharedPoints_nonneg stats
  have atMost := sharedPoints_le stats
  have slackOne := Binary64.one_le_slack
  have roundedOnce : (parts stats).sum
      ≤ Binary64.slack * (sharedPoints stats + wholePoints steps stats.hasApiDocs) := by
    have functions := Binary64.round_le_slack_mul (mul_nonneg (Nat.cast_nonneg functionWeight)
      (share_nonneg stats.declarations.documentedFunctions stats.declarations.functions))
    have classes := Binary64.round_le_slack_mul (mul_nonneg (Nat.cast_nonneg classWeight)
      (share_nonneg stats.declarations.documentedClasses stats.declarations.classes))
    have rest : (wholePoints steps stats.hasApiDocs : Rat)
        ≤ Binary64.slack * wholePoints steps stats.hasApiDocs :=
      le_mul_of_one_le_left (Nat.cast_nonneg _) slackOne
    rw [modest.parts_eq]
    simp only [List.sum_cons, List.sum_nil, add_zero]
    unfold wholePoints at rest ⊢
    unfold sharedPoints
    rw [Nat.cast_add] at rest ⊢
    linarith
  have summed := foldl_add_le le_rfl (parts_nonneg stats)
  rw [zero_add] at summed
  have four : (parts stats).length = 4 := rfl
  rw [four] at summed
  have bound : sharedPoints stats + wholePoints steps stats.hasApiDocs ≤ 100 := by
    have cast : (wholePoints steps stats.hasApiDocs : Rat) ≤ 40 := by exact_mod_cast whole
    linarith
  have slackNonneg : (0 : Rat) ≤ Binary64.slack ^ 4 :=
    pow_nonneg (zero_le_one.trans slackOne) 4
  have tiny : (Binary64.slack ^ 5 - 1) * 100 < 1 / 2 ^ 40 := by
    norm_num [Binary64.slack]
  have grown : (0 : Rat) ≤ Binary64.slack ^ 5 - 1 := by
    linarith [one_le_pow₀ slackOne (n := 5)]
  calc total (parts stats) ≤ Binary64.slack ^ 4 * (parts stats).sum := summed
    _ ≤ Binary64.slack ^ 4
          * (Binary64.slack * (sharedPoints stats + wholePoints steps stats.hasApiDocs)) :=
        mul_le_mul_of_nonneg_left roundedOnce slackNonneg
    _ = (sharedPoints stats + wholePoints steps stats.hasApiDocs)
          + (Binary64.slack ^ 5 - 1)
            * (sharedPoints stats + wholePoints steps stats.hasApiDocs) := by ring
    _ ≤ (sharedPoints stats + wholePoints steps stats.hasApiDocs)
          + (Binary64.slack ^ 5 - 1) * 100 :=
        add_le_add_right (mul_le_mul_of_nonneg_left bound grown) _
    _ < ((n + wholePoints steps stats.hasApiDocs : Nat) : Rat) := by
        push_cast
        linarith

/-- Cutting the sum gives the whole part of the exact points. -/
theorem overall_eq : (stats.overall : Int) = ⌊exactPoints stats⌋ := by
  set n := ⌊sharedPoints stats⌋₊ with cut
  have reached : (n : Rat) ≤ sharedPoints stats := Nat.floor_le (sharedPoints_nonneg stats)
  have missed : sharedPoints stats < ((n + 1 : Nat) : Rat) := by
    exact_mod_cast Nat.lt_floor_add_one (sharedPoints stats)
  have low := modest.le_total reached
  have high := modest.total_lt missed
  have exact : ⌊exactPoints stats⌋ = ((n + wholePoints steps stats.hasApiDocs : Nat) : Int) := by
    rw [exactPoints_eq modest.tens, Int.floor_eq_iff]
    push_cast at missed ⊢
    constructor <;> linarith
  have rounded : (total (parts stats)).floor
      = ((n + wholePoints steps stats.hasApiDocs : Nat) : Int) := by
    change ⌊total (parts stats)⌋ = _
    rw [Int.floor_eq_iff]
    push_cast at low high ⊢
    constructor <;> linarith
  rw [RepositoryStats.overall, rounded, exact]
  rfl

end IsModest

end Score

/-- For up to `2 ^ 20` functions and classes and a README whose score is one that there is, the
score is the whole part of the documented formula, as if there were no rounding. A repository that
has functions, classes and a README with nothing left to document scores one hundred.
-/
theorem overall_eq_floor_of_formula
    : (∀ content : List Char, 10 ∣ Readme.score content ∧ Readme.score content ≤ 100)
      ∧ ∀ stats : RepositoryStats,
          stats.declarations.functions ≤ 2 ^ 20
          → stats.declarations.classes ≤ 2 ^ 20
          → 10 ∣ stats.readmeScore
          → stats.readmeScore ≤ 100
          → (stats.overall : Int) = ⌊Score.exactPoints stats⌋
            ∧ (0 < stats.declarations.functions
              → stats.declarations.functions ≤ stats.declarations.documentedFunctions
              → 0 < stats.declarations.classes
              → stats.declarations.classes ≤ stats.declarations.documentedClasses
              → stats.readmeScore = 100
              → stats.hasApiDocs = true
              → stats.overall = 100) := by
  refine ⟨?_, ?_⟩
  · intro content
    have points : ∀ score ∈ Readme.scores, 10 ∣ score ∧ score ≤ 100 := by decide
    exact points _ (Readme.score_mem_scores content)
  · intro stats functions classes tens readmeScore
    obtain ⟨steps, spelled⟩ := tens
    have modest : Score.IsModest stats steps := ⟨functions, classes, spelled, by omega⟩
    refine ⟨modest.overall_eq, ?_⟩
    intro hasFunctions allFunctions hasClasses allClasses full api
    have exact : Score.exactPoints stats = (100 : Int) := by
      rw [Score.exactPoints_eq spelled, Score.sharedPoints,
        Score.share_eq_one hasFunctions allFunctions, Score.share_eq_one hasClasses allClasses,
        Score.wholePoints, api]
      have ten : steps = 10 := by omega
      rw [ten]
      norm_num [Score.functionWeight, Score.classWeight, Score.apiWeight]
    have score := modest.overall_eq
    rw [exact, Int.floor_intCast] at score
    exact_mod_cast score

/-- A third of the functions and a third of the classes: no number of binary digits holds their
points, which add up to a whole number. Once all of them are documented the score is full.
-/
theorem overall_of_thirds
    : let service (documented readmeScore : Nat) : RepositoryStats :=
        { name := "Thirds", declarations := ⟨3, documented, 3, documented⟩, readmeScore,
          hasApiDocs := true, updated := ⟨0, 0⟩ }
      let stats := service 1 90
      let full := service 3 100
      stats.declarations.functions ≤ 2 ^ 20 ∧ stats.declarations.classes ≤ 2 ^ 20
      ∧ 10 ∣ stats.readmeScore ∧ stats.readmeScore ≤ 100
      ∧ Score.exactPoints stats = 57 ∧ stats.overall = 57
      ∧ full.overall = 100 := by
  intro service stats full
  have formula := overall_eq_floor_of_formula.2
  have exact : Score.exactPoints stats = (57 : Int) := by
    norm_num [Score.exactPoints, stats, service]
  have score := (formula stats (by decide) (by decide) (by decide) (by decide)).1
  rw [exact, Int.floor_intCast] at score
  have complete := (formula full (by decide) (by decide) (by decide) (by decide)).2
  exact ⟨by decide, by decide, by decide, by decide, exact, by exact_mod_cast score,
    complete (by decide) (by decide) (by decide) (by decide) rfl rfl⟩

end DocSurvey
