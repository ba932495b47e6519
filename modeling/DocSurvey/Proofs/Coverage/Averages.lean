import DocSurvey.Coverage.Report
import DocSurvey.Proofs.Coverage.Percentages
import Mathlib.Algebra.Order.BigOperators.Group.List
import Mathlib.Algebra.BigOperators.Ring.List

/-! The figures for all repositories together are averages of those for each of them. The coverage
is a percentage of two totals, and a quotient of totals lies between the quotients of their parts:
not every part can stay on one side of it. Rounding keeps that order, as each percentage is rounded
once.
-/

namespace DocSurvey

open Number

/-- A number is not below all numbers of a list, nor above all of them. -/
structure IsMean (values : List Binary64) (mean : Binary64) : Prop where
  someBelow : ∃ value ∈ values, value ≤ mean
  someAbove : ∃ value ∈ values, mean ≤ value

-----------------------------------------------------------------------------------------
-- Totals
-----------------------------------------------------------------------------------------

namespace Number

theorem total_eq_sum (values : List Nat) : total values = values.sum := by
  induction values with
  | nil => rfl
  | cons n rest ih => rw [total, ih, List.sum_cons]

variable {α : Type}

/-- A total does not depend on the order of the items. -/
theorem total_perm {shuffled items : List α} (same : shuffled.Perm items) (measure : α → Nat)
    : total (shuffled.map measure) = total (items.map measure) := by
  rw [total_eq_sum, total_eq_sum]
  exact (same.map measure).sum_eq

/-- What is left out of a total does not show in it if it measures nothing. -/
theorem total_filter {keep : α → Bool} {measure : α → Nat} {items : List α}
    (none : ∀ item ∈ items, keep item = false → measure item = 0)
    : total ((items.filter keep).map measure) = total (items.map measure) := by
  induction items with
  | nil => rfl
  | cons item rest ih =>
      have restKept := ih fun other member => none other (List.mem_cons_of_mem item member)
      cases kept : keep item with
      | true => simp [kept, total, restKept]
      | false =>
          have nothing := none item List.mem_cons_self kept
          simp [kept, total, restKept, nothing]

/-- Totals of parts of wholes are equal only if every part is its whole. -/
theorem total_le_and_eq_iff {part whole : α → Nat} {items : List α}
    (le : ∀ item ∈ items, part item ≤ whole item)
    : total (items.map part) ≤ total (items.map whole)
      ∧ (total (items.map part) = total (items.map whole)
        ↔ ∀ item ∈ items, part item = whole item) := by
  induction items with
  | nil => simp
  | cons item rest ih =>
      obtain ⟨restLe, restEq⟩ := ih fun other member => le other (List.mem_cons_of_mem item member)
      have first := le item List.mem_cons_self
      simp only [List.map_cons, total, List.forall_mem_cons, ← restEq]
      omega

/-- A total is positive exactly if one of the items adds to it. -/
theorem total_pos_iff {measure : α → Nat} {items : List α}
    : 0 < total (items.map measure) ↔ ∃ item ∈ items, 0 < measure item := by
  induction items with
  | nil => simp [total]
  | cons item rest ih => simp [total, ← ih]

/-- No item adds more than the total. -/
theorem le_total_of_mem (measure : α → Nat) {items : List α} {item : α} (member : item ∈ items)
    : measure item ≤ total (items.map measure) := by
  rw [total_eq_sum]
  exact List.single_le_sum (fun _ _ => Nat.zero_le _) _ (List.mem_map_of_mem member)

/-- Among the quotients of parts one does not exceed the quotient of the totals, here with the
denominators multiplied out.
-/
theorem exists_mul_total_le {items : List α} (some : items ≠ []) (left right : α → Nat)
    : ∃ item ∈ items,
        left item * total (items.map right) ≤ total (items.map left) * right item := by
  refine List.exists_le_of_sum_le some _ _ (le_of_eq ?_)
  rw [List.sum_map_mul_right, List.sum_map_mul_left, total_eq_sum, total_eq_sum]

end Number

-----------------------------------------------------------------------------------------
-- The percentage of totals
-----------------------------------------------------------------------------------------

namespace Score

/-- Percentages are in the order of the quotients they are made of. -/
theorem percent_le_percent {documented total documentedToo totalToo : Nat}
    (few : documented ≤ 2 ^ 46) (fewOf : total ≤ 2 ^ 46)
    (fewToo : documentedToo ≤ 2 ^ 46) (fewOfToo : totalToo ≤ 2 ^ 46)
    (crossed : documented * max totalToo 1 ≤ documentedToo * max total 1)
    : percent documented total ≤ percent documentedToo totalToo := by
  have onePos : (0 : Rat) < (max total 1 : Nat) := by exact_mod_cast (by omega : 0 < max total 1)
  have onePosToo : (0 : Rat) < (max totalToo 1 : Nat) := by
    exact_mod_cast (by omega : 0 < max totalToo 1)
  have hundredfold : 100 * documented * max totalToo 1 ≤ 100 * documentedToo * max total 1 := by
    rw [Nat.mul_assoc, Nat.mul_assoc]
    exact Nat.mul_le_mul_left 100 crossed
  rw [percent_eq few fewOf, percent_eq fewToo fewOfToo]
  refine Binary64.round_mono (by positivity) ?_
  rw [div_le_div_iff₀ onePos onePosToo]
  exact_mod_cast hundredfold

theorem percent_nonneg (documented total : Nat) : 0 ≤ percent documented total :=
  Binary64.div_nonneg
    (Binary64.mul_nonneg (Binary64.ofNat_nonneg documented) (Binary64.ofNat_nonneg 100))
    (Binary64.ofNat_nonneg _)

/-- Nothing documented makes no percentage. -/
theorem percent_zero (total : Nat) : percent 0 total = 0 := by
  simp [percent, Binary64.ofNat, Binary64.mul, Binary64.div]

/-- A part is at most one hundred percent. -/
theorem percent_le_hundred {documented total : Nat} (few : total ≤ 2 ^ 46)
    (part : documented ≤ total)
    : percent documented total ≤ 100 := by
  have whole : percent 1 1 = 100 := by decide +kernel
  rw [← whole]
  have crossed : documented * max 1 1 ≤ 1 * max total 1 := by
    rw [max_self, Nat.mul_one, Nat.one_mul]
    exact part.trans (le_max_left total 1)
  exact percent_le_percent (by omega) few (by norm_num) (by norm_num) crossed

/-- A part is one hundred percent exactly if it is all there is, and there is something. -/
theorem percent_eq_hundred_iff {documented total : Nat} (few : total ≤ 2 ^ 46)
    (part : documented ≤ total)
    : percent documented total = 100 ↔ 0 < total ∧ documented = total := by
  have short : percent documented total < (100 : Nat) ↔ 100 * documented < 100 * max total 1 :=
    percent_lt_iff few (Nat.le_refl 100)
  have most := percent_le_hundred few part
  constructor
  · intro full
    have reached : ¬ 100 * documented < 100 * max total 1 :=
      mt short.mpr (by rw [full]; norm_num)
    omega
  · rintro ⟨some, rfl⟩
    exact le_antisymm most (not_lt.mp (mt short.mp (by omega)))

end Score

-----------------------------------------------------------------------------------------
-- The quotient of a total and a length
-----------------------------------------------------------------------------------------

namespace Number.Binary64

/-- The first number that 53 digits do not tell from the next one is still held. -/
theorem ofNat_of_le {n : Nat} (le : n ≤ 2 ^ 53) : ofNat n = n := by
  rcases le.lt_or_eq with less | rfl
  · exact ofNat_eq less
  · have power := round_mul_zpow (m := 1) (by norm_num) (by norm_num) 53
    push_cast [one_mul] at power
    rw [ofNat, Nat.cast_pow]
    exact power

/-- A whole number that a quotient reaches is reached after rounding. More items than 53 digits can
count share out less than one each.
-/
theorem le_div_ofNat {sum count value : Nat} (small : sum ≤ 2 ^ 53) (some : 0 < count)
    (le : value * count ≤ sum)
    : (value : Rat) ≤ div (ofNat sum) (ofNat count) := by
  rcases Nat.eq_zero_or_pos value with rfl | positive
  · exact div_nonneg (ofNat_nonneg sum) (ofNat_nonneg count)
  · have fewer : count ≤ value * count := Nat.le_mul_of_pos_left count positive
    have less : value ≤ value * count := Nat.le_mul_of_pos_right value some
    have countPos : (0 : Rat) < count := by exact_mod_cast some
    rw [ofNat_of_le small, ofNat_of_le (by omega), ← ofNat_of_le (by omega : value ≤ 2 ^ 53)]
    refine round_mono (Nat.cast_nonneg value) ?_
    rw [le_div_iff₀ countPos]
    exact_mod_cast le

/-- A whole number that a quotient does not exceed is not exceeded after rounding. -/
theorem div_ofNat_le {sum count value : Nat} (small : sum ≤ 2 ^ 53) (held : value ≤ 2 ^ 53)
    (some : 0 < count) (le : sum ≤ value * count)
    : div (ofNat sum) (ofNat count) ≤ value := by
  have quotient : ofNat sum / ofNat count ≤ value := by
    rcases Nat.lt_or_ge (2 ^ 53) count with many | few
    · rcases Nat.eq_zero_or_pos value with rfl | positive
      · obtain rfl : sum = 0 := by omega
        simp [ofNat]
      · have denominator : ofNat (2 ^ 53) ≤ ofNat count := ofNat_mono many.le
        have one : ofNat sum ≤ ofNat count := (ofNat_mono small).trans denominator
        calc ofNat sum / ofNat count ≤ 1 := div_le_one_of_le₀ one (ofNat_nonneg count)
          _ ≤ value := by exact_mod_cast positive
    · have countPos : (0 : Rat) < count := by exact_mod_cast some
      rw [ofNat_of_le small, ofNat_of_le few, div_le_iff₀ countPos]
      exact_mod_cast le
  have sumNonneg := ofNat_nonneg sum
  have countNonneg := ofNat_nonneg count
  calc div (ofNat sum) (ofNat count) ≤ round value := round_mono (by positivity) quotient
    _ = value := ofNat_of_le held

end Number.Binary64

-----------------------------------------------------------------------------------------
-- The metrics of all repositories
-----------------------------------------------------------------------------------------

namespace EcosystemReport

variable {stats : List RepositoryStats} {generated : Time.Instant}

/-- The repositories with functions. -/
def counted (stats : List RepositoryStats) : List RepositoryStats :=
  stats.filter fun one => 0 < one.declarations.functions

/-- The repositories without functions do not show in the totals. -/
theorem totals_counted
    (consistent : ∀ one ∈ stats,
      one.declarations.documentedFunctions ≤ one.declarations.functions)
    : total ((counted stats).map (·.declarations.documentedFunctions))
        = total (stats.map (·.declarations.documentedFunctions))
      ∧ total ((counted stats).map (·.declarations.functions))
        = total (stats.map (·.declarations.functions)) := by
  have empty : ∀ one ∈ stats, decide (0 < one.declarations.functions) = false
      → one.declarations.functions = 0 := by
    intro one _ none
    exact Nat.eq_zero_of_not_pos (of_decide_eq_false none)
  constructor
  · refine total_filter fun one member none => ?_
    have part := consistent one member
    rw [empty one member none] at part
    exact Nat.le_zero.mp part
  · exact total_filter empty

/-- Where nothing is declared in any repository there is no coverage. -/
theorem coverage_of_counted_eq_nil
    (consistent : ∀ one ∈ stats,
      one.declarations.documentedFunctions ≤ one.declarations.functions)
    (none : counted stats = [])
    : (ofStats stats generated).coverage = 0 := by
  have documented := (totals_counted consistent).1
  rw [none] at documented
  rw [ofStats, ← documented]
  exact Score.percent_zero _

/-- The percentage of the totals lies among the percentages of the parts. -/
theorem isMean_coverage
    (consistent : ∀ one ∈ stats,
      one.declarations.documentedFunctions ≤ one.declarations.functions)
    (few : total (stats.map (·.declarations.functions)) ≤ 2 ^ 46) (some : counted stats ≠ [])
    : IsMean ((counted stats).map (·.functionCoverage)) (ofStats stats generated).coverage := by
  obtain ⟨documentedEq, functionsEq⟩ := totals_counted consistent
  have part := (total_le_and_eq_iff consistent).1
  have bounds : ∀ one ∈ counted stats,
      one.declarations.documentedFunctions ≤ one.declarations.functions
      ∧ 1 ≤ one.declarations.functions
      ∧ one.declarations.functions ≤ total (stats.map (·.declarations.functions)) := by
    intro one member
    obtain ⟨inStats, counts⟩ := List.mem_filter.mp member
    exact ⟨consistent one inStats, of_decide_eq_true counts,
      le_total_of_mem (·.declarations.functions) inStats⟩
  constructor
  · obtain ⟨one, member, crossed⟩ := exists_mul_total_le some
      (·.declarations.documentedFunctions) (·.declarations.functions)
    obtain ⟨inside, counts, fewer⟩ := bounds one member
    rw [documentedEq, functionsEq] at crossed
    refine ⟨_, List.mem_map_of_mem member, ?_⟩
    refine Score.percent_le_percent (by omega) (by omega) (by omega) few ?_
    rwa [max_eq_left (counts.trans fewer), max_eq_left counts]
  · obtain ⟨one, member, crossed⟩ := exists_mul_total_le some
      (·.declarations.functions) (·.declarations.documentedFunctions)
    obtain ⟨inside, counts, fewer⟩ := bounds one member
    rw [documentedEq, functionsEq] at crossed
    refine ⟨_, List.mem_map_of_mem member, ?_⟩
    refine Score.percent_le_percent (by omega) few (by omega) (by omega) ?_
    rwa [max_eq_left (counts.trans fewer), max_eq_left counts, Nat.mul_comm,
      Nat.mul_comm one.declarations.documentedFunctions]

/-- The average score of READMEs lies among the scores. -/
theorem isMean_averageReadmeScore (some : stats ≠ [])
    (few : total (stats.map (·.readmeScore)) ≤ 2 ^ 53)
    : IsMean (stats.map fun one => (one.readmeScore : Binary64))
        (ofStats stats generated).averageReadmeScore := by
  have positive : 0 < stats.length := List.length_pos_iff.mpr some
  have ones : total (stats.map fun _ => 1) = stats.length := by simp [total_eq_sum]
  have quotient : (ofStats stats generated).averageReadmeScore
      = Binary64.div (Binary64.ofNat (total (stats.map (·.readmeScore))))
        (Binary64.ofNat stats.length) := by
    rw [ofStats, max_eq_left positive]
  rw [quotient]
  constructor
  · obtain ⟨one, member, crossed⟩ := exists_mul_total_le some (·.readmeScore) fun _ => 1
    rw [ones, Nat.mul_one] at crossed
    exact ⟨_, List.mem_map_of_mem member, Binary64.le_div_ofNat few positive crossed⟩
  · obtain ⟨one, member, crossed⟩ := exists_mul_total_le some (fun _ => 1) (·.readmeScore)
    rw [ones, Nat.one_mul, Nat.mul_comm] at crossed
    have held := (le_total_of_mem (·.readmeScore) member).trans few
    exact ⟨_, List.mem_map_of_mem member, Binary64.div_ofNat_le few held positive crossed⟩

/-- A repository without functions adds nothing to either total, wherever it stands. -/
theorem coverage_insert {before after : List RepositoryStats} {one : RepositoryStats}
    (empty : one.declarations.functions = 0)
    (part : one.declarations.documentedFunctions ≤ one.declarations.functions)
    : (ofStats (before ++ one :: after) generated).coverage
      = (ofStats (before ++ after) generated).coverage := by
  have nothing : one.declarations.documentedFunctions = 0 := by omega
  simp only [ofStats, List.map_append, List.map_cons, total_append, total, empty, nothing,
    Nat.zero_add]

/-- Totals, lengths and numbers of repositories do not depend on the order of these. -/
theorem metrics_perm {shuffled : List RepositoryStats} (same : shuffled.Perm stats)
    : let report := ofStats stats generated
      let again := ofStats shuffled generated
      again.coverage = report.coverage
      ∧ again.withApiDocs = report.withApiDocs
      ∧ again.averageReadmeScore = report.averageReadmeScore := by
  refine ⟨?_, same.countP_eq _, ?_⟩
  · simp only [ofStats, total_perm same]
  · simp only [ofStats, total_perm same, same.length_eq]

end EcosystemReport

/-- Of repositories that document no more functions than they have, up to `2 ^ 46` in all, the
coverage lies among the percentages of those with functions, and is zero if there are none; it is a
percentage, a full one exactly if there are functions and all are documented. The average score of
READMEs, up to `2 ^ 53` points in all, lies among the scores, and is zero if there are none. A
further repository without functions leaves the coverage as it is wherever it stands, and no order
of the repositories changes any of the metrics.
-/
theorem metrics_are_averages (stats : List RepositoryStats) (generated : Time.Instant)
    (consistent : ∀ one ∈ stats,
      one.declarations.documentedFunctions ≤ one.declarations.functions)
    (fewFunctions : total (stats.map (·.declarations.functions)) ≤ 2 ^ 46)
    (fewPoints : total (stats.map (·.readmeScore)) ≤ 2 ^ 53)
    : let report := EcosystemReport.ofStats stats generated
      let percentages := (report.repositories.filter fun one => 0 < one.functions.total).map
        (·.functions.percentage)
      let scores := report.repositories.map fun one => (one.readmeScore : Binary64)
      (percentages ≠ [] → IsMean percentages report.coverage)
      ∧ (percentages = [] → report.coverage = 0)
      ∧ 0 ≤ report.coverage
      ∧ report.coverage ≤ 100
      ∧ (report.coverage = 100
        ↔ (∃ one ∈ stats, 0 < one.declarations.functions)
          ∧ ∀ one ∈ stats, one.declarations.documentedFunctions = one.declarations.functions)
      ∧ (scores ≠ [] → IsMean scores report.averageReadmeScore)
      ∧ (scores = [] → report.averageReadmeScore = 0)
      ∧ (∀ before after one,
          before ++ after = stats
          → one.declarations.functions = 0
          → one.declarations.documentedFunctions ≤ one.declarations.functions
          → (EcosystemReport.ofStats (before ++ one :: after) generated).coverage
            = report.coverage)
      ∧ ∀ shuffled,
          shuffled.Perm stats
          → let again := EcosystemReport.ofStats shuffled generated
            again.coverage = report.coverage
            ∧ again.withApiDocs = report.withApiDocs
            ∧ again.averageReadmeScore = report.averageReadmeScore := by
  intro report percentages scores
  obtain ⟨part, full⟩ := total_le_and_eq_iff consistent
  have percentagesEq : percentages
      = (EcosystemReport.counted stats).map (·.functionCoverage) := by
    simp only [percentages, report, EcosystemReport.ofStats, EcosystemReport.counted,
      List.filter_map, List.map_map]
    rfl
  have scoresEq : scores = stats.map fun one => (one.readmeScore : Binary64) := by
    simp only [scores, report, EcosystemReport.ofStats, List.map_map]
    rfl
  refine ⟨?mean, ?none, Score.percent_nonneg _ _, Score.percent_le_hundred fewFunctions part,
    ?whole, ?meanScore, ?noScore, ?inserted, ?shuffled⟩
  case mean =>
    intro some
    rw [percentagesEq, ne_eq, List.map_eq_nil_iff] at some
    exact percentagesEq ▸ EcosystemReport.isMean_coverage consistent fewFunctions some
  case none =>
    intro none
    rw [percentagesEq, List.map_eq_nil_iff] at none
    exact EcosystemReport.coverage_of_counted_eq_nil consistent none
  case whole =>
    rw [← full, ← total_pos_iff]
    exact Score.percent_eq_hundred_iff fewFunctions part
  case meanScore =>
    intro some
    rw [scoresEq, ne_eq, List.map_eq_nil_iff] at some
    exact scoresEq ▸ EcosystemReport.isMean_averageReadmeScore some fewPoints
  case noScore =>
    intro none
    rw [scoresEq, List.map_eq_nil_iff] at none
    subst none
    simp [report, EcosystemReport.ofStats, Binary64.div, Binary64.ofNat, total]
  case inserted =>
    intro before after one split empty documented
    subst split
    exact EcosystemReport.coverage_insert empty documented
  case shuffled =>
    intro shuffled same
    exact EcosystemReport.metrics_perm same

/-- Two thirds and six sevenths of the functions of two repositories are four fifths of all of them,
and a third repository without functions between them changes nothing.
-/
theorem metrics_of_three
    : let one (functions documented score : Nat) : RepositoryStats :=
        { name := "Brim", declarations := ⟨functions, documented, 0, 0⟩, readmeScore := score,
          hasApiDocs := true, updated := ⟨0, 0⟩ }
      let stats := [one 3 2 40, one 7 6 100]
      let report := EcosystemReport.ofStats stats ⟨0, 0⟩
      (∀ one ∈ stats, one.declarations.documentedFunctions ≤ one.declarations.functions)
      ∧ total (stats.map (·.declarations.functions)) ≤ 2 ^ 46
      ∧ total (stats.map (·.readmeScore)) ≤ 2 ^ 53
      ∧ report.coverage = 80
      ∧ report.averageReadmeScore = 70
      ∧ (EcosystemReport.ofStats [one 3 2 40, one 0 0 0, one 7 6 100] ⟨0, 0⟩).coverage = 80
      ∧ IsMean [Score.percent 2 3, Score.percent 6 7] report.coverage := by
  intro one stats report
  have consistent : ∀ one ∈ stats,
      one.declarations.documentedFunctions ≤ one.declarations.functions := by decide
  have fewFunctions : total (stats.map (·.declarations.functions)) ≤ 2 ^ 46 := by decide
  have fewPoints : total (stats.map (·.readmeScore)) ≤ 2 ^ 53 := by decide
  obtain ⟨mean, _, _, _, _, _, _, inserted, _⟩ :=
    metrics_are_averages stats ⟨0, 0⟩ consistent fewFunctions fewPoints
  have coverage : report.coverage = 80 := by decide +kernel
  have without := inserted [one 3 2 40] [one 7 6 100] (one 0 0 0) rfl rfl (Nat.le_refl 0)
  exact ⟨consistent, fewFunctions, fewPoints, coverage, by decide +kernel, without.trans coverage,
    mean (List.cons_ne_nil _ _)⟩

end DocSurvey
