import DocSurvey.Coverage.Survey
import DocSurvey.Proofs.Declarations.Scan
import Mathlib.Algebra.BigOperators.Group.List.Lemmas

/-! What is found out about a repository is consistent: no more is documented than there is, only
Python has classes, and the score of a README is one of ten. A syntax tree is consistent node by
node, the counts of scripts only once they are capped, and sums of what is consistent are
consistent.
-/

namespace DocSurvey

namespace DeclarationCounts

/-- No more is documented than is declared. -/
structure IsConsistent (counts : DeclarationCounts) : Prop where
  functions : counts.documentedFunctions ≤ counts.functions
  classes : counts.documentedClasses ≤ counts.classes

/-- Neither classes nor documented classes are counted. -/
structure HasNoClasses (counts : DeclarationCounts) : Prop where
  classes : counts.classes = 0
  documentedClasses : counts.documentedClasses = 0

theorem isConsistent_zero : IsConsistent 0 where
  functions := Nat.le_refl 0
  classes := Nat.le_refl 0

/-- Consistent counts add up to consistent ones. -/
theorem IsConsistent.add {left right : DeclarationCounts} (first : left.IsConsistent)
    (second : right.IsConsistent)
    : (left + right).IsConsistent where
  functions := Nat.add_le_add first.functions second.functions
  classes := Nat.add_le_add first.classes second.classes

theorem isConsistent_function (documented : Bool) : (function documented).IsConsistent where
  functions := documented.toNat_le
  classes := Nat.le_refl 0

theorem isConsistent_ofClass (documented : Bool) : (ofClass documented).IsConsistent where
  functions := Nat.le_refl 0
  classes := documented.toNat_le

theorem hasNoClasses_zero : HasNoClasses 0 := ⟨rfl, rfl⟩

/-- Counts without classes add up to such counts. -/
theorem HasNoClasses.add {left right : DeclarationCounts} (first : left.HasNoClasses)
    (second : right.HasNoClasses)
    : (left + right).HasNoClasses where
  classes := by
    change left.classes + right.classes = 0
    rw [first.classes, second.classes]
  documentedClasses := by
    change left.documentedClasses + right.documentedClasses = 0
    rw [first.documentedClasses, second.documentedClasses]

end DeclarationCounts

open DeclarationCounts

-----------------------------------------------------------------------------------------
-- The declarations of a file
-----------------------------------------------------------------------------------------

namespace Python

/-- A definition is documented once at most, and no other node is. -/
theorem isConsistent_ownCounts (kind : Kind) (parts : List Syntax)
    : (ownCounts kind parts).IsConsistent := by
  unfold ownCounts
  split
  · exact isConsistent_function _
  · exact isConsistent_ofClass _
  · exact isConsistent_zero

mutual

/-- Every tree is consistent, by induction over its nodes. -/
theorem Syntax.isConsistent_counts (tree : Syntax) : tree.counts.IsConsistent := by
  cases tree with
  | text characters => exact isConsistent_zero
  | node kind parts =>
      exact (isConsistent_ownCounts kind parts).add (Syntax.isConsistent_countsOf parts)

/-- The counts among parts are consistent, which follows the nodes down. -/
theorem Syntax.isConsistent_countsOf (parts : List Syntax)
    : (Syntax.countsOf parts).IsConsistent := by
  cases parts with
  | nil => exact isConsistent_zero
  | cons part rest =>
      exact (Syntax.isConsistent_counts part).add (Syntax.isConsistent_countsOf rest)

end

/-- What a Python file is found to hold is consistent. -/
theorem isConsistent_definitions {text : List Char} {counts : DeclarationCounts}
    (found : definitions text = .ok counts)
    : counts.IsConsistent := by
  unfold definitions at found
  split at found
  · contradiction
  · rename_i tree _
    unfold Syntax.definitions at found
    split at found
    · contradiction
    · obtain rfl : tree.counts = counts := by simpa using found
      exact tree.isConsistent_counts

end Python

namespace Script

/-- No class is found in a script. -/
theorem hasNoClasses_definitions (source : List Char) : (definitions source).HasNoClasses :=
  ⟨rfl, rfl⟩

/-- A single file may have more comments than functions; the sum of all files is capped. -/
theorem isConsistent_capped {counts : DeclarationCounts} (without : counts.HasNoClasses)
    : (capped counts).IsConsistent where
  functions := Nat.min_le_right _ _
  classes := by
    change counts.documentedClasses ≤ counts.classes
    rw [without.documentedClasses]
    exact Nat.zero_le _

theorem hasNoClasses_capped {counts : DeclarationCounts} (without : counts.HasNoClasses)
    : (capped counts).HasNoClasses :=
  ⟨without.classes, without.documentedClasses⟩

end Script

-----------------------------------------------------------------------------------------
-- The declarations of a repository
-----------------------------------------------------------------------------------------

namespace Declarations

/-- The sum that a scan adjusts has what the declarations of all files have, however many files
there are and whichever of them fail.
-/
theorem scan_induction {P : DeclarationCounts → Prop} {language : Language} (zero : P 0)
    (add : ∀ left right, P left → P right → P (left + right))
    (each : ∀ path source counts, language.definitions path source = .ok counts → P counts)
    (tree : FileTree) (root : String)
    : ∃ counts, P counts ∧ (scan tree root language).value = language.finalize counts := by
  refine ⟨_, List.sum_induction P add zero ?_, scan_value tree root language⟩
  intro part member
  obtain ⟨⟨names, counts⟩, counted, rfl⟩ := List.mem_map.mp member
  obtain ⟨found, _, isCounted⟩ := List.mem_filterMap.mp counted
  obtain ⟨_, content, _, declared⟩ := countedFile?_eq_some_iff.mp isCounted
  exact each _ _ _ declared

/-- The counts of all Python files of a repository are consistent. -/
theorem isConsistent_scan_python (tree : FileTree) (root : String)
    : (scan tree root .python).value.IsConsistent := by
  have each : ∀ path source counts,
      Language.python.definitions path source = .ok counts → counts.IsConsistent := by
    intro path source counts found
    unfold Language.python at found
    cases parsed : Python.definitions source.toList with
    | error refusal => simp [parsed, Except.mapError] at found
    | ok inside =>
        obtain rfl : inside = counts := by simpa [parsed, Except.mapError] using found
        exact Python.isConsistent_definitions parsed
  obtain ⟨counts, consistent, total⟩ :=
    scan_induction isConsistent_zero (fun _ _ => IsConsistent.add) each tree root
  exact total ▸ consistent

/-- The counts of all scripts of a repository are consistent once they are capped. -/
theorem isConsistent_scan_javascript (tree : FileTree) (root : String)
    : (scan tree root .javascript).value.IsConsistent
      ∧ (scan tree root .javascript).value.HasNoClasses := by
  have each : ∀ path source counts,
      Language.javascript.definitions path source = .ok counts → counts.HasNoClasses := by
    intro path source counts found
    obtain rfl : Script.definitions source.toList = counts := Except.ok.inj found
    exact Script.hasNoClasses_definitions source.toList
  obtain ⟨counts, without, total⟩ :=
    scan_induction hasNoClasses_zero (fun _ _ => HasNoClasses.add) each tree root
  rw [total]
  exact ⟨Script.isConsistent_capped without, Script.hasNoClasses_capped without⟩

/-- The counts of a repository are consistent whatever its language, and only Python has classes. -/
theorem isConsistent_count (tree : FileTree) (root : String)
    : (count tree root).value.IsConsistent
      ∧ (languageOf? tree root = some .python ∨ (count tree root).value.HasNoClasses) := by
  unfold count
  cases chosen : languageOf? tree root with
  | none => exact ⟨isConsistent_zero, .inr hasNoClasses_zero⟩
  | some language =>
      have among : language ∈ Language.all := List.mem_of_find?_eq_some chosen
      rcases List.mem_pair.mp among with rfl | rfl
      · exact ⟨isConsistent_scan_python tree root, .inl rfl⟩
      · have consistent := isConsistent_scan_javascript tree root
        exact ⟨consistent.1, .inr consistent.2⟩

end Declarations

-----------------------------------------------------------------------------------------
-- The score of a README
-----------------------------------------------------------------------------------------

namespace Readme

def scores : List Nat := [0, 10, 20, 30, 40, 50, 60, 70, 80, 100]

/-- Every README has one of the scores. -/
theorem score_mem_scores (content : List Char) : score content ∈ scores := by
  have few : marks (Text.lower content) ≤ 9 := List.countP_le_length
  have points : ∀ earned ≤ 9,
      (if earned = 9 then fullScore else min (earned * pointsPerMark) fullScore) ∈ scores := by
    decide
  exact points _ few

/-- A README that is missing or cannot be read scores nothing. -/
theorem scoreOf_mem_scores (tree : FileTree) (repository : String)
    : (scoreOf tree repository).value ∈ scores := by
  unfold scoreOf
  split
  · exact List.mem_cons_self
  · split
    · exact score_mem_scores _
    · exact List.mem_cons_self

end Readme

-----------------------------------------------------------------------------------------
-- The record of a repository
-----------------------------------------------------------------------------------------

namespace Survey

/-- A survey is ready exactly if its indicators can be compiled. -/
theorem ofSettings_eq_ok_iff {settings : Config.Coverage} {languages : List Language}
    {survey : Survey}
    : ofSettings settings languages = .ok survey
      ↔ ∃ patterns,
          ApiDocs.compileAll settings.indicators = .ok patterns
          ∧ survey = ⟨settings, patterns, languages⟩ := by
  unfold ofSettings
  cases ApiDocs.compileAll settings.indicators with
  | error problem => simp [bind, Except.bind]
  | ok patterns => simp [bind, Except.bind, pure, Except.pure, eq_comm]

/-- A survey keeps the settings that it was made from. -/
theorem settings_of_ofSettings {settings : Config.Coverage} {languages : List Language}
    {survey : Survey} (ready : ofSettings settings languages = .ok survey)
    : survey.settings = settings := by
  obtain ⟨patterns, _, rfl⟩ := ofSettings_eq_ok_iff.mp ready
  rfl

/-- A repository that exists has a record, and it is consistent: no more is documented than there
is, so that what is documented and what is not make up the whole; there are classes in a Python
repository only; and the score of the README is one of those that marks lead to.
-/
theorem record_consistent {settings : Config.Coverage} {survey : Survey}
    (ready : ofSettings settings = .ok survey) (tree : FileTree) (now : Time.Instant)
    (name : String) (there : tree.contains (Path.join settings.basePath name) = true)
    : ∃ stats,
        (survey.repository? tree now name).value = some stats
        ∧ stats.declarations.documentedFunctions ≤ stats.declarations.functions
        ∧ stats.declarations.documentedClasses ≤ stats.declarations.classes
        ∧ (Declarations.languageOf? tree (Path.join settings.basePath name) = some .python
          ∨ stats.declarations.classes = 0 ∧ stats.declarations.documentedClasses = 0)
        ∧ stats.readmeScore ∈ [0, 10, 20, 30, 40, 50, 60, 70, 80, 100]
        ∧ stats.undocumentedFunctions + stats.declarations.documentedFunctions
          = stats.declarations.functions
        ∧ stats.undocumentedClasses + stats.declarations.documentedClasses
          = stats.declarations.classes := by
  obtain ⟨patterns, _, rfl⟩ := ofSettings_eq_ok_iff.mp ready
  set path := Path.join settings.basePath name with pathEq
  have counted := Declarations.isConsistent_count tree path
  refine ⟨⟨name, (Declarations.count tree path).value, (Readme.scoreOf tree path).value,
    ApiDocs.isPresent tree patterns path, now⟩, ?_, counted.1.functions, counted.1.classes,
    counted.2.imp_right fun without => ⟨without.classes, without.documentedClasses⟩,
    Readme.scoreOf_mem_scores tree path, Nat.sub_add_cancel counted.1.functions,
    Nat.sub_add_cancel counted.1.classes⟩
  simp [repository?, ← pathEq, there]

/-- A repository of scripts with more comments than functions, one of which cannot be read. -/
def overcommented : FileTree :=
  ⟨[(["base"], .directory),
    (["base", "web"], .directory),
    (["base", "web", "README"], .file (some "Usage, License")),
    (["base", "web", "a.ts"], .file (some "/** a */ /** b */ function only() {}")),
    (["base", "web", "b.js"], .file none)]⟩

/-- A script with more comments than functions counts as fully documented, and no further. -/
theorem record_of_overcommented
    : ∃ survey stats,
        ofSettings { basePath := "base", indicators := ["docs"] } = .ok survey
        ∧ overcommented.contains "base/web" = true
        ∧ (survey.repository? overcommented default "web").value = some stats
        ∧ (Declarations.languageOf? overcommented "base/web" = some .python
          ∨ stats.declarations.classes = 0 ∧ stats.declarations.documentedClasses = 0)
        ∧ stats.undocumentedFunctions + stats.declarations.documentedFunctions
          = stats.declarations.functions
        ∧ (Declarations.count overcommented "base/web").value = ⟨1, 1, 0, 0⟩ := by
  have there : overcommented.contains (Path.join "base" "web") = true := by decide +kernel
  cases ready : ofSettings { basePath := "base", indicators := ["docs"] } with
  | error problem =>
      have usable : (ApiDocs.compileAll ["docs"]).isOk = true := by decide +kernel
      cases compiled : ApiDocs.compileAll ["docs"] <;>
        simp_all [ofSettings, bind, Except.bind, pure, Except.pure, Except.isOk, Except.toBool]
  | ok survey =>
      obtain ⟨stats, found, _, _, classes, _, functions, _⟩ :=
        record_consistent ready overcommented default "web" there
      exact ⟨survey, stats, rfl, there, found, classes, functions, by decide +kernel⟩

end Survey

end DocSurvey
