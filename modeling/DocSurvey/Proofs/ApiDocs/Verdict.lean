import DocSurvey.Proofs.ApiDocs
import DocSurvey.Proofs.Files.Growth
import DocSurvey.Proofs.Glob.Case

/-! The verdict of indicators, whatever patterns they are. Main statement: it does not depend on the
case of ASCII letters in a path, nor on the order or the number of times in which indicators are
given, and documentation that is found stays found when the tree or the list of indicators grows.
-/

namespace DocSurvey.ApiDocs

open FileTree

variable {indicators : List String} {patterns : List (List Glob.Token)}

/-- The indicator is of use, and its pattern matches the path. -/
def Indicates (indicator path : String) : Prop :=
  ∃ pattern, compile indicator = .ok pattern ∧ Glob.isMatch pattern path = true

/-- Indicators are compiled one by one, by induction over them. -/
theorem compileAll_eq_ok_iff
    : compileAll indicators = .ok patterns
      ↔ List.Forall₂ (fun indicator pattern => compile indicator = .ok pattern) indicators
          patterns := by
  unfold compileAll
  induction indicators generalizing patterns with
  | nil => cases patterns <;> simp [pure, Except.pure]
  | cons first rest ih =>
      rw [List.mapM_cons]
      cases here : compile first with
      | error problem => cases patterns <;> simp [here, bind, Except.bind]
      | ok pattern =>
          cases later : rest.mapM compile with
          | error problem => cases patterns <;> simp [here, later, ← ih, bind, Except.bind]
          | ok others =>
              cases patterns <;> simp [here, later, ← ih, bind, Except.bind, pure, Except.pure]

/-- Compiled indicators are of use one by one. -/
theorem exists_compile_of_mem (compiled : compileAll indicators = .ok patterns) {indicator : String}
    (member : indicator ∈ indicators)
    : ∃ pattern, compile indicator = .ok pattern := by
  obtain ⟨place, within, rfl⟩ := List.getElem_of_mem member
  obtain ⟨sameLength, each⟩ := List.forall₂_iff_get.mp (compileAll_eq_ok_iff.mp compiled)
  exact ⟨_, each place within (sameLength ▸ within)⟩

/-- Compiled indicators indicate what one of them does, by induction over them and their patterns.
-/
theorem indicates_eq_true_iff (compiled : compileAll indicators = .ok patterns) (path : String)
    : indicates patterns path = true ↔ ∃ indicator ∈ indicators, Indicates indicator path := by
  have each := compileAll_eq_ok_iff.mp compiled
  clear compiled
  induction each with
  | nil => simp [indicates]
  | @cons first pattern rest others here _ ih =>
      have matched : Indicates first path ↔ Glob.isMatch pattern path = true := by
        simp [Indicates, here]
      have split : indicates (pattern :: others) path = true
          ↔ Glob.isMatch pattern path = true ∨ indicates others path = true := by
        simp [indicates]
      rw [split, List.exists_mem_cons_iff, matched]
      exact or_congr_right ih

/-- Indicators that are of use one by one are of use together. -/
theorem exists_compileAll
    (each : ∀ indicator ∈ indicators, ∃ pattern, compile indicator = .ok pattern)
    : ∃ patterns, compileAll indicators = .ok patterns := by
  let patternOf (indicator : String) := (compile indicator).toOption.getD []
  have compiled : ∀ indicator ∈ indicators, compile indicator = .ok (patternOf indicator) := by
    intro indicator member
    obtain ⟨pattern, here⟩ := each indicator member
    simp [patternOf, here, Except.toOption]
  exact ⟨_, compileAll_of_forall compiled⟩

/-- More indicators indicate more. -/
theorem indicates_mono {more : List String} {morePatterns : List (List Glob.Token)}
    (compiled : compileAll indicators = .ok patterns)
    (compiledMore : compileAll more = .ok morePatterns) (among : indicators ⊆ more) {path : String}
    (indicated : indicates patterns path = true)
    : indicates morePatterns path = true := by
  obtain ⟨indicator, member, here⟩ := (indicates_eq_true_iff compiled path).mp indicated
  exact (indicates_eq_true_iff compiledMore path).mpr ⟨indicator, among member, here⟩

/-- What is indicated in a tree is there in a grown one, and is indicated by more indicators too. -/
theorem isPresent_mono {tree grown : FileTree} (isTree : tree.IsTree) (isGrown : grown.IsTree)
    (within : tree.IsWithin grown) {morePatterns : List (List Glob.Token)}
    (more : ∀ path, indicates patterns path = true → indicates morePatterns path = true)
    {repository : String} (present : isPresent tree patterns repository = true)
    : isPresent grown morePatterns repository = true := by
  obtain ⟨names, node, below, stands, indicated⟩ := (isPresent_eq_true_iff isTree _ _).mp present
  exact (isPresent_eq_true_iff isGrown _ _).mpr
    ⟨names, node, below, within.standsAt? stands, more _ indicated⟩

/-- Indicators that are of use, in whatever syntax, do not tell apart paths that differ only in the
case of ASCII letters. In another order, and given several times, they come to the same verdicts.
Where they find documentation in a tree, they and any further ones find it in each tree that holds
as much.
-/
theorem detection_ignores_case_and_grows (compiled : compileAll indicators = .ok patterns)
    : (∀ left right : String,
        left.toList.map Char.toLower = right.toList.map Char.toLower
        → indicates patterns left = indicates patterns right)
      ∧ (∀ others,
          (∀ indicator, indicator ∈ others ↔ indicator ∈ indicators)
          → ∃ otherPatterns,
              compileAll others = .ok otherPatterns
              ∧ ∀ path, indicates otherPatterns path = indicates patterns path)
      ∧ ∀ more,
          indicators ⊆ more
          → (∀ indicator ∈ more, ∃ pattern, compile indicator = .ok pattern)
          → ∃ morePatterns,
              compileAll more = .ok morePatterns
              ∧ ∀ (tree grown : FileTree) (repository : String),
                  tree.IsTree
                  → grown.IsTree
                  → tree.IsWithin grown
                  → isPresent tree patterns repository = true
                  → isPresent grown morePatterns repository = true := by
  refine ⟨fun left right same => ?_, fun others same => ?_, fun more among eachMore => ?_⟩
  · unfold indicates
    simp only [fun pattern => Glob.isMatch_congr pattern same]
  · obtain ⟨otherPatterns, compiledOthers⟩ :=
      exists_compileAll fun indicator member =>
        exists_compile_of_mem compiled ((same indicator).mp member)
    refine ⟨otherPatterns, compiledOthers, fun path => Bool.eq_iff_iff.mpr ⟨?_, ?_⟩⟩
    · exact indicates_mono compiledOthers compiled fun indicator => (same indicator).mp
    · exact indicates_mono compiled compiledOthers fun indicator => (same indicator).mpr
  · obtain ⟨morePatterns, compiledMore⟩ := exists_compileAll eachMore
    refine ⟨morePatterns, compiledMore, fun tree grown repository isTree isGrown within => ?_⟩
    exact isPresent_mono isTree isGrown within fun path =>
      indicates_mono compiled compiledMore among

/-- Indicators with a negated class, alternatives, an escaped letter and a range across both cases.
-/
def patternedIndicators : List String :=
  ["[!x-z]ocs\x7b/\\ap,\\?\x7d[H-j]", "post??n"]

def grownHandbook : FileTree :=
  ⟨handbook.entries ++ [(["app", "Docs", "API", "v2"], .directory), (["app", "ocs"], .file none)]⟩

theorem detection_in_grown_handbook
    : ∃ patterns morePatterns,
        compileAll patternedIndicators = .ok patterns
        ∧ indicates patterns "Docs/API" = true
        ∧ indicates patterns "dOCS/apI" = true
        ∧ indicates patterns "Yocs/api" = false
        ∧ indicates patterns "yocs/API" = false
        ∧ compileAll ("swagger" :: patternedIndicators) = .ok morePatterns
        ∧ isPresent grownHandbook morePatterns "app" = true := by
  have verdicts : (compileAll patternedIndicators).toOption.map (fun patterns =>
      [indicates patterns "Docs/API", indicates patterns "Yocs/api",
        isPresent handbook patterns "app"]) = some [true, false, true] := by
    decide +kernel
  cases compiled : compileAll patternedIndicators with
  | error problem => simp [compiled, Except.toOption] at verdicts
  | ok patterns =>
      obtain ⟨found, missed, present⟩ : indicates patterns "Docs/API" = true
          ∧ indicates patterns "Yocs/api" = false
          ∧ isPresent handbook patterns "app" = true := by
        simpa [compiled, Except.toOption] using verdicts
      obtain ⟨blind, _, grows⟩ := detection_ignores_case_and_grows compiled
      have another : ∀ indicator ∈ "swagger" :: patternedIndicators,
          ∃ pattern, compile indicator = .ok pattern := by
        refine List.forall_mem_cons.mpr ⟨⟨_, compile_of_isText (by decide)⟩, ?_⟩
        exact fun indicator => exists_compile_of_mem compiled
      obtain ⟨morePatterns, compiledMore, kept⟩ := grows _ (List.subset_cons_self _ _) another
      refine ⟨patterns, morePatterns, rfl, found, ?_, missed, ?_, compiledMore, ?_⟩
      · exact (blind "dOCS/apI" "Docs/API" (by decide +kernel)).trans found
      · exact (blind "yocs/API" "Yocs/api" (by decide +kernel)).trans missed
      · have isTree : handbook.IsTree := by decide +kernel
        have isGrown : grownHandbook.IsTree := by decide +kernel
        have within := isTree.isWithin isGrown (List.subset_append_left handbook.entries _)
        exact kept handbook grownHandbook "app" isTree isGrown within present

end DocSurvey.ApiDocs
