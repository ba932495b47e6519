import DocSurvey.Proofs.Python.Places
import DocSurvey.Proofs.Python.Preservation

/-! What comes of a Python file. A file that breaks the rules of the language, or holds a statement
of an older version, fails as a whole; of any other every definition is counted.
-/

namespace DocSurvey.Python

open Syntax

/-- A legacy statement is not reported as a syntax error. -/
theorem message_legacy_ne (path : String) (statement : Legacy) (line : Nat)
    : Refusal.message path (.legacy statement line) ≠ Refusal.message path .syntaxError := by
  intro same
  have legacy : "Python 2 ".toList.head? = some 'P' := by decide
  have syntaxError : "syntax error in ".toList.head? = some 's' := by decide
  have first := congrArg (fun message => message.toList.head?) same
  unfold Refusal.message at first
  simp only [String.toList_append, List.append_assoc, List.head?_append] at first
  change Option.or ("Python 2 ".toList.head?) _
    = Option.or ("syntax error in ".toList.head?) _ at first
  rw [legacy, syntaxError, Option.some_or, Option.some_or] at first
  exact absurd (Option.some.inj first) (by decide)

/-- A file without a tree is the only one with a syntax error. -/
theorem definitions_eq_syntaxError (path source : String)
    : Language.python.definitions path source = .error s!"syntax error in {path}"
      ↔ parse source.toList = none := by
  constructor
  · intro failed
    cases parsed : parse source.toList with
    | none => rfl
    | some tree =>
        cases current : tree.isCurrent with
        | true =>
            rw [definitions_of_current path parsed current] at failed
            contradiction
        | false =>
            obtain ⟨place, statement, -, refused⟩ := definitions_of_old path parsed current
            rw [refused] at failed
            exact absurd (Except.error.inj failed) (message_legacy_ne path statement _)
  · intro parsed
    have found : definitions source.toList = .error .syntaxError := by rw [definitions, parsed]
    exact congrArg (Except.mapError (Refusal.message path)) found

/-- A file fails with a syntax error exactly if it has no tree. The tree of any other file is a
reading of its text. If a statement of an older version stands anywhere in it, the file fails with
the kind and the line of the first one; if none does, the file succeeds, and each function without
`async` and each class in the tree is counted once.
-/
theorem definitions_outcome (path source : String)
    : (Language.python.definitions path source = .error s!"syntax error in {path}"
        ↔ parse source.toList = none)
      ∧ ∀ tree, parse source.toList = some tree →
        (source.toList = tree.toList ∨ source.toList = '\ufeff' :: tree.toList)
        ∧ ((∃ place statement, tree.IsFirstLegacy place statement
            ∧ Language.python.definitions path source
              = .error s!"Python 2 {statement.name} at line {tree.lineAt place} in {path}")
          ∨ ((∀ place statement, tree.kindAt? place ≠ some (.legacy statement))
            ∧ ∃ counts, Language.python.definitions path source = .ok counts
              ∧ (tree.placesOf (.function false)).encard = counts.functions
              ∧ (tree.placesOf .classDefinition).encard = counts.classes)) := by
  refine ⟨definitions_eq_syntaxError path source, fun tree parsed =>
    ⟨eq_toList_of_parse parsed, ?_⟩⟩
  cases current : tree.isCurrent with
  | true =>
      exact .inr ⟨kindAt?_ne_legacy current, tree.counts,
        definitions_of_current path parsed current, encard_functions tree, encard_classes tree⟩
  | false => exact .inl (definitions_of_old path parsed current)

theorem outcome_of_old_method
    : let path := "shelf.py"
      let source := "class Shelf:\n    def lend():\n        print 1\nexec b\n"
      ∃ tree place statement, parse source.toList = some tree ∧ tree.IsFirstLegacy place statement
        ∧ Language.python.definitions path source
          = .error s!"Python 2 {statement.name} at line {tree.lineAt place} in {path}" := by
  intro path source
  have parsed : (parse source.toList).map Syntax.isCurrent = some false := by decide +kernel
  obtain ⟨tree, parsed, old⟩ := Option.map_eq_some_iff.mp parsed
  obtain ⟨-, failed | ⟨none, -⟩⟩ := (definitions_outcome path source).2 tree parsed
  · obtain ⟨place, statement, isFirst, failed⟩ := failed
    exact ⟨tree, place, statement, parsed, isFirst, failed⟩
  · obtain ⟨place, statement, isFirst, -⟩ := exists_isFirstLegacy old
    exact absurd isFirst.found (none place statement)

end DocSurvey.Python
