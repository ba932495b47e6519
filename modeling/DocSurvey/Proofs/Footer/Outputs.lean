import DocSurvey.Proofs.Files.Parent
import DocSurvey.Proofs.Footer.Repetition

/-! What is left behind when the outputs of a footer check are written, also where that fails on the
way. The directories of both files are made before the first file is written. Main statement: on
success both files hold what was written, and however the writing ends, nothing changes but the two
files and missing directories above them.
-/

namespace DocSurvey

-----------------------------------------------------------------------------------------
-- Actions that end in an error
-----------------------------------------------------------------------------------------

namespace FileAction

variable {ε α : Type} {tree changed : FileTree} {cause : ε}

/-- An action that ends in an error leaves what it changed before. -/
theorem apply_of_error {action : FileAction ε Unit}
    (ends : (ExceptT.run action).run tree = (.error cause, changed))
    : action.apply tree = (changed, some cause) := by
  unfold apply
  rw [ends]

theorem apply_of_ok {action : FileAction ε Unit}
    (ends : (ExceptT.run action).run tree = (.ok (), changed))
    : action.apply tree = (changed, none) := by
  unfold apply
  rw [ends]

section Bind

variable {first : FileAction ε α} {next : α → FileAction ε Unit}

/-- An action does not go on from an error. -/
theorem apply_bind_of_error (ends : (ExceptT.run first).run tree = (.error cause, changed))
    : (first >>= next).apply tree = (changed, some cause) := by
  refine apply_of_error ?_
  rw [run_bind, ends]

/-- Behind what succeeds an action goes on in the changed tree. -/
theorem apply_bind_of_ok {result : α}
    (ends : (ExceptT.run first).run tree = (.ok result, changed))
    : (first >>= next).apply tree = (next result).apply changed := by
  unfold apply
  rw [run_bind, ends]

end Bind

end FileAction

namespace Footer

open FileTree

variable {tree changed : FileTree}

-----------------------------------------------------------------------------------------
-- Directories above a file
-----------------------------------------------------------------------------------------

/-- Some of the components of the path lead to the place, from the first one on but not up to the
last.
-/
def IsAncestor (path : String) (place : Place) : Prop :=
  ∃ before,
    before ≠ []
    ∧ before <+: (Path.components path).dropLast
    ∧ place = reach (before.map Step.ofComponent) []

/-- At most directories above the file are made, also where that fails. -/
theorem provideParent_leaves (plain : tree.IsPlain) (path : String)
    : (provideParent path).Leaves
        (fun changed => changed.IsPlain ∧ tree.Adds (IsAncestor path) changed) tree := by
  have keeps := keeps_provideParent (FileAction.adds_makeDirectories tree (Path.parent path))
  obtain ⟨plainChanged, adds⟩ := keeps tree ⟨plain, Adds.refl _ tree⟩
  refine ⟨plainChanged, adds.mono ?_⟩
  rintro place ⟨before, nonempty, within, rfl⟩
  exact ⟨before, nonempty, Path.components_parent path ▸ within, rfl⟩

/-- A directory that cannot be made is told apart from a file that cannot be written. -/
theorem making_of_provideParent {path : String} {cause : WriteError}
    (fails : ((ExceptT.run (provideParent path)).run tree).1 = .error cause)
    : cause.making = true := by
  simp only [provideParent, FileAction.provideDirectory] at fails
  split at fails
  · rw [FileAction.run_adapt] at fails
    revert fails
    cases ((ExceptT.run (FileAction.makeDirectories (Path.parent path))).run tree).1 with
    | ok result => simp [Except.mapError]
    | error problem =>
        rintro ⟨⟩
        rfl
  · cases fails

/-- The directory that a file lies in is there, if the path names one. -/
def IsProvided (tree : FileTree) (path : String) : Prop :=
  Path.parent path = "" ∨ tree.isDirectory (Path.parent path) = true

/-- How making the directory of a file ends: it is there, or an error says that it could not be
made.
-/
theorem run_provideParent (plain : tree.IsPlain) {path : String} {outcome : Except WriteError Unit}
    (ends : (ExceptT.run (provideParent path)).run tree = (outcome, changed))
    : changed.IsPlain
      ∧ tree.Adds (IsAncestor path) changed
      ∧ (outcome = .ok () → IsProvided changed path)
      ∧ ∀ cause, outcome = .error cause → cause.making = true := by
  obtain ⟨plainChanged, adds⟩ := provideParent_leaves plain path
  rw [ends] at plainChanged adds
  refine ⟨plainChanged, adds, ?_, ?_⟩
  · rintro rfl
    refine isDirectory_of_provideParent plain ⟨?_, ?_⟩ <;> rw [ends]
  · rintro cause rfl
    exact making_of_provideParent (congrArg Prod.fst ends)

/-- A file that cannot be written leaves the tree as it is. -/
theorem run_writeFile_of_error {path text : String} {cause : SystemError}
    (fails : tree.withFile path (some text) = .error cause)
    : (ExceptT.run (FileAction.writeFile path text)).run tree
      = (.error ⟨false, path, cause⟩, tree) := by
  rw [FileAction.writeFile, FileAction.run_change, fails]
  rfl

theorem run_writeFile_of_ok {path text : String}
    (done : tree.withFile path (some text) = .ok changed)
    : (ExceptT.run (FileAction.writeFile path text)).run tree = (.ok (), changed) := by
  rw [FileAction.writeFile, FileAction.run_change, done]
  rfl

-----------------------------------------------------------------------------------------
-- How the writing ends
-----------------------------------------------------------------------------------------

section Outcome

variable (results : Results) (report reportPath dataPath : String)

/-- How the writing of the outputs can end, once the directories above both files have been made so
far as that succeeds: the tree that is left, and the error if there is one.
-/
inductive Outcome (made : FileTree) : FileTree → Option WriteError → Prop where
  /-- A directory above one of the files cannot be made. -/
  | unprovided (cause : WriteError) (making : cause.making = true) : Outcome made made (some cause)
  /-- The report cannot be written. -/
  | unreported (provided : IsProvided made reportPath ∧ IsProvided made dataPath)
      (cause : SystemError)
      : Outcome made made (some ⟨false, reportPath, cause⟩)
  /-- The report is written, but the data cannot be. -/
  | unstored (provided : IsProvided made reportPath ∧ IsProvided made dataPath)
      (third : FileTree) (reported : made.withFile reportPath (some report) = .ok third)
      (cause : SystemError)
      : Outcome made third (some ⟨false, dataPath, cause⟩)
  | written (provided : IsProvided made reportPath ∧ IsProvided made dataPath)
      (third changed : FileTree) (reported : made.withFile reportPath (some report) = .ok third)
      (stored : third.withFile dataPath (some results.toJson.pretty) = .ok changed)
      : Outcome made changed none

end Outcome

/-- Directories are made first, for the report and then for the data, and files are written only
then.
-/
theorem outcome_of_writeOutputs (plain : tree.IsPlain) {results : Results}
    {report reportPath dataPath : String} {problem : Option WriteError}
    (ended : (writeOutputs results report reportPath dataPath).apply tree = (changed, problem))
    : ∃ made,
        made.IsPlain
        ∧ tree.Adds (fun place => IsAncestor reportPath place ∨ IsAncestor dataPath place) made
        ∧ Outcome results report reportPath dataPath made changed problem := by
  unfold writeOutputs at ended
  rcases stage : (ExceptT.run (provideParent reportPath)).run tree with ⟨outcome, first⟩
  obtain ⟨plainFirst, addsFirst, provided, making⟩ := run_provideParent plain stage
  have ofReport : tree.Adds (fun place => IsAncestor reportPath place ∨ IsAncestor dataPath place)
      first := addsFirst.mono fun _ => .inl
  cases outcome with
  | error cause =>
      rw [FileAction.apply_bind_of_error stage] at ended
      obtain ⟨rfl, rfl⟩ := Prod.mk.inj ended
      exact ⟨first, plainFirst, ofReport, .unprovided cause (making cause rfl)⟩
  | ok _ =>
      rw [FileAction.apply_bind_of_ok stage] at ended
      rcases stage : (ExceptT.run (provideParent dataPath)).run first with ⟨outcome, second⟩
      obtain ⟨plainSecond, addsSecond, providedToo, makingToo⟩ := run_provideParent plainFirst stage
      have ofBoth := ofReport.trans (addsSecond.mono fun _ => Or.inr)
      refine ⟨second, plainSecond, ofBoth, ?_⟩
      cases outcome with
      | error cause =>
          rw [FileAction.apply_bind_of_error stage] at ended
          obtain ⟨rfl, rfl⟩ := Prod.mk.inj ended
          exact .unprovided cause (makingToo cause rfl)
      | ok _ =>
          rw [FileAction.apply_bind_of_ok stage] at ended
          have stays : first.Differs (fun _ => False) (IsAncestor dataPath) second :=
            addsSecond.differs
          have both : IsProvided second reportPath ∧ IsProvided second dataPath :=
            ⟨(provided rfl).imp id (stays.isDirectory plainFirst plainSecond), providedToo rfl⟩
          cases reported : second.withFile reportPath (some report) with
          | error cause =>
              rw [FileAction.apply_bind_of_error (run_writeFile_of_error reported)] at ended
              obtain ⟨rfl, rfl⟩ := Prod.mk.inj ended
              exact .unreported both cause
          | ok third =>
              rw [FileAction.apply_bind_of_ok (run_writeFile_of_ok reported)] at ended
              cases stored : third.withFile dataPath (some results.toJson.pretty) with
              | error cause =>
                  rw [FileAction.apply_of_error (run_writeFile_of_error stored)] at ended
                  obtain ⟨rfl, rfl⟩ := Prod.mk.inj ended
                  exact .unstored both third reported cause
              | ok fourth =>
                  rw [FileAction.apply_of_ok (run_writeFile_of_ok stored)] at ended
                  obtain ⟨rfl, rfl⟩ := Prod.mk.inj ended
                  exact .written both third fourth reported stored

-----------------------------------------------------------------------------------------
-- What each end leaves behind
-----------------------------------------------------------------------------------------

/-- The same files stand in both trees, with the same content. -/
def SameFiles (tree changed : FileTree) : Prop :=
  ∀ place content,
    changed.get? place = some (.file content) ↔ tree.get? place = some (.file content)

/-- Directories that are added leave the files as they are. -/
theorem sameFiles_of_adds {directories : Place → Prop} (adds : tree.Adds directories changed)
    : SameFiles tree changed := by
  have differs : tree.Differs (fun _ => False) directories changed := adds.differs
  exact fun place content => differs.file_iff id

/-- A file stands where a directory above the path has to be. -/
def IsBlocked (tree : FileTree) (path : String) : Prop :=
  ∃ place content, IsAncestor path place ∧ tree.get? place = some (.file content)

/-- No directory takes the place of a file that blocks a path. -/
theorem IsBlocked.not_isProvided {made : FileTree} {path : String} (blocked : IsBlocked tree path)
    (plainMade : made.IsPlain) {directories : Place → Prop} (adds : tree.Adds directories made)
    : ¬ IsProvided made path := by
  obtain ⟨place, content, ⟨before, nonempty, within, rfl⟩, stands⟩ := blocked
  rw [← Path.components_parent path] at within
  rintro (empty | directory)
  · rw [empty] at within
    exact nonempty (List.prefix_nil.mp within)
  · have inside := plainMade.directory_of_isDirectory directory within
    simp [adds.get?_of_some stands] at inside

section Outcome

variable {results : Results} {report reportPath dataPath : String} {made : FileTree}
  {problem : Option WriteError}

/-- Where a directory is not there in the end, an error says that one could not be made. -/
theorem Outcome.exists_making
    (outcome : Outcome results report reportPath dataPath made changed problem)
    (unprovided : ¬ (IsProvided made reportPath ∧ IsProvided made dataPath))
    : ∃ cause, problem = some cause ∧ cause.making = true := by
  cases outcome with
  | unprovided cause making => exact ⟨cause, rfl, making⟩
  | unreported provided => exact absurd provided unprovided
  | unstored provided => exact absurd provided unprovided
  | written provided => exact absurd provided unprovided

/-- No file is written before the report. -/
theorem Outcome.eq_made
    (outcome : Outcome results report reportPath dataPath made changed problem)
    (apart : reportPath ≠ dataPath) {cause : WriteError} (failed : problem = some cause)
    (early : cause.making = true ∨ cause.path = reportPath)
    : changed = made := by
  cases outcome with
  | unprovided => rfl
  | unreported => rfl
  | unstored =>
      obtain rfl := Option.some.inj failed
      rcases early with making | same
      · cases making
      · exact absurd same.symm apart
  | written => cases failed

/-- The data is written after the report only. -/
theorem Outcome.withFile_report
    (outcome : Outcome results report reportPath dataPath made changed problem)
    (apart : reportPath ≠ dataPath) {cause : WriteError} (failed : problem = some cause)
    (late : cause.making = false) (same : cause.path = dataPath)
    : made.withFile reportPath (some report) = .ok changed := by
  cases outcome with
  | unprovided other making =>
      obtain rfl := Option.some.inj failed
      simp [making] at late
  | unreported =>
      obtain rfl := Option.some.inj failed
      exact absurd same apart
  | unstored _ _ reported => exact reported
  | written => cases failed

/-- Outputs change nothing but their own files and the directories they need. -/
theorem Outcome.differs
    (outcome : Outcome results report reportPath dataPath made changed problem)
    (plain : made.IsPlain) (directories : Place → Prop)
    : made.Differs (fun place => place = spelled reportPath ∨ place = spelled dataPath) directories
        changed := by
  have unchanged : made.Differs (fun place => place = spelled reportPath ∨ place = spelled dataPath)
      directories made :=
    (Adds.refl _ made).differs
  have writes : ∀ {before after : FileTree} {path content},
      before.IsPlain
      → before.withFile path content = .ok after
      → (path = reportPath ∨ path = dataPath)
      → before.Differs (fun place => place = spelled reportPath ∨ place = spelled dataPath)
          directories after := by
    intro before after path content isPlain done target
    refine (isPlain.withFile_differs done).mono ?_ fun _ => False.elim
    rintro place rfl
    exact target.imp (congrArg spelled) (congrArg spelled)
  cases outcome with
  | unprovided => exact unchanged
  | unreported => exact unchanged
  | unstored _ _ reported => exact writes plain reported (.inl rfl)
  | written _ third _ reported stored =>
      exact (writes plain reported (.inl rfl)).trans
        (writes (plain.withFile reported).1 stored (.inr rfl))

end Outcome

/-- The outputs hold what was written to them if the writing succeeds. If a directory above either
of them cannot be made, and so it is where a file blocks its path, or if the report cannot be
written, all files are as they were. If only the data cannot be written, its file is as it was.
However the writing ends, nothing changes but the two files and directories above them that were
missing.
-/
theorem writeOutputs_effects {results : Results} {report reportPath dataPath : String}
    {problem : Option WriteError} (plain : tree.IsPlain)
    (apart : spelled reportPath ≠ spelled dataPath)
    (ended : (writeOutputs results report reportPath dataPath).apply tree = (changed, problem))
    : (problem = none
        → changed.readText reportPath = .ok report
          ∧ changed.readText dataPath = .ok results.toJson.pretty)
      ∧ (IsBlocked tree reportPath ∨ IsBlocked tree dataPath
        → ∃ cause, problem = some cause ∧ cause.making = true)
      ∧ (∀ cause, problem = some cause → cause.making = true → SameFiles tree changed)
      ∧ (∀ cause,
          problem = some cause
          → cause.making = false
          → cause.path = reportPath
          → SameFiles tree changed)
      ∧ (∀ cause,
          problem = some cause
          → cause.making = false
          → cause.path = dataPath
          → changed.readText reportPath = .ok report
            ∧ ∀ content,
                changed.get? (spelled dataPath) = some (.file content)
                ↔ tree.get? (spelled dataPath) = some (.file content))
      ∧ tree.Differs (fun place => place = spelled reportPath ∨ place = spelled dataPath)
          (fun place => IsAncestor reportPath place ∨ IsAncestor dataPath place) changed := by
  obtain ⟨made, plainMade, adds, outcome⟩ := outcome_of_writeOutputs plain ended
  have apartToo : reportPath ≠ dataPath := fun same => apart (congrArg spelled same)
  refine ⟨?_, ?_, ?_, ?_, ?_, adds.differs.trans (outcome.differs plainMade _)⟩
  · rintro rfl
    obtain ⟨plainChanged, reported, stored, _⟩ := holds_of_writeOutputs plain apart ended
    exact ⟨reported.readText plainChanged, stored.readText plainChanged⟩
  · rintro (blocked | blocked)
    · exact outcome.exists_making fun provided => blocked.not_isProvided plainMade adds provided.1
    · exact outcome.exists_making fun provided => blocked.not_isProvided plainMade adds provided.2
  · intro cause failed making
    rw [outcome.eq_made apartToo failed (.inl making)]
    exact sameFiles_of_adds adds
  · intro cause failed _ same
    rw [outcome.eq_made apartToo failed (.inr same)]
    exact sameFiles_of_adds adds
  · intro cause failed late same
    have reported := outcome.withFile_report apartToo failed late same
    refine ⟨plainMade.readText_of_withFile reported, fun content => ?_⟩
    rw [(plainMade.withFile_differs reported).file_iff (Ne.symm apart)]
    exact sameFiles_of_adds adds _ _

/-- A report and data of an earlier run. -/
def desk : FileTree :=
  ⟨[(["data.json"], .file (some "[]")), (["out"], .directory),
    (["out", "report.md"], .file (some "old"))]⟩

/-- The report is in the way of the data at first, then a directory is in the way of the report, and
in the end nothing is.
-/
theorem writeOutputs_onDesk
    : (∃ changed cause,
        (writeOutputs [] "new" "out/report.md" "out/report.md/data.json").apply desk
          = (changed, some cause)
        ∧ cause.making = true
        ∧ changed.get? ["out", "report.md"] = some (.file (some "old")))
      ∧ (∃ changed,
          (writeOutputs [] "new" "out" "data.json").apply desk
            = (changed, some ⟨false, "out", .isDirectory⟩)
          ∧ changed.get? ["data.json"] = some (.file (some "[]")))
      ∧ ∃ changed,
          (writeOutputs [] "new" "out/report.md" "kept/data.json").apply desk = (changed, none)
          ∧ changed.readText "out/report.md" = .ok "new"
          ∧ changed.readText "kept/data.json" = .ok "{}" := by
  have plain : desk.IsPlain := by decide +kernel
  refine ⟨?_, ?_, ?_⟩
  · have apart : spelled "out/report.md" ≠ spelled "out/report.md/data.json" := by decide +kernel
    have blocked : IsBlocked desk "out/report.md/data.json" := by
      refine ⟨["out", "report.md"], some "old", ?_, by decide +kernel⟩
      exact ⟨[.name "out", .name "report.md"], by simp, by decide +kernel, by decide +kernel⟩
    rcases ended : (writeOutputs [] "new" "out/report.md" "out/report.md/data.json").apply desk
      with ⟨changed, problem⟩
    obtain ⟨_, stuck, kept, _⟩ := writeOutputs_effects plain apart ended
    obtain ⟨cause, rfl, making⟩ := stuck (.inr blocked)
    exact ⟨changed, cause, rfl, making, (kept cause rfl making _ _).mpr (by decide +kernel)⟩
  · have apart : spelled "out" ≠ spelled "data.json" := by decide +kernel
    have failed : ((writeOutputs [] "new" "out" "data.json").apply desk).2
        = some ⟨false, "out", .isDirectory⟩ := by
      decide +kernel
    rcases ended : (writeOutputs [] "new" "out" "data.json").apply desk with ⟨changed, problem⟩
    rw [ended] at failed
    obtain rfl : problem = _ := failed
    obtain ⟨_, _, _, kept, _⟩ := writeOutputs_effects plain apart ended
    exact ⟨changed, rfl, (kept _ rfl rfl rfl _ _).mpr (by decide +kernel)⟩
  · have apart : spelled "out/report.md" ≠ spelled "kept/data.json" := by decide +kernel
    have succeeds : ((writeOutputs [] "new" "out/report.md" "kept/data.json").apply desk).2
        = none := by
      decide +kernel
    rcases ended : (writeOutputs [] "new" "out/report.md" "kept/data.json").apply desk
      with ⟨changed, problem⟩
    rw [ended] at succeeds
    obtain rfl : problem = none := succeeds
    obtain ⟨written, _⟩ := writeOutputs_effects plain apart ended
    obtain ⟨report, data⟩ := written rfl
    exact ⟨changed, rfl, report, data.trans (by decide +kernel)⟩

end Footer

end DocSurvey
