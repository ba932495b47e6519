import DocSurvey.Proofs.Coverage.Consistency
import DocSurvey.Proofs.Coverage.Isolation
import DocSurvey.Proofs.Coverage.ReportFile
import DocSurvey.Proofs.Files.Frame

/-! What a survey leaves behind. Main statement: apart from the file of its report and the
directories on the way to it nothing changes, and where these are the default ones, they are not
taken for part of what is measured. Only on the way to a base path that was missing can a survey
make a directory that is taken for documentation.
-/

namespace DocSurvey

open FileTree

variable {tree changed : FileTree}

-----------------------------------------------------------------------------------------
-- Writing a report
-----------------------------------------------------------------------------------------

namespace EcosystemReport

variable {report : EcosystemReport} {directory : String}

theorem path_eq (report : EcosystemReport) (directory : String)
    : report.path directory = Path.join directory (fileName report.generated) := rfl

/-- A report is written once its directory is made and its file finds a place there. -/
theorem yields_write_iff
    : (report.write directory).Yields tree () changed
      ↔ ∃ between,
          (FileAction.makeDirectories directory).Yields tree () between
          ∧ between.withFile (report.path directory) (some report.text) = .ok changed := by
  rw [write, FileAction.yields_bind_iff]
  simp only [FileAction.provideDirectory, FileAction.yields_adapt_iff,
    FileAction.yields_writeFile_iff]
  exact ⟨fun ⟨_, between, made, done⟩ => ⟨between, made, done⟩,
    fun ⟨between, made, done⟩ => ⟨(), between, made, done⟩⟩

theorem apply_write_eq_none_iff
    : (report.write directory).apply tree = (changed, none)
      ↔ ∃ between,
          (FileAction.makeDirectories directory).Yields tree () between
          ∧ between.withFile (report.path directory) (some report.text) = .ok changed :=
  FileAction.apply_eq_none_iff.trans yields_write_iff

/-- A report that cannot be written leaves the tree as it was when its directory was to be made. -/
theorem apply_write_of_failed {problem : WriteError}
    (failed : (report.write directory).apply tree = (changed, some problem))
    : ((FileAction.provideDirectory directory).apply tree).1 = changed := by
  unfold FileAction.apply write at failed
  unfold FileAction.apply
  rw [FileAction.run_bind] at failed
  rcases provided : (ExceptT.run (FileAction.provideDirectory directory)).run tree
    with ⟨cause | result, between⟩
  · rw [provided] at failed
    exact (Prod.mk.inj failed).1
  · rw [provided] at failed
    simp only [FileAction.writeFile, FileAction.run_change] at failed
    cases done : between.withFile (report.path directory) (some report.text) with
    | error cause =>
        simp only [done, Except.mapError] at failed
        exact (Prod.mk.inj failed).1
    | ok made => simp [done, Except.mapError] at failed

/-- Only the file of a report and missing directories on the way to it come of writing it, and the
file only if that succeeds.
-/
theorem write_frame (plain : tree.IsPlain) {problem : Option WriteError}
    (written : (report.write directory).apply tree = (changed, problem))
    : changed.IsPlain
      ∧ ∀ place,
          changed.get? place = tree.get? place
          ∨ (OnTheWay directory place
              ∧ tree.get? place = none
              ∧ changed.get? place = some .directory)
          ∨ (problem = none
              ∧ place = spelled (report.path directory)
              ∧ tree.get? place ≠ some .directory
              ∧ changed.get? place = some (.file (some report.text))) := by
  have start : tree.IsPlain ∧ tree.Adds (OnTheWay directory) tree := ⟨plain, Adds.refl _ tree⟩
  have keeps := FileAction.adds_makeDirectories tree directory
  cases problem with
  | some cause =>
      have provides : (FileAction.provideDirectory directory).Keeps fun made =>
          made.IsPlain ∧ tree.Adds (OnTheWay directory) made := keeps.adapt
      obtain ⟨plainChanged, adds⟩ := apply_write_of_failed written ▸ provides.apply start
      exact ⟨plainChanged, fun place => (adds place).imp id .inl⟩
  | none =>
      obtain ⟨between, made, done⟩ := apply_write_eq_none_iff.mp written
      obtain ⟨plainBetween, adds⟩ := keeps.yields start made
      obtain ⟨plainChanged, _, _, noDirectory, _, now⟩ := plainBetween.withFile done
      refine ⟨plainChanged, fun place => ?_⟩
      by_cases here : place = spelled (report.path directory)
      · refine .inr (.inr ⟨rfl, here, ?_, by rw [now, if_pos here]⟩)
        rw [here, adds.get?_of_ne_directory noDirectory]
        exact noDirectory
      · have same : changed.get? place = between.get? place := by rw [now, if_neg here]
        rw [same]
        exact (adds place).imp id .inl

/-- Where the directory of reports is there and no directory stands in its place, a report is
written.
-/
theorem apply_write_of_isDirectory (plain : tree.IsPlain)
    (rooted : tree.isDirectory directory = true)
    (free : tree.isDirectory (report.path directory) = false)
    : ∃ changed, (report.write directory).apply tree = (changed, none) := by
  obtain ⟨changed, done⟩ :=
    plain.withFile_join rooted (isName_fileName report.generated) free (some report.text)
  exact ⟨changed, apply_write_eq_none_iff.mpr
    ⟨tree, FileAction.makeDirectories_of_isDirectory plain rooted, done⟩⟩

/-- The directory of a report that is written is there. -/
theorem isDirectory_of_write (plain : tree.IsPlain) (filled : directory ≠ "")
    (written : (report.write directory).apply tree = (changed, none))
    : changed.isDirectory directory = true := by
  obtain ⟨between, made, done⟩ := apply_write_eq_none_iff.mp written
  have plainBetween : between.IsPlain :=
    ((FileAction.adds_makeDirectories tree directory).yields ⟨plain, Adds.refl _ tree⟩ made).1
  exact (plainBetween.withFile_differs done).isDirectory plainBetween (plainBetween.withFile done).1
    (FileAction.isDirectory_of_makeDirectories plain filled made)

end EcosystemReport

-----------------------------------------------------------------------------------------
-- Measures that reports do not disturb
-----------------------------------------------------------------------------------------

/-- The place is one that the file of a report can have. -/
def IsReportPlace (place : Place) : Prop :=
  ∃ time, place.getLast? = some (EcosystemReport.fileName time)

/-- The place is one that a directory of reports can have by default. -/
def IsReportsPlace (place : Place) : Prop :=
  ∃ name ∈ ["docs", "reports"], place.getLast? = some name

/-- Neither directory that reports lie in is indicated by its name. -/
theorem isQuiet_of_isReportsPlace {place : Place} (isReports : IsReportsPlace place)
    : ∃ name, place.getLast? = some name ∧ ApiDocs.IsQuiet name := by
  obtain ⟨name, member, ends⟩ := isReports
  have quiet : ∀ name ∈ ["docs", "reports"], ApiDocs.IsQuiet name := by
    unfold ApiDocs.IsQuiet
    decide
  exact ⟨name, ends, quiet name member⟩

/-- No language counts or looks at the files of reports. -/
theorem not_isTellingName_fileName {language : Language} (among : language ∈ Language.all)
    (time : Time.Instant)
    : ¬ (Declarations.IsTellingName language (EcosystemReport.fileName time)
      ∨ Declarations.IsSourceName language (EcosystemReport.fileName time)) := by
  have isJson := EcosystemReport.isExtension_fileName time
  have unique : ∀ other, Path.IsExtension (EcosystemReport.fileName time) other
      → other = "json" := by
    intro other isOther
    rw [← Path.extensionOf?_eq_some_iff] at isJson isOther
    exact Option.some.inj (isOther.symm.trans isJson)
  have foreign : ∀ language ∈ Language.all,
      "json" ∉ language.tellingExtensions ∧ "json" ∉ language.extensions := by
    intro language among
    rcases List.mem_pair.mp among with rfl | rfl <;> decide
  rintro (⟨extension, member, isExtension⟩ | ⟨extension, member, isExtension | ⟨_, without⟩⟩)
  · exact (foreign language among).1 (unique extension isExtension ▸ member)
  · exact (foreign language among).2 (unique extension isExtension ▸ member)
  · exact without "json" isJson

/-- A path is not indicated by default if the place it leads to ends in a quiet name. -/
theorem not_indicates_of_isQuiet_end {patterns : List (List Glob.Token)}
    (compiled : ApiDocs.compileAll ApiDocs.defaultIndicators = .ok patterns) {place names : Place}
    (below : names ≠ []) {name : String} (ends : (place ++ names).getLast? = some name)
    (quiet : ApiDocs.IsQuiet name)
    : ApiDocs.indicates patterns ("/".intercalate names) = false := by
  have texts : ∀ indicator ∈ ApiDocs.defaultIndicators, ApiDocs.IsText indicator := by
    decide
  obtain rfl := Except.ok.inj ((ApiDocs.compileAll_of_isText texts).symm.trans compiled)
  obtain ⟨last, isLast⟩ := Option.ne_none_iff_exists'.mp (mt List.getLast?_eq_none_iff.mp below)
  obtain rfl : last = name := by simpa [List.getLast?_append, isLast] using ends
  exact ApiDocs.not_indicates_of_isQuiet isLast quiet

section Undisturbed

variable {directories : Place → Prop} (plain : tree.IsPlain) (plainChanged : changed.IsPlain)
  (differs : tree.Differs IsReportPlace directories changed) {path : String}
  (there : tree.contains path = true)

include plain plainChanged differs there

/-- No file of a report is counted or tells the language of a repository. -/
theorem count_of_differs
    : (Declarations.count changed path).value = (Declarations.count tree path).value := by
  have stillThere := differs.contains plain plainChanged there
  refine Declarations.count_congr plain.toIsTree plainChanged.toIsTree ?_
  intro language among names content kind
  -- In either tree a file of the kind is none of a report, whose name would be of no kind.
  have apart : (tree.standsAt? path names = some (.file content)
        ∨ changed.standsAt? path names = some (.file content))
      → ¬ IsReportPlace (spelled path ++ names) := by
    rintro stands ⟨time, ends⟩
    have last : (spelled path ++ names).getLast? = some (nameAt path names) :=
      stands.elim (plain.getLast?_of_file there) (plainChanged.getLast?_of_file stillThere)
    have same : nameAt path names = EcosystemReport.fileName time :=
      Option.some.inj (last.symm.trans ends)
    rw [same] at kind
    exact not_isTellingName_fileName among time kind
  have both := plain.standsAt?_eq there names
  have bothChanged := plainChanged.standsAt?_eq stillThere names
  constructor
  · intro stands
    have elsewhere := apart (.inr stands)
    rw [both, ← differs.file_iff elsewhere, ← bothChanged]
    exact stands
  · intro stands
    have elsewhere := apart (.inl stands)
    rw [bothChanged, differs.file_iff elsewhere, ← both]
    exact stands

/-- No file of a report is taken for a README. -/
theorem scoreOf_of_differs
    : (Readme.scoreOf changed path).value = (Readme.scoreOf tree path).value := by
  obtain ⟨filled, passes, stood⟩ := plain.contains_iff.mp there
  have stillThere := differs.contains plain plainChanged there
  obtain ⟨_, passesChanged, _⟩ := plainChanged.contains_iff.mp stillThere
  cases rooted : tree.isDirectory path with
  | true =>
      have directory := (plain.isDirectory_iff.mp rooted).2.2
      have leads : tree.find true path = .ok (spelled path, .directory) :=
        plain.find_eq_ok_iff.mpr ⟨filled, passes, rfl, directory⟩
      have leadsToo : changed.find true path = .ok (spelled path, .directory) :=
        plainChanged.find_eq_ok_iff.mpr
          ⟨filled, passesChanged, rfl, differs.directory directory⟩
      refine Readme.scoreOf_congr plain.toIsTree plainChanged.toIsTree leads leadsToo ?_
      intro name content isReadme
      refine differs.file_iff ?_
      rintro ⟨time, ends⟩
      obtain rfl : name = EcosystemReport.fileName time := by simpa using ends
      simp [EcosystemReport.isReadmeName_fileName] at isReadme
  | false =>
      have rootedToo : changed.isDirectory path = false := by
        refine Bool.eq_false_iff.mpr fun isDirectory => ?_
        have directory := differs.directory_of_isSome stood
          (plainChanged.isDirectory_iff.mp isDirectory).2.2
        have before : tree.isDirectory path = true :=
          plain.isDirectory_iff.mpr
            ⟨filled, (plain.passes_steps_iff directory).mp passes, directory⟩
        exact Bool.false_ne_true (rooted.symm.trans before)
      rw [Readme.scoreOf_of_not_isDirectory rooted, Readme.scoreOf_of_not_isDirectory rootedToo]

/-- The files of reports are indicated by no default indicator, so that documentation is present
where it was before, and where a new directory is indicated.
-/
theorem isPresent_of_differs {patterns : List (List Glob.Token)}
    (compiled : ApiDocs.compileAll ApiDocs.defaultIndicators = .ok patterns)
    : ApiDocs.isPresent changed patterns path = true
      ↔ ApiDocs.isPresent tree patterns path = true
        ∨ ∃ names,
            names ≠ []
            ∧ ApiDocs.indicates patterns ("/".intercalate names) = true
            ∧ tree.get? (spelled path ++ names) = none
            ∧ changed.get? (spelled path ++ names) = some .directory := by
  have stillThere := differs.contains plain plainChanged there
  simp only [ApiDocs.isPresent_eq_true_iff plain.toIsTree,
    ApiDocs.isPresent_eq_true_iff plainChanged.toIsTree, plain.standsAt?_eq there,
    plainChanged.standsAt?_eq stillThere]
  constructor
  · rintro ⟨names, node, below, stands, indicated⟩
    rcases differs (spelled path ++ names) with same | ⟨_, free, made⟩ | ⟨⟨time, ends⟩, _⟩
    · exact .inl ⟨names, node, below, same ▸ stands, indicated⟩
    · exact .inr ⟨names, below, indicated, free, made⟩
    · have quiet := not_indicates_of_isQuiet_end compiled below ends (ApiDocs.isQuiet_fileName time)
      exact absurd (quiet.symm.trans indicated) Bool.false_ne_true
  · rintro (⟨names, node, below, stands, indicated⟩ | ⟨names, below, indicated, _, made⟩)
    · obtain ⟨other, still⟩ := Option.isSome_iff_exists.mp
        (differs.isSome (Option.isSome_iff_exists.mpr ⟨node, stands⟩))
      exact ⟨names, other, below, still, indicated⟩
    · exact ⟨names, .directory, below, made, indicated⟩

end Undisturbed

-----------------------------------------------------------------------------------------
-- Reports in their default directory
-----------------------------------------------------------------------------------------

namespace Survey

variable {settings : Config.Coverage}

/-- By default reports go into two directories below the base path. -/
theorem components_reportsPath (isDefault : settings.reportsDirectory = "docs/reports")
    : Path.components settings.reportsPath
      = Path.components settings.basePath ++ [.name "docs"] ++ [.name "reports"] := by
  unfold Config.Coverage.reportsPath
  rw [isDefault]
  by_cases nothing : settings.basePath = ""
  · rw [nothing]
    decide
  · rw [Path.components_join_of_relative nothing (by decide), List.append_assoc]
    congr 1

theorem reportsPath_ne_empty (isDefault : settings.reportsDirectory = "docs/reports")
    : settings.reportsPath ≠ "" := by
  intro empty
  have parts := components_reportsPath isDefault
  rw [empty] at parts
  simp [Path.components] at parts

/-- A survey makes API documentation of its own: a directory that is missing on the way to the base
path is indicated as seen from one of the repositories, where nothing is indicated yet.
-/
def MakesApiDocs (survey : Survey) (tree : FileTree) : Prop :=
  ∃ name ∈ survey.settings.repositories,
    let path := Path.join survey.settings.basePath name
    ApiDocs.isPresent tree survey.patterns path = false
    ∧ ∃ names,
        names ≠ []
        ∧ ApiDocs.indicates survey.patterns ("/".intercalate names) = true
        ∧ OnTheWay survey.settings.basePath (spelled path ++ names)
        ∧ tree.get? (spelled path ++ names) = none

/-- Only where all repositories have absolute paths can a survey make API documentation: a relative
one that is there lies in the base path, which then is a directory.
-/
theorem not_makesApiDocs_of_relative (plain : tree.IsPlain) {survey : Survey} {name : String}
    (relative : Path.isAbsolute name = false)
    (there : tree.contains (Path.join survey.settings.basePath name) = true)
    : ¬ survey.MakesApiDocs tree := by
  rintro ⟨_, _, _, names, _, _, ⟨before, nonempty, within, isPlace⟩, free⟩
  have filled : survey.settings.basePath ≠ "" := by
    intro empty
    rw [empty] at within
    exact nonempty (List.prefix_nil.mp within)
  have passes := (plain.contains_iff.mp there).2.1
  have rooted := plain.isDirectory_of_join filled relative passes
  have stands := plain.directory_of_isDirectory rooted within
  rw [← isPlace, free] at stands
  simp at stands

/-- By default a report comes with no other directories than the two that hold it and those on the
way to the base path.
-/
theorem differs_of_write (plain : tree.IsPlain)
    (isDefault : settings.reportsDirectory = "docs/reports") {report : EcosystemReport}
    {problem : Option WriteError}
    (written : (report.write settings.reportsPath).apply tree = (changed, problem))
    : tree.Differs IsReportPlace
        (fun place => IsReportsPlace place ∨ OnTheWay settings.basePath place) changed := by
  intro place
  rcases (EcosystemReport.write_frame plain written).2 place
    with same | ⟨⟨before, nonempty, within, rfl⟩, free, made⟩ | ⟨_, here, noDirectory, now⟩
  · exact .inl same
  · refine .inr (.inl ⟨?_, free, made⟩)
    rw [components_reportsPath isDefault, List.prefix_concat_iff, List.prefix_concat_iff] at within
    rcases within with rfl | rfl | above
    · exact .inl ⟨"reports", by simp, by simp [reach_append, reach, Step.ofComponent]⟩
    · exact .inl ⟨"docs", by simp, by simp [reach_append, reach, Step.ofComponent]⟩
    · exact .inr ⟨before, nonempty, above, rfl⟩
  · refine .inr (.inr ⟨⟨report.generated, ?_⟩, noDirectory, _, now⟩)
    rw [here, EcosystemReport.path_eq,
      spelled_join _ (EcosystemReport.isName_fileName report.generated)]
    exact List.getLast?_concat

/-- The stats as they are found out at another time. -/
def restamped (stats : List RepositoryStats) (time : Time.Instant) : List RepositoryStats :=
  stats.map fun one => { one with updated := time }

/-- What is found out about a repository that is there. -/
def statsAt (survey : Survey) (tree : FileTree) (now : Time.Instant) (name : String)
    : RepositoryStats :=
  let path := Path.join survey.settings.basePath name
  { name
    declarations := (Declarations.count tree path survey.languages).value
    readmeScore := (Readme.scoreOf tree path).value
    hasApiDocs := ApiDocs.isPresent tree survey.patterns path
    updated := now }

/-- Where all repositories are there, something is found out about each of them. -/
theorem statsOf_eq_map {survey : Survey}
    (there : ∀ name ∈ survey.settings.repositories,
      tree.contains (Path.join survey.settings.basePath name) = true)
    (now : Time.Instant)
    : survey.statsOf tree now = survey.settings.repositories.map (survey.statsAt tree now) := by
  unfold statsOf
  rw [← List.filterMap_eq_map]
  refine List.filterMap_congr fun name member => ?_
  simp [repository?, statsAt, there name member]

/-- Where reports leave no other traces than files of their own and directories, the same is found
out again unless API documentation is.
-/
theorem statsOf_eq_restamped_iff (plain : tree.IsPlain) (plainChanged : changed.IsPlain)
    {directories : Place → Prop} (differs : tree.Differs IsReportPlace directories changed)
    {survey : Survey} (ready : ofSettings settings = .ok survey)
    (there : ∀ name ∈ settings.repositories,
      tree.contains (Path.join settings.basePath name) = true)
    (now later : Time.Instant)
    : survey.statsOf changed later = restamped (survey.statsOf tree now) later
      ↔ ∀ name ∈ settings.repositories,
          let path := Path.join settings.basePath name
          ApiDocs.isPresent changed survey.patterns path
            = ApiDocs.isPresent tree survey.patterns path := by
  obtain ⟨patterns, _, rfl⟩ := ofSettings_eq_ok_iff.mp ready
  have stillThere := fun name member => differs.contains plain plainChanged (there name member)
  rw [statsOf_eq_map stillThere, statsOf_eq_map there, restamped, List.map_map, List.map_inj_left]
  refine forall₂_congr fun name member => ?_
  simp [statsAt, count_of_differs plain plainChanged differs (there name member),
    scoreOf_of_differs plain plainChanged differs (there name member)]

-----------------------------------------------------------------------------------------
-- Whole surveys
-----------------------------------------------------------------------------------------

theorem written_eq {survey : Survey} (ready : ofSettings settings = .ok survey) (tree : FileTree)
    (now : Time.Instant)
    : survey.written tree now
      = ((survey.reportOf tree now).write settings.reportsPath).apply tree := by
  rw [← settings_of_ofSettings ready]
  rfl

/-- A survey whose report cannot be written ends with the problem. -/
theorem run_of_failed {survey : Survey} {now : Time.Instant} {problem : WriteError}
    (failed : survey.written tree now = (changed, some problem)) (receiver : Receiver)
    (options : Options)
    : (survey.run tree now receiver options).value = (changed, .error problem) := by
  rw [run_value, failed]

/-- A survey whose report is written comes to what was found out before. -/
theorem run_of_written {survey : Survey} {now : Time.Instant}
    (written : survey.written tree now = (changed, none)) (receiver : Receiver)
    (options : Options)
    : ∃ outcome,
        (survey.run tree now receiver options).value = (changed, .ok outcome)
        ∧ outcome.report = survey.reportOf tree now
        ∧ outcome.stats = survey.statsOf tree now
        ∧ outcome.path = (survey.reportOf tree now).path survey.settings.reportsPath := by
  rw [run_value, written]
  refine ⟨_, rfl, rfl, rfl, ?_⟩
  dsimp only

/-- Only the file of its report and missing directories on the way to it come of a survey, and the
file only if the survey has an outcome.
-/
theorem run_frame (plain : tree.IsPlain) (survey : Survey) (now : Time.Instant)
    (receiver : Receiver) (options : Options)
    : let run := (survey.run tree now receiver options).value
      run.1.IsPlain
      ∧ ∀ place,
          run.1.get? place = tree.get? place
          ∨ (OnTheWay survey.settings.reportsPath place
              ∧ tree.get? place = none
              ∧ run.1.get? place = some .directory)
          ∨ ∃ outcome,
              run.2 = .ok outcome
              ∧ place = spelled outcome.path
              ∧ tree.get? place ≠ some .directory
              ∧ run.1.get? place = some (.file (some outcome.report.text)) := by
  intro run
  rcases isWritten : survey.written tree now with ⟨changed, problem⟩
  obtain ⟨plainChanged, frame⟩ := EcosystemReport.write_frame plain isWritten
  cases problem with
  | some cause =>
      have ended : run = (changed, .error cause) := run_of_failed isWritten receiver options
      rw [ended]
      refine ⟨plainChanged, fun place => (frame place).imp id (.imp id ?_)⟩
      rintro ⟨isNone, _⟩
      simp at isNone
  | none =>
      obtain ⟨outcome, ended, report, _, path⟩ := run_of_written isWritten receiver options
      have result : run = (changed, .ok outcome) := ended
      rw [result]
      refine ⟨plainChanged, fun place => (frame place).imp id (.imp id ?_)⟩
      rintro ⟨_, here, noDirectory, stands⟩
      exact ⟨outcome, rfl, here.trans (congrArg spelled path).symm, noDirectory, report ▸ stands⟩

section Again

variable {survey : Survey} (plain : tree.IsPlain) (ready : ofSettings settings = .ok survey)
  (isDefault : settings.reportsDirectory = "docs/reports") {now : Time.Instant}
  (isWritten : survey.written tree now = (changed, none))

include plain ready isDefault isWritten

/-- After a survey that succeeded all directories on the way to the base path are there. -/
theorem directory_of_onTheWay {place : Place} (way : OnTheWay settings.basePath place)
    : changed.get? place = some .directory := by
  obtain ⟨before, _, within, rfl⟩ := way
  rw [written_eq ready] at isWritten
  have plainChanged := (EcosystemReport.write_frame plain isWritten).1
  have filled := reportsPath_ne_empty isDefault
  have rooted := EcosystemReport.isDirectory_of_write plain filled isWritten
  refine plainChanged.directory_of_isDirectory rooted (within.trans ?_)
  rw [components_reportsPath isDefault, List.append_assoc]
  exact List.prefix_append _ _

/-- A directory that a survey made and that is indicated lies on the way to the base path: those
that reports lie in by default are indicated nowhere.
-/
theorem onTheWay_of_indicated {patterns : List (List Glob.Token)}
    (compiled : ApiDocs.compileAll ApiDocs.defaultIndicators = .ok patterns)
    {above names : Place} (below : names ≠ [])
    (indicated : ApiDocs.indicates patterns ("/".intercalate names) = true)
    (free : tree.get? (above ++ names) = none)
    (isNew : changed.get? (above ++ names) = some .directory)
    : OnTheWay settings.basePath (above ++ names) := by
  rw [written_eq ready] at isWritten
  rcases differs_of_write plain isDefault isWritten (above ++ names)
    with same | ⟨isReports | way, _⟩ | ⟨_, _, _, file⟩
  · simp [same, free] at isNew
  · obtain ⟨last, ends, quiet⟩ := isQuiet_of_isReportsPlace isReports
    have missed := not_indicates_of_isQuiet_end compiled below ends quiet
    exact absurd (missed.symm.trans indicated) Bool.false_ne_true
  · exact way
  · simp [isNew] at file

/-- After a survey that succeeded the same is found out again, unless the survey made API
documentation. Directories on the way to the base path are there by then, and no others that are new
are indicated.
-/
theorem statsOf_again_iff (defaultIndicators : settings.indicators = ApiDocs.defaultIndicators)
    (there : ∀ name ∈ settings.repositories,
      tree.contains (Path.join settings.basePath name) = true)
    (later : Time.Instant)
    : survey.statsOf changed later = restamped (survey.statsOf tree now) later
      ↔ ¬ survey.MakesApiDocs tree := by
  have isSettings := settings_of_ofSettings ready
  have compiled : ApiDocs.compileAll ApiDocs.defaultIndicators = .ok survey.patterns := by
    obtain ⟨patterns, compiled, rfl⟩ := ofSettings_eq_ok_iff.mp ready
    exact defaultIndicators ▸ compiled
  have reported := (written_eq ready tree now).symm.trans isWritten
  have plainChanged := (EcosystemReport.write_frame plain reported).1
  have differs := differs_of_write plain isDefault reported
  rw [statsOf_eq_restamped_iff plain plainChanged differs ready there now later]
  unfold MakesApiDocs
  rw [isSettings]
  constructor
  · rintro same ⟨name, member, absent, names, below, indicated, way, free⟩
    have made := directory_of_onTheWay plain ready isDefault isWritten way
    have present := (isPresent_of_differs plain plainChanged differs (there name member)
      compiled).mpr (.inr ⟨names, below, indicated, free, made⟩)
    rw [same name member, absent] at present
    exact Bool.false_ne_true present
  · intro makesNone name member
    dsimp only
    rw [Bool.eq_iff_iff,
      isPresent_of_differs plain plainChanged differs (there name member) compiled]
    refine ⟨?_, .inl⟩
    rintro (present | ⟨names, below, indicated, free, isNew⟩)
    · exact present
    · have way := onTheWay_of_indicated plain ready isDefault isWritten compiled below indicated
        free isNew
      by_contra absent
      exact makesNone
        ⟨name, member, by simpa using absent, names, below, indicated, way, free⟩

/-- After a survey that succeeded only a directory of the same name keeps a report from being
written.
-/
theorem written_again {later : Time.Instant} {last : FileTree} {problem : WriteError}
    (failed : survey.written changed later = (last, some problem))
    : changed.isDirectory (Path.join settings.reportsPath (EcosystemReport.fileName later))
      = true := by
  rw [written_eq ready] at isWritten failed
  have plainChanged := (EcosystemReport.write_frame plain isWritten).1
  have rooted : changed.isDirectory settings.reportsPath = true :=
    EcosystemReport.isDirectory_of_write plain (reportsPath_ne_empty isDefault) isWritten
  by_contra free
  have succeeds : ∃ made,
      ((survey.reportOf changed later).write settings.reportsPath).apply changed = (made, none) :=
    EcosystemReport.apply_write_of_isDirectory plainChanged rooted (Bool.eq_false_iff.mpr free)
  obtain ⟨made, isMade⟩ := succeeds
  have contradictory := failed.symm.trans isMade
  simp at contradictory

end Again

/-- A survey changes nothing but the file of its report, and that only if it is written, and adds
nothing else but missing directories on the way there, whether it succeeds or not. Where the
directory of reports and the indicators are the default ones and all repositories were there, the
same is found out after a survey that succeeded, and the next survey comes to the same stats with
its own time, unless a directory has the name of its report. The exception is a survey that made API
documentation on the way to a base path that was missing, as seen from a repository with an absolute
path; then the stats differ. A single repository with a relative path rules it out.
-/
theorem run_disturbs_nothing (plain : tree.IsPlain) {survey : Survey}
    (ready : ofSettings settings = .ok survey) (now : Time.Instant) (receiver : Receiver)
    (options : Options)
    : let run := (survey.run tree now receiver options).value
      let changed := run.1
      changed.IsPlain
      ∧ (∀ place,
          changed.get? place = tree.get? place
          ∨ (OnTheWay settings.reportsPath place
              ∧ tree.get? place = none
              ∧ changed.get? place = some .directory)
          ∨ ∃ outcome,
              run.2 = .ok outcome
              ∧ place = spelled outcome.path
              ∧ tree.get? place ≠ some .directory
              ∧ changed.get? place = some (.file (some outcome.report.text)))
      ∧ (settings.reportsDirectory = ({} : Config.Coverage).reportsDirectory
          → settings.indicators = ({} : Config.Coverage).indicators
          → (∀ name ∈ settings.repositories,
              tree.contains (Path.join settings.basePath name) = true)
          → (∀ name ∈ settings.repositories,
              Path.isAbsolute name = false → ¬ survey.MakesApiDocs tree)
            ∧ ∀ outcome,
                run.2 = .ok outcome
                → ∀ later,
                    (survey.statsOf changed later = restamped outcome.stats later
                      ↔ ¬ survey.MakesApiDocs tree)
                    ∧ ∀ otherReceiver otherOptions,
                        let result := (survey.run changed later otherReceiver otherOptions).value.2
                        (∃ again,
                          result = .ok again
                          ∧ (again.stats = restamped outcome.stats later
                            ↔ ¬ survey.MakesApiDocs tree))
                        ∨ ∃ problem,
                            result = .error problem
                            ∧ changed.isDirectory
                                (Path.join settings.reportsPath (EcosystemReport.fileName later))
                              = true) := by
  intro run changed
  have sameSettings := settings_of_ofSettings ready
  obtain ⟨plainChanged, frame⟩ := run_frame plain survey now receiver options
  rw [sameSettings] at frame
  refine ⟨plainChanged, frame, ?_⟩
  intro isDefault defaultIndicators there
  refine ⟨fun name member relative =>
    not_makesApiDocs_of_relative plain relative (sameSettings ▸ there name member), ?_⟩
  intro outcome succeeds later
  rcases isWritten : survey.written tree now with ⟨made, _ | cause⟩
  · obtain ⟨same, ended, _, stats, _⟩ := run_of_written isWritten receiver options
    have left : changed = made := congrArg Prod.fst ended
    have isSame : run.2 = .ok same := congrArg Prod.snd ended
    obtain rfl := Except.ok.inj (succeeds.symm.trans isSame)
    have restamps := statsOf_again_iff plain ready isDefault isWritten defaultIndicators there later
    rw [left, stats]
    refine ⟨restamps, fun otherReceiver otherOptions => ?_⟩
    rcases again : survey.written made later with ⟨last, _ | problem⟩
    · obtain ⟨other, endedToo, _, otherStats, _⟩ :=
        run_of_written again otherReceiver otherOptions
      exact .inl ⟨other, congrArg Prod.snd endedToo, otherStats ▸ restamps⟩
    · have failed := run_of_failed again otherReceiver otherOptions
      exact .inr ⟨problem, congrArg Prod.snd failed,
        written_again plain ready isDefault isWritten again⟩
  · have failed : run.2 = .error cause :=
      congrArg Prod.snd (run_of_failed isWritten receiver options)
    simp [failed] at succeeds

/-- A tree whose directory of documents is a repository of its own. -/
def hub : FileTree :=
  ⟨[(["hub"], .directory),
    (["hub", "app"], .directory),
    (["hub", "app", "main.py"], .file (some "def run(): pass\n")),
    (["hub", "docs"], .directory),
    (["hub", "docs", "Readme"], .file (some "Usage"))]⟩

/-- Settings under which reports go into two of the repositories. -/
def hubSettings : Config.Coverage :=
  { basePath := "./hub", repositories := [".", "docs", "app/"] }

def hubSurvey : Survey :=
  ⟨hubSettings,
    ApiDocs.defaultIndicators.map fun indicator => Glob.fragment indicator.toList, Language.all⟩

/-- Reports that go into two of the repositories disturb none of them. -/
theorem run_of_hub
    : hub.IsPlain
      ∧ ofSettings hubSettings = .ok hubSurvey
      ∧ (∀ name ∈ hubSettings.repositories,
          hub.contains (Path.join hubSettings.basePath name) = true)
      ∧ ∃ changed outcome again,
          (hubSurvey.run hub ⟨0, 0⟩ .log {}).value = (changed, .ok outcome)
          ∧ outcome.stats.map RepositoryStats.name = [".", "docs", "app/"]
          ∧ changed.get? ["hub", "docs", "reports"] = some .directory
          ∧ (hubSurvey.run changed ⟨1, 0⟩ .log {}).value.2 = .ok again
          ∧ again.stats = restamped outcome.stats ⟨1, 0⟩ := by
  have plain : hub.IsPlain := by decide +kernel
  have texts : ∀ indicator ∈ hubSettings.indicators, ApiDocs.IsText indicator := by decide +kernel
  have ready : ofSettings hubSettings = .ok hubSurvey :=
    ofSettings_eq_ok_iff.mpr ⟨_, ApiDocs.compileAll_of_isText texts, rfl⟩
  have there : ∀ name ∈ hubSettings.repositories,
      hub.contains (Path.join hubSettings.basePath name) = true := by
    decide +kernel
  have succeeds : (hubSurvey.written hub ⟨0, 0⟩).2 = none := by decide +kernel
  have made : (hubSurvey.written hub ⟨0, 0⟩).1.get? ["hub", "docs", "reports"]
      = some .directory := by
    decide +kernel
  have free : (hubSurvey.written hub ⟨0, 0⟩).1.isDirectory
      (Path.join hubSettings.reportsPath (EcosystemReport.fileName ⟨1, 0⟩)) = false := by
    decide +kernel
  rcases isWritten : hubSurvey.written hub ⟨0, 0⟩ with ⟨changed, problem⟩
  rw [isWritten] at succeeds made free
  obtain rfl : problem = none := succeeds
  obtain ⟨outcome, ended, _, stats, _⟩ := run_of_written isWritten .log {}
  have names : outcome.stats.map RepositoryStats.name = [".", "docs", "app/"] := by
    rw [stats, statsOf_names]
    decide +kernel
  obtain ⟨_, _, remeasured⟩ := run_disturbs_nothing plain ready ⟨0, 0⟩ .log {}
  rw [ended] at remeasured
  dsimp only at remeasured made free
  obtain ⟨relative, restamps⟩ := remeasured rfl rfl there
  have makesNone : ¬ hubSurvey.MakesApiDocs hub := relative "docs" (by decide) (by decide)
  obtain ⟨_, second⟩ := restamps outcome rfl ⟨1, 0⟩
  have result := second .log {}
  rcases result with ⟨other, again, same⟩ | ⟨problem, failed, blocked⟩
  · exact ⟨plain, ready, there, changed, outcome, other, ended, names, made, again,
      same.mpr makesNone⟩
  · exact absurd (free.symm.trans blocked) Bool.false_ne_true

/-- A repository, and no directory of documents in it. -/
def office : FileTree :=
  ⟨[(["svc"], .directory)]⟩

/-- Settings whose base path is a missing directory of the repository, which has an absolute path.
-/
def officeSettings : Config.Coverage :=
  { basePath := "svc/swagger", repositories := ["/svc"] }

def officeSurvey : Survey :=
  ⟨officeSettings,
    ApiDocs.defaultIndicators.map fun indicator => Glob.fragment indicator.toList, Language.all⟩

/-- The first survey makes the base path for its report, and the second one takes it for
documentation.
-/
theorem run_makes_apiDocs
    : office.IsPlain
      ∧ ofSettings officeSettings = .ok officeSurvey
      ∧ officeSettings.reportsDirectory = ({} : Config.Coverage).reportsDirectory
      ∧ officeSettings.indicators = ({} : Config.Coverage).indicators
      ∧ (∀ name ∈ officeSettings.repositories,
          office.contains (Path.join officeSettings.basePath name) = true)
      ∧ ∃ changed last outcome again,
          (officeSurvey.run office ⟨0, 0⟩ .log {}).value = (changed, .ok outcome)
          ∧ (officeSurvey.run changed ⟨1, 0⟩ .log {}).value = (last, .ok again)
          ∧ outcome.stats.map RepositoryStats.hasApiDocs = [false]
          ∧ again.stats.map RepositoryStats.hasApiDocs = [true] := by
  have texts : ∀ indicator ∈ officeSettings.indicators, ApiDocs.IsText indicator := by
    decide +kernel
  have ready : ofSettings officeSettings = .ok officeSurvey :=
    ofSettings_eq_ok_iff.mpr ⟨_, ApiDocs.compileAll_of_isText texts, rfl⟩
  have succeeds : (officeSurvey.written office ⟨0, 0⟩).2 = none := by decide +kernel
  have missed : (officeSurvey.statsOf office ⟨0, 0⟩).map RepositoryStats.hasApiDocs = [false] := by
    decide +kernel
  have again : (officeSurvey.written (officeSurvey.written office ⟨0, 0⟩).1 ⟨1, 0⟩).2 = none := by
    decide +kernel
  have found : (officeSurvey.statsOf (officeSurvey.written office ⟨0, 0⟩).1 ⟨1, 0⟩).map
      RepositoryStats.hasApiDocs = [true] := by
    decide +kernel
  obtain ⟨outcome, ended, _, stats, _⟩ := run_of_written (Prod.ext rfl succeeds) .log {}
  obtain ⟨other, endedToo, _, otherStats, _⟩ := run_of_written (Prod.ext rfl again) .log {}
  exact ⟨by decide +kernel, ready, rfl, rfl, by decide +kernel, _, _, outcome, other, ended,
    endedToo, stats ▸ missed, otherStats ▸ found⟩

end Survey

end DocSurvey
