import DocSurvey.Proofs.Files.Frame
import DocSurvey.Proofs.Footer.Check
import DocSurvey.Proofs.Footer.Storage

/-! A footer check that is run again. Main statement: the second run comes to the results of the
first one and leaves the tree as it is, unless the first run makes the directory that lets the path
of the root lead to READMEs.
-/

namespace DocSurvey.Footer

open FileTree

variable {tree changed : FileTree}

-----------------------------------------------------------------------------------------
-- The directories that files lie in
-----------------------------------------------------------------------------------------

/-- The directory of a file is there in the end, if the path names one. -/
theorem isDirectory_of_provideParent (plain : tree.IsPlain) {path : String}
    (made : (provideParent path).Yields tree () changed)
    : Path.parent path = "" ∨ changed.isDirectory (Path.parent path) = true := by
  by_cases empty : Path.parent path = ""
  · exact .inl empty
  · simp only [provideParent, FileAction.provideDirectory] at made
    rw [if_pos (by simpa using empty), FileAction.yields_adapt_iff] at made
    exact .inr (FileAction.isDirectory_of_makeDirectories plain empty made)

/-- A directory that is there, or that no one needs, is not made. -/
theorem provideParent_of_isDirectory (plain : tree.IsPlain) {path : String}
    (there : Path.parent path = "" ∨ tree.isDirectory (Path.parent path) = true)
    : (provideParent path).Yields tree () tree := by
  simp only [provideParent]
  rcases there with empty | rooted
  · rw [if_neg (by simp [empty])]
    exact FileAction.yields_pure_iff.mpr ⟨rfl, rfl⟩
  · split
    · exact FileAction.yields_adapt_iff.mpr (FileAction.makeDirectories_of_isDirectory plain rooted)
    · exact FileAction.yields_pure_iff.mpr ⟨rfl, rfl⟩

/-- To provide a directory adds directories and nothing else. -/
theorem provideParent_differs (plain : tree.IsPlain) {path : String}
    (made : (provideParent path).Yields tree () changed)
    : changed.IsPlain ∧ tree.Adds (fun _ => True) changed := by
  have keeps := keeps_provideParent
    (FileAction.adds_makeDirectories tree (Path.parent path))
  obtain ⟨plainChanged, adds⟩ := keeps.yields ⟨plain, Adds.refl _ tree⟩ made
  exact ⟨plainChanged, adds.mono fun _ _ => trivial⟩

-----------------------------------------------------------------------------------------
-- Outputs that stand already
-----------------------------------------------------------------------------------------

/-- The path leads to a file with the text, and the directory it lies in is one as its path is
spelled.
-/
structure Holds (tree : FileTree) (path text : String) : Prop where
  filled : path ≠ ""
  passes : tree.Passes (steps path) []
  stands : tree.get? (spelled path) = some (.file (some text))
  inside : Path.parent path = "" ∨ tree.isDirectory (Path.parent path) = true

/-- To write what a file holds changes nothing. -/
theorem Holds.withFile (plain : tree.IsPlain) {path text : String} (holds : Holds tree path text)
    : tree.withFile path (some text) = .ok tree := by
  have noDirectory : tree.get? (spelled path) ≠ some .directory := by simp [holds.stands]
  have below : spelled path ≠ [] := by
    intro top
    have stands := holds.stands
    simp [top] at stands
  rw [plain.withFile_eq_ok holds.filled holds.passes noDirectory,
    plain.insert_of_get? below holds.stands]

/-- What a file holds is read from it. -/
theorem Holds.readText (plain : tree.IsPlain) {path text : String} (holds : Holds tree path text)
    : tree.readText path = .ok text := by
  have found : tree.find true path = .ok (spelled path, .file (some text)) :=
    plain.find_eq_ok_iff.mpr ⟨holds.filled, holds.passes, rfl, holds.stands⟩
  unfold FileTree.readText
  rw [found]
  rfl

/-- A file that was written stays while other places change. -/
theorem Holds.of_withFile {between : FileTree} (plain : tree.IsPlain) {path text : String}
    (done : tree.withFile path (some text) = .ok between)
    (inside : Path.parent path = "" ∨ tree.isDirectory (Path.parent path) = true)
    {files directories : Place → Prop} (differs : between.Differs files directories changed)
    (apart : ¬ files (spelled path)) (plainChanged : changed.IsPlain)
    : Holds changed path text := by
  obtain ⟨plainBetween, filled, passes, _, _, now⟩ := plain.withFile done
  have stay := plain.withFile_differs done
  refine ⟨filled, ?_, ?_, inside.imp id fun there => ?_⟩
  · exact (passes.mono fun _ => stay.directory).mono fun _ => differs.directory
  · exact (differs.file_iff apart).mpr (by simp [now])
  · exact differs.isDirectory plainBetween plainChanged (stay.isDirectory plain plainBetween there)

/-- Outputs that stand already are written over by themselves. -/
theorem writeOutputs_again (plain : tree.IsPlain) {results : Results}
    {report reportPath dataPath : String} (reported : Holds tree reportPath report)
    (stored : Holds tree dataPath results.toJson.pretty)
    : (writeOutputs results report reportPath dataPath).apply tree = (tree, none) :=
  FileAction.apply_eq_none_iff.mpr <| yields_writeOutputs_iff.mpr
    ⟨tree, tree, tree, provideParent_of_isDirectory plain reported.inside,
      provideParent_of_isDirectory plain stored.inside, reported.withFile plain,
      stored.withFile plain⟩

/-- Once outputs are written to different places they stand there, and apart from them at most new
directories are there.
-/
theorem holds_of_writeOutputs (plain : tree.IsPlain) {results : Results}
    {report reportPath dataPath : String} (apart : spelled reportPath ≠ spelled dataPath)
    (written : (writeOutputs results report reportPath dataPath).apply tree = (changed, none))
    : changed.IsPlain
      ∧ Holds changed reportPath report
      ∧ Holds changed dataPath results.toJson.pretty
      ∧ tree.Differs (fun place => place = spelled reportPath ∨ place = spelled dataPath)
          (fun _ => True) changed := by
  obtain ⟨first, second, third, made, madeToo, reported, stored⟩ :=
    yields_writeOutputs_iff.mp (FileAction.apply_eq_none_iff.mp written)
  obtain ⟨plainFirst, addsFirst⟩ := provideParent_differs plain made
  obtain ⟨plainSecond, addsSecond⟩ := provideParent_differs plainFirst madeToo
  have plainThird := (plainSecond.withFile reported).1
  have plainChanged := (plainThird.withFile stored).1
  have writesReport := plainSecond.withFile_differs reported
  have writesData := plainThird.withFile_differs stored
  have reportInside := isDirectory_of_provideParent plain made
  have dataInside := isDirectory_of_provideParent plainFirst madeToo
  have toSecond : first.Differs (fun _ => False) (fun _ => True) second := addsSecond.differs
  have unchanged : changed.Differs (fun _ => False) (fun _ => True) changed :=
    (Adds.refl _ changed).differs
  refine ⟨plainChanged, ?_, ?_, ?_⟩
  · exact .of_withFile plainSecond reported
      (reportInside.imp id (toSecond.isDirectory plainFirst plainSecond)) writesData apart
      plainChanged
  · exact .of_withFile plainThird stored
      (dataInside.imp id (writesReport.isDirectory plainSecond plainThird)) unchanged id
      plainChanged
  · have differs : tree.Differs (fun place => place = spelled reportPath ∨ place = spelled dataPath)
        (fun _ => True) second := (addsFirst.trans addsSecond).differs
    refine differs.trans (.trans (writesReport.mono ?_ ?_) (writesData.mono ?_ ?_))
    · exact fun _ => .inl
    · exact fun _ => False.elim
    · exact fun _ => .inr
    · exact fun _ => False.elim

-----------------------------------------------------------------------------------------
-- The READMEs of the second run
-----------------------------------------------------------------------------------------

/-- Where no README is visited nothing is found. -/
theorem checkAll_of_visits {settings : Config.Footer} (nothing : visits tree settings = [])
    : (checkAll tree settings).value = [] := by
  rw [checkAll_value, nothing]
  rfl

/-- Nothing is checked where the root leads nowhere. -/
theorem checkAll_of_not_contains {settings : Config.Footer}
    (nowhere : tree.contains settings.root = false)
    : (checkAll tree settings).value = [] := by
  refine checkAll_of_visits ?_
  unfold visits
  cases walked : tree.walkFrom (fun name => !settings.excludedDirectories.contains name)
      settings.root with
  | error cause => rfl
  | ok all =>
      obtain ⟨_, place, ending, _, leads, _⟩ := walkFrom_eq_ok walked
      simp [contains, leads, Except.isOk, Except.toBool] at nowhere

/-- A root that leads to a file is checked itself if it has the name of a README, and that is all.
-/
theorem checkAll_of_file (plain : tree.IsPlain) {settings : Config.Footer} {place : Place}
    {content : Option String} (leads : tree.find true settings.root = .ok (place, .file content))
    : (checkAll tree settings).value
      = if (Path.fileName? settings.root).any isReadmeName then
          [(Path.relativeKey settings.root settings.root, resultOf (.ofSettings settings) content)]
        else [] := by
  have walked :
      tree.walkFrom (fun name => !settings.excludedDirectories.contains name) settings.root
        = .ok [⟨[], .file content⟩] := by
    simp [walkFrom, ← plain.find_follow, leads, bind, Except.bind, pure, Except.pure]
  have result : (analyzeFile tree (.ofSettings settings) settings.root).value
      = resultOf (.ofSettings settings) content := by
    unfold analyzeFile readText
    rw [leads]
    cases content <;> rfl
  rw [checkAll_value, visits, walked]
  cases named : (Path.fileName? settings.root).any isReadmeName with
  | false => simp [Except.toOption, Visit.isFile, Visit.path, named, Data.orderedByKey]
  | true =>
      simp [Except.toOption, Visit.isFile, Visit.path, named, entryOf, result, Data.orderedByKey,
        Data.insertByKey]

/-- The name is that of a README in whatever case. -/
def EndsInReadme (place : Place) : Prop :=
  ∃ name, place.getLast? = some name ∧ isReadmeName name = true

/-- A place below another one ends in a README by its own names. -/
theorem endsInReadme_append_iff (place : Place) {names : Place} (below : names ≠ [])
    : EndsInReadme (place ++ names) ↔ EndsInReadme names := by
  simp only [EndsInReadme, List.getLast?_append_of_ne_nil _ below]

/-- Below a root that leads to a directory, a README is a file of such a name in it. -/
theorem isReadme_iff {settings : Config.Footer} {place : Place}
    (leads : tree.find true settings.root = .ok (place, .directory)) {names : Place}
    {content : Option String}
    : IsReadme tree settings names content
      ↔ names ≠ []
        ∧ tree.get? (place ++ names) = some (.file content)
        ∧ EndsInReadme (place ++ names)
        ∧ ∀ directory ∈ names.dropLast, directory ∉ settings.excludedDirectories := by
  by_cases below : names = []
  · simp [IsReadme, below]
  · rw [endsInReadme_append_iff place below]
    simp only [IsReadme, EndsInReadme, isReadmeName_iff, standsAt?_of_ne_nil _ below, leads, ne_eq,
      below, not_false_eq_true, true_and]

/-- The place of a file that a root leads to is that of a README if the root has such a name. -/
theorem endsInReadme_spelled_iff (plain : tree.IsPlain) {root : String} {content : Option String}
    (leads : tree.find true root = .ok (spelled root, .file content))
    : EndsInReadme (spelled root) ↔ (Path.fileName? root).any isReadmeName = true := by
  obtain ⟨_, passes, _, stands⟩ := plain.find_eq_ok_iff.mp leads
  obtain ⟨above, name, shape, fileName⟩ := plain.exists_fileName passes (by simp [stands])
  simp [EndsInReadme, shape, fileName]

/-- A README that counts stands at the place that the path of the root spells, or below it. -/
def SpellsReadme (tree : FileTree) (settings : Config.Footer) : Prop :=
  ∃ names content,
    tree.get? (spelled settings.root ++ names) = some (.file content)
    ∧ EndsInReadme (spelled settings.root ++ names)
    ∧ ∀ directory ∈ names.dropLast, directory ∉ settings.excludedDirectories

/-- Where the root leads somewhere, there is something to check if its path spells a README. -/
theorem checkAll_eq_nil_iff (plain : tree.IsPlain) {settings : Config.Footer}
    (there : tree.contains settings.root = true)
    : (checkAll tree settings).value = [] ↔ ¬ SpellsReadme tree settings := by
  obtain ⟨filled, passes, something⟩ := plain.contains_iff.mp there
  obtain ⟨node, stands⟩ := Option.isSome_iff_exists.mp something
  have leads : tree.find true settings.root = .ok (spelled settings.root, node) :=
    plain.find_eq_ok_iff.mpr ⟨filled, passes, rfl, stands⟩
  cases node with
  | link target => exact absurd stands (plain.noLinks _ _)
  | file content =>
      -- Nothing stands below a file, so that only the root itself can be a README.
      have atRoot : SpellsReadme tree settings ↔ EndsInReadme (spelled settings.root) := by
        constructor
        · rintro ⟨names, other, file, ends, _⟩
          by_cases below : names = []
          · simpa [below] using ends
          · have directory := plain.get?_above below file
            simp [stands] at directory
        · intro ends
          exact ⟨[], content, by simpa using stands, by simpa using ends, by simp⟩
      rw [checkAll_of_file plain leads, atRoot, endsInReadme_spelled_iff plain leads]
      cases (Path.fileName? settings.root).any isReadmeName <;> simp
  | directory =>
      have rooted : tree.isDirectory settings.root = true := by simp [isDirectory, leads]
      rw [List.eq_nil_iff_forall_not_mem, ← not_exists]
      refine not_congr ⟨?_, ?_⟩
      · rintro ⟨⟨key, result⟩, member⟩
        have among := (checkAll_perm plain.toIsTree rooted).mem_iff.mp member
        obtain ⟨names, content, readme, _, _⟩ := (mem_entries plain.toIsTree rooted).mp among
        obtain ⟨_, file, ends, entered⟩ := (isReadme_iff leads).mp readme
        exact ⟨names, content, file, ends, entered⟩
      · rintro ⟨names, content, file, ends, entered⟩
        have below : names ≠ [] := by
          rintro rfl
          simp [stands] at file
        have readme := (isReadme_iff leads).mpr ⟨below, file, ends, entered⟩
        have among := (mem_entries plain.toIsTree rooted).mpr ⟨names, content, readme, rfl, rfl⟩
        exact ⟨_, (checkAll_perm plain.toIsTree rooted).mem_iff.mpr among⟩

/-- A check overlooks a README: its root leads nowhere until the changes are made and somewhere from
then on, although a README that counts stood all the while where the path of the root spells or
below.
-/
def OverlooksReadme (tree changed : FileTree) (settings : Config.Footer) : Prop :=
  tree.contains settings.root = false
  ∧ changed.contains settings.root = true
  ∧ SpellsReadme tree settings

section SecondRun

variable {files directories : Place → Prop} {settings : Config.Footer}
  (differs : tree.Differs files directories changed)
  (others : ∀ place, files place → ¬ EndsInReadme place)

include differs others

/-- Files of other names do not change which READMEs there are. -/
theorem file_iff_of_endsInReadme {place : Place} (ends : EndsInReadme place)
    {content : Option String}
    : changed.get? place = some (.file content) ↔ tree.get? place = some (.file content) :=
  differs.file_iff fun isFile => others place isFile ends

/-- Files of other names make no README and take none away. -/
theorem spellsReadme_congr : SpellsReadme changed settings ↔ SpellsReadme tree settings := by
  refine exists₂_congr fun names content => ?_
  exact and_congr_left fun ⟨ends, _⟩ => file_iff_of_endsInReadme differs others ends

/-- Files of other names and new directories do not change the results where the root leads
somewhere.
-/
theorem checkAll_of_contains (plain : tree.IsPlain) (plainChanged : changed.IsPlain)
    (there : tree.contains settings.root = true)
    : (checkAll changed settings).value = (checkAll tree settings).value := by
  obtain ⟨filled, passes, something⟩ := plain.contains_iff.mp there
  obtain ⟨node, stands⟩ := Option.isSome_iff_exists.mp something
  have passesToo := passes.mono fun _ => differs.directory
  have leads : tree.find true settings.root = .ok (spelled settings.root, node) :=
    plain.find_eq_ok_iff.mpr ⟨filled, passes, rfl, stands⟩
  have leadsToo {other : Node} (standsToo : changed.get? (spelled settings.root) = some other)
      : changed.find true settings.root = .ok (spelled settings.root, other) :=
    plainChanged.find_eq_ok_iff.mpr ⟨filled, passesToo, rfl, standsToo⟩
  cases node with
  | link target => exact absurd stands (plain.noLinks _ _)
  | directory =>
      have now := leadsToo (differs.directory stands)
      refine checkAll_congr plain.toIsTree plainChanged.toIsTree (by simp [isDirectory, leads])
        (by simp [isDirectory, now]) rfl fun names content => ?_
      rw [isReadme_iff leads, isReadme_iff now]
      refine and_congr_right fun _ => and_congr_left fun counts => ?_
      exact file_iff_of_endsInReadme differs others counts.1
  | file content =>
      obtain ⟨other, now⟩ := Option.isSome_iff_exists.mp (differs.isSome something)
      cases other with
      | link target => exact absurd now (plainChanged.noLinks _ _)
      | directory =>
          have before := differs.directory_of_isSome something now
          simp [stands] at before
      | file written =>
          rw [checkAll_of_file plain leads, checkAll_of_file plainChanged (leadsToo now)]
          -- Only a file that has no name of a README can have been written over.
          split
          · rename_i named
            have ends := (endsInReadme_spelled_iff plain leads).mpr named
            have kept := (file_iff_of_endsInReadme differs others ends).mp now
            obtain rfl : content = written := by simpa [stands] using kept
            rfl
          · rfl

/-- Files of other names and new directories do not change the results, exactly unless a README is
overlooked at first.
-/
theorem checkAll_eq_iff (plain : tree.IsPlain) (plainChanged : changed.IsPlain)
    : (checkAll changed settings).value = (checkAll tree settings).value
      ↔ ¬ OverlooksReadme tree changed settings := by
  unfold OverlooksReadme
  cases found : tree.contains settings.root with
  | true => simpa using checkAll_of_contains differs others plain plainChanged found
  | false =>
      rw [checkAll_of_not_contains found]
      cases foundToo : changed.contains settings.root with
      | false => simpa using checkAll_of_not_contains foundToo
      | true =>
          rw [checkAll_eq_nil_iff plainChanged foundToo, spellsReadme_congr differs others]
          simp

end SecondRun

-----------------------------------------------------------------------------------------
-- Whole runs
-----------------------------------------------------------------------------------------

def reportOf (tree : FileTree) (settings : Config.Footer) : String :=
  report (checkAll tree settings).value settings.brandLink

/-- A check of a tree whose report and data are written to it: the changed tree, and what kept them
from being written, if anything did.
-/
def runOn (tree : FileTree) (settings : Config.Footer) : FileTree × Option WriteError :=
  (writeOutputs (checkAll tree settings).value (reportOf tree settings) settings.reportPath
    settings.dataPath).apply tree

/-- A run that succeeds is repeated by the next one: that comes to the same results and the same
report, writes the same two files, and leaves the tree exactly as it is. The outputs have to be
different files and no READMEs, and the first run must not overlook a README at or below the place
that the path of the root spells: it could make the directory that lets the path lead there. Where
it overlooks one, the results are others.
-/
theorem run_idempotent (plain : tree.IsPlain) {settings : Config.Footer}
    (apart : spelled settings.reportPath ≠ spelled settings.dataPath)
    (reportNamed : (Path.fileName? settings.reportPath).any isReadmeName = false)
    (dataNamed : (Path.fileName? settings.dataPath).any isReadmeName = false)
    (succeeds : runOn tree settings = (changed, none))
    : let results := (checkAll tree settings).value
      ((checkAll changed settings).value = results ↔ ¬ OverlooksReadme tree changed settings)
      ∧ (¬ OverlooksReadme tree changed settings
          → (checkAll changed settings).value = results
            ∧ reportOf changed settings = reportOf tree settings
            ∧ runOn changed settings = (changed, none)
            ∧ changed.readText settings.reportPath = .ok (reportOf tree settings)
            ∧ changed.readText settings.dataPath = .ok results.toJson.pretty) := by
  intro results
  obtain ⟨plainChanged, reported, stored, differs⟩ :=
    holds_of_writeOutputs plain apart succeeds
  have notReadme : ∀ {path text : String}, Holds changed path text
      → (Path.fileName? path).any isReadmeName = false
      → ¬ EndsInReadme (spelled path) := by
    rintro path text holds named ⟨name, ends, isReadme⟩
    obtain ⟨above, last, shape, fileName⟩ :=
      plainChanged.exists_fileName holds.passes (by simp [holds.stands])
    obtain rfl : last = name := by simpa [shape] using ends
    simp [fileName, isReadme] at named
  have others : ∀ place,
      (place = spelled settings.reportPath ∨ place = spelled settings.dataPath)
      → ¬ EndsInReadme place := by
    rintro place (rfl | rfl)
    · exact notReadme reported reportNamed
    · exact notReadme stored dataNamed
  have decides : (checkAll changed settings).value = results
      ↔ ¬ OverlooksReadme tree changed settings :=
    checkAll_eq_iff differs others plain plainChanged
  refine ⟨decides, fun overlooksNone => ?_⟩
  have same := decides.mpr overlooksNone
  have sameReport : reportOf changed settings = reportOf tree settings := by
    rw [reportOf, same]
    rfl
  refine ⟨same, sameReport, ?_, reported.readText plainChanged, stored.readText plainChanged⟩
  rw [runOn, same, sameReport]
  exact writeOutputs_again plainChanged reported stored

/-- Two READMEs, one of them in a directory that is left out, and a file where the data goes. -/
def workshop : FileTree :=
  ⟨[(["shop"], .directory),
    (["shop", "ReadMe.MD"], .file (some "# Shop\n\n---\n")),
    (["shop", "data"], .directory),
    (["shop", "data", "footers.json"], .file none),
    (["shop", "node_modules"], .directory),
    (["shop", "node_modules", "README.md"], .file (some "# Part\n"))]⟩

/-- The report goes to a directory that is left out, the data next to one that is not there yet. -/
def workshopSettings : Config.Footer :=
  { root := "./shop/"
    reportFile := ".git/audit/report.md"
    dataFile := "logs/../data/footers.json" }

/-- The second run of a check in a shop comes to what the first one did. -/
theorem run_in_workshop
    : workshop.IsPlain
      ∧ spelled workshopSettings.reportPath ≠ spelled workshopSettings.dataPath
      ∧ (Path.fileName? workshopSettings.reportPath).any isReadmeName = false
      ∧ (Path.fileName? workshopSettings.dataPath).any isReadmeName = false
      ∧ ∃ changed,
          runOn workshop workshopSettings = (changed, none)
          ∧ runOn changed workshopSettings = (changed, none)
          ∧ (checkAll changed workshopSettings).value.map Prod.fst = ["ReadMe.MD"] := by
  have plain : workshop.IsPlain := by decide +kernel
  have apart : spelled workshopSettings.reportPath ≠ spelled workshopSettings.dataPath := by
    decide +kernel
  have reportNamed : (Path.fileName? workshopSettings.reportPath).any isReadmeName = false := by
    decide +kernel
  have dataNamed : (Path.fileName? workshopSettings.dataPath).any isReadmeName = false := by
    decide +kernel
  have found : workshop.contains workshopSettings.root = true := by decide +kernel
  have succeeds : (runOn workshop workshopSettings).2 = none := by decide +kernel
  rcases ended : runOn workshop workshopSettings with ⟨changed, problem⟩
  rw [ended] at succeeds
  obtain rfl : problem = none := succeeds
  have overlooksNone : ¬ OverlooksReadme workshop changed workshopSettings := by
    rintro ⟨nowhere, _⟩
    simp [found] at nowhere
  obtain ⟨_, repeats⟩ := run_idempotent plain apart reportNamed dataNamed ended
  obtain ⟨same, _, again, _⟩ := repeats overlooksNone
  have keys : (checkAll workshop workshopSettings).value.map Prod.fst = ["ReadMe.MD"] := by
    decide +kernel
  rw [← same] at keys
  exact ⟨plain, apart, reportNamed, dataNamed, changed, rfl, again, keys⟩

/-- A README whose directory is reached by way of one that is missing. -/
def crossing : FileTree :=
  ⟨[(["b"], .directory), (["b", "README.md"], .file (some "x"))]⟩

/-- Settings whose root is spelled through the missing directory. -/
def crossingSettings : Config.Footer :=
  { root := "a/../b" }

/-- The first run makes the missing directory, and only the second one finds the README. -/
theorem run_overlooks_readme
    : crossing.IsPlain
      ∧ spelled crossingSettings.reportPath ≠ spelled crossingSettings.dataPath
      ∧ (Path.fileName? crossingSettings.reportPath).any isReadmeName = false
      ∧ (Path.fileName? crossingSettings.dataPath).any isReadmeName = false
      ∧ (runOn crossing crossingSettings).2 = none
      ∧ (checkAll crossing crossingSettings).value.map Prod.fst = []
      ∧ (checkAll (runOn crossing crossingSettings).1 crossingSettings).value.map Prod.fst
        = ["README.md"] := by
  decide +kernel

end DocSurvey.Footer
