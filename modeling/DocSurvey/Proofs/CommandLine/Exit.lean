import DocSurvey.CommandLine.Program
import DocSurvey.Proofs.Coverage.Traces
import DocSurvey.Proofs.Files.Contents
import DocSurvey.Proofs.Footer.Repetition

/-! How the program ends. What is found in the repositories has no part in it: a command fails if
its settings cannot be loaded or are of no use, or if what it has to write finds no place. Where
settings are at fault nothing but the log file is touched, and where they are not, the command makes
the survey they ask for.
-/

namespace DocSurvey

open FileTree

-----------------------------------------------------------------------------------------
-- What a command has to write
-----------------------------------------------------------------------------------------

namespace CommandLine

variable {tree changed : FileTree}

/-- Directories to be made and files to be written in them. -/
structure Outputs where
  directories : List String
  files : List String

/-- The directories can be made, one after the other, and then there is a place for each file. -/
def Outputs.CanBeWritten (outputs : Outputs) (tree : FileTree) : Prop :=
  ∃ made,
    (outputs.directories.forM FileAction.makeDirectories).Yields tree () made
    ∧ ∀ file ∈ outputs.files, made.AcceptsFile file

theorem yields_makeAll_nil_iff
    : (List.forM [] FileAction.makeDirectories).Yields tree () changed ↔ tree = changed :=
  FileAction.yields_pure_iff.trans (and_iff_right rfl)

/-- Several directories are made if the first one is and then the others are. -/
theorem yields_makeAll_cons_iff {first : String} {rest : List String}
    : (List.forM (first :: rest) FileAction.makeDirectories).Yields tree () changed
      ↔ ∃ between,
          (FileAction.makeDirectories first).Yields tree () between
          ∧ (rest.forM FileAction.makeDirectories).Yields between () changed := by
  change (FileAction.makeDirectories first >>= fun _ =>
    rest.forM FileAction.makeDirectories).Yields tree () changed ↔ _
  rw [FileAction.yields_bind_iff]
  exact ⟨fun ⟨_, between, made, others⟩ => ⟨between, made, others⟩,
    fun ⟨between, made, others⟩ => ⟨(), between, made, others⟩⟩

/-- Directories are made, one after the other, whatever files hold. -/
theorem ignoresContents_makeAll (directories : List String)
    : FileAction.IgnoresContents (directories.forM FileAction.makeDirectories) := by
  induction directories with
  | nil => exact FileAction.ignoresContents_pure
  | cons first rest ih => exact (FileAction.ignoresContents_makeDirectories first).bind fun _ => ih

theorem Outputs.CanBeWritten.of_alike {outputs : Outputs} (written : outputs.CanBeWritten tree)
    {other : FileTree} (alike : tree.Alike other)
    : outputs.CanBeWritten other := by
  obtain ⟨made, done, accepts⟩ := written
  obtain ⟨madeToo, doneToo, alikeAfter⟩ :=
    ignoresContents_makeAll outputs.directories tree other made alike done
  exact ⟨madeToo, doneToo, fun file member => alikeAfter.acceptsFile_iff.mpr (accepts file member)⟩

/-- What files hold does not decide whether outputs can be written. -/
theorem Outputs.canBeWritten_iff_of_alike {outputs : Outputs} {other : FileTree}
    (alike : tree.Alike other)
    : outputs.CanBeWritten other ↔ outputs.CanBeWritten tree :=
  ⟨fun written => written.of_alike alike.symm, fun written => written.of_alike alike⟩

/-- The settings of a survey, as far as the arguments leave them. -/
def CoverageArguments.settings (arguments : CoverageArguments) (settings : Config.Settings)
    : Config.Coverage :=
  { settings.coverage with basePath := arguments.basePath.getD settings.coverage.basePath }

/-- The settings of a footer check, as far as the arguments leave them. -/
def FooterArguments.settings (arguments : FooterArguments) (settings : Config.Settings)
    : Config.Footer :=
  { settings.footer with root := arguments.root.getD settings.footer.root }

/-- A survey writes its report. -/
def CoverageArguments.outputs (arguments : CoverageArguments) (now : Time.Instant)
    (settings : Config.Settings)
    : Outputs :=
  let directory := (arguments.settings settings).reportsPath
  ⟨[directory], [Path.join directory (EcosystemReport.fileName now)]⟩

/-- A footer check writes its report and its results. -/
def FooterArguments.outputs (arguments : FooterArguments) (settings : Config.Settings) : Outputs :=
  let footer := arguments.settings settings
  ⟨[Path.parent footer.reportPath, Path.parent footer.dataPath],
    [footer.reportPath, footer.dataPath]⟩

/-- What a command does with files: where its settings are, if they are named, and what it writes.
-/
structure Task where
  config : Option String
  outputs : Config.Settings → Outputs

/-- The task of a command, unless it is to send metrics or only tells about the program. -/
def Command.task? (now : Time.Instant) : Command → Option Task
  | .coverage arguments =>
      if arguments.sendMetrics then none else some ⟨arguments.config, arguments.outputs now⟩
  | .footers arguments => some ⟨arguments.config, arguments.outputs⟩
  | .version => none
  | .help => none

-----------------------------------------------------------------------------------------
-- The log file
-----------------------------------------------------------------------------------------

/-- What a file holds with a text at its end. -/
def extended (before : Option Node) (text : String) : Option String :=
  match before with
  | some (.file content) => content.map (· ++ text)
  | _ => some text

/-- Texts that are added one after the other are added together. -/
theorem extended_extended (before : Option Node) (first second : String)
    : extended (some (.file (extended before first))) second
      = extended before (first ++ second) := by
  rcases before with _ | ⟨_ | content⟩ | _ | _ <;> simp [extended, String.append_assoc]

/-- A text is put at the end of a file wherever one can be put. -/
theorem appendTo_eq_ok_iff (isTree : tree.IsTree) {path text : String}
    : appendTo tree path text = .ok changed
      ↔ ∃ place,
          tree.locate true path = .ok place
          ∧ tree.TakesFile place
          ∧ changed = tree.insert place (.file (extended (tree.get? place) text)) := by
  unfold appendTo readText find withFile
  cases leads : tree.locate true path with
  | error cause => cases cause <;> simp [bind, Except.bind]
  | ok place =>
      cases stands : tree.get? place with
      | none => simp [bind, Except.bind, stands, TakesFile, extended, eq_comm]
      | some node =>
          cases node with
          | directory => simp [bind, Except.bind, stands, TakesFile]
          | file content =>
              cases content <;>
                simp [bind, Except.bind, stands, TakesFile, extended, eq_comm]
          | link target =>
              have takes := isTree.takesFile_of_locate leads (by simp [stands])
              simp [TakesFile, stands] at takes

/-- A text in the log file leaves the tree sound. -/
theorem isSound_extendLog (sound : tree.IsSound) (logFile text : String)
    : (extendLog tree logFile text).IsSound := by
  unfold extendLog
  cases done : appendTo tree logFile text with
  | error cause => exact sound
  | ok changed =>
      obtain ⟨place, leads, takes, rfl⟩ := (appendTo_eq_ok_iff sound.toIsTree).mp done
      exact sound.withFile (withFile_eq_ok_iff.mpr ⟨place, leads, takes.noDirectory, rfl⟩)

/-- What is added to a log file that is open changes what the file holds and nothing else. -/
theorem alike_extendLog (sound : tree.IsSound) {logFile : String}
    (isOpen : appendTo tree logFile "" = .ok changed) (text : String)
    : changed.Alike (extendLog changed logFile text) := by
  have soundOpen : changed.IsSound := by
    have kept := isSound_extendLog sound logFile ""
    rwa [extendLog, isOpen] at kept
  obtain ⟨log, leads, takes, rfl⟩ := (appendTo_eq_ok_iff sound.toIsTree).mp isOpen
  have same := sameBut_insert takes (extended (tree.get? log) "")
  unfold extendLog
  rw [(appendTo_eq_ok_iff soundOpen.toIsTree).mpr
    ⟨log, same.locate leads, same.takesToo, rfl⟩]
  exact alike_insert (by rw [get?_insert _ takes.ne_nil, if_pos rfl]) _

/-- The tree once the log file is opened, as far as that is possible. -/
def opened (tree : FileTree) (logFile : String) : FileTree :=
  (appendTo tree logFile "").toOption.getD tree

theorem isSound_opened (sound : tree.IsSound) (logFile : String)
    : (opened tree logFile).IsSound :=
  isSound_extendLog sound logFile ""

theorem opened_of_ok {logFile : String} (isOpen : appendTo tree logFile "" = .ok changed)
    : opened tree logFile = changed := by
  rw [opened, isOpen]
  rfl

theorem opened_of_error {logFile : String} {cause : SystemError}
    (failed : appendTo tree logFile "" = .error cause)
    : opened tree logFile = tree := by
  rw [opened, failed]
  rfl

/-- Nothing is different but the log file, and that holds what it held and at most more. -/
def DiffersByLog (logFile : String) (tree changed : FileTree) : Prop :=
  changed = tree
  ∨ ∃ log text,
      tree.locate true logFile = .ok log
      ∧ tree.TakesFile log
      ∧ ∀ place,
          changed.get? place
            = if place = log then some (.file (extended (tree.get? log) text)) else tree.get? place

/-- What is added to the log file of a tree that differs by it is added where the file is. -/
theorem DiffersByLog.extendLog {logFile : String} (differs : DiffersByLog logFile tree changed)
    (sound : changed.IsSound) (text : String)
    : DiffersByLog logFile tree (extendLog changed logFile text) := by
  unfold CommandLine.extendLog
  cases done : appendTo changed logFile text with
  | error cause => exact differs
  | ok longer =>
      obtain ⟨place, leads, takes, rfl⟩ := (appendTo_eq_ok_iff sound.toIsTree).mp done
      rcases differs with rfl | ⟨log, before, leadsBefore, takesBefore, holds⟩
      · exact .inr ⟨place, text, leads, takes, fun _ => get?_insert _ takes.ne_nil _ _⟩
      · have same : SameBut log tree changed :=
          { takes := takesBefore
            takesToo := .inr ⟨_, (holds log).trans (if_pos rfl)⟩
            elsewhere := fun apart differs => (holds apart).trans (if_neg differs) }
        obtain rfl : log = place := Except.ok.inj ((same.locate leadsBefore).symm.trans leads)
        refine .inr ⟨log, before ++ text, leadsBefore, takesBefore, fun apart => ?_⟩
        simp only [Except.toOption, Option.getD_some, get?_insert _ takes.ne_nil, holds, if_true,
          extended_extended]
        split <;> rfl

-----------------------------------------------------------------------------------------
-- Settings
-----------------------------------------------------------------------------------------

/-- Settings are of use exactly if they are loaded and have no fault. -/
theorem usableSettings_eq_ok_iff {loaded : Except Config.LoadError Config.Settings}
    {settings : Config.Settings}
    : usableSettings loaded = .ok settings
      ↔ loaded = .ok settings ∧ settings.fault? = none := by
  unfold usableSettings
  cases loaded with
  | error problem => simp
  | ok found =>
      cases fault : found.fault? with
      | none =>
          simp only [fault, Except.ok.injEq]
          exact ⟨fun same => ⟨same, same ▸ fault⟩, And.left⟩
      | some problem =>
          simp only [fault, Except.ok.injEq, reduceCtorEq, false_iff]
          rintro ⟨rfl, noFault⟩
          simp [fault] at noFault

/-- Settings are looked for in the named file, else in the first of the usual ones that is there. -/
theorem load_eq (tree : FileTree) (config : Option String)
    : Config.load tree config
      = match config with
        | some path => Config.loadFile tree path
        | none =>
            if tree.contains "docaudit.yaml" = true then Config.loadFile tree "docaudit.yaml"
            else if tree.contains ".docaudit.yaml" = true then
              Config.loadFile tree ".docaudit.yaml"
            else .ok {} := by
  cases config with
  | some path => rfl
  | none =>
      unfold Config.load Config.source? Config.discover? Config.usualNames
      rw [List.find?_cons, List.find?_cons]
      cases tree.contains "docaudit.yaml" <;> cases tree.contains ".docaudit.yaml" <;> rfl

/-- Each indicator of usable settings can be compiled. -/
theorem compile_of_usable {settings : Config.Settings} (usable : settings.fault? = none)
    {indicator : String} (member : indicator ∈ settings.coverage.indicators)
    : ApiDocs.compile indicator = .ok ((ApiDocs.compile indicator).toOption.getD []) := by
  have faultless : settings.coverage.indicators.findSome? Config.indicatorFault? = none := by
    unfold Config.Settings.fault? at usable
    split at usable
    · simp at usable
    · split at usable
      · simp at usable
      · assumption
  have noFault := List.findSome?_eq_none_iff.mp faultless indicator member
  unfold Config.indicatorFault? at noFault
  split at noFault
  · simp at noFault
  · split at noFault
    · rename_i pattern compiled
      rw [compiled]
      rfl
    · simp at noFault

/-- A survey of usable settings is ready to run, wherever the repositories are. -/
theorem exists_survey {settings : Config.Settings} (usable : settings.fault? = none) (base : String)
    : ∃ survey, Survey.ofSettings { settings.coverage with basePath := base } = .ok survey := by
  have compiled := ApiDocs.compileAll_of_forall fun _ => compile_of_usable usable
  exact ⟨_, Survey.ofSettings_eq_ok_iff.mpr ⟨_, compiled, rfl⟩⟩

-----------------------------------------------------------------------------------------
-- Runs
-----------------------------------------------------------------------------------------

theorem apply_snd_eq_none_iff {action : FileAction String Unit}
    : (action.apply tree).2 = none ↔ ∃ changed, action.Yields tree () changed := by
  simp only [← FileAction.apply_eq_none_iff]
  rcases action.apply tree with ⟨changed, problem⟩
  simp

/-- With usable settings it is what the run of the command writes that fails or not, on a tree whose
log file is opened and may hold more by then.
-/
theorem runCommand_of_usable {surroundings : Surroundings} (sound : surroundings.tree.IsSound)
    {config : Option String} {verbose : Bool} {title : String}
    {run : Surroundings → Config.Settings → Run} {settings : Config.Settings}
    (usable : usableSettings (Config.load surroundings.tree config) = .ok settings)
    : let tree := opened surroundings.tree settings.logFile
      let started := run { surroundings with tree } settings
      ∃ logged,
        tree.Alike logged
        ∧ logged.IsSound
        ∧ (runCommand surroundings config verbose title run).code
          = if (started.writing.apply logged).2.isSome then 1 else 0 := by
  intro tree started
  obtain ⟨loaded, noFault⟩ := usableSettings_eq_ok_iff.mp usable
  have soundOpen : tree.IsSound := isSound_opened sound settings.logFile
  rw [loaded] at usable
  cases isOpen : appendTo surroundings.tree settings.logFile "" with
  | error cause =>
      have untouched : tree = surroundings.tree := opened_of_error isOpen
      refine ⟨tree, .refl tree, soundOpen, ?_⟩
      simp only [started, untouched, runCommand, loaded, usable, isOpen, Except.toOption,
        Option.getD_some]
      rfl
  | ok between =>
      have isBetween : tree = between := opened_of_ok isOpen
      let usual := LogFilter.upTo (if verbose then .debug else .info)
      let filter := (surroundings.logFilter.bind LogFilter.ofText?).getD usual
      refine ⟨extendLog tree settings.logFile (fileText surroundings.now filter started.before),
        ?_, ?_, ?_⟩
      · exact isBetween ▸ alike_extendLog sound isOpen _
      · exact isSound_extendLog soundOpen _ _
      · simp only [started, isBetween, runCommand, loaded, usable, isOpen, Except.toOption,
          Option.getD_some]
        rfl

/-- Without usable settings nothing is run, and nothing but the log file is touched. -/
theorem runCommand_of_unusable {surroundings : Surroundings} (sound : surroundings.tree.IsSound)
    {config : Option String} {verbose : Bool} {title : String}
    {run : Surroundings → Config.Settings → Run} {problem : String}
    (unusable : usableSettings (Config.load surroundings.tree config) = .error problem)
    : let ending := runCommand surroundings config verbose title run
      let logFile := ((Config.load surroundings.tree config).toOption.getD {}).logFile
      ending.code = 1 ∧ DiffersByLog logFile surroundings.tree ending.tree := by
  intro ending logFile
  have differs : DiffersByLog logFile surroundings.tree (opened surroundings.tree logFile) :=
    DiffersByLog.extendLog (.inl rfl) sound ""
  have soundOpen := isSound_opened sound logFile
  simp only [ending, runCommand, unusable]
  cases isOpen : appendTo surroundings.tree logFile "" with
  | error cause => exact ⟨rfl, .inl rfl⟩
  | ok between =>
      rw [opened_of_ok isOpen] at differs soundOpen
      exact ⟨rfl, (differs.extendLog soundOpen _).extendLog (isSound_extendLog soundOpen _ _) _⟩

/-- What a survey writes fails only where its report cannot be written, whatever was found. -/
theorem runCoverage_writes_iff {arguments : CoverageArguments}
    {surroundings : Surroundings} {settings : Config.Settings} (usable : settings.fault? = none)
    : ((runCoverage arguments surroundings settings).writing.apply tree).2 = none
      ↔ (arguments.outputs surroundings.now settings).CanBeWritten tree := by
  obtain ⟨survey, ready⟩ := exists_survey usable
    (arguments.basePath.getD settings.coverage.basePath)
  have ownSettings : survey.settings = arguments.settings settings :=
    Survey.settings_of_ofSettings ready
  simp only [runCoverage, ready]
  rw [apply_snd_eq_none_iff]
  simp only [FileAction.yields_adapt_iff, EcosystemReport.yields_write_iff, ownSettings]
  unfold CoverageArguments.outputs Outputs.CanBeWritten
  simp only [yields_makeAll_cons_iff, yields_makeAll_nil_iff, exists_eq_right,
    List.forall_mem_singleton]
  constructor
  · rintro ⟨changed, between, made, done⟩
    exact ⟨between, made, exists_withFile_iff.mp ⟨changed, done⟩⟩
  · rintro ⟨between, made, accepts⟩
    obtain ⟨changed, done⟩ := exists_withFile_iff.mpr accepts
    exact ⟨changed, between, made, done⟩

/-- The messages among output. -/
def messagesOf (output : List Output) : List Message :=
  output.filterMap fun
    | .logged message => some message
    | .printed _ => none

theorem messagesOf_messages {α : Type} (logged : Logged α)
    : messagesOf (Run.messages logged) = logged.messages := by
  simp [messagesOf, Run.messages, List.filterMap_map]

theorem messagesOf_printed (lines : List String) : messagesOf (lines.map .printed) = [] := by
  simp [messagesOf, List.filterMap_map]

theorem messagesOf_append (first second : List Output)
    : messagesOf (first ++ second) = messagesOf first ++ messagesOf second :=
  List.filterMap_append

/-- The command makes the survey that its settings ask for: it writes the same, fails with the same
problem, and logs the same, with a closing message if it succeeds.
-/
theorem runCoverage_makes_survey {arguments : CoverageArguments} {surroundings : Surroundings}
    {settings : Config.Settings} {survey : Survey}
    (ready : Survey.ofSettings (arguments.settings settings) = .ok survey)
    : let started := runCoverage arguments surroundings settings
      let options : Survey.Options := ⟨arguments.sendMetrics, arguments.createIssues⟩
      let run := survey.run surroundings.tree surroundings.now .log options
      let closing : Message :=
        ⟨.info, .commandLine, "Documentation analysis completed successfully"⟩
      match run.value with
      | (changed, .ok _) =>
          started.writing.apply surroundings.tree = (changed, none)
          ∧ messagesOf (started.before ++ started.after) = run.messages ++ [closing]
      | (changed, .error problem) =>
          started.writing.apply surroundings.tree = (changed, some problem.message)
          ∧ messagesOf started.before = run.messages := by
  intro started options run closing
  have messages := Survey.run_messages survey surroundings.tree surroundings.now .log options
  rw [Survey.writeReport_messages] at messages
  have writes : started.writing.apply surroundings.tree
      = ((survey.written surroundings.tree surroundings.now).1,
          (survey.written surroundings.tree surroundings.now).2.map WriteError.message) := by
    unfold CoverageArguments.settings at ready
    simp only [started, runCoverage, ready, Survey.findings_value, FileAction.apply_adapt]
    rfl
  have before : messagesOf started.before
      = (survey.findings surroundings.tree surroundings.now).messages := by
    unfold CoverageArguments.settings at ready
    simp only [started, runCoverage, ready, messagesOf_messages]
  have after : messagesOf started.after
      = [⟨.info, .survey, Survey.savedText
          ((survey.reportOf surroundings.tree surroundings.now).path survey.settings.reportsPath)⟩]
        ++ Receiver.log.transcript [] (survey.wanted options
            (survey.reportOf surroundings.tree surroundings.now)
            (survey.statsOf surroundings.tree surroundings.now))
        ++ [closing] := by
    unfold CoverageArguments.settings at ready
    simp only [started, runCoverage, ready, messagesOf_append, messagesOf_messages,
      messagesOf_printed, Survey.deliver_messages, Survey.findings_value]
    rfl
  simp only [run]
  rw [Survey.run_value, messages]
  rcases outcome : survey.written surroundings.tree surroundings.now with ⟨changed, _ | problem⟩
  · rw [outcome] at writes
    refine ⟨writes, ?_⟩
    simp [messagesOf_append, before, after, List.append_assoc]
  · rw [outcome] at writes
    exact ⟨writes, by simp [before]⟩

/-- The directory that a path lies in is made, if the path has one. -/
theorem yields_provideParent_iff {path : String}
    : (Footer.provideParent path).Yields tree () changed
      ↔ (FileAction.makeDirectories (Path.parent path)).Yields tree () changed := by
  simp only [Footer.provideParent]
  split
  · exact FileAction.yields_adapt_iff
  · rename_i unnamed
    have empty : Path.parent path = "" := by simpa using unnamed
    have nothing : FileAction.makeDirectories "" = pure () := by
      unfold FileAction.makeDirectories
      rw [show Path.components "" = [] by decide +kernel]
      rfl
    rw [empty, nothing, FileAction.yields_pure_iff, FileAction.yields_pure_iff]

/-- What a footer check writes fails only where its report or its results cannot be written. The
first file that is written takes no place from the second one, whatever is in it.
-/
theorem runFooters_writes_iff {arguments : FooterArguments} {surroundings : Surroundings}
    {settings : Config.Settings} (sound : tree.IsSound)
    : ((runFooters arguments surroundings settings).writing.apply tree).2 = none
      ↔ (arguments.outputs settings).CanBeWritten tree := by
  rw [apply_snd_eq_none_iff]
  unfold runFooters FooterArguments.outputs Outputs.CanBeWritten FooterArguments.settings
  simp only [FileAction.yields_adapt_iff, Footer.yields_writeOutputs_iff, yields_provideParent_iff,
    yields_makeAll_cons_iff, yields_makeAll_nil_iff, exists_eq_right, List.forall_mem_cons,
    List.not_mem_nil, false_imp_iff, implies_true, and_true]
  have soundAfter {path : String} {before after : FileTree} (isSound : before.IsSound)
      (made : (FileAction.makeDirectories path).Yields before () after)
      : after.IsSound :=
    (FileAction.keepsSound_makeDirectories path).yields isSound made
  constructor
  · rintro ⟨changed, first, second, third, made, madeToo, reported, stored⟩
    have isTree := (soundAfter (soundAfter sound made) madeToo).toIsTree
    refine ⟨second, ⟨first, made, madeToo⟩, exists_withFile_iff.mp ⟨third, reported⟩, ?_⟩
    exact (isTree.acceptsFile_withFile_iff reported).mp (exists_withFile_iff.mp ⟨changed, stored⟩)
  · rintro ⟨second, ⟨first, made, madeToo⟩, accepts, acceptsToo⟩
    have isTree := (soundAfter (soundAfter sound made) madeToo).toIsTree
    obtain ⟨third, reported⟩ := exists_withFile_iff.mpr accepts
    obtain ⟨changed, stored⟩ := exists_withFile_iff.mpr
      ((isTree.acceptsFile_withFile_iff reported).mpr acceptsToo)
    exact ⟨changed, first, second, third, made, madeToo, reported, stored⟩

/-- The task of a command decides how its run ends, whatever else is asked for. -/
theorem respond_of_task {surroundings : Surroundings} {arguments : List String}
    {command : Command} {task : Task} (read : readArguments? arguments = some command)
    (isTask : command.task? surroundings.now = some task)
    : ∃ verbose title run,
        respond arguments surroundings = runCommand surroundings task.config verbose title run
        ∧ ∀ tree logged settings,
            logged.IsSound
            → settings.fault? = none
            → (((run { surroundings with tree } settings).writing.apply logged).2 = none
              ↔ (task.outputs settings).CanBeWritten logged) := by
  cases command with
  | coverage options =>
      obtain ⟨_, rfl⟩ : options.sendMetrics = false
          ∧ ⟨options.config, options.outputs surroundings.now⟩ = task := by
        simpa [Command.task?] using isTask
      refine ⟨options.verbose, "Documentation analysis", runCoverage options, ?_, ?_⟩
      · simp only [respond, read]
      · exact fun tree logged settings _ usable => runCoverage_writes_iff usable
  | footers options =>
      obtain rfl : ⟨options.config, options.outputs⟩ = task := Option.some.inj isTask
      refine ⟨options.verbose, "Footer validation", runFooters options, ?_, ?_⟩
      · simp only [respond, read]
      · exact fun tree logged settings isSound _ => runFooters_writes_iff isSound
  | version => simp [Command.task?] at isTask
  | help => simp [Command.task?] at isTask

section Task

variable {surroundings : Surroundings} (sound : surroundings.tree.IsSound)
  {arguments : List String} {command : Command} {task : Task}
  (read : readArguments? arguments = some command)
  (isTask : command.task? surroundings.now = some task)

include sound read isTask

/-- A command whose settings are of no use ends with the code one and touches its log alone. -/
theorem respond_of_unusable {problem : String}
    (unusable : usableSettings (Config.load surroundings.tree task.config) = .error problem)
    : let ending := respond arguments surroundings
      let logFile := ((Config.load surroundings.tree task.config).toOption.getD {}).logFile
      ending.code = 1 ∧ DiffersByLog logFile surroundings.tree ending.tree := by
  intro ending logFile
  obtain ⟨verbose, title, run, responds, _⟩ := respond_of_task read isTask
  simp only [ending, responds]
  exact runCommand_of_unusable sound unusable

/-- A command whose settings are of use ends with the code zero exactly if its outputs can be
written.
-/
theorem respond_of_usable {settings : Config.Settings}
    (usable : usableSettings (Config.load surroundings.tree task.config) = .ok settings)
    : let written := (task.outputs settings).CanBeWritten
        (opened surroundings.tree settings.logFile)
      (respond arguments surroundings).code = 0 ∧ written
      ∨ (respond arguments surroundings).code = 1 ∧ ¬ written := by
  intro written
  obtain ⟨verbose, title, run, responds, fails⟩ := respond_of_task read isTask
  have noFault := (usableSettings_eq_ok_iff.mp usable).2
  obtain ⟨logged, alike, soundLogged, code⟩ := runCommand_of_usable sound usable
  simp only [written, ← Outputs.canBeWritten_iff_of_alike alike]
  rw [responds, code, ← fails _ logged settings soundLogged noFault]
  cases FileAction.apply _ logged |>.2 with
  | none => simp
  | some problem => simp

end Task

/-- A command that is not to send metrics ends with the code zero exactly if its settings can be
loaded and have no fault and what it has to write can be written once the log file is opened, and
otherwise with the code one. The settings are those of the named file, else of the first of the
usual files that is there, else the defaults. Where they cannot be loaded, the tree differs by the
default log file at most, and where they have a fault, by the one they name. No indicator of
settings without fault keeps a survey from being made.
-/
theorem respond_exits (surroundings : Surroundings) (sound : surroundings.tree.IsSound)
    (arguments : List String) (command : Command) (task : Task)
    (read : readArguments? arguments = some command)
    (isTask : command.task? surroundings.now = some task)
    : let tree := surroundings.tree
      let ending := respond arguments surroundings
      let loaded := match task.config with
        | some path => Config.loadFile tree path
        | none =>
            if tree.contains "docaudit.yaml" = true then Config.loadFile tree "docaudit.yaml"
            else if tree.contains ".docaudit.yaml" = true then
              Config.loadFile tree ".docaudit.yaml"
            else .ok {}
      (ending.code = 0
        ↔ ∃ settings,
            loaded = .ok settings
            ∧ settings.fault? = none
            ∧ (task.outputs settings).CanBeWritten (opened tree settings.logFile))
      ∧ (ending.code ≠ 0 → ending.code = 1)
      ∧ (∀ problem,
          loaded = .error problem
          → ending.code = 1 ∧ DiffersByLog "docaudit.log" tree ending.tree)
      ∧ (∀ settings fault,
          loaded = .ok settings
          → settings.fault? = some fault
          → ending.code = 1 ∧ DiffersByLog settings.logFile tree ending.tree)
      ∧ ∀ (settings : Config.Settings) (base : String),
          settings.fault? = none
          → ∃ survey,
              Survey.ofSettings { settings.coverage with basePath := base } = .ok survey := by
  intro tree ending loaded
  have isLoaded : Config.load surroundings.tree task.config = loaded := load_eq tree task.config
  have unusable : ∀ problem, usableSettings loaded = .error problem
      → ending.code = 1
        ∧ DiffersByLog (loaded.toOption.getD {}).logFile tree ending.tree := by
    rw [← isLoaded]
    exact fun problem => respond_of_unusable sound read isTask
  have usable : ∀ settings, usableSettings loaded = .ok settings
      → ending.code = 0 ∧ (task.outputs settings).CanBeWritten (opened tree settings.logFile)
        ∨ ending.code = 1
          ∧ ¬ (task.outputs settings).CanBeWritten (opened tree settings.logFile) := by
    rw [← isLoaded]
    exact fun settings => respond_of_usable sound read isTask
  refine ⟨?zero, ?one, ?unloaded, ?faulty, fun settings base noFault => exists_survey noFault base⟩
  case zero =>
    constructor
    · intro zero
      cases decided : usableSettings loaded with
      | error problem => simp [(unusable problem decided).1] at zero
      | ok settings =>
          obtain ⟨isSettings, noFault⟩ := usableSettings_eq_ok_iff.mp decided
          rcases usable settings decided with ⟨_, written⟩ | ⟨one, _⟩
          · exact ⟨settings, isSettings, noFault, written⟩
          · simp [one] at zero
    · rintro ⟨settings, isSettings, noFault, written⟩
      have decided := usableSettings_eq_ok_iff.mpr ⟨isSettings, noFault⟩
      rcases usable settings decided with ⟨zero, _⟩ | ⟨_, unwritten⟩
      · exact zero
      · exact absurd written unwritten
  case one =>
    intro nonzero
    cases decided : usableSettings loaded with
    | error problem => exact (unusable problem decided).1
    | ok settings =>
        exact (usable settings decided).elim (fun ends => absurd ends.1 nonzero) And.left
  case unloaded =>
    intro problem failed
    have logs := unusable problem.message (by rw [failed]; rfl)
    rwa [failed] at logs
  case faulty =>
    intro settings fault isSettings isFault
    have logs := unusable fault.message (by rw [isSettings, usableSettings, isFault])
    rwa [isSettings] at logs

/-- A survey of the default repositories, of which there is none, writes its report all the same; a
footer check whose settings leave no brand to look for stops short of everything but its log.
-/
theorem respond_exits_of_two
    : let office (file : Node) : Surroundings :=
        { tree := ⟨[(["docaudit.yaml"], file), (["srv"], .directory)]⟩, now := ⟨0, 0⟩
          coloured := false, logFilter := none }
      let plain := office (.file (some "\x7b\x7d"))
      let faulty := office (.file (some "log_file: srv/run.log\nfooter:\n  brand_link: ''\n"))
      (∃ settings,
          Config.loadFile plain.tree "docaudit.yaml" = .ok settings
          ∧ (CoverageArguments.outputs { basePath := some "srv" } ⟨0, 0⟩ settings).CanBeWritten
            (opened plain.tree settings.logFile))
      ∧ (respond ["footers", "-v"] faulty).code = 1
      ∧ DiffersByLog "srv/run.log" faulty.tree (respond ["footers", "-v"] faulty).tree := by
  intro office plain faulty
  have isPlain : plain.tree.IsPlain := by decide +kernel
  have isPlainToo : faulty.tree.IsPlain := by decide +kernel
  have there : plain.tree.contains "docaudit.yaml" = true := by decide +kernel
  have thereToo : faulty.tree.contains "docaudit.yaml" = true := by decide +kernel
  obtain ⟨survey, _⟩ := respond_exits plain isPlain.toIsSound ["coverage", "--base-path", "srv"]
    (.coverage { basePath := some "srv" }) _ (by decide +kernel) rfl
  obtain ⟨_, _, _, check, _⟩ := respond_exits faulty isPlainToo.toIsSound ["footers", "-v"]
    (.footers { verbose := true }) _ (by decide +kernel) rfl
  obtain ⟨settings, isLoaded, _, written⟩ := survey.mp (by decide +kernel)
  simp only [there, if_true] at isLoaded
  have read : ((Config.loadFile faulty.tree "docaudit.yaml").toOption.map fun settings =>
      (settings.fault?, settings.logFile)) = some (some .noBrand, "srv/run.log") := by
    decide +kernel
  cases isOthers : Config.loadFile faulty.tree "docaudit.yaml" with
  | error problem => simp [isOthers, Except.toOption] at read
  | ok others =>
      rw [isOthers] at read
      obtain ⟨noBrand, logFile⟩ := Prod.mk.inj (Option.some.inj read)
      have logs := check others .noBrand (by simpa only [thereToo, if_true] using isOthers) noBrand
      exact ⟨⟨settings, isLoaded, written⟩, logs.1, logFile ▸ logs.2⟩

end CommandLine

end DocSurvey
