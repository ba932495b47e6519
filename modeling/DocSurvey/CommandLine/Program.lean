import DocSurvey.CommandLine.Arguments
import DocSurvey.CommandLine.LogFilter
import DocSurvey.Config.Load
import DocSurvey.Config.Validation
import DocSurvey.Coverage.Summary
import DocSurvey.Coverage.Survey
import DocSurvey.Footer.Check
import DocSurvey.Footer.Report

/-! The program as a whole: what it prints, what it logs, what it writes and how it ends. -/

namespace DocSurvey.CommandLine

/-- What the program finds around it. -/
structure Surroundings where
  tree : FileTree
  now : Time.Instant
  /-- Colours are shown. -/
  coloured : Bool
  /-- A filter for messages that takes the place of the usual one. -/
  logFilter : Option String

/-- A line that is printed, or a message that is logged. -/
inductive Output where
  | printed (line : String)
  | logged (message : Message)
  deriving Repr, DecidableEq, Inhabited

/-- A run of a command. All that it finds out it finds out before it writes anything. -/
structure Run where
  /-- What is put out before anything is written. -/
  before : List Output
  writing : FileAction String Unit
  /-- What is put out once everything is written. -/
  after : List Output

namespace Run

/-- The messages of a logged result as output. -/
def messages (logged : Logged α) : List Output :=
  logged.messages.map .logged

/-- A run that comes to nothing. -/
def failing (problem : String) : Run :=
  ⟨[], throw problem, []⟩

end Run

/-- The settings that are loaded and of use, or why there are none. -/
def usableSettings (loaded : Except Config.LoadError Config.Settings)
    : Except String Config.Settings :=
  match loaded with
  | .error problem => .error problem.message
  | .ok settings =>
      match settings.fault? with
      | some fault => .error fault.message
      | none => .ok settings

/-- The survey that the arguments ask for. -/
def runCoverage (arguments : CoverageArguments) (surroundings : Surroundings)
    (settings : Config.Settings) : Run :=
  let coverage : Config.Coverage :=
    { settings.coverage with
      basePath := arguments.basePath.getD settings.coverage.basePath }
  match Survey.ofSettings coverage with
  | .error problem => .failing problem.message
  | .ok survey =>
      let found := survey.findings surroundings.tree surroundings.now
      let report := found.value.report
      let options : Survey.Options := ⟨arguments.sendMetrics, arguments.createIssues⟩
      let delivered := survey.deliver Receiver.log options found.value
      let summary := Summary.lines surroundings.coloured report
      let saved : Message := ⟨.info, .survey, Survey.savedText found.value.path⟩
      let closing : Message :=
        ⟨.info, .commandLine, "Documentation analysis completed successfully"⟩
      { before := Run.messages found
        writing := ExceptT.adapt WriteError.message (report.write survey.settings.reportsPath)
        after := [.logged saved] ++ summary.map .printed ++ Run.messages delivered
          ++ [.logged closing] }

/-- The footer check that the arguments ask for. -/
def runFooters (arguments : FooterArguments) (surroundings : Surroundings)
    (settings : Config.Settings) : Run :=
  let tree := surroundings.tree
  let footer : Config.Footer :=
    { settings.footer with root := arguments.root.getD settings.footer.root }
  let warning : List Output :=
    if tree.isDirectory footer.root then []
    else [.logged ⟨.warn, .commandLine, s!"Footer root {footer.root} is not a directory"⟩]
  let checked := Footer.checkAll tree footer
  let report := Footer.report checked.value footer.brandLink
  let saved : Message :=
    ⟨.info, .commandLine,
      s!"Footer validation saved to {footer.reportPath} and {footer.dataPath}"⟩
  let summary := Footer.summaryLines surroundings.coloured
    (Footer.Summary.ofResults checked.value) footer.brandLink footer.reportPath footer.dataPath
  { before := warning
      ++ [.printed s!"🔍 Validating README footers under {footer.root}..."]
      ++ Run.messages checked
      ++ [.printed "📊 Generating validation report..."]
    writing := ExceptT.adapt WriteError.message
      (Footer.writeOutputs checked.value report footer.reportPath footer.dataPath)
    after := [.logged saved] ++ summary.map .printed }

/-- The end of a program: what it printed, with what code it ended, and the changed files. -/
structure Ending where
  code : Nat
  printed : String
  tree : FileTree

/-- A message as a line that starts with the time, on the terminal or in a file. -/
def messageLine (now : Time.Instant) (inFile : Bool) (message : Message) : String :=
  let level := String.ofList (List.replicate (5 - message.level.text.length) ' ')
    ++ message.level.text
  let area := if inFile then message.area.name ++ ": " else ""
  s!"{now.logText} {level} {area}{message.text}\n"

def terminalText (now : Time.Instant) (filter : LogFilter) (output : List Output) : String :=
  String.join <| output.map fun
    | .printed line => line ++ "\n"
    | .logged message => if filter.shows message then messageLine now false message else ""

/-- What the output adds to the log file. -/
def fileText (now : Time.Instant) (filter : LogFilter) (output : List Output) : String :=
  String.join <| output.map fun
    | .printed _ => ""
    | .logged message => if filter.shows message then messageLine now true message else ""

/-- The tree with a text at the end of a file, which is made if it is missing. A file that holds no
text still holds none.
-/
def appendTo (tree : FileTree) (path text : String) : Except SystemError FileTree :=
  match tree.readText path with
  | .ok content => tree.withFile path (some (content ++ text))
  | .error .missing => tree.withFile path (some text)
  | .error .notText => tree.withFile path none
  | .error cause => .error cause

/-- The tree with a text at the end of the log file, or as it is if the file takes none. -/
def extendLog (tree : FileTree) (logFile text : String) : FileTree :=
  (appendTo tree logFile text).toOption.getD tree

/-- A run of a command. Its log file is opened before anything else is done, and a message is in it
by the time that what comes after the message is written; where the file cannot be opened, the
terminal alone shows the messages.
-/
def runCommand (surroundings : Surroundings) (config : Option String) (verbose : Bool)
    (title : String) (run : Surroundings → Config.Settings → Run) : Ending :=
  let loaded := Config.load surroundings.tree config
  let logFile := (loaded.toOption.getD {}).logFile
  let usual := LogFilter.upTo (if verbose then .debug else .info)
  let filter := (surroundings.logFilter.bind LogFilter.ofText?).getD usual
  let opening := appendTo surroundings.tree logFile ""
  let (tree, warning) : FileTree × List Output := match opening with
    | .ok tree => (tree, [])
    | .error cause =>
        (surroundings.tree,
          [.logged ⟨.warn, .logging, s!"Could not open log file {logFile}: {cause.message}"⟩])
  let log (output : List Output) (tree : FileTree) : FileTree :=
    if opening.isOk then extendLog tree logFile (fileText surroundings.now filter output) else tree
  let started : Run := match usableSettings loaded with
    | .error problem => .failing problem
    | .ok settings => run { surroundings with tree } settings
  let before := warning ++ started.before
  let (written, failure) := started.writing.apply (log before tree)
  let after := match failure with
    | some problem => [.logged ⟨.error, .program, s!"{title} failed: {problem}"⟩]
    | none => started.after
  { code := if failure.isSome then 1 else 0
    printed := terminalText surroundings.now filter (before ++ after)
    tree := log after written }

def versionLine : String := "docaudit 0.1.0\n"

/-- The whole program. Arguments that cannot be understood end it with the code two. -/
def respond (arguments : List String) (surroundings : Surroundings) : Ending :=
  match readArguments? arguments with
  | none => ⟨2, "", surroundings.tree⟩
  | some .help => ⟨0, "", surroundings.tree⟩
  | some .version => ⟨0, versionLine, surroundings.tree⟩
  | some (.coverage arguments) =>
      runCommand surroundings arguments.config arguments.verbose "Documentation analysis"
        (runCoverage arguments)
  | some (.footers arguments) =>
      runCommand surroundings arguments.config arguments.verbose "Footer validation"
        (runFooters arguments)

end DocSurvey.CommandLine
