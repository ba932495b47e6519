import DocSurvey.ApiDocs
import DocSurvey.Config.Settings
import DocSurvey.Coverage.Dashboard
import DocSurvey.Declarations.Survey
import DocSurvey.Readme

/-! A survey of repositories: what is found out about each of them, the report that is written, and
the metrics and issues that follow from it. Only a report that cannot be written ends a survey; what
does not arrive is logged.
-/

namespace DocSurvey

/-- A survey that is ready to run: its settings, the patterns of its indicators, and the languages
whose declarations it counts.
-/
structure Survey where
  settings : Config.Coverage
  patterns : List (List Glob.Token)
  languages : List Language := Language.all

namespace Survey

/-- The survey of the settings, unless one of the indicators is of no use. -/
def ofSettings (settings : Config.Coverage) (languages : List Language := Language.all)
    : Except ApiDocs.IndicatorError Survey :=
  return { settings, patterns := ← ApiDocs.compileAll settings.indicators, languages }

/-- What is found out about a repository; nothing if there is none of the name. -/
def repository? (survey : Survey) (tree : FileTree) (now : Time.Instant) (name : String)
    : Logged (Option RepositoryStats) := do
  let path := Path.join survey.settings.basePath name
  if tree.contains path then
    Logged.say .info .survey s!"Analyzing repository: {name}"
    let declarations ← Declarations.count tree path survey.languages
    let readmeScore ← Readme.scoreOf tree path
    return some
      { name, declarations, readmeScore
        hasApiDocs := ApiDocs.isPresent tree survey.patterns path
        updated := now }
  else
    Logged.say .warn .survey s!"Repository {name} not found at {path}"
    return none

/-- What is found out about the repositories, those that are missing passed over. -/
def repositories (survey : Survey) (tree : FileTree) (now : Time.Instant)
    : List String → Logged (List RepositoryStats)
  | [] => return []
  | name :: rest => do
      let first ← survey.repository? tree now name
      let others ← survey.repositories tree now rest
      return first.toList ++ others

/-- What follows a report, each on request. -/
structure Options where
  sendMetrics : Bool := false
  createIssues : Bool := false
  deriving Repr, DecidableEq, Inhabited

/-- Hands a delivery to a receiver; one that does not arrive is logged. The result is all that the
receiver was handed.
-/
def hand (receiver : Receiver) (before : List Delivery) (delivery : Delivery)
    : Logged (List Delivery) := do
  match ← receiver.take before delivery with
  | .ok () => return before ++ [delivery]
  | .error cause =>
      Logged.say .error .survey (delivery.complaint cause)
      return before ++ [delivery]

def publishAll (receiver : Receiver) (before : List Delivery)
    : List RepositoryReport → Logged (List Delivery)
  | [] => return before
  | report :: rest => do
      let handed ← hand receiver before (.metrics report)
      publishAll receiver handed rest

def fileAll (receiver : Receiver) (backendMarker : String) (before : List Delivery)
    : List RepositoryStats → Logged (List Delivery)
  | [] => return before
  | stats :: rest =>
      match IssueDraft.forRepository? stats backendMarker with
      | none => fileAll receiver backendMarker before rest
      | some draft => do
          let handed ← hand receiver before (.issue draft)
          fileAll receiver backendMarker handed rest

/-- What a survey leads to. -/
structure Outcome where
  report : EcosystemReport
  stats : List RepositoryStats
  path : String
  /-- What the receiver was handed, in order. -/
  delivered : List Delivery

namespace Outcome

def published (outcome : Outcome) : List RepositoryReport :=
  outcome.delivered.filterMap fun
    | .metrics report => some report
    | .issue _ => none

def filed (outcome : Outcome) : List IssueDraft :=
  outcome.delivered.filterMap fun
    | .metrics _ => none
    | .issue draft => some draft

end Outcome

/-- What a survey has to report, before anything is written or handed over. -/
def findings (survey : Survey) (tree : FileTree) (now : Time.Instant) : Logged Outcome := do
  Logged.say .info .survey "Starting documentation analysis"
  let stats ← survey.repositories tree now survey.settings.repositories
  let report := EcosystemReport.ofStats stats now
  return ⟨report, stats, report.path survey.settings.reportsPath, []⟩

/-- What is logged about a report that is in its file. -/
def savedText (path : String) : String :=
  s!"Documentation report saved to {path}"

/-- The report of a survey, written to its file, and the changed files. -/
def writeReport (survey : Survey) (tree : FileTree) (now : Time.Instant)
    : Logged (FileTree × Except WriteError Outcome) := do
  let outcome ← survey.findings tree now
  match (outcome.report.write survey.settings.reportsPath).apply tree with
  | (changed, some problem) => return (changed, .error problem)
  | (changed, none) =>
      Logged.say .info .survey (savedText outcome.path)
      return (changed, .ok outcome)

/-- Publishes the metrics and files the issues of a survey, as far as they are wanted. -/
def deliver (survey : Survey) (receiver : Receiver) (options : Options) (outcome : Outcome)
    : Logged Outcome := do
  let published ←
    if options.sendMetrics then publishAll receiver [] outcome.report.repositories
    else pure []
  let delivered ←
    if options.createIssues then
      fileAll receiver survey.settings.backendMarker published outcome.stats
    else pure published
  return { outcome with delivered }

def run (survey : Survey) (tree : FileTree) (now : Time.Instant) (receiver : Receiver)
    (options : Options) : Logged (FileTree × Except WriteError Outcome) := do
  match ← survey.writeReport tree now with
  | (changed, .error problem) => return (changed, .error problem)
  | (changed, .ok outcome) => return (changed, .ok (← survey.deliver receiver options outcome))

end Survey

end DocSurvey
