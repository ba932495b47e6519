import DocSurvey.Coverage.Score
import DocSurvey.Json.Printer
import DocSurvey.Files.Output
import DocSurvey.Number.Whole

/-! The report on all repositories, and the file it is written to. -/

namespace DocSurvey

open Number

/-- How many of a sort there are, and how many of them are documented. -/
structure CoverageEntry where
  total : Nat
  documented : Nat
  percentage : Binary64
  deriving DecidableEq, Inhabited

namespace CoverageEntry

/-- The entry of a total and its documented part. -/
def ofCounts (total documented : Nat) : CoverageEntry :=
  ⟨total, documented, Score.percent documented total⟩

def toJson (entry : CoverageEntry) : Json :=
  .object
    [("total", .nat entry.total), ("documented", .nat entry.documented),
      ("percentage", .number entry.percentage)]

end CoverageEntry

/-- What the report says about one repository. -/
structure RepositoryReport where
  name : String
  functions : CoverageEntry
  classes : CoverageEntry
  readmeScore : Nat
  hasApiDocs : Bool
  overall : Nat
  updated : Time.Instant
  deriving DecidableEq, Inhabited

namespace RepositoryReport

/-- What the report says about a repository of which so much is known. -/
def ofStats (stats : RepositoryStats) : RepositoryReport where
  name := stats.name
  functions := .ofCounts stats.declarations.functions stats.declarations.documentedFunctions
  classes := .ofCounts stats.declarations.classes stats.declarations.documentedClasses
  readmeScore := stats.readmeScore
  hasApiDocs := stats.hasApiDocs
  overall := stats.overall
  updated := stats.updated

def toJson (report : RepositoryReport) : Json :=
  .object
    [("name", .string report.name),
      ("documentation_coverage",
        .object [("functions", report.functions.toJson), ("classes", report.classes.toJson)]),
      ("readme_score", .nat report.readmeScore), ("api_documentation", .bool report.hasApiDocs),
      ("overall_score", .nat report.overall), ("last_updated", .string report.updated.dataText)]

end RepositoryReport

/-- The report on all repositories. -/
structure EcosystemReport where
  generated : Time.Instant
  repositories : List RepositoryReport
  /-- The documented functions of all repositories in percent. -/
  coverage : Binary64
  withApiDocs : Nat
  averageReadmeScore : Binary64
  deriving DecidableEq, Inhabited

namespace EcosystemReport

/-- The report on repositories of which so much is known. -/
def ofStats (stats : List RepositoryStats) (generated : Time.Instant) : EcosystemReport where
  generated
  repositories := stats.map .ofStats
  coverage := Score.percent (total (stats.map (·.declarations.documentedFunctions)))
    (total (stats.map (·.declarations.functions)))
  withApiDocs := stats.countP (·.hasApiDocs)
  averageReadmeScore := Binary64.div (Binary64.ofNat (total (stats.map (·.readmeScore))))
    (Binary64.ofNat (max stats.length 1))

def toJson (report : EcosystemReport) : Json :=
  .object
    [("generated_at", .string report.generated.dataText),
      ("total_repositories", .nat report.repositories.length),
      ("repositories", .array (report.repositories.map (·.toJson))),
      ("ecosystem_metrics",
        .object
          [("overall_documentation_coverage", .number report.coverage),
            ("repositories_with_api_docs", .nat report.withApiDocs),
            ("average_readme_score", .number report.averageReadmeScore)])]

/-- The name of the file of a report made at a time. -/
def fileName (generated : Time.Instant) : String :=
  "documentation_report_" ++ String.ofList generated.fileStamp ++ ".json"

def text (report : EcosystemReport) : String :=
  report.toJson.pretty

def path (report : EcosystemReport) (directory : String) : String :=
  Path.join directory (fileName report.generated)

end EcosystemReport

def EcosystemReport.write (report : EcosystemReport) (directory : String)
    : FileAction WriteError Unit := do
  FileAction.provideDirectory directory
  FileAction.writeFile (report.path directory) report.text

end DocSurvey
