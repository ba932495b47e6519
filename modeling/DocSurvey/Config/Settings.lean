import DocSurvey.Data.Schema
import DocSurvey.Files.Path
import DocSurvey.Json.Value

/-! The settings of a survey and of a footer check. Every setting has a default, so no settings at
all are settings too.
-/

namespace DocSurvey.Config

open Data

/-- The directory that holds the repositories where no other is given. -/
def defaultBase : String := "/Users/tiaastor/Github/tiation-repos"

/-- The settings of a survey of repositories. -/
structure Coverage where
  basePath : String := defaultBase
  /-- The names of the repositories, in the order they are surveyed. -/
  repositories : List String :=
    ["RiggerBackend", "RiggerShared", "RiggerConnect-web", "RiggerHub-web", "RiggerConnect-android",
      "RiggerConnect-ios", "RiggerHub-android", "RiggerHub-ios"]
  /-- The directory of the reports, as seen from the base path. -/
  reportsDirectory : String := "docs/reports"
  /-- The part of a name that tells of a service. -/
  backendMarker : String := "Backend"
  /-- The parts of paths that tell of API documentation. -/
  indicators : List String :=
    ["docs/api", "api.md", "swagger", "openapi", "postman", "api-reference"]
  deriving Repr, DecidableEq, Inhabited

/-- The settings of the dashboard that metrics are sent to. -/
structure Dashboard where
  url : String := "http://153.92.214.1:3000/api/annotations"
  timeoutSeconds : Nat := 10
  tags : List String := ["documentation", "rigger"]
  deriving Repr, DecidableEq, Inhabited

/-- The settings of a footer check. -/
structure Footer where
  root : String := defaultBase
  /-- The file of the report, as seen from the root. -/
  reportFile : String := "footer_validation_report.md"
  /-- The file of the results, as seen from the root. -/
  dataFile : String := "footer_validation_data.json"
  /-- The names of directories that are left out. -/
  excludedDirectories : List String := ["node_modules", ".git", ".archive"]
  brandLink : String := "tiation.github.io"
  phrases : List String := ["chasewhiterabbit", "ngo", "chase white rabbit"]
  deriving Repr, DecidableEq, Inhabited

/-- All settings. -/
structure Settings where
  coverage : Coverage := {}
  dashboard : Dashboard := {}
  footer : Footer := {}
  logFile : String := "docaudit.log"
  deriving Repr, DecidableEq, Inhabited

namespace Coverage

def reportsPath (settings : Coverage) : String :=
  Path.join settings.basePath settings.reportsDirectory

def kind : Kind :=
  .record "CoverageConfig" false
    [("base_path", .path), ("repositories", .texts), ("reports_dir", .path),
      ("backend_marker", .text), ("api_doc_indicators", .texts)]

def ofValue (value : Value) : Coverage :=
  let default : Coverage := {}
  { basePath := value.textD "base_path" default.basePath
    repositories := value.textsD "repositories" default.repositories
    reportsDirectory := value.textD "reports_dir" default.reportsDirectory
    backendMarker := value.textD "backend_marker" default.backendMarker
    indicators := value.textsD "api_doc_indicators" default.indicators }

def toJson (settings : Coverage) : Json :=
  .object
    [("base_path", .string settings.basePath), ("repositories", .strings settings.repositories),
      ("reports_dir", .string settings.reportsDirectory),
      ("backend_marker", .string settings.backendMarker),
      ("api_doc_indicators", .strings settings.indicators)]

end Coverage

namespace Dashboard

def kind : Kind :=
  .record "DashboardConfig" false
    [("url", .text), ("timeout_secs", .word64), ("tags", .texts)]

def ofValue (value : Value) : Dashboard :=
  let default : Dashboard := {}
  { url := value.textD "url" default.url
    timeoutSeconds := value.natD "timeout_secs" default.timeoutSeconds
    tags := value.textsD "tags" default.tags }

def toJson (settings : Dashboard) : Json :=
  .object
    [("url", .string settings.url), ("timeout_secs", .nat settings.timeoutSeconds),
      ("tags", .strings settings.tags)]

end Dashboard

namespace Footer

def reportPath (settings : Footer) : String :=
  Path.join settings.root settings.reportFile

def dataPath (settings : Footer) : String :=
  Path.join settings.root settings.dataFile

def kind : Kind :=
  .record "FooterConfig" false
    [("root", .path), ("report_file", .path), ("data_file", .path), ("excluded_dirs", .texts),
      ("brand_link", .text), ("ngo_phrases", .texts)]

def ofValue (value : Value) : Footer :=
  let default : Footer := {}
  { root := value.textD "root" default.root
    reportFile := value.textD "report_file" default.reportFile
    dataFile := value.textD "data_file" default.dataFile
    excludedDirectories := value.textsD "excluded_dirs" default.excludedDirectories
    brandLink := value.textD "brand_link" default.brandLink
    phrases := value.textsD "ngo_phrases" default.phrases }

def toJson (settings : Footer) : Json :=
  .object
    [("root", .string settings.root), ("report_file", .string settings.reportFile),
      ("data_file", .string settings.dataFile),
      ("excluded_dirs", .strings settings.excludedDirectories),
      ("brand_link", .string settings.brandLink), ("ngo_phrases", .strings settings.phrases)]

end Footer

namespace Settings

def kind : Kind :=
  .record "Config" false
    [("coverage", Coverage.kind), ("dashboard", Dashboard.kind), ("footer", Footer.kind),
      ("log_file", .path)]

def ofValue (value : Value) : Settings :=
  let default : Settings := {}
  { coverage := .ofValue (value.recordD "coverage")
    dashboard := .ofValue (value.recordD "dashboard")
    footer := .ofValue (value.recordD "footer")
    logFile := value.textD "log_file" default.logFile }

def toJson (settings : Settings) : Json :=
  .object
    [("coverage", settings.coverage.toJson), ("dashboard", settings.dashboard.toJson),
      ("footer", settings.footer.toJson), ("log_file", .string settings.logFile)]

end Settings

end DocSurvey.Config
