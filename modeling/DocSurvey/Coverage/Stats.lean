import DocSurvey.Data.Schema
import DocSurvey.Declarations.Counts
import DocSurvey.Json.Value

/-! What a survey finds out about one repository. -/

namespace DocSurvey

open Data

/-- What is known about the documentation of a repository. -/
structure RepositoryStats where
  name : String
  declarations : DeclarationCounts
  readmeScore : Nat
  hasApiDocs : Bool
  updated : Time.Instant
  deriving DecidableEq, Inhabited

namespace RepositoryStats

/-- The functions without documentation; none if more are documented than there are. -/
def undocumentedFunctions (stats : RepositoryStats) : Nat :=
  stats.declarations.functions - stats.declarations.documentedFunctions

/-- The classes without documentation; none if more are documented than there are. -/
def undocumentedClasses (stats : RepositoryStats) : Nat :=
  stats.declarations.classes - stats.declarations.documentedClasses

def kind : Kind :=
  .record "RepositoryDocStats" true
    [("repo_name", .text), ("total_functions", .count), ("documented_functions", .count),
      ("total_classes", .count), ("documented_classes", .count), ("readme_score", .word32),
      ("api_docs_present", .flag), ("last_updated", .time)]

def ofValue (value : Value) : RepositoryStats where
  name := value.textD "repo_name" ""
  declarations :=
    { functions := value.natD "total_functions" 0
      documentedFunctions := value.natD "documented_functions" 0
      classes := value.natD "total_classes" 0
      documentedClasses := value.natD "documented_classes" 0 }
  readmeScore := value.natD "readme_score" 0
  hasApiDocs := value.flagD "api_docs_present" false
  updated := value.timeD "last_updated" default

def toJson (stats : RepositoryStats) : Json :=
  .object
    [("repo_name", .string stats.name), ("total_functions", .nat stats.declarations.functions),
      ("documented_functions", .nat stats.declarations.documentedFunctions),
      ("total_classes", .nat stats.declarations.classes),
      ("documented_classes", .nat stats.declarations.documentedClasses),
      ("readme_score", .nat stats.readmeScore), ("api_docs_present", .bool stats.hasApiDocs),
      ("last_updated", .string stats.updated.dataText)]

end RepositoryStats

end DocSurvey
