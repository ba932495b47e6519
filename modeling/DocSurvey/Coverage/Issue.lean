import DocSurvey.Coverage.Score
import DocSurvey.Number.Decimal
import DocSurvey.Text.Search

/-! What can be improved about a repository's documentation, and the draft of an issue that says so.
-/

namespace DocSurvey

open Number

/-- Something that can be improved. -/
inductive Suggestion where
  | documentFunctions (count : Nat)
  | documentClasses (count : Nat)
  | addSections
  | describeApi
  | overhaulReadme
  deriving Repr, DecidableEq, Inhabited

namespace Suggestion

def text : Suggestion → String
  | .documentFunctions count => s!"Add docstrings to {count} undocumented functions"
  | .documentClasses count => s!"Add docstrings to {count} undocumented classes"
  | .addSections => "Improve README with missing sections: installation, usage, examples"
  | .describeApi => "Add comprehensive API documentation (Swagger/OpenAPI)"
  | .overhaulReadme => "README needs major overhaul - consider using the standard template"

/-- The percentage of documented functions below which there are too few. -/
def functionTarget : Binary64 := 80

/-- The percentage of documented classes below which there are too few. -/
def classTarget : Binary64 := 90

/-- The score of a README below which sections are missing. -/
def readmeTarget : Nat := 70

/-- The score of a README below which it has to be written anew. -/
def overhaulBelow : Nat := 50

/-- What can be improved about a repository. A service, whose name has the marker in it, should have
API documentation.
-/
def all (stats : RepositoryStats) (backendMarker : String) : List Suggestion :=
  let rules : List (Bool × Suggestion) :=
    [ (stats.functionCoverage < functionTarget, .documentFunctions stats.undocumentedFunctions),
      (0 < stats.declarations.classes && stats.classCoverage < classTarget,
        .documentClasses stats.undocumentedClasses),
      (stats.readmeScore < readmeTarget, .addSections),
      (!stats.hasApiDocs && Text.occursIn backendMarker.toList stats.name.toList, .describeApi),
      (stats.readmeScore < overhaulBelow, .overhaulReadme) ]
  rules.filterMap fun (applies, suggestion) => if applies then some suggestion else none

end Suggestion

/-- The draft of an issue. -/
structure IssueDraft where
  repository : String
  title : String
  body : String
  priority : Priority
  labels : List String
  deriving DecidableEq, Inhabited

namespace IssueDraft

/-- More suggestions than this make the label one of high priority. -/
def mediumAtMost : Nat := 3

def labelsFor (suggestions : Nat) : List String :=
  ["documentation", "enhancement",
    if mediumAtMost < suggestions then "high-priority" else "medium-priority"]

def percentText (q : Binary64) : String :=
  String.ofList (onePlace q) ++ "%"

/-- A check mark or a cross. -/
def mark (flag : Bool) : String :=
  if flag then "✅" else "❌"

def bodyLines (stats : RepositoryStats) (suggestions : List Suggestion) (labels : List String)
    : List String :=
  [ "# Documentation Enhancement Required",
    "",
    "## Current Status",
    s!"- **Function Documentation Coverage:** {percentText stats.functionCoverage}",
    s!"- **Class Documentation Coverage:** {percentText stats.classCoverage}",
    s!"- **README Score:** {stats.readmeScore}/100",
    s!"- **API Documentation:** {mark stats.hasApiDocs}",
    "",
    "## Suggested Improvements" ]
  ++ suggestions.map (fun suggestion => s!"- {suggestion.text}")
  ++ [ "",
    "## Resources",
    "- [Documentation Templates](../docs/standards/Documentation_Templates.md)",
    "- [Enhancement Roadmap](../DOCUMENTATION_ENHANCEMENT_ROADMAP.md)",
    "",
    s!"**Priority:** {stats.priority.text}",
    "**Assignee:** Documentation Team",
    "**Labels:** " ++ ", ".intercalate labels,
    "",
    "---",
    "*Auto-generated by Documentation Enhancement System*",
    s!"*Last Updated: {stats.updated.offsetText}*" ]

/-- The issue of a repository, if there is something to improve. -/
def forRepository? (stats : RepositoryStats) (backendMarker : String) : Option IssueDraft :=
  match Suggestion.all stats backendMarker with
  | [] => none
  | suggestions =>
      let labels := labelsFor suggestions.length
      some
        { repository := stats.name
          title := s!"Documentation Enhancement - {stats.name}"
          body := "\n".intercalate (bodyLines stats suggestions labels)
          priority := stats.priority
          labels }

def toJson (draft : IssueDraft) : Json :=
  .object
    [("repo_name", .string draft.repository), ("title", .string draft.title),
      ("body", .string draft.body), ("priority", .string draft.priority.text),
      ("labels", .strings draft.labels)]

end IssueDraft

end DocSurvey
