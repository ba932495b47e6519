import DocSurvey.Coverage.Issue
import DocSurvey.Coverage.Report
import DocSurvey.Text.Style

/-! The summary of a report for the terminal. -/

namespace DocSurvey

open Number Text

namespace Summary

/-- The colour of a percentage: green from eighty on, yellow from fifty on. -/
def percentColour (q : Binary64) : Colour :=
  if 80 ≤ q then .green else if 50 ≤ q then .yellow else .red

/-- The style of a score: the better it is the greener, and from eighty on bold. -/
def scoreStyle (score : Nat) : Style :=
  if 80 ≤ score then { bold := true, colour := some .green }
  else if 60 ≤ score then { colour := some .green }
  else if 40 ≤ score then { colour := some .yellow }
  else { colour := some .red }

def percent (coloured : Bool) (q : Binary64) : String :=
  Style.apply coloured { colour := some (percentColour q) } (IssueDraft.percentText q)

def repositoryLines (coloured : Bool) (report : RepositoryReport) : List String :=
  let name := Style.apply coloured { colour := some .blue } report.name
  let score := Style.apply coloured (scoreStyle report.overall) (toString report.overall)
  [ "",
    s!"  {name}:",
    s!"    Overall Score: {score}/100",
    s!"    Function Coverage: {percent coloured report.functions.percentage}",
    s!"    README Score: {report.readmeScore}/100",
    s!"    API Docs: {IssueDraft.mark report.hasApiDocs}" ]

def lines (coloured : Bool) (report : EcosystemReport) : List String :=
  let title : Style := { bold := true, colour := some .cyan }
  let rule := String.ofList (List.replicate 50 '=')
  let average := String.ofList (onePlace report.averageReadmeScore)
  let details :=
    if report.repositories.isEmpty then []
    else
      ["", "  " ++ Style.apply coloured { bold := true } "📋 Repository Details:"]
        ++ report.repositories.flatMap (repositoryLines coloured)
  [ "",
    "  " ++ Style.apply coloured title "📊 Documentation Analysis Summary",
    "  " ++ Style.apply coloured { dimmed := true } rule,
    s!"  Total Repositories Analyzed: {report.repositories.length}",
    s!"  Overall Documentation Coverage: {percent coloured report.coverage}",
    s!"  Repositories with API Docs: {report.withApiDocs}",
    s!"  Average README Score: {average}/100" ]
  ++ details ++ [""]

end Summary

end DocSurvey
