import DocSurvey.Coverage.Summary
import DocSurvey.Footer.Analysis
import DocSurvey.Files.Output

/-! The report on footers: how many have which mark, which lack one, and the READMEs near the root
one by one.
-/

namespace DocSurvey.Footer

open Number Text

/-- How many files there are, how many could be read, and how many of these have which mark. -/
structure Summary where
  total : Nat
  readable : Nat
  withBrandLink : Nat
  withMission : Nat
  withEnterprise : Nat
  withRule : Nat
  deriving Repr, DecidableEq, Inhabited

namespace Summary

def ofResults (results : Results) : Summary :=
  let analyses := results.filterMap fun (_, result) => result.analysis?
  { total := results.length
    readable := analyses.length
    withBrandLink := analyses.countP (·.brandLink)
    withMission := analyses.countP (·.mission)
    withEnterprise := analyses.countP (·.enterprise)
    withRule := analyses.countP (·.ruled) }

/-- A part of the readable files in percent; zero if there are none. -/
def percent (summary : Summary) (count : Nat) : Binary64 :=
  Score.percent count summary.readable

end Summary

/-- A README at the root or in a directory directly below it. -/
def isPriority (path : String) : Bool :=
  path.toList.count '/' ≤ 1

/-- A mark, or an empty circle in its place. -/
def markOr (flag : Bool) (mark : String) : String :=
  if flag then mark else "⚪"

def listLimit : Nat := 10

/-- The lines about files that lack something; none if there are no such files. -/
def missingLines (heading : String) (paths : List String) : List String :=
  if paths.isEmpty then []
  else
    s!"### {heading}:" :: (paths.take listLimit).map (fun path => s!"- {path}")
      ++ (if listLimit < paths.length then [s!"- ... and {paths.length - listLimit} more"] else [])
      ++ [""]

/-- The files of the results whose analysis lacks the mark. -/
def lacking (mark : Analysis → Bool) (results : Results) : List String :=
  results.filterMap fun (path, result) =>
    match result.analysis? with
    | some analysis => if mark analysis then none else some path
    | none => none

def fileLines (path : String) : Result → List String
  | .unreadable reason => [s!"### ❌ {path} - ERROR: {reason}"]
  | .analyzed analysis =>
      let marks := IssueDraft.mark analysis.brandLink ++ " " ++ markOr analysis.enterprise "🏢"
        ++ " " ++ markOr analysis.mission "🌟" ++ " " ++ markOr analysis.ruled "📄"
      [ s!"### {marks} {path}",
        s!"- Tiation Link: {IssueDraft.mark analysis.brandLink}",
        s!"- Enterprise Grade: {IssueDraft.mark analysis.enterprise}",
        s!"- NGO Mission: {IssueDraft.mark analysis.mission}",
        s!"- Footer Section: {IssueDraft.mark analysis.ruled}",
        "" ]

def reportLines (results : Results) (brandLink : String) : List String :=
  let summary := Summary.ofResults results
  let share (label : String) (count : Nat) : String :=
    s!"- **{label}**: {count} ({IssueDraft.percentText (summary.percent count)})"
  let near := results.filter fun (path, _) => isPriority path
  [ "# Footer Validation Report",
    "",
    "## Summary Statistics",
    s!"- **Total README files analyzed**: {summary.total}",
    share s!"Files with {brandLink} link" summary.withBrandLink,
    share "Files with NGO mention" summary.withMission,
    share "Files with enterprise mention" summary.withEnterprise,
    share "Files with footer section" summary.withRule ]
  ++ (if summary.readable < summary.total then
        [s!"- **Unreadable files**: {summary.total - summary.readable}"]
      else [])
  ++ ["", "## Files Missing Key Elements", ""]
  ++ missingLines s!"Missing {brandLink} Link" (lacking (·.brandLink) results)
  ++ missingLines "Missing NGO Mention" (lacking (·.mission) results)
  ++ (if near.isEmpty then []
      else
        ["## Priority Files Analysis (Main Project READMEs)", ""]
          ++ near.flatMap fun (path, result) => fileLines path result)

def report (results : Results) (brandLink : String) : String :=
  "\n".intercalate (reportLines results brandLink)

def provideParent (path : String) : FileAction WriteError Unit := do
  let parent := Path.parent path
  if !parent.isEmpty then
    FileAction.provideDirectory parent

/-- Writes the report and the results, once both directories are there. -/
def writeOutputs (results : Results) (report reportPath dataPath : String)
    : FileAction WriteError Unit := do
  provideParent reportPath
  provideParent dataPath
  FileAction.writeFile reportPath report
  FileAction.writeFile dataPath results.toJson.pretty

def summaryLines (coloured : Bool) (summary : Summary) (brandLink reportPath dataPath : String)
    : List String :=
  let coverage := DocSurvey.Summary.percent coloured (summary.percent summary.withBrandLink)
  [ Style.apply coloured { colour := some .green } "✅" ++ " Validation complete!",
    s!"📄 Report saved to: {reportPath}",
    s!"📊 Data saved to: {dataPath}",
    "",
    Style.apply coloured { bold := true } "📈 Quick Summary:",
    s!"   - Total files: {summary.total}",
    s!"   - Files with {brandLink}: {summary.withBrandLink}",
    s!"   - Coverage: {coverage}" ]

end DocSurvey.Footer
