import DocSurvey.Coverage.Issue
import DocSurvey.Coverage.Report
import DocSurvey.Log

/-! Where metrics and issues go: to a dashboard, as far as it takes them, or to the log. -/

namespace DocSurvey

open Number

/-- The annotation that tells a dashboard about a repository. -/
def annotation (report : RepositoryReport) (tags : List String) (milliseconds : Int) : Json :=
  .object
    [("text", .string s!"Documentation Update: {report.name}"),
      ("tags", .strings (tags ++ [report.name])), ("time", .int milliseconds),
      ("data",
        .object
          [("overall_score", .nat report.overall),
            ("function_coverage", .number report.functions.percentage),
            ("readme_score", .nat report.readmeScore)])]

/-- Why something did not arrive. -/
inductive DeliveryError where
  | network (reason : String)
  | timeout
  | status (code : Nat)
  | runtime (reason : String)
  deriving Repr, DecidableEq, Inhabited

def DeliveryError.message : DeliveryError → String
  | .network reason => s!"network error: {reason}"
  | .timeout => "request timed out"
  | .status code => s!"unexpected HTTP status {code}"
  | .runtime reason => s!"runtime error: {reason}"

/-- What is handed to a receiver: the metrics or the issue of a repository. -/
inductive Delivery where
  | metrics (report : RepositoryReport)
  | issue (draft : IssueDraft)
  deriving DecidableEq, Inhabited

def Delivery.complaint (cause : DeliveryError) : Delivery → String
  | .metrics report => s!"Error sending metrics for {report.name}: {cause.message}"
  | .issue draft => s!"Error filing issue for {draft.repository}: {cause.message}"

/-- What takes metrics and issues. How it takes one may depend on all it was handed before. -/
structure Receiver where
  publish : (before : List Delivery) → RepositoryReport → Logged (Except DeliveryError Unit)
  file : (before : List Delivery) → IssueDraft → Logged (Except DeliveryError Unit)

namespace Receiver

/-- How the receiver takes a delivery, given those it was handed before. -/
def take (receiver : Receiver) (before : List Delivery)
    : Delivery → Logged (Except DeliveryError Unit)
  | .metrics report => receiver.publish before report
  | .issue draft => receiver.file before draft

/-- Says in the log what it would have sent. -/
def log : Receiver where
  publish _ report := do
    let coverage := IssueDraft.percentText report.functions.percentage
    Logged.say .info .dashboard <|
      s!"Would publish metrics for {report.name}: overall {report.overall}, "
        ++ s!"function coverage {coverage}, README {report.readmeScore}"
    return .ok ()
  file _ draft := do
    Logged.say .info .dashboard s!"Would create issue for {draft.repository}: {draft.title}"
    Logged.say .info .dashboard s!"Issue content:\n{draft.body}"
    return .ok ()

/-- Takes what is not about a repository for which it fails, and says nothing. -/
def failing (failureOf : String → Option DeliveryError) : Receiver where
  publish _ report := return match failureOf report.name with
    | some cause => .error cause
    | none => .ok ()
  file _ draft := return match failureOf draft.repository with
    | some cause => .error cause
    | none => .ok ()

end Receiver

end DocSurvey
