import DocSurvey.ApiDocs
import DocSurvey.Config.Settings

/-! Settings that no run can use. -/

namespace DocSurvey.Config

/-- Why settings are of no use. -/
inductive Fault where
  | noTimeout
  | blankIndicator
  | badIndicator (problem : ApiDocs.IndicatorError)
  | noBrand
  deriving Repr, DecidableEq, Inhabited

def Fault.message : Fault → String
  | .noTimeout => "dashboard.timeout_secs must be greater than zero"
  | .blankIndicator => "coverage.api_doc_indicators must not contain empty entries"
  | .badIndicator problem =>
      s!"invalid api doc indicator {Text.quoted problem.indicator}: {problem.reason}"
  | .noBrand => "footer.brand_link must not be empty"

def indicatorFault? (indicator : String) : Option Fault :=
  if Text.isBlank indicator.toList then
    some .blankIndicator
  else
    match ApiDocs.compile indicator with
    | .ok _ => none
    | .error problem => some (.badIndicator problem)

def Settings.fault? (settings : Settings) : Option Fault :=
  if settings.dashboard.timeoutSeconds = 0 then
    some .noTimeout
  else
    match settings.coverage.indicators.findSome? indicatorFault? with
    | some fault => some fault
    | none => if settings.footer.brandLink.isEmpty then some .noBrand else none

end DocSurvey.Config
