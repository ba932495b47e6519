import DocSurvey.Files.Walk
import DocSurvey.Glob.Parser
import DocSurvey.Text.Quoted

/-! Whether a repository has API documentation: some file or directory in it has a path that an
indicator matches. What the files hold does not matter.
-/

namespace DocSurvey.ApiDocs

/-- The pattern of an indicator: its text anywhere in consecutive components. -/
def patternOf (indicator : String) : String :=
  s!"**/*{indicator}*"

/-- Why an indicator is of no use. -/
structure IndicatorError where
  indicator : String
  cause : Glob.PatternError
  deriving Repr, DecidableEq, Inhabited

def IndicatorError.reason (problem : IndicatorError) : String :=
  s!"error parsing glob '{patternOf problem.indicator}': {problem.cause.message}"

/-- The reason, where an indicator is about to be used. -/
def IndicatorError.message (problem : IndicatorError) : String :=
  s!"compiling indicator {Text.quoted problem.indicator}: {problem.reason}"

def compile (indicator : String) : Except IndicatorError (List Glob.Token) :=
  (Glob.read (patternOf indicator)).mapError fun cause => ⟨indicator, cause⟩

/-- The patterns of all indicators, or the first one that is of no use. -/
def compileAll (indicators : List String) : Except IndicatorError (List (List Glob.Token)) :=
  indicators.mapM compile

/-- One of the patterns matches the path. -/
def indicates (patterns : List (List Glob.Token)) (path : String) : Bool :=
  patterns.any fun pattern => Glob.isMatch pattern path

/-- Something in the repository is indicated by its path. -/
def isPresent (tree : FileTree) (patterns : List (List Glob.Token)) (repository : String) : Bool :=
  (tree.found repository).any fun found =>
    !found.names.isEmpty && indicates patterns ("/".intercalate found.names)

end DocSurvey.ApiDocs
