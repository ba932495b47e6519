import DocSurvey.Files.Tree

/-! Writing the files of a report, with errors that name the path. -/

namespace DocSurvey

/-- Why something could not be written: what was done to which path, and what the system answered.
-/
structure WriteError where
  making : Bool
  path : String
  cause : SystemError
  deriving Repr, DecidableEq, Inhabited

def WriteError.message (problem : WriteError) : String :=
  let verb := if problem.making then "creating" else "writing"
  s!"{verb} {problem.path}: {problem.cause.message}"

namespace FileAction

def provideDirectory (path : String) : FileAction WriteError Unit :=
  ExceptT.adapt (⟨true, path, ·⟩) (makeDirectories path)

def writeFile (path text : String) : FileAction WriteError Unit :=
  change fun tree => (tree.withFile path (some text)).mapError (⟨false, path, ·⟩)

end FileAction

end DocSurvey
