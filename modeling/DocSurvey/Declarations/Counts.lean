/-! How many functions and classes a file or a repository declares, and how many of them carry
documentation.
-/

namespace DocSurvey

/-- The declarations found and the documented ones among them. -/
structure DeclarationCounts where
  functions : Nat
  documentedFunctions : Nat
  classes : Nat
  documentedClasses : Nat
  deriving Repr, DecidableEq, Inhabited

namespace DeclarationCounts

def zero : DeclarationCounts := ⟨0, 0, 0, 0⟩

def add (left right : DeclarationCounts) : DeclarationCounts where
  functions := left.functions + right.functions
  documentedFunctions := left.documentedFunctions + right.documentedFunctions
  classes := left.classes + right.classes
  documentedClasses := left.documentedClasses + right.documentedClasses

instance : Add DeclarationCounts := ⟨add⟩

def sum (parts : List DeclarationCounts) : DeclarationCounts :=
  parts.foldl (· + ·) zero

/-- The sums after each part, in order. -/
def runningSums (parts : List DeclarationCounts) : List DeclarationCounts :=
  go zero parts
where
  go (before : DeclarationCounts) : List DeclarationCounts → List DeclarationCounts
    | [] => []
    | part :: rest => (before + part) :: go (before + part) rest

def function (documented : Bool) : DeclarationCounts := ⟨1, documented.toNat, 0, 0⟩

def ofClass (documented : Bool) : DeclarationCounts := ⟨0, 0, 1, documented.toNat⟩

end DeclarationCounts

end DocSurvey
