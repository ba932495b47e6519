import DocSurvey.Coverage.Stats
import DocSurvey.Number.Binary64

/-! The score of a repository, out of one hundred: forty for functions, twenty for classes, thirty
for the README and ten for API documentation. All arithmetic is that of binary floating point, and
only the sum is cut to a whole number.
-/

namespace DocSurvey

open Number

namespace Score

def functionWeight : Nat := 40

def classWeight : Nat := 20

/-- The share of the README's score that counts: three tenths. -/
def readmeShare : Nat × Nat := (3, 10)

def apiWeight : Nat := 10

/-- The documented part of a total in percent; zero of a total of zero. -/
def percent (documented total : Nat) : Binary64 :=
  Binary64.div (Binary64.mul (Binary64.ofNat documented) (Binary64.ofNat 100))
    (Binary64.ofNat (max total 1))

/-- The documented part of a total, weighted. -/
def weighted (weight documented total : Nat) : Binary64 :=
  Binary64.div (Binary64.mul (Binary64.ofNat weight) (Binary64.ofNat (min documented total)))
    (Binary64.ofNat (max total 1))

/-- The points for functions, classes, README and API documentation. -/
def parts (stats : RepositoryStats) : List Binary64 :=
  [ weighted functionWeight stats.declarations.documentedFunctions stats.declarations.functions,
    weighted classWeight stats.declarations.documentedClasses stats.declarations.classes,
    Binary64.div
      (Binary64.mul (Binary64.ofNat (min stats.readmeScore 100)) (Binary64.ofNat readmeShare.1))
      (Binary64.ofNat readmeShare.2),
    if stats.hasApiDocs then Binary64.ofNat apiWeight else 0 ]

/-- The sum from the left, each partial sum rounded. -/
def total (points : List Binary64) : Binary64 :=
  points.foldl Binary64.add 0

end Score

def RepositoryStats.overall (stats : RepositoryStats) : Nat :=
  (Score.total (Score.parts stats)).floor.toNat

/-- How urgent it is to improve a documentation. -/
inductive Priority where
  | high
  | medium
  deriving Repr, DecidableEq, Inhabited

namespace Priority

/-- The score from which on the priority is no longer high. -/
def threshold : Nat := 60

def ofScore (overall : Nat) : Priority :=
  if overall < threshold then .high else .medium

def text : Priority → String
  | .high => "High"
  | .medium => "Medium"

end Priority

def RepositoryStats.priority (stats : RepositoryStats) : Priority :=
  .ofScore stats.overall

def RepositoryStats.functionCoverage (stats : RepositoryStats) : Binary64 :=
  Score.percent stats.declarations.documentedFunctions stats.declarations.functions

def RepositoryStats.classCoverage (stats : RepositoryStats) : Binary64 :=
  Score.percent stats.declarations.documentedClasses stats.declarations.classes

end DocSurvey
