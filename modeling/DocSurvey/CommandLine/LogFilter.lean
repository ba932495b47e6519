import DocSurvey.Log
import DocSurvey.Text.Search

/-! Which messages a log shows: those of a level, in general or by the part of the program that they
come from.
-/

namespace DocSurvey.CommandLine

/-- The least important level that is shown, from none to all. -/
inductive Threshold where
  | off
  | upTo (level : Level)
  | all
  deriving Repr, DecidableEq, Inhabited

/-- How important a level is; less is more. -/
def rank : Level → Nat
  | .error => 1
  | .warn => 2
  | .info => 3
  | .debug => 4

def Threshold.shows (threshold : Threshold) (level : Level) : Bool :=
  match threshold with
  | .off => false
  | .upTo limit => rank level ≤ rank limit
  | .all => true

/-- The threshold of a word, in any case, or of a number. -/
def Threshold.ofText? (text : List Char) : Option Threshold :=
  let words : List (String × Threshold) :=
    [("off", .off), ("error", .upTo .error), ("warn", .upTo .warn), ("info", .upTo .info),
      ("debug", .upTo .debug), ("trace", .all), ("0", .off), ("1", .upTo .error),
      ("2", .upTo .warn), ("3", .upTo .info), ("4", .upTo .debug), ("5", .all)]
  (words.find? fun (word, _) => Text.equalsIgnoringCase word.toList text).map Prod.snd

/-- A threshold for the parts of the program whose names start with a text. -/
structure Directive where
  target : List Char
  threshold : Threshold
  deriving Repr, DecidableEq, Inhabited

/-- A filter: thresholds for parts of the program. -/
abbrev LogFilter := List Directive

namespace LogFilter

/-- The filter that shows a level and all that is more important. -/
def upTo (level : Level) : LogFilter := [⟨[], .upTo level⟩]

def commaParts (text : List Char) : List (List Char) :=
  text.foldr (fun c parts =>
    match c, parts with
    | ',', parts => [] :: parts
    | c, first :: rest => (c :: first) :: rest
    | c, [] => [[c]]) [[]]

def isTarget (text : List Char) : Bool :=
  !text.isEmpty && text.all fun c => Text.isAsciiWord c || c == ':' || c == '-'

/-- A directive: a level, a part of the program, or both with an equals sign between them. -/
def directive? (text : List Char) : Option Directive :=
  match Threshold.ofText? text with
  | some threshold => some ⟨[], threshold⟩
  | none =>
      let target := text.takeWhile (· != '=')
      match text.drop target.length with
      | [] => if isTarget target then some ⟨target, .all⟩ else none
      | _ :: level =>
          match Threshold.ofText? level with
          | some threshold => if isTarget target then some ⟨target, threshold⟩ else none
          | none => none

/-- The filter that a text spells; where it holds no directive, errors alone are shown. -/
def ofText? (text : String) : Option LogFilter := do
  let directives ← ((commaParts text.toList).filter (!·.isEmpty)).mapM directive?
  return if directives.isEmpty then upTo .error else directives

/-- The directive with the longest name that fits decides; of several with one name the last does.
-/
def shows (filter : LogFilter) (message : Message) : Bool :=
  let fitting := filter.filter fun directive =>
    directive.target.isPrefixOf message.area.name.toList
  let best := fitting.foldl (fun best directive =>
    match best with
    | some found => if found.target.length ≤ directive.target.length then some directive else best
    | none => some directive) (none : Option Directive)
  best.any fun directive => directive.threshold.shows message.level

end LogFilter

end DocSurvey.CommandLine
