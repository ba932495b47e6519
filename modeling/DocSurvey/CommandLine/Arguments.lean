import DocSurvey.Text.Search

/-! What the arguments of a command line ask for. -/

namespace DocSurvey.CommandLine

/-- The arguments of a survey. -/
structure CoverageArguments where
  basePath : Option String := none
  config : Option String := none
  sendMetrics : Bool := false
  createIssues : Bool := false
  verbose : Bool := false
  deriving Repr, DecidableEq, Inhabited

/-- The arguments of a footer check. -/
structure FooterArguments where
  root : Option String := none
  config : Option String := none
  verbose : Bool := false
  deriving Repr, DecidableEq, Inhabited

/-- What is asked for. -/
inductive Command where
  | coverage (arguments : CoverageArguments)
  | footers (arguments : FooterArguments)
  | version
  | help
  deriving Repr, DecidableEq, Inhabited

/-- The options of the commands. -/
inductive Choice where
  | basePath
  | root
  | config
  | sendMetrics
  | createIssues
  | verbose
  | help
  deriving Repr, DecidableEq, Inhabited

namespace Choice

def takesValue : Choice → Bool
  | .basePath | .root | .config => true
  | _ => false

def name : Choice → String
  | .basePath => "base-path"
  | .root => "root"
  | .config => "config"
  | .sendMetrics => "send-metrics"
  | .createIssues => "create-issues"
  | .verbose => "verbose"
  | .help => "help"

def letter? : Choice → Option Char
  | .config => some 'c'
  | .verbose => some 'v'
  | .help => some 'h'
  | _ => none

def forCoverage : List Choice :=
  [.basePath, .config, .sendMetrics, .createIssues, .verbose, .help]

def forFooters : List Choice :=
  [.root, .config, .verbose, .help]

end Choice

/-- Options that were given, each with its value, empty if it takes none. -/
abbrev Given := List (Choice × String)

/-- The next argument can be the value of an option: it does not look like an option itself. -/
def isValue (argument : List Char) : Bool :=
  match argument with
  | [] => false
  | ['-'] => true
  | '-' :: _ => false
  | _ => true

/-- An option given once more than it may be, or without the value it takes, is refused. -/
def Given.add? (given : Given) (choice : Choice) (value : String) : Option Given :=
  if (given.map Prod.fst).contains choice || (choice.takesValue && value.isEmpty) then none
  else some (given ++ [(choice, value)])

/-- Options written as letters behind one dash. What stands behind the letter of an option that
takes a value is that value, with or without an equals sign; if nothing does, the next argument is
it.
-/
def readLetters (known : List Choice) (given : Given) (next : List String)
    : List Char → Option (Given × List String × Bool)
  | [] => some (given, next, false)
  | c :: rest =>
      match known.find? fun choice => choice.letter? == some c with
      | none => none
      | some .help => some (given, next, true)
      | some choice =>
          if choice.takesValue then
            match rest, next with
            | [], value :: others =>
                if isValue value.toList then
                  (given.add? choice value).map (·, others, false)
                else none
            | [], [] => none
            | '=' :: value, _ => (given.add? choice (String.ofList value)).map (·, next, false)
            | value, _ => (given.add? choice (String.ofList value)).map (·, next, false)
          else
            match given.add? choice "" with
            | some given => readLetters known given next rest
            | none => none

/-- An option written out, with its value behind an equals sign or as the next argument. -/
def readLong (known : List Choice) (given : Given) (next : List String) (text : List Char)
    : Option (Given × List String × Bool) :=
  let name := text.takeWhile (· != '=')
  let value? := match text.drop name.length with
    | '=' :: value => some (String.ofList value)
    | _ => none
  match known.find? (fun choice => choice.name.toList == name), value? with
  | none, _ => none
  | some .help, none => some (given, next, true)
  | some choice, value? =>
      match choice.takesValue, value?, next with
      | true, some value, _ => (given.add? choice value).map (·, next, false)
      | true, none, value :: others =>
          if isValue value.toList then (given.add? choice value).map (·, others, false) else none
      | true, none, [] => none
      | false, some _, _ => none
      | false, none, _ => (given.add? choice "").map (·, next, false)

/-- The options of a command, or that help is asked for. Anything that is no option is refused. -/
def readOptions (known : List Choice) (given : Given) : Nat → List String → Option (Given × Bool)
  | 0, _ => none
  | _ + 1, [] => some (given, false)
  | budget + 1, argument :: next =>
      let read := match argument.toList with
        | ['-', '-'] => if next.isEmpty then some (given, [], false) else none
        | '-' :: '-' :: text => readLong known given next text
        | '-' :: letter :: letters => readLetters known given next (letter :: letters)
        | _ => none
      match read with
      | none => none
      | some (given, _, true) => some (given, true)
      | some (given, next, false) => readOptions known given budget next

def Given.value? (given : Given) (choice : Choice) : Option String :=
  given.lookup choice

def Given.has (given : Given) (choice : Choice) : Bool :=
  (given.lookup choice).isSome

def coverageNames : List String := ["coverage", "analyze"]

def footerNames : List String := ["footers", "validate-footers"]

/-- What the arguments ask for; nothing if they cannot be understood. -/
def readArguments? (arguments : List String) : Option Command :=
  match arguments with
  | [] => none
  | first :: rest =>
      let options (known : List Choice) := readOptions known [] (rest.length + 1) rest
      if coverageNames.contains first then
        match options Choice.forCoverage with
        | none => none
        | some (_, true) => some .help
        | some (given, false) =>
            some <| .coverage
              { basePath := given.value? .basePath
                config := given.value? .config
                sendMetrics := given.has .sendMetrics
                createIssues := given.has .createIssues
                verbose := given.has .verbose }
      else if footerNames.contains first then
        match options Choice.forFooters with
        | none => none
        | some (_, true) => some .help
        | some (given, false) =>
            some <| .footers
              { root := given.value? .root
                config := given.value? .config
                verbose := given.has .verbose }
      else if first == "help" then
        match rest with
        | [] => some .help
        | [topic] =>
            if (coverageNames ++ footerNames ++ ["help"]).contains topic then some .help else none
        | _ => none
      else if ["-h", "--help"].contains first then some .help
      else if ["-V", "--version"].contains first then some .version
      else
        match first.toList with
        | '-' :: 'h' :: _ => some .help
        | '-' :: 'V' :: _ => some .version
        | _ => none

end DocSurvey.CommandLine
