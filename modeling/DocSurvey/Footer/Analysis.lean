import DocSurvey.Config.Settings
import DocSurvey.Text.Lowercase
import DocSurvey.Text.Search

/-! The marks of a README's footer: a link to the brand, words about the mission, a rule that sets
the footer off and how it is laid out. Words are looked for in lower case, markup as it is.
-/

namespace DocSurvey.Footer

open Data Text

/-- What is known about the footer of a README. -/
structure Analysis where
  brandLink : Bool
  enterprise : Bool
  mission : Bool
  /-- A rule sets the footer off. -/
  ruled : Bool
  centered : Bool
  builtWith : Bool
  /-- The length of the README in characters. -/
  length : Nat
  /-- The README ends with its footer. -/
  closing : Bool
  /-- The end of the README on a single line. -/
  preview : String
  deriving Repr, DecidableEq, Inhabited

namespace Analysis

def kind : Kind :=
  .record "FooterAnalysis" true
    [("has_tiation_link", .flag), ("has_enterprise_mention", .flag), ("has_ngo_mention", .flag),
      ("has_footer_section", .flag), ("has_centered_footer", .flag), ("has_built_with", .flag),
      ("content_length", .count), ("ends_with_footer", .flag), ("footer_preview", .text)]

def ofValue (value : Value) : Analysis where
  brandLink := value.flagD "has_tiation_link" false
  enterprise := value.flagD "has_enterprise_mention" false
  mission := value.flagD "has_ngo_mention" false
  ruled := value.flagD "has_footer_section" false
  centered := value.flagD "has_centered_footer" false
  builtWith := value.flagD "has_built_with" false
  length := value.natD "content_length" 0
  closing := value.flagD "ends_with_footer" false
  preview := value.textD "footer_preview" ""

def toJson (analysis : Analysis) : Json :=
  .object
    [("has_tiation_link", .bool analysis.brandLink),
      ("has_enterprise_mention", .bool analysis.enterprise),
      ("has_ngo_mention", .bool analysis.mission),
      ("has_footer_section", .bool analysis.ruled),
      ("has_centered_footer", .bool analysis.centered),
      ("has_built_with", .bool analysis.builtWith), ("content_length", .nat analysis.length),
      ("ends_with_footer", .bool analysis.closing), ("footer_preview", .string analysis.preview)]

end Analysis

def previewLength : Nat := 500

/-- The last characters of a text, with line feeds written as a backslash and an n. -/
def preview (content : List Char) : List Char :=
  (content.drop (content.length - previewLength)).flatMap fun c =>
    if c = '\n' then ['\\', 'n'] else [c]

def rule : List Char := ['-', '-', '-']

/-- Nothing but white space follows on the line. -/
def lineEnds (text : List Char) : Bool :=
  let blank := text.takeWhile isWhiteSpace
  blank.contains '\n' || blank.length == text.length

/-- A rule closes some line. -/
def hasRule : List Char → Bool
  | [] => false
  | c :: rest =>
      (rule.isPrefixOf (c :: rest) && lineEnds ((c :: rest).drop rule.length)) || hasRule rest

/-- What a footer is checked for: the link to the brand and, in lower case, the phrases that speak
of the mission.
-/
structure Rules where
  brandLink : List Char
  phrases : List (List Char)
  deriving Repr, DecidableEq, Inhabited

/-- The rules for a link and for phrases in any case. -/
def Rules.of (brandLink : String) (phrases : List String) : Rules :=
  ⟨brandLink.toList, phrases.map fun phrase => lower phrase.toList⟩

def Rules.ofSettings (settings : Config.Footer) : Rules :=
  .of settings.brandLink settings.phrases

def mentions (content : List Char) (text : String) : Bool :=
  occursIn text.toList content

/-- What is known about the footer of a README with the content. -/
def Rules.analyze (rules : Rules) (content : List Char) : Analysis :=
  let lowered := lower content
  let trimmed := trim content
  { brandLink := occursIn rules.brandLink content
    enterprise := mentions lowered "enterprise"
    mission := rules.phrases.any fun phrase => occursIn phrase lowered
    ruled := hasRule content
    centered := mentions content "align=\"center\""
    builtWith := mentions lowered "built with" || mentions lowered "powered by"
    length := content.length
    closing := "</div>".toList.isSuffixOf trimmed || rule.isSuffixOf trimmed
    preview := String.ofList (preview content) }

/-- What came out for a file: its analysis, or why it could not be read. -/
inductive Result where
  | analyzed (analysis : Analysis)
  | unreadable (reason : String)
  deriving Repr, DecidableEq, Inhabited

namespace Result

def analysis? : Result → Option Analysis
  | .analyzed analysis => some analysis
  | .unreadable _ => none

def unreadableKind : Kind :=
  .record "Unreadable" true [("error", .text)]

def toJson : Result → Json
  | .analyzed analysis => analysis.toJson
  | .unreadable reason => .object [("error", .string reason)]

end Result

/-- The results of files by the paths from the root, in the order of these. -/
abbrev Results := List (String × Result)

def Results.toJson (results : Results) : Json :=
  .object (results.map fun (path, result) => (path, result.toJson))

end DocSurvey.Footer
