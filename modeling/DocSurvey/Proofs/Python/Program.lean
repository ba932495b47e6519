import DocSurvey.Declarations.Counts
import DocSurvey.Text.CharClass

/-! Python programs of functions, classes, `pass` and string literals, nested to any depth. A
program is written out line by line, each level of nesting set off by four spaces. Its counts are
those of the definitions that it is made of.
-/

namespace DocSurvey.Python

open DocSurvey.Text

-----------------------------------------------------------------------------------------
-- Programs
-----------------------------------------------------------------------------------------

/-- The words that are no names: the keywords, those that are keywords in some places only, and
those of older versions.
-/
def reservedWords : List String :=
  ["False", "None", "True", "and", "as", "assert", "async", "await", "break", "class", "continue",
   "def", "del", "elif", "else", "except", "finally", "for", "from", "global", "if", "import", "in",
   "is", "lambda", "nonlocal", "not", "or", "pass", "raise", "return", "try", "while", "with",
   "yield", "match", "case", "type", "_", "print", "exec"]

/-- A name of ASCII letters, digits and underscores. -/
structure Identifier where
  first : Char
  others : List Char
  starts : (isAsciiLetter first || first == '_') = true
  continues : ∀ c ∈ others, isAsciiWord c = true
  isFree : String.ofList (first :: others) ∉ reservedWords

def Identifier.text (name : Identifier) : List Char :=
  name.first :: name.others

/-- What a comment says behind its first character: the rest of a line, without a NUL. -/
structure Comment where
  text : List Char
  isLine : ∀ c ∈ text, c ∉ ['\n', '\x00']

def literalFlags : List Char :=
  ['r', 'R', 'u', 'U', 'b', 'B', 'f', 'F']

/-- A string literal without escapes and replacement fields. -/
structure Literal where
  flag : Option Char
  quote : Char
  tripled : Bool
  body : List Char
  isFlag : ∀ c ∈ flag, c ∈ literalFlags
  isQuote : quote ∈ ['"', '\'']
  isPlain : ∀ c ∈ body, c ∉ ['"', '\'', '\\', '\x7b', '\x7d', '\n', '\r', '\x00']

namespace Literal

/-- The quotes at either end. -/
def marks (literal : Literal) : List Char :=
  List.replicate (if literal.tripled then 3 else 1) literal.quote

def text (literal : Literal) : List Char :=
  literal.flag.toList ++ (literal.marks ++ (literal.body ++ literal.marks))

/-- The literal is a text with more than white space in it. -/
def documents (literal : Literal) : Bool :=
  (literal.flag.all fun c => !(['b', 'B', 'f', 'F'].contains c))
    && literal.body.any fun c => !isWhiteSpace c

end Literal

/-- A statement without statements in it. -/
inductive Simple where
  | pass
  | literal (quoted : Literal)

def Simple.text : Simple → List Char
  | .pass => "pass".toList
  | .literal quoted => quoted.text

/-- What is defined. -/
inductive Header where
  | function (isAsync : Bool) (name : Identifier) (parameters : List Identifier)
  | ofClass (name : Identifier)

namespace Header

/-- The names with commas between them. -/
def parameterText (parameters : List Identifier) : List Char :=
  ", ".toList.intercalate (parameters.map Identifier.text)

def text : Header → List Char
  | .function isAsync name parameters =>
      (if isAsync then "async ".toList else []) ++ ("def ".toList
        ++ (name.text ++ ('(' :: (parameterText parameters ++ [')']))))
  | .ofClass name => "class ".toList ++ name.text

def isFunction : Header → Bool
  | .function isAsync _ _ => !isAsync
  | .ofClass _ => false

def isClass : Header → Bool
  | .function _ _ _ => false
  | .ofClass _ => true

end Header

/-- A statement with the comments in front of it. The body of a definition has a first statement. -/
inductive Statement where
  | simple (comments : List Comment) (content : Simple)
  | definition (comments : List Comment) (header : Header) (first : Statement)
      (rest : List Statement)

-----------------------------------------------------------------------------------------
-- Their text
-----------------------------------------------------------------------------------------

/-- The start of a line, with four spaces for each level. -/
def newLine (level : Nat) : List Char :=
  '\n' :: List.replicate (4 * level) ' '

/-- Comments, each with the start of the line behind it. -/
def remarks (level : Nat) (comments : List Comment) : List Char :=
  comments.flatMap fun comment => '#' :: (comment.text ++ newLine level)

def Statement.comments : Statement → List Comment
  | .simple comments _ => comments
  | .definition comments _ _ _ => comments

mutual

/-- A statement of the level without the comments in front of it. -/
def Statement.code (level : Nat) : Statement → List Char
  | .simple _ content => content.text
  | .definition _ header first rest =>
      header.text ++ (':' :: (newLine (level + 1) ++ (remarks (level + 1) first.comments
        ++ (first.code (level + 1) ++ textAmong (level + 1) rest))))

/-- Statements of the level, each on a line of its own. -/
def textAmong (level : Nat) : List Statement → List Char
  | [] => []
  | statement :: rest =>
      newLine level ++ (remarks level statement.comments
        ++ (statement.code level ++ textAmong level rest))

end

/-- The text of a whole program. Every line has an end, and the first one no line before it. -/
def programText : List Statement → List Char
  | [] => []
  | first :: rest => remarks 0 first.comments ++ (first.code 0 ++ (textAmong 0 rest ++ ['\n']))

-----------------------------------------------------------------------------------------
-- Their definitions
-----------------------------------------------------------------------------------------

mutual

/-- The definitions at any depth of a statement, each with the first statement of its body. -/
def Statement.headers : Statement → List (Header × Statement)
  | .simple _ _ => []
  | .definition _ header first rest => (header, first) :: (first.headers ++ headersAmong rest)

def headersAmong : List Statement → List (Header × Statement)
  | [] => []
  | statement :: rest => statement.headers ++ headersAmong rest

end

/-- The statement documents the definition that it opens the body of. -/
def Statement.documents : Statement → Bool
  | .simple _ (.literal quoted) => quoted.documents
  | _ => false

/-- The functions and classes among definitions, and those of them with documentation. -/
def headerCounts (headers : List (Header × Statement)) : DeclarationCounts where
  functions := headers.countP fun (header, _) => header.isFunction
  documentedFunctions := headers.countP fun (header, opening) =>
    header.isFunction && opening.documents
  classes := headers.countP fun (header, _) => header.isClass
  documentedClasses := headers.countP fun (header, opening) => header.isClass && opening.documents

/-- What a program defines at any depth. -/
def programCounts (program : List Statement) : DeclarationCounts :=
  headerCounts (headersAmong program)

end DocSurvey.Python
