/-! Messages that accompany a result. Messages are kept in the order they are given: what goes on
from a result comes after the messages that led to it.
-/

namespace DocSurvey

/-- How important a message is. -/
inductive Level where
  | debug
  | info
  | warn
  | error
  deriving Repr, DecidableEq, Inhabited

def Level.text : Level → String
  | .debug => "DEBUG"
  | .info => "INFO"
  | .warn => "WARN"
  | .error => "ERROR"

/-- The part of the program that a message comes from. -/
inductive Area where
  | survey
  | declarations
  | readme
  | footers
  | dashboard
  | logging
  | commandLine
  | program
  deriving Repr, DecidableEq, Inhabited

/-- The name of the part, as log files show it. -/
def Area.name : Area → String
  | .survey => "docaudit::analyzer"
  | .declarations => "docaudit::extract"
  | .readme => "docaudit::readme"
  | .footers => "docaudit::footer"
  | .dashboard => "docaudit::sink"
  | .logging => "docaudit::logging"
  | .commandLine => "docaudit::cli"
  | .program => "docaudit"

/-- A message, with the values that belong to it written behind it. -/
structure Message where
  level : Level
  area : Area
  text : String
  deriving Repr, DecidableEq, Inhabited

/-- A result and the messages that led to it. -/
structure Logged (α : Type) where
  value : α
  messages : List Message
  deriving Repr, Inhabited

namespace Logged

/-- A result with no message. -/
def ofValue (value : α) : Logged α := ⟨value, []⟩

/-- Goes on from a result; its messages come first. -/
def andThen (first : Logged α) (next : α → Logged β) : Logged β :=
  let second := next first.value
  ⟨second.value, first.messages ++ second.messages⟩

instance : Monad Logged where
  pure := ofValue
  bind := andThen

@[simp] theorem value_pure (result : α) : (pure result : Logged α).value = result := rfl

@[simp] theorem messages_pure (result : α) : (pure result : Logged α).messages = [] := rfl

@[simp] theorem value_bind (first : Logged α) (next : α → Logged β)
    : (first >>= next).value = (next first.value).value := rfl

@[simp] theorem messages_bind (first : Logged α) (next : α → Logged β)
    : (first >>= next).messages = first.messages ++ (next first.value).messages := rfl

def say (level : Level) (area : Area) (text : String) : Logged Unit :=
  ⟨(), [⟨level, area, text⟩]⟩

end Logged

end DocSurvey
