import DocSurvey.Data.JsonReader
import DocSurvey.Data.Ordered
import DocSurvey.Footer.Analysis

/-! Results read back from data. Nothing in the data says what came out for a file: what has the
fields of an analysis is one, and otherwise it tells why the file could not be read.
-/

namespace DocSurvey.Footer

def Result.ofJson (json : Json) : Except Data.Error Result :=
  match Data.readJson Analysis.kind json with
  | .ok analysis => .ok (.analyzed (.ofValue analysis))
  | .error _ =>
      match Data.readJson Result.unreadableKind json with
      | .ok reason => .ok (.unreadable (reason.textD "error" ""))
      | .error _ => .error (.noVariant "FooterResult")

def Result.ofMember (member : String × Json) : Except Data.Error (String × Result) := do
  let result ← Result.ofJson member.2
  return (member.1, result)

def Results.ofJson : Json → Except Data.Error Results
  | .object members => return Data.orderedByKey (← members.mapM Result.ofMember)
  | other => .error (.invalidType (.ofJson other) "a map")

end DocSurvey.Footer
