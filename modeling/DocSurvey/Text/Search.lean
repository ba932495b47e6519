import DocSurvey.Text.CharClass

/-! Finding one text in another, and cutting blanks from its ends. Main statement: the search
succeeds exactly when the pattern is a contiguous part of the text.
-/

namespace DocSurvey.Text

def occursIn (pattern : List Char) : List Char → Bool
  | [] => pattern.isEmpty
  | c :: rest => pattern.isPrefixOf (c :: rest) || occursIn pattern rest

theorem occursIn_eq_true_iff (pattern text : List Char)
    : occursIn pattern text = true ↔ pattern <:+: text := by
  induction text with
  | nil => simp [occursIn]
  | cons c rest ih =>
      simp only [occursIn, Bool.or_eq_true, List.isPrefixOf_iff_prefix, ih]
      exact List.infix_cons_iff.symm

def trimStart (text : List Char) : List Char :=
  text.dropWhile isWhiteSpace

def trimEnd (text : List Char) : List Char :=
  (trimStart text.reverse).reverse

def trim (text : List Char) : List Char :=
  trimEnd (trimStart text)

def isBlank (text : List Char) : Bool :=
  text.all isWhiteSpace

def equalsIgnoringCase (left right : List Char) : Bool :=
  left.map Char.toLower == right.map Char.toLower

end DocSurvey.Text
