import DocSurvey.Proofs.Text.Characters
import DocSurvey.Python.Syntax

/-! Quotes around the body of a string literal. Which of the four styles a literal is written in can
be told from its text alone, so that its body is found whatever stands in it.
-/

namespace DocSurvey.Python

open DocSurvey.Text

/-- The quotes at either end of a literal, one or three. -/
def quoteMarks (quote : Char) (tripled : Bool) : List Char :=
  List.replicate (if tripled then 3 else 1) quote

/-- The first quotes that no backslash stands in front of are those behind the body. -/
def staysOpen (marks : List Char) : List Char → Bool
  | [] => true
  | ['\\'] => false
  | '\\' :: _ :: rest => staysOpen marks rest
  | c :: rest => !marks.isPrefixOf (c :: (rest ++ marks)) && staysOpen marks rest

/-- The quotes stand somewhere in the body where no backslash takes their first character. -/
def holdsUnescaped (marks : List Char) : List Char → Bool
  | [] => false
  | '\\' :: _ :: rest => holdsUnescaped marks rest
  | c :: rest => marks.isPrefixOf (c :: rest) || holdsUnescaped marks rest

/-- The quotes of a style fit both ends without sharing a character. -/
def fits (unprefixed quote : List Char) : Bool :=
  2 * quote.length ≤ unprefixed.length && quote.isPrefixOf unprefixed && quote.isSuffixOf unprefixed

variable {marks body flags : List Char} {quote : Char} {tripled : Bool}

/-- Marks fit around any body, even an empty one. -/
theorem fits_marks (marks body : List Char) : fits (marks ++ (body ++ marks)) marks = true := by
  have starts : marks <+: marks ++ (body ++ marks) := List.prefix_append _ _
  have ends : marks <:+ marks ++ (body ++ marks) :=
    (List.suffix_append _ _).trans (List.suffix_append _ _)
  simp only [fits, Bool.and_eq_true, decide_eq_true_eq, List.isPrefixOf_iff_prefix,
    List.isSuffixOf_iff_suffix, List.length_append]
  exact ⟨⟨by omega, starts⟩, ends⟩

/-- Quotes of the other sort fit no end. -/
theorem fits_other {c : Char} (differs : c ≠ quote) (others rest : List Char)
    : fits (quote :: rest) (c :: others) = false := by
  simp [fits, List.isPrefixOf, differs]

/-- Three quotes do not fit a body between single ones that does not start with the quote. -/
theorem fits_three (apart : quote ∉ body.head?)
    : fits (quote :: (body ++ [quote])) [quote, quote, quote] = false := by
  cases body with
  | nil => simp [fits]
  | cons c rest =>
      have differs : quote ≠ c := fun same => apart (by simp [same])
      simp [fits, List.isPrefixOf, differs]

/-- A body that does not hold the quote does not start with it. -/
theorem notMem_head?_of_holdsUnescaped (isQuote : quote ∈ ['"', '\''])
    (isFree : holdsUnescaped [quote] body = false)
    : quote ∉ body.head? := by
  cases body with
  | nil => simp
  | cons c rest =>
      intro same
      obtain rfl : c = quote := Option.some.inj same
      obtain rfl | rfl : c = '"' ∨ c = '\'' := by simpa using isQuote
      · simp [holdsUnescaped] at isFree
      · simp [holdsUnescaped] at isFree

/-- A body that the quotes do not end early does not hold them. -/
theorem holdsUnescaped_of_staysOpen (isOpen : staysOpen marks body = true)
    : holdsUnescaped marks body = false := by
  fun_induction staysOpen marks body with
  | case1 => rfl
  | case2 => simp at isOpen
  | case3 c rest ih => simpa [holdsUnescaped] using ih isOpen
  | case4 c rest _ noEscape ih =>
      simp only [Bool.and_eq_true, Bool.not_eq_true', Bool.eq_false_iff, ne_eq,
        List.isPrefixOf_iff_prefix] at isOpen
      have notHere : ¬ marks <+: c :: rest := fun starts =>
        isOpen.1 (starts.trans (List.prefix_append (c :: rest) marks))
      rw [holdsUnescaped, ih isOpen.2, Bool.or_false, Bool.eq_false_iff, ne_eq,
        List.isPrefixOf_iff_prefix]
      · exact notHere
      · exact noEscape

/-- A body that the quotes do not end early does not start with the one that it stands between. -/
theorem notMem_head?_of_staysOpen (isQuote : quote ∈ ['"', '\''])
    (isOpen : staysOpen [quote] body = true)
    : quote ∉ body.head? :=
  notMem_head?_of_holdsUnescaped isQuote (holdsUnescaped_of_staysOpen isOpen)

/-- Of the four styles the one that a literal is written in is the first that fits. -/
theorem find?_style (isQuote : quote ∈ ['"', '\'']) (apart : tripled = false → quote ∉ body.head?)
    : ["\"\"\"".toList, "'''".toList, "\"".toList, "'".toList].find?
        (fits (quoteMarks quote tripled ++ (body ++ quoteMarks quote tripled)))
        = some (quoteMarks quote tripled) := by
  have whole := fits_marks (quoteMarks quote tripled) body
  have styles : ["\"\"\"".toList, "'''".toList, "\"".toList, "'".toList]
      = [['"', '"', '"'], ['\'', '\'', '\''], ['"'], ['\'']] := by decide
  rw [styles]
  cases tripled with
  | true =>
      have marks : quoteMarks quote true = [quote, quote, quote] := rfl
      rw [marks] at whole ⊢
      obtain rfl | rfl : quote = '"' ∨ quote = '\'' := by simpa using isQuote
      · rw [List.find?_cons_of_pos whole]
      · rw [List.find?_cons_of_neg (by simp [fits_other]), List.find?_cons_of_pos whole]
  | false =>
      have marks : quoteMarks quote false = [quote] := rfl
      have three := fits_three (apart rfl)
      rw [marks] at whole ⊢
      rw [List.singleton_append] at whole ⊢
      obtain rfl | rfl : quote = '"' ∨ quote = '\'' := by simpa using isQuote
      · rw [List.find?_cons_of_neg (by simp [three]), List.find?_cons_of_neg (by simp [fits_other]),
          List.find?_cons_of_pos whole]
      · rw [List.find?_cons_of_neg (by simp [fits_other]), List.find?_cons_of_neg (by simp [three]),
          List.find?_cons_of_neg (by simp [fits_other]), List.find?_cons_of_pos whole]

/-- Marks start with their quote. -/
theorem exists_quoteMarks (quote : Char) (tripled : Bool)
    : ∃ others, quoteMarks quote tripled = quote :: others := by
  cases tripled
  · exact ⟨[], rfl⟩
  · exact ⟨[quote, quote], rfl⟩

theorem notLetter_of_isQuote (isQuote : quote ∈ ['"', '\''])
    : isAsciiLetter quote = false := by
  have quotes : ∀ c ∈ ['"', '\''], isAsciiLetter c = false := forall_mem_of_all (by decide)
  exact quotes quote isQuote

/-- The body of a text stands between the quotes that fit it. -/
theorem literalBody_of_fits {text : List Char}
    (spelled : text.dropWhile isAsciiLetter = marks ++ (body ++ marks))
    (found : ["\"\"\"".toList, "'''".toList, "\"".toList, "'".toList].find?
        (fits (marks ++ (body ++ marks)))
      = some marks)
    : literalBody text = body := by
  have length : (marks ++ (body ++ marks)).length - 2 * marks.length = body.length := by
    simp only [List.length_append]
    omega
  unfold fits at found
  simp only [literalBody, spelled, found, length, List.drop_left, List.take_left]

section Letters

variable (letters : ∀ c ∈ flags, isAsciiLetter c = true) (isQuote : quote ∈ ['"', '\''])
include letters isQuote

/-- The letters in front of the marks are the flags. -/
theorem takeWhile_letters (rest : List Char)
    : (flags ++ (quoteMarks quote tripled ++ rest)).takeWhile isAsciiLetter = flags := by
  obtain ⟨others, isMarks⟩ := exists_quoteMarks quote tripled
  rw [List.takeWhile_append_of_pos letters, isMarks, List.cons_append,
    List.takeWhile_cons_of_neg (by simp [notLetter_of_isQuote isQuote]), List.append_nil]

/-- Behind the flags the marks start. -/
theorem dropWhile_letters (rest : List Char)
    : (flags ++ (quoteMarks quote tripled ++ rest)).dropWhile isAsciiLetter
        = quoteMarks quote tripled ++ rest := by
  have whole := List.takeWhile_append_dropWhile (p := isAsciiLetter)
    (l := flags ++ (quoteMarks quote tripled ++ rest))
  rw [takeWhile_letters letters isQuote] at whole
  exact List.append_cancel_left whole

/-- A literal keeps its body. -/
theorem literalBody_quoted (apart : tripled = false → quote ∉ body.head?)
    : literalBody (flags ++ (quoteMarks quote tripled ++ (body ++ quoteMarks quote tripled)))
        = body :=
  literalBody_of_fits (dropWhile_letters letters isQuote _) (find?_style isQuote apart)

end Letters

end DocSurvey.Python
