import DocSurvey.Proofs.Python.Reading
import DocSurvey.Python.Literal

/-! String literals are read as they are written out: the flag and the quotes tell the style, and
the body ends at the first quotes of that style, of which it holds none.
-/

namespace DocSurvey.Python

open DocSurvey.Text DocSurvey.Python.Parser

-----------------------------------------------------------------------------------------
-- How a literal starts
-----------------------------------------------------------------------------------------

namespace Literal

/-- The letter before the quotes is a flag of strings, and starts a word. -/
theorem flag_facts (literal : Literal) {c : Char} (member : c ∈ literal.flag)
    : isStringFlag c = true ∧ isIdentifierStart c = true ∧ isAsciiLetter c = true := by
  have flags : ∀ c ∈ literalFlags,
      isStringFlag c = true ∧ isIdentifierStart c = true ∧ isAsciiLetter c = true :=
    forall_mem_of_all (by decide)
  exact flags c (literal.isFlag c member)

/-- A quote is no letter. -/
theorem quote_facts (literal : Literal)
    : Python.isQuote literal.quote = true ∧ isStringFlag literal.quote = false
      ∧ isIdentifierChar literal.quote = false ∧ isIdentifierStart literal.quote = false
      ∧ isAsciiLetter literal.quote = false := by
  have quotes : ∀ c ∈ ['"', '\''], Python.isQuote c = true ∧ isStringFlag c = false
      ∧ isIdentifierChar c = false ∧ isIdentifierStart c = false ∧ isAsciiLetter c = false :=
    forall_mem_of_all (by decide)
  exact quotes _ literal.isQuote

/-- A quote is none of the characters that mean something in a body. -/
theorem quote_notMem (literal : Literal)
    : literal.quote ∉ ['\\', '\x7b', '\x7d', '\x60', '\n', '\x00'] := by
  have quotes : ∀ c ∈ ['"', '\''], c ∉ ['\\', '\x7b', '\x7d', '\x60', '\n', '\x00'] :=
    forall_mem_of_all (by decide)
  exact quotes _ literal.isQuote

/-- The marks of a literal start with its quote. -/
theorem exists_marks (literal : Literal)
    : ∃ others, literal.marks = literal.quote :: others := by
  unfold marks
  split
  · exact ⟨_, List.replicate_succ⟩
  · exact ⟨_, List.replicate_succ⟩

/-- The word that a literal starts with is its flag. -/
theorem wordOf_text (literal : Literal) (more : List Char)
    : wordOf (literal.text ++ more) = literal.flag.toList := by
  obtain ⟨others, isMarks⟩ := literal.exists_marks
  obtain ⟨-, -, ends, noStart, -⟩ := literal.quote_facts
  cases isFlag : literal.flag with
  | none => simp [text, isFlag, isMarks, wordOf, noStart]
  | some c =>
      have starts := (literal.flag_facts isFlag).2.1
      simp [text, isFlag, isMarks, wordOf, starts, ends]

section Flags

variable (literal : Literal) {isLetter : Char → Bool}

/-- Letters end at the quotes, so that what is in front of them is the flag. -/
theorem takeWhile_text (letters : ∀ c ∈ literal.flag, isLetter c = true)
    (ends : isLetter literal.quote = false) (more : List Char)
    : (literal.text ++ more).takeWhile isLetter = literal.flag.toList := by
  obtain ⟨others, isMarks⟩ := literal.exists_marks
  cases isFlag : literal.flag with
  | none => simp [text, isFlag, isMarks, ends]
  | some c =>
      have letter := letters c isFlag
      simp [text, isFlag, isMarks, letter, ends]

/-- Behind the letters in front come the marks, the body and the marks again. -/
theorem dropWhile_text (letters : ∀ c ∈ literal.flag, isLetter c = true)
    (ends : isLetter literal.quote = false) (more : List Char)
    : (literal.text ++ more).dropWhile isLetter
        = literal.marks ++ (literal.body ++ (literal.marks ++ more)) := by
  have whole := List.takeWhile_append_dropWhile (p := isLetter) (l := literal.text ++ more)
  rw [literal.takeWhile_text letters ends] at whole
  refine List.append_cancel_left (whole.trans ?_)
  simp only [text, List.append_assoc]

theorem takeWhile_flag (more : List Char)
    : (literal.text ++ more).takeWhile isStringFlag = literal.flag.toList :=
  literal.takeWhile_text (fun _ member => (literal.flag_facts member).1) literal.quote_facts.2.1
    more

theorem dropWhile_flag (more : List Char)
    : (literal.text ++ more).dropWhile isStringFlag
        = literal.marks ++ (literal.body ++ (literal.marks ++ more)) :=
  literal.dropWhile_text (fun _ member => (literal.flag_facts member).1) literal.quote_facts.2.1
    more

end Flags

/-- A literal is recognised as one. -/
theorem opensString_text (literal : Literal) (more : List Char)
    : opensString (literal.text ++ more) = true := by
  obtain ⟨others, isMarks⟩ := literal.exists_marks
  rw [opensString, dropWhile_flag, isMarks]
  exact literal.quote_facts.1

def style (literal : Literal) : QuoteStyle where
  formatted := literal.flag.toList.any fun c => c == 'f' || c == 'F'
  raw := literal.flag.toList.any fun c => c == 'r' || c == 'R'
  bytes := literal.flag.toList.any fun c => c == 'b' || c == 'B'
  quote := literal.quote
  tripled := literal.tripled

/-- No character of the body ends the literal or means something else in it. -/
theorem body_facts (literal : Literal) {c : Char} (member : c ∈ literal.body)
    : c ≠ literal.quote ∧ c ≠ '\\' ∧ c ≠ '\n' ∧ c ≠ '\x7b' ∧ c ≠ '\x7d' := by
  have plain := literal.isPlain c member
  simp only [List.mem_cons, List.not_mem_nil, or_false, not_or] at plain
  obtain ⟨noDouble, noSingle, noBackslash, noOpening, noClosing, noLine, -⟩ := plain
  have noQuote : c ≠ literal.quote := by
    rintro rfl
    have quote := literal.isQuote
    simp [noDouble, noSingle] at quote
  exact ⟨noQuote, noBackslash, noLine, noOpening, noClosing⟩

/-- Three quotes in a row open a string only if it is written with three. -/
theorem tripled_iff (literal : Literal) {more : List Char} (apart : literal.quote ∉ more.head?)
    {others : List Char} (isMarks : literal.marks = literal.quote :: others)
    : [literal.quote, literal.quote] <+: others ++ (literal.body ++ (literal.marks ++ more))
      ↔ literal.tripled = true := by
  cases tripled : literal.tripled with
  | true =>
      obtain rfl : others = [literal.quote, literal.quote] := by
        simpa [marks, tripled, List.replicate, eq_comm] using isMarks
      simp
  | false =>
      obtain rfl : others = [] := by
        simpa [marks, tripled, List.replicate, eq_comm] using isMarks
      rw [isMarks]
      cases isBody : literal.body with
      | nil =>
          cases more with
          | nil => simp
          | cons c more =>
              have differs : literal.quote ≠ c := fun same => apart (by simp [same])
              simp [differs]
      | cons c body =>
          have differs := (literal.body_facts (c := c) (by simp [isBody])).1
          simp [differs.symm]

/-- The style of a literal is read off its flag and its marks, unless a quote follows that would
fit.
-/
theorem ofText?_text (literal : Literal) {more : List Char} (apart : literal.quote ∉ more.head?)
    : QuoteStyle.ofText? (literal.text ++ more)
        = some (literal.style, (literal.flag.toList ++ literal.marks).length) := by
  obtain ⟨others, isMarks⟩ := literal.exists_marks
  have behind : (literal.text ++ more).drop literal.flag.toList.length
      = literal.quote :: (others ++ (literal.body ++ (literal.marks ++ more))) := by
    rw [← List.cons_append, ← isMarks, text, List.append_assoc, List.drop_left]
    simp only [List.append_assoc]
  have noBacktick : (literal.quote != '\x60') = true := by
    have others := literal.quote_notMem
    simp_all
  have tripled : [literal.quote, literal.quote].isPrefixOf
      (others ++ (literal.body ++ (literal.marks ++ more))) = literal.tripled := by
    rw [Bool.eq_iff_iff, List.isPrefixOf_iff_prefix, literal.tripled_iff apart isMarks]
  rw [QuoteStyle.ofText?]
  simp only [takeWhile_flag, behind, literal.quote_facts.1, noBacktick, tripled, Bool.true_and,
    if_true, List.length_append]
  rfl

/-- A character of the body is passed on its own. -/
theorem bodyStep_body (literal : Literal) {c : Char} (member : c ∈ literal.body) (chunkOpen : Bool)
    (more : List Char)
    : bodyStep literal.style chunkOpen (c :: more) = some (.pass 1 false) := by
  obtain ⟨noQuote, noBackslash, noLine, noOpening, noClosing⟩ := literal.body_facts member
  obtain ⟨others, isMarks⟩ := literal.exists_marks
  have goesOn : literal.style.marks.isPrefixOf (c :: more) = false := by
    change literal.marks.isPrefixOf (c :: more) = false
    rw [isMarks, List.isPrefixOf, beq_eq_false_iff_ne.mpr noQuote.symm, Bool.false_and]
  simp [bodyStep, noBackslash, noLine, noOpening, noClosing, goesOn]

/-- The quotes at the end close the literal. -/
theorem bodyStep_marks (literal : Literal) (chunkOpen : Bool) (more : List Char)
    : bodyStep literal.style chunkOpen (literal.marks ++ more) = some .close := by
  obtain ⟨others, isMarks⟩ := literal.exists_marks
  have noSign : literal.quote ≠ '\\' ∧ literal.quote ≠ '\x7b' ∧ literal.quote ≠ '\x7d' := by
    have others := literal.quote_notMem
    simp_all
  have closes : literal.style.marks.isPrefixOf (literal.marks ++ more) = true :=
    List.isPrefixOf_iff_prefix.mpr (List.prefix_append _ _)
  rw [isMarks, List.cons_append] at closes ⊢
  simp [bodyStep, noSign, closes]

end Literal

-----------------------------------------------------------------------------------------
-- Reading a literal
-----------------------------------------------------------------------------------------

/-- The rule takes the text whatever follows, keeps it as plain text, and gives the value. -/
def Takes (rule : Parser α) (passed : List Char) (value : α) : Prop :=
  ∀ inFormat rest built, ∃ pieces,
    rule.run ⟨passed ++ rest, inFormat, built⟩
        = some (value, ⟨rest, inFormat, pieces.reverse ++ built⟩)
      ∧ Syntax.outlineOf pieces = [] ∧ Syntax.textOf pieces = passed

namespace Takes

variable {α β : Type} {rule : Parser α} {next : α → Parser β} {passed further : List Char}
  {value : α} {other : β}

theorem textOf_append (left right : List Syntax)
    : Syntax.textOf (left ++ right) = Syntax.textOf left ++ Syntax.textOf right := by
  induction left with
  | nil => rfl
  | cons part rest ih => simp [Syntax.textOf, ih]

/-- One rule after another takes the text of both. -/
theorem bind (first : Takes rule passed value) (second : Takes (next value) further other)
    : Takes (rule >>= next) (passed ++ further) other := by
  intro inFormat rest built
  obtain ⟨pieces, isFirst, noNode, rfl⟩ := first inFormat (further ++ rest) built
  obtain ⟨others, isSecond, noOther, rfl⟩ := second inFormat rest (pieces.reverse ++ built)
  refine ⟨pieces ++ others, ?_, by simp [noNode, noOther], textOf_append _ _⟩
  rw [StateT.run_bind, List.append_assoc, isFirst]
  simpa using isSecond

end Takes

theorem takes_pure (value : α) : Takes (pure value) [] value :=
  fun _ _ _ => ⟨[], rfl, by simp, rfl⟩

theorem takes_take (passed : List Char) : Takes (take passed.length) passed () := by
  intro inFormat rest built
  cases passed with
  | nil => exact ⟨[], by simp [take], by simp, rfl⟩
  | cons c passed =>
      exact ⟨[.text (c :: passed)], by simp [take], by simp, by simp [Syntax.textOf, Syntax.toList]⟩

/-- A loop with a value ends at a turn that comes to none. -/
theorem takes_iterate_stop {α : Type} {step : α → Parser (Option α)} {value : α}
    (stops : Takes (step value) [] none) {budget : List Char} (enough : 0 < budget.length)
    : Takes (iterate.go step budget value) [] value := by
  cases budget with
  | nil => contradiction
  | cons _ budget => exact stops.bind (takes_pure value)

/-- A loop with a value goes on behind a turn that comes to one, with a smaller budget. -/
theorem takes_iterate_next {α : Type} {step : α → Parser (Option α)} {value next last : α}
    {passed further : List Char} (goesOn : Takes (step value) passed (some next))
    {budget : List Char} (onward : Takes (iterate.go step budget next) further last) (first : Char)
    : Takes (iterate.go step (first :: budget) value) (passed ++ further) last :=
  goesOn.bind onward

section Bodies

variable {rules : Rules} {c : Context} {literal : Literal}

/-- A character of the body is passed. -/
theorem takes_bodyTurn_pass {character : Char} (member : character ∈ literal.body)
    (chunkOpen : Bool)
    : Takes (bodyTurn rules c literal.style (true, chunkOpen, false)) [character]
        (some (true, true, false)) := by
  intro inFormat rest built
  refine ⟨[.text [character]], ?_, by simp, by simp [Syntax.textOf, Syntax.toList]⟩
  simp [bodyTurn, ahead, literal.bodyStep_body member, require, take]

/-- The marks behind the body close the literal. -/
theorem takes_bodyTurn_close (chunkOpen : Bool)
    : Takes (bodyTurn rules c literal.style (true, chunkOpen, false)) literal.marks
        (some (false, false, false)) := by
  intro inFormat rest built
  obtain ⟨pieces, read, plain⟩ := takes_take literal.marks inFormat rest built
  refine ⟨pieces, ?_, plain⟩
  have marks : literal.style.marks = literal.marks := rfl
  simp [bodyTurn, ahead, literal.bodyStep_marks, marks, read]

/-- The body is passed character by character, by induction over it, and the quotes close it. -/
theorem takes_body_go {characters : List Char} (among : ∀ c ∈ characters, c ∈ literal.body)
    {budget : List Char} (enough : characters.length + 1 < budget.length) (chunkOpen : Bool)
    : Takes (iterate.go (bodyTurn rules c literal.style) budget (true, chunkOpen, false))
        (characters ++ literal.marks) (false, false, false) := by
  induction characters generalizing budget chunkOpen with
  | nil =>
      cases budget with
      | nil => contradiction
      | cons first budget =>
          have enough : 0 < budget.length := by simpa using enough
          have stops : Takes
              (iterate.go (bodyTurn rules c literal.style) budget (false, false, false)) []
              (false, false, false) := takes_iterate_stop (takes_pure none) enough
          have closes := takes_iterate_next (takes_bodyTurn_close chunkOpen) stops first
          rwa [List.append_nil] at closes
  | cons character rest ih =>
      cases budget with
      | nil => contradiction
      | cons first budget =>
          have enough : rest.length + 1 < budget.length := by simpa using enough
          obtain ⟨member, others⟩ := List.forall_mem_cons.mp among
          exact takes_iterate_next (takes_bodyTurn_pass member chunkOpen)
            (ih others enough true) first

/-- The body of a literal is taken with the marks that close it, by induction over its characters.
-/
theorem takes_body (rules : Rules) (c : Context) (literal : Literal)
    : Takes (body rules c literal.style) (literal.body ++ literal.marks) false := by
  intro inFormat rest built
  obtain ⟨others, isMarks⟩ := literal.exists_marks
  have enough : literal.body.length + 1
      < ('\n' :: ((literal.body ++ literal.marks) ++ rest)).length := by
    simp only [isMarks, List.length_cons, List.length_append]
    omega
  have turns : Takes (iterate.go (bodyTurn rules c literal.style)
      ('\n' :: ((literal.body ++ literal.marks) ++ rest)) (true, false, false))
      (literal.body ++ literal.marks) (false, false, false) :=
    takes_body_go (fun _ member => member) enough false
  obtain ⟨pieces, read, plain⟩ := turns inFormat rest built
  have read : (iterate (bodyTurn rules c literal.style) (true, false, false)).run
      ⟨(literal.body ++ literal.marks) ++ rest, inFormat, built⟩
      = some ((false, false, false), ⟨rest, inFormat, pieces.reverse ++ built⟩) := read
  refine ⟨pieces, ?_, plain⟩
  rw [body, StateT.run_bind, read]
  rfl

/-- A literal is read as a whole, and is not taken for one with replacement fields. -/
theorem reads_literal (rules : Rules) (c : Context) (literal : Literal) {more : List Char}
    (apart : literal.quote ∉ more.head?)
    : Reads (Python.literal rules c) (literal.text ++ more) ⟨literal.text, false⟩ more := by
  intro built
  have style := literal.ofText?_text apart
  have split : literal.text ++ more
      = (literal.flag.toList ++ literal.marks) ++ ((literal.body ++ literal.marks) ++ more) := by
    simp [Literal.text]
  obtain ⟨opening, isOpening, noNode, isText⟩ :=
    takes_take (literal.flag.toList ++ literal.marks) false
      ((literal.body ++ literal.marks) ++ more) []
  obtain ⟨inside, isInside, noInner, isInner⟩ :=
    takes_body rules c literal literal.style.formatted more opening.reverse
  have text : Syntax.textOf (opening ++ inside) = literal.text := by
    rw [Takes.textOf_append, isText, isInner]
    simp [Literal.text]
  refine ⟨opening ++ inside, ?_, by simp [noNode, noInner]⟩
  rw [← split, List.append_nil] at isOpening
  generalize literal.text ++ more = start at *
  generalize literal.body ++ literal.marks ++ more = middle at *
  generalize (literal.flag.toList ++ literal.marks).length = length at *
  simp [Python.literal, withText, ahead, style, isOpening, isInside, text]

/-- No other literal follows at the end of a line. -/
theorem reads_literals (rules : Rules) (column : Nat) (literal : Literal) (more : List Char)
    : Reads (literals rules (.statement column)) (literal.text ++ '\n' :: more)
        [⟨literal.text, false⟩] ('\n' :: more) := by
  have apart : literal.quote ∉ ('\n' :: more).head? := by
    have others := literal.quote_notMem
    simp_all [eq_comm]
  have noOther : opensString ('\n' :: more) = false := by
    have stops : isStringFlag '\n' = false := by decide
    rw [opensString, List.dropWhile_cons_of_neg (by simp [stops])]
    rfl
  refine (reads_budget _).bind ((reads_literal rules _ literal apart).bind ?_)
  refine (reads_skip (follows_end column more)).bind ((reads_ahead _).bind ?_)
  rw [noOther]
  exact reads_pure _ _

end Bodies

end DocSurvey.Python
