import DocSurvey.Proofs.Python.Literals
import DocSurvey.Python.Module

/-! Lines that hold one statement, `pass` or a string literal. No operator, bracket or keyword
follows the literal, so that it is the whole expression.
-/

namespace DocSurvey.Python

open DocSurvey.Text DocSurvey.Python.Parser

-----------------------------------------------------------------------------------------
-- What does not follow
-----------------------------------------------------------------------------------------

/-- Neither of two conditions holds if one fails after the other. -/
theorem reads_orM_false {left right : Parser Bool} {text middle rest : List Char}
    (first : Reads left text false middle) (second : Reads right middle false rest)
    : Reads (left <||> right) text false rest :=
  first.bind second

/-- The second of two conditions is not tried where the first one fails. -/
theorem reads_andM_left {left right : Parser Bool} {text rest : List Char}
    (fails : Reads left text false rest)
    : Reads (left <&&> right) text false rest :=
  fails.bind (reads_pure false rest)

/-- Two conditions fail together where the second one does. -/
theorem reads_andM_right {left right : Parser Bool} {text middle rest : List Char}
    (holds : Reads left text true middle) (fails : Reads right middle false rest)
    : Reads (left <&&> right) text false rest :=
  holds.bind fails

@[simp] theorem wordOf_newline (more : List Char) : wordOf ('\n' :: more) = [] := by
  have noStart : isIdentifierStart '\n' = false := by decide
  simp [wordOf, noStart]

section EndOfLine

variable {rules : Rules} {c : Context} {more : List Char}

/-- No keyword stands at the end of a line. -/
theorem reads_acceptWord_newline {keyword : String} (filled : keyword.toList ≠ [])
    : Reads (acceptWord c keyword) ('\n' :: more) false ('\n' :: more) :=
  reads_acceptWord_false (by rw [wordOf_newline]; exact filled.symm)

/-- Nothing trails an operand at the end of a line. -/
theorem reads_trailers_newline (start : Shape)
    : Reads (trailers rules c start) ('\n' :: more) (start, start == .name) ('\n' :: more) := by
  refine reads_iterate ?_
  refine (reads_isAt_false (by simp)).otherwise ?_
  refine (reads_accept_false (by simp)).otherwise ?_
  exact (reads_accept_false (by simp)).otherwise (reads_pure none _)

/-- No arithmetic operator stands at the end of a line. -/
theorem reads_arithmeticOperator_newline
    : Reads (arithmeticOperator c) ('\n' :: more) false ('\n' :: more) := by
  refine (reads_ahead _).bind ?_
  have none : (arithmeticOperators.find? fun operator => operator.toList.isPrefixOf ('\n' :: more))
      = none := by
    simp [arithmeticOperators]
  rw [none]
  exact reads_pure false _

/-- No comparison stands at the end of a line. -/
theorem reads_comparisonOperator_newline
    : Reads (comparisonOperator c) ('\n' :: more) false ('\n' :: more) := by
  refine (reads_ahead _).bind ?_
  have none : (comparisonOperators.find? fun operator => operator.toList.isPrefixOf ('\n' :: more))
      = none := by
    simp [comparisonOperators]
  rw [none]
  refine (reads_acceptWord_newline (by simp)).otherwise ?_
  refine (reads_acceptWord_newline (by simp)).otherwise ?_
  exact (reads_acceptWord_newline (by simp)).otherwise (reads_pure false _)

end EndOfLine

-----------------------------------------------------------------------------------------
-- A literal is the whole expression
-----------------------------------------------------------------------------------------

section Whole

variable {rules : Rules} (column : Nat) (literal : Literal) (more : List Char)

/-- The value of a literal's expression. -/
def literalShape (literal : Literal) : Shape :=
  .strings [⟨literal.text, false⟩]

def literalStarts : List Char :=
  '"' :: '\'' :: literalFlags

/-- A literal starts with a quote or with one of the letters that may stand before it. -/
theorem head?_literal_mem {c : Char} (isHead : c ∈ (literal.text ++ more).head?)
    : c ∈ literalStarts := by
  obtain ⟨others, isMarks⟩ := literal.exists_marks
  cases isFlag : literal.flag with
  | none =>
      obtain rfl : literal.quote = c := by
        simpa [Literal.text, isFlag, isMarks] using isHead
      exact List.mem_append_left literalFlags literal.isQuote
  | some flag =>
      obtain rfl : flag = c := by
        simpa [Literal.text, isFlag, isMarks] using isHead
      exact List.mem_cons_of_mem _ (List.mem_cons_of_mem _ (literal.isFlag flag isFlag))

/-- No sign that a literal cannot start with is in front of it. -/
theorem not_prefix_literal {characters : String}
    (apart : ∃ sign ∈ characters.toList.head?, sign ∉ literalStarts)
    : ¬ characters.toList <+: literal.text ++ more := by
  obtain ⟨sign, isHead, other⟩ := apart
  exact not_prefix_of_head ⟨sign, isHead, fun same => other (head?_literal_mem literal more same)⟩

/-- At most one letter stands in front of a literal. -/
theorem length_flag_le : literal.flag.toList.length ≤ 1 := by
  cases literal.flag <;> simp

/-- The letter in front of the quotes is no keyword. -/
theorem wordOf_literal_ne {keyword : String} (long : 1 < keyword.toList.length)
    : wordOf (literal.text ++ more) ≠ keyword.toList := by
  rw [literal.wordOf_text]
  intro same
  have short := length_flag_le literal
  rw [same] at short
  omega

/-- A literal does not start with a keyword of more than one letter. -/
theorem ofList_wordOf_literal_ne {keyword : String} (long : 1 < keyword.toList.length)
    : String.ofList (wordOf (literal.text ++ more)) ≠ keyword := by
  rintro rfl
  rw [String.toList_ofList, literal.wordOf_text] at long
  exact absurd (length_flag_le literal) (Nat.not_le.mpr long)

/-- A literal that ends its line is read as an atom. -/
theorem reads_atom_literal
    : Reads (atom rules (.statement column)) (literal.text ++ '\n' :: more) (literalShape literal)
        ('\n' :: more) := by
  refine (reads_ahead _).bind ?_
  rw [if_pos (literal.opensString_text _)]
  exact (reads_literals rules column literal more).bind (reads_pure _ _)

/-- A literal that ends its line is read as an operand, with nothing that trails it. -/
theorem reads_operand_literal
    : Reads (operand rules (.statement column)) (literal.text ++ '\n' :: more)
        (literalShape literal)
        ('\n' :: more) := by
  have noSign : ∀ sign ∈ ["+", "-", "~"], ¬ sign.toList <+: literal.text ++ '\n' :: more := by
    rw [List.forall_mem_cons, List.forall_mem_cons, List.forall_mem_singleton]
    exact ⟨not_prefix_literal literal _ ⟨'+', rfl, by decide⟩,
      not_prefix_literal literal _ ⟨'-', rfl, by decide⟩,
      not_prefix_literal literal _ ⟨'~', rfl, by decide⟩⟩
  refine (reads_acceptAny_false noSign).otherwise ?_
  refine (reads_isAt_false (not_prefix_literal literal _ ⟨'*', rfl, by decide⟩)).otherwise ?_
  refine (reads_isAtWord_false (wordOf_literal_ne literal _ (by decide))).otherwise ?_
  refine (reads_atom_literal column literal more).bind ?_
  exact (reads_trailers_newline _).bind (reads_pure _ _)

/-- The rules refer to operands, to expressions without conjunctions and to expressions. -/
theorem reads_unit_literal
    (operands : Reads (rules (.operand (.statement column))) (literal.text ++ '\n' :: more)
      (literalShape literal) ('\n' :: more))
    : Reads (unit rules (.statement column)) (literal.text ++ '\n' :: more) (literalShape literal)
        ('\n' :: more) := by
  refine (reads_acceptWord_false (wordOf_literal_ne literal _ (by decide))).otherwise ?_
  refine (reads_isAtWord_false (wordOf_literal_ne literal _ (by decide))).otherwise ?_
  refine (reads_wordAhead _).bind ?_
  have compared : Reads (comparison rules (.statement column)) (literal.text ++ '\n' :: more)
      (literalShape literal) ('\n' :: more) := by
    refine operands.bind (reads_iterate ?_)
    exact (reads_orM_false reads_arithmeticOperator_newline
      reads_comparisonOperator_newline).otherwise (reads_pure none _)
  refine compared.bind ?_
  have unnamed : ∀ plain : Bool, (plain && literalShape literal == .name) = false := by
    intro plain
    cases plain <;> rfl
  refine Reads.otherwise (reads_andM_left ?_) (reads_pure _ _)
  rw [unnamed]
  exact reads_pure false _

/-- A literal that ends its line is read as a whole expression. -/
theorem reads_expression_literal
    (units : Reads (rules (.unit (.statement column))) (literal.text ++ '\n' :: more)
      (literalShape literal) ('\n' :: more))
    : Reads (expression rules (.statement column)) (literal.text ++ '\n' :: more)
        (literalShape literal) ('\n' :: more) := by
  refine units.bind (reads_iterate ?_)
  refine (reads_orM_false (reads_acceptWord_newline (by simp))
    (reads_acceptWord_newline (by simp))).otherwise ?_
  refine (reads_acceptWord_newline (by simp)).otherwise ?_
  have allowed : Reads (pure ((Context.statement column).ternary == .allowed)) ('\n' :: more) true
      ('\n' :: more) := reads_pure true _
  exact (reads_andM_right allowed (reads_acceptWord_newline (by simp))).otherwise
    (reads_pure none _)

/-- The rules need three steps down to the operand. -/
theorem reads_nested_literal (depth : Nat)
    : Reads (nested (depth + 3) (.expression (.statement column))) (literal.text ++ '\n' :: more)
        (literalShape literal) ('\n' :: more) :=
  reads_expression_literal column literal more
    (reads_unit_literal column literal more (reads_operand_literal column literal more))

/-- A literal that ends its line is read as an expression statement that opens with it. -/
theorem reads_expressionStatement_literal
    (expressions : Reads (rules (.expression (.statement column))) (literal.text ++ '\n' :: more)
      (literalShape literal) ('\n' :: more))
    : Reads (expressionStatement rules (.statement column)) (literal.text ++ '\n' :: more)
        [⟨literal.text, false⟩] ('\n' :: more) := by
  have list : Reads (expressionList rules (.statement column)) (literal.text ++ '\n' :: more)
      [literalShape literal] ('\n' :: more) :=
    reads_commaSeparated_single expressions (by simp)
  refine ((reads_isAtWord_false (wordOf_literal_ne literal _ (by decide))).otherwise list).bind ?_
  refine (reads_iterate ?_).bind (reads_pure _ _)
  refine (reads_isAt_false (by simp)).bind ?_
  have noSign : ∀ sign ∈ combinedAssignments, ¬ sign.toList <+: '\n' :: more := by
    simp [combinedAssignments]
  have noAssignment : Reads (accept (Context.statement column).inner "=") ('\n' :: more) false
      ('\n' :: more) := reads_accept_false (by simp)
  refine (reads_orM_false (reads_andM_right (reads_pure true _) noAssignment)
    (reads_acceptAny_false noSign)).otherwise ?_
  exact (reads_accept_false (by simp)).otherwise (reads_pure none _)

end Whole

-----------------------------------------------------------------------------------------
-- Lines
-----------------------------------------------------------------------------------------

/-- What a statement without others in it becomes in the tree. -/
def Simple.node : Simple → Syntax
  | .pass => .node .simple []
  | .literal quoted => .node (.expression [⟨quoted.text, false⟩]) []

theorem wordOf_pass (more : List Char) : wordOf ("pass".toList ++ '\n' :: more) = "pass".toList :=
  wordOf_append ⟨'p', _, rfl, by decide, forall_mem_of_all (by decide)⟩ (by rintro c ⟨⟩; decide)

/-- A simple statement that ends its line builds its own node. -/
theorem builds_simpleStatement (depth column : Nat) (content : Simple) (more : List Char)
    : Builds (simpleStatement (nested (depth + 3)) (.statement column))
        (content.text ++ '\n' :: more)
        () ('\n' :: more) [content.node] := by
  cases content with
  | pass =>
      refine Builds.node ((reads_wordAhead _).bind ?_)
      rw [Simple.text, wordOf_pass]
      exact (reads_token "pass".toList (follows_end column more)).bind (reads_pure Kind.simple _)
  | literal quoted =>
      refine Builds.node ((reads_wordAhead _).bind ?_)
      rw [Simple.text]
      split
      all_goals try exact absurd ‹_› (ofList_wordOf_literal_ne quoted _ (by decide))
      exact (reads_expressionStatement_literal column quoted more
        (reads_nested_literal column quoted more depth)).bind (reads_pure (Kind.expression _) _)

/-- A line with nothing behind its statement. -/
theorem builds_statementLine (depth column : Nat) (content : Simple) (more : List Char)
    : Builds (statementLine (nested (depth + 3)) column) (content.text ++ '\n' :: more) ()
        ('\n' :: more) [content.node] := by
  refine (builds_simpleStatement depth _ content more).bind_reads ?_
  refine (reads_whileMore ((reads_accept_false (by simp)).otherwise (reads_pure false _))).bind ?_
  refine Reads.bind ((reads_ahead _).bind (reads_pure _ _)) (reads_require ?_ _)
  exact gapToToken_broken more

/-- Neither `pass` nor a literal opens a statement with a block. -/
theorem builds_simple (depth column : Nat) (content : Simple) (more : List Char)
    : Builds (statement (nested (depth + 3)) column) (content.text ++ '\n' :: more) ()
        ('\n' :: more) [content.node] := by
  have line := builds_statementLine depth column content more
  refine (reads_wordAhead _).bind ?_
  cases content with
  | pass =>
      rw [Simple.text] at line ⊢
      rw [wordOf_pass]
      exact (reads_isAt_false (by simp)).otherwise line
  | literal quoted =>
      rw [Simple.text] at line ⊢
      split
      all_goals try exact absurd ‹_› (ofList_wordOf_literal_ne quoted _ (by decide))
      exact (reads_isAt_false (not_prefix_literal quoted _ ⟨'@', rfl, by decide⟩)).otherwise line

end DocSurvey.Python
