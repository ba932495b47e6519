import DocSurvey.Declarations.Language
import DocSurvey.Proofs.Python.Blocks
import DocSurvey.Proofs.Python.Quotes

/-! The definitions of a program that is written out are found, and counted, exactly. The tree of
its text has the program as its outline, a literal keeps its body, and what is counted are the
definitions that the program is made of.
-/

namespace DocSurvey.Python

open DocSurvey.Text DocSurvey.Python.Parser Syntax

-----------------------------------------------------------------------------------------
-- The characters of a program
-----------------------------------------------------------------------------------------

theorem Identifier.nul_notMem (name : Identifier) : '\x00' ∉ name.text := fun member =>
  absurd (name.isAsciiWord_of_mem '\x00' member) (by decide)

/-- No part of a literal holds a zero character. -/
theorem Literal.nul_notMem (literal : Literal) : '\x00' ∉ literal.text := by
  have noFlag : literal.flag ≠ some '\x00' := fun same =>
    absurd (literal.isFlag '\x00' same) (by decide)
  have noQuote : '\x00' ≠ literal.quote := by
    have others := literal.quote_notMem
    simp_all [eq_comm]
  have noBody : '\x00' ∉ literal.body := fun member =>
    absurd (literal.isPlain '\x00' member) (by decide)
  simp [text, marks, noFlag, noQuote, noBody]

theorem Simple.nul_notMem (content : Simple) : '\x00' ∉ content.text := by
  cases content with
  | pass => decide
  | literal quoted => exact quoted.nul_notMem

theorem Header.nul_notMem_parameterText (parameters : List Identifier)
    : '\x00' ∉ parameterText parameters := by
  cases parameters with
  | nil => decide
  | cons name others =>
      have noTail : '\x00' ∉ others.flatMap fun name => ',' :: ' ' :: name.text := by
        simp [Identifier.nul_notMem]
      have whole := parameterText_cons name others []
      rw [parameterTail, ← List.append_assoc] at whole
      rw [List.append_cancel_right whole]
      simp [name.nul_notMem, noTail]

/-- Neither the keywords nor the names of a header hold a zero character. -/
theorem Header.nul_notMem (header : Header) : '\x00' ∉ header.text := by
  cases header with
  | function isAsync name parameters =>
      have noAsync : '\x00' ∉ (if isAsync then "async ".toList else []) := by
        cases isAsync <;> decide
      have noDef : '\x00' ∉ "def ".toList := by decide
      change '\x00' ∉ (if isAsync then "async ".toList else []) ++ ("def ".toList
        ++ (name.text ++ ('(' :: (parameterText parameters ++ [')']))))
      generalize (if isAsync then "async ".toList else []) = before at *
      generalize "def ".toList = word at *
      simp [noAsync, noDef, name.nul_notMem, nul_notMem_parameterText]
  | ofClass name =>
      have noClass : '\x00' ∉ "class ".toList := by decide
      exact List.not_mem_append noClass name.nul_notMem

theorem nul_notMem_newLine (level : Nat) : '\x00' ∉ newLine level := by
  simp [newLine]

theorem nul_notMem_remarks (level : Nat) (comments : List Comment)
    : '\x00' ∉ remarks level comments := by
  induction comments with
  | nil => exact List.not_mem_nil
  | cons comment rest ih =>
      have noComment : '\x00' ∉ comment.text := fun member =>
        comment.isLine '\x00' member (by simp)
      simp [remarks_cons, noComment, nul_notMem_newLine, ih]

mutual

/-- The code of a statement holds no zero character, which follows the statements inside down. -/
theorem Statement.nul_notMem (statement : Statement) (level : Nat)
    : '\x00' ∉ statement.code level := by
  cases statement with
  | simple comments content =>
      rw [Statement.code]
      exact content.nul_notMem
  | definition comments header first rest =>
      rw [Statement.code]
      simp [header.nul_notMem, nul_notMem_newLine, nul_notMem_remarks, first.nul_notMem,
        nul_notMem_textAmong rest]

theorem nul_notMem_textAmong (statements : List Statement) (level : Nat)
    : '\x00' ∉ textAmong level statements := by
  cases statements with
  | nil => simp [textAmong]
  | cons statement rest =>
      simp [textAmong, nul_notMem_newLine, nul_notMem_remarks, statement.nul_notMem,
        nul_notMem_textAmong rest]

end

/-- Nothing in a program ends the reading of it early. -/
theorem nul_notMem_programText (program : List Statement) : '\x00' ∉ programText program := by
  cases program with
  | nil => exact List.not_mem_nil
  | cons first rest =>
      simp [programText, nul_notMem_remarks, first.nul_notMem, nul_notMem_textAmong]

/-- No byte order mark opens a program: its first character ends the blanks. -/
theorem head?_programText_ne (program : List Statement)
    : (programText program).head? ≠ some '\ufeff' := by
  cases program with
  | nil => simp [programText]
  | cons first rest =>
      have isCode := (first.isCode_code 0).append (textAmong 0 rest ++ ['\n'])
      have isVisible : IsVisible (remarks 0 first.comments ++ _) :=
        isVisible_remarks first.comments isCode
      obtain ⟨c, more, isText, stops⟩ := isVisible
      rw [programText, isText]
      rintro ⟨⟩
      exact absurd stops (by decide)

-----------------------------------------------------------------------------------------
-- The tree of a program
-----------------------------------------------------------------------------------------

/-- A text that the rules read to its end has a tree. -/
theorem exists_parse {text : List Char} {nodes : List Syntax} (noMark : text.head? ≠ some '\ufeff')
    (noNul : '\x00' ∉ text)
    (builds : Builds (items (nested (depthFor text.length)) 0) text () [] nodes)
    : ∃ tree, parse text = some tree ∧ tree.outline = [.node .module nodes] := by
  obtain ⟨parts, read, outline⟩ := builds []
  refine ⟨.node .module parts, ?_, by simp [outline]⟩
  unfold parse
  split
  · contradiction
  · dsimp only
    rw [read]
    simp [noNul]

/-- A program is the outline of the tree that its text is parsed to. -/
theorem parse_programText (program : List Statement)
    : ∃ tree, parse (programText program) = some tree
        ∧ tree.outline = [.node .module (nodesAmong program)] := by
  refine exists_parse (head?_programText_ne program) (nul_notMem_programText program) ?_
  refine builds_items program _ ?_
  rw [depthFor]
  omega

-----------------------------------------------------------------------------------------
-- Documentation
-----------------------------------------------------------------------------------------

namespace Literal

/-- The letters that a literal starts with are its flag. -/
theorem takeWhile_letters (literal : Literal)
    : literal.text.takeWhile isAsciiLetter = literal.flag.toList := by
  have found := literal.takeWhile_text (fun _ member => (literal.flag_facts member).2.2)
    literal.quote_facts.2.2.2.2 []
  rwa [List.append_nil] at found

/-- A literal keeps its body. -/
theorem literalBody_text (literal : Literal) : literalBody literal.text = literal.body := by
  have letters : ∀ c ∈ literal.flag.toList, isAsciiLetter c = true := by
    intro c member
    exact (literal.flag_facts (Option.mem_toList.mp member)).2.2
  have apart : literal.tripled = false → literal.quote ∉ literal.body.head? := by
    intro _ isHead
    exact (literal.body_facts (List.mem_of_mem_head? isHead)).1 rfl
  exact literalBody_quoted letters literal.isQuote apart

/-- A literal is taken for text unless its flag makes it one of bytes or a formatted one. -/
theorem isTextual_text (literal : Literal)
    : (StringLiteral.mk literal.text false).isTextual
        = literal.flag.all fun c => !(['b', 'B', 'f', 'F'].contains c) := by
  rw [StringLiteral.isTextual, StringLiteral.flags, takeWhile_letters]
  cases literal.flag <;> simp

/-- The literal alone documents what it opens as the program says. -/
theorem isDocumentation_text (literal : Literal)
    : isDocumentation [⟨literal.text, false⟩] = literal.documents := by
  have notBlank : (!isBlank literal.body) = literal.body.any fun c => !isWhiteSpace c := by
    rw [isBlank, List.not_all_eq_any_not]
  simp only [isDocumentation, List.all_cons, List.all_nil, List.any_cons, List.any_nil,
    Bool.and_true, Bool.or_false, isTextual_text, literalBody_text, notBlank, documents]

end Literal

/-- A definition is documented if the first statement in it documents. -/
theorem isDocumented_node (opening : Statement) (more : List Syntax)
    : isDocumented [.node .block (opening.node :: more)] = opening.documents := by
  cases opening with
  | simple comments content =>
      cases content with
      | pass => rfl
      | literal quoted => exact quoted.isDocumentation_text
  | definition comments header first rest => cases header <;> rfl

-----------------------------------------------------------------------------------------
-- Counts
-----------------------------------------------------------------------------------------

theorem headerCounts_append (left right : List (Header × Statement))
    : headerCounts (left ++ right) = headerCounts left + headerCounts right := by
  simp only [headerCounts, DeclarationCounts.add_def, List.countP_append]

/-- A definition adds what its own node does. -/
theorem headerCounts_cons (header : Header) (opening : Statement) (more : List Syntax)
    (rest : List (Header × Statement))
    : headerCounts ((header, opening) :: rest)
        = ownCounts header.kind [.node .block (opening.node :: more)] + headerCounts rest := by
  have documented := isDocumented_node opening more
  cases header with
  | function isAsync name parameters =>
      cases isAsync <;> cases documents : opening.documents <;>
        simp_all [headerCounts, Header.isFunction, Header.isClass, Header.kind, ownCounts,
          DeclarationCounts.add_def, DeclarationCounts.function, DeclarationCounts.zero,
          Nat.add_comm]
  | ofClass name =>
      cases documents : opening.documents <;>
        simp_all [headerCounts, Header.isFunction, Header.isClass, Header.kind, ownCounts,
          DeclarationCounts.add_def, DeclarationCounts.ofClass, Nat.add_comm]

/-- A block adds nothing to what is in it. -/
theorem counts_block (kind : Kind) (parts : List Syntax)
    : (Syntax.node kind [.node .block parts]).counts
        = ownCounts kind [.node .block parts] + countsOf parts := by
  rw [counts, countsOf, countsOf, counts]
  exact congrArg _ ((add_zero _).trans (zero_add _))

mutual

/-- The node of a statement counts as the definitions in it, by induction over the statement. -/
theorem counts_node (statement : Statement)
    : statement.node.counts = headerCounts statement.headers := by
  cases statement with
  | simple comments content =>
      rw [Statement.node, Statement.headers]
      cases content <;> rfl
  | definition comments header first rest =>
      rw [Statement.node, Statement.headers, headerCounts_cons header first (nodesAmong rest),
        headerCounts_append, counts_block, countsOf, counts_node first, countsOf_nodesAmong rest]

/-- The nodes of statements count as the headers among them do, by induction over the statements. -/
theorem countsOf_nodesAmong (statements : List Statement)
    : countsOf (nodesAmong statements) = headerCounts (headersAmong statements) := by
  cases statements with
  | nil => rfl
  | cons statement rest =>
      rw [nodesAmong, headersAmong, countsOf, headerCounts_append, counts_node statement,
        countsOf_nodesAmong rest]

end

mutual

/-- No statement of an older version is in a program, by induction over its statements. -/
theorem isCurrent_node (statement : Statement) : statement.node.isCurrent = true := by
  cases statement with
  | simple comments content => cases content <;> rfl
  | definition comments header first rest =>
      have inner := areCurrent_nodesAmong rest
      have opening := isCurrent_node first
      cases header <;>
        simp [Statement.node, Header.kind, isCurrent, areCurrent, inner, opening]

/-- No statement of a program is of an older version. -/
theorem areCurrent_nodesAmong (statements : List Statement)
    : areCurrent (nodesAmong statements) = true := by
  cases statements with
  | nil => rfl
  | cons statement rest =>
      rw [nodesAmong, areCurrent, isCurrent_node statement, areCurrent_nodesAmong rest]
      rfl

end

/-- Every program that is written out is read, whatever its depth. What is counted are its classes
and its functions without `async`, and those of them whose body opens with a text of more than white
space.
-/
theorem definitions_of_program (path : String) (program : List Statement)
    : Language.python.definitions path (String.ofList (programText program))
        = .ok (programCounts program) := by
  obtain ⟨tree, parsed, outline⟩ := parse_programText program
  have current : areCurrent [.node .module (nodesAmong program)] = true := by
    simp [areCurrent, isCurrent, areCurrent_nodesAmong]
  have counts : countsOf [.node .module (nodesAmong program)] = programCounts program := by
    rw [countsOf, Syntax.counts, countsOf_nodesAmong]
    exact (add_zero _).trans (zero_add _)
  have found : definitions (programText program) = .ok (programCounts program) := by
    rw [definitions, parsed, ← counts]
    exact definitions_eq_of_outline outline current
  change (definitions (String.ofList (programText program)).toList).mapError _ = _
  rw [String.toList_ofList, found]
  rfl

example :
    let shelf : Identifier :=
      ⟨'S', "helf".toList, by decide, forall_mem_of_all (by decide), by decide⟩
    let lend : Identifier :=
      ⟨'l', "end".toList, by decide, forall_mem_of_all (by decide), by decide⟩
    let purpose : Literal :=
      ⟨none, '"', false, "Lends.".toList, by simp, by decide, forall_mem_of_all (by decide)⟩
    let program : List Statement :=
      [.definition [] (.ofClass shelf)
        (.definition [] (.function false lend []) (.simple [] (.literal purpose)) []) []]
    String.ofList (programText program)
        = "class Shelf:\n    def lend():\n        \"Lends.\"\n"
      ∧ programCounts program = ⟨1, 1, 1, 0⟩ := by
  decide

end DocSurvey.Python
