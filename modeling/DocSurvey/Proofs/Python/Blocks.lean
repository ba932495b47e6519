import DocSurvey.Proofs.Python.Headers
import DocSurvey.Proofs.Python.Lines

/-! Programs nested to any depth are read as they are written out. The code of a block ends in front
of the first line of a level above or at the end of the text, and a statement is read up to the end
of its last line.
-/

namespace DocSurvey.Python

open DocSurvey.Text DocSurvey.Python.Parser

-----------------------------------------------------------------------------------------
-- The nodes of a program
-----------------------------------------------------------------------------------------

mutual

def Statement.node : Statement → Syntax
  | .simple _ content => content.node
  | .definition _ header first rest =>
      .node header.kind [.node .block (first.node :: nodesAmong rest)]

def nodesAmong : List Statement → List Syntax
  | [] => []
  | statement :: rest => statement.node :: nodesAmong rest

end

-----------------------------------------------------------------------------------------
-- Where statements start and blocks end
-----------------------------------------------------------------------------------------

theorem Simple.isCode_text (content : Simple) : IsCode content.text := by
  cases content with
  | pass => exact ⟨'p', _, rfl, by decide⟩
  | literal quoted =>
      have starts : ∀ c ∈ literalStarts, stopsBlanks c = true ∧ c ≠ '#' :=
        forall_mem_of_all (by decide)
      obtain ⟨others, isMarks⟩ := quoted.exists_marks
      cases isText : quoted.text with
      | nil => simp [Literal.text, isMarks] at isText
      | cons c rest =>
          refine ⟨c, rest, isText, starts c (head?_literal_mem quoted [] ?_)⟩
          simp [isText]

/-- A header starts with a keyword. -/
theorem Header.isCode_text (header : Header) : IsCode header.text := by
  cases header with
  | function isAsync name parameters =>
      cases isAsync with
      | true => exact ⟨'a', _, rfl, by decide⟩
      | false => exact ⟨'d', _, rfl, by decide⟩
  | ofClass name => exact ⟨'c', _, rfl, by decide⟩

/-- A statement starts with a keyword or a literal. -/
theorem Statement.isCode_code (level : Nat) (statement : Statement)
    : IsCode (statement.code level) := by
  cases statement with
  | simple comments content => simpa [code] using content.isCode_text
  | definition comments header first rest =>
      rw [code]
      exact header.isCode_text.append _

/-- What stands behind the statements of a level: the end of the text, or a line of a level above.
-/
def Closes (level : Nat) (more : List Char) : Prop :=
  more = ['\n'] ∨ ∃ above < level, ∃ comments code,
    more = newLine above ++ (remarks above comments ++ code) ∧ IsCode code

variable {level : Nat} {more : List Char}

/-- Before a block closes the line ends. -/
theorem Closes.exists_newline (closes : Closes level more) : ∃ rest, more = '\n' :: rest := by
  rcases closes with rfl | ⟨above, -, comments, code, rfl, -⟩
  · exact ⟨[], rfl⟩
  · exact ⟨_, rfl⟩

/-- The statements behind a block close it. -/
theorem Closes.textAmong (closes : Closes level more) (statements : List Statement)
    : Closes (level + 1) (textAmong level statements ++ more) := by
  cases statements with
  | nil =>
      rcases closes with rfl | ⟨above, isAbove, behind⟩
      · exact .inl rfl
      · exact .inr ⟨above, Nat.lt_succ_of_lt isAbove, behind⟩
  | cons statement rest =>
      refine .inr ⟨level, Nat.lt_succ_self level, statement.comments,
        statement.code level ++ (Python.textAmong level rest ++ more), ?_,
        (statement.isCode_code level).append _⟩
      simp [Python.textAmong]

-----------------------------------------------------------------------------------------
-- The next statement of a block
-----------------------------------------------------------------------------------------

variable {rules : Rules} {code text lead : List Char} {nodes : List Syntax}

/-- A block ends where the next code is on another line and further left. -/
theorem reads_blockEnds (column : Nat) (text : List Char)
    : Reads (blockEnds column) text
        ((gapToCode text).broken && (gapToCode text).column < column) text :=
  fun _ => ⟨[], by simp [blockEnds], by simp⟩

/-- A block goes on with code of its own level, whatever comments stand in front. -/
theorem reads_blockEnds_false (isCode : IsCode code) (isLead : IsLead level lead)
    (comments : List Comment)
    : Reads (blockEnds (4 * level)) (lead ++ (remarks level comments ++ code)) false
        (lead ++ (remarks level comments ++ code)) := by
  have read := reads_blockEnds (4 * level) (lead ++ (remarks level comments ++ code))
  rcases isLead with rfl | ⟨rfl, rfl⟩
  · simpa [gapToCode_remarks isCode] using read
  · simpa using read

/-- A block ends before code of a lower level. -/
theorem reads_blockEnds_true (closes : Closes (level + 1) more)
    : Reads (blockEnds (4 * (level + 1))) more true more := by
  have read := reads_blockEnds (4 * (level + 1)) more
  rcases closes with rfl | ⟨above, isAbove, comments, code, rfl, isCode⟩
  · have gap : gapToCode ['\n'] = ⟨true, 0, 1, []⟩ := by decide
    simpa [gap] using read
  · rw [gapToCode_remarks isCode] at read
    have further : 4 * above < 4 * (level + 1) := by omega
    simpa [further] using read

/-- A statement is read with the start of its line and the comments in front of it. -/
theorem builds_nextStatement (isCode : IsCode code) (isLead : IsLead level lead)
    (comments : List Comment)
    (builds : Builds (statement rules (4 * level)) code () more nodes)
    : Builds (nextStatement rules (4 * level)) (lead ++ (remarks level comments ++ code)) true more
        nodes := by
  have passes : Reads (skip (4 * level) .bracketed) ((lead ++ remarks level comments) ++ code) ()
      code := by
    refine reads_skip ?_
    rw [List.append_assoc]
    exact blanksAhead_remarks isCode _ comments isLead
  rw [List.append_assoc] at passes
  have filled : code.isEmpty = false := by
    obtain ⟨c, rest, rfl, -⟩ := isCode
    rfl
  refine (reads_blockEnds_false isCode isLead comments).otherwise (passes.bind ?_)
  refine (reads_ahead code).bind ?_
  rw [filled]
  exact builds.bind_reads (reads_pure true more)

/-- No statement follows where nothing but blanks is left. -/
theorem reads_nextStatement_end (blank : blanksAhead .bracketed 0 false text = some text.length)
    : Reads (nextStatement rules 0) text false [] := by
  have inside : Reads (blockEnds 0) text false text := by simpa using reads_blockEnds 0 text
  have passes : Reads (skip 0 .bracketed) (text ++ []) () [] :=
    reads_skip (by rwa [List.append_nil])
  rw [List.append_nil] at passes
  refine inside.otherwise (passes.bind ((reads_ahead []).bind ?_))
  exact (reads_require rfl []).bind (reads_pure false [])

/-- What is left of the text behind the statements of a level. At the outermost one nothing is. -/
def leftBehind (level : Nat) (more : List Char) : List Char :=
  if level = 0 then [] else more

/-- No statement follows where the statements of a level end. -/
theorem reads_nextStatement_closes (closes : Closes level more)
    : Reads (nextStatement rules (4 * level)) more false (leftBehind level more) := by
  cases level with
  | zero =>
      obtain rfl : more = ['\n'] := by
        rcases closes with rfl | ⟨above, isAbove, -⟩
        · rfl
        · contradiction
      exact reads_nextStatement_end (by decide)
  | succ level => exact (reads_blockEnds_true closes).thereupon (reads_pure false more)

-----------------------------------------------------------------------------------------
-- Blocks
-----------------------------------------------------------------------------------------

/-- There are no more statements than characters in their text, by induction over them. -/
theorem length_le_textAmong (level : Nat) (statements : List Statement)
    : statements.length ≤ (textAmong level statements).length := by
  induction statements with
  | nil => exact Nat.zero_le _
  | cons statement rest ih =>
      simp only [textAmong, newLine, List.length_cons, List.length_append]
      omega

/-- A colon and the statements of the next level are a block. -/
theorem builds_suite (isCode : IsCode code) (comments : List Comment) {shape : Shape}
    (builds : Builds (rules (.items (4 * (level + 1))))
      (newLine (level + 1) ++ (remarks (level + 1) comments ++ code)) shape more nodes)
    : Builds (suite rules (4 * level))
        (':' :: (newLine (level + 1) ++ (remarks (level + 1) comments ++ code))) () more
        [.node .block nodes] := by
  obtain ⟨text, isText⟩ : ∃ text, newLine (level + 1) ++ (remarks (level + 1) comments ++ code)
      = '\n' :: text := ⟨_, rfl⟩
  have gap := gapToCode_remarks isCode (level + 1) comments
  rw [isText] at builds gap ⊢
  have opens : Reads (colon (4 * level)) (':' :: '\n' :: text) (some (gapToCode ('\n' :: text)))
      ('\n' :: text) := by
    refine (reads_isAt_true ":" _).bind ((reads_require rfl _).bind ?_)
    refine (reads_take [':'] _).bind ((reads_skip (follows_end (4 * level) text)).bind ?_)
    refine (reads_ahead _).bind ?_
    rw [if_pos (gapToToken_broken text)]
    exact reads_pure _ _
  refine opens.bind (Builds.node ?_)
  have further : 4 * level < 4 * (level + 1) := by omega
  rw [gap]
  simp only [if_pos further]
  exact builds.bind_reads (reads_pure Kind.block more)

mutual

/-- A statement is read as it is written out, by induction over it. The statements of its block are
read by rules one level deeper, and their text is shorter.
-/
theorem builds_statement (statement : Statement) (level depth : Nat) (more : List Char)
    (enough : (statement.code level).length + 3 ≤ depth) (closes : Closes (level + 1) more)
    : Builds (Python.statement (nested depth) (4 * level)) (statement.code level ++ more) () more
        [statement.node] := by
  cases statement with
  | simple comments content =>
      obtain ⟨rest, rfl⟩ := closes.exists_newline
      obtain ⟨deeper, rfl⟩ := Nat.exists_eq_add_of_le' (Nat.le_of_add_left_le enough)
      rw [Statement.code, Statement.node]
      exact builds_simple deeper (4 * level) content rest
  | definition comments header first rest =>
      cases depth with
      | zero => contradiction
      | succ depth =>
          have further := closes.textAmong rest
          simp only [Statement.code, List.length_append, List.length_cons] at enough
          have inner := builds_statement first (level + 1) depth _ (by omega) further
          have isCode := (first.isCode_code (level + 1)).append (textAmong (level + 1) rest ++ more)
          have next := builds_nextStatement isCode (.inl rfl) first.comments inner
          have room : rest.length < (newLine (level + 1) ++ (remarks (level + 1) first.comments
              ++ (first.code (level + 1) ++ (textAmong (level + 1) rest ++ more)))).length := by
            have short := length_le_textAmong (level + 1) rest
            simp only [newLine, List.length_append, List.length_cons]
            omega
          have others := builds_among rest (level + 1) depth more (by omega) closes room
          have whole := builds_whileMore (builds_whileMore_go next others '\n')
          have items : Builds (nested (depth + 1) (.items (4 * (level + 1)))) _ .other more _ :=
            whole.bind_reads (reads_pure Shape.other more)
          have definition := builds_definition (4 * level) header
            (builds_suite isCode first.comments items)
          simpa only [Statement.code, Statement.node, List.append_assoc, List.cons_append,
            List.nil_append] using definition

/-- The statements of a level are read one after another, by induction over them. -/
theorem builds_among (statements : List Statement) (level depth : Nat) (more : List Char)
    (enough : (textAmong level statements).length + 3 ≤ depth) (closes : Closes level more)
    {budget : List Char} (room : statements.length < budget.length)
    : Builds (whileMore.go (nextStatement (nested depth) (4 * level)) budget)
        (textAmong level statements ++ more) () (leftBehind level more)
        (nodesAmong statements) := by
  cases budget with
  | nil => contradiction
  | cons first budget =>
      cases statements with
      | nil =>
          rw [textAmong, nodesAmong]
          exact reads_whileMore_go (reads_nextStatement_closes closes) first budget
      | cons statement rest =>
          have further := closes.textAmong rest
          have room : rest.length < budget.length := by simpa using room
          simp only [textAmong, List.length_append] at enough
          have inner := builds_statement statement level depth _ (by omega) further
          have next := builds_nextStatement ((statement.isCode_code level).append _) (.inl rfl)
            statement.comments inner
          have others := builds_among rest level depth more (by omega) closes room
          have whole := builds_whileMore_go next others first
          simpa only [textAmong, nodesAmong, List.append_assoc, List.singleton_append] using whole

end

-----------------------------------------------------------------------------------------
-- Programs
-----------------------------------------------------------------------------------------

/-- The statements of a program are read to its end. -/
theorem builds_items (program : List Statement) (depth : Nat)
    (enough : (programText program).length + 3 ≤ depth)
    : Builds (items (nested depth) 0) (programText program) () [] (nodesAmong program) := by
  refine builds_whileMore ?_
  cases program with
  | nil => exact reads_whileMore_go (reads_nextStatement_end (by decide)) _ _
  | cons first rest =>
      have closes : Closes 0 ['\n'] := .inl rfl
      have isCode := (first.isCode_code 0).append (textAmong 0 rest ++ ['\n'])
      simp only [programText, List.length_append] at enough ⊢
      have inner := builds_statement first 0 depth _ (by omega) (closes.textAmong rest)
      have next := builds_nextStatement isCode (.inr ⟨rfl, rfl⟩) first.comments inner
      have room : rest.length < (remarks 0 first.comments
          ++ (first.code 0 ++ (textAmong 0 rest ++ ['\n']))).length := by
        have short := length_le_textAmong 0 rest
        simp only [List.length_append, List.length_cons]
        omega
      exact builds_whileMore_go next (builds_among rest 0 depth _ (by omega) closes room) '\n'

end DocSurvey.Python
