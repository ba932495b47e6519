import DocSurvey.Proofs.Python.Program
import DocSurvey.Python.Layout

/-! The blanks of a program that is written out: spaces between tokens, and the starts of lines with
comments on lines of their own. They are passed over down to the next code, and its column tells how
deep it is nested.
-/

namespace DocSurvey.Python

/-- A character that is neither blank nor joins lines. -/
def stopsBlanks (c : Char) : Bool :=
  !isAnyBlank c && c != '\\'

/-- The text goes on with a character that ends the blanks in front of it. -/
def IsVisible (text : List Char) : Prop :=
  ∃ c rest, text = c :: rest ∧ stopsBlanks c = true

/-- The text goes on with code. -/
def IsCode (text : List Char) : Prop :=
  ∃ c rest, text = c :: rest ∧ stopsBlanks c = true ∧ c ≠ '#'

variable {text code more : List Char}

/-- Code is visible, since no blank starts it. -/
theorem IsCode.isVisible (isCode : IsCode code) : IsVisible code := by
  obtain ⟨c, rest, rfl, stops, -⟩ := isCode
  exact ⟨c, rest, rfl, stops⟩

/-- Code stays code with more behind it. -/
theorem IsCode.append (isCode : IsCode code) (more : List Char) : IsCode (code ++ more) := by
  obtain ⟨c, rest, rfl, code⟩ := isCode
  exact ⟨c, rest ++ more, rfl, code⟩

-----------------------------------------------------------------------------------------
-- Measuring blanks
-----------------------------------------------------------------------------------------

/-- Nothing is measured where a visible text is ahead. -/
theorem measure_of_isVisible (isVisible : IsVisible text) (broken : Bool) (column passed : Nat)
    : measure broken column passed text = ⟨broken, column, passed, text⟩ := by
  obtain ⟨c, rest, rfl, stops⟩ := isVisible
  simp only [stopsBlanks, isAnyBlank, isLooseBlank, Bool.and_eq_true, Bool.not_eq_true',
    Bool.or_eq_false_iff, beq_eq_false_iff_ne, bne_iff_ne] at stops
  unfold measure
  split <;> simp_all

/-- Spaces count towards the column, by induction over their number. -/
theorem measure_spaces (count : Nat) (broken : Bool) (column passed : Nat)
    : measure broken column passed (List.replicate count ' ' ++ text)
        = measure broken (column + count) (passed + count) text := by
  induction count generalizing column passed with
  | zero => simp
  | succ count ih =>
      rw [List.replicate_succ, List.cons_append, measure_space, ih]
      congr 1 <;> omega

/-- A new line is measured with its indentation, four columns for each level. -/
theorem measure_newLine (isVisible : IsVisible text) (level : Nat) (broken : Bool)
    (column passed : Nat)
    : measure broken column passed (newLine level ++ text)
        = ⟨true, 4 * level, passed + (newLine level).length, text⟩ := by
  rw [newLine, List.cons_append, measure_lineFeed, measure_spaces,
    measure_of_isVisible isVisible]
  simp only [Gap.mk.injEq, List.length_cons, List.length_replicate, true_and, and_true]
  omega

/-- A line break that is seen is not forgotten, by induction over the blanks. -/
theorem measure_broken {broken : Bool} (seen : broken = true) (column passed : Nat)
    (text : List Char)
    : (measure broken column passed text).broken = true := by
  fun_induction measure broken column passed text <;> simp_all

/-- A gap that starts with the end of a line is broken. -/
theorem gapToToken_broken (text : List Char) : (gapToToken ('\n' :: text)).broken = true := by
  rw [gapToToken, measure_lineFeed]
  exact measure_broken rfl _ _ _

-----------------------------------------------------------------------------------------
-- Comments
-----------------------------------------------------------------------------------------

variable {level : Nat}

@[simp] theorem remarks_nil : remarks level [] = [] := rfl

/-- The first remark stands on a line of its own. -/
theorem remarks_cons (comment : Comment) (comments : List Comment)
    : remarks level (comment :: comments)
        = '#' :: (comment.text ++ (newLine level ++ remarks level comments)) := by
  simp [remarks]

/-- Remarks are visible, and so is the code behind them. -/
theorem isVisible_remarks (comments : List Comment) (isCode : IsCode code)
    : IsVisible (remarks level comments ++ code) := by
  cases comments with
  | nil => exact isCode.isVisible
  | cons comment rest =>
      rw [remarks_cons]
      exact ⟨'#', _, rfl, by decide⟩

/-- There are no more remarks than characters in them, by induction over them. -/
theorem length_le_remarks (level : Nat) (comments : List Comment)
    : comments.length ≤ (remarks level comments).length := by
  induction comments with
  | nil => exact Nat.zero_le _
  | cons comment rest ih =>
      simp only [remarks_cons, List.length_cons, List.length_append]
      omega

/-- A comment reaches to the end of its line. -/
theorem takeWhile_comment (comment : Comment) (more : List Char)
    : (comment.text ++ (newLine level ++ more)).takeWhile (· != '\n') = comment.text := by
  have inside : ∀ c ∈ comment.text, (c != '\n') = true := by
    intro c member
    have other := comment.isLine c member
    simp only [List.mem_cons, not_or] at other
    simpa using other.1
  rw [List.takeWhile_append_of_pos inside, newLine, List.cons_append]
  simp

/-- A comment reaches to the end of its line. -/
theorem commentLength_text (comment : Comment) (more : List Char)
    : commentLength (comment.text ++ (newLine level ++ more)) = comment.text.length := by
  rw [commentLength, takeWhile_comment]

/-- Behind a comment the new line starts. -/
theorem dropComment_text (comment : Comment) (more : List Char)
    : dropComment (comment.text ++ (newLine level ++ more)) = newLine level ++ more := by
  have whole := List.takeWhile_append_dropWhile (p := (· != '\n'))
    (l := comment.text ++ (newLine level ++ more))
  rw [takeWhile_comment] at whole
  exact List.append_cancel_left whole

/-- Comments are passed over line by line, by induction over them. -/
theorem gapToCode_go_remarks (isCode : IsCode code) (comments : List Comment)
    {budget : List Char} (enough : comments.length ≤ budget.length) (passed : Nat)
    : gapToCode.go budget ⟨true, 4 * level, passed, remarks level comments ++ code⟩
        = ⟨true, 4 * level, passed + (remarks level comments).length, code⟩ := by
  induction comments generalizing budget passed with
  | nil =>
      obtain ⟨c, rest, rfl, -, noComment⟩ := isCode
      cases budget with
      | nil => rfl
      | cons _ budget =>
          simp only [remarks_nil, List.nil_append, gapToCode.go]
          split
          · rename_i starts
            exact absurd (List.cons_eq_cons.mp starts).1 noComment
          · rfl
  | cons comment rest ih =>
      cases budget with
      | nil => simp at enough
      | cons _ budget =>
          have enough : rest.length ≤ budget.length := by simpa using enough
          simp only [remarks_cons, List.cons_append, List.append_assoc, gapToCode.go,
            commentLength_text, dropComment_text, measure_newLine (isVisible_remarks rest isCode),
            ih enough, List.length_cons, List.length_append]
          congr 1
          omega

/-- The next code stands in the column of its level. -/
theorem gapToCode_remarks (isCode : IsCode code) (level : Nat) (comments : List Comment)
    : gapToCode (newLine level ++ (remarks level comments ++ code))
        = ⟨true, 4 * level, (newLine level).length + (remarks level comments).length, code⟩ := by
  have enough : comments.length
      ≤ (newLine level ++ (remarks level comments ++ code)).length := by
    have short := length_le_remarks level comments
    simp only [List.length_append]
    omega
  rw [gapToCode, gapToToken, measure_newLine (isVisible_remarks comments isCode), Nat.zero_add]
  exact gapToCode_go_remarks isCode comments enough _

-----------------------------------------------------------------------------------------
-- Blanks between tokens
-----------------------------------------------------------------------------------------

/-- Blanks are passed over down to code, unless they end the statement or may not leave the line. -/
theorem blanksAhead_go_code (isCode : IsCode code) {place : Place} {broken : Bool}
    (stays : broken = false ∨ place = .bracketed) {reached passed : Nat}
    (leads : gapToToken text = ⟨broken, reached, passed, code⟩) (column before : Nat)
    {budget : List Char} (enough : 0 < budget.length)
    : blanksAhead.go place column false budget before text = some (before + passed) := by
  obtain ⟨c, rest, rfl, stops, noComment⟩ := isCode
  have notLoose : isLooseBlank c = false := by
    simp only [stopsBlanks, isAnyBlank, Bool.and_eq_true, Bool.not_eq_true',
      Bool.or_eq_false_iff] at stops
    exact stops.1.2
  have notEnding : (place == .ending && broken) = false := by
    rcases stays with rfl | rfl <;> simp
  have notBetween : (place == .between && broken) = false := by
    rcases stays with rfl | rfl <;> simp
  cases budget with
  | nil => contradiction
  | cons _ budget =>
      simp only [blanksAhead.go, leads, notEnding, notBetween, notLoose, Bool.false_and,
        Bool.false_eq_true, if_false]

/-- Spaces between tokens of a line are passed over. -/
theorem blanksAhead_spaces (isCode : IsCode code) (place : Place) (column count : Nat)
    : blanksAhead place column false (List.replicate count ' ' ++ code) = some count := by
  have leads : gapToToken (List.replicate count ' ' ++ code) = ⟨false, count, count, code⟩ := by
    rw [gapToToken, measure_spaces, measure_of_isVisible isCode.isVisible, Nat.zero_add]
  rw [blanksAhead, blanksAhead_go_code isCode (.inl rfl) leads column 0 (by simp), Nat.zero_add]

/-- Nothing is passed over at the end of a statement. -/
theorem blanksAhead_ending (column : Nat) (inFormat : Bool) (text : List Char)
    : blanksAhead .ending column inFormat ('\n' :: text) = some 0 := by
  simp [blanksAhead, blanksAhead.go, gapToToken_broken]

/-- What stands in front of a statement and its comments: the start of a line, or nothing at the
start of the text.
-/
def IsLead (level : Nat) (lead : List Char) : Prop :=
  lead = newLine level ∨ lead = [] ∧ level = 0

/-- What leads to code is measured as a whole. -/
theorem IsLead.measured {lead : List Char} (isLead : IsLead level lead)
    (isVisible : IsVisible text)
    : ∃ broken column, gapToToken (lead ++ text) = ⟨broken, column, lead.length, text⟩ := by
  rcases isLead with rfl | ⟨rfl, -⟩
  · refine ⟨true, 4 * level, ?_⟩
    rw [gapToToken, measure_newLine isVisible, Nat.zero_add]
  · exact ⟨false, 0, measure_of_isVisible isVisible _ _ _⟩

/-- Lines of comments are passed over down to a statement, by induction over them. -/
theorem blanksAhead_go_remarks (isCode : IsCode code) (column : Nat) (comments : List Comment)
    {lead budget : List Char} (isLead : IsLead level lead)
    (enough : comments.length < budget.length)
    (before : Nat)
    : blanksAhead.go .bracketed column false budget before
        (lead ++ (remarks level comments ++ code))
        = some (before + (lead ++ remarks level comments).length) := by
  obtain ⟨broken, reached, leads⟩ := isLead.measured (isVisible_remarks comments isCode)
  induction comments generalizing lead budget before broken reached with
  | nil =>
      rw [blanksAhead_go_code isCode (.inr rfl) leads column before enough, remarks_nil,
        List.append_nil]
  | cons comment rest ih =>
      cases budget with
      | nil => contradiction
      | cons _ budget =>
          have enough : rest.length < budget.length := by simpa using enough
          have further : IsLead level (newLine level) := .inl rfl
          have isVisible : IsVisible (remarks level rest ++ code) := isVisible_remarks rest isCode
          obtain ⟨broken', reached', leads'⟩ := further.measured isVisible
          simp only [remarks_cons, List.cons_append, List.append_assoc] at leads ⊢
          simp [blanksAhead.go, leads, commentLength_text, dropComment_text,
            ih further enough _ _ _ leads']
          omega

/-- The comments in front of a statement are passed over. -/
theorem blanksAhead_remarks (isCode : IsCode code) (column : Nat) (comments : List Comment)
    {lead : List Char} (isLead : IsLead level lead)
    : blanksAhead .bracketed column false (lead ++ (remarks level comments ++ code))
        = some (lead ++ remarks level comments).length := by
  have enough := length_le_remarks level comments
  rw [blanksAhead, blanksAhead_go_remarks isCode column comments isLead _ 0, Nat.zero_add]
  simp only [List.length_cons, List.length_append]
  omega

end DocSurvey.Python
