import DocSurvey.Footer.Analysis
import DocSurvey.Proofs.Text.Characters
import DocSurvey.Proofs.Text.Trimming

/-! The rule that sets a footer off. It is looked for line by line: what stands on other lines makes
no difference to it, and neither does how lines are ended. Where it ends the whole text, it ends a
line as well.
-/

namespace DocSurvey.Footer

open DocSurvey.Text

variable {text : List Char}

-----------------------------------------------------------------------------------------
-- The end of a line
-----------------------------------------------------------------------------------------

/-- Blanks end a line if there is an end of a line among them or the line ends behind them. -/
theorem lineEnds_append_of_isBlank {space : List Char} (blank : isBlank space = true)
    (text : List Char)
    : lineEnds (space ++ text) = (space.contains '\n' || lineEnds text) := by
  have taken : (space ++ text).takeWhile isWhiteSpace = space ++ text.takeWhile isWhiteSpace :=
    List.takeWhile_append_of_pos (isBlank_eq_true_iff.mp blank)
  rw [Bool.eq_iff_iff]
  simp [lineEnds, taken, or_assoc]

/-- What counts is the text up to the first line feed, by induction over the text. -/
theorem lineEnds_eq (text : List Char) : lineEnds text = isBlank (text.takeWhile (· != '\n')) := by
  induction text with
  | nil => rfl
  | cons c rest ih =>
      cases isSpace : isWhiteSpace c with
      | false =>
          have other : c ≠ '\n' := by
            rintro rfl
            exact absurd isSpace (by decide)
          simp [lineEnds, isBlank, isSpace, other]
      | true =>
          have onward := lineEnds_append_of_isBlank (isBlank_singleton isSpace) rest
          rw [← List.singleton_append, onward, ih]
          by_cases feed : c = '\n'
          · simp [feed, isBlank]
          · simp [feed, Ne.symm feed, isBlank, isSpace]

theorem lineEnds_of_isBlank (blank : isBlank text = true) : lineEnds text = true := by
  rw [lineEnds_eq]
  refine isBlank_eq_true_iff.mpr fun c member => ?_
  exact isBlank_eq_true_iff.mp blank c ((List.takeWhile_sublist _).subset member)

/-- A single line ends here if the rest of it is blank. -/
theorem lineEnds_of_single (single : '\n' ∉ text) : lineEnds text = isBlank text := by
  rw [lineEnds_eq, List.takeWhile_eq_self_iff.mpr]
  intro c member
  exact bne_iff_ne.mpr (ne_of_mem_of_not_mem member single)

/-- What stands on later lines does not matter for whether this one ends. -/
theorem lineEnds_append_feed (text more : List Char)
    : lineEnds (text ++ '\n' :: more) = lineEnds text := by
  rw [lineEnds_eq, lineEnds_eq, List.takeWhile_append]
  split
  · rename_i whole
    rw [List.takeWhile_cons_of_neg (by simp), List.append_nil,
      (List.takeWhile_prefix _).eq_of_length whole]
  · rfl

-----------------------------------------------------------------------------------------
-- Rules at the end of a line
-----------------------------------------------------------------------------------------

/-- A rule has no blanks in it. -/
theorem rule_visible : ∀ c ∈ rule, isWhiteSpace c = false :=
  forall_mem_of_all (by decide)

/-- The text starts with a rule that closes its line. -/
def ruleStarts (text : List Char) : Bool :=
  rule.isPrefixOf text && lineEnds (text.drop rule.length)

theorem hasRule_cons (c : Char) (rest : List Char)
    : hasRule (c :: rest) = (ruleStarts (c :: rest) || hasRule rest) :=
  rfl

/-- A rule starts where its signs stand and the line ends behind them. -/
theorem ruleStarts_eq_true_iff
    : ruleStarts text = true ↔ ∃ behind, lineEnds behind = true ∧ rule ++ behind = text := by
  rw [ruleStarts, Bool.and_eq_true, List.isPrefixOf_iff_prefix]
  constructor
  · rintro ⟨⟨behind, rfl⟩, ends⟩
    rw [List.drop_left] at ends
    exact ⟨behind, ends, rfl⟩
  · rintro ⟨behind, ends, rfl⟩
    rw [List.drop_left]
    exact ⟨List.prefix_append _ _, ends⟩

/-- A text has a rule if the end of the text that starts with one closes its line, by induction over
the text.
-/
theorem hasRule_eq_true_iff
    : hasRule text = true ↔ ∃ behind, lineEnds behind = true ∧ rule ++ behind <:+ text := by
  induction text with
  | nil => simp [hasRule, rule]
  | cons c rest ih =>
      simp only [hasRule_cons, Bool.or_eq_true, ruleStarts_eq_true_iff, ih, List.suffix_cons_iff,
        and_or_left, exists_or]

/-- A line has a rule if it ends with one, white space aside. -/
theorem hasRule_of_single (single : '\n' ∉ text)
    : hasRule text = true ↔ rule <:+ trimEnd text := by
  rw [hasRule_eq_true_iff, suffix_trimEnd_iff rule_visible]
  refine exists_congr fun behind => and_congr_left fun ends => ?_
  have singleToo : '\n' ∉ behind := fun member =>
    single (ends.subset (List.mem_append_right rule member))
  rw [lineEnds_of_single singleToo]

theorem ruleStarts_append_feed (text more : List Char)
    : ruleStarts (text ++ '\n' :: more) = ruleStarts text := by
  rw [Bool.eq_iff_iff, ruleStarts_eq_true_iff, ruleStarts_eq_true_iff]
  constructor
  · rintro ⟨behind, ends, whole⟩
    rcases List.append_eq_append_iff.mp whole with ⟨kept, rfl, rfl⟩ | ⟨others, isRule, rest⟩
    · exact ⟨kept, lineEnds_append_feed kept more ▸ ends, rfl⟩
    · cases others with
      | nil => exact ⟨[], rfl, by simpa using isRule⟩
      | cons c others =>
          obtain ⟨rfl, -⟩ := List.cons_eq_cons.mp rest
          have inside : '\n' ∈ rule := isRule ▸ List.mem_append_right text List.mem_cons_self
          exact absurd inside (by decide)
  · rintro ⟨behind, ends, rfl⟩
    exact ⟨behind ++ '\n' :: more, (lineEnds_append_feed behind more).trans ends, by simp⟩

/-- No rule goes on behind a line feed, so each line has its own. By induction over what stands
before the line feed.
-/
theorem hasRule_append_feed (text more : List Char)
    : hasRule (text ++ '\n' :: more) = (hasRule text || hasRule more) := by
  induction text with
  | nil => rfl
  | cons c rest ih =>
      have here := ruleStarts_append_feed (c :: rest) more
      rw [List.cons_append] at here
      rw [List.cons_append, hasRule_cons, hasRule_cons, here, ih, Bool.or_assoc]

/-- A text has a rule exactly if one of its lines ends with it, white space aside. -/
theorem hasRule_iff_exists_line (text : List Char)
    : hasRule text = true ↔ ∃ line ∈ text.splitOn '\n', rule <:+ trimEnd line := by
  by_cases feed : '\n' ∈ text
  · obtain ⟨line, more, isText, single⟩ := List.eq_append_cons_of_mem feed
    have lines : text.splitOn '\n' = line :: more.splitOn '\n' := by
      rw [isText, List.splitOn, List.splitOnP_append_cons line more (by simp)]
      exact congrArg (· ++ _) (List.splitOn_eq_singleton single)
    rw [lines, List.exists_mem_cons_iff, ← hasRule_iff_exists_line more, isText,
      hasRule_append_feed, Bool.or_eq_true, hasRule_of_single single]
  · rw [List.splitOn_eq_singleton feed, hasRule_of_single feed]
    simp
termination_by text.length
decreasing_by
  rw [isText, List.length_append, List.length_cons]
  omega

-----------------------------------------------------------------------------------------
-- Line ends in another form
-----------------------------------------------------------------------------------------

/-- Blanks in front bring in no rule. -/
theorem hasRule_append_of_isBlank {space : List Char} (blank : isBlank space = true)
    (text : List Char)
    : hasRule (space ++ text) = hasRule text := by
  induction space with
  | nil => rfl
  | cons c space ih =>
      obtain ⟨isSpace, others⟩ := List.forall_mem_cons.mp (isBlank_eq_true_iff.mp blank)
      have nowhere : ruleStarts (c :: (space ++ text)) = false := by
        refine Bool.eq_false_iff.mpr fun starts => ?_
        obtain ⟨behind, -, whole⟩ := ruleStarts_eq_true_iff.mp starts
        obtain ⟨rfl, -⟩ := List.cons_eq_cons.mp whole
        exact absurd isSpace (by decide)
      rw [List.cons_append, hasRule_cons, nowhere, Bool.false_or,
        ih (isBlank_eq_true_iff.mpr others)]

section Respelling

variable {image : Char → List Char} (respells : IsRespelling image)
  (keepsLines : ∀ c, '\n' ∈ image c ↔ c = '\n')

include respells keepsLines

/-- By induction over the text: what is written for white space is passed over like it. -/
theorem lineEnds_flatMap (text : List Char) : lineEnds (text.flatMap image) = lineEnds text := by
  induction text with
  | nil => rfl
  | cons c rest ih =>
      cases isSpace : isWhiteSpace c with
      | false =>
          obtain ⟨d, isImage, shown⟩ := respells.visible c isSpace
          simp [lineEnds, isImage, shown, isSpace]
      | true =>
          have feeds : (image c).contains '\n' = [c].contains '\n' := by
            rw [Bool.eq_iff_iff]
            simp [keepsLines, eq_comm]
          rw [List.flatMap_cons, lineEnds_append_of_isBlank (respells.blank c isSpace), ih, feeds,
            ← lineEnds_append_of_isBlank (isBlank_singleton isSpace), List.singleton_append]

variable (keepsRule : ∀ c ∈ rule, Keeps image c)

include keepsRule

/-- A rule starts in the respelled text exactly if it starts in the text itself. -/
theorem ruleStarts_flatMap (text : List Char)
    : ruleStarts (text.flatMap image) = ruleStarts text := by
  by_cases starts : rule <+: text
  · obtain ⟨behind, rfl⟩ := starts
    have kept : rule.flatMap image = rule := by
      rw [List.flatMap_congr fun c member => (keepsRule c member c).mpr rfl]
      simp
    have ahead (more : List Char) : rule.isPrefixOf (rule ++ more) = true :=
      List.isPrefixOf_iff_prefix.mpr (List.prefix_append rule more)
    rw [List.flatMap_append, kept, ruleStarts, ruleStarts, ahead, ahead, List.drop_left,
      List.drop_left, lineEnds_flatMap respells keepsLines]
  · have startsNeither := mt (respells.prefix_flatMap_iff rule_visible keepsRule).mp starts
    rw [← List.isPrefixOf_iff_prefix, Bool.not_eq_true] at starts startsNeither
    rw [ruleStarts, ruleStarts, starts, startsNeither, Bool.false_and, Bool.false_and]

/-- A text has a rule however it is written, as long as dashes stay dashes and lines stay lines. By
induction over the text.
-/
theorem hasRule_flatMap (text : List Char) : hasRule (text.flatMap image) = hasRule text := by
  induction text with
  | nil => rfl
  | cons c rest ih =>
      cases isSpace : isWhiteSpace c with
      | false =>
          obtain ⟨d, isImage, -⟩ := respells.visible c isSpace
          have here := ruleStarts_flatMap respells keepsLines keepsRule (c :: rest)
          rw [List.flatMap_cons, isImage, List.singleton_append] at here ⊢
          rw [hasRule_cons, hasRule_cons, here, ih]
      | true =>
          rw [List.flatMap_cons, hasRule_append_of_isBlank (respells.blank c isSpace), ih,
            ← hasRule_append_of_isBlank (isBlank_singleton isSpace)]
          rfl

end Respelling

/-- A line feed with a carriage return before it, and any other character as it is. -/
def returned (c : Char) : List Char :=
  if c = '\n' then ['\r', '\n'] else [c]

def withReturns (text : List Char) : List Char :=
  text.flatMap returned

/-- A return in front of each end of a line respells blanks alone. -/
theorem isRespelling_returned : IsRespelling returned where
  visible c visible := by
    refine ⟨c, if_neg ?_, visible⟩
    rintro rfl
    exact absurd visible (by decide)
  filled c _ := by
    unfold returned
    split <;> simp
  blank c blank := by
    unfold returned
    split
    · decide
    · simpa [isBlank] using blank

theorem keeps_returned {d : Char} (visible : isWhiteSpace d = false) : Keeps returned d := by
  intro c
  unfold returned
  split
  · rename_i feed
    have other : '\n' ≠ d := by
      rintro rfl
      exact absurd visible (by decide)
    simp [feed, other]
  · exact List.singleton_inj

theorem feed_mem_returned (c : Char) : '\n' ∈ returned c ↔ c = '\n' := by
  unfold returned
  split
  · simp_all
  · simp [eq_comm]

-----------------------------------------------------------------------------------------
-- The end of a README
-----------------------------------------------------------------------------------------

/-- A text that ends with a rule has one on its last line that is not blank. -/
theorem hasRule_of_suffix_trim (ends : rule <:+ trim text) : hasRule text = true := by
  obtain ⟨behind, blank, inside⟩ := (suffix_trim_iff rule_visible (by decide)).mp ends
  exact hasRule_eq_true_iff.mpr ⟨behind, lineEnds_of_isBlank blank, inside⟩

/-- A footer closes with the end of a division or with a rule. -/
theorem closing_eq_true_iff (rules : Rules) (content : List Char)
    : (rules.analyze content).closing = true
      ↔ "</div>".toList <:+ trim content ∨ rule <:+ trim content := by
  simp [Rules.analyze]

/-- Returns in front of the ends of lines do not matter for how a footer closes. -/
theorem closing_withReturns (rules : Rules) (content : List Char)
    : (rules.analyze (withReturns content)).closing = (rules.analyze content).closing := by
  have ends {word : List Char} (visible : ∀ c ∈ word, isWhiteSpace c = false)
      : word <:+ trim (withReturns content) ↔ word <:+ trim content :=
    isRespelling_returned.suffix_trim_flatMap_iff visible fun c member =>
      keeps_returned (visible c member)
  rw [Bool.eq_iff_iff, closing_eq_true_iff, closing_eq_true_iff,
    ends (forall_mem_of_all (by decide)), ends rule_visible]

/-- Whatever the README, it has a rule exactly if one of its lines, without the white space at its
end, ends with one. So a README that ends with a rule has one and ends with its footer, one that
ends with its footer and has no rule ends with the closing tag, and carriage returns before its line
feeds change neither.
-/
theorem ruled_line_by_line (rules : Rules) (content : List Char)
    : ((rules.analyze content).ruled = true
        ↔ ∃ line ∈ content.splitOn '\n', rule <:+ trimEnd line)
      ∧ (rule <:+ trim content
        → (rules.analyze content).closing = true ∧ (rules.analyze content).ruled = true)
      ∧ ((rules.analyze content).closing = true → (rules.analyze content).ruled = false
        → "</div>".toList <:+ trim content)
      ∧ (rules.analyze (withReturns content)).ruled = (rules.analyze content).ruled
      ∧ (rules.analyze (withReturns content)).closing = (rules.analyze content).closing := by
  refine ⟨hasRule_iff_exists_line content, ?_, ?_, ?_, closing_withReturns rules content⟩
  · intro ends
    exact ⟨(closing_eq_true_iff rules content).mpr (.inr ends), hasRule_of_suffix_trim ends⟩
  · intro closes ruleless
    refine ((closing_eq_true_iff rules content).mp closes).resolve_right fun ends => ?_
    exact absurd (hasRule_of_suffix_trim ends) (Bool.eq_false_iff.mp ruleless)
  · exact hasRule_flatMap isRespelling_returned feed_mem_returned
      (fun c member => keeps_returned (rule_visible c member)) content

/-- A rule behind which a wide space and empty lines stand, and a tag behind dashes that are no
rule.
-/
theorem ruled_of_leaflets
    : let rules := Rules.of "shelf" ["ngo"]
      let dashed := "Books\n ---\u2003\x0b\n\n\u0085".toList
      let tagged := "--- books\n</div>\n".toList
      rule <:+ trim dashed
      ∧ (rules.analyze (withReturns dashed)).closing = true
      ∧ (rules.analyze (withReturns dashed)).ruled = true
      ∧ (rules.analyze tagged).closing = true
      ∧ (rules.analyze tagged).ruled = false
      ∧ "</div>".toList <:+ trim tagged := by
  intro rules dashed tagged
  have ends : rule <:+ trim dashed := List.isSuffixOf_iff_suffix.mp (by decide)
  have closes : (rules.analyze tagged).closing = true := by decide
  have ruleless : (rules.analyze tagged).ruled = false := by decide
  obtain ⟨-, ofRule, -, sameRuled, sameClosing⟩ := ruled_line_by_line rules dashed
  obtain ⟨-, -, ofTag, -⟩ := ruled_line_by_line rules tagged
  obtain ⟨closesToo, ruled⟩ := ofRule ends
  exact ⟨ends, sameClosing.trans closesToo, sameRuled.trans ruled, closes, ruleless,
    ofTag closes ruleless⟩

end DocSurvey.Footer
