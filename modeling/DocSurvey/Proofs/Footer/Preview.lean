import DocSurvey.Footer.Analysis

/-! The end of a README as it is shown on one line. Main statement: the preview shows the last
characters and nothing else, so that text in front of them changes only the length that is reported,
and the characters can be read back from it unless they hold a backslash.
-/

namespace DocSurvey.Footer

def ending (content : List Char) : List Char :=
  content.drop (content.length - previewLength)

/-- The text with line feeds written as a backslash and an n. -/
def onOneLine (text : List Char) : List Char :=
  text.flatMap fun c => if c = '\n' then ['\\', 'n'] else [c]

/-- The text with a line feed in place of each backslash and the n behind it. -/
def restored : List Char → List Char
  | [] => []
  | '\\' :: 'n' :: rest => '\n' :: restored rest
  | c :: rest => c :: restored rest

theorem preview_eq (content : List Char) : preview content = onOneLine (ending content) := rfl

-----------------------------------------------------------------------------------------
-- The last characters
-----------------------------------------------------------------------------------------

/-- A preview is made of so many characters at most. -/
theorem length_ending (content : List Char)
    : (ending content).length = min content.length previewLength := by
  rw [ending, List.length_drop]
  omega

/-- Text in front of enough characters is not among the last ones. -/
theorem ending_append {content : List Char} (long : previewLength ≤ content.length)
    (front : List Char)
    : ending (front ++ content) = ending content := by
  have skipped : (front ++ content).length - previewLength
      = front.length + (content.length - previewLength) := by
    rw [List.length_append]
    omega
  rw [ending, ending, skipped, List.drop_length_add_append]

-----------------------------------------------------------------------------------------
-- Texts on one line
-----------------------------------------------------------------------------------------

/-- An end of a line is shown as a pair of characters. -/
theorem onOneLine_feed (rest : List Char)
    : onOneLine ('\n' :: rest) = '\\' :: 'n' :: onOneLine rest :=
  rfl

/-- All other characters are shown as they are. -/
theorem onOneLine_cons {c : Char} (noFeed : c ≠ '\n') (rest : List Char)
    : onOneLine (c :: rest) = c :: onOneLine rest := by
  simp [onOneLine, noFeed]

/-- What is shown on one line has no end of a line in it. -/
theorem feed_notMem_onOneLine (text : List Char) : '\n' ∉ onOneLine text := by
  intro member
  obtain ⟨c, _, among⟩ := List.mem_flatMap.mp member
  split at among
  · simp at among
  · rename_i noFeed
    exact noFeed (List.mem_singleton.mp among).symm

/-- Each line feed takes one character more. -/
theorem length_onOneLine (text : List Char)
    : (onOneLine text).length = text.length + text.count '\n' := by
  induction text with
  | nil => rfl
  | cons c rest ih =>
      by_cases feed : c = '\n'
      · rw [feed, onOneLine_feed, List.length_cons, List.length_cons, ih, List.length_cons,
          List.count_cons_self]
        omega
      · rw [onOneLine_cons feed, List.length_cons, ih, List.length_cons, List.count_cons_of_ne feed]
        omega

/-- A text starts with an n on one line only if it does so by itself. -/
theorem head?_onOneLine (text : List Char)
    : (onOneLine text).head? = some 'n' ↔ text.head? = some 'n' := by
  cases text with
  | nil => rfl
  | cons c rest =>
      by_cases feed : c = '\n'
      · simp [feed, onOneLine_feed]
      · simp [onOneLine_cons feed]

-----------------------------------------------------------------------------------------
-- Texts read back
-----------------------------------------------------------------------------------------

/-- Without a pair that stands for an end of a line nothing is restored. -/
theorem restored_cons {c : Char} {rest : List Char} (noPair : c = '\\' → rest.head? ≠ some 'n')
    : restored (c :: rest) = c :: restored rest := by
  rw [restored]
  rintro behind rfl rfl
  exact noPair rfl rfl

/-- What is read back from a text on one line is what is read from the text itself, by induction
along the pairs of the text.
-/
theorem restored_onOneLine (text : List Char) : restored (onOneLine text) = restored text := by
  fun_induction restored text with
  | case1 => rfl
  | case2 rest ih =>
      rw [onOneLine_cons (by decide), onOneLine_cons (by decide), restored, ih]
  | case3 c rest noPair ih =>
      by_cases feed : c = '\n'
      · rw [feed, onOneLine_feed, restored, ih]
      · rw [onOneLine_cons feed, restored_cons, ih]
        rintro rfl starts
        obtain ⟨behind, rfl⟩ := List.head?_eq_some_iff.mp ((head?_onOneLine rest).mp starts)
        exact noPair behind rfl rfl

/-- Reading back changes nothing in a text without pairs, and it changes every other text. -/
theorem restored_eq_self_iff (text : List Char)
    : restored text = text ↔ ¬ ['\\', 'n'] <:+: text := by
  fun_induction restored text with
  | case1 => simp
  | case2 rest ih =>
      have pair : ['\\', 'n'] <:+: '\\' :: 'n' :: rest :=
        (List.prefix_append ['\\', 'n'] rest).isInfix
      simp [pair]
  | case3 c rest noPair ih =>
      have apart : ¬ ['\\', 'n'] <+: c :: rest := by
        rintro ⟨behind, spelled⟩
        obtain ⟨rfl, rfl⟩ := List.cons.inj spelled
        exact noPair behind rfl rfl
      rw [List.cons_inj_right, ih, List.infix_cons_iff, or_iff_right apart]

/-- The last characters can be read back from a preview if no n stands behind a backslash in them.
-/
theorem restored_preview_eq_iff (content : List Char)
    : restored (preview content) = ending content ↔ ¬ ['\\', 'n'] <:+: ending content := by
  rw [preview_eq, restored_onOneLine, restored_eq_self_iff]

/-- The preview of every text has no line feed, and a character for each of the last five hundred
and one more for each line feed among them, which can be read back unless a backslash stands among
them too. Text in front of five hundred characters changes no preview, and adds to the length.
-/
theorem preview_faithful (rules : Rules)
    : (∀ content : List Char, ∃ front tail,
        content = front ++ tail
        ∧ tail.length = min content.length 500
        ∧ let shown := (rules.analyze content).preview.toList
          '\n' ∉ shown
          ∧ shown.length = min content.length 500 + tail.count '\n'
          ∧ ('\\' ∉ tail → restored shown = tail))
      ∧ ∀ front content : List Char,
          500 ≤ content.length
          → (rules.analyze (front ++ content)).preview = (rules.analyze content).preview
            ∧ (rules.analyze (front ++ content)).length
              = (rules.analyze front).length + (rules.analyze content).length := by
  refine ⟨fun content => ?_, fun front content long => ⟨?_, ?_⟩⟩
  · refine ⟨content.take (content.length - previewLength), ending content,
      (List.take_append_drop _ _).symm, length_ending content, ?_⟩
    have isPreview : (rules.analyze content).preview.toList = preview content :=
      String.toList_ofList
    simp only [isPreview]
    refine ⟨feed_notMem_onOneLine _, ?_, fun noBackslash => ?_⟩
    · rw [preview_eq, length_onOneLine, length_ending]
      rfl
    · refine (restored_preview_eq_iff content).mpr fun pair => ?_
      exact noBackslash (pair.subset (by simp))
  · have same : preview (front ++ content) = preview content :=
      congrArg onOneLine (ending_append long front)
    exact congrArg String.ofList same
  · exact List.length_append

/-- Five hundred characters, of which the first and the last one are line feeds. -/
def banner : List Char :=
  '\n' :: (List.replicate 498 'é' ++ ['\n'])

/-- A character too many in front is cut off, and both line feeds are restored. -/
theorem preview_of_banner
    : let rules := Rules.of "shelf" []
      let poster := 'x' :: banner
      '\\' ∉ banner
      ∧ (rules.analyze poster).preview.length = 502
      ∧ restored (rules.analyze poster).preview.toList = banner
      ∧ 500 ≤ banner.length
      ∧ (rules.analyze ("\\n\n".toList ++ banner)).preview = (rules.analyze banner).preview
      ∧ (rules.analyze ("\\n\n".toList ++ banner)).length = 3 + 500 := by
  intro rules poster
  have clean : '\\' ∉ banner := by decide +kernel
  have counted : banner.length = 500 := by decide +kernel
  have feeds : banner.count '\n' = 2 := by decide +kernel
  obtain ⟨faithful, lasting⟩ := preview_faithful rules
  obtain ⟨front, last, split, size, _, length, back⟩ := faithful poster
  obtain rfl : last = banner := by
    have whole : front ++ last = ['x'] ++ banner := split.symm
    refine List.append_inj_right' whole ?_
    rw [size, counted, List.length_cons, counted]
    rfl
  rw [List.length_cons, counted, feeds, String.length_toList] at length
  have long : 500 ≤ banner.length := Nat.le_of_eq counted.symm
  obtain ⟨kept, added⟩ := lasting "\\n\n".toList banner long
  have sizes : (rules.analyze "\\n\n".toList).length = 3 ∧ (rules.analyze banner).length = 500 :=
    ⟨rfl, counted⟩
  rw [sizes.1, sizes.2] at added
  exact ⟨clean, length, back clean, long, kept, added⟩

end DocSurvey.Footer
