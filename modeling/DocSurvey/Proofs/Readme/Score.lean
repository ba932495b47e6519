import DocSurvey.Proofs.Text.Occurrences
import DocSurvey.Readme

/-! What more text does to the score of a README: it never takes a mark away, whatever stands before
it and behind. The case of letters earns nothing, and all marks together are worth more than ten
points each.
-/

namespace DocSurvey.Readme

open DocSurvey.Text

/-- The text earns the mark: one of the words of the group stands somewhere in its lower case. -/
def Earns (content : List Char) (group : List String) : Prop :=
  ∃ word ∈ group, word.toList <:+: lower content

instance (content : List Char) : DecidablePred (Earns content) := fun group =>
  inferInstanceAs (Decidable (∃ word ∈ group, word.toList <:+: lower content))

def earned (content : List Char) : Nat :=
  markGroups.countP (Earns content)

theorem earned_le (content : List Char) : earned content ≤ 9 :=
  List.countP_le_length

/-- The marks of a text in lower case are those that it earns. -/
theorem marks_lower (content : List Char) : marks (lower content) = earned content := by
  refine List.countP_congr fun group _ => ?_
  simp only [List.any_eq_true, occursIn_eq_true_iff, decide_eq_true_eq]
  rfl

/-- Each mark counts ten points, and all of them together a hundred. -/
theorem score_eq (content : List Char)
    : score content = if earned content = 9 then 100 else 10 * earned content := by
  have few := earned_le content
  have nine : markGroups.length = 9 := rfl
  rw [score, marks_lower, nine, fullScore, pointsPerMark]
  split <;> omega

/-- The words that earn marks are ASCII, so that their place in the text does not matter. -/
theorem ascii_of_mem_markGroups
    : ∀ group ∈ markGroups, ∀ word ∈ group, ∀ c ∈ word.toList, c.toNat < 128 := by
  have checked : (markGroups.all fun group => group.all fun word =>
      word.toList.all fun c => decide (c.toNat < 128)) = true := by decide
  simpa using checked

section Texts

variable {content whole other : List Char} {group : List String}

theorem Earns.of_isInfix (among : group ∈ markGroups) (inside : content <:+: whole)
    (earns : Earns content group)
    : Earns whole group := by
  obtain ⟨word, member, occurs⟩ := earns
  exact ⟨word, member,
    infix_lower_of_isInfix (ascii_of_mem_markGroups group among word member) inside occurs⟩

/-- A text earns no fewer marks with more around it. -/
theorem earned_mono (inside : content <:+: whole) : earned content ≤ earned whole := by
  refine List.countP_mono_left fun group among earns => ?_
  exact decide_eq_true ((of_decide_eq_true earns).of_isInfix among inside)

/-- Texts that agree in lower case earn the same marks. -/
theorem earned_congr (same : content.map Char.toLower = other.map Char.toLower)
    : earned content = earned other := by
  refine List.countP_congr fun group _ => ?_
  rw [decide_eq_true_iff, decide_eq_true_iff, Earns, Earns, lower_congr same]

/-- More marks are worth more. -/
theorem score_le_of_earned_le (fewer : earned content ≤ earned whole)
    : score content ≤ score whole := by
  have few := earned_le whole
  rw [score_eq, score_eq]
  split <;> split <;> omega

end Texts

/-- Text before and behind a README lowers no score; each mark of up to eight is worth ten points
and all nine are worth a hundred, so that no README scores ninety; and READMEs that agree up to the
case of ASCII letters score the same.
-/
theorem score_grows_with_content
    : (∀ before content behind, score content ≤ score (before ++ content ++ behind))
      ∧ (∀ content,
          earned content ≤ 9
          ∧ (earned content ≤ 8 → score content = 10 * earned content)
          ∧ (earned content = 9 → score content = 100)
          ∧ score content ≠ 90
          ∧ (score content = 100 ↔ ∀ group ∈ markGroups, Earns content group))
      ∧ ∀ content other : List Char,
          content.map Char.toLower = other.map Char.toLower → score content = score other := by
  refine ⟨?_, ?_, ?_⟩
  · intro before content behind
    exact score_le_of_earned_le (earned_mono (List.infix_append before content behind))
  · intro content
    have few := earned_le content
    have all : earned content = 9 ↔ ∀ group ∈ markGroups, Earns content group := by
      have every : earned content = markGroups.length ↔ _ := List.countP_eq_length
      simp only [decide_eq_true_eq] at every
      exact every
    rw [score_eq, ← all]
    refine ⟨few, fun some => ?_, fun every => if_pos every, ?_, ?_⟩
    · exact if_neg (by omega)
    · split <;> omega
    · split <;> omega
  · intro content other same
    rw [score_eq, score_eq, earned_congr same]

/-- The sigma at the end of the notes is a final one until more text follows, and the small form of
the capital I with a dot is two characters.
-/
theorem score_of_notes
    : let notes := "U\u017fage, lıcense, L\u0130cense, usage ΟΔΟΣ".toList
      let shouted := "u\u017fAGE, Lıcense, l\u0130CENSE, USAGE ΟΔΟΣ".toList
      notes.map Char.toLower = shouted.map Char.toLower
      ∧ earned notes ≤ 8
      ∧ score notes = 10
      ∧ score notes = score shouted
      ∧ 10 ≤ score ("Ά".toList ++ notes ++ "Σ and an example".toList) := by
  intro notes shouted
  have same : notes.map Char.toLower = shouted.map Char.toLower := by decide +kernel
  have one : earned notes = 1 := by decide +kernel
  have few : earned notes ≤ 8 := by omega
  obtain ⟨grows, counted, level⟩ := score_grows_with_content
  have ten : score notes = 10 := by
    rw [(counted notes).2.1 few, one]
  exact ⟨same, few, ten, level notes shouted same, ten ▸ grows _ notes _⟩

end DocSurvey.Readme
