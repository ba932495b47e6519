import DocSurvey.Text.Lowercase

/-! Lower case of a text that stands between others. All its characters become what they become in
the text alone, but a capital sigma looks beyond the ends of the text for whether it ends a word. So
the lower case of the text is found there exactly if its sigmas do not change their forms.
-/

namespace DocSurvey.Text

/-- A capital sigma ends a word between the text before it, in reverse, and the text behind it. -/
def endsWord (before behind : List Char) : Bool :=
  startsCased before && !startsCased behind

/-- The small form of a text, given the characters before it in reverse and the characters behind
it.
-/
def lowerBetween (before behind : List Char) : List Char → List Char
  | [] => []
  | c :: rest =>
      (if c = 'Σ' then [if endsWord before (rest ++ behind) then 'ς' else 'σ'] else lowerChar c)
        ++ lowerBetween (c :: before) behind rest

/-- The lower case of a text with another one behind it, by induction over the first text. -/
theorem lowerAfter_append (before text behind : List Char)
    : lowerAfter before (text ++ behind)
        = lowerBetween before behind text ++ lowerAfter (text.reverse ++ before) behind := by
  induction text generalizing before with
  | nil => rfl
  | cons c rest ih =>
      rw [List.cons_append, lowerAfter, lowerBetween, ih, List.reverse_cons, List.append_assoc,
        List.append_assoc]
      rfl

theorem lower_eq_lowerBetween (text : List Char) : lower text = lowerBetween [] [] text := by
  have whole := lowerAfter_append [] text []
  rwa [List.append_nil, lowerAfter, List.append_nil] at whole

/-- The lower case of a text holds what becomes of each of its parts. -/
theorem lowerBetween_infix_lower (before text behind : List Char)
    : lowerBetween before.reverse behind text <:+: lower (before ++ text ++ behind) := by
  rw [lower, List.append_assoc, lowerAfter_append, lowerAfter_append, List.append_nil,
    ← List.append_assoc]
  exact List.infix_append _ _ _

/-- Each capital sigma of the text ends a word between the others exactly if it does in the text
alone.
-/
def KeepsSigmas (before text behind : List Char) : Prop :=
  ∀ ahead rest, text = ahead ++ 'Σ' :: rest
    → endsWord (ahead.reverse ++ before.reverse) (rest ++ behind) = endsWord ahead.reverse rest

/-- Two surroundings make the same of a text exactly if they agree on each of its sigmas, by
induction over the text.
-/
theorem lowerBetween_eq_iff {before behind otherBefore otherBehind : List Char} (text : List Char)
    : lowerBetween before behind text = lowerBetween otherBefore otherBehind text
      ↔ ∀ ahead rest, text = ahead ++ 'Σ' :: rest
        → endsWord (ahead.reverse ++ before) (rest ++ behind)
          = endsWord (ahead.reverse ++ otherBefore) (rest ++ otherBehind) := by
  induction text generalizing before otherBefore with
  | nil => simp [lowerBetween]
  | cons c text ih =>
      have firstOrLater (holds : List Char → List Char → Prop)
          : (∀ ahead rest, c :: text = ahead ++ 'Σ' :: rest → holds ahead rest)
            ↔ (c = 'Σ' → holds [] text)
              ∧ ∀ ahead rest, text = ahead ++ 'Σ' :: rest → holds (c :: ahead) rest := by
        constructor
        · intro all
          refine ⟨fun sigma => all [] text (by rw [sigma]; rfl), fun ahead rest isText => ?_⟩
          exact all (c :: ahead) rest (by rw [isText]; rfl)
        · rintro ⟨first, others⟩ ahead rest whole
          rcases List.cons_eq_append_iff.mp whole with ⟨rfl, same⟩ | ⟨ahead, rfl, isText⟩
          · obtain ⟨rfl, rfl⟩ := List.cons_eq_cons.mp same
            exact first rfl
          · exact others ahead rest isText
      have forms (one other : Bool)
          : (if one = true then 'ς' else 'σ') = (if other = true then 'ς' else 'σ')
            ↔ one = other := by
        revert one other
        decide
      rw [firstOrLater]
      simp only [List.reverse_cons, List.append_assoc, List.singleton_append, ← ih, lowerBetween]
      by_cases sigma : c = 'Σ'
      · simp [sigma, forms]
      · simp [sigma]

/-- The lower case of a text stands in its place between others exactly if its sigmas keep their
forms.
-/
theorem lowerBetween_eq_lower_iff (before text behind : List Char)
    : lowerBetween before.reverse behind text = lower text ↔ KeepsSigmas before text behind := by
  rw [lower_eq_lowerBetween, lowerBetween_eq_iff]
  simp [KeepsSigmas]

theorem keepsSigmas_of_notMem {before text behind : List Char} (none : 'Σ' ∉ text)
    : KeepsSigmas before text behind := by
  rintro ahead rest rfl
  simp at none

/-- What counts for case behind a text is what stands behind it only if the text has nothing that
counts.
-/
theorem startsCased_append_of_not {behind : List Char} (uncased : startsCased behind = false)
    (text : List Char)
    : startsCased (text ++ behind) = startsCased text := by
  rw [startsCased, startsCased, List.dropWhile_append]
  split
  · rename_i all
    rw [← startsCased, uncased, List.isEmpty_iff.mp all]
    rfl
  · rename_i some
    cases first : text.dropWhile isCaseIgnorable with
    | nil => simp [first] at some
    | cons c rest => rfl

/-- The sigmas of a text keep their forms if no cased letter is next to it. -/
theorem keepsSigmas_of_apart {before text behind : List Char}
    (ahead : startsCased before.reverse = false) (after : startsCased behind = false)
    : KeepsSigmas before text behind := by
  intro front rest _
  rw [endsWord, endsWord, startsCased_append_of_not ahead, startsCased_append_of_not after]

end DocSurvey.Text
