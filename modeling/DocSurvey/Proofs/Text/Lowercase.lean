import DocSurvey.Text.Lowercase

/-! Lower case where it meets ASCII. Of the characters beyond ASCII the Kelvin sign alone has a
small form within it, so a text has an ASCII text without a k as its small form only if it is that
text up to the case of its letters.
-/

namespace DocSurvey.Text

/-- The Kelvin sign, whose small form is the letter k. -/
def kelvinSign : Char := '\u212a'

/-- The images of runs beyond ASCII are characters beyond ASCII, save that of the Kelvin sign. -/
theorem caseRuns_image {run : CaseRun} (among : run ∈ caseRuns) {code : Nat} (beyond : 128 ≤ code)
    (maps : run.maps code = true)
    : code = kelvinSign.toNat
      ∨ 128 ≤ run.image + (code - run.first)
        ∧ (run.image + (code - run.first)).isValidChar := by
  have shape : ∀ run ∈ caseRuns,
      run.last < 128
      ∨ run.first = kelvinSign.toNat ∧ run.last = kelvinSign.toNat
      ∨ 128 ≤ run.image
        ∧ (run.image + (run.last - run.first) < 0xD800
          ∨ 0xDFFF < run.image ∧ run.image + (run.last - run.first) < 0x110000) := by
    decide +kernel
  simp only [CaseRun.maps, Bool.and_eq_true, decide_eq_true_eq] at maps
  obtain ⟨⟨lower, upper⟩, _⟩ := maps
  unfold Nat.isValidChar
  rcases shape run among with small | kelvin | wide
  · omega
  · omega
  · omega

theorem toNat_ofNat_of_isValidChar {code : Nat} (valid : code.isValidChar)
    : (Char.ofNat code).toNat = code := by
  unfold Char.ofNat
  rw [dif_pos valid]
  rfl

theorem exists_beyond_mem_lowerChar {c : Char} (beyond : 128 ≤ c.toNat) (other : c ≠ kelvinSign)
    : ∃ d ∈ lowerChar c, 128 ≤ d.toNat := by
  unfold lowerChar
  rw [if_neg (Nat.not_lt.mpr beyond)]
  split
  · exact ⟨'\u0307', by simp, by decide⟩
  · split
    · rename_i run found
      have among := List.mem_of_find?_eq_some found
      have maps := List.find?_some found
      refine ⟨_, List.mem_singleton_self _, ?_⟩
      rcases caseRuns_image among beyond maps with kelvin | ⟨wide, valid⟩
      · exact absurd (Char.toNat_inj.mp kelvin) other
      · rw [toNat_ofNat_of_isValidChar valid]
        exact wide
    · exact ⟨c, List.mem_singleton_self c, beyond⟩

theorem toLower_of_beyond {c : Char} (beyond : 128 ≤ c.toNat) : c.toLower = c := by
  unfold Char.toLower
  rw [dif_neg]
  rintro ⟨_, bounded⟩
  have small : c.toNat ≤ 'Z'.toNat := UInt32.le_iff_toNat_le.mp bounded
  exact absurd (Nat.le_trans beyond small) (by decide)

/-- A letter of ASCII is lowered by itself, whatever stands around it. -/
theorem lowerAfter_cons_of_ascii {c : Char} (ascii : c.toNat < 128) (before rest : List Char)
    : lowerAfter before (c :: rest) = c.toLower :: lowerAfter (c :: before) rest := by
  have sigma : c ≠ 'Σ' := by
    rintro rfl
    exact absurd ascii (by decide)
  rw [lowerAfter, if_neg sigma, lowerChar, if_pos ascii]
  rfl

/-- A text in ASCII is lowered letter by letter, by induction over it. -/
theorem lowerAfter_of_ascii {text : List Char} (ascii : ∀ c ∈ text, c.toNat < 128)
    (before : List Char)
    : lowerAfter before text = text.map Char.toLower := by
  induction text generalizing before with
  | nil => rfl
  | cons c rest ih =>
      obtain ⟨first, others⟩ := List.forall_mem_cons.mp ascii
      rw [lowerAfter_cons_of_ascii first, ih others, List.map_cons]

/-- Behind any text, by induction over the characters: one beyond ASCII leaves a trace beyond
ASCII, or the letter k.
-/
theorem lowerAfter_eq_iff {text target : List Char} (ascii : ∀ c ∈ target, c.toNat < 128)
    (without : 'k' ∉ target) (before : List Char)
    : lowerAfter before text = target ↔ text.map Char.toLower = target := by
  induction text generalizing before target with
  | nil => simp [lowerAfter]
  | cons c rest ih =>
      by_cases beyond : 128 ≤ c.toNat
      · have trace : ∃ d ∈ lowerAfter before (c :: rest), 128 ≤ d.toNat ∨ d = 'k' := by
          rw [lowerAfter]
          by_cases sigma : c = 'Σ'
          · rw [if_pos sigma]
            split
            · exact ⟨'ς', by simp, .inl (by decide)⟩
            · exact ⟨'σ', by simp, .inl (by decide)⟩
          · rw [if_neg sigma]
            by_cases kelvin : c = kelvinSign
            · have image : lowerChar kelvinSign = ['k'] := by decide
              exact ⟨'k', by simp [kelvin, image], .inr rfl⟩
            · obtain ⟨d, member, wide⟩ := exists_beyond_mem_lowerChar beyond kelvin
              exact ⟨d, List.mem_append_left _ member, .inl wide⟩
        constructor
        · rintro rfl
          obtain ⟨d, member, wide | rfl⟩ := trace
          · exact absurd (ascii d member) (Nat.not_lt.mpr wide)
          · exact absurd member without
        · rintro rfl
          have kept : c ∈ (c :: rest).map Char.toLower := by
            simp [toLower_of_beyond beyond]
          exact absurd (ascii c kept) (Nat.not_lt.mpr beyond)
      · rw [lowerAfter_cons_of_ascii (Nat.not_le.mp beyond), List.map_cons]
        cases target with
        | nil => simp
        | cons first others =>
            have later := ih (fun d member => ascii d (List.mem_cons_of_mem _ member))
              (fun member => without (List.mem_cons_of_mem _ member)) (c :: before)
            rw [List.cons.injEq, List.cons.injEq, later]

/-- A text is an ASCII text without a k in lower case exactly if both agree up to the case of ASCII
letters.
-/
theorem lower_eq_iff {text target : List Char} (ascii : ∀ c ∈ target, c.toNat < 128)
    (without : 'k' ∉ target)
    : lower text = target ↔ text.map Char.toLower = target :=
  lowerAfter_eq_iff ascii without []

end DocSurvey.Text
