import DocSurvey.Proofs.Text.Characters
import DocSurvey.Proofs.Text.Lowercase
import DocSurvey.Text.Search
import Mathlib.Data.List.Infix

/-! ASCII words in the lower case of a text. Where a text stands changes nothing but which small
sigma a capital one becomes, and that is no ASCII character. So the words found are those of the
characters' small forms one after another, and more text around it hides none of them. The case of
ASCII letters makes no difference to any text in lower case.
-/

namespace DocSurvey.Text

/-- An ASCII character; nothing for one beyond. -/
def ascii? (c : Char) : Option Char :=
  if c.toNat < 128 then some c else none

theorem ascii?_of_ascii {c : Char} (ascii : c.toNat < 128) : ascii? c = some c :=
  if_pos ascii

theorem eq_of_ascii?_eq_some {c d : Char} (same : ascii? c = some d) : c = d := by
  unfold ascii? at same
  split at same
  · exact Option.some.inj same
  · contradiction

theorem eq_of_map_ascii? {text word : List Char} (same : text.map ascii? = word.map some)
    : text = word := by
  induction word generalizing text with
  | nil => simpa using same
  | cons d word ih =>
      obtain ⟨c, rest, rfl, first, others⟩ := List.map_eq_cons_iff.mp same
      rw [eq_of_ascii?_eq_some first, ih others]

/-- A word of ASCII characters occurs where they do, whatever is between them. -/
theorem infix_map_ascii?_iff {word text : List Char} (ascii : ∀ c ∈ word, c.toNat < 128)
    : word.map some <:+: text.map ascii? ↔ word <:+: text := by
  have kept : word.map ascii? = word.map some :=
    List.map_congr_left fun c member => ascii?_of_ascii (ascii c member)
  constructor
  · rintro ⟨before, behind, whole⟩
    obtain ⟨front, back, rfl, isFront, -⟩ := List.map_eq_append_iff.mp whole.symm
    obtain ⟨ahead, found, rfl, -, isFound⟩ := List.map_eq_append_iff.mp isFront
    exact ⟨ahead, back, by rw [eq_of_map_ascii? isFound]⟩
  · intro occurs
    rw [← kept]
    exact occurs.map ascii?

/-- Behind any text, the ASCII characters of the lower case are those of the small forms one after
another, by induction over the text.
-/
theorem map_ascii?_lowerAfter (before text : List Char)
    : (lowerAfter before text).map ascii? = (text.flatMap lowerChar).map ascii? := by
  induction text generalizing before with
  | nil => rfl
  | cons c rest ih =>
      have first : (if c = 'Σ' then [if startsCased before && !startsCased rest then 'ς' else 'σ']
          else lowerChar c).map ascii? = (lowerChar c).map ascii? := by
        by_cases sigma : c = 'Σ'
        · have small : (lowerChar 'Σ').map ascii? = [none] := by decide
          rw [if_pos sigma, sigma, small]
          split <;> rfl
        · rw [if_neg sigma]
      rw [lowerAfter, List.map_append, first, ih, List.flatMap_cons, List.map_append]

/-- An ASCII word is found in the lower case of a text as it is in the small forms of its
characters.
-/
theorem infix_lower_iff {word : List Char} (ascii : ∀ c ∈ word, c.toNat < 128) (text : List Char)
    : word <:+: lower text ↔ word <:+: text.flatMap lowerChar := by
  rw [← infix_map_ascii?_iff ascii, ← infix_map_ascii?_iff ascii, lower, map_ascii?_lowerAfter]

/-- More text around another one hides no ASCII word of it. -/
theorem infix_lower_of_isInfix {word text whole : List Char} (ascii : ∀ c ∈ word, c.toNat < 128)
    (inside : text <:+: whole) (occurs : word <:+: lower text)
    : word <:+: lower whole := by
  obtain ⟨before, behind, rfl⟩ := inside
  rw [infix_lower_iff ascii] at occurs ⊢
  rw [List.flatMap_append, List.flatMap_append]
  exact occurs.trans (List.infix_append _ _ _)

-----------------------------------------------------------------------------------------
-- The case of ASCII letters
-----------------------------------------------------------------------------------------

theorem toNat_toLower_lt {c : Char} (ascii : c.toNat < 128) : c.toLower.toNat < 128 :=
  forall_ascii (fun c => c.toLower.toNat < 128) (by decide) ascii

/-- The lower case of an ASCII text is ASCII. -/
theorem ascii_of_mem_lower {text : List Char} (ascii : ∀ c ∈ text, c.toNat < 128)
    : ∀ d ∈ lower text, d.toNat < 128 := by
  intro d member
  rw [lower, lowerAfter_of_ascii ascii] at member
  obtain ⟨c, inside, rfl⟩ := List.mem_map.mp member
  exact toNat_toLower_lt (ascii c inside)

/-- What is the same for each ASCII character in either case is the same for every character. -/
theorem apply_toLower {α : Type} (f : Char → α)
    (ascii : ∀ code : Fin 128, f (Char.ofNat code).toLower = f (Char.ofNat code)) (c : Char)
    : f c.toLower = f c := by
  by_cases beyond : 128 ≤ c.toNat
  · rw [toLower_of_beyond beyond]
  · exact forall_ascii (fun c => f c.toLower = f c) ascii (Nat.not_le.mp beyond)

/-- Ranges that start beyond ASCII do not matter to an ASCII character. -/
theorem covers_of_ascii {c : Char} (ascii : c.toNat < 128) (ranges : List CharRange)
    : covers ranges c.toNat = covers (ranges.filter fun range => range.1 < 128) c.toNat := by
  rw [covers, covers, List.any_filter]
  congr 1
  funext range
  by_cases first : range.1 ≤ c.toNat
  · simp [first, Nat.lt_of_le_of_lt first ascii]
  · simp [first]

theorem isCaseIgnorable_of_ascii {c : Char} (ascii : c.toNat < 128)
    : isCaseIgnorable c
        = covers [(0x27, 0x27), (0x2E, 0x2E), (0x3A, 0x3A), (0x5E, 0x5E), (0x60, 0x60)]
            c.toNat := by
  have signs : Category.caseIgnorable.filter (fun range => range.1 < 128)
      = [(0x27, 0x27), (0x2E, 0x2E), (0x3A, 0x3A), (0x5E, 0x5E), (0x60, 0x60)] := by
    decide
  have marks : Category.nonspacing.filter (fun range => range.1 < 128) = [] := by decide
  rw [isCaseIgnorable, covers_of_ascii ascii Category.caseIgnorable,
    covers_of_ascii ascii Category.nonspacing, signs, marks, covers_nil, Bool.or_false]

/-- Whether a character is ignored between cased ones does not depend on its case. -/
theorem isCaseIgnorable_toLower (c : Char) : isCaseIgnorable c.toLower = isCaseIgnorable c := by
  by_cases beyond : 128 ≤ c.toNat
  · rw [toLower_of_beyond beyond]
  · have ascii := Nat.not_le.mp beyond
    rw [isCaseIgnorable_of_ascii ascii, isCaseIgnorable_of_ascii (toNat_toLower_lt ascii)]
    exact forall_ascii (fun c => covers _ c.toLower.toNat = covers _ c.toNat) (by decide)
      ascii

theorem startsCased_map_toLower (text : List Char)
    : startsCased (text.map Char.toLower) = startsCased text := by
  have cased := apply_toLower isCased (by decide)
  rw [startsCased, List.dropWhile_map, List.head?_map, Option.any_map]
  simp only [Function.comp_def, isCaseIgnorable_toLower, cased]
  rfl

/-- Behind any text, the case of ASCII letters does not change the lower case, by induction over the
text.
-/
theorem lowerAfter_map_toLower (before text : List Char)
    : lowerAfter (before.map Char.toLower) (text.map Char.toLower) = lowerAfter before text := by
  have sigma := apply_toLower (fun c => decide (c = 'Σ')) (by decide)
  have small := apply_toLower lowerChar (by decide)
  induction text generalizing before with
  | nil => rfl
  | cons c rest ih =>
      have onward := ih (c :: before)
      have same : (c.toLower = 'Σ') = (c = 'Σ') := by simpa using sigma c
      rw [List.map_cons] at onward
      rw [List.map_cons, lowerAfter, lowerAfter, startsCased_map_toLower, startsCased_map_toLower,
        onward, small]
      simp only [same]

/-- To lower the ASCII letters first changes nothing. -/
theorem lower_map_toLower (text : List Char) : lower (text.map Char.toLower) = lower text :=
  lowerAfter_map_toLower [] text

/-- Texts that agree in the case of all but ASCII letters agree in lower case. -/
theorem lower_congr {text other : List Char}
    (same : text.map Char.toLower = other.map Char.toLower)
    : lower text = lower other := by
  rw [← lower_map_toLower text, same, lower_map_toLower]

end DocSurvey.Text
