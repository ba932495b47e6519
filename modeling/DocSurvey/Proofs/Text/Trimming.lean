import DocSurvey.Text.Search
import Mathlib.Data.List.Infix
import Mathlib.Data.List.TakeWhile

/-! Words next to the ends of a text that is cut of white space. A word without white space ends the
cut text exactly if nothing but white space stands behind it. It still does when the text is written
in another way that keeps the word and leaves white space where it is.
-/

namespace DocSurvey.Text

variable {word text : List Char}

theorem isBlank_eq_true_iff : isBlank text = true ↔ ∀ c ∈ text, isWhiteSpace c = true :=
  List.all_eq_true

theorem isBlank_singleton {c : Char} (isSpace : isWhiteSpace c = true) : isBlank [c] = true := by
  simpa [isBlank] using isSpace

-----------------------------------------------------------------------------------------
-- Words at the ends
-----------------------------------------------------------------------------------------

section Ends

variable (visible : ∀ c ∈ word, isWhiteSpace c = false)

include visible

/-- A word starts a text that is cut at its start exactly if only white space stands before it. -/
theorem prefix_trimStart_iff
    : word <+: trimStart text ↔ ∃ before, isBlank before = true ∧ before ++ word <+: text := by
  constructor
  · intro starts
    refine ⟨text.takeWhile isWhiteSpace, ?_, ?_⟩
    · exact isBlank_eq_true_iff.mpr fun c member => List.mem_takeWhile_imp member
    · obtain ⟨rest, whole⟩ := starts
      refine ⟨rest, ?_⟩
      rw [List.append_assoc, whole, trimStart, List.takeWhile_append_dropWhile]
  · rintro ⟨before, blank, rest, rfl⟩
    rw [trimStart, List.append_assoc,
      List.dropWhile_append_of_pos (isBlank_eq_true_iff.mp blank)]
    cases word with
    | nil => exact List.nil_prefix
    | cons c others =>
        rw [List.cons_append, List.dropWhile_cons_of_neg (by simp [visible c])]
        exact List.prefix_append (c :: others) rest

/-- A word ends a text that is cut at its end exactly if only white space stands behind it. -/
theorem suffix_trimEnd_iff
    : word <:+ trimEnd text ↔ ∃ behind, isBlank behind = true ∧ word ++ behind <:+ text := by
  have visibleToo : ∀ c ∈ word.reverse, isWhiteSpace c = false := fun c member =>
    visible c (List.mem_reverse.mp member)
  rw [trimEnd, ← List.reverse_prefix, List.reverse_reverse, prefix_trimStart_iff visibleToo]
  constructor
  · rintro ⟨before, blank, starts⟩
    refine ⟨before.reverse, by simpa [isBlank] using blank, ?_⟩
    rwa [← List.reverse_prefix, List.reverse_append, List.reverse_reverse]
  · rintro ⟨behind, blank, ends⟩
    refine ⟨behind.reverse, by simpa [isBlank] using blank, ?_⟩
    rwa [← List.reverse_append, List.reverse_prefix]

/-- The white space at the start of a text does not matter to what ends it. -/
theorem suffix_trim_iff (filled : word ≠ [])
    : word <:+ trim text ↔ ∃ behind, isBlank behind = true ∧ word ++ behind <:+ text := by
  rw [trim, suffix_trimEnd_iff visible]
  refine exists_congr fun behind => and_congr_right fun _ => ?_
  constructor
  · exact fun ends => ends.trans (List.dropWhile_suffix isWhiteSpace)
  · rintro ⟨before, rfl⟩
    obtain ⟨c, others, rfl⟩ := List.exists_cons_of_ne_nil filled
    have stops : trimStart (c :: others ++ behind) = c :: others ++ behind := by
      rw [trimStart, List.cons_append, List.dropWhile_cons_of_neg (by simp [visible c])]
    rw [trimStart, List.dropWhile_append]
    split
    · rw [← trimStart, stops]
    · exact List.suffix_append _ _

end Ends

-----------------------------------------------------------------------------------------
-- Texts written in another way
-----------------------------------------------------------------------------------------

/-- What is written for each character: white space for white space, and for all others one
character that is none.
-/
structure IsRespelling (image : Char → List Char) : Prop where
  visible : ∀ c, isWhiteSpace c = false → ∃ d, image c = [d] ∧ isWhiteSpace d = false
  filled : ∀ c, isWhiteSpace c = true → image c ≠ []
  blank : ∀ c, isWhiteSpace c = true → isBlank (image c) = true

/-- The character is written for itself and for no other. -/
def Keeps (image : Char → List Char) (d : Char) : Prop :=
  ∀ c, image c = [d] ↔ c = d

namespace IsRespelling

variable {image : Char → List Char} (respells : IsRespelling image)

include respells

theorem reverse : IsRespelling (List.reverse ∘ image) where
  visible c visible := by
    obtain ⟨d, isImage, shown⟩ := respells.visible c visible
    exact ⟨d, by simp [isImage], shown⟩
  filled c blank := by simpa using respells.filled c blank
  blank c blank := by simpa [isBlank] using respells.blank c blank

/-- To respell blanks and then trim the start is to trim first. -/
theorem trimStart_flatMap (text : List Char)
    : trimStart (text.flatMap image) = (trimStart text).flatMap image := by
  induction text with
  | nil => rfl
  | cons c rest ih =>
      cases isSpace : isWhiteSpace c with
      | false =>
          obtain ⟨d, isImage, shown⟩ := respells.visible c isSpace
          simp [trimStart, isImage, shown, isSpace]
      | true =>
          have blank := isBlank_eq_true_iff.mp (respells.blank c isSpace)
          rw [trimStart] at ih ⊢
          rw [List.flatMap_cons, List.dropWhile_append_of_pos blank, ih, trimStart, trimStart,
            List.dropWhile_cons_of_pos isSpace]

/-- To respell blanks and then trim the end is to trim first. -/
theorem trimEnd_flatMap (text : List Char)
    : trimEnd (text.flatMap image) = (trimEnd text).flatMap image := by
  rw [trimEnd, List.reverse_flatMap, respells.reverse.trimStart_flatMap, List.reverse_flatMap,
    trimEnd]
  simp [Function.comp_def]

section Words

variable (visible : ∀ c ∈ word, isWhiteSpace c = false) (keeps : ∀ c ∈ word, Keeps image c)

include visible keeps

/-- A word that is kept starts the text that is written exactly if it starts the text, by induction
over the word.
-/
theorem prefix_flatMap_iff : word <+: text.flatMap image ↔ word <+: text := by
  induction word generalizing text with
  | nil => simp
  | cons c word ih =>
      obtain ⟨shown, othersShown⟩ := List.forall_mem_cons.mp visible
      obtain ⟨kept, othersKept⟩ := List.forall_mem_cons.mp keeps
      cases text with
      | nil => simp
      | cons d rest =>
          cases isSpace : isWhiteSpace d with
          | false =>
              obtain ⟨e, isImage, -⟩ := respells.visible d isSpace
              have same := kept d
              rw [isImage, List.singleton_inj] at same
              rw [List.flatMap_cons, isImage, List.singleton_append, List.cons_prefix_cons,
                List.cons_prefix_cons, ih othersShown othersKept, eq_comm, same, eq_comm]
          | true =>
              have hidden (e : Char) (isBlank : isWhiteSpace e = true) : c ≠ e := by
                rintro rfl
                simp [shown] at isBlank
              obtain ⟨e, more, isMore⟩ := List.exists_cons_of_ne_nil (respells.filled d isSpace)
              have blank := isBlank_eq_true_iff.mp (respells.blank d isSpace) e
                (isMore ▸ List.mem_cons_self)
              simp [isMore, List.cons_prefix_cons, hidden d isSpace, hidden e blank]

theorem suffix_flatMap_iff : word <:+ text.flatMap image ↔ word <:+ text := by
  have keepsToo : ∀ c ∈ word.reverse, Keeps (List.reverse ∘ image) c := by
    intro c member d
    rw [← keeps c (List.mem_reverse.mp member) d, Function.comp_apply, List.reverse_eq_iff]
    rfl
  rw [← List.reverse_prefix, List.reverse_flatMap, respells.reverse.prefix_flatMap_iff
    (fun c member => visible c (List.mem_reverse.mp member)) keepsToo, List.reverse_prefix]

/-- A word that is kept ends the text that is written, once cut, exactly if it ends the cut text. -/
theorem suffix_trim_flatMap_iff : word <:+ trim (text.flatMap image) ↔ word <:+ trim text := by
  rw [trim, respells.trimStart_flatMap, respells.trimEnd_flatMap,
    respells.suffix_flatMap_iff visible keeps, ← trim]

end Words

end IsRespelling

end DocSurvey.Text
