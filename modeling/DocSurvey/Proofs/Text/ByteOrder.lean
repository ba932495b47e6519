import Mathlib.Data.List.Basic
import Mathlib.Tactic.SplitIfs

/-! The order of texts by their bytes. The bytes of a character come before those of a greater one,
whatever stands behind the two. Main statement: texts are in the order of their characters exactly
if they are in the order of their bytes.
-/

namespace DocSurvey.Text

def bytes (text : String) : List UInt8 :=
  text.toUTF8.data.toList

/-- The first text comes before the second one when they are compared byte by byte. -/
def BytesBefore (left right : String) : Prop :=
  bytes left < bytes right

instance (left right : String) : Decidable (BytesBefore left right) :=
  inferInstanceAs (Decidable (bytes left < bytes right))

theorem bytes_eq (text : String) : bytes text = text.toList.flatMap String.utf8EncodeChar := by
  have encoded : text.toByteArray = text.toList.utf8Encode := by
    rw [← String.toByteArray_ofList, String.ofList_toList]
  rw [bytes, String.toUTF8, encoded, List.utf8Encode]
  simp

/-- A greater character has the greater bytes: it has the greater first byte, or else the first byte
in which the two differ is greater.
-/
theorem utf8EncodeChar_append_lt {c d : Char} (smaller : c < d) (behind behindToo : List UInt8)
    : String.utf8EncodeChar c ++ behind < String.utf8EncodeChar d ++ behindToo := by
  have less : c.val.toNat < d.val.toNat := smaller
  have bounded : d.val.toNat < 0x110000 := by
    have valid := d.valid
    unfold UInt32.isValidChar Nat.isValidChar at valid
    omega
  unfold String.utf8EncodeChar
  dsimp only
  split_ifs <;>
    simp only [List.cons_append, List.nil_append, List.cons_lt_cons_iff, UInt8.lt_iff_toNat_lt,
      ← UInt8.toNat_inj, UInt8.toNat_ofNat'] <;>
    simp (disch := omega) only [Nat.mod_eq_of_lt] <;>
    omega

/-- Texts in the order of their characters have bytes in that order, by induction over what they
have in common at the start.
-/
theorem flatMap_lt_of_lt {left right : List Char} (smaller : left < right)
    : left.flatMap String.utf8EncodeChar < right.flatMap String.utf8EncodeChar := by
  induction smaller with
  | @nil c rest =>
      obtain ⟨first, others, spelled⟩ :
          ∃ first others, String.utf8EncodeChar c = first :: others := by
        refine List.exists_cons_of_ne_nil (List.ne_nil_of_length_pos ?_)
        simpa using c.utf8Size_pos
      rw [List.flatMap_cons, spelled]
      exact List.Lex.nil
  | @rel c _ d _ less => exact utf8EncodeChar_append_lt less _ _
  | @cons c left right _ ih =>
      rw [List.flatMap_cons, List.flatMap_cons]
      exact List.append_left_lt ih

/-- The order of the bytes is the order of the characters: it is no other one, since of two texts
one comes first in both.
-/
theorem bytesBefore_iff {left right : String} : BytesBefore left right ↔ left < right := by
  have follows : ∀ {first second : String}, first < second → BytesBefore first second := by
    intro first second smaller
    unfold BytesBefore
    rw [bytes_eq, bytes_eq]
    exact flatMap_lt_of_lt (String.lt_iff.mp smaller)
  refine ⟨fun before => ?_, follows⟩
  rcases Std.lt_trichotomy left right with smaller | rfl | greater
  · exact smaller
  · exact absurd before (List.lt_irrefl _)
  · exact absurd before (List.lt_asymm (follows greater))

end DocSurvey.Text
