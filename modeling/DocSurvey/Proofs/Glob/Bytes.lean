import DocSurvey.Glob.Token
import DocSurvey.Proofs.Text.Characters

/-! Bytes of texts. The bytes of a text inside those of another one are a text inside it, and
bytes that are the same up to the case of ASCII letters are those of texts that are.
-/

namespace DocSurvey.Glob

open Text

-----------------------------------------------------------------------------------------
-- Texts inside bytes
-----------------------------------------------------------------------------------------

theorem bytesOf_ne_nil (c : Char) : bytesOf c ≠ [] := by
  have positive : 0 < (bytesOf c).length := by
    simpa [bytesOf] using c.utf8Size_pos
  exact List.ne_nil_of_length_pos positive

/-- Of the bytes of a character only the first one can start a character. -/
theorem eq_nil_of_bytesOf_eq_append {c : Char} {left right : List UInt8} {byte : UInt8}
    (split : bytesOf c = left ++ byte :: right) (starts : byte.IsUTF8FirstByte)
    : left = [] := by
  have place : left.length < (String.utf8EncodeChar c).length := by
    rw [show String.utf8EncodeChar c = left ++ byte :: right from split]
    simp
  have same : (String.utf8EncodeChar c)[left.length] = byte := by
    simp [show String.utf8EncodeChar c = left ++ byte :: right from split]
  have first := UInt8.isUTF8FirstByte_getElem_utf8EncodeChar.mp (same ▸ starts)
  exact List.length_eq_zero_iff.mp first

theorem isUTF8FirstByte_of_head? {c : Char} {behind : List UInt8} {byte : UInt8}
    (head : (bytesOf c ++ behind).head? = some byte)
    : byte.IsUTF8FirstByte := by
  obtain ⟨first, rest, spelled⟩ := List.exists_cons_of_ne_nil (bytesOf_ne_nil c)
  obtain rfl : first = byte := by simpa [spelled] using head
  have place : 0 < (String.utf8EncodeChar c).length := by
    rw [show String.utf8EncodeChar c = first :: rest from spelled]
    simp
  have same : (String.utf8EncodeChar c)[0] = first := by
    simp [show String.utf8EncodeChar c = first :: rest from spelled]
  exact same ▸ UInt8.isUTF8FirstByte_getElem_utf8EncodeChar.mpr rfl

/-- Bytes that start where a character can start are those of a part of the text, by induction
over the characters before it.
-/
theorem flatMap_bytesOf_split {text : List Char} {left right : List UInt8}
    (split : text.flatMap bytesOf = left ++ right)
    (starts : ∀ byte, right.head? = some byte → byte.IsUTF8FirstByte)
    : ∃ before behind,
        text = before ++ behind
        ∧ before.flatMap bytesOf = left
        ∧ behind.flatMap bytesOf = right := by
  induction text generalizing left with
  | nil =>
      obtain ⟨rfl, rfl⟩ : left = [] ∧ right = [] := by simpa using split
      exact ⟨[], [], rfl, rfl, rfl⟩
  | cons c rest ih =>
      rw [List.flatMap_cons] at split
      rcases List.append_eq_append_iff.mp split with ⟨longer, rfl, inner⟩ | ⟨beyond, whole, rfl⟩
      · obtain ⟨before, behind, rfl, rfl, rfl⟩ := ih inner
        exact ⟨c :: before, behind, rfl, by simp, rfl⟩
      · cases beyond with
        | nil => exact ⟨[c], rest, rfl, by simpa using whole, rfl⟩
        | cons byte beyond =>
            have empty := eq_nil_of_bytesOf_eq_append whole (starts byte rfl)
            subst empty
            exact ⟨[], c :: rest, rfl, rfl, by simp [whole]⟩

/-- No text has the bytes of another one at its start without starting with it. -/
theorem prefix_of_flatMap_bytesOf {text word : List Char} {behind : List UInt8}
    (split : text.flatMap bytesOf = word.flatMap bytesOf ++ behind)
    : ∃ rest, text = word ++ rest ∧ rest.flatMap bytesOf = behind := by
  have encoded : word.utf8Encode ++ behind.toByteArray = text.utf8Encode := by
    calc
      word.utf8Encode ++ behind.toByteArray
          = (word.flatMap bytesOf ++ behind).toByteArray := List.toByteArray_append.symm
      _ = (text.flatMap bytesOf).toByteArray := by rw [split]
      _ = text.utf8Encode := rfl
  obtain ⟨rest, rfl⟩ := List.isPrefix_of_utf8Encode_append_eq_utf8Encode _ encoded
  exact ⟨rest, rfl, by simpa using split⟩

/-- The bytes of a word inside those of a text belong to an occurrence of the word. -/
theorem infix_of_flatMap_bytesOf {text word : List Char} (nonempty : word ≠ [])
    {left right : List UInt8} (split : text.flatMap bytesOf = left ++ word.flatMap bytesOf ++ right)
    : ∃ before behind, text = before ++ word ++ behind ∧ behind.flatMap bytesOf = right := by
  have starts : ∀ byte,
      (word.flatMap bytesOf ++ right).head? = some byte → byte.IsUTF8FirstByte := by
    intro byte head
    obtain ⟨first, rest, rfl⟩ := List.exists_cons_of_ne_nil nonempty
    rw [List.flatMap_cons, List.append_assoc] at head
    exact isUTF8FirstByte_of_head? head
  rw [List.append_assoc] at split
  obtain ⟨before, others, rfl, _, later⟩ := flatMap_bytesOf_split split starts
  obtain ⟨behind, rfl, same⟩ := prefix_of_flatMap_bytesOf later
  exact ⟨before, behind, by simp, same⟩

-----------------------------------------------------------------------------------------
-- The case of letters
-----------------------------------------------------------------------------------------

/-- The byte with a capital ASCII letter made small. -/
def lowerByte (byte : UInt8) : UInt8 :=
  if 65 ≤ byte ∧ byte ≤ 90 then byte + 32 else byte

/-- Two bytes are the same letter if they are so in lower case. -/
theorem sameLetter_iff (left right : UInt8)
    : sameLetter left right = true ↔ lowerByte left = lowerByte right := by
  have smallFirst : 'a'.toUInt8 = 97 := by decide
  have smallLast : 'z'.toUInt8 = 122 := by decide
  have capitalFirst : 'A'.toUInt8 = 65 := by decide
  have capitalLast : 'Z'.toUInt8 = 90 := by decide
  simp only [sameLetter, otherCase, lowerByte, smallFirst, smallLast, capitalFirst, capitalLast,
    Bool.or_eq_true, Bool.and_eq_true, beq_iff_eq, decide_eq_true_eq]
  grind

theorem toNat_lt_of_utf8Size {c : Char} (narrow : c.utf8Size = 1) : c.toNat < 128 :=
  Nat.lt_succ_of_le (UInt32.le_iff_toNat_le.mp (Char.utf8Size_eq_one_iff.mp narrow))

/-- The bytes of a character beyond ASCII are beyond ASCII. -/
theorem le_of_mem_bytesOf {c : Char} {byte : UInt8} (wide : c.utf8Size ≠ 1)
    (member : byte ∈ bytesOf c)
    : 128 ≤ byte := by
  have marked : ∀ bits : UInt8, 128 ≤ bits ||| 0x80 ∧ 128 ≤ bits ||| 0xc0
      ∧ 128 ≤ bits ||| 0xe0 ∧ 128 ≤ bits ||| 0xf0 := by
    intro bits
    simp only [UInt8.le_iff_toNat_le, UInt8.toNat_or]
    exact ⟨Nat.right_le_or, Nat.le_trans (by decide) Nat.right_le_or,
      Nat.le_trans (by decide) Nat.right_le_or, Nat.le_trans (by decide) Nat.right_le_or⟩
  unfold bytesOf at member
  rcases c.utf8Size_eq with one | two | three | four
  · exact absurd one wide
  · rw [String.utf8EncodeChar_eq_cons_cons two] at member
    simp only [List.mem_cons, List.not_mem_nil, or_false] at member
    rcases member with rfl | rfl
    · exact (marked _).2.1
    · exact (marked _).1
  · rw [String.utf8EncodeChar_eq_cons_cons_cons three] at member
    simp only [List.mem_cons, List.not_mem_nil, or_false] at member
    rcases member with rfl | rfl | rfl
    · exact (marked _).2.2.1
    · exact (marked _).1
    · exact (marked _).1
  · rw [String.utf8EncodeChar_eq_cons_cons_cons_cons four] at member
    simp only [List.mem_cons, List.not_mem_nil, or_false] at member
    rcases member with rfl | rfl | rfl | rfl
    · exact (marked _).2.2.2
    · exact (marked _).1
    · exact (marked _).1
    · exact (marked _).1

/-- The bytes of a small letter are those of the capital one made small. -/
theorem map_lowerByte_bytesOf (c : Char) : (bytesOf c).map lowerByte = bytesOf c.toLower := by
  by_cases ascii : c.utf8Size = 1
  · exact forall_ascii (fun c => (bytesOf c).map lowerByte = bytesOf c.toLower) (by decide)
      (toNat_lt_of_utf8Size ascii)
  · have unchanged : c.toLower = c := by
      have beyond : ¬ c.val ≤ 127 := fun small => ascii (Char.utf8Size_eq_one_iff.mpr small)
      unfold Char.toLower
      rw [dif_neg]
      rintro ⟨_, bounded⟩
      exact beyond (UInt32.le_trans bounded (by decide))
    have same : ∀ byte ∈ bytesOf c, lowerByte byte = byte := by
      intro byte member
      have wide := le_of_mem_bytesOf ascii member
      unfold lowerByte
      grind
    rw [unchanged, List.map_congr_left same, List.map_id']

theorem lowerByte_eq_slash {byte : UInt8} (closes : lowerByte byte = slash) : byte = slash := by
  have code : slash = 47 := by decide
  unfold lowerByte at closes
  grind

/-- To lower the bytes of a text is to lower its ASCII letters. -/
theorem map_lowerByte_flatMap (text : List Char)
    : (text.flatMap bytesOf).map lowerByte = (text.map Char.toLower).flatMap bytesOf := by
  simp [List.map_flatMap, List.flatMap_map, map_lowerByte_bytesOf]

theorem slash_mem_bytesOf {c : Char} : slash ∈ bytesOf c ↔ c = '/' := by
  by_cases ascii : c.utf8Size = 1
  · exact forall_ascii (fun c => slash ∈ bytesOf c ↔ c = '/') (by decide)
      (toNat_lt_of_utf8Size ascii)
  · constructor
    · intro member
      exact absurd (le_of_mem_bytesOf ascii member) (by decide)
    · rintro rfl
      exact absurd (by decide) ascii

/-- There is a slash among the bytes of a text only if there is one in the text. -/
theorem slash_mem_flatMap {text : List Char} : slash ∈ text.flatMap bytesOf ↔ '/' ∈ text := by
  simp [List.mem_flatMap, slash_mem_bytesOf]

/-- Only a slash is one in lower case. -/
theorem toLower_eq_slash {c : Char} (lowered : c.toLower = '/') : c = '/' := by
  have member : slash ∈ (bytesOf c).map lowerByte := by
    rw [map_lowerByte_bytesOf, lowered]
    decide
  obtain ⟨byte, among, closes⟩ := List.mem_map.mp member
  exact slash_mem_bytesOf.mp (lowerByte_eq_slash closes ▸ among)

end DocSurvey.Glob
