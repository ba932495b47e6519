import DocSurvey.Json.Parser
import DocSurvey.Json.Printer

/-! The texts of strings and of whole numbers in JSON. Main statements: each string is read back as
it was, whatever its characters, and so is each whole number that 64 bits hold.
-/

namespace DocSurvey.Json

open Text

-----------------------------------------------------------------------------------------
-- Strings
-----------------------------------------------------------------------------------------

/-- Four digits at the end of a text are as good before another one. -/
theorem readHex4_append {text : List Char} {value : Nat} (reads : readHex4 text = some (value, []))
    (rest : List Char)
    : readHex4 (text ++ rest) = some (value, rest) := by
  unfold readHex4 at reads
  split at reads
  · rename_i a b c d tail
    split at reads
    · rename_i digits
      obtain ⟨rfl, rfl⟩ := Prod.mk.inj (Option.some.inj reads)
      simp only [List.cons_append, List.nil_append, readHex4]
      rw [if_pos digits]
    · simp at reads
  · simp at reads

/-- The four digits of a control character stand for it. -/
theorem readHex4_control
    : ∀ code < 32, readHex4 ((unicodeEscape code).drop 2) = some (code, []) := by
  decide

/-- A control character that is written by its code is read back. -/
theorem readEscape_unicodeEscape {code : Nat} (control : code < 32) (rest : List Char)
    : readEscape ((unicodeEscape code).drop 1 ++ rest) = some (Char.ofNat code, rest) := by
  have digits := readHex4_append (readHex4_control code control) rest
  have low : ¬ 0xD800 ≤ code := by omega
  have opens : (unicodeEscape code).drop 1 ++ rest
      = 'u' :: ((unicodeEscape code).drop 2 ++ rest) := rfl
  have beforeLow : ¬ 0xDC00 ≤ code := by omega
  rw [opens, readEscape, readUnicode, digits]
  simp [low, beforeLow]

/-- What an escape stands for comes before what is read behind it. -/
theorem readString_escape {text rest : List Char} {c : Char}
    (reads : readEscape text = some (c, rest)) (fuel : Nat)
    : readString (fuel + 1) ('\\' :: text)
      = (readString fuel rest).map fun (chars, rest) => (c :: chars, rest) := by
  have noQuote : '\\' ≠ '"' := by decide
  rw [readString, if_neg noQuote, if_pos rfl, reads]
  cases ends : readString fuel rest with
  | none => simp [ends]
  | some read => simp [ends]

/-- A character is read back from what is written for it. -/
theorem readString_escapedChar (c : Char) (fuel : Nat) (rest : List Char)
    : readString (fuel + 1) (escapedChar c ++ rest)
      = (readString fuel rest).map fun (chars, rest) => (c :: chars, rest) := by
  unfold escapedChar
  split
  all_goals try exact readString_escape rfl fuel
  split
  · rename_i control
    have reads := readEscape_unicodeEscape control rest
    rw [Char.ofNat_toNat] at reads
    exact readString_escape reads fuel
  · rename_i noQuote noBackslash _ _ _ _ _ printable
    rw [List.singleton_append, readString, if_neg noQuote, if_neg noBackslash, if_neg printable]
    cases readString fuel rest <;> rfl

theorem escapedChar_length_pos (c : Char) : 0 < (escapedChar c).length := by
  unfold escapedChar
  split
  all_goals try exact Nat.zero_lt_succ _
  split
  · exact Nat.zero_lt_succ _
  · exact Nat.zero_lt_succ _

/-- A string is read back from its text, by induction over its characters. -/
theorem readString_flatMap (text : List Char) {fuel : Nat} (enough : text.length < fuel)
    (rest : List Char)
    : readString fuel (text.flatMap escapedChar ++ '"' :: rest) = some (text, rest) := by
  induction text generalizing fuel with
  | nil =>
      obtain ⟨fewer, rfl⟩ := Nat.exists_eq_add_one.mpr enough
      simp [readString]
  | cons c others ih =>
      obtain ⟨fewer, rfl⟩ := Nat.exists_eq_add_one.mpr (Nat.zero_lt_of_lt enough)
      have remains : others.length < fewer := by
        rw [List.length_cons] at enough
        omega
      rw [List.flatMap_cons, List.append_assoc, readString_escapedChar, ih remains]
      rfl

theorem length_le_flatMap_escapedChar (text : List Char)
    : text.length ≤ (text.flatMap escapedChar).length := by
  induction text with
  | nil => simp
  | cons c others ih =>
      have written := escapedChar_length_pos c
      rw [List.flatMap_cons, List.length_append, List.length_cons]
      omega

/-- What stands behind the opening quote is read as the string and what follows it. -/
theorem readString_stringText (text rest : List Char)
    : ∃ behind,
        stringText text ++ rest = '"' :: behind
        ∧ readString (behind.length + 1) behind = some (text, rest) := by
  refine ⟨text.flatMap escapedChar ++ '"' :: rest, by simp [stringText], ?_⟩
  have written := length_le_flatMap_escapedChar text
  refine readString_flatMap text ?_ rest
  rw [List.length_append]
  omega

-----------------------------------------------------------------------------------------
-- Whole numbers
-----------------------------------------------------------------------------------------

theorem isAsciiDigit_of_mem_digits {n : Nat} {c : Char} (member : c ∈ Number.digits n)
    : isAsciiDigit c = true := by
  have digit := Nat.isDigit_of_mem_toDigits (by decide) (by decide) member
  simpa [isAsciiDigit, Char.isDigit, Char.le_def] using digit

/-- The digits of a number stand for it. -/
theorem ofDigits_digits (n : Nat) : Number.ofDigits (Number.digits n) = n := by
  have reads : Nat.ofDigitChars 10 (Nat.toDigits 10 n) 0 = n := Nat.ofDigitChars_ten_toDigits
  rw [Nat.ofDigitChars_eq_foldl] at reads
  simpa [Number.ofDigits, Number.digits, Nat.mul_comm] using reads

/-- No zero stands before other digits, by induction over the number without its last digit. -/
theorem head?_digits_of_pos {n : Nat} (positive : 0 < n)
    : (Number.digits n).head? ≠ some '0' := by
  unfold Number.digits
  induction n using Nat.strongRecOn with
  | ind n ih =>
      rw [Nat.toDigits_eq_if (by decide)]
      split
      · simpa using Nat.pos_iff_ne_zero.mp positive
      · rename_i large
        have above := ih (n / 10) (by omega) (by omega)
        cases before : Nat.toDigits 10 (n / 10) with
        | nil => exact absurd before Nat.toDigits_ne_nil
        | cons first others => simpa [before] using above

/-- No number is written with a zero to spare. -/
theorem leadingZero_digits (n : Nat)
    : ((Number.digits n).head? == some '0' && decide (1 < (Number.digits n).length)) = false := by
  rcases Nat.eq_zero_or_pos n with rfl | positive
  · rfl
  · simp [head?_digits_of_pos positive]

theorem isEmpty_digits (n : Nat) : (Number.digits n).isEmpty = false :=
  List.isEmpty_eq_false_iff.mpr Nat.toDigits_ne_nil

/-- Nothing that could go on a number stands at the start of the text. -/
def EndsNumber (rest : List Char) : Prop :=
  ∀ c ∈ rest.head?, isAsciiDigit c = false ∧ c ≠ '.' ∧ c ≠ 'e' ∧ c ≠ 'E'

/-- The digits of a number are all that is read before it ends. -/
theorem takeWhile_digits (n : Nat) {rest : List Char} (ends : EndsNumber rest)
    : (Number.digits n ++ rest).takeWhile isAsciiDigit = Number.digits n
      ∧ (Number.digits n ++ rest).dropWhile isAsciiDigit = rest := by
  have all : ∀ c ∈ Number.digits n, isAsciiDigit c = true := fun _ => isAsciiDigit_of_mem_digits
  rw [List.takeWhile_append_of_pos all, List.dropWhile_append_of_pos all]
  cases rest with
  | nil => simp
  | cons c others => simp [(ends c rfl).1]

theorem readFraction_of_endsNumber {rest : List Char} (ends : EndsNumber rest)
    : readFraction rest = some (none, rest) := by
  unfold readFraction
  split
  · exact absurd rfl (ends '.' rfl).2.1
  · rfl

theorem readExponent_of_endsNumber {rest : List Char} (ends : EndsNumber rest)
    : readExponent rest = some (none, rest) := by
  cases rest with
  | nil => rfl
  | cons c others =>
      obtain ⟨_, _, noLower, noUpper⟩ := ends c rfl
      simp [readExponent, noLower, noUpper]

/-- The digits of a number are read as that number. -/
theorem readNumber_digits (n : Nat) {rest : List Char} (ends : EndsNumber rest)
    : readNumber (Number.digits n ++ rest) = (ofWhole? false n).map fun value => (value, rest) := by
  obtain ⟨taken, left⟩ := takeWhile_digits n ends
  unfold readNumber
  split
  rename_i negative text opens
  have unsigned : (negative, text) = (false, Number.digits n ++ rest) := by
    rw [← opens]
    split
    · rename_i tail same
      rw [same] at taken
      exact absurd taken.symm Nat.toDigits_ne_nil
    · rfl
  obtain ⟨rfl, rfl⟩ := Prod.mk.inj unsigned
  cases value : ofWhole? false n <;>
    simp [taken, left, isEmpty_digits, leadingZero_digits, readFraction_of_endsNumber ends,
      readExponent_of_endsNumber ends, ofDigits_digits, value]

theorem readNumber_negated_digits (n : Nat) {rest : List Char} (ends : EndsNumber rest)
    : readNumber ('-' :: (Number.digits n ++ rest))
      = (ofWhole? true n).map fun value => (value, rest) := by
  obtain ⟨taken, left⟩ := takeWhile_digits n ends
  cases value : ofWhole? true n <;>
    simp [readNumber, taken, left, isEmpty_digits, leadingZero_digits,
      readFraction_of_endsNumber ends, readExponent_of_endsNumber ends, ofDigits_digits, value]

/-- A word of 64 bits holds the number, with a sign or without. -/
def FitsWord (value : Int) : Prop :=
  -(Number.bitRange 63 : Int) ≤ value ∧ value < Number.bitRange 64

/-- A whole number that fits into a word is read as it is written. -/
theorem readNumber_intText {value : Int} (fits : FitsWord value) {rest : List Char}
    (ends : EndsNumber rest)
    : readNumber (intText value ++ rest) = some (.int value, rest) := by
  cases value with
  | ofNat n =>
      have small : n < Number.bitRange 64 := Int.ofNat_lt.mp fits.2
      rw [intText, readNumber_digits n ends]
      simp [ofWhole?, small]
  | negSucc n =>
      have small : n + 1 ≤ Number.bitRange 63 := by
        have least := fits.1
        omega
      rw [intText, List.cons_append, readNumber_negated_digits (n + 1) ends]
      simp [ofWhole?, small, Int.negSucc_eq]

end DocSurvey.Json
