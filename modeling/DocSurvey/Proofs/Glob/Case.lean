import DocSurvey.Proofs.Glob.Bytes

/-! The case of ASCII letters in a path. No part of a pattern tells a capital letter from a small
one: not a class that holds one of the two only, and not a negated class, which leaves out both.
Main statement: a pattern matches a path exactly if it matches the path in small letters.
-/

namespace DocSurvey.Glob

variable {accepts : UInt8 → Bool}

-----------------------------------------------------------------------------------------
-- Single bytes
-----------------------------------------------------------------------------------------

/-- A byte in small letters is the byte itself, or each of the two is the other one in the other
case.
-/
theorem lowerByte_eq_or (byte : UInt8)
    : lowerByte byte = byte
      ∨ lowerByte byte = otherCase byte ∧ otherCase (lowerByte byte) = byte := by
  have smallFirst : 'a'.toUInt8 = 97 := by decide
  have smallLast : 'z'.toUInt8 = 122 := by decide
  have capitalFirst : 'A'.toUInt8 = 65 := by decide
  have capitalLast : 'Z'.toUInt8 = 90 := by decide
  simp only [otherCase, lowerByte, smallFirst, smallLast, capitalFirst, capitalLast,
    Bool.and_eq_true, decide_eq_true_eq]
  grind

theorem lowerByte_lowerByte (byte : UInt8) : lowerByte (lowerByte byte) = lowerByte byte := by
  unfold lowerByte
  grind

/-- The test accepts a byte exactly if it accepts the byte in small letters. -/
def IgnoresCase (accepts : UInt8 → Bool) : Prop :=
  ∀ byte, accepts (lowerByte byte) = accepts byte

/-- A letter accepts itself in either case. -/
theorem ignoresCase_sameLetter (letter : UInt8) : IgnoresCase (sameLetter letter) := by
  intro byte
  rw [Bool.eq_iff_iff, sameLetter_iff, sameLetter_iff, lowerByte_lowerByte]

theorem ignoresCase_isSlash : IgnoresCase isSlash := by
  intro byte
  have small : lowerByte slash = slash := by decide
  rw [Bool.eq_iff_iff, isSlash, isSlash, beq_iff_eq, beq_iff_eq]
  constructor
  · exact lowerByte_eq_slash
  · rintro rfl
    exact small

theorem IgnoresCase.not (ignores : IgnoresCase accepts) : IgnoresCase fun byte => !accepts byte :=
  fun byte => congrArg _ (ignores byte)

/-- A class looks for a byte in both cases, and is negated only then. -/
theorem ignoresCase_inClass (negated : Bool) (ranges : List (UInt8 × UInt8))
    : IgnoresCase (inClass negated ranges) := by
  intro byte
  unfold inClass
  rcases lowerByte_eq_or byte with same | ⟨swapped, back⟩
  · rw [same]
  · rw [back, swapped, Bool.or_comm]

-----------------------------------------------------------------------------------------
-- Steps in a text
-----------------------------------------------------------------------------------------

/-- A step over one byte does not depend on the case of the text. -/
theorem onward_lowered (ignores : IgnoresCase accepts) (text : List UInt8) (reached : Reached)
    : onward accepts (text.map lowerByte) reached = onward accepts text reached := by
  simp only [onward, List.zipWith_map_left, ignores _]

/-- By induction along the text, for each flag that stands for the places before it. -/
theorem spreadFrom_lowered (ignores : IgnoresCase accepts) (flag : Bool) (text : List UInt8)
    (reached : Reached)
    : spreadFrom accepts flag (text.map lowerByte) reached
      = spreadFrom accepts flag text reached := by
  induction text generalizing flag reached with
  | nil => rfl
  | cons byte rest ih =>
      cases reached with
      | nil => rfl
      | cons here later => simp only [List.map_cons, spreadFrom, ignores byte, ih]

/-- A step over any number of bytes does not depend on the case of the text. -/
theorem spread_lowered (ignores : IgnoresCase accepts) (text : List UInt8) (reached : Reached)
    : spread accepts (text.map lowerByte) reached = spread accepts text reached :=
  spreadFrom_lowered ignores false text reached

theorem behindSlashes_lowered (text : List UInt8) (reached : Reached)
    : behindSlashes (text.map lowerByte) reached = behindSlashes text reached := by
  have anything : IgnoresCase fun _ => true := fun _ => rfl
  unfold behindSlashes
  rw [spread_lowered anything, onward_lowered ignoresCase_isSlash]

/-- Given bytes are looked for one after another, by induction over them. -/
theorem foldl_onward_lowered (bytes : List UInt8) (text : List UInt8) (reached : Reached)
    : bytes.foldl (fun reached byte => onward (sameLetter byte) (text.map lowerByte) reached)
        reached
      = bytes.foldl (fun reached byte => onward (sameLetter byte) text reached) reached := by
  induction bytes generalizing reached with
  | nil => rfl
  | cons byte rest ih =>
      rw [List.foldl_cons, List.foldl_cons, onward_lowered (ignoresCase_sameLetter byte), ih]

-----------------------------------------------------------------------------------------
-- Parts of a pattern
-----------------------------------------------------------------------------------------

mutual

/-- A part leads to the same places of a text in small letters, by induction over the part. -/
theorem Token.after_lowered (text : List UInt8) (reached : Reached) (token : Token)
    : token.after (text.map lowerByte) reached = token.after text reached := by
  have anything : IgnoresCase fun _ => true := fun _ => rfl
  cases token with
  | literal bytes => exact foldl_onward_lowered bytes text reached
  | any => exact onward_lowered ignoresCase_isSlash.not text reached
  | zeroOrMore => exact spread_lowered ignoresCase_isSlash.not text reached
  | leading => simp only [Token.after, behindSlashes_lowered]
  | trailing =>
      simp only [Token.after, spread_lowered anything, onward_lowered ignoresCase_isSlash]
  | spanning => simp only [Token.after, behindSlashes_lowered, onward_lowered ignoresCase_isSlash]
  | «class» negated ranges => exact onward_lowered (ignoresCase_inClass negated ranges) text reached
  | alternates branches => simp only [Token.after, afterBranches_lowered text reached _ branches]

/-- Tokens in a row lead as far in a text in lower case. -/
theorem afterSequence_lowered (text : List UInt8) (reached : Reached) (pattern : List Token)
    : afterSequence (text.map lowerByte) reached pattern = afterSequence text reached pattern := by
  cases pattern with
  | nil => rfl
  | cons token rest =>
      simp only [afterSequence, Token.after_lowered text reached token,
        afterSequence_lowered text _ rest]

/-- Alternatives lead as far in a text in lower case. -/
theorem afterBranches_lowered (text : List UInt8) (reached known : Reached)
    (branches : List (List Token))
    : afterBranches (text.map lowerByte) reached known branches
      = afterBranches text reached known branches := by
  cases branches with
  | nil => rfl
  | cons branch rest =>
      simp only [afterBranches, afterSequence_lowered text reached branch,
        afterBranches_lowered text reached _ rest]

end

/-- A pattern matches a path exactly if it matches the path in small letters. -/
theorem isMatch_lowered (pattern : List Token) (path : String)
    : isMatch pattern (String.ofList (path.toList.map Char.toLower)) = isMatch pattern path := by
  have lowered : (path.toList.map Char.toLower).flatMap bytesOf
      = (path.toList.flatMap bytesOf).map lowerByte :=
    (map_lowerByte_flatMap path.toList).symm
  unfold isMatch
  split
  · rfl
  · simp only [String.toList_ofList, lowered, List.map_map, Function.comp_def,
      afterSequence_lowered]

/-- A pattern matches both or neither of two paths that differ only in the case of ASCII letters. -/
theorem isMatch_congr (pattern : List Token) {left right : String}
    (same : left.toList.map Char.toLower = right.toList.map Char.toLower)
    : isMatch pattern left = isMatch pattern right := by
  rw [← isMatch_lowered pattern left, same, isMatch_lowered]

end DocSurvey.Glob
