import DocSurvey.Proofs.Python.Quotes
import Mathlib.Data.String.Basic

/-! Where the body of a literal is cut out of its text. The cuts are offsets in bytes, and a text
can only be cut between two of its characters. Main statement: the cuts of every text are such
places, and what stands between them is the body of a literal, whatever quotes and backslashes it
holds.
-/

namespace DocSurvey.Python

open DocSurvey.Text
open String (utf8Len)

-----------------------------------------------------------------------------------------
-- Cuts between characters
-----------------------------------------------------------------------------------------

/-- The part of a text between two offsets in bytes. There is none if the second offset is before
the first one, or one of them is behind the text or inside a character.
-/
def slice? (text : String) (start stop : Nat) : Option String :=
  if start ≤ stop
      ∧ String.Pos.Raw.IsValid text ⟨start⟩
      ∧ String.Pos.Raw.IsValid text ⟨stop⟩ then
    some (String.Pos.Raw.extract text ⟨start⟩ ⟨stop⟩)
  else
    none

/-- The quotes of a style fit both ends without sharing a byte. -/
def fitsBytes (unprefixed quote : String) : Bool :=
  2 * quote.utf8ByteSize ≤ unprefixed.utf8ByteSize
    && quote.toList.isPrefixOf unprefixed.toList && quote.toList.isSuffixOf unprefixed.toList

/-- The prefix and the quotes cut from a literal's text by their lengths in bytes; nothing if the
text cannot be cut there.
-/
def sliceBody? (text : String) : Option String :=
  let unprefixed := String.ofList (text.toList.dropWhile isAsciiLetter)
  match ["\"\"\"", "'''", "\"", "'"].find? (fitsBytes unprefixed) with
  | some quote =>
      slice? unprefixed quote.utf8ByteSize (unprefixed.utf8ByteSize - quote.utf8ByteSize)
  | none => some unprefixed

variable {unprefixed quotes marks body flags : List Char} {quote : Char} {tripled : Bool}

/-- The length of a front in bytes is a valid position of the whole text. -/
theorem isValid_utf8Len (front behind : List Char)
    : String.Pos.Raw.IsValid (String.ofList (front ++ behind)) ⟨utf8Len front⟩ := by
  refine String.Pos.Raw.isValid_iff_exists_append.mpr
    ⟨String.ofList front, String.ofList behind, ?_, ?_⟩
  · rw [String.ofList_append]
  · rw [String.rawEndPos_ofList]

/-- A text can be cut where a part of it starts and where it ends. -/
theorem slice?_append (front middle behind : List Char)
    : slice? (String.ofList (front ++ middle ++ behind)) (utf8Len front)
        (utf8Len front + utf8Len middle)
      = some (String.ofList middle) := by
  have starts := isValid_utf8Len front (middle ++ behind)
  have ends := isValid_utf8Len (front ++ middle) behind
  rw [← List.append_assoc] at starts
  rw [String.utf8Len_append] at ends
  rw [slice?, if_pos ⟨Nat.le_add_right _ _, starts, ends⟩, String.extract_of_valid]

/-- A text has at least as many bytes as characters, by induction over it. -/
theorem length_le_utf8Len (text : List Char) : text.length ≤ utf8Len text := by
  induction text with
  | nil => rfl
  | cons c rest ih =>
      have positive := c.utf8Size_pos
      rw [List.length_cons, String.utf8Len_cons]
      omega

/-- ASCII takes one byte for each character. -/
theorem utf8Len_of_ascii {text : List Char} (ascii : ∀ c ∈ text, c.utf8Size = 1)
    : utf8Len text = text.length := by
  induction text with
  | nil => rfl
  | cons c rest ih =>
      obtain ⟨first, later⟩ := List.forall_mem_cons.mp ascii
      rw [List.length_cons, String.utf8Len_cons, ih later, first]

-----------------------------------------------------------------------------------------
-- Quotes measured in bytes
-----------------------------------------------------------------------------------------

/-- Quotes that fit both ends have a body between them. -/
theorem fits_eq_true_iff
    : fits unprefixed quotes = true ↔ ∃ body, unprefixed = quotes ++ (body ++ quotes) := by
  constructor
  · intro isFit
    simp only [fits, Bool.and_eq_true, decide_eq_true_eq, List.isPrefixOf_iff_prefix,
      List.isSuffixOf_iff_suffix] at isFit
    obtain ⟨⟨long, rest, rfl⟩, ends⟩ := isFit
    have room : quotes.length ≤ rest.length := by
      rw [List.length_append] at long
      omega
    obtain ⟨body, rfl⟩ :=
      List.suffix_of_suffix_length_le ends (List.suffix_append quotes rest) room
    exact ⟨body, rfl⟩
  · rintro ⟨body, rfl⟩
    exact fits_marks quotes body

/-- Quotes that share a character at both ends leave room for nothing else, so that the text is as
long in bytes as it is in characters.
-/
theorem utf8Len_of_overlap (ascii : ∀ c ∈ quotes, c.utf8Size = 1) (starts : quotes <+: unprefixed)
    (ends : quotes <:+ unprefixed) (short : unprefixed.length < 2 * quotes.length)
    : utf8Len unprefixed = unprefixed.length := by
  obtain ⟨rest, rfl⟩ := starts
  have within : rest <:+ quotes := by
    refine List.suffix_of_suffix_length_le (List.suffix_append quotes rest) ends ?_
    rw [List.length_append] at short
    omega
  refine utf8Len_of_ascii fun c member => ?_
  rcases List.mem_append.mp member with first | second
  · exact ascii c first
  · exact ascii c (within.subset second)

/-- Quotes fit by their lengths in bytes if they fit by those in characters. -/
theorem fitsBytes_eq (ascii : ∀ c ∈ quotes, c.utf8Size = 1) (unprefixed : List Char)
    : fitsBytes (String.ofList unprefixed) (String.ofList quotes) = fits unprefixed quotes := by
  have size := utf8Len_of_ascii ascii
  have longer := length_le_utf8Len unprefixed
  rw [Bool.eq_iff_iff]
  simp only [fitsBytes, fits, Bool.and_eq_true, decide_eq_true_eq, List.isPrefixOf_iff_prefix,
    List.isSuffixOf_iff_suffix, String.utf8ByteSize_ofList, String.toList_ofList, size]
  constructor
  · rintro ⟨⟨room, starts⟩, ends⟩
    refine ⟨⟨?_, starts⟩, ends⟩
    by_contra short
    rw [utf8Len_of_overlap ascii starts ends (Nat.lt_of_not_le short)] at room
    exact short room
  · rintro ⟨⟨room, starts⟩, ends⟩
    exact ⟨⟨room.trans longer, starts⟩, ends⟩

/-- The style that fits is the same in bytes as in characters. -/
theorem find?_fitsBytes (unprefixed : List Char)
    : ["\"\"\"", "'''", "\"", "'"].find? (fitsBytes (String.ofList unprefixed))
      = (["\"\"\"".toList, "'''".toList, "\"".toList, "'".toList].find? (fits unprefixed)).map
          String.ofList := by
  have styles : ["\"\"\"", "'''", "\"", "'"]
      = ["\"\"\"".toList, "'''".toList, "\"".toList, "'".toList].map String.ofList := by
    simp
  have ascii : ∀ quotes ∈ ["\"\"\"".toList, "'''".toList, "\"".toList, "'".toList],
      (quotes.all fun c => decide (c.utf8Size = 1)) = true :=
    forall_mem_of_all (by decide)
  rw [styles, List.find?_map, ← List.head?_filter, ← List.head?_filter]
  congr 2
  exact List.filter_congr fun quotes member =>
    fitsBytes_eq (forall_mem_of_all (ascii quotes member)) unprefixed

/-- The body of a text is cut out between two characters. -/
theorem sliceBody?_eq (text : String)
    : sliceBody? text = some (String.ofList (literalBody text.toList)) := by
  unfold sliceBody?
  dsimp only
  rw [find?_fitsBytes]
  rcases found : ["\"\"\"".toList, "'''".toList, "\"".toList, "'".toList].find?
      (fits (text.toList.dropWhile isAsciiLetter)) with _ | quotes
  · unfold fits at found
    simp only [literalBody, found, Option.map_none]
  · obtain ⟨body, spelled⟩ := fits_eq_true_iff.mp (List.find?_some found)
    rw [spelled] at found
    have cut : utf8Len (quotes ++ (body ++ quotes)) - utf8Len quotes
        = utf8Len quotes + utf8Len body := by
      rw [String.utf8Len_append, String.utf8Len_append]
      omega
    have sliced := slice?_append quotes body quotes
    rw [List.append_assoc] at sliced
    rw [literalBody_of_fits spelled found, spelled]
    simp only [Option.map_some, String.utf8ByteSize_ofList, cut, sliced]

-----------------------------------------------------------------------------------------
-- Bodies of literals
-----------------------------------------------------------------------------------------

/-- The body of any text is cut out between two of its characters. The body of a literal is found
behind letters and quotes of one of the four styles whatever it holds, if it does not hold the
quotes themselves without a backslash in front of them.
-/
theorem literalBody_recovers
    : (∀ text : String, sliceBody? text = some (String.ofList (literalBody text.toList)))
      ∧ ∀ (flags body : List Char) (quote : Char) (tripled : Bool),
          (∀ c ∈ flags, isAsciiLetter c = true)
          → quote ∈ ['"', '\'']
          → holdsUnescaped (quoteMarks quote tripled) body = false
          → literalBody (flags ++ (quoteMarks quote tripled ++ (body ++ quoteMarks quote tripled)))
            = body := by
  refine ⟨sliceBody?_eq, ?_⟩
  intro flags body quote tripled letters isQuote isFree
  refine literalBody_quoted letters isQuote ?_
  intro single
  rw [single] at isFree
  exact notMem_head?_of_holdsUnescaped isQuote isFree

/-- Literals whose bodies start or end with quotes, hold those of other styles, or are empty. -/
theorem literalBody_of_awkward
    : literalBody "rB\"'''x''' \\\"\"".toList = "'''x''' \\\"".toList
      ∧ literalBody "''''it''s\"\\n'''".toList = "'it''s\"\\n".toList
      ∧ literalBody "u\"\"".toList = []
      ∧ sliceBody? "fé'" = some "é'"
      ∧ sliceBody? "\"\"\"é\"\"\"" = some "é" := by
  obtain ⟨cuts, found⟩ := literalBody_recovers
  refine ⟨?_, ?_, ?_, ?_, ?_⟩
  · exact found "rB".toList "'''x''' \\\"".toList '"' false (forall_mem_of_all (by decide))
      (by decide) (by decide)
  · exact found [] "'it''s\"\\n".toList '\'' true (by simp) (by decide) (by decide)
  · exact found "u".toList [] '"' false (forall_mem_of_all (by decide)) (by decide) (by decide)
  · rw [cuts]
    decide
  · rw [cuts]
    decide

end DocSurvey.Python
