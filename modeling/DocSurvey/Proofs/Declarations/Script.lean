import DocSurvey.Declarations.Language
import DocSurvey.Proofs.Declarations.Matches
import DocSurvey.Proofs.Text.Characters

/-! The functions and the comments counted in JavaScript and TypeScript. Each pattern takes as many
places as any choice of places that do not overlap. A form of functions leaves no choice of where a
match ends, and one character that ends its first part stands nowhere else in a match. A comment
ends as early as it can.
-/

namespace DocSurvey

open DocSurvey.Text

/-- The part stands for no text that holds the character. -/
def PatternStep.Avoids (mark : Char) : PatternStep → Prop
  | .exactly characters => mark ∉ characters
  | .run _ isMember => isMember mark = false
  | .upTo _ => False

instance (mark : Char) : (step : PatternStep) → Decidable (step.Avoids mark)
  | .exactly characters => inferInstanceAs (Decidable (mark ∉ characters))
  | .run _ isMember => inferInstanceAs (Decidable (isMember mark = false))
  | .upTo _ => .isFalse id

/-- A step that avoids a mark admits no text with the mark in it. -/
theorem PatternStep.Avoids.notMem {mark : Char} {step : PatternStep} {text : List Char}
    (avoids : step.Avoids mark) (admits : step.Admits text)
    : mark ∉ text := by
  cases step with
  | exactly characters =>
      obtain rfl : text = characters := admits
      exact avoids
  | run least isMember =>
      intro member
      have outside : isMember mark = false := avoids
      rw [admits.2 mark member] at outside
      contradiction
  | upTo characters => exact avoids.elim

namespace Pattern

-----------------------------------------------------------------------------------------
-- Patterns that leave no choice
-----------------------------------------------------------------------------------------

/-- A text that matches the pattern may start with the character. -/
def Opens (c : Char) : Pattern → Prop
  | [] => False
  | .exactly characters :: _ => characters.head? = some c
  | .run least isMember :: rest => isMember c = true ∨ least = 0 ∧ Opens c rest
  | .upTo _ :: _ => True

/-- Each part ends where it must: what repeats is followed by something, and shares no character
with what follows.
-/
def IsSharp : Pattern → Prop
  | [] => True
  | .exactly characters :: rest => characters ≠ [] ∧ IsSharp rest
  | .run _ isMember :: rest =>
      rest ≠ [] ∧ (∀ c, isMember c = true → ¬ Opens c rest) ∧ IsSharp rest
  | .upTo _ :: _ => False

variable {pattern : Pattern} {text : List Char} {mark : Char}

theorem IsSharp.of_cons {step : PatternStep} {rest : Pattern} (sharp : IsSharp (step :: rest))
    : IsSharp rest := by
  cases step with
  | exactly characters => exact sharp.2
  | run least isMember => exact sharp.2.2
  | upTo characters => exact sharp.elim

theorem IsSharp.of_append {front back : Pattern} (sharp : IsSharp (front ++ back))
    : IsSharp back := by
  induction front with
  | nil => exact sharp
  | cons step rest ih => exact ih sharp.of_cons

/-- By induction over the parts: a part that stands for no text is followed by one that does not. -/
theorem IsSharp.ne_nil (sharp : IsSharp pattern) (filled : pattern ≠ [])
    (isMatch : Matches pattern text)
    : text ≠ [] := by
  induction pattern generalizing text with
  | nil => exact absurd rfl filled
  | cons step rest ih =>
      obtain ⟨first, others, rfl, admits, inner⟩ := isMatch
      intro empty
      obtain ⟨rfl, rfl⟩ := List.append_eq_nil_iff.mp empty
      cases step with
      | exactly characters => exact sharp.1 admits.symm
      | run least isMember => exact ih sharp.of_cons sharp.1 inner rfl
      | upTo characters => exact sharp.elim

/-- A match of a sharp pattern starts with a character that opens it. -/
theorem IsSharp.opens {c : Char} (sharp : IsSharp pattern) (isMatch : Matches pattern (c :: text))
    : Opens c pattern := by
  induction pattern generalizing text with
  | nil => simp [Matches] at isMatch
  | cons step rest ih =>
      obtain ⟨first, others, whole, admits, inner⟩ := isMatch
      cases step with
      | exactly characters =>
          obtain rfl : first = characters := admits
          cases first with
          | nil => exact absurd rfl sharp.1
          | cons d first =>
              obtain ⟨rfl, -⟩ := List.cons_eq_cons.mp whole
              rfl
      | run least isMember =>
          cases first with
          | nil =>
              obtain rfl : c :: text = others := whole
              exact .inr ⟨Nat.le_zero.mp admits.1, ih sharp.of_cons inner⟩
          | cons d first =>
              obtain ⟨rfl, -⟩ := List.cons_eq_cons.mp whole
              exact .inl (admits.2 c List.mem_cons_self)
      | upTo characters => exact sharp.elim

/-- A match is taken whole whatever follows it, by induction over the parts. -/
theorem IsSharp.length?_append (sharp : IsSharp pattern) (isMatch : Matches pattern text)
    (more : List Char)
    : length? pattern (text ++ more) = some text.length := by
  induction pattern generalizing text with
  | nil =>
      obtain rfl : text = [] := isMatch
      rfl
  | cons step rest ih =>
      obtain ⟨first, others, rfl, admits, inner⟩ := isMatch
      have isFirst : step.length? (first ++ others ++ more) = some first.length := by
        cases step with
        | exactly characters =>
            obtain rfl : first = characters := admits
            simp [PatternStep.length?, List.append_assoc]
        | run least isMember =>
            obtain ⟨c, others, rfl⟩ := List.exists_cons_of_ne_nil
              (sharp.of_cons.ne_nil sharp.1 inner)
            have stops : isMember c ≠ true := fun member =>
              sharp.2.1 c member (sharp.of_cons.opens inner)
            have taken : (first ++ c :: others ++ more).takeWhile isMember = first := by
              rw [List.append_assoc, List.takeWhile_append_of_pos admits.2, List.cons_append,
                List.takeWhile_cons_of_neg stops, List.append_nil]
            simp only [PatternStep.length?, taken, if_pos admits.1]
        | upTo characters => exact sharp.elim
      have areOthers := ih sharp.of_cons inner
      rw [List.append_assoc] at isFirst
      simp [length?, isFirst, areOthers]

-----------------------------------------------------------------------------------------
-- Patterns with a mark
-----------------------------------------------------------------------------------------

/-- Steps that avoid a mark match no text with the mark in it, by induction over them. -/
theorem notMem_of_matches (avoids : ∀ step ∈ pattern, step.Avoids mark)
    (isMatch : Matches pattern text)
    : mark ∉ text := by
  induction pattern generalizing text with
  | nil =>
      obtain rfl : text = [] := isMatch
      exact List.not_mem_nil
  | cons step rest ih =>
      obtain ⟨first, others, rfl, admits, inner⟩ := isMatch
      obtain ⟨avoidsFirst, avoidsRest⟩ := List.forall_mem_cons.mp avoids
      exact fun member => (List.mem_append.mp member).elim (avoidsFirst.notMem admits)
        (ih avoidsRest inner)

/-- The character that the pattern asks for between two parts stands there, and nowhere else in the
match if the parts avoid it.
-/
theorem exists_of_matches_mark {front back : Pattern}
    (isMatch : Matches (front ++ .exactly [mark] :: back) text)
    : ∃ before behind, text = before ++ mark :: behind
        ∧ Matches front before ∧ Matches back behind := by
  obtain ⟨before, others, rfl, ahead, _, behind, rfl, rfl, rest⟩ := matches_append.mp isMatch
  exact ⟨before, behind, rfl, ahead, rest⟩

/-- The mark tells where the first part of a match ends. A match that starts later and ends sooner
holds the same mark, and from there on both go the same way.
-/
theorem findsFirst_of_mark (front : Pattern) (mark : Char) (back : Pattern)
    (sharp : IsSharp (front ++ .exactly [mark] :: back))
    (avoidsFront : ∀ step ∈ front, step.Avoids mark)
    (avoidsBack : ∀ step ∈ back, step.Avoids mark)
    : FindsFirst (front ++ .exactly [mark] :: back)
        (Matches (front ++ .exactly [mark] :: back)) where
  filled := fun isMatch => sharp.ne_nil (by simp) isMatch rfl
  sound := matches_of_length?
  complete := by
    intro text stretch holds
    rw [← Stretch.of_append_drop holds.ordered]
    exact ⟨_, sharp.length?_append holds.covers _⟩
  first := by
    intro text length stretch found holds
    by_contra later
    obtain ⟨short, isMatch⟩ := matches_of_length? found
    obtain ⟨before, behind, whole, ahead, rest⟩ := exists_of_matches_mark isMatch
    obtain ⟨before', behind', covered, -, rest'⟩ := exists_of_matches_mark holds.covers
    obtain ⟨more, isMore⟩ : ∃ more, (text.take length).drop stretch.stop = more := ⟨_, rfl⟩
    have inner := Stretch.take_append_of_append text holds.ordered (Nat.le_of_not_le later)
    rw [isMore, whole, covered, List.append_assoc, List.cons_append, ← List.append_assoc] at inner
    obtain ⟨-, -, same⟩ := (List.append_cons_inj_of_notMem (notMem_of_matches avoidsFront ahead)
      (notMem_of_matches avoidsBack rest)).mp inner.symm
    have sharpBack : IsSharp back := sharp.of_append.of_cons
    have taken := sharpBack.length?_append rest []
    rw [List.append_nil, same, sharpBack.length?_append rest', Option.some.injEq,
      List.length_append, ← isMore, List.length_drop, List.length_take] at taken
    omega

end Pattern

-----------------------------------------------------------------------------------------
-- The forms of functions
-----------------------------------------------------------------------------------------

/-- White space is no part of a word. There are few characters of white space, and each is tried. -/
theorem isWordChar_of_isWhiteSpace {c : Char} (blank : isWhiteSpace c = true)
    : isWordChar c = false := by
  have few : ∀ code ∈ List.range' 0x09 5 ++ List.range' 0x2000 11
      ++ [0x20, 0x85, 0xA0, 0x1680, 0x2028, 0x2029, 0x202F, 0x205F, 0x3000],
      isWordChar (Char.ofNat code) = false := by
    decide +kernel
  have among := few c.toNat (by
    simp only [isWhiteSpace, covers, List.any_cons, List.any_nil, Bool.or_false, Bool.or_eq_true,
      Bool.and_eq_true, decide_eq_true_eq] at blank
    simp only [List.mem_append, List.mem_range'_1, List.mem_cons, List.not_mem_nil, or_false]
    omega)
  rwa [Char.ofNat_toNat] at among

/-- A character of a word is no blank. -/
theorem isWhiteSpace_of_isWordChar {c : Char} (isWord : isWordChar c = true)
    : isWhiteSpace c = false := by
  by_contra blank
  rw [isWordChar_of_isWhiteSpace (by simpa using blank)] at isWord
  contradiction

namespace Script

open Pattern

/-- In a form of functions, a word is followed by white space or a sign, white space by a word or a
sign, and the parameters in brackets by the closing bracket.
-/
theorem isSharp_of_mem_functionForms {form : Pattern} (member : form ∈ functionForms)
    : form.IsSharp := by
  have signFromBlank : ∀ sign ∈ ['(', '=', ':', 'f'],
      ∀ c, isWhiteSpace c = true → ¬ sign = c := by
    rintro sign among c blank rfl
    have other : ∀ sign ∈ ['(', '=', ':', 'f'], isWhiteSpace sign = false :=
      forall_mem_of_all (by decide)
    simp [other sign among] at blank
  have signFromWord : ∀ sign ∈ ['(', '=', ':'],
      ∀ c, isWordChar c = true → ¬ sign = c := by
    rintro sign among c isWord rfl
    have other : ∀ sign ∈ ['(', '=', ':'], isWordChar sign = false :=
      forall_mem_of_all (by decide)
    simp [other sign among] at isWord
  simp only [List.forall_mem_cons] at signFromBlank signFromWord
  revert form
  simp +contextual [functionForms, IsSharp, Opens, text, word, blanks, someBlanks,
    isWordChar_of_isWhiteSpace, isWhiteSpace_of_isWordChar, signFromBlank, signFromWord]
  exact fun c other => Ne.symm other

/-- Each form of a function finds the first of its matches. -/
theorem functionForm_findsFirst {form : Pattern} (member : form ∈ functionForms)
    : form.FindsFirst form.Matches := by
  have sharp := isSharp_of_mem_functionForms member
  simp only [functionForms, List.mem_cons, List.not_mem_nil, or_false] at member
  rcases member with rfl | rfl | rfl | rfl | rfl
  · exact findsFirst_of_mark [text "function", someBlanks, word, blanks] '(' [] sharp
      (by decide) (by decide)
  · exact findsFirst_of_mark [text "const", someBlanks, word, blanks, text "=", blanks] '(' [] sharp
      (by decide) (by decide)
  · exact findsFirst_of_mark
      [text "export", someBlanks, text "function", someBlanks, word, blanks] '(' [] sharp
      (by decide) (by decide)
  · exact findsFirst_of_mark [word, blanks, text ":", blanks, text "function", blanks] '(' [] sharp
      (by decide) (by decide)
  · -- The parameters may hold brackets that open, but none that closes.
    exact findsFirst_of_mark [word, blanks, text ":", blanks, text "(", .run 0 (· != ')')] ')'
      [blanks, text "=>"] sharp (by decide) (by decide)

-----------------------------------------------------------------------------------------
-- Comments
-----------------------------------------------------------------------------------------

/-- The text is a comment that documents something: it starts and ends as one, and the star at its
end is not one of those at its start.
-/
def IsDocumentation (text : List Char) : Prop :=
  "/**".toList <+: text ∧ "*/".toList <:+ text ∧ 5 ≤ text.length

/-- A documentation comment reaches from its opening to the first closing behind that. -/
theorem length?_documentation (source : List Char)
    : documentation.length? source
        = if "/**".toList <+: source then
            (lengthUpTo "*/".toList (source.drop 3)).map (3 + ·)
          else none := by
  simp only [documentation, Pattern.length?, PatternStep.length?, text, List.isPrefixOf_iff_prefix]
  by_cases starts : "/**".toList <+: source
  · rw [if_pos starts, if_pos starts]
    change (lengthUpTo "*/".toList (source.drop 3) >>= fun others => _) >>= _ = _
    cases lengthUpTo "*/".toList (source.drop 3) with
    | none => rfl
    | some others => rfl
  · rw [if_neg starts, if_neg starts]
    rfl

/-- The end of a comment is found behind the three characters of its start. -/
theorem exists_length?_documentation {source : List Char} {stop : Nat}
    (isMatch : IsDocumentation (source.take stop))
    : ∃ length ≤ stop, documentation.length? source = some length := by
  obtain ⟨starts, ends, long⟩ := isMatch
  have behind : "*/".toList <:+ (source.drop 3).take (stop - 3) := by
    rw [← List.drop_take]
    refine List.suffix_of_suffix_length_le ends (List.drop_suffix _ _) ?_
    rw [List.length_drop]
    exact Nat.le_sub_of_add_le long
  obtain ⟨others, short, found⟩ := lengthUpTo_of_suffix behind
  rw [List.length_take] at long
  refine ⟨3 + others, by omega, ?_⟩
  rw [length?_documentation, if_pos (starts.trans (List.take_prefix _ _)), found]
  rfl

/-- The pattern for comments finds the first of them. -/
theorem documentation_findsFirst : documentation.FindsFirst IsDocumentation where
  filled := by simp [IsDocumentation]
  sound := by
    intro source length found
    rw [length?_documentation] at found
    split at found
    · rename_i starts
      obtain ⟨others, isFound, rfl⟩ := Option.map_eq_some_iff.mp found
      obtain ⟨short, ends⟩ := suffix_of_lengthUpTo isFound
      have two : 2 ≤ others := ends.length_le.trans (List.length_take_le _ _)
      have three : 3 ≤ source.length := starts.length_le
      rw [List.length_drop] at short
      refine ⟨by omega, ?_, ?_, ?_⟩
      · rw [List.prefix_take_iff]
        exact ⟨starts, Nat.le_add_right 3 others⟩
      · rw [List.take_add]
        exact ends.trans (List.suffix_append _ _)
      · rw [List.length_take]
        omega
    · contradiction
  complete := by
    intro source stretch holds
    have covers := holds.covers
    rw [Stretch.of, List.drop_take] at covers
    obtain ⟨length, -, found⟩ := exists_length?_documentation covers
    exact ⟨length, found⟩
  first := by
    intro source length stretch found holds
    obtain ⟨-, ends, long⟩ := holds.covers
    -- A comment at the start of the source may end where the other one ends.
    have starts : "/**".toList <+: source := by
      by_contra other
      rw [length?_documentation, if_neg other] at found
      contradiction
    have covered : (stretch.of source).length ≤ (source.take stretch.stop).length :=
      (List.drop_suffix _ _).length_le
    have long' : 5 ≤ (source.take stretch.stop).length := long.trans covered
    have isMatch : IsDocumentation (source.take stretch.stop) := by
      refine ⟨List.prefix_take_iff.mpr ⟨starts, ?_⟩, ends.trans (List.drop_suffix _ _), long'⟩
      exact (show 3 ≤ 5 by decide).trans (long'.trans (List.length_take_le _ _))
    obtain ⟨other, short, isFound⟩ := exists_length?_documentation isMatch
    rw [found, Option.some.injEq] at isFound
    exact isFound ▸ short

-----------------------------------------------------------------------------------------
-- What is counted
-----------------------------------------------------------------------------------------

theorem total_eq_foldr (numbers : List Nat) : Number.total numbers = numbers.foldr (· + ·) 0 := by
  induction numbers with
  | nil => rfl
  | cons n rest ih => rw [Number.total, ih, List.foldr_cons]

end Script

end DocSurvey
