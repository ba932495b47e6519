import DocSurvey.Proofs.Declarations.Script
import DocSurvey.Proofs.Text.Collapse

/-! How a JavaScript or TypeScript file is formatted makes no difference to what is counted in it. A
part of a pattern takes a whole run of white space or none of it, so that it finds the same in the
collapsed text, and the count goes on from the same place.
-/

namespace DocSurvey

open DocSurvey.Text

/-- What is looked for at the start of a text is found in the collapsed text too and ends at the
same place there. No run of white space goes on behind it.
-/
structure FindsAlike (find : List Char → Option Nat) (text : List Char) : Prop where
  collapsed : find (collapse text)
    = (find text).map fun length => (collapse (text.take length)).length
  isCut : ∀ length ∈ find text, IsCut (text.take length) (text.drop length)

/-- What is left behind a match is collapsed by itself. -/
theorem FindsAlike.drop_collapse {find : List Char → Option Nat} {text : List Char}
    (alike : FindsAlike find text) {length : Nat} (found : length ∈ find text)
    : (collapse text).drop (collapse (text.take length)).length = collapse (text.drop length) := by
  have whole := collapse_append (alike.isCut length found)
  rw [List.take_append_drop] at whole
  rw [whole, List.drop_left]

-----------------------------------------------------------------------------------------
-- Parts of patterns
-----------------------------------------------------------------------------------------

section UpTo

variable {characters text rest : List Char} {c : Char}

/-- Characters at the very start are found there. -/
theorem lengthUpTo_of_isPrefix (filled : characters ≠ []) (starts : characters <+: text)
    : lengthUpTo characters text = some characters.length := by
  cases text with
  | nil => exact absurd (List.prefix_nil.mp starts) filled
  | cons c rest => rw [lengthUpTo, if_pos (List.isPrefixOf_iff_prefix.mpr starts)]

/-- Characters that do not start here are looked for one character on. -/
theorem lengthUpTo_cons (elsewhere : ¬ characters <+: c :: rest)
    : lengthUpTo characters (c :: rest) = (lengthUpTo characters rest).map (· + 1) := by
  rw [lengthUpTo, if_neg (mt List.isPrefixOf_iff_prefix.mp elsewhere)]

/-- A part of a text starts with a blank if the text does. -/
theorem startsBlank_take {length : Nat} (filled : text.take length ≠ [])
    : startsBlank (text.take length) = startsBlank text := by
  cases length with
  | zero => exact absurd rfl filled
  | succ length => cases text <;> rfl

/-- The first end of the characters is found wherever it stands, by induction over the text: white
space in front of it counts once for each run.
-/
theorem findsAlike_lengthUpTo (filled : characters ≠ [])
    (visible : ∀ c ∈ characters, isWhiteSpace c = false) (text : List Char)
    : FindsAlike (lengthUpTo characters) text := by
  induction text with
  | nil => constructor <;> simp [lengthUpTo, filled]
  | cons c rest ih =>
      by_cases here : characters <+: c :: rest
      · have found := lengthUpTo_of_isPrefix filled here
        have taken := List.prefix_iff_eq_take.mp here
        have foundToo := lengthUpTo_of_isPrefix filled ((prefix_collapse_iff visible).mpr here)
        constructor
        · rw [found, foundToo, Option.map_some, ← taken, collapse_of_visible visible]
        · rw [found]
          rintro _ ⟨⟩
          rw [← taken]
          exact isCut_of_visible visible _
      · have found := lengthUpTo_cons here
        have nothing : ¬ characters <+: collapse (c :: rest) :=
          mt (prefix_collapse_iff visible).mp here
        have inside : ∀ length ∈ lengthUpTo characters rest, rest.take length ≠ [] := by
          intro length isFound empty
          have ends := (suffix_of_lengthUpTo isFound).2
          rw [empty] at ends
          exact filled (List.suffix_nil.mp ends)
        constructor
        · rw [found, Option.map_map]
          cases blank : isWhiteSpace c with
          | false =>
              rw [collapse_cons_visible blank] at nothing ⊢
              rw [lengthUpTo_cons nothing, ih.collapsed, Option.map_map]
              refine congrArg (Option.map · _) (funext fun length => ?_)
              simp [collapse_cons_visible blank]
          | true =>
              rw [collapse_cons_blank blank] at nothing ⊢
              split at nothing
              · rename_i goesOn
                rw [if_pos goesOn, ih.collapsed]
                refine Option.map_congr fun length isFound => ?_
                have same := startsBlank_take (inside length isFound)
                simp [collapse_cons_blank blank, same, goesOn]
              · rename_i stops
                rw [if_neg stops, lengthUpTo_cons nothing, ih.collapsed, Option.map_map]
                refine Option.map_congr fun length isFound => ?_
                have same := startsBlank_take (inside length isFound)
                simp [collapse_cons_blank blank, same, stops]
        · rw [found]
          intro _ isFound
          obtain ⟨length, before, rfl⟩ := Option.map_eq_some_iff.mp isFound
          exact (ih.isCut length before).cons (.inl (inside length before))

end UpTo

/-- How much white space there is makes no difference to the part, as long as there is some or none.
-/
def PatternStep.IsLoose : PatternStep → Prop
  | .exactly characters => ∀ c ∈ characters, isWhiteSpace c = false
  | .run least isMember =>
      least ≤ 1 ∧ ∀ c, isWhiteSpace c = true → isMember c = isMember ' '
  | .upTo characters => characters ≠ [] ∧ ∀ c ∈ characters, isWhiteSpace c = false

section Run

variable {isMember : Char → Bool} {first rest : List Char}

/-- All members are taken up to the first other character. -/
theorem takeWhile_append_of_stops (members : ∀ c ∈ first, isMember c = true)
    (stops : ∀ c ∈ rest.head?, isMember c = false)
    : (first ++ rest).takeWhile isMember = first := by
  rw [List.takeWhile_append_of_pos members]
  cases rest with
  | nil => simp
  | cons d rest => simp [stops d rfl]

/-- Collapsing keeps to a class that treats all blanks alike. -/
theorem forall_mem_collapse (level : ∀ c, isWhiteSpace c = true → isMember c = isMember ' ')
    (members : ∀ c ∈ first, isMember c = true)
    : ∀ c ∈ collapse first, isMember c = true := by
  intro c member
  rcases of_mem_collapse member with kept | ⟨rfl, d, inside, blank⟩
  · exact members c kept
  · rw [← level d blank, members d inside]

/-- Collapsing does not change what stops a class that treats all blanks alike. -/
theorem forall_head?_collapse (level : ∀ c, isWhiteSpace c = true → isMember c = isMember ' ')
    (stops : ∀ c ∈ rest.head?, isMember c = false)
    : ∀ c ∈ (collapse rest).head?, isMember c = false := by
  intro c isHead
  rw [head?_collapse] at isHead
  obtain ⟨d, isFirst, rfl⟩ := Option.map_eq_some_iff.mp isHead
  split
  · rename_i blank
    rw [← level d blank, stops d isFirst]
  · exact stops d isFirst

/-- Members end where a run of white space does, since all white space is among them or none. -/
theorem isCut_of_stops (level : ∀ c, isWhiteSpace c = true → isMember c = isMember ' ')
    (members : ∀ c ∈ first, isMember c = true) (stops : ∀ c ∈ rest.head?, isMember c = false)
    : IsCut first rest := by
  rintro ⟨ends, starts⟩
  obtain ⟨c, isLast, blank⟩ := (Option.any_eq_true _ _).mp ends
  obtain ⟨d, isHead, next⟩ := (Option.any_eq_true _ _).mp starts
  have same := (level c blank).trans (level d next).symm
  rw [members c (List.mem_of_getLast? isLast), stops d isHead] at same
  contradiction

/-- A run of characters finds alike if its class treats all blanks alike. -/
theorem findsAlike_run {least : Nat} (loose : (PatternStep.run least isMember).IsLoose)
    (text : List Char)
    : FindsAlike (fun text => (PatternStep.run least isMember).length? text) text := by
  obtain ⟨few, level⟩ := loose
  have whole := List.takeWhile_append_dropWhile (p := isMember) (l := text)
  have members : ∀ c ∈ text.takeWhile isMember, isMember c = true := fun _ member =>
    List.mem_takeWhile_imp member
  have stops : ∀ c ∈ (text.dropWhile isMember).head?, isMember c = false := by
    intro c isHead
    have outside := List.head?_dropWhile_not isMember text
    rwa [isHead] at outside
  generalize text.takeWhile isMember = first at *
  generalize text.dropWhile isMember = rest at *
  subst whole
  have cut := isCut_of_stops level members stops
  have taken := takeWhile_append_of_stops members stops
  have takenToo := takeWhile_append_of_stops (forall_mem_collapse level members)
    (forall_head?_collapse level stops)
  have enough : least ≤ (collapse first).length ↔ least ≤ first.length := by
    have empty : collapse first = [] ↔ first = [] := collapse_eq_nil_iff
    rw [← List.length_eq_zero_iff, ← List.length_eq_zero_iff] at empty
    omega
  constructor
  · simp only [PatternStep.length?, collapse_append cut, taken, takenToo, enough]
    split <;> simp
  · simp only [PatternStep.length?, taken, Option.mem_def, Option.ite_none_right_eq_some,
      Option.some.injEq]
    rintro _ ⟨-, rfl⟩
    rwa [List.take_left, List.drop_left]

end Run

/-- A step that does not tell blanks apart finds alike in the collapsed text. -/
theorem PatternStep.IsLoose.findsAlike {step : PatternStep} (loose : step.IsLoose)
    (text : List Char)
    : FindsAlike (fun text => step.length? text) text := by
  cases step with
  | exactly characters =>
      have starts : characters.isPrefixOf (collapse text) = characters.isPrefixOf text := by
        rw [Bool.eq_iff_iff, List.isPrefixOf_iff_prefix, List.isPrefixOf_iff_prefix,
          prefix_collapse_iff loose]
      by_cases here : characters <+: text
      · have taken := List.prefix_iff_eq_take.mp here
        constructor
        · simp [length?, starts, here, ← taken, collapse_of_visible loose]
        · simp only [length?, List.isPrefixOf_iff_prefix, here, if_true]
          rintro _ ⟨⟩
          rw [← taken]
          exact isCut_of_visible loose _
      · constructor <;> simp [length?, starts, here]
  | run least isMember => exact findsAlike_run loose text
  | upTo characters => exact findsAlike_lengthUpTo loose.1 loose.2 text

namespace Pattern

variable {pattern : Pattern}

/-- A pattern of such steps finds alike in the collapsed text, by induction over the steps. -/
theorem findsAlike (loose : ∀ step ∈ pattern, step.IsLoose) (text : List Char)
    : FindsAlike (length? pattern) text := by
  induction pattern generalizing text with
  | nil =>
      constructor
      · rfl
      · rintro _ ⟨⟩
        exact isCut_of_visible (by simp) _
  | cons step rest ih =>
      obtain ⟨looseStep, looseRest⟩ := List.forall_mem_cons.mp loose
      have here := looseStep.findsAlike text
      cases found : step.length? text with
      | none =>
          have nothing := here.collapsed
          rw [found] at nothing
          constructor <;> simp_all [length?]
      | some first =>
          have there := ih looseRest (text.drop first)
          have onward := here.drop_collapse found
          have foundToo := here.collapsed
          have cut := here.isCut first found
          simp only [found, Option.map_some] at foundToo
          constructor
          · simp only [length?, found, foundToo, Option.bind_eq_bind, Option.bind_some, onward,
              there.collapsed]
            cases behind : length? rest (text.drop first) with
            | none => rfl
            | some others => simp [List.take_add, collapse_append (cut.take others)]
          · intro length isLength
            simp only [length?, found, Option.bind_eq_bind, Option.bind_some, Option.mem_def,
              Option.bind_eq_some_iff] at isLength
            obtain ⟨others, behind, ⟨⟩⟩ := isLength
            rw [List.take_add, ← List.drop_drop]
            refine IsCut.append ?_ (there.isCut others behind)
            rwa [List.take_append_drop]

-----------------------------------------------------------------------------------------
-- Counts
-----------------------------------------------------------------------------------------

theorem countFrom_eq_count_drop (pattern : Pattern) (taken : Nat) (text : List Char)
    : pattern.countFrom taken text = pattern.count (text.drop taken) := by
  induction text generalizing taken with
  | nil => simp [count, countFrom]
  | cons c rest ih =>
      cases taken with
      | zero => rfl
      | succ n => exact ih n

/-- The count goes on behind what is found at the start of the text, or else one character later. -/
theorem count_cons (pattern : Pattern) (c : Char) (rest : List Char)
    : pattern.count (c :: rest)
        = match length? pattern (c :: rest) with
          | some (n + 1) => 1 + pattern.count (rest.drop n)
          | _ => pattern.count rest := by
  rw [count, countFrom]
  rcases length? pattern (c :: rest) with - | - | n
  · rfl
  · rfl
  · exact congrArg (1 + ·) (countFrom_eq_count_drop pattern n rest)

/-- Where no match starts the count goes on with the next character. -/
theorem count_of_length?_eq_none {c : Char} {rest : List Char}
    (nothing : length? pattern (c :: rest) = none)
    : pattern.count (c :: rest) = pattern.count rest := by
  rw [count_cons, nothing]

/-- Collapsing a text takes no place of a pattern away and adds none, by induction over the text. No
place starts with white space, and behind a place both texts are cut.
-/
theorem count_collapse (loose : ∀ step ∈ pattern, step.IsLoose)
    (firm : ∀ c rest, isWhiteSpace c = true → length? pattern (c :: rest) = none) (text : List Char)
    : pattern.count (collapse text) = pattern.count text := by
  match text with
  | [] => rfl
  | c :: rest =>
      have onward := count_collapse loose firm rest
      cases blank : isWhiteSpace c with
      | true =>
          rw [collapse_cons_blank blank, count_of_length?_eq_none (firm c rest blank), ← onward]
          split
          · rfl
          · exact count_of_length?_eq_none (firm ' ' _ (by decide))
      | false =>
          have alike := findsAlike loose (c :: rest)
          have foundToo := alike.collapsed
          rw [collapse_cons_visible blank] at foundToo ⊢
          rw [count_cons, count_cons, foundToo]
          cases found : length? pattern (c :: rest) with
          | none => exact onward
          | some length =>
              cases length with
              | zero => exact onward
              | succ n =>
                  have behind := alike.drop_collapse found
                  simp only [List.take_succ_cons, collapse_cons_visible blank, List.length_cons,
                    List.drop_succ_cons] at behind
                  simp only [Option.map_some, List.take_succ_cons, collapse_cons_visible blank,
                    List.length_cons, behind]
                  rw [count_collapse loose firm (rest.drop n)]
termination_by text.length
decreasing_by
  · simp
  · simp only [List.length_cons, List.length_drop]
    omega

end Pattern

-----------------------------------------------------------------------------------------
-- What is counted
-----------------------------------------------------------------------------------------

namespace Script

open Pattern

theorem isLoose_text {characters : String}
    (visible : (characters.toList.all fun c => !isWhiteSpace c) = true)
    : (text characters).IsLoose := by
  simpa [text, PatternStep.IsLoose] using visible

/-- No part of a form cares for the amount of white space: words and signs hold none, and parameters
hold all of it.
-/
theorem isLoose_of_mem_functionForms
    : ∀ form ∈ functionForms, ∀ step ∈ form, step.IsLoose := by
  have visible : ∀ characters ∈ ["function", "const", "export", "(", ")", "=", ":", "=>"],
      (characters.toList.all fun c => !isWhiteSpace c) = true := forall_mem_of_all (by decide)
  have isText : ∀ characters ∈ ["function", "const", "export", "(", ")", "=", ":", "=>"],
      (text characters).IsLoose := fun characters member =>
    isLoose_text (visible characters member)
  have isWord : word.IsLoose := by
    refine ⟨Nat.le_refl 1, fun c blank => ?_⟩
    rw [isWordChar_of_isWhiteSpace blank, isWordChar_of_isWhiteSpace (by decide)]
  have isBlank {least : Nat} (few : least ≤ 1) : (PatternStep.run least isWhiteSpace).IsLoose :=
    ⟨few, fun c blank => blank⟩
  have isParameters : (PatternStep.run 0 (· != ')')).IsLoose := by
    refine ⟨Nat.zero_le 1, fun c blank => bne_iff_ne.mpr ?_⟩
    rintro rfl
    exact absurd blank (by decide)
  simp only [List.forall_mem_cons] at isText
  simp [functionForms, isText, isWord, isBlank, isParameters, blanks, someBlanks]

section Starts

variable {c : Char} (blank : isWhiteSpace c = true) (rest : List Char)

include blank

/-- A pattern whose first step is visible matches at no blank. -/
theorem length?_of_blank {step : PatternStep} {others : Pattern}
    (isFirst : step = word ∨ ∃ d characters, step = .exactly (d :: characters)
      ∧ isWhiteSpace d = false)
    : length? (step :: others) (c :: rest) = none := by
  have nothing : step.length? (c :: rest) = none := by
    rcases isFirst with rfl | ⟨d, characters, rfl, visible⟩
    · have noWord := isWordChar_of_isWhiteSpace blank
      simp [word, PatternStep.length?, noWord]
    · have differs : d ≠ c := by
        rintro rfl
        simp [visible] at blank
      simp [PatternStep.length?, differs]
  rw [length?, nothing]
  rfl

/-- A form starts with a word or a keyword. -/
theorem functionForm_of_blank {form : Pattern} (member : form ∈ functionForms)
    : form.length? (c :: rest) = none := by
  simp only [functionForms, List.mem_cons, List.not_mem_nil, or_false] at member
  rcases member with rfl | rfl | rfl | rfl | rfl
  · exact length?_of_blank blank rest (.inr ⟨'f', _, rfl, by decide⟩)
  · exact length?_of_blank blank rest (.inr ⟨'c', _, rfl, by decide⟩)
  · exact length?_of_blank blank rest (.inr ⟨'e', _, rfl, by decide⟩)
  · exact length?_of_blank blank rest (.inl rfl)
  · exact length?_of_blank blank rest (.inl rfl)

theorem documentation_of_blank : documentation.length? (c :: rest) = none :=
  length?_of_blank blank rest (.inr ⟨'/', _, rfl, by decide⟩)

end Starts

/-- No step of a documentation comment tells blanks apart. -/
theorem isLoose_of_mem_documentation : ∀ step ∈ documentation, step.IsLoose := by
  have opening : (text "/**").IsLoose := isLoose_text (by decide)
  have closing : (PatternStep.upTo "*/".toList).IsLoose :=
    ⟨by decide, forall_mem_of_all (by decide)⟩
  rw [documentation, List.forall_mem_cons, List.forall_mem_singleton]
  exact ⟨opening, closing⟩

/-- A script and its collapsed text declare the same. -/
theorem definitions_collapse (source : List Char)
    : definitions (collapse source) = definitions source := by
  have functions : functionForms.map (fun form => form.count (collapse source))
      = functionForms.map fun form => form.count source :=
    List.map_congr_left fun form member =>
      count_collapse (isLoose_of_mem_functionForms form member)
        (fun _ rest blank => functionForm_of_blank blank rest member) source
  have comments : documentation.count (collapse source) = documentation.count source :=
    count_collapse isLoose_of_mem_documentation
      (fun _ rest blank => documentation_of_blank blank rest) source
  rw [definitions, definitions, functions, comments]

/-- Two files that are the same once each of their runs of white space is one space have the same
functions and the same documenting comments.
-/
theorem counts_of_reformatted (path otherPath source other : String)
    (same : collapse source.toList = collapse other.toList)
    : ∃ counts, Language.javascript.definitions path source = .ok counts
      ∧ Language.javascript.definitions otherPath other = .ok counts := by
  refine ⟨definitions source.toList, rfl, ?_⟩
  rw [← definitions_collapse source.toList, same, definitions_collapse]
  rfl

/-- A method whose parameters are set out on lines of their own, and a comment. -/
theorem counts_of_set_out_method
    : let source := "/** Lends\t a book. */\nlend : ( book, reader ) => book"
      let other := "/** Lends a\u2003book. */\r\n\r\nlend :\t(\n  book,\n  reader\n)\n\n=> book"
      collapse source.toList = collapse other.toList
      ∧ Language.javascript.definitions "shelf.js" source = .ok ⟨1, 1, 0, 0⟩
      ∧ Language.javascript.definitions "shelf.js" other = .ok ⟨1, 1, 0, 0⟩ := by
  intro source other
  have same : collapse source.toList = collapse other.toList := by decide +kernel
  have one : Language.javascript.definitions "shelf.js" source = .ok ⟨1, 1, 0, 0⟩ := by
    decide +kernel
  obtain ⟨counts, first, second⟩ := counts_of_reformatted "shelf.js" "shelf.js" source other same
  rw [one] at first
  exact ⟨same, one, first ▸ second⟩

end Script

end DocSurvey
