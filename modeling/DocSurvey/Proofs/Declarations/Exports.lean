import DocSurvey.Proofs.Declarations.Script

/-! Functions that are exported. The form of an export holds the plain form of a function behind its
first word. A search for the plain form does not pass over it: what it finds there ends at the same
bracket, and read from there to the left, the form leaves no choice of where it starts. So each
export counts twice.
-/

namespace DocSurvey

open DocSurvey.Text

-----------------------------------------------------------------------------------------
-- Patterns read from the right
-----------------------------------------------------------------------------------------

/-- The part for a text that is read from the right. -/
def PatternStep.mirror : PatternStep → PatternStep
  | .exactly characters => .exactly characters.reverse
  | .run least isMember => .run least isMember
  | .upTo characters => .upTo characters

namespace Pattern

def mirror (pattern : Pattern) : Pattern :=
  (pattern.map PatternStep.mirror).reverse

/-- The mirror of a pattern ends in the mirror of its first step. -/
theorem mirror_cons (step : PatternStep) (rest : Pattern)
    : mirror (step :: rest) = mirror rest ++ [step.mirror] := by
  rw [mirror, List.map_cons, List.reverse_cons]
  rfl

variable {pattern : Pattern} {text : List Char}

/-- What matches a pattern matches the mirrored one from the right, by induction over the parts. -/
theorem IsSharp.matches_mirror (sharp : IsSharp pattern) (isMatch : Matches pattern text)
    : Matches pattern.mirror text.reverse := by
  induction pattern generalizing text with
  | nil =>
      obtain rfl : text = [] := isMatch
      rfl
  | cons step rest ih =>
      obtain ⟨first, others, rfl, admits, inner⟩ := isMatch
      have admitsMirror : step.mirror.Admits first.reverse := by
        cases step with
        | exactly characters => exact congrArg List.reverse admits
        | run least isMember =>
            refine ⟨admits.1.trans_eq List.length_reverse.symm, fun c member => ?_⟩
            exact admits.2 c (List.mem_reverse.mp member)
        | upTo characters => exact sharp.elim
      rw [mirror_cons, List.reverse_append]
      exact matches_append.mpr
        ⟨_, _, rfl, ih sharp.of_cons inner, _, [], by simp, admitsMirror, rfl⟩

/-- A pattern that leaves no choice from either side has no two matches that stop at one place. -/
theorem IsSharp.eq_of_stop_eq (sharp : IsSharp pattern) (sharpMirror : IsSharp pattern.mirror)
    {one other : Stretch} (holds : one.Holds pattern.Matches text)
    (otherHolds : other.Holds pattern.Matches text) (same : one.stop = other.stop)
    : one = other := by
  have taken {stretch : Stretch} (holds : stretch.Holds pattern.Matches text)
      : length? pattern.mirror (text.take stretch.stop).reverse
        = some (stretch.stop - stretch.start) := by
    have found := sharpMirror.length?_append (sharp.matches_mirror holds.covers)
      (text.take stretch.start).reverse
    have whole := Stretch.take_append_of_append text holds.ordered (Nat.le_refl stretch.stop)
    rw [List.drop_eq_nil_of_le (List.length_take_le _ _), List.append_nil] at whole
    rw [← List.reverse_append, whole, List.length_reverse] at found
    rw [found, Stretch.of, List.length_drop, List.length_take, Nat.min_eq_left holds.inside]
  have lengths := taken holds
  rw [same, taken otherHolds, Option.some.injEq] at lengths
  have ordered := holds.ordered
  have otherOrdered := otherHolds.ordered
  obtain ⟨start, stop⟩ := one
  obtain ⟨otherStart, otherStop⟩ := other
  simp only [Stretch.mk.injEq] at *
  omega

/-- Where a character ends every match and stands nowhere else in one, no match stops inside
another.
-/
theorem stop_eq_of_mark {front : Pattern} {mark : Char} {one other : Stretch}
    (avoids : ∀ step ∈ front, step.Avoids mark)
    (holds : one.Holds (Matches (front ++ [PatternStep.exactly [mark]])) text)
    (otherHolds : other.Holds (Matches (front ++ [PatternStep.exactly [mark]])) text)
    (reaches : one.start < other.stop) (inside : other.stop ≤ one.stop)
    : other.stop = one.stop := by
  obtain ⟨before, _, covered, ahead, rfl⟩ := exists_of_matches_mark holds.covers
  obtain ⟨_, _, otherCovered, -, rfl⟩ := exists_of_matches_mark otherHolds.covers
  have isLast : (text.take other.stop).getLast? = some mark := by
    have ends := congrArg List.getLast? otherCovered
    rw [Stretch.of, List.getLast?_drop, List.getLast?_concat] at ends
    split at ends
    · contradiction
    · exact ends
  -- What both of them cover ends with the mark, so it is no part of what stands before the mark.
  have shared : (text.take other.stop).drop one.start <+: before ++ [mark] := by
    rw [← covered, Stretch.of]
    exact (List.take_prefix_take_left inside).drop one.start
  have short : (text.take other.stop).length = other.stop :=
    List.length_take_of_le otherHolds.inside
  rcases List.prefix_concat_iff.mp shared with whole | part
  · have lengths := congrArg List.length whole
    rw [← covered, Stretch.of, List.length_drop, List.length_drop, short,
      List.length_take_of_le holds.inside] at lengths
    omega
  · refine absurd (part.subset (List.mem_of_getLast? ?_)) (notMem_of_matches avoids ahead)
    rw [List.getLast?_drop, short, if_neg (Nat.not_le.mpr reaches), isLast]

-----------------------------------------------------------------------------------------
-- Places of a pattern that ends with a mark
-----------------------------------------------------------------------------------------

/-- The places of the text that are counted for the pattern. -/
def places (pattern : Pattern) (text : List Char) : List Stretch :=
  pattern.placesFrom 0 text

/-- There are as many places as are counted. -/
theorem length_places (pattern : Pattern) (text : List Char)
    : (pattern.places text).length = pattern.count text :=
  length_placesFrom pattern 0 text

/-- Every match is counted where it stands, if no two matches stop at one place or inside another.
-/
theorem mem_places_of_holds (front : Pattern) {mark : Char} {stretch : Stretch}
    (finds : FindsFirst (front ++ [PatternStep.exactly [mark]])
      (Matches (front ++ [PatternStep.exactly [mark]])))
    (sharp : IsSharp (front ++ [PatternStep.exactly [mark]]))
    (sharpMirror : IsSharp (mirror (front ++ [PatternStep.exactly [mark]])))
    (avoids : ∀ step ∈ front, step.Avoids mark)
    (holds : stretch.Holds (Matches (front ++ [PatternStep.exactly [mark]])) text)
    : stretch ∈ places (front ++ [PatternStep.exactly [mark]]) text := by
  obtain ⟨place, counted, reaches, inside⟩ := finds.exists_place holds (Nat.zero_le _)
  have placeHolds := (finds.of_mem_placesFrom counted).2
  have stops := stop_eq_of_mark avoids holds placeHolds reaches inside
  rwa [← sharp.eq_of_stop_eq sharpMirror placeHolds holds stops]

end Pattern

-----------------------------------------------------------------------------------------
-- Exported functions
-----------------------------------------------------------------------------------------

namespace Script

open Pattern

def plainForm : Pattern :=
  [text "function", someBlanks, word, blanks, text "("]

/-- The form of a function that is exported: the plain one behind the word export. -/
def exportForm : Pattern :=
  text "export" :: someBlanks :: plainForm

theorem plainForm_mem : plainForm ∈ functionForms := List.mem_cons_self

theorem exportForm_mem : exportForm ∈ functionForms :=
  List.mem_cons_of_mem _ (List.mem_cons_of_mem _ List.mem_cons_self)

/-- Both forms have a share of their own in the functions. -/
theorem counts_le_functions (source : List Char)
    : plainForm.count source + exportForm.count source ≤ (definitions source).functions := by
  have shares : ∃ others other,
      (definitions source).functions
        = plainForm.count source + (others + (exportForm.count source + other)) :=
    ⟨_, _, rfl⟩
  obtain ⟨others, other, sum⟩ := shares
  omega

/-- Read from the right, too, a word is next to white space and white space next to a word or to the
keyword, so that each of them ends where it must.
-/
theorem isSharp_mirror_plainForm : IsSharp plainForm.mirror := by
  have keyword (c : Char) (blank : isWhiteSpace c = true) : ¬ 'n' = c := by
    rintro rfl
    exact absurd blank (by decide)
  have separate : (∀ c, isWhiteSpace c = true → isWordChar c = false)
      ∧ (∀ c, isWordChar c = true → isWhiteSpace c = false)
      ∧ ∀ c, isWhiteSpace c = true → ¬ 'n' = c :=
    ⟨fun _ => isWordChar_of_isWhiteSpace, fun _ => isWhiteSpace_of_isWordChar, keyword⟩
  simpa [plainForm, mirror, PatternStep.mirror, IsSharp, Opens, text, word, blanks, someBlanks]
    using separate

/-- A stretch that is a plain declaration is among the places of that form. -/
theorem mem_places_plainForm {source : List Char} {stretch : Stretch}
    (holds : stretch.Holds plainForm.Matches source)
    : stretch ∈ plainForm.places source :=
  mem_places_of_holds [text "function", someBlanks, word, blanks]
    (functionForm_findsFirst plainForm_mem) (isSharp_of_mem_functionForms plainForm_mem)
    isSharp_mirror_plainForm (by decide) holds

/-- What a place exports: it is left of the place behind the word export and white space. -/
def declared (source : List Char) (place : Stretch) : Stretch where
  start := place.start + 6 + (((place.of source).drop 6).takeWhile isWhiteSpace).length
  stop := place.stop

variable {source : List Char} {place : Stretch}

/-- A plain form starts with its keyword, which is no white space. -/
theorem keyword_prefix {text : List Char} (isMatch : plainForm.Matches text)
    : "function".toList <+: text := by
  obtain ⟨keyword, others, rfl, rfl, -⟩ := isMatch
  exact List.prefix_append _ _

/-- A place of an export is the word, white space and what it declares, which is a plain form. -/
theorem declared_holds (holds : place.Holds exportForm.Matches source)
    : (declared source place).Holds plainForm.Matches source
      ∧ ∃ space, space ≠ [] ∧ isBlank space = true
        ∧ place.of source = "export".toList ++ space ++ (declared source place).of source := by
  obtain ⟨_, _, covered, rfl, space, plain, rfl, ⟨filled, blank⟩, isPlain⟩ := holds.covers
  have taken : (space ++ plain).takeWhile isWhiteSpace = space := by
    obtain ⟨rest, rfl⟩ := keyword_prefix isPlain
    rw [List.takeWhile_append_of_pos blank]
    simp [isWhiteSpace, covers]
  have start : (declared source place).start = place.start + ("export".toList ++ space).length := by
    rw [declared, covered, List.length_append, ← Nat.add_assoc]
    exact congrArg (fun length : List Char => place.start + 6 + length.length) taken
  have same : (declared source place).of source = plain := by
    rw [Stretch.of, start, ← List.drop_drop]
    change (place.of source).drop _ = plain
    rw [covered, ← List.append_assoc, List.drop_left]
  have length : place.stop - place.start = ("export".toList ++ space).length + plain.length := by
    have lengths := congrArg List.length covered
    rwa [Stretch.of, List.length_drop, List.length_take_of_le holds.inside, ← List.append_assoc,
      List.length_append] at lengths
  have ordered := holds.ordered
  refine ⟨⟨?_, holds.inside, same.symm ▸ isPlain⟩, space, ?_, ?_, ?_⟩
  · rw [start]
    change _ ≤ place.stop
    omega
  · exact List.ne_nil_of_length_pos filled
  · exact List.all_eq_true.mpr blank
  · rw [same, covered, List.append_assoc]

/-- Each place of an exported declaration is a stretch of that form. -/
theorem holds_of_mem_places (member : place ∈ exportForm.places source)
    : place.Holds exportForm.Matches source :=
  ((functionForm_findsFirst exportForm_mem).of_mem_placesFrom member).2

/-- Different exported declarations declare at different places. -/
theorem nodup_declared (source : List Char)
    : ((exportForm.places source).map (declared source)).Nodup := by
  refine .of_map Stretch.stop ?_
  rw [List.map_map]
  exact (functionForm_findsFirst exportForm_mem).nodup_stops source

/-- No export without a plain form of its own: what exports declare are distinct plain places. -/
theorem count_exportForm_le (source : List Char)
    : exportForm.count source ≤ plainForm.count source := by
  have among : (exportForm.places source).map (declared source) ⊆ plainForm.places source := by
    intro stretch member
    obtain ⟨place, exported, rfl⟩ := List.mem_map.mp member
    exact mem_places_plainForm (declared_holds (holds_of_mem_places exported)).1
  have fewer := (nodup_declared source).length_le_of_subset among
  rwa [List.length_map, length_places, length_places] at fewer

/-- Whatever the source, each place counted for an export has a place of its own counted for the
plain form of a function. It starts with the keyword behind the word export and white space, and
stops at the same bracket. So an export counts at least twice among the functions.
-/
theorem exported_counted_twice (path source : String)
    : ∃ counts, Language.javascript.definitions path source = .ok counts
      ∧ (∀ place ∈ exportForm.places source.toList,
          declared source.toList place ∈ plainForm.places source.toList
          ∧ (declared source.toList place).stop = place.stop
          ∧ "function".toList <+: (declared source.toList place).of source.toList
          ∧ ∃ space, space ≠ [] ∧ isBlank space = true
            ∧ place.of source.toList
              = "export".toList ++ space ++ (declared source.toList place).of source.toList)
      ∧ ((exportForm.places source.toList).map (declared source.toList)).Nodup
      ∧ exportForm.count source.toList ≤ plainForm.count source.toList
      ∧ 2 * exportForm.count source.toList ≤ counts.functions := by
  refine ⟨definitions source.toList, rfl, ?_, nodup_declared _, count_exportForm_le _, ?_⟩
  · intro place exported
    obtain ⟨isPlain, covers⟩ := declared_holds (holds_of_mem_places exported)
    exact ⟨mem_places_plainForm isPlain, rfl, keyword_prefix isPlain.covers, covers⟩
  · have fewer := count_exportForm_le source.toList
    have shares := counts_le_functions source.toList
    omega

/-- An export behind a keyword that declares nothing, of a function that is named like the keyword.
-/
theorem exported_behind_keyword
    : let source := "function export\u2003function function\n(view) {}"
      exportForm.places source.toList = [⟨9, 35⟩]
      ∧ declared source.toList ⟨9, 35⟩ = ⟨16, 35⟩
      ∧ ⟨16, 35⟩ ∈ plainForm.places source.toList
      ∧ ∃ counts, Language.javascript.definitions "shelf.js" source = .ok counts
        ∧ 2 ≤ counts.functions := by
  intro source
  have exported : exportForm.places source.toList = [⟨9, 35⟩] := by decide +kernel
  have isDeclared : declared source.toList ⟨9, 35⟩ = ⟨16, 35⟩ := by decide +kernel
  have one : exportForm.count source.toList = 1 := by rw [← length_places, exported]; rfl
  obtain ⟨counts, isCounts, each, -, -, twice⟩ := exported_counted_twice "shelf.js" source
  obtain ⟨isPlain, -⟩ := each ⟨9, 35⟩ (exported ▸ List.mem_singleton_self _)
  exact ⟨exported, isDeclared, isDeclared ▸ isPlain, counts, isCounts, by rwa [one] at twice⟩

end Script

end DocSurvey
