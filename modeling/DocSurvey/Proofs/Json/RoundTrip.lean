import DocSurvey.Proofs.Json.Tokens

/-! JSON text and the values it spells. Main statement: a value without fractions, with numbers that
64 bits hold, is read back from the text over several lines that is written for it.
-/

namespace DocSurvey.Json

/-- No number with a fraction occurs in the value, its whole numbers fit into words of 64 bits, and
at most so many arrays and objects lie inside one another.
-/
inductive Legible : (depth : Nat) → Json → Prop where
  | null {depth : Nat} : Legible depth .null
  | bool {depth : Nat} (flag : Bool) : Legible depth (.bool flag)
  | int {depth : Nat} {value : Int} (fits : FitsWord value) : Legible depth (.int value)
  | string {depth : Nat} (text : String) : Legible depth (.string text)
  | array {depth : Nat} {items : List Json} (legible : ∀ item ∈ items, Legible depth item)
      : Legible (depth + 1) (.array items)
  | object {depth : Nat} {members : List (String × Json)}
      (legible : ∀ member ∈ members, Legible depth member.2)
      : Legible (depth + 1) (.object members)

-----------------------------------------------------------------------------------------
-- Blanks and the starts of values
-----------------------------------------------------------------------------------------

@[simp]
theorem skipBlanks_newline (level : Nat) (text : List Char)
    : skipBlanks (newline level ++ text) = skipBlanks text := by
  have blanks : ∀ c ∈ newline level,
      (c == ' ' || c == '\n' || c == '\r' || c == '\t') = true := by
    intro c member
    rcases List.mem_cons.mp member with rfl | among
    · rfl
    · obtain rfl := List.eq_of_mem_replicate among
      rfl
  exact List.dropWhile_append_of_pos blanks

/-- A value is read behind a new line. -/
theorem readValue_newline (fuel depth level : Nat) (text : List Char)
    : readValue fuel depth (newline level ++ text) = readValue fuel depth text :=
  readValue_congr (skipBlanks_newline level text) fuel depth

theorem readItems_newline (fuel depth level : Nat) (text : List Char)
    : readItems fuel depth (newline level ++ text) = readItems fuel depth text := by
  cases fuel with
  | zero => rfl
  | succ fuel => simp only [readItems, readValue_newline]

theorem readMembers_newline (fuel depth level : Nat) (text : List Char)
    : readMembers fuel depth (newline level ++ text) = readMembers fuel depth text := by
  cases fuel with
  | zero => rfl
  | succ fuel => simp only [readMembers, skipBlanks_newline]

/-- The text starts with a character that is no blank and closes no array. -/
def OpensValue (text : List Char) : Prop :=
  ∃ c rest, text = c :: rest ∧ c ≠ ']' ∧ ∀ tail, skipBlanks (c :: tail) = c :: tail

/-- What opens a value does so with more behind it. -/
theorem OpensValue.append {text : List Char} (opens : OpensValue text) (rest : List Char)
    : OpensValue (text ++ rest) := by
  obtain ⟨c, others, rfl, apart⟩ := opens
  exact ⟨c, others ++ rest, rfl, apart⟩

/-- A whole number starts with a digit or a sign. -/
theorem intText_eq_cons (value : Int)
    : ∃ c rest, intText value = c :: rest ∧ (c = '-' ∨ Text.isAsciiDigit c = true) := by
  cases value with
  | ofNat n =>
      cases shape : Number.digits n with
      | nil => exact absurd shape Nat.toDigits_ne_nil
      | cons c rest =>
          exact ⟨c, rest, shape, .inr (isAsciiDigit_of_mem_digits (n := n) (by simp [shape]))⟩
  | negSucc n => exact ⟨'-', _, rfl, .inl rfl⟩

/-- A character of a number is none that is neither a sign nor a digit. -/
theorem ne_of_numeric {c other : Char} (numeric : c = '-' ∨ Text.isAsciiDigit c = true)
    (apart : other ≠ '-' ∧ Text.isAsciiDigit other = false)
    : c ≠ other := by
  rintro rfl
  rcases numeric with sign | digit
  · exact apart.1 sign
  · exact absurd (apart.2.symm.trans digit) (by decide)

theorem skipBlanks_of_numeric {c : Char} (numeric : c = '-' ∨ Text.isAsciiDigit c = true)
    (rest : List Char)
    : skipBlanks (c :: rest) = c :: rest := by
  have noBlank : c ≠ ' ' := ne_of_numeric numeric (by decide)
  have noFeed : c ≠ '\n' := ne_of_numeric numeric (by decide)
  have noReturn : c ≠ '\r' := ne_of_numeric numeric (by decide)
  have noTab : c ≠ '\t' := ne_of_numeric numeric (by decide)
  simp [skipBlanks, noBlank, noFeed, noReturn, noTab]

/-- No other value starts like a number. -/
theorem readValue_of_numeric {c : Char} (numeric : c = '-' ∨ Text.isAsciiDigit c = true)
    (fuel depth : Nat) (rest : List Char)
    : readValue (fuel + 1) depth (c :: rest) = readNumber (c :: rest) := by
  rw [readValue, skipBlanks_of_numeric numeric]
  split
  case h_7 => rfl
  all_goals
    rename_i opens
    exact absurd (List.cons.inj opens).1 (ne_of_numeric numeric (by decide))

/-- Whatever is written for a value of this kind starts one. -/
theorem Legible.opensValue {depth : Nat} {value : Json} (legible : Legible depth value)
    (level : Nat)
    : OpensValue (prettyChars level value) := by
  cases legible with
  | null => exact ⟨'n', _, rfl, by decide, fun _ => rfl⟩
  | bool flag => cases flag with
    | false => exact ⟨'f', _, rfl, by decide, fun _ => rfl⟩
    | true => exact ⟨'t', _, rfl, by decide, fun _ => rfl⟩
  | int fits =>
      rename_i number
      obtain ⟨c, rest, shape, numeric⟩ := intText_eq_cons number
      exact ⟨c, rest, shape, ne_of_numeric numeric (by decide), skipBlanks_of_numeric numeric⟩
  | string text => exact ⟨'"', _, rfl, by decide, fun _ => rfl⟩
  | @array _ items _ => cases items with
    | nil => exact ⟨'[', _, rfl, by decide, fun _ => rfl⟩
    | cons item items => exact ⟨'[', _, rfl, by decide, fun _ => rfl⟩
  | @object _ members _ => cases members with
    | nil => exact ⟨'\x7b', _, rfl, by decide, fun _ => rfl⟩
    | cons member members => exact ⟨'\x7b', _, rfl, by decide, fun _ => rfl⟩

-----------------------------------------------------------------------------------------
-- Values inside one another
-----------------------------------------------------------------------------------------

/-- The value is read back from its text at any level, given steps for each of its characters. -/
def ReadsBack (depth : Nat) (value : Json) : Prop :=
  ∀ (level fuel : Nat) (rest : List Char),
    2 * (prettyChars level value).length ≤ fuel
    → EndsNumber rest
    → readValue fuel depth (prettyChars level value ++ rest) = some (value, rest)

/-- A number ends before a new line. -/
theorem endsNumber_newline (level : Nat) (rest : List Char)
    : EndsNumber (newline level ++ rest) := by
  intro c first
  obtain rfl : '\n' = c := by simpa [newline] using first
  decide

theorem endsNumber_comma (rest : List Char) : EndsNumber (',' :: rest) := by
  intro c first
  obtain rfl : ',' = c := by simpa using first
  decide

/-- What is written behind an item or a member ends a number. -/
theorem endsNumber_prettyItems (level other : Nat) (items : List Json) (rest : List Char)
    : EndsNumber (prettyItems level items ++ (newline other ++ rest)) := by
  cases items with
  | nil => exact endsNumber_newline other rest
  | cons item items => exact endsNumber_comma _

theorem endsNumber_prettyMembers (level other : Nat) (members : List (String × Json))
    (rest : List Char)
    : EndsNumber (prettyMembers level members ++ (newline other ++ rest)) := by
  cases members with
  | nil => exact endsNumber_newline other rest
  | cons member members => exact endsNumber_comma _

section Reading

variable {depth fuel level : Nat} {text rest : List Char} {value : Json}

/-- The last item of a list is read with the bracket behind it. -/
theorem readItems_last
    (reads : readValue fuel depth text = some (value, newline level ++ ']' :: rest))
    : readItems (fuel + 1) depth text = some ([value], rest) := by
  have closes : skipBlanks (']' :: rest) = ']' :: rest := rfl
  simp [readItems, reads, closes]

/-- An item with a comma behind it is read before the others. -/
theorem readItems_more (reads : readValue fuel depth text = some (value, ',' :: rest))
    : readItems (fuel + 1) depth text
      = (readItems fuel depth rest).map fun (items, rest) => (value :: items, rest) := by
  have goesOn : skipBlanks (',' :: rest) = ',' :: rest := rfl
  cases others : readItems fuel depth rest <;> simp [readItems, reads, goesOn, others]

/-- A member is read as far as its value. -/
theorem readMembers_opening (name : String)
    : readMembers (fuel + 1) depth (stringText name.toList ++ ':' :: ' ' :: text)
      = (do
          let (value, rest) ← readValue fuel depth text
          match skipBlanks rest with
          | ',' :: rest =>
              let (members, rest) ← readMembers fuel depth rest
              some ((name, value) :: members, rest)
          | '\x7d' :: rest => some ([(name, value)], rest)
          | _ => none) := by
  obtain ⟨behind, opens, reads⟩ := readString_stringText name.toList (':' :: ' ' :: text)
  have blank : readValue fuel depth (' ' :: text) = readValue fuel depth text := by
    cases fuel <;> rfl
  rw [readMembers, opens]
  change (readString (behind.length + 1) behind).bind _ = _
  rw [reads]
  change (readValue fuel depth (' ' :: text)).bind _ = _
  rw [blank, String.ofList_toList]
  rfl

/-- The last member of an object is read with the brace behind it. -/
theorem readMembers_last (name : String)
    (reads : readValue fuel depth text = some (value, newline level ++ '\x7d' :: rest))
    : readMembers (fuel + 1) depth (stringText name.toList ++ ':' :: ' ' :: text)
      = some ([(name, value)], rest) := by
  have closes : skipBlanks ('\x7d' :: rest) = '\x7d' :: rest := rfl
  simp [readMembers_opening, reads, closes]

/-- A member with a comma behind it is read before the others. -/
theorem readMembers_more (name : String)
    (reads : readValue fuel depth text = some (value, ',' :: rest))
    : readMembers (fuel + 1) depth (stringText name.toList ++ ':' :: ' ' :: text)
      = (readMembers fuel depth rest).map fun (members, rest) =>
          ((name, value) :: members, rest) := by
  have goesOn : skipBlanks (',' :: rest) = ',' :: rest := rfl
  cases others : readMembers fuel depth rest <;>
    simp [readMembers_opening, reads, goesOn, others]

end Reading

/-- The items of an array are read back up to its bracket, by induction over them. -/
theorem readItems_pretty {depth level other fuel : Nat} {item : Json} {items : List Json}
    {rest : List Char} (back : ∀ found ∈ item :: items, ReadsBack depth found)
    (enough : 2 * ((prettyChars level item).length + (prettyItems level items).length) + 1 ≤ fuel)
    : readItems fuel depth
        (prettyChars level item ++ (prettyItems level items ++ (newline other ++ ']' :: rest)))
      = some (item :: items, rest) := by
  induction items generalizing item fuel with
  | nil =>
      obtain ⟨fewer, rfl⟩ := Nat.exists_eq_add_one.mpr (Nat.zero_lt_of_lt enough)
      have first := back item (by simp) level fewer (newline other ++ ']' :: rest)
      exact readItems_last (first (by omega) (endsNumber_newline other _))
  | cons next others ih =>
      obtain ⟨fewer, rfl⟩ := Nat.exists_eq_add_one.mpr (Nat.zero_lt_of_lt enough)
      have first := back item (by simp) level fewer _ (by omega)
        (endsNumber_prettyItems level other (next :: others) (']' :: rest))
      simp only [prettyItems, List.length_cons, List.length_append] at enough
      have later := @ih fewer next
        (fun found member => back found (List.mem_cons_of_mem _ member)) (by omega)
      have behind : prettyItems level (next :: others) ++ (newline other ++ ']' :: rest)
          = ',' :: (newline level ++ (prettyChars level next
              ++ (prettyItems level others ++ (newline other ++ ']' :: rest)))) := by
        simp [prettyItems]
      rw [behind] at first ⊢
      rw [readItems_more first, readItems_newline, later]
      rfl

/-- The members of an object are read back up to its brace, by induction over them. -/
theorem readMembers_pretty {depth level other fuel : Nat} {name : String} {value : Json}
    {members : List (String × Json)} {rest : List Char}
    (back : ∀ found ∈ (name, value) :: members, ReadsBack depth found.2)
    (enough : 2 * ((prettyChars level value).length + (prettyMembers level members).length) + 1
      ≤ fuel)
    : readMembers fuel depth
        (stringText name.toList ++ ':' :: ' ' :: (prettyChars level value
          ++ (prettyMembers level members ++ (newline other ++ '\x7d' :: rest))))
      = some ((name, value) :: members, rest) := by
  induction members generalizing name value fuel with
  | nil =>
      obtain ⟨fewer, rfl⟩ := Nat.exists_eq_add_one.mpr (Nat.zero_lt_of_lt enough)
      have first := back (name, value) (by simp) level fewer (newline other ++ '\x7d' :: rest)
      exact readMembers_last name (first (by simp; omega) (endsNumber_newline other _))
  | cons next others ih =>
      obtain ⟨nextName, nextValue⟩ := next
      obtain ⟨fewer, rfl⟩ := Nat.exists_eq_add_one.mpr (Nat.zero_lt_of_lt enough)
      have isBack : ReadsBack depth value := back (name, value) (by simp)
      have first := isBack level fewer _ (by omega)
        (endsNumber_prettyMembers level other ((nextName, nextValue) :: others) ('\x7d' :: rest))
      simp only [prettyMembers, List.length_cons, List.length_append] at enough
      have later := @ih fewer nextName nextValue
        (fun found member => back found (List.mem_cons_of_mem _ member)) (by omega)
      have behind : prettyMembers level ((nextName, nextValue) :: others)
            ++ (newline other ++ '\x7d' :: rest)
          = ',' :: (newline level ++ (stringText nextName.toList ++ ':' :: ' ' ::
              (prettyChars level nextValue
                ++ (prettyMembers level others ++ (newline other ++ '\x7d' :: rest))))) := by
        simp [prettyMembers]
      rw [behind] at first ⊢
      rw [readMembers_more name first, readMembers_newline, later]
      rfl

-----------------------------------------------------------------------------------------
-- Values
-----------------------------------------------------------------------------------------

/-- A string is read back, whatever escapes it needs. -/
theorem readsBack_string (depth : Nat) (text : String) : ReadsBack depth (.string text) := by
  intro level fuel rest enough ends
  obtain ⟨behind, opens, reads⟩ := readString_stringText text.toList rest
  cases fuel with
  | zero => simp [prettyChars, stringText] at enough
  | succ fuel => simp [prettyChars, opens, readValue_quote, reads]

/-- A whole number that fits into a word is read back. -/
theorem readsBack_int (depth : Nat) {value : Int} (fits : FitsWord value)
    : ReadsBack depth (.int value) := by
  intro level fuel rest enough ends
  obtain ⟨c, others, shape, numeric⟩ := intText_eq_cons value
  have reads := readNumber_intText fits ends
  cases fuel with
  | zero => simp [prettyChars, shape] at enough
  | succ fuel =>
      rw [prettyChars, shape, List.cons_append] at *
      rw [readValue_of_numeric numeric]
      exact reads

theorem readValue_array {fuel depth level : Nat} {text : List Char} (opens : OpensValue text)
    : readValue (fuel + 1) (depth + 1) ('[' :: (newline level ++ text))
      = (readItems fuel depth text).map fun (items, rest) => (.array items, rest) := by
  obtain ⟨c, others, rfl, noClose, solid⟩ := opens
  cases items : readItems fuel depth (c :: others) <;>
    simp [readValue_bracket, solid, noClose, items]

theorem readValue_object {fuel depth level : Nat} {text : List Char}
    : readValue (fuel + 1) (depth + 1) ('\x7b' :: (newline level ++ '"' :: text))
      = (readMembers fuel depth ('"' :: text)).map fun (members, rest) =>
          (.object members, rest) := by
  have quote : skipBlanks ('"' :: text) = '"' :: text := rfl
  cases members : readMembers fuel depth ('"' :: text) <;>
    simp [readValue_brace, quote, members]

/-- An array is read back if its items are. -/
theorem readsBack_array {depth : Nat} {items : List Json}
    (opens : ∀ item ∈ items, ∀ level, OpensValue (prettyChars level item))
    (back : ∀ item ∈ items, ReadsBack depth item)
    : ReadsBack (depth + 1) (.array items) := by
  intro level fuel rest enough ends
  cases fuel with
  | zero => cases items <;> simp [prettyChars] at enough
  | succ fuel =>
      cases items with
      | nil => rfl
      | cons item items =>
          simp only [prettyChars, List.length_cons, List.length_append] at enough
          have reads := @readItems_pretty depth (level + 1) level fuel item items rest back
            (by omega)
          have text : prettyChars level (.array (item :: items)) ++ rest
              = '[' :: (newline (level + 1) ++ (prettyChars (level + 1) item
                  ++ (prettyItems (level + 1) items ++ (newline level ++ ']' :: rest)))) := by
            simp [prettyChars]
          have start := (opens item (by simp) (level + 1)).append
            (prettyItems (level + 1) items ++ (newline level ++ ']' :: rest))
          rw [text, readValue_array start, reads]
          rfl

/-- An object is read back if the values of its members are. -/
theorem readsBack_object {depth : Nat} {members : List (String × Json)}
    (back : ∀ member ∈ members, ReadsBack depth member.2)
    : ReadsBack (depth + 1) (.object members) := by
  intro level fuel rest enough ends
  cases fuel with
  | zero => cases members <;> simp [prettyChars] at enough
  | succ fuel =>
      cases members with
      | nil => rfl
      | cons member members =>
          obtain ⟨name, value⟩ := member
          simp only [prettyChars, List.length_cons, List.length_append] at enough
          have reads := @readMembers_pretty depth (level + 1) level fuel name value members rest
            back (by omega)
          have text : prettyChars level (.object ((name, value) :: members)) ++ rest
              = '\x7b' :: (newline (level + 1) ++ (stringText name.toList ++ ':' :: ' ' ::
                  (prettyChars (level + 1) value ++ (prettyMembers (level + 1) members
                    ++ (newline level ++ '\x7d' :: rest))))) := by
            simp [prettyChars]
          obtain ⟨behind, quote, _⟩ := readString_stringText name.toList
            (':' :: ' ' :: (prettyChars (level + 1) value ++ (prettyMembers (level + 1) members
              ++ (newline level ++ '\x7d' :: rest))))
          rw [text, quote, readValue_object, ← quote, reads]
          rfl

/-- A legible value is read back from its text, by induction over the values inside it. -/
theorem Legible.readsBack {depth : Nat} {value : Json} (legible : Legible depth value)
    : ReadsBack depth value := by
  induction legible with
  | null =>
      intro level fuel rest enough ends
      cases fuel with
      | zero => simp [prettyChars] at enough
      | succ fuel => rfl
  | bool flag =>
      intro level fuel rest enough ends
      cases fuel with
      | zero => cases flag <;> simp [prettyChars] at enough
      | succ fuel => cases flag <;> rfl
  | int fits => exact readsBack_int _ fits
  | string text => exact readsBack_string _ text
  | array legible ih =>
      exact readsBack_array (fun item member level => (legible item member).opensValue level) ih
  | object legible ih => exact readsBack_object ih

/-- A legible value is the one that its text spells. -/
theorem Legible.parse_pretty {value : Json} (legible : Legible 127 value)
    : parse value.pretty = some value := by
  have reads := legible.readsBack 0 (2 * (prettyChars 0 value).length + 2) [] (by omega)
    (by simp [EndsNumber])
  rw [List.append_nil] at reads
  simp [parse, pretty, parseChars, reads, skipBlanks]

end DocSurvey.Json
