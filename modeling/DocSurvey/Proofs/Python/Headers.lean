import DocSurvey.Proofs.Python.Reading
import DocSurvey.Python.Statement

/-! The headers of functions and classes are read as they are written out, up to the colon. -/

namespace DocSurvey.Python

open DocSurvey.Text DocSurvey.Python.Parser

-----------------------------------------------------------------------------------------
-- Names
-----------------------------------------------------------------------------------------

theorem toNat_lt_of_isAsciiWord {c : Char} (isWord : isAsciiWord c = true) : c.toNat < 128 := by
  have below {last : Char} (bound : c ≤ last) (ascii : last.toNat < 128) : c.toNat < 128 :=
    Nat.lt_of_le_of_lt (UInt32.le_iff_toNat_le.mp bound) ascii
  simp only [isAsciiWord, isAsciiLetter, isAsciiDigit, Bool.or_eq_true, Bool.and_eq_true,
    decide_eq_true_eq, beq_iff_eq] at isWord
  rcases isWord with ((⟨-, small⟩ | ⟨-, small⟩) | ⟨-, small⟩) | rfl
  · exact below small (by decide)
  · exact below small (by decide)
  · exact below small (by decide)
  · decide

namespace Identifier

variable (name : Identifier)

/-- A name is made of letters, digits and underscores of ASCII. -/
theorem isAsciiWord_of_mem : ∀ c ∈ name.text, isAsciiWord c = true := by
  refine List.forall_mem_cons.mpr ⟨?_, name.continues⟩
  have starts := name.starts
  simp only [Bool.or_eq_true] at starts
  simp only [isAsciiWord, Bool.or_eq_true]
  exact starts.imp_left .inl

/-- The first character of a name starts a word and no sign. -/
theorem first_facts
    : isIdentifierStart name.first = true ∧ stopsBlanks name.first = true
      ∧ name.first ∉ ['#', '(', '*', '/', ')'] := by
  have small := toNat_lt_of_isAsciiWord (name.isAsciiWord_of_mem name.first List.mem_cons_self)
  refine forall_ascii (fun c => (isAsciiLetter c || c == '_') = true
    → isIdentifierStart c = true ∧ stopsBlanks c = true ∧ c ∉ ['#', '(', '*', '/', ')']) ?_ small
    name.starts
  decide +kernel

/-- A name is a word. -/
theorem isWord_text : IsWord name.text := by
  refine ⟨name.first, name.others, rfl, name.first_facts.1, ?_⟩
  intro c member
  have isWord := name.continues c member
  rw [isIdentifierChar, if_pos (toNat_lt_of_isAsciiWord isWord), isWord]

/-- A name is no blank and no comment. -/
theorem isCode_text : IsCode name.text := by
  obtain ⟨-, stops, noSign⟩ := name.first_facts
  exact ⟨name.first, name.others, rfl, stops, fun same => noSign (by simp [same])⟩

/-- No sign is in front of a name. -/
theorem not_prefix_text {characters : String} (more : List Char)
    (isSign : ∃ sign ∈ characters.toList.head?, sign ∈ ['#', '(', '*', '/', ')'])
    : ¬ characters.toList <+: name.text ++ more := by
  obtain ⟨sign, isHead, among⟩ := isSign
  refine not_prefix_of_head ⟨sign, isHead, ?_⟩
  rintro ⟨⟩
  exact name.first_facts.2.2 among

end Identifier

/-- A sign that no word goes on with ends it. -/
theorem endsWord_cons {c : Char} (ends : isIdentifierChar c = false) (more : List Char)
    : EndsWord (c :: more) := by
  rintro d ⟨⟩
  exact ends

theorem isCode_cons {c : Char} (isCode : stopsBlanks c = true ∧ c ≠ '#') (more : List Char)
    : IsCode (c :: more) :=
  ⟨c, more, rfl, isCode⟩

-----------------------------------------------------------------------------------------
-- Parameters
-----------------------------------------------------------------------------------------

/-- Names behind the first one, each with a comma in front, and the closing bracket. -/
def parameterTail (parameters : List Identifier) (more : List Char) : List Char :=
  parameters.flatMap (fun name => ',' :: ' ' :: name.text) ++ ')' :: more

/-- Behind the first parameter stands the tail of them. -/
theorem parameterText_cons (name : Identifier) (others : List Identifier) (more : List Char)
    : Header.parameterText (name :: others) ++ ')' :: more
        = name.text ++ parameterTail others more := by
  have joined : Header.parameterText (name :: others)
      = name.text ++ others.flatMap fun name => ',' :: ' ' :: name.text := by
    induction others generalizing name with
    | nil => simp [Header.parameterText]
    | cons second others ih =>
        rw [Header.parameterText, List.map_cons, List.map_cons, List.intercalate_cons_cons,
          ← List.map_cons, ← Header.parameterText, ih]
        simp
  rw [joined, List.append_assoc, parameterTail]

theorem parameterTail_cons (name : Identifier) (others : List Identifier) (more : List Char)
    : parameterTail (name :: others) more
        = ',' :: ' ' :: (name.text ++ parameterTail others more) := by
  simp [parameterTail]

/-- A comma or the bracket follows every name. -/
theorem parameterTail_facts (parameters : List Identifier) (more : List Char)
    : ∃ c rest, parameterTail parameters more = c :: rest ∧ c ∈ [',', ')'] := by
  cases parameters with
  | nil => exact ⟨')', more, rfl, by simp⟩
  | cons name others => exact ⟨',', _, parameterTail_cons name others more, by simp⟩

variable {rules : Rules} {c : Context} {rest : List Char}

/-- A plain name is read as a parameter, with nothing behind it that would belong to it. -/
theorem reads_parameter (name : Identifier) (others : List Identifier) (more : List Char)
    : Reads (parameter rules c true) (name.text ++ parameterTail others more) ()
        (parameterTail others more) := by
  obtain ⟨sign, rest, isTail, among⟩ := parameterTail_facts others more
  have signs : ∀ sign ∈ [',', ')'], isIdentifierChar sign = false
      ∧ (stopsBlanks sign = true ∧ sign ≠ '#') ∧ ':' ≠ sign ∧ '=' ≠ sign :=
    forall_mem_of_all (by decide)
  obtain ⟨ends, isCode, noColon, noEquals⟩ := signs sign among
  rw [isTail]
  refine (reads_isAt_false (name.not_prefix_text _ ⟨'(', rfl, by decide⟩)).otherwise ?_
  refine (reads_accept_false (name.not_prefix_text _ ⟨'*', rfl, by decide⟩)).otherwise ?_
  refine (reads_accept_false (name.not_prefix_text _ ⟨'*', rfl, by decide⟩)).otherwise ?_
  refine (reads_accept_false (name.not_prefix_text _ ⟨'/', rfl, by decide⟩)).otherwise ?_
  have tight := follows_tight c (isCode_cons isCode rest)
  refine (reads_name name.isWord_text (endsWord_cons ends rest) tight).bind ?_
  refine Reads.bind ((reads_accept_false (by simp [noColon])).otherwise (reads_pure () _)) ?_
  exact (reads_accept_false (by simp [noEquals])).otherwise (reads_pure () _)

/-- Behind a name, further names are read up to the bracket, by induction over them. -/
theorem reads_commaSeparated_go (rules : Rules) (c : Context) {more : Parser Bool}
    (goesOn : ∀ (name : Identifier) (text : List Char),
      Reads more (name.text ++ text) true (name.text ++ text))
    (others : List Identifier) (rest : List Char) {budget : List Char}
    (enough : others.length < budget.length) (items : List Unit)
    : ∃ values, Reads (commaSeparated.go c more (parameter rules c true) budget items)
        (parameterTail others rest) values (')' :: rest) := by
  induction others generalizing budget items with
  | nil =>
      cases budget with
      | nil => contradiction
      | cons _ budget =>
          have noComma : ¬ ",".toList <+: ')' :: rest := by simp
          exact ⟨_, (reads_accept_false noComma).otherwise (reads_pure _ _)⟩
  | cons name others ih =>
      cases budget with
      | nil => contradiction
      | cons _ budget =>
          have enough : others.length < budget.length := by simpa using enough
          obtain ⟨values, onward⟩ := ih enough (() :: items)
          have spaced := follows_space c (name.isCode_text.append (parameterTail others rest))
          have comma := reads_accept "," spaced
          refine ⟨values, ?_⟩
          rw [parameterTail_cons]
          refine comma.thereupon ((goesOn name _).thereupon ?_)
          exact (reads_parameter name others rest).bind onward

/-- There are no more parameters than characters left, by induction over them. -/
theorem length_le_parameterTail (others : List Identifier) (rest : List Char)
    : others.length ≤ (parameterTail others rest).length := by
  induction others with
  | nil => exact Nat.zero_le _
  | cons name others ih =>
      simp only [parameterTail_cons, List.length_cons, List.length_append]
      omega

/-- All parameters behind the first one are read up to the closing bracket, by induction over them.
-/
theorem reads_furtherItems (rules : Rules) (c : Context) (others : List Identifier)
    (rest : List Char)
    : ∃ values,
        Reads (furtherItems c ")" (parameter rules c true)) (parameterTail others rest) values
        (')' :: rest) := by
  cases others with
  | nil => exact ⟨[], (reads_accept_false (by simp [parameterTail])).otherwise (reads_pure _ _)⟩
  | cons name others =>
      have notClosed (name : Identifier) (text : List Char)
          : Reads (isAt ")") (name.text ++ text) false (name.text ++ text) :=
        reads_isAt_false (name.not_prefix_text _ ⟨')', rfl, by decide⟩)
      have goesOn (name : Identifier) (text : List Char)
          : Reads (do return !(← isAt ")")) (name.text ++ text) true (name.text ++ text) :=
        (notClosed name text).bind (reads_pure _ _)
      have enough : others.length < ('\n' :: (name.text ++ parameterTail others rest)).length := by
        have short := length_le_parameterTail others rest
        simp only [List.length_cons, List.length_append]
        omega
      obtain ⟨values, onward⟩ :=
        reads_commaSeparated_go rules c goesOn others rest enough [()]
      have spaced := follows_space c (name.isCode_text.append (parameterTail others rest))
      have comma := reads_accept "," spaced
      refine ⟨values, ?_⟩
      rw [parameterTail_cons]
      refine comma.thereupon ((notClosed name _).otherwise ?_)
      exact (reads_budget _).bind ((reads_parameter name others rest).bind onward)

/-- Parameters are read with their brackets. -/
theorem reads_parameters (names : List Identifier) (isCode : IsCode rest)
    : Reads (parameters rules c) ('(' :: (Header.parameterText names ++ ')' :: rest)) () rest := by
  have closes : Reads (symbol c ")") (')' :: rest) () rest :=
    reads_symbol ")" (follows_tight c isCode)
  cases names with
  | nil =>
      refine (reads_symbol "(" (follows_tight _ (isCode_cons (by decide) _))).bind ?_
      exact (reads_isAt_true ")" rest).thereupon closes
  | cons name others =>
      obtain ⟨values, onward⟩ := reads_furtherItems rules c.inBrackets others rest
      rw [parameterText_cons]
      refine (reads_symbol "(" (follows_tight _ (name.isCode_text.append _))).bind ?_
      refine (reads_isAt_false (name.not_prefix_text _ ⟨')', rfl, by decide⟩)).otherwise ?_
      exact (reads_parameter name others rest).bind (onward.bind closes)

-----------------------------------------------------------------------------------------
-- Headers
-----------------------------------------------------------------------------------------

/-- What a definition becomes in the tree. -/
def Header.kind : Header → Kind
  | .function isAsync _ _ => .function isAsync
  | .ofClass _ => .classDefinition

theorem isWord_def : IsWord "def".toList :=
  ⟨'d', _, rfl, by decide, forall_mem_of_all (by decide)⟩

theorem isWord_async : IsWord "async".toList :=
  ⟨'a', _, rfl, by decide, forall_mem_of_all (by decide)⟩

theorem isWord_class : IsWord "class".toList :=
  ⟨'c', _, rfl, by decide, forall_mem_of_all (by decide)⟩

theorem endsWord_space (more : List Char) : EndsWord ([' '] ++ more) :=
  endsWord_cons (by decide) more

theorem isCode_colon (more : List Char) : IsCode (':' :: more) :=
  isCode_cons (by decide) more

/-- The header of a function behind `async`, and what follows it. -/
def signature (name : Identifier) (parameters : List Identifier) (text : List Char) : List Char :=
  "def".toList ++ ([' '] ++ (name.text
    ++ ([] ++ '(' :: (Header.parameterText parameters ++ ')' :: ':' :: text))))

/-- The header of a function is its signature, behind a keyword where it is asynchronous. -/
theorem functionText_eq (isAsync : Bool) (name : Identifier) (parameters : List Identifier)
    (text : List Char)
    : (Header.function isAsync name parameters).text ++ ':' :: text
        = (if isAsync then "async".toList ++ ([' '] ++ signature name parameters text)
            else signature name parameters text) := by
  have isAsyncWord : "async ".toList = "async".toList ++ [' '] := by decide
  have isDefWord : "def ".toList = "def".toList ++ [' '] := by decide
  change ((if isAsync then "async ".toList else []) ++ ("def ".toList
    ++ (name.text ++ ('(' :: (Header.parameterText parameters ++ [')']))))) ++ ':' :: text = _
  rw [signature, isAsyncWord, isDefWord]
  generalize "async".toList = before
  generalize "def".toList = word
  cases isAsync <;> simp

/-- Whether a function is asynchronous is read off the word in front. -/
theorem reads_async (name : Identifier) (parameters : List Identifier) (text : List Char)
    (isAsync : Bool)
    : Reads (acceptWord c "async") ((Header.function isAsync name parameters).text ++ ':' :: text)
        isAsync (signature name parameters text) := by
  rw [functionText_eq]
  cases isAsync with
  | true =>
      exact reads_acceptWord isWord_async (endsWord_space _)
        (follows_space c (isCode_cons (by decide) _))
  | false =>
      refine reads_acceptWord_false ?_
      rw [if_neg Bool.false_ne_true, signature, wordOf_append isWord_def (endsWord_space _)]
      decide

/-- A function is read up to the end of its block. -/
theorem builds_functionDefinition (column : Nat) (isAsync : Bool) (name : Identifier)
    (parameters : List Identifier) {text : List Char} {nodes : List Syntax}
    (block : Builds (suite rules column) (':' :: text) () rest nodes)
    : Builds (functionDefinition rules column)
        ((Header.function isAsync name parameters).text ++ ':' :: text) () rest
        [.node (.function isAsync) nodes] := by
  refine Builds.node ((reads_async name parameters text isAsync).bind ?_)
  have isCode := name.isCode_text.append
    ([] ++ '(' :: (Header.parameterText parameters ++ ')' :: ':' :: text))
  have tight (c : Context)
      : Follows c [] ('(' :: (Header.parameterText parameters ++ ')' :: ':' :: text)) :=
    follows_tight c (isCode_cons (by decide) _)
  refine (reads_word isWord_def (endsWord_space _) (follows_space _ isCode)).bind ?_
  refine (reads_name name.isWord_text (endsWord_cons (by decide) _) (tight _)).bind ?_
  refine (reads_isAt_false (by simp)).otherwise ?_
  refine (reads_parameters parameters (isCode_colon text)).bind ?_
  refine (reads_accept_false (by simp)).otherwise ?_
  exact block.bind_reads (reads_pure _ _)

/-- The header of a class is its keyword and its name. -/
theorem classText_eq (name : Identifier) (text : List Char)
    : (Header.ofClass name).text ++ ':' :: text
        = "class".toList ++ ([' '] ++ (name.text ++ ([] ++ ':' :: text))) := by
  have isClassWord : "class ".toList = "class".toList ++ [' '] := by decide
  change ("class ".toList ++ name.text) ++ ':' :: text = _
  rw [isClassWord]
  generalize "class".toList = word
  simp

/-- A class is read up to the end of its block. -/
theorem builds_classDefinition (column : Nat) (name : Identifier) {text : List Char}
    {nodes : List Syntax} (block : Builds (suite rules column) (':' :: text) () rest nodes)
    : Builds (classDefinition rules column) ((Header.ofClass name).text ++ ':' :: text) () rest
        [.node .classDefinition nodes] := by
  have isCode := name.isCode_text.append ([] ++ ':' :: text)
  rw [classText_eq]
  refine Builds.node ((reads_word isWord_class (endsWord_space _) (follows_space _ isCode)).bind ?_)
  refine (reads_name name.isWord_text (endsWord_cons (by decide) _)
    (follows_tight _ (isCode_colon text))).bind ?_
  refine (reads_isAt_false (by simp)).otherwise ?_
  refine (reads_isAt_false (by simp)).otherwise ?_
  exact block.bind_reads (reads_pure _ _)

/-- Behind `async` the next word is seen to be that of a function. -/
theorem reads_asyncAhead (column : Nat) (name : Identifier) (parameters : List Identifier)
    (text : List Char)
    : Reads (asyncAhead column "def") ("async".toList ++ ([' '] ++ signature name parameters text))
        true ("async".toList ++ ([' '] ++ signature name parameters text)) := by
  have isCode := name.isCode_text.append
    ([] ++ '(' :: (Header.parameterText parameters ++ ')' :: ':' :: text))
  refine reads_wouldRead (Reads.bind (reads_word isWord_async (endsWord_space _) ?_)
    (reads_word isWord_def (endsWord_space _) (follows_space _ isCode)))
  exact follows_space _ (isCode_cons (by decide) _)

/-- The word in front tells which definition a statement is. -/
theorem builds_definition (column : Nat) (header : Header) {text : List Char} {nodes : List Syntax}
    (block : Builds (suite rules column) (':' :: text) () rest nodes)
    : Builds (statement rules column) (header.text ++ ':' :: text) () rest
        [.node header.kind nodes] := by
  refine (reads_wordAhead _).bind ?_
  cases header with
  | function isAsync name parameters =>
      have builds := builds_functionDefinition column isAsync name parameters block
      rw [functionText_eq] at builds ⊢
      cases isAsync with
      | true =>
          rw [if_pos rfl, wordOf_append isWord_async (endsWord_space _)]
          exact (reads_asyncAhead column name parameters text).thereupon builds
      | false =>
          rw [if_neg Bool.false_ne_true, signature, wordOf_append isWord_def (endsWord_space _)]
          exact builds
  | ofClass name =>
      have builds := builds_classDefinition column name block
      rw [classText_eq] at builds ⊢
      rw [wordOf_append isWord_class (endsWord_space _)]
      exact builds

end DocSurvey.Python
