import DocSurvey.Proofs.Python.Outline
import DocSurvey.Proofs.Python.Layout
import DocSurvey.Proofs.Text.Characters
import DocSurvey.Python.Parser

/-! What the rules of the Python grammar read. A rule takes the start of a text, gives a value and
adds nodes to what was built before. Each rule that others are made of has a lemma here, and rules
one after another read one after another.
-/

namespace DocSurvey.Python

open DocSurvey.Text

/-- The rule reads the text up to the rest, gives the value and builds the nodes. -/
def Builds (rule : Parser α) (text : List Char) (value : α) (rest : List Char) (nodes : List Syntax)
    : Prop :=
  ∀ built, ∃ parts,
    rule.run ⟨text, false, built⟩ = some (value, ⟨rest, false, parts.reverse ++ built⟩)
      ∧ Syntax.outlineOf parts = nodes

/-- The rule reads the text up to the rest, gives the value and builds no node. -/
def Reads (rule : Parser α) (text : List Char) (value : α) (rest : List Char) : Prop :=
  Builds rule text value rest []

variable {α β : Type} {rule : Parser α} {next : α → Parser β} {text middle rest : List Char}
  {value : α} {other : β} {nodes further : List Syntax}

-----------------------------------------------------------------------------------------
-- Rules one after another
-----------------------------------------------------------------------------------------

/-- One rule after another builds the nodes of both, in order. -/
theorem Builds.bind (first : Builds rule text value middle nodes)
    (second : Builds (next value) middle other rest further)
    : Builds (rule >>= next) text other rest (nodes ++ further) := by
  intro built
  obtain ⟨parts, isFirst, rfl⟩ := first built
  obtain ⟨others, isSecond, rfl⟩ := second (parts.reverse ++ built)
  refine ⟨parts ++ others, ?_, by simp⟩
  rw [StateT.run_bind, isFirst]
  simpa using isSecond

theorem Reads.bind (first : Reads rule text value middle)
    (second : Builds (next value) middle other rest nodes)
    : Builds (rule >>= next) text other rest nodes :=
  Builds.bind first second

/-- A rule that builds nothing adds no nodes behind those of the first one. -/
theorem Builds.bind_reads (first : Builds rule text value middle nodes)
    (second : Reads (next value) middle other rest)
    : Builds (rule >>= next) text other rest nodes := by
  have whole := first.bind second
  rwa [List.append_nil] at whole

/-- A condition that holds decides what is read next. -/
theorem Reads.thereupon {condition : Parser Bool} {yes no : Parser β}
    (holds : Reads condition text true middle) (builds : Builds yes middle other rest nodes)
    : Builds (condition >>= fun found => if found = true then yes else no) text other rest nodes :=
  holds.bind builds

/-- Where a condition fails, what is read goes on with the other branch. -/
theorem Reads.otherwise {condition : Parser Bool} {yes no : Parser β}
    (fails : Reads condition text false middle) (builds : Builds no middle other rest nodes)
    : Builds (condition >>= fun found => if found = true then yes else no) text other rest nodes :=
  fails.bind builds

theorem reads_pure (value : α) (text : List Char) : Reads (pure value) text value text :=
  fun _ => ⟨[], rfl, by simp⟩

/-- What a rule builds goes into one node. -/
theorem Builds.node {rule : Parser Kind} {kind : Kind} (builds : Builds rule text kind rest nodes)
    : Builds (Parser.node rule) text () rest [.node kind nodes] := by
  intro built
  obtain ⟨parts, read, rfl⟩ := builds []
  refine ⟨[.node kind parts], ?_, by simp⟩
  simp [Parser.node, StateT.run_bind, read]

namespace Parser

theorem reads_ahead (text : List Char) : Reads ahead text text text :=
  fun _ => ⟨[], rfl, by simp⟩

/-- As many characters are passed as are taken. -/
theorem reads_take (passed rest : List Char)
    : Reads (take passed.length) (passed ++ rest) () rest := by
  intro built
  cases passed with
  | nil => exact ⟨[], by simp [take], by simp⟩
  | cons c passed => exact ⟨[.text (c :: passed)], by simp [take], by simp⟩

theorem reads_require {condition : Bool} (holds : condition = true) (text : List Char)
    : Reads (require condition) text () text := by
  rw [require, if_pos holds]
  exact reads_pure () text

theorem run_optional_of_some {s s' : State} (read : rule.run s = some (value, s'))
    : (optional rule).run s = some (some value, s') := by
  have mapped : (some <$> rule).run s = some (some value, s') := by simp [read]
  change ((some <$> rule).run s).orElse _ = _
  rw [mapped]
  rfl

/-- To ask whether a rule would read passes nothing and leaves no nodes behind. -/
theorem reads_wouldRead (builds : Builds rule text value rest nodes)
    : Reads (wouldRead rule) text true text := by
  intro built
  obtain ⟨parts, read, -⟩ := builds built
  refine ⟨[], ?_, by simp⟩
  simp [wouldRead, run_optional_of_some read]

-----------------------------------------------------------------------------------------
-- Tokens
-----------------------------------------------------------------------------------------

variable {c : Context} {blanks token : List Char}

/-- The blanks in front of the rest are passed over behind a token. -/
def Follows (c : Context) (blanks rest : List Char) : Prop :=
  blanksAhead c.after c.column false (blanks ++ rest) = some blanks.length

/-- A token may stand right before the next one. -/
theorem follows_tight (c : Context) (isCode : IsCode rest) : Follows c [] rest :=
  blanksAhead_spaces isCode c.after c.column 0

/-- A token may have one space behind it. -/
theorem follows_space (c : Context) (isCode : IsCode rest) : Follows c [' '] rest :=
  blanksAhead_spaces isCode c.after c.column 1

/-- Behind the last token of a statement the line ends. -/
theorem follows_end (column : Nat) (rest : List Char)
    : Follows (.statement column) [] ('\n' :: rest) :=
  blanksAhead_ending column false rest

/-- All blanks that stand ahead are skipped, and nothing else is. -/
theorem reads_skip {column : Nat} {place : Place}
    (passes : blanksAhead place column false (blanks ++ rest) = some blanks.length)
    : Reads (skip column place) (blanks ++ rest) () rest := by
  intro built
  obtain ⟨parts, read, outline⟩ := reads_take blanks rest built
  refine ⟨parts, ?_, outline⟩
  simpa [skip, passes] using read

/-- A token is read together with the blanks behind it. -/
theorem reads_token (token : List Char) (follows : Follows c blanks rest)
    : Reads (Parser.token c token.length) (token ++ (blanks ++ rest)) () rest :=
  (reads_take token (blanks ++ rest)).bind (reads_skip follows)

section Symbols

variable {characters : String}

/-- Characters that do not start as the text does are not in front of it. -/
theorem not_prefix_of_head {text : List Char}
    (apart : ∃ sign ∈ characters.toList.head?, sign ∉ text.head?)
    : ¬ characters.toList <+: text := by
  rintro ⟨behind, rfl⟩
  obtain ⟨sign, isHead, other⟩ := apart
  obtain ⟨signs, isSigns⟩ := List.head?_eq_some_iff.mp isHead
  exact other (by simp [isSigns])

theorem reads_isAt (characters : String) (text : List Char)
    : Reads (isAt characters) text (characters.toList.isPrefixOf text) text :=
  (reads_ahead text).bind (reads_pure _ text)

/-- Characters that the text does not start with are not found. -/
theorem reads_isAt_false (differs : ¬ characters.toList <+: text)
    : Reads (isAt characters) text false text := by
  have starts : characters.toList.isPrefixOf text = false := by
    simpa [← Bool.not_eq_true, List.isPrefixOf_iff_prefix] using differs
  have read := reads_isAt characters text
  rwa [starts] at read

theorem reads_isAt_true (characters : String) (more : List Char)
    : Reads (isAt characters) (characters.toList ++ more) true (characters.toList ++ more) := by
  have starts : characters.toList.isPrefixOf (characters.toList ++ more) = true :=
    List.isPrefixOf_iff_prefix.mpr (List.prefix_append _ _)
  have read := reads_isAt characters (characters.toList ++ more)
  rwa [starts] at read

theorem reads_characters (characters : String) (follows : Follows c blanks rest)
    : Reads (Parser.token c characters.length) (characters.toList ++ (blanks ++ rest)) () rest :=
  reads_token characters.toList follows

theorem reads_symbol (characters : String) (follows : Follows c blanks rest)
    : Reads (symbol c characters) (characters.toList ++ (blanks ++ rest)) () rest :=
  (reads_isAt_true characters _).bind
    ((reads_require rfl _).bind (reads_characters characters follows))

theorem reads_accept (characters : String) (follows : Follows c blanks rest)
    : Reads (accept c characters) (characters.toList ++ (blanks ++ rest)) true rest :=
  (reads_isAt_true characters _).thereupon
    ((reads_characters characters follows).bind (reads_pure true rest))

theorem reads_accept_false (differs : ¬ characters.toList <+: text)
    : Reads (accept c characters) text false text :=
  (reads_isAt_false differs).otherwise (reads_pure false text)

/-- None of several symbols is accepted if the text starts with none, by induction over them. -/
theorem reads_acceptAny_false {symbols : List String}
    (differ : ∀ characters ∈ symbols, ¬ characters.toList <+: text)
    : Reads (acceptAny c symbols) text false text := by
  refine (reads_ahead text).bind ?_
  have none : (symbols.find? fun characters => characters.toList.isPrefixOf text) = none := by
    simpa using differ
  rw [none]
  exact reads_pure false text

end Symbols

-----------------------------------------------------------------------------------------
-- Words
-----------------------------------------------------------------------------------------

/-- The characters are those of an identifier or a keyword. -/
def IsWord (word : List Char) : Prop :=
  ∃ c others, word = c :: others ∧ isIdentifierStart c = true
    ∧ ∀ d ∈ others, isIdentifierChar d = true

/-- The text does not go on with a character of a word. -/
def EndsWord (text : List Char) : Prop :=
  ∀ c ∈ text.head?, isIdentifierChar c = false

/-- A word ahead is the whole of it, and nothing of what ends it. -/
theorem wordOf_append {word : List Char} (isWord : IsWord word) (ends : EndsWord rest)
    : wordOf (word ++ rest) = word := by
  obtain ⟨c, others, rfl, starts, inside⟩ := isWord
  have stops : rest.takeWhile isIdentifierChar = [] := by
    cases rest with
    | nil => rfl
    | cons d rest => rw [List.takeWhile_cons_of_neg (by simp [ends d rfl])]
  rw [List.cons_append, wordOf, if_pos starts, List.takeWhile_append_of_pos inside, stops,
    List.append_nil]

theorem reads_wordAhead (text : List Char) : Reads wordAhead text (wordOf text) text :=
  (reads_ahead text).bind (reads_pure _ text)

section Keywords

variable {keyword : String}

/-- A keyword is not found where another word stands ahead. -/
theorem reads_isAtWord_false (differs : wordOf text ≠ keyword.toList)
    : Reads (isAtWord keyword) text false text := by
  refine (reads_wordAhead text).bind ?_
  rw [beq_eq_false_iff_ne.mpr differs]
  exact reads_pure false text

/-- A keyword is found where it stands ahead as a whole word. -/
theorem reads_isAtWord_true (isWord : IsWord keyword.toList) (ends : EndsWord text)
    : Reads (isAtWord keyword) (keyword.toList ++ text) true (keyword.toList ++ text) := by
  refine (reads_wordAhead _).bind ?_
  rw [wordOf_append isWord ends, beq_self_eq_true]
  exact reads_pure true _

/-- A keyword is read together with the blanks behind it. -/
theorem reads_word (isWord : IsWord keyword.toList) (ends : EndsWord (blanks ++ rest))
    (follows : Follows c blanks rest)
    : Reads (word c keyword) (keyword.toList ++ (blanks ++ rest)) () rest :=
  (reads_isAtWord_true isWord ends).bind
    ((reads_require rfl _).bind (reads_characters keyword follows))

theorem reads_acceptWord (isWord : IsWord keyword.toList) (ends : EndsWord (blanks ++ rest))
    (follows : Follows c blanks rest)
    : Reads (acceptWord c keyword) (keyword.toList ++ (blanks ++ rest)) true rest :=
  (reads_isAtWord_true isWord ends).thereupon
    ((reads_characters keyword follows).bind (reads_pure true rest))

theorem reads_acceptWord_false (differs : wordOf text ≠ keyword.toList)
    : Reads (acceptWord c keyword) text false text :=
  (reads_isAtWord_false differs).otherwise (reads_pure false text)

end Keywords

/-- A word that may be a name is read as one. -/
theorem reads_name {word : List Char} (isWord : IsWord word) (ends : EndsWord (blanks ++ rest))
    (follows : Follows c blanks rest)
    : Reads (name c) (word ++ (blanks ++ rest)) () rest := by
  refine (reads_wordAhead _).bind ?_
  rw [wordOf_append isWord ends]
  refine (reads_require ?_ _).bind (reads_token word follows)
  obtain ⟨c, others, rfl, -⟩ := isWord
  rfl

-----------------------------------------------------------------------------------------
-- Repetition
-----------------------------------------------------------------------------------------

/-- The budget of a loop is one character longer than what it has ahead. -/
theorem reads_budget (text : List Char) : Reads budget text ('\n' :: text) text :=
  (reads_ahead text).bind (reads_pure _ text)

/-- A loop builds what it builds on a budget of one character more than it has ahead. -/
theorem builds_whileMore {step : Parser Bool}
    (builds : Builds (whileMore.go step ('\n' :: text)) text () rest nodes)
    : Builds (whileMore step) text () rest nodes :=
  (reads_budget text).bind builds

/-- A step that answers that there is no more is the last one. -/
theorem reads_whileMore_go {step : Parser Bool} (stops : Reads step text false rest) (first : Char)
    (budget : List Char)
    : Reads (whileMore.go step (first :: budget)) text () rest :=
  stops.otherwise (reads_pure () rest)

/-- A turn that goes on uses up one character of the budget, and its nodes come first. -/
theorem builds_whileMore_go {step : Parser Bool} {budget : List Char}
    (goesOn : Builds step text true middle nodes)
    (onward : Builds (whileMore.go step budget) middle () rest further) (first : Char)
    : Builds (whileMore.go step (first :: budget)) text () rest (nodes ++ further) :=
  goesOn.bind onward

/-- A loop whose first turn stops it reads what that turn reads. -/
theorem reads_whileMore {step : Parser Bool} (stops : Reads step text false rest)
    : Reads (whileMore step) text () rest :=
  builds_whileMore (reads_whileMore_go stops _ _)

theorem reads_iterate {step : α → Parser (Option α)} (stops : Reads (step value) text none rest)
    : Reads (iterate step value) text value rest :=
  (reads_budget text).bind (stops.bind (reads_pure value rest))

/-- An item without a comma behind it is the only one. -/
theorem reads_commaSeparated_single {more : Parser Bool} {item : Parser α}
    (reads : Reads item text value rest) (noComma : ¬ ",".toList <+: rest)
    : Reads (commaSeparated c more item) text [value] rest :=
  (reads_budget text).bind (reads.bind
    ((reads_accept_false noComma).otherwise (reads_pure [value] rest)))

end Parser

end DocSurvey.Python
