import DocSurvey.Proofs.Python.Literals
import DocSurvey.Python.Module
import Mathlib

/-! No rule of the Python grammar loses a character. What is built so far and what is left spell the
text that the parse started with, whatever a rule reads, and a rule made of others inherits this
from them. So a tree is a reading of its whole source, and a node starts in the source where it does
in the tree.
-/

namespace DocSurvey.Python

open Std.Do DocSurvey.Python.Parser

set_option mvcgen.warning false

/-- The text that a parse started with. -/
structure Source where
  text : List Char

/-- The parts built so far are the start of the source, and what is left is the rest of it. -/
structure State.Spells (s : State) (source : Source) : Prop where
  whole : Syntax.textOf s.built.reverse ++ s.rest = source.text

/-- Whatever the rule reads, nothing of the source is lost. -/
abbrev Keeps (source : Source) (rule : Parser α) : Prop :=
  ⦃fun s => ⌜s.Spells source⌝⦄ rule ⦃⇓? _ s => ⌜s.Spells source⌝⦄

variable {α β : Type} {source : Source}

/-- A rule keeps the source exactly if what it leaves spells the source whenever what it found did.
-/
theorem keeps_iff {rule : Parser α}
    : Keeps source rule
      ↔ ∀ s value s', rule.run s = some (value, s') → s.Spells source → s'.Spells source := by
  have runs : Keeps source rule ↔ ∀ s, s.Spells source →
      (wp⟦rule.run s⟧ (fun result => ⌜result.2.Spells source⌝, ExceptConds.true)).down := Iff.rfl
  rw [runs]
  constructor
  · intro kept s value s' read spells
    have found := kept s spells
    rwa [read] at found
  · intro kept s spells
    cases read : rule.run s with
    | none => trivial
    | some result => exact kept s result.1 result.2 read spells

/-- A rule that starts with nothing built takes what is left for the whole source. -/
theorem textOf_built {rule : Parser α} (kept : ∀ source, Keeps source rule) {text : List Char}
    {inFormat : Bool} {value : α} {final : State}
    (read : rule.run ⟨text, inFormat, []⟩ = some (value, final))
    : Syntax.textOf final.built.reverse ++ final.rest = text :=
  (keeps_iff.mp (kept ⟨text⟩) _ value final read ⟨rfl⟩).whole

-----------------------------------------------------------------------------------------
-- Steps and repetitions
-----------------------------------------------------------------------------------------

/-- A rule that fails leaves nothing that could be wrong. -/
@[spec] theorem keeps_failure : Keeps source (failure : Parser α) :=
  keeps_iff.mpr fun _ _ _ read => nomatch read

/-- The second of two rules starts where the first one started, so either keeps the source. -/
@[spec] theorem keeps_orElse {rule other : Parser α} (first : Keeps source rule)
    (second : Keeps source other)
    : Keeps source (rule <|> other) := by
  rw [keeps_iff] at first second ⊢
  intro s value s' read
  have either : (rule <|> other).run s = (rule.run s <|> other.run s) := rfl
  rw [either] at read
  cases attempt : rule.run s with
  | none =>
      rw [attempt] at read
      exact second s value s' read
  | some result =>
      rw [attempt] at read
      exact first s value s' (attempt.trans read)

/-- A rule that may fail keeps the source if it does so where it reads something. -/
@[spec] theorem keeps_optional {rule : Parser α} (kept : Keeps source rule)
    : Keeps source (optional rule) := by
  unfold optional
  mvcgen [kept]

@[spec] theorem keeps_orM {left right : Parser Bool} (first : Keeps source left)
    (second : Keeps source right)
    : Keeps source (left <||> right) := by
  unfold orM
  mvcgen [first, second]

@[spec] theorem keeps_andM {left right : Parser Bool} (first : Keeps source left)
    (second : Keeps source right)
    : Keeps source (left <&&> right) := by
  unfold andM
  mvcgen [first, second]

@[spec] theorem keeps_ahead : Keeps source ahead := by
  mvcgen [ahead]

/-- The characters taken move from what is left to what is built. -/
@[spec] theorem keeps_take (count : Nat) : Keeps source (take count) := by
  refine keeps_iff.mpr fun s _ s' read ⟨whole⟩ => ⟨?_⟩
  cases Option.some.inj read
  rw [← List.take_append_drop count s.rest] at whole
  dsimp only
  generalize s.rest.take count = passed at *
  rw [← whole]
  cases passed <;> simp [Takes.textOf_append, Syntax.textOf, Syntax.toList]

/-- A condition passes nothing. -/
@[spec] theorem keeps_require (condition : Bool) : Keeps source (require condition) := by
  mvcgen [require]

/-- Nothing is read, whatever the rule does. -/
@[spec] theorem keeps_wouldRead (rule : Parser α) : Keeps source (wouldRead rule) := by
  refine keeps_iff.mpr fun s value s' read spells => ?_
  suffices s' = s from this ▸ spells
  cases attempt : (optional rule).run s with
  | none => simp [wouldRead, attempt] at read
  | some result =>
      have same : result.1.isSome = value ∧ s = s' := by simpa [wouldRead, attempt] using read
      exact same.2.symm

@[spec] theorem keeps_budget : Keeps source budget := by
  mvcgen [budget]

/-- A loop keeps the source if each turn does, by induction over its budget. -/
@[spec] theorem keeps_whileMore_go {step : Parser Bool} (kept : Keeps source step)
    (budget : List Char)
    : Keeps source (whileMore.go step budget) := by
  induction budget with
  | nil => mvcgen [whileMore.go]
  | cons _ budget ih => mvcgen [whileMore.go, kept, ih]

/-- A loop keeps the source on whatever budget the text ahead allows. -/
@[spec] theorem keeps_whileMore {step : Parser Bool} (kept : Keeps source step)
    : Keeps source (whileMore step) := by
  mvcgen [whileMore, kept]

/-- A loop with a value keeps the source if each turn does, by induction over its budget. -/
@[spec] theorem keeps_iterate_go {step : α → Parser (Option α)}
    (kept : ∀ value, Keeps source (step value)) (budget : List Char) (value : α)
    : Keeps source (iterate.go step budget value) := by
  induction budget generalizing value with
  | nil => mvcgen [iterate.go]
  | cons _ budget ih => mvcgen [iterate.go, kept, ih]

/-- A loop with a value keeps the source from any value on. -/
@[spec] theorem keeps_iterate {step : α → Parser (Option α)}
    (kept : ∀ value, Keeps source (step value)) (start : α)
    : Keeps source (iterate step start) := by
  mvcgen [iterate, kept]

/-- What the rule builds is the text of the node, which stands where its parts would. -/
@[spec] theorem keeps_node {rule : Parser Kind} (kept : ∀ source, Keeps source rule)
    : Keeps source (node rule) := by
  refine keeps_iff.mpr fun s _ s' read ⟨whole⟩ => ⟨?_⟩
  cases inside : rule.run { s with built := [] } with
  | none => simp [node, inside] at read
  | some result =>
      have spelled := textOf_built kept inside
      obtain rfl :
          { result.2 with built := .node result.1 result.2.built.reverse :: s.built } = s' := by
        simpa [node, inside] using read
      simpa [Takes.textOf_append, Syntax.textOf, Syntax.toList, spelled] using whole

/-- A rule that is given the text it passes adds its parts to those that are there. -/
@[spec] theorem keeps_withText {rule : Parser α} (kept : ∀ source, Keeps source rule)
    : Keeps source (withText rule) := by
  refine keeps_iff.mpr fun s _ s' read ⟨whole⟩ => ⟨?_⟩
  cases inside : rule.run { s with built := [] } with
  | none => simp [withText, inside] at read
  | some result =>
      have spelled := textOf_built kept inside
      obtain ⟨-, rfl⟩ : _ ∧ { result.2 with built := result.2.built ++ s.built } = s' := by
        simpa [withText, inside] using read
      simpa [Takes.textOf_append, spelled] using whole

-----------------------------------------------------------------------------------------
-- Tokens and lists
-----------------------------------------------------------------------------------------

section Tokens

variable (c : Context)

/-- Blanks, comments and joined lines go into the tree as plain text. -/
@[spec] theorem keeps_skip (column : Nat) (place : Place) : Keeps source (skip column place) := by
  mvcgen [skip]

/-- A token goes into the tree with the blanks behind it. -/
@[spec] theorem keeps_token (count : Nat) : Keeps source (token c count) := by
  mvcgen [token]

/-- To look for characters ahead passes nothing. -/
@[spec] theorem keeps_isAt (characters : String) : Keeps source (isAt characters) := by
  mvcgen [isAt]

@[spec] theorem keeps_symbol (characters : String) : Keeps source (symbol c characters) := by
  mvcgen [symbol]

@[spec] theorem keeps_accept (characters : String) : Keeps source (accept c characters) := by
  mvcgen [accept]

@[spec] theorem keeps_wordAhead : Keeps source wordAhead := by
  mvcgen [wordAhead]

@[spec] theorem keeps_isAtWord (keyword : String) : Keeps source (isAtWord keyword) := by
  mvcgen [isAtWord]

/-- One of several symbols is passed, or nothing. -/
@[spec] theorem keeps_acceptAny (symbols : List String) : Keeps source (acceptAny c symbols) := by
  mvcgen [acceptAny]

@[spec] theorem keeps_word (keyword : String) : Keeps source (word c keyword) := by
  mvcgen [word]

@[spec] theorem keeps_acceptWord (keyword : String) : Keeps source (acceptWord c keyword) := by
  mvcgen [acceptWord]

/-- A name that is no keyword keeps the source. -/
@[spec] theorem keeps_name : Keeps source (name c) := by
  mvcgen [name]

/-- Names with dots between them keep the source. -/
@[spec] theorem keeps_dottedName : Keeps source (dottedName c) := by
  mvcgen [dottedName]

/-- To look for the end of a statement passes nothing. -/
@[spec] theorem keeps_isAtEnd : Keeps source isAtEnd := by
  mvcgen [isAtEnd]

/-- To look for the start of an expression passes nothing. -/
@[spec] theorem keeps_expressionAhead (stops : List String)
    : Keeps source (expressionAhead stops) := by
  mvcgen [expressionAhead]

@[spec] theorem keeps_unlessAt (closings : List String) : Keeps source (unlessAt closings) := by
  mvcgen [unlessAt]

/-- To look for the clause of a comprehension passes nothing. -/
@[spec] theorem keeps_clauseAhead : Keeps source clauseAhead := by
  mvcgen [clauseAhead]

section Lists

variable {more : Parser Bool} {item : Parser α}

/-- Items with commas between them keep the source, by induction over the budget. -/
@[spec] theorem keeps_commaSeparated_go (others : Keeps source more) (kept : Keeps source item)
    (budget : List Char) (items : List α)
    : Keeps source (commaSeparated.go c more item budget items) := by
  induction budget generalizing items with
  | nil => mvcgen [commaSeparated.go]
  | cons _ budget ih => mvcgen [commaSeparated.go, others, kept, ih]

/-- A list of items keeps the source if each item does and what tells that more follow. -/
@[spec] theorem keeps_commaSeparated (others : Keeps source more) (kept : Keeps source item)
    : Keeps source (commaSeparated c more item) := by
  mvcgen [commaSeparated, others, kept]

/-- Items up to a closing bracket keep the source. -/
@[spec] theorem keeps_furtherItems (closing : String) (kept : Keeps source item)
    : Keeps source (furtherItems c closing item) := by
  mvcgen [furtherItems, kept]

end Lists

end Tokens

-----------------------------------------------------------------------------------------
-- Expressions
-----------------------------------------------------------------------------------------

/-- Nothing of any source is lost by the phrases that a rule refers to. -/
class KeepsAll (rules : Rules) : Prop where
  keeps : ∀ source phrase, Keeps source (rules phrase)

section Grammar

variable {rules : Rules} [KeepsAll rules] (c : Context)

/-- The phrases that rules refer to keep the source by assumption. -/
@[spec] theorem keeps_phrase (phrase : Phrase) : Keeps source (rules phrase) :=
  KeepsAll.keeps source phrase

/-- One turn through a literal's body passes an escape, a replacement field or plain characters. -/
@[spec] theorem keeps_bodyTurn (style : QuoteStyle) (state : Bool × Bool × Bool)
    : Keeps source (bodyTurn rules c style state) := by
  mvcgen [bodyTurn]

@[spec] theorem keeps_body (style : QuoteStyle) : Keeps source (body rules c style) := by
  mvcgen [body]

/-- A literal keeps the source with its prefix, its quotes and the fields in it. -/
@[spec] theorem keeps_literal : Keeps source (literal rules c) := by
  mvcgen [literal]
  all_goals
    rename_i spells _
    exact ⟨spells.whole⟩

/-- Adjacent literals keep the source, by induction over the budget. -/
@[spec] theorem keeps_literals_go (budget : List Char) (found : List StringLiteral)
    : Keeps source (literals.go rules c budget found) := by
  induction budget generalizing found with
  | nil => mvcgen [literals.go]
  | cons _ budget ih => mvcgen [literals.go, ih]

@[spec] theorem keeps_literals : Keeps source (literals rules c) := by
  mvcgen [literals]

/-- The targets of a loop or a comprehension keep the source. -/
@[spec] theorem keeps_targetList : Keeps source (targetList rules c) := by
  mvcgen [targetList]

/-- The clauses of a comprehension keep the source. -/
@[spec] theorem keeps_clauses : Keeps source (clauses rules c) := by
  mvcgen [clauses]

/-- Expressions with commas between them keep the source. -/
@[spec] theorem keeps_expressionList (stops : List String)
    : Keeps source (expressionList rules c stops) := by
  mvcgen [expressionList]

@[spec] theorem keeps_yielded : Keeps source (yielded rules c) := by
  mvcgen [yielded]

@[spec] theorem keeps_starred : Keeps source (starred rules c) := by
  mvcgen [starred]

@[spec] theorem keeps_item : Keeps source (item rules c) := by
  mvcgen [item]

/-- Brackets keep the source with the items or the comprehension in them. -/
@[spec] theorem keeps_bracketed (opening closing : String)
    : Keeps source (bracketed rules c opening closing) := by
  mvcgen [bracketed]

@[spec] theorem keeps_entryValue : Keeps source (entryValue rules c) := by
  mvcgen [entryValue]

@[spec] theorem keeps_entry : Keeps source (entry rules c) := by
  mvcgen [entry]

/-- Braces keep the source, be it a set or a dictionary that stands in them. -/
@[spec] theorem keeps_braced : Keeps source (braced rules c) := by
  mvcgen [braced]

@[spec] theorem keeps_argumentName : Keeps source (argumentName c) := by
  mvcgen [argumentName]

/-- An argument of a call keeps the source, with a name in front or stars. -/
@[spec] theorem keeps_argument : Keeps source (argument rules c) := by
  mvcgen [argument]

@[spec] theorem keeps_arguments : Keeps source (arguments rules c) := by
  mvcgen [arguments]

/-- A subscript keeps the source with its slices. -/
@[spec] theorem keeps_subscript : Keeps source (subscript rules c) := by
  mvcgen [subscript]

/-- Calls, subscripts and attributes behind an operand keep the source. -/
@[spec] theorem keeps_trailers (start : Shape) : Keeps source (trailers rules c start) := by
  mvcgen [trailers]

/-- An atom keeps the source, whichever of its forms it has. -/
@[spec] theorem keeps_atom : Keeps source (atom rules c) := by
  mvcgen [atom]

@[spec] theorem keeps_awaitable : Keeps source awaitable := by
  mvcgen [awaitable]

/-- An operand keeps the source with its signs and with what trails it. -/
@[spec] theorem keeps_operand : Keeps source (operand rules c) := by
  mvcgen [operand]

@[spec] theorem keeps_arithmeticOperator : Keeps source (arithmeticOperator c) := by
  mvcgen [arithmeticOperator]

@[spec] theorem keeps_comparisonOperator : Keeps source (comparisonOperator c) := by
  mvcgen [comparisonOperator]

/-- Operands with operators between them keep the source. -/
@[spec] theorem keeps_comparison : Keeps source (comparison rules c) := by
  mvcgen [comparison]

/-- A parameter keeps the source with its type and its default value. -/
@[spec] theorem keeps_parameter (typed : Bool) : Keeps source (parameter rules c typed) := by
  mvcgen [parameter]

/-- A function without a name keeps the source. -/
@[spec] theorem keeps_lambda : Keeps source (lambda rules c) := by
  mvcgen [lambda]

/-- An expression without a conditional part keeps the source. -/
@[spec] theorem keeps_unit : Keeps source (unit rules c) := by
  mvcgen [unit]

/-- An expression keeps the source with its condition and the value otherwise. -/
@[spec] theorem keeps_expression : Keeps source (expression rules c) := by
  mvcgen [expression]

/-- A replacement field keeps the source with its conversion and its format. -/
@[spec] theorem keeps_field : Keeps source (field rules c) := by
  mvcgen [field]

-----------------------------------------------------------------------------------------
-- Types and patterns
-----------------------------------------------------------------------------------------

@[spec] theorem keeps_typeArguments : Keeps source (typeArguments rules c) := by
  mvcgen [typeArguments]

@[spec] theorem keeps_genericName : Keeps source (genericName c) := by
  mvcgen [genericName]

/-- A type keeps the source, with its bounds where it may have some. -/
@[spec] theorem keeps_typed (bounded : Bool) : Keeps source (typed rules c bounded) := by
  mvcgen [typed]

/-- The parameters of a definition keep the source with their brackets. -/
@[spec] theorem keeps_parameters : Keeps source (parameters rules c) := by
  mvcgen [parameters]

/-- A number in a pattern keeps the source, a complex one included. -/
@[spec] theorem keeps_numericPattern : Keeps source (numericPattern c) := by
  mvcgen [numericPattern]

@[spec] theorem keeps_bracketedPatterns (opening closing : String)
    : Keeps source (bracketedPatterns rules c opening closing) := by
  mvcgen [bracketedPatterns]

@[spec] theorem keeps_splatPattern : Keeps source (splatPattern c) := by
  mvcgen [splatPattern]

@[spec] theorem keeps_entryPattern : Keeps source (entryPattern rules c) := by
  mvcgen [entryPattern]

@[spec] theorem keeps_dictionaryPattern : Keeps source (dictionaryPattern rules c) := by
  mvcgen [dictionaryPattern]

/-- A pattern that needs no brackets around it keeps the source. -/
@[spec] theorem keeps_closedPattern : Keeps source (closedPattern rules c) := by
  mvcgen [closedPattern]

/-- A pattern keeps the source with its alternatives and the name it binds. -/
@[spec] theorem keeps_casePattern (named : Bool) : Keeps source (casePattern rules c named) := by
  mvcgen [casePattern]

-----------------------------------------------------------------------------------------
-- Statements without blocks
-----------------------------------------------------------------------------------------

@[spec] theorem keeps_importedNames : Keeps source (importedNames c) := by
  mvcgen [importedNames]

@[spec] theorem keeps_importedGroup : Keeps source (importedGroup c) := by
  mvcgen [importedGroup]

/-- An import from a module keeps the source with the names that are imported. -/
@[spec] theorem keeps_importFrom : Keeps source (importFrom c) := by
  mvcgen [importFrom]

/-- An expression statement keeps the source with all that is assigned in it. -/
@[spec] theorem keeps_expressionStatement : Keeps source (expressionStatement rules c) := by
  mvcgen [expressionStatement]

/-- A print statement of an older version keeps the source. -/
@[spec] theorem keeps_printStatement : Keeps source (printStatement rules c) := by
  mvcgen [printStatement]

/-- An exec statement of an older version keeps the source. -/
@[spec] theorem keeps_execStatement : Keeps source (execStatement rules c) := by
  mvcgen [execStatement]

@[spec] theorem keeps_chevronAhead : Keeps source (chevronAhead c) := by
  mvcgen [chevronAhead]

/-- The name of a type keeps the source with its parameters. -/
@[spec] theorem keeps_typeAlias : Keeps source (typeAlias rules c) := by
  mvcgen [typeAlias]

@[spec] theorem keeps_wholeExpression : Keeps source (wholeExpression rules c) := by
  mvcgen [wholeExpression]

/-- A statement without blocks keeps the source. -/
@[spec] theorem keeps_simpleStatement : Keeps source (simpleStatement rules c) := by
  mvcgen [simpleStatement]

/-- The statements of one line keep the source with the semicolons between them. -/
@[spec] theorem keeps_statementLine (column : Nat) : Keeps source (statementLine rules column) := by
  mvcgen [statementLine]

-----------------------------------------------------------------------------------------
-- Statements with blocks
-----------------------------------------------------------------------------------------

variable (column : Nat)

@[spec] theorem keeps_blockEnds : Keeps source (blockEnds column) := by
  mvcgen [blockEnds]

@[spec] theorem keeps_colon : Keeps source (colon column) := by
  mvcgen [colon]

/-- A block keeps the source, on the line of its header or on lines of its own. -/
@[spec] theorem keeps_suite : Keeps source (suite rules column) := by
  mvcgen [suite]

@[spec] theorem keeps_acceptClause (keyword : String)
    : Keeps source (acceptClause column keyword) := by
  mvcgen [acceptClause]

/-- The block for all other cases keeps the source. -/
@[spec] theorem keeps_elseClause : Keeps source (elseClause rules column) := by
  mvcgen [elseClause]

/-- A conditional statement keeps the source with all of its branches. -/
@[spec] theorem keeps_ifStatement : Keeps source (ifStatement rules column) := by
  mvcgen [ifStatement]

/-- A loop over items keeps the source. -/
@[spec] theorem keeps_forStatement : Keeps source (forStatement rules column) := by
  mvcgen [forStatement]

@[spec] theorem keeps_whileStatement : Keeps source (whileStatement rules column) := by
  mvcgen [whileStatement]

/-- A statement that manages contexts keeps the source, with brackets around them or without. -/
@[spec] theorem keeps_withStatement : Keeps source (withStatement rules column) := by
  mvcgen [withStatement]

@[spec] theorem keeps_groupClauses : Keeps source (groupClauses rules column) := by
  mvcgen [groupClauses]

/-- The handlers of a statement keep the source. -/
@[spec] theorem keeps_exceptClauses : Keeps source (exceptClauses rules column) := by
  mvcgen [exceptClauses]

/-- A statement with handlers keeps the source with its blocks for the other cases. -/
@[spec] theorem keeps_tryStatement : Keeps source (tryStatement rules column) := by
  mvcgen [tryStatement]

/-- The definition of a function keeps the source with its header and its block. -/
@[spec] theorem keeps_functionDefinition : Keeps source (functionDefinition rules column) := by
  mvcgen [functionDefinition]

/-- The definition of a class keeps the source with its header and its block. -/
@[spec] theorem keeps_classDefinition : Keeps source (classDefinition rules column) := by
  mvcgen [classDefinition]

/-- Decorators keep the source with the definition behind them. -/
@[spec] theorem keeps_decorated : Keeps source (decorated rules column) := by
  mvcgen [decorated]

/-- A case keeps the source with its pattern and its guard. -/
@[spec] theorem keeps_caseClause : Keeps source (caseClause rules column) := by
  mvcgen [caseClause]

/-- A statement of cases keeps the source. -/
@[spec] theorem keeps_matchStatement : Keeps source (matchStatement rules column) := by
  mvcgen [matchStatement]

@[spec] theorem keeps_asyncAhead (keyword : String) : Keeps source (asyncAhead column keyword) := by
  mvcgen [asyncAhead]

/-- A statement of either sort keeps the source. -/
@[spec] theorem keeps_statement : Keeps source (statement rules column) := by
  mvcgen [statement]

/-- The next statement of a block keeps the source with the blank lines in front of it. -/
@[spec] theorem keeps_nextStatement : Keeps source (nextStatement rules column) := by
  mvcgen [nextStatement]

/-- The statements of a block keep the source. -/
@[spec] theorem keeps_items : Keeps source (items rules column) := by
  mvcgen [items]

end Grammar

-----------------------------------------------------------------------------------------
-- Whole files
-----------------------------------------------------------------------------------------

/-- Each phrase of the grammar keeps the source if the phrases that it refers to do. -/
theorem keeps_ruleOf (rules : Rules) [KeepsAll rules] (phrase : Phrase)
    : Keeps source (ruleOf rules phrase) := by
  cases phrase <;> rw [ruleOf] <;> mvcgen

/-- The rules keep the source however deep phrases are nested, by induction over the depth. -/
instance (depth : Nat) : KeepsAll (nested depth) := by
  induction depth with
  | zero => exact ⟨fun _ _ => keeps_failure⟩
  | succ depth ih => exact ⟨fun _ phrase => keeps_ruleOf (nested depth) phrase⟩

/-- The tree of a file has the file's text, without the byte order mark in front of it. -/
theorem eq_toList_of_parse {text : List Char} {tree : Syntax} (parsed : parse text = some tree)
    : text = tree.toList ∨ text = '\ufeff' :: tree.toList := by
  obtain ⟨⟨_, final⟩, read, accepted⟩ := Option.bind_eq_some_iff.mp parsed
  obtain ⟨⟨isEnd, -⟩, rfl⟩ : (final.rest = [] ∧ _) ∧ _ = tree := by
    simpa only [Option.ite_none_right_eq_some, Bool.and_eq_true, List.isEmpty_iff,
      Option.some.injEq] using accepted
  have whole := textOf_built (fun _ => keeps_items 0) read
  rw [isEnd, List.append_nil] at whole
  change text = Syntax.textOf final.built.reverse
    ∨ text = '\ufeff' :: Syntax.textOf final.built.reverse
  rw [whole]
  split
  · exact .inr rfl
  · exact .inl rfl

end DocSurvey.Python
