import DocSurvey.Proofs.Python.Places
import DocSurvey.Proofs.Python.Quotes

/-! What documents a definition depends on what its literals say and not on how they are written.
The text may be split among adjacent literals, each in quotes of its own and with or without a
letter in front, and comments may stand before it.
-/

namespace DocSurvey.Python

open DocSurvey.Text

-----------------------------------------------------------------------------------------
-- Literals as they are written
-----------------------------------------------------------------------------------------

/-- A literal of plain text as it is written: at most a letter that makes no other sort of literal
of it, quotes of one of the four styles, and a body that they do not end early.
-/
structure Writing where
  flag : Option Char
  quote : Char
  tripled : Bool
  body : List Char
  isFlag : ∀ c ∈ flag, c ∈ ['r', 'R', 'u', 'U']
  isQuote : quote ∈ ['"', '\'']
  isOpen : staysOpen (quoteMarks quote tripled) body = true

namespace Writing

/-- The quotes at either end. -/
def marks (writing : Writing) : List Char :=
  quoteMarks writing.quote writing.tripled

/-- The literal as it stands in a file. -/
def text (writing : Writing) : List Char :=
  writing.flag.toList ++ (writing.marks ++ (writing.body ++ writing.marks))

def literal (writing : Writing) : StringLiteral :=
  ⟨writing.text, false⟩

/-- The letter in front of a literal of plain text makes no other sort of literal of it. -/
theorem flag_facts (writing : Writing)
    : ∀ c ∈ writing.flag.toList,
        isAsciiLetter c = true ∧ ['b', 'B', 'f', 'F'].contains c = false := by
  have flags : ∀ c ∈ ['r', 'R', 'u', 'U'],
      isAsciiLetter c = true ∧ ['b', 'B', 'f', 'F'].contains c = false :=
    forall_mem_of_all (by decide)
  exact fun c member => flags c (writing.isFlag c (Option.mem_toList.mp member))

/-- What a literal says is its body, whatever stands around it. -/
theorem literalBody_text (writing : Writing) : literalBody writing.text = writing.body := by
  refine literalBody_quoted (fun c member => (writing.flag_facts c member).1) writing.isQuote ?_
  intro single
  have isOpen := writing.isOpen
  rw [single] at isOpen
  exact notMem_head?_of_staysOpen writing.isQuote isOpen

/-- A literal of plain text is taken for text. -/
theorem isTextual_literal (writing : Writing) : writing.literal.isTextual = true := by
  have letters := fun c member => (writing.flag_facts c member).1
  have flags : writing.literal.flags = writing.flag.toList :=
    takeWhile_letters letters writing.isQuote _
  have noOther : writing.flag.toList.any (fun c => ['b', 'B', 'f', 'F'].contains c) = false := by
    rw [List.any_eq_false]
    exact fun c member => by simp only [(writing.flag_facts c member).2, Bool.false_eq_true,
      not_false_eq_true]
  rw [StringLiteral.isTextual, flags, noOther]
  rfl

end Writing

/-- What adjacent literals say together. -/
def textOfWritings (writings : List Writing) : List Char :=
  writings.flatMap Writing.body

/-- Adjacent literals of plain text document a definition if they say more than white space. -/
theorem isDocumentation_writings (writings : List Writing)
    : isDocumentation (writings.map Writing.literal)
        = (textOfWritings writings).any fun c => !isWhiteSpace c := by
  have textual : (writings.map Writing.literal).all StringLiteral.isTextual = true := by
    simp [Writing.isTextual_literal]
  rw [isDocumentation, textual, Bool.true_and, textOfWritings, List.any_map, List.any_flatMap]
  congr 1
  funext writing
  simp [Writing.literal, Writing.literalBody_text, isBlank, List.not_all_eq_any_not]

/-- One literal of bytes, or one that is formatted, keeps all of them from documenting anything. -/
theorem isDocumentation_eq_false {literals : List StringLiteral} {literal : StringLiteral}
    (member : literal ∈ literals)
    (other : (∃ c ∈ literal.flags, c ∈ ['b', 'B', 'f', 'F']) ∨ literal.interpolated = true)
    : isDocumentation literals = false := by
  have notTextual : literal.isTextual = false := by
    rcases other with ⟨c, isFlag, isOther⟩ | interpolated
    · have found : literal.flags.any (fun c => ['b', 'B', 'f', 'F'].contains c) = true :=
        List.any_eq_true.mpr ⟨c, isFlag, List.contains_iff_mem.mpr isOther⟩
      rw [StringLiteral.isTextual, found, Bool.not_true, Bool.false_and]
    · rw [StringLiteral.isTextual, interpolated, Bool.not_true, Bool.and_false]
  have notAll : literals.all StringLiteral.isTextual = false :=
    List.all_eq_false.mpr ⟨literal, member, by simp [notTextual]⟩
  rw [isDocumentation, notAll, Bool.false_and]

-----------------------------------------------------------------------------------------
-- What a definition opens with
-----------------------------------------------------------------------------------------

/-- The first statement among the parts of a block documents the definition. -/
def startDocuments (parts : List Syntax) : Bool :=
  match parts.findSome? Syntax.kind? with
  | some (.expression opening) => isDocumentation opening
  | _ => false

theorem isDocumented_block (parts rest : List Syntax)
    : isDocumented (.node .block parts :: rest) = startDocuments parts := rfl

/-- A node that is no block does not document the definition it is a part of. -/
theorem isDocumented_other {kind : Kind} (noBlock : kind ≠ .block) (parts rest : List Syntax)
    : isDocumented (.node kind parts :: rest) = isDocumented rest := by
  have skips : ((Syntax.node kind parts).kind? == some .block) = false := by
    simpa [Syntax.kind?] using noBlock
  simp only [isDocumented, List.find?_cons, skips]

/-- The block among the parts of a definition opens with an expression statement of the literals.
Nothing but plain text, blanks and comments, stands in front of it.
-/
def OpensWith (parts : List Syntax) (literals : List StringLiteral) : Prop :=
  ∃ front comments inner more rest,
    parts = front ++ .node .block (comments ++ .node (.expression literals) inner :: more) :: rest
      ∧ (∀ part ∈ front, part.kind? ≠ some .block) ∧ ∀ part ∈ comments, part.kind? = none

/-- Parts in front of the block play no role, by induction over them. -/
theorem isDocumented_append {front : List Syntax}
    (noBlock : ∀ part ∈ front, part.kind? ≠ some .block)
    (rest : List Syntax)
    : isDocumented (front ++ rest) = isDocumented rest := by
  induction front with
  | nil => rfl
  | cons part front ih =>
      obtain ⟨other, others⟩ := List.forall_mem_cons.mp noBlock
      cases part with
      | text characters => exact ih others
      | node kind parts =>
          have other : kind ≠ .block := fun same => other (congrArg some same)
          rw [List.cons_append, isDocumented_other other, ih others]

/-- Comments in front of the first statement play no role. -/
theorem startDocuments_append {comments : List Syntax}
    (plain : ∀ part ∈ comments, part.kind? = none)
    (rest : List Syntax)
    : startDocuments (comments ++ rest) = startDocuments rest := by
  have none : comments.findSome? Syntax.kind? = none := List.findSome?_eq_none_iff.mpr plain
  rw [startDocuments, List.findSome?_append, none, Option.none_or, startDocuments]

/-- The literals that a block opens with decide whether they document the definition. -/
theorem isDocumented_of_opensWith {parts : List Syntax} {literals : List StringLiteral}
    (opens : OpensWith parts literals)
    : isDocumented parts = isDocumentation literals := by
  obtain ⟨front, comments, inner, more, rest, rfl, noBlock, plain⟩ := opens
  rw [isDocumented_append noBlock, isDocumented_block, startDocuments_append plain]
  rfl

-----------------------------------------------------------------------------------------
-- Files that differ in how their literals are written
-----------------------------------------------------------------------------------------

/-- Nodes that differ in nothing but how the literals are written that expression statements open
with.
-/
inductive Respelled : List Syntax → List Syntax → Prop where
  | nil : Respelled [] []
  | node (kind : Kind) {inner inner' left right : List Syntax} (inside : Respelled inner inner')
      (rest : Respelled left right)
      : Respelled (.node kind inner :: left) (.node kind inner' :: right)
  | strings {writings others : List Writing} {inner inner' left right : List Syntax}
      (same : textOfWritings writings = textOfWritings others) (inside : Respelled inner inner')
      (rest : Respelled left right)
      : Respelled (.node (.expression (writings.map Writing.literal)) inner :: left)
          (.node (.expression (others.map Writing.literal)) inner' :: right)

namespace Respelled

variable {left right : List Syntax}

/-- Blocks that differ in the spelling of literals document alike. -/
theorem startDocuments_eq (same : Respelled left right)
    : startDocuments left = startDocuments right := by
  cases same with
  | nil => rfl
  | node kind _ _ => rfl
  | strings text _ _ =>
      change isDocumentation _ = isDocumentation _
      rw [isDocumentation_writings, isDocumentation_writings, text]

/-- Definitions that differ in the spelling of literals are documented alike, by induction over
their parts.
-/
theorem isDocumented_eq (same : Respelled left right) : isDocumented left = isDocumented right := by
  induction same with
  | nil => rfl
  | node kind inside _ _ ih =>
      by_cases block : kind = .block
      · subst block
        exact inside.startDocuments_eq
      · rw [isDocumented_other block, isDocumented_other block, ih]
  | strings _ _ _ _ ih =>
      rw [isDocumented_other (by simp), isDocumented_other (by simp), ih]

theorem ownCounts_eq (same : Respelled left right) (kind : Kind)
    : ownCounts kind left = ownCounts kind right := by
  simp only [ownCounts, same.isDocumented_eq]

/-- The same definitions are counted, by induction over the nodes. -/
theorem countsOf_eq (same : Respelled left right)
    : Syntax.countsOf left = Syntax.countsOf right := by
  induction same with
  | nil => rfl
  | node kind inside _ counted ih =>
      rw [Syntax.countsOf, Syntax.countsOf, Syntax.counts, Syntax.counts, inside.ownCounts_eq,
        counted, ih]
  | strings _ _ _ counted ih =>
      rw [Syntax.countsOf, Syntax.countsOf, Syntax.counts, Syntax.counts, counted, ih]
      rfl

/-- Statements of older versions do not depend on the spelling of literals, by induction over the
nodes.
-/
theorem areCurrent_eq (same : Respelled left right)
    : Syntax.areCurrent left = Syntax.areCurrent right := by
  induction same with
  | nil => rfl
  | node kind _ _ inside ih => cases kind <;> simp [Syntax.areCurrent, Syntax.isCurrent, inside, ih]
  | strings _ _ _ inside ih => simp [Syntax.areCurrent, Syntax.isCurrent, inside, ih]

end Respelled

/-- Adjacent literals of plain text document the definition whose block they open exactly if they
say more than white space, and one literal of another sort keeps them from it. Files whose trees
differ only in comments, and in how the same texts are written, have the same counts.
-/
theorem documented_by_what_is_said
    : (∀ parts writings, OpensWith parts (writings.map Writing.literal) →
        (isDocumented parts = true ↔ ∃ c ∈ textOfWritings writings, isWhiteSpace c = false))
      ∧ (∀ parts literals, OpensWith parts literals → ∀ literal ∈ literals,
        (∃ c ∈ literal.flags, c ∈ ['b', 'B', 'f', 'F']) ∨ literal.interpolated = true →
        isDocumented parts = false)
      ∧ ∀ path path' source source' tree tree', parse (String.toList source) = some tree →
        parse (String.toList source') = some tree' → Respelled tree.outline tree'.outline →
        ∀ counts, Language.python.definitions path source = .ok counts
          ↔ Language.python.definitions path' source' = .ok counts := by
  refine ⟨fun parts writings opens => ?_, fun parts literals opens literal member other => ?_, ?_⟩
  · rw [isDocumented_of_opensWith opens, isDocumentation_writings]
    simp
  · rw [isDocumented_of_opensWith opens, isDocumentation_eq_false member other]
  · intro path path' source source' tree tree' parsed parsed' same counts
    have current := same.areCurrent_eq
    have counted := same.countsOf_eq
    rw [Syntax.areCurrent_outline, Syntax.areCurrent_outline] at current
    rw [Syntax.countsOf_outline, Syntax.countsOf_outline] at counted
    rw [definitions_eq_ok_iff path parsed, definitions_eq_ok_iff path' parsed', current, counted]

/-- A docstring that is split in two, behind a comment and in other quotes, documents as much. -/
theorem counts_of_split_docstring
    : let source := "class Shelf:\n    def lend():\n        \"Lends.\"\n"
      let source' :=
        "class Shelf:\n    def lend():\n        # Why.\n        r'Len' U\"\"\"ds.\"\"\"\n"
      ∃ tree tree', parse source.toList = some tree ∧ parse source'.toList = some tree'
        ∧ Respelled tree.outline tree'.outline
        ∧ ∀ counts, Language.python.definitions "shelf.py" source = .ok counts
          ↔ Language.python.definitions "shelf.py" source' = .ok counts := by
  intro source source'
  let whole : Writing := ⟨none, '"', false, "Lends.".toList, by simp, by decide, by decide⟩
  let start : Writing := ⟨some 'r', '\'', false, "Len".toList, by simp, by decide, by decide⟩
  let more : Writing := ⟨some 'U', '"', true, "ds.".toList, by simp, by decide, by decide⟩
  let nodes (writings : List Writing) : List Syntax :=
    [.node .module [.node .classDefinition [.node .block [.node (.function false)
      [.node .block [.node (.expression (writings.map Writing.literal)) []]]]]]]
  have reads : (parse source.toList).map Syntax.outline = some (nodes [whole]) := by
    decide +kernel
  have reads' : (parse source'.toList).map Syntax.outline = some (nodes [start, more]) := by
    decide +kernel
  obtain ⟨tree, parsed, outline⟩ := Option.map_eq_some_iff.mp reads
  obtain ⟨tree', parsed', outline'⟩ := Option.map_eq_some_iff.mp reads'
  have strings : Respelled [.node (.expression ([whole].map Writing.literal)) []]
      [.node (.expression ([start, more].map Writing.literal)) []] :=
    .strings (by decide) .nil .nil
  have same : Respelled tree.outline tree'.outline := by
    rw [outline, outline']
    exact .node _ (.node _ (.node _ (.node _ (.node _ strings .nil) .nil) .nil) .nil) .nil
  exact ⟨tree, tree', parsed, parsed', same,
    documented_by_what_is_said.2.2 _ _ _ _ _ _ parsed parsed' same⟩

end DocSurvey.Python
