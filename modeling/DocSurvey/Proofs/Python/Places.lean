import DocSurvey.Declarations.Language
import DocSurvey.Proofs.Python.Outline
import DocSurvey.Proofs.Python.Literals
import Mathlib.Data.Set.Card

/-! Places in a syntax tree: the path that leads to a node, and the text in front of it. The
statement of an older version that is found is the one whose place comes first, in the order of the
paths and in the text. Every definition has one place, so that it is counted once.
-/

namespace DocSurvey.Python

namespace Syntax

/-- The part that a path leads to, given which part to take of each node on the way. -/
def atPath : List Nat → Syntax → Option Syntax
  | [], tree => some tree
  | index :: path, tree => tree.parts[index]?.bind (atPath path)

/-- The text in front of that part. -/
def before : List Nat → Syntax → List Char
  | [], _ => []
  | index :: path, tree =>
      textOf (tree.parts.take index) ++ (tree.parts[index]?.map (before path)).getD []

/-- The line that the part starts in. -/
def lineAt (path : List Nat) (tree : Syntax) : Nat :=
  lineBreaks (tree.before path) + 1

/-- The kind of the node that a path leads to. -/
def kindAt? (path : List Nat) (tree : Syntax) : Option Kind :=
  (tree.atPath path).bind kind?

variable {tree inner part : Syntax} {parts : List Syntax} {kind target : Kind}
  {path other : List Nat}
  {index : Nat}

theorem kindAt?_nil (tree : Syntax) : tree.kindAt? [] = tree.kind? := rfl

/-- A path leads into the part that its first number counts. -/
theorem kindAt?_cons (index : Nat) (path : List Nat) (tree : Syntax)
    : tree.kindAt? (index :: path) = tree.parts[index]?.bind (kindAt? path) := by
  simp only [kindAt?, atPath, Option.bind_assoc]
  rfl

/-- Where a path leads to a node, its first number counts a part. -/
theorem kindAt?_cons_eq_some (leads : tree.kindAt? (index :: path) = some kind)
    : ∃ part, tree.parts[index]? = some part ∧ part.kindAt? path = some kind := by
  rw [kindAt?_cons] at leads
  exact Option.bind_eq_some_iff.mp leads

-----------------------------------------------------------------------------------------
-- Positions
-----------------------------------------------------------------------------------------

/-- The text of the parts up to one of them, and the one itself, start the text of them all. -/
theorem textOf_take_append_isPrefix (found : parts[index]? = some part)
    : textOf (parts.take index) ++ part.toList <+: textOf parts := by
  obtain ⟨inside, rfl⟩ := List.getElem?_eq_some_iff.mp found
  have split : parts = parts.take index ++ parts[index] :: parts.drop (index + 1) := by simp
  refine ⟨textOf (parts.drop (index + 1)), ?_⟩
  conv_rhs => rw [split]
  rw [Takes.textOf_append, textOf, List.append_assoc]

theorem atPath_cons (leads : tree.atPath (index :: path) = some inner)
    : ∃ part, tree.parts[index]? = some part ∧ part.atPath path = some inner :=
  Option.bind_eq_some_iff.mp leads

/-- In front of a node stand the parts before the one it is in, and what is before it there. -/
theorem before_cons (found : tree.parts[index]? = some part) (path : List Nat)
    : tree.before (index :: path) = textOf (tree.parts.take index) ++ part.before path := by
  simp only [before, found, Option.map_some, Option.getD_some]

/-- The parts of a tree are the start of its text. -/
theorem textOf_parts_isPrefix (tree : Syntax) : textOf tree.parts <+: tree.toList := by
  cases tree with
  | text characters => exact List.nil_prefix
  | node kind parts => exact List.prefix_refl _

/-- A node's text is where the path to it says, by induction over the path. -/
theorem before_append_isPrefix (leads : tree.atPath path = some inner)
    : tree.before path ++ inner.toList <+: tree.toList := by
  induction path generalizing tree with
  | nil =>
      obtain rfl : tree = inner := Option.some.inj leads
      exact List.prefix_refl _
  | cons index path ih =>
      obtain ⟨part, found, leads⟩ := atPath_cons leads
      rw [before_cons found, List.append_assoc]
      exact ((List.prefix_append_right_inj _).mpr (ih leads)).trans
        ((textOf_take_append_isPrefix found).trans tree.textOf_parts_isPrefix)

/-- A node further on among the parts starts behind what is in the parts in front of it. -/
theorem before_prefix_textOf_take {near far : Nat} (nearer : near < far)
    (found : parts[near]? = some part) (leads : part.atPath path = some inner)
    : textOf (parts.take near) ++ part.before path <+: textOf (parts.take far) := by
  have isTake : (parts.take far)[near]? = some part := by
    rw [List.getElem?_take_of_lt nearer, found]
  have isPrefix := textOf_take_append_isPrefix isTake
  rw [List.take_take, Nat.min_eq_left nearer.le] at isPrefix
  have inside := (List.prefix_append _ _).trans (before_append_isPrefix leads)
  exact ((List.prefix_append_right_inj _).mpr inside).trans isPrefix

-----------------------------------------------------------------------------------------
-- Statements of older versions
-----------------------------------------------------------------------------------------

/-- The line breaks of two texts add up. -/
theorem lineBreaks_append (left right : List Char)
    : lineBreaks (left ++ right) = lineBreaks left + lineBreaks right :=
  List.count_append

section Nodes

variable (notSelf : ∀ statement, kind ≠ .legacy statement)
include notSelf

theorem isCurrent_node_of_ne : (node kind parts).isCurrent = areCurrent parts := by
  cases kind <;> simp_all [isCurrent]

theorem legacy?_node_of_ne (row : Nat)
    : (node kind parts).legacy? row = legacyAmong? row parts := by
  cases kind <;> simp_all [legacy?]

end Nodes

/-- If no part holds a statement of an older version, neither does any single one. -/
theorem isCurrent_of_areCurrent (current : areCurrent parts = true) (member : part ∈ parts)
    : part.isCurrent = true := by
  induction parts with
  | nil => contradiction
  | cons first rest ih =>
      obtain ⟨isFirst, others⟩ : first.isCurrent = true ∧ areCurrent rest = true := by
        simpa [areCurrent] using current
      rcases List.mem_cons.mp member with rfl | member
      · exact isFirst
      · exact ih others member

/-- No path leads to a statement of an older version in a tree of the current one, by induction over
the path.
-/
theorem kindAt?_ne_legacy (current : tree.isCurrent = true) (path : List Nat) (statement : Legacy)
    : tree.kindAt? path ≠ some (.legacy statement) := by
  induction path generalizing tree with
  | nil =>
      cases tree with
      | text characters => simp [kindAt?_nil, kind?]
      | node kind parts =>
          rintro ⟨⟩
          simp [isCurrent] at current
  | cons index path ih =>
      intro leads
      obtain ⟨part, found, inside⟩ := kindAt?_cons_eq_some leads
      cases tree with
      | text characters => simp [Syntax.parts] at found
      | node kind parts =>
          have member : part ∈ parts := List.mem_of_getElem? found
          refine ih (isCurrent_of_areCurrent ?_ member) inside
          cases kind <;> simp_all [isCurrent]

/-- The path leads to a statement of an older version. All others have paths that come later, and
start no further in front.
-/
structure IsFirstLegacy (tree : Syntax) (path : List Nat) (statement : Legacy) : Prop where
  found : tree.kindAt? path = some (.legacy statement)
  ordered : ∀ other another, tree.kindAt? other = some (.legacy another) →
    other = path ∨ List.Lex (· < ·) path other
  first : ∀ other another, tree.kindAt? other = some (.legacy another) →
    tree.before path <+: tree.before other

section Among

variable {statement another : Legacy} (found : parts[index]? = some part)
  (earlier : areCurrent (parts.take index) = true)
include found earlier

/-- Such a statement of the parts is not in one of those that are current. -/
theorem here_or_behind {second : Nat} {later : Syntax} {other : List Nat}
    (foundLater : parts[second]? = some later)
    (leads : later.kindAt? other = some (.legacy another))
    : (second = index ∧ part.kindAt? other = some (.legacy another)) ∨ index < second := by
  obtain inFront | rfl | behind := Nat.lt_trichotomy second index
  · have isTake : (parts.take index)[second]? = some later := by
      rw [List.getElem?_take_of_lt inFront, foundLater]
    have current := isCurrent_of_areCurrent earlier (List.mem_of_getElem? isTake)
    exact absurd leads (kindAt?_ne_legacy current other another)
  · obtain rfl : part = later := Option.some.inj (found.symm.trans foundLater)
    exact .inl ⟨rfl, leads⟩
  · exact .inr behind

/-- The first such statement of a part is the first of its node if the parts in front are current.
-/
theorem IsFirstLegacy.node (isFirst : part.IsFirstLegacy path statement)
    (notSelf : ∀ statement, kind ≠ .legacy statement)
    : (node kind parts).IsFirstLegacy (index :: path) statement := by
  constructor
  · rw [kindAt?_cons, Syntax.parts, found]
    exact isFirst.found
  · intro other another leads
    cases other with
    | nil => exact absurd (Option.some.inj leads) (notSelf another)
    | cons second other =>
        obtain ⟨later, foundLater, inside⟩ := kindAt?_cons_eq_some leads
        obtain ⟨rfl, here⟩ | behind := here_or_behind found earlier foundLater inside
        · obtain rfl | after := isFirst.ordered other another here
          · exact .inl rfl
          · exact .inr (.cons after)
        · exact .inr (.rel behind)
  · intro other another leads
    rw [before_cons (by exact found)]
    cases other with
    | nil => exact absurd (Option.some.inj leads) (notSelf another)
    | cons second other =>
        obtain ⟨later, foundLater, inside⟩ := kindAt?_cons_eq_some leads
        rw [before_cons foundLater]
        obtain ⟨rfl, here⟩ | behind := here_or_behind found earlier foundLater inside
        · obtain rfl : part = later := Option.some.inj (found.symm.trans foundLater)
          exact (List.prefix_append_right_inj _).mpr (isFirst.first other another here)
        · obtain ⟨inner, reached, -⟩ := Option.bind_eq_some_iff.mp isFirst.found
          exact (before_prefix_textOf_take behind found reached).trans (List.prefix_append _ _)

end Among

mutual

/-- Such a statement has a place if the tree is not of the current version, and is found with the
line breaks in front of it, by induction over the nodes.
-/
theorem exists_isFirstLegacy {tree : Syntax} (old : tree.isCurrent = false)
    : ∃ path statement, tree.IsFirstLegacy path statement
        ∧ ∀ row, tree.legacy? row = some (statement, row + lineBreaks (tree.before path)) := by
  cases tree with
  | text characters => simp [isCurrent] at old
  | node kind parts =>
      by_cases self : ∃ statement, kind = .legacy statement
      · obtain ⟨statement, rfl⟩ := self
        refine ⟨[], statement, ⟨rfl, fun other _ _ => ?_, fun _ _ _ => List.nil_prefix⟩,
          fun row => by simp [legacy?, before, lineBreaks]⟩
        cases other with
        | nil => exact .inl rfl
        | cons index path => exact .inr .nil
      · have notSelf : ∀ statement, kind ≠ .legacy statement := by simpa using self
        rw [isCurrent_node_of_ne notSelf] at old
        obtain ⟨index, part, path, statement, found, earlier, isFirst, rows⟩ :=
          exists_isFirstLegacy_among old
        refine ⟨index :: path, statement, IsFirstLegacy.node found earlier isFirst notSelf,
          fun row => ?_⟩
        rw [legacy?_node_of_ne notSelf, rows, before_cons (by exact found), Syntax.parts]

/-- Among parts that hold statements of older versions there is a first one, and that is found. -/
theorem exists_isFirstLegacy_among {parts : List Syntax} (old : areCurrent parts = false)
    : ∃ index part path statement, parts[index]? = some part ∧ areCurrent (parts.take index) = true
        ∧ part.IsFirstLegacy path statement
        ∧ ∀ row, legacyAmong? row parts
            = some (statement,
                row + lineBreaks (textOf (parts.take index) ++ part.before path)) := by
  cases parts with
  | nil => simp [areCurrent] at old
  | cons part rest =>
      cases current : part.isCurrent with
      | true =>
          have old : areCurrent rest = false := by simpa [areCurrent, current] using old
          obtain ⟨index, later, path, statement, found, earlier, isFirst, rows⟩ :=
            exists_isFirstLegacy_among old
          refine ⟨index + 1, later, path, statement, found, ?_, isFirst, fun row => ?_⟩
          · simpa [areCurrent, current] using earlier
          · simp [legacyAmong?, legacy?_eq_none current, rows, textOf, lineBreaks_append,
              Nat.add_assoc]
      | false =>
          obtain ⟨path, statement, isFirst, rows⟩ := exists_isFirstLegacy current
          refine ⟨0, part, path, statement, rfl, rfl, isFirst, fun row => ?_⟩
          simp [legacyAmong?, rows, textOf]

end

-----------------------------------------------------------------------------------------
-- Definitions
-----------------------------------------------------------------------------------------

def placesOf (target : Kind) (tree : Syntax) : Set (List Nat) :=
  { path | tree.kindAt? path = some target }

/-- The places of the nodes of a kind in parts, each with the part that it is in. -/
def placesAmong (target : Kind) (parts : List Syntax) : Set (Nat × List Nat) :=
  { place | ∃ part, parts[place.1]? = some part ∧ place.2 ∈ part.placesOf target }

theorem placesOf_text (target : Kind) (characters : List Char)
    : (text characters).placesOf target = ∅ := by
  ext path
  cases path <;> simp [placesOf, kindAt?_nil, kindAt?_cons, kind?, Syntax.parts]

/-- The nodes of a kind in a tree are its root, if that is one, and those in its parts. -/
theorem placesOf_node (target kind : Kind) (parts : List Syntax)
    : (node kind parts).placesOf target
        = { path | path = [] ∧ kind = target }
          ∪ (fun place : Nat × List Nat => place.1 :: place.2) '' placesAmong target parts := by
  ext path
  cases path <;> simp [placesOf, placesAmong, kindAt?_nil, kindAt?_cons, kind?, Syntax.parts,
    Option.bind_eq_some_iff]

theorem placesAmong_nil (target : Kind) : placesAmong target [] = ∅ := by
  ext place
  simp [placesAmong]

/-- The nodes of a kind among parts are those in the first one and those in the others. -/
theorem placesAmong_cons (target : Kind) (part : Syntax) (rest : List Syntax)
    : placesAmong target (part :: rest)
        = Prod.mk 0 '' part.placesOf target ∪ Prod.map Nat.succ id '' placesAmong target rest := by
  ext ⟨index, path⟩
  cases index <;> simp [placesAmong]

def functionsHom : DeclarationCounts →+ Nat where
  toFun := DeclarationCounts.functions
  map_zero' := rfl
  map_add' _ _ := rfl

def classesHom : DeclarationCounts →+ Nat where
  toFun := DeclarationCounts.classes
  map_zero' := rfl
  map_add' _ _ := rfl

/-- The measure counts the nodes of a kind, each one once. -/
def CountsNodes (target : Kind) (measure : DeclarationCounts →+ Nat) : Prop :=
  ∀ kind parts, measure (ownCounts kind parts) = if kind = target then 1 else 0

variable {measure : DeclarationCounts →+ Nat}

mutual

/-- A measure that counts the nodes of a kind counts their places, by induction over the nodes. -/
theorem encard_placesOf (own : CountsNodes target measure) (tree : Syntax)
    : (tree.placesOf target).encard = measure tree.counts := by
  cases tree with
  | text characters =>
      rw [placesOf_text, Set.encard_empty, counts]
      exact (congrArg _ (map_zero measure)).symm
  | node kind parts =>
      have apart : Disjoint { path : List Nat | path = [] ∧ kind = target }
          ((fun place : Nat × List Nat => place.1 :: place.2) '' placesAmong target parts) := by
        rw [Set.disjoint_left]
        rintro path ⟨rfl, -⟩ ⟨place, -, impossible⟩
        contradiction
      have injective : Function.Injective fun place : Nat × List Nat => place.1 :: place.2 := by
        rintro ⟨index, path⟩ ⟨second, other⟩ same
        simpa using same
      have self : { path : List Nat | path = [] ∧ kind = target }.encard
          = measure (ownCounts kind parts) := by
        rw [own]
        by_cases isTarget : kind = target <;> simp [isTarget]
      rw [placesOf_node, Set.encard_union_eq apart, injective.encard_image,
        encard_placesAmong own parts, self, counts, map_add, Nat.cast_add]

/-- There are as many nodes of a kind among parts as are counted, by induction over the parts. -/
theorem encard_placesAmong (own : CountsNodes target measure) (parts : List Syntax)
    : (placesAmong target parts).encard = measure (countsOf parts) := by
  cases parts with
  | nil =>
      rw [placesAmong_nil, Set.encard_empty, countsOf]
      exact (congrArg _ (map_zero measure)).symm
  | cons part rest =>
      have apart : Disjoint (Prod.mk 0 '' part.placesOf target)
          (Prod.map Nat.succ id '' placesAmong target rest) := by
        rw [Set.disjoint_left]
        rintro place ⟨path, -, rfl⟩ ⟨other, -, impossible⟩
        exact absurd (congrArg Prod.fst impossible) (Nat.succ_ne_zero _)
      have shifts : Function.Injective (Prod.map Nat.succ (id : List Nat → List Nat)) :=
        Nat.succ_injective.prodMap Function.injective_id
      rw [placesAmong_cons, Set.encard_union_eq apart, (Prod.mk_right_injective 0).encard_image,
        shifts.encard_image, encard_placesOf own part, encard_placesAmong own rest, countsOf,
        map_add, Nat.cast_add]

end

/-- Each function definition counts once, and nothing else counts as a function. -/
theorem countsNodes_functions : CountsNodes (.function false) functionsHom := by
  intro kind parts
  cases kind with
  | function isAsync => cases isAsync <;> rfl
  | _ => rfl

/-- Each class definition counts once, and nothing else counts as a class. -/
theorem countsNodes_classes : CountsNodes .classDefinition classesHom := by
  intro kind parts
  cases kind with
  | function isAsync => cases isAsync <;> rfl
  | _ => rfl

/-- Each function without `async` is counted once, wherever it stands. -/
theorem encard_functions (tree : Syntax)
    : (tree.placesOf (.function false)).encard = tree.counts.functions :=
  encard_placesOf countsNodes_functions tree

/-- Each class is counted once, wherever it stands. -/
theorem encard_classes (tree : Syntax)
    : (tree.placesOf .classDefinition).encard = tree.counts.classes :=
  encard_placesOf countsNodes_classes tree

end Syntax

-----------------------------------------------------------------------------------------
-- Files
-----------------------------------------------------------------------------------------

open Syntax

section Files

variable (path : String) {source : String} {tree : Syntax}
  (parsed : parse source.toList = some tree)
include parsed

/-- A file without statements of older versions has the counts of its tree. -/
theorem definitions_of_current (current : tree.isCurrent = true)
    : Language.python.definitions path source = .ok tree.counts := by
  have found : definitions source.toList = .ok tree.counts := by
    rw [definitions, parsed]
    simp only [Syntax.definitions, legacy?_eq_none current]
  exact congrArg (Except.mapError (Refusal.message path)) found

/-- A file with statements of older versions is refused for the first of them. -/
theorem definitions_of_old (old : tree.isCurrent = false)
    : ∃ place statement, tree.IsFirstLegacy place statement
        ∧ Language.python.definitions path source
          = .error (Refusal.message path (.legacy statement (tree.lineAt place))) := by
  obtain ⟨place, statement, isFirst, rows⟩ := exists_isFirstLegacy old
  refine ⟨place, statement, isFirst, ?_⟩
  have found : definitions source.toList
      = .error (.legacy statement (tree.lineAt place)) := by
    rw [definitions, parsed]
    simp only [Syntax.definitions, rows, Nat.zero_add, lineAt]
  exact congrArg (Except.mapError (Refusal.message path)) found

/-- A file is counted if it has a tree of the current version, and what is counted is in the tree.
-/
theorem definitions_eq_ok_iff (counts : DeclarationCounts)
    : Language.python.definitions path source = .ok counts
      ↔ tree.isCurrent = true ∧ tree.counts = counts := by
  cases current : tree.isCurrent with
  | true => simp [definitions_of_current path parsed current]
  | false =>
      obtain ⟨place, statement, -, refused⟩ := definitions_of_old path parsed current
      simp [refused]

end Files

end DocSurvey.Python
