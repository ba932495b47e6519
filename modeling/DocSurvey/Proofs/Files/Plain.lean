import DocSurvey.Proofs.Files.Spelling
import DocSurvey.Proofs.Files.Writing

/-! Trees without links. In such a tree a path leads to the place that its steps spell, provided
that they go down to and on from directories only.
-/

namespace DocSurvey.FileTree

/-- A sound tree in which no link stands. -/
structure IsPlain (tree : FileTree) : Prop extends IsSound tree where
  noLinks : ∀ place target, tree.get? place ≠ some (.link target)

def isLink (entry : Place × Node) : Bool :=
  match entry.2 with
  | .link _ => true
  | _ => false

/-- A plain tree is an ordered tree of directories without links. -/
theorem isPlain_iff {tree : FileTree}
    : tree.IsPlain
      ↔ tree.IsTree
        ∧ Data.IsOrdered tree.entries
        ∧ ∀ entry ∈ tree.entries, isLink entry = false := by
  constructor
  · intro plain
    refine ⟨plain.toIsTree, plain.ordered, fun entry member => ?_⟩
    obtain ⟨place, node⟩ := entry
    have stands := plain.get?_of_mem member
    cases node with
    | link target => exact absurd stands (plain.noLinks place target)
    | file content => rfl
    | directory => rfl
  · rintro ⟨isTree, ordered, noLinks⟩
    refine ⟨⟨isTree, ordered⟩, fun place target link => ?_⟩
    have below : tree.get? place ≠ some .directory := by simp [link]
    have isNone := noLinks _ (mem_entries_of_get? (ne_nil_of_get? below) link)
    simp [isLink] at isNone

instance (tree : FileTree) : Decidable tree.IsPlain :=
  have (pairs : List (Place × Node)) : Decidable (Data.IsOrdered pairs) :=
    inferInstanceAs (Decidable (pairs.Pairwise _))
  decidable_of_iff _ isPlain_iff.symm

-----------------------------------------------------------------------------------------
-- The places that steps spell
-----------------------------------------------------------------------------------------

/-- Where steps lead from a place as they are spelled, whatever stands on the way. -/
def reach : List Step → Place → Place
  | [], place => place
  | .stay :: rest, place => reach rest place
  | .up :: rest, place => reach rest place.dropLast
  | .down name :: rest, place => reach rest (place ++ [name])

def spelled (path : String) : Place :=
  reach (steps path) []

/-- Steps in a row lead on from where the first ones lead, by induction along them. -/
theorem reach_append (way further : List Step) (place : Place)
    : reach (way ++ further) place = reach further (reach way place) := by
  induction way generalizing place with
  | nil => rfl
  | cons step rest ih => cases step <;> exact ih _

/-- The place that a path spells is read off its components. -/
theorem spelled_eq (path : String)
    : spelled path = reach ((Path.components path).map Step.ofComponent) [] := by
  unfold spelled steps
  dsimp only
  split
  · rw [reach_append]
    rfl
  · rfl

/-- A name behind a path spells a place in the directory that the path spells. -/
theorem spelled_join (base : String) {name : String} (isName : Path.IsName name)
    : spelled (Path.join base name) = spelled base ++ [name] := by
  rw [spelled_eq, spelled_eq, Path.components_join base isName, List.map_append, reach_append]
  rfl

/-- Each place that the steps go down to and on from is a directory. -/
def Passes (tree : FileTree) : List Step → Place → Prop
  | [], _ => True
  | .stay :: rest, place => tree.Passes rest place
  | .up :: rest, place => tree.Passes rest place.dropLast
  | .down name :: rest, place =>
      (rest = [] ∨ tree.get? (place ++ [name]) = some .directory)
        ∧ tree.Passes rest (place ++ [name])

variable {tree : FileTree}

/-- Steps that lead past directories do so in any tree in which these still are directories. -/
theorem Passes.mono {changed : FileTree}
    (stay : ∀ place, tree.get? place = some .directory → changed.get? place = some .directory)
    {way : List Step} {place : Place} (passes : tree.Passes way place)
    : changed.Passes way place := by
  induction way generalizing place with
  | nil => trivial
  | cons step rest ih =>
      cases step with
      | stay => exact ih passes
      | up => exact ih passes
      | down name => exact ⟨passes.1.imp id (stay _), ih passes.2⟩

/-- From a directory, steps that go on pass if those before do, lead to a directory and are gone on
from there. By induction along the steps before.
-/
theorem IsTree.passes_append (isTree : tree.IsTree) {way further : List Step} {place : Place}
    (directory : tree.get? place = some .directory) (more : further ≠ [])
    : tree.Passes (way ++ further) place
      ↔ tree.Passes way place
        ∧ tree.get? (reach way place) = some .directory
        ∧ tree.Passes further (reach way place) := by
  induction way generalizing place with
  | nil => simp [Passes, reach, directory]
  | cons step rest ih =>
      cases step with
      | stay => exact ih directory
      | up => exact ih (isTree.get?_dropLast directory)
      | down name =>
          by_cases inside : tree.get? (place ++ [name]) = some .directory
          · simp [Passes, reach, inside, ih inside]
          · have stuck : rest = []
                → tree.get? (reach rest (place ++ [name])) ≠ some .directory := by
              rintro rfl
              exact inside
            simp only [List.cons_append, Passes, reach, inside, or_false, List.append_eq_nil_iff,
              more, and_false, false_and, false_iff]
            rintro ⟨⟨done, _⟩, isDirectory, _⟩
            exact stuck done isDirectory

-----------------------------------------------------------------------------------------
-- Where paths lead
-----------------------------------------------------------------------------------------

/-- Without links, steps stop where they are spelled to lead if they pass, and otherwise fail. By
induction along them.
-/
theorem IsPlain.advance_eq_ok_iff (plain : tree.IsPlain) {follow : Bool} {way : List Step}
    {place : Place} {stop : Stop}
    : tree.advance follow way place = .ok stop
      ↔ tree.Passes way place ∧ stop = .place (reach way place) := by
  induction way generalizing place with
  | nil => simp [advance, Passes, reach, eq_comm]
  | cons step rest ih =>
      cases step with
      | stay => exact ih
      | up => exact ih
      | down name =>
          simp only [Passes, reach]
          cases stands : tree.get? (place ++ [name]) with
          | none =>
              by_cases done : rest = []
              · simp [advance, stands, done, Passes, reach, eq_comm]
              · simp [advance, stands, done]
          | some node =>
              cases node with
              | directory => simpa [advance, stands] using ih
              | file content =>
                  by_cases done : rest = []
                  · simp [advance, stands, done, Passes, reach, eq_comm]
                  · simp [advance, stands, done]
              | link target => exact absurd stands (plain.noLinks _ _)

/-- In a plain tree a path leads to the place it spells, if its way is there. -/
theorem IsPlain.locate_eq_ok_iff (plain : tree.IsPlain) {follow : Bool} {path : String}
    {place : Place}
    : tree.locate follow path = .ok place
      ↔ path ≠ "" ∧ tree.Passes (steps path) [] ∧ place = spelled path := by
  unfold locate spelled
  by_cases empty : path = ""
  · simp [empty]
  · rw [if_neg (by simpa using empty), walk_eq_ok_iff, plain.advance_eq_ok_iff]
    simp only [plain.advance_eq_ok_iff, reduceCtorEq, and_false, false_and, exists_false, or_false,
      Stop.place.injEq, ne_eq, empty, true_and, not_false_eq_true]

theorem find_eq_ok_iff {follow : Bool} {path : String} {place : Place} {node : Node}
    : tree.find follow path = .ok (place, node)
      ↔ tree.locate follow path = .ok place ∧ tree.get? place = some node := by
  unfold find
  cases tree.locate follow path with
  | error cause => simp [bind, Except.bind]
  | ok found =>
      by_cases same : found = place
      · subst same
        cases stands : tree.get? found <;> simp [bind, Except.bind, stands]
      · cases stands : tree.get? found <;> simp [bind, Except.bind, stands, same]

/-- In a plain tree a path finds what stands at the place it spells, if its way is there. -/
theorem IsPlain.find_eq_ok_iff (plain : tree.IsPlain) {follow : Bool} {path : String}
    {place : Place} {node : Node}
    : tree.find follow path = .ok (place, node)
      ↔ path ≠ ""
        ∧ tree.Passes (steps path) []
        ∧ place = spelled path
        ∧ tree.get? place = some node := by
  rw [FileTree.find_eq_ok_iff, plain.locate_eq_ok_iff]
  simp only [and_assoc]

/-- Without links it makes no difference whether they are followed. -/
theorem IsPlain.find_follow (plain : tree.IsPlain) (path : String)
    : tree.find true path = tree.find false path := by
  rcases tree.find_follow path with same | ⟨place, target, link⟩
  · exact same
  · exact absurd (plain.find_eq_ok_iff.mp link).2.2.2 (plain.noLinks _ _)

/-- In a plain tree a path leads somewhere if its way is there and something stands at its end. -/
theorem IsPlain.contains_iff (plain : tree.IsPlain) {path : String}
    : tree.contains path = true
      ↔ path ≠ ""
        ∧ tree.Passes (steps path) []
        ∧ (tree.get? (spelled path)).isSome := by
  unfold contains
  constructor
  · intro found
    cases leads : tree.find true path with
    | error cause => simp [leads, Except.isOk, Except.toBool] at found
    | ok result =>
        obtain ⟨place, node⟩ := result
        obtain ⟨filled, passes, rfl, stands⟩ := plain.find_eq_ok_iff.mp leads
        exact ⟨filled, passes, by simp [stands]⟩
  · rintro ⟨filled, passes, stands⟩
    obtain ⟨node, here⟩ := Option.isSome_iff_exists.mp stands
    rw [plain.find_eq_ok_iff.mpr ⟨filled, passes, rfl, here⟩]
    rfl

/-- A slash or dot at the end of a path asks for a directory and no more. -/
theorem IsTree.passes_steps_iff (isTree : tree.IsTree) {path : String}
    (directory : tree.get? (spelled path) = some .directory)
    : tree.Passes (steps path) []
      ↔ tree.Passes ((Path.components path).map Step.ofComponent) [] := by
  unfold steps
  dsimp only
  split
  · rw [isTree.passes_append tree.get?_nil (by simp), ← spelled_eq]
    simp [directory, Passes]
  · rfl

/-- In a plain tree a path leads to a directory if its way is there and ends in one. -/
theorem IsPlain.isDirectory_iff (plain : tree.IsPlain) {path : String}
    : tree.isDirectory path = true
      ↔ path ≠ ""
        ∧ tree.Passes ((Path.components path).map Step.ofComponent) []
        ∧ tree.get? (spelled path) = some .directory := by
  have leads : tree.isDirectory path = true
      ↔ ∃ place, tree.find true path = .ok (place, .directory) := by
    unfold isDirectory
    split
    · rename_i place found
      simp [found]
    · rename_i others
      simpa using others
  rw [leads]
  constructor
  · rintro ⟨place, found⟩
    obtain ⟨filled, passes, rfl, directory⟩ := plain.find_eq_ok_iff.mp found
    exact ⟨filled, (plain.passes_steps_iff directory).mp passes, directory⟩
  · rintro ⟨filled, passes, directory⟩
    exact ⟨_, plain.find_eq_ok_iff.mpr
      ⟨filled, (plain.passes_steps_iff directory).mpr passes, rfl, directory⟩⟩

/-- A path that leads on from another one leads through a directory; an absolute path does not lead
on from any.
-/
theorem IsPlain.isDirectory_of_join (plain : tree.IsPlain) {base child : String}
    (filled : base ≠ "") (relative : Path.isAbsolute child = false)
    (passes : tree.Passes (steps (Path.join base child)) [])
    : tree.isDirectory base = true := by
  obtain ⟨further, more, way⟩ := exists_steps_join filled relative
  rw [way] at passes
  obtain ⟨passesBase, directory, _⟩ := (plain.passes_append tree.get?_nil more).mp passes
  rw [← spelled_eq] at directory
  exact plain.isDirectory_iff.mpr ⟨filled, passesBase, directory⟩

/-- The first components of a path to a directory lead to directories. -/
theorem IsPlain.directory_of_isPrefix (plain : tree.IsPlain) {all before : List Path.Component}
    (passes : tree.Passes (all.map Step.ofComponent) [])
    (directory : tree.get? (reach (all.map Step.ofComponent) []) = some .directory)
    (within : before <+: all)
    : tree.get? (reach (before.map Step.ofComponent) []) = some .directory := by
  obtain ⟨behind, rfl⟩ := within
  by_cases done : behind = []
  · simpa [done] using directory
  · rw [List.map_append, plain.passes_append tree.get?_nil (by simpa using done)] at passes
    exact passes.2.1

/-- On the way to a directory there are directories only. -/
theorem IsPlain.directory_of_isDirectory (plain : tree.IsPlain) {path : String}
    (there : tree.isDirectory path = true) {before : List Path.Component}
    (within : before <+: Path.components path)
    : tree.get? (reach (before.map Step.ofComponent) []) = some .directory := by
  obtain ⟨_, passes, reached⟩ := plain.isDirectory_iff.mp there
  rw [spelled_eq] at reached
  exact plain.directory_of_isPrefix passes reached within

/-- Steps lead to a directory unless the last one goes down. -/
theorem IsTree.exists_down (isTree : tree.IsTree) {way : List Step} (passes : tree.Passes way [])
    (noDirectory : tree.get? (reach way []) ≠ some .directory)
    : ∃ before name, way = before ++ [.down name]
      ∧ reach way [] = reach before [] ++ [name] := by
  cases way using List.reverseRecOn with
  | nil => exact absurd tree.get?_nil noDirectory
  | append_singleton before last =>
      obtain ⟨_, directory, _⟩ := (isTree.passes_append tree.get?_nil (by simp)).mp passes
      rw [reach_append] at noDirectory
      cases last with
      | stay => exact absurd directory noDirectory
      | up => exact absurd (isTree.get?_dropLast directory) noDirectory
      | down name => exact ⟨before, name, rfl, by rw [reach_append]; rfl⟩

/-- A path to anything but a directory ends in the name of it. -/
theorem IsTree.exists_fileName (isTree : tree.IsTree) {path : String}
    (passes : tree.Passes (steps path) [])
    (noDirectory : tree.get? (spelled path) ≠ some .directory)
    : ∃ above name, spelled path = above ++ [name] ∧ Path.fileName? path = some name := by
  obtain ⟨before, name, ending, reached⟩ := isTree.exists_down passes noDirectory
  refine ⟨_, name, reached, ?_⟩
  have shape : (Path.components path).map Step.ofComponent = before ++ [.down name] := by
    unfold steps at ending
    dsimp only at ending
    split at ending
    · simp at ending
    · exact ending
  obtain ⟨above, final, split, _, last⟩ := List.map_eq_append_iff.mp shape
  obtain ⟨component, isLast, same⟩ := List.map_eq_singleton_iff.mp last
  have isName : component = .name name := by
    cases component with
    | root => simp [Step.ofComponent] at same
    | current => simp [Step.ofComponent] at same
    | parent => simp [Step.ofComponent] at same
    | name text => simpa [Step.ofComponent] using same
  simp [Path.fileName?, split, isLast, isName]

-----------------------------------------------------------------------------------------
-- What names lead to
-----------------------------------------------------------------------------------------

/-- Names lead on from the place that a path spells. -/
theorem IsPlain.standsAt?_eq (plain : tree.IsPlain) {path : String}
    (there : tree.contains path = true) (names : Place)
    : tree.standsAt? path names = tree.get? (spelled path ++ names) := by
  obtain ⟨filled, passes, something⟩ := plain.contains_iff.mp there
  obtain ⟨node, stands⟩ := Option.isSome_iff_exists.mp something
  have leads : ∀ follow, tree.find follow path = .ok (spelled path, node) :=
    fun follow => plain.find_eq_ok_iff.mpr ⟨filled, passes, rfl, stands⟩
  by_cases atStart : names = []
  · simp [atStart, standsAt?_nil, leads, Except.toOption, stands]
  · rw [standsAt?_of_ne_nil _ atStart, leads]
    by_cases inside : node = .directory
    · subst inside
      rfl
    · have nothing : tree.get? (spelled path ++ names) = none := by
        by_contra below
        obtain ⟨other, found⟩ := Option.ne_none_iff_exists'.mp below
        have directory := plain.get?_above atStart found
        exact inside (Option.some.inj (stands.symm.trans directory))
      cases node with
      | directory => exact absurd rfl inside
      | file content => exact nothing.symm
      | link target => exact nothing.symm

/-- The name that a file is found under ends its place. -/
theorem IsPlain.getLast?_of_file (plain : tree.IsPlain) {path : String}
    (there : tree.contains path = true) {names : Place} {content : Option String}
    (file : tree.standsAt? path names = some (.file content))
    : (spelled path ++ names).getLast? = some (nameAt path names) := by
  rw [plain.standsAt?_eq there] at file
  rcases List.eq_nil_or_concat names with rfl | ⟨before, last, rfl⟩
  · obtain ⟨_, passes, _⟩ := plain.contains_iff.mp there
    rw [List.append_nil] at file
    obtain ⟨above, name, shape, fileName⟩ := plain.exists_fileName passes (by simp [file])
    simp [nameAt, shape, fileName]
  · simp [nameAt]

end DocSurvey.FileTree
