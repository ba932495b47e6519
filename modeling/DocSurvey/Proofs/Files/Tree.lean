import DocSurvey.Proofs.Files.Path
import DocSurvey.Files.Tree
import Mathlib.Data.List.Induction

/-! Trees of directories. Each place of such a tree stands once, names lead to it, and what it
lies in is a directory. What stands at a place does not depend on the order of the entries.
-/

namespace DocSurvey.FileTree

/-- The entries are those of a tree of directories. -/
structure IsTree (tree : FileTree) : Prop where
  distinct : (tree.entries.map Prod.fst).Nodup
  named : ∀ entry ∈ tree.entries, entry.1 ≠ [] ∧ ∀ name ∈ entry.1, Path.IsName name
  closed : ∀ entry ∈ tree.entries, tree.get? entry.1.dropLast = some .directory

instance (tree : FileTree) : Decidable tree.IsTree :=
  decidable_of_iff
    ((tree.entries.map Prod.fst).Nodup
      ∧ (∀ entry ∈ tree.entries, entry.1 ≠ [] ∧ ∀ name ∈ entry.1, Path.IsName name)
      ∧ ∀ entry ∈ tree.entries, tree.get? entry.1.dropLast = some .directory)
    ⟨fun ⟨distinct, named, closed⟩ => ⟨distinct, named, closed⟩,
      fun ⟨distinct, named, closed⟩ => ⟨distinct, named, closed⟩⟩

-----------------------------------------------------------------------------------------
-- What stands at a place
-----------------------------------------------------------------------------------------

/-- The top of a tree is a directory. -/
@[simp]
theorem get?_nil (tree : FileTree) : tree.get? [] = some .directory := rfl

/-- What is not a directory does not stand at the top. -/
theorem ne_nil_of_get? {tree : FileTree} {place : Place}
    (noDirectory : tree.get? place ≠ some .directory)
    : place ≠ [] := by
  rintro rfl
  exact noDirectory tree.get?_nil

theorem get?_of_ne_nil (tree : FileTree) {place : Place} (below : place ≠ [])
    : tree.get? place = tree.entries.lookup place := by
  simp [get?, below]

/-- What stands below the top is an entry of the tree. -/
theorem mem_entries_of_get? {tree : FileTree} {place : Place} {node : Node} (below : place ≠ [])
    (stands : tree.get? place = some node)
    : (place, node) ∈ tree.entries :=
  Data.mem_of_lookup_eq_some (tree.get?_of_ne_nil below ▸ stands)

variable {tree : FileTree}

/-- An entry stands at its place. -/
theorem IsTree.get?_of_mem (isTree : tree.IsTree) {place : Place} {node : Node}
    (member : (place, node) ∈ tree.entries)
    : tree.get? place = some node := by
  rw [tree.get?_of_ne_nil (isTree.named _ member).1]
  exact Data.lookup_eq_some_of_mem isTree.distinct member

/-- Below the top, what stands at a place is what is entered for it. -/
theorem IsTree.get?_eq_some_iff (isTree : tree.IsTree) {place : Place} {node : Node}
    (below : place ≠ [])
    : tree.get? place = some node ↔ (place, node) ∈ tree.entries :=
  ⟨mem_entries_of_get? below, isTree.get?_of_mem⟩

/-- The places of a tree consist of names. -/
theorem IsTree.isName (isTree : tree.IsTree) {place : Place} {node : Node}
    (stands : tree.get? place = some node)
    : ∀ name ∈ place, Path.IsName name := by
  by_cases below : place = []
  · simp [below]
  · exact (isTree.named _ (mem_entries_of_get? below stands)).2

/-- What something lies in is a directory, all the way up, by induction from the lowest name. -/
theorem IsTree.get?_above (isTree : tree.IsTree) {place names : Place} {node : Node}
    (below : names ≠ []) (stands : tree.get? (place ++ names) = some node)
    : tree.get? place = some .directory := by
  induction names using List.reverseRecOn generalizing node with
  | nil => exact absurd rfl below
  | append_singleton before last ih =>
      have above : tree.get? (place ++ before) = some .directory := by
        have member := mem_entries_of_get? (by simp) stands
        have closed := isTree.closed _ member
        simpa [← List.append_assoc] using closed
      by_cases done : before = []
      · simpa [done] using above
      · exact ih done above

-----------------------------------------------------------------------------------------
-- The order of the entries
-----------------------------------------------------------------------------------------

/-- Entries in another order are those of the same tree. -/
theorem IsTree.get?_perm (isTree : tree.IsTree) {entries : List (Place × Node)}
    (shuffled : entries.Perm tree.entries) (place : Place)
    : FileTree.get? ⟨entries⟩ place = tree.get? place := by
  by_cases below : place = []
  · simp [below]
  · have distinct : (entries.map Prod.fst).Nodup := (shuffled.map _).nodup_iff.mpr isTree.distinct
    rw [get?_of_ne_nil _ below, get?_of_ne_nil _ below]
    refine Option.ext fun node => ?_
    constructor
    · intro found
      exact Data.lookup_eq_some_of_mem isTree.distinct
        (shuffled.mem_iff.mp (Data.mem_of_lookup_eq_some found))
    · intro found
      exact Data.lookup_eq_some_of_mem distinct
        (shuffled.mem_iff.mpr (Data.mem_of_lookup_eq_some found))

/-- A tree may list its entries in another order. -/
theorem IsTree.perm (isTree : tree.IsTree) {entries : List (Place × Node)}
    (shuffled : entries.Perm tree.entries)
    : IsTree ⟨entries⟩ where
  distinct := (shuffled.map _).nodup_iff.mpr isTree.distinct
  named := fun entry member => isTree.named entry (shuffled.mem_iff.mp member)
  closed := fun entry member => by
    rw [isTree.get?_perm shuffled]
    exact isTree.closed entry (shuffled.mem_iff.mp member)

-----------------------------------------------------------------------------------------
-- Where paths lead
-----------------------------------------------------------------------------------------

/-- Steps stop at the same place in trees where the same stands at every place, by induction along
them.
-/
theorem advance_congr {other : FileTree} (same : ∀ place, other.get? place = tree.get? place)
    (follow : Bool) (way : List Step) (place : Place)
    : other.advance follow way place = tree.advance follow way place := by
  induction way generalizing place with
  | nil => rfl
  | cons step rest ih =>
      cases step with
      | stay => exact ih place
      | up => exact ih place.dropLast
      | down name =>
          have next := same (place ++ [name])
          simp only [advance, next, ih]

/-- A walk ends where its steps stop, and goes on behind a link as long as links are left. -/
theorem walk_eq (follow : Bool) (links : Nat) (way : List Step) (place : Place)
    : tree.walk follow links way place
      = match tree.advance follow way place with
        | .error cause => .error cause
        | .ok (.place last) => .ok last
        | .ok (.link directory target rest) =>
            match links with
            | 0 => .error .tooManyLinks
            | links + 1 =>
                tree.walk follow links (steps target ++ rest) (linkStart directory target) := by
  rw [walk]
  rcases tree.advance follow way place with _ | _ | _ <;> rfl

theorem walk_of_error {follow : Bool} {way : List Step} {place : Place} {cause : SystemError}
    (stops : tree.advance follow way place = .error cause) (links : Nat)
    : tree.walk follow links way place = .error cause := by
  rw [walk_eq, stops]

/-- A walk ends where its steps do. -/
theorem walk_of_place {follow : Bool} {way : List Step} {place last : Place}
    (stops : tree.advance follow way place = .ok (.place last)) (links : Nat)
    : tree.walk follow links way place = .ok last := by
  rw [walk_eq, stops]

/-- A walk goes on from the target of a link that its steps stop at. -/
theorem walk_of_link {follow : Bool} {way rest : List Step} {place directory : Place}
    {target : String}
    (stops : tree.advance follow way place = .ok (.link directory target rest)) (links : Nat)
    : tree.walk follow links way place
      = match links with
        | 0 => .error .tooManyLinks
        | links + 1 =>
            tree.walk follow links (steps target ++ rest) (linkStart directory target) := by
  rw [walk_eq, stops]

/-- A walk that leads somewhere stops there, or at a link through which it goes on. -/
theorem walk_eq_ok_iff {follow : Bool} {links : Nat} {way : List Step} {place last : Place}
    : tree.walk follow links way place = .ok last
      ↔ tree.advance follow way place = .ok (.place last)
        ∨ ∃ fewer directory target rest,
            links = fewer + 1
            ∧ tree.advance follow way place = .ok (.link directory target rest)
            ∧ tree.walk follow fewer (steps target ++ rest) (linkStart directory target)
              = .ok last := by
  cases stops : tree.advance follow way place with
  | error cause => simp [walk_of_error stops]
  | ok stop =>
      cases stop with
      | place ending => simp [walk_of_place stops]
      | link directory target rest =>
          rw [walk_of_link stops]
          constructor
          · intro leads
            cases links with
            | zero => simp at leads
            | succ fewer => exact .inr ⟨fewer, directory, target, rest, rfl, rfl, leads⟩
          · rintro (stays | ⟨fewer, other, otherTarget, others, rfl, same, goesOn⟩)
            · simp at stays
            · obtain ⟨rfl, rfl, rfl⟩ := by simpa using same
              exact goesOn

/-- A link in a directory leads on from a directory, be it that one or the top. -/
theorem get?_linkStart {directory : Place} (inside : tree.get? directory = some .directory)
    (target : String)
    : tree.get? (linkStart directory target) = some .directory := by
  unfold linkStart
  split
  · exact tree.get?_nil
  · exact inside

/-- A path leads to the same place in trees where the same stands at every place, by induction over
the links on the way.
-/
theorem walk_congr {other : FileTree} (same : ∀ place, other.get? place = tree.get? place)
    (follow : Bool) (links : Nat) (way : List Step) (place : Place)
    : other.walk follow links way place = tree.walk follow links way place := by
  induction links generalizing way place with
  | zero =>
      rw [walk_eq, walk_eq, advance_congr same]
  | succ links ih =>
      rw [walk_eq, walk_eq, advance_congr same]
      simp only [ih]

/-- What a path finds is read off what stands in the tree. -/
theorem find_congr {other : FileTree} (same : ∀ place, other.get? place = tree.get? place)
    (follow : Bool) (path : String)
    : other.find follow path = tree.find follow path := by
  simp only [find, locate, walk_congr same, same]

/-- Steps that do not go past a link at the end stop where others do, or at a link in the end, by
induction along the steps.
-/
theorem advance_follow (tree : FileTree) (way : List Step) (place : Place)
    : tree.advance true way place = tree.advance false way place
      ∨ ∃ target last,
          tree.advance false way place = .ok (.place last)
          ∧ tree.get? last = some (.link target) := by
  induction way generalizing place with
  | nil => exact .inl rfl
  | cons step rest ih =>
      cases step with
      | stay => exact ih place
      | up => exact ih place.dropLast
      | down name =>
          cases stands : tree.get? (place ++ [name]) with
          | none => exact .inl (by simp [advance, stands])
          | some node =>
              cases node with
              | directory => simpa [advance, stands] using ih (place ++ [name])
              | file content => exact .inl (by simp [advance, stands])
              | link target =>
                  by_cases done : rest = []
                  · exact .inr ⟨target, _, by simp [advance, stands, done], stands⟩
                  · exact .inl (by simp [advance, stands, done])

/-- A walk that does not follow a link at its end leads to where one leads that does, or to a
link, by induction over the links on the way, which both follow.
-/
theorem walk_follow (tree : FileTree) (links : Nat) (way : List Step) (place : Place)
    : tree.walk true links way place = tree.walk false links way place
      ∨ ∃ target last,
          tree.walk false links way place = .ok last
          ∧ tree.get? last = some (.link target) := by
  induction links generalizing way place with
  | zero =>
      rcases advance_follow tree way place with same | ⟨target, last, stops, stands⟩
      · exact .inl (by rw [walk_eq, walk_eq, same])
      · exact .inr ⟨target, last, walk_of_place stops 0, stands⟩
  | succ links ih =>
      rcases advance_follow tree way place with same | ⟨target, last, stops, stands⟩
      · cases ends : tree.advance false way place with
        | error cause =>
            exact .inl ((walk_of_error (same.trans ends) _).trans (walk_of_error ends _).symm)
        | ok stop =>
            cases stop with
            | place last =>
                exact .inl ((walk_of_place (same.trans ends) _).trans (walk_of_place ends _).symm)
            | link directory target rest =>
                -- A link on the way is followed by both walks, and leaves both the same links.
                rw [walk_of_link (same.trans ends), walk_of_link ends]
                exact ih (steps target ++ rest) (linkStart directory target)
      · exact .inr ⟨target, last, walk_of_place stops (links + 1), stands⟩

/-- What a path leads to does not depend on whether a link at its end is followed, unless there is
one.
-/
theorem find_follow (tree : FileTree) (path : String)
    : tree.find true path = tree.find false path
      ∨ ∃ place target, tree.find false path = .ok (place, .link target) := by
  unfold find locate
  split
  · exact .inl rfl
  · rcases walk_follow tree linkLimit (steps path) [] with same | ⟨target, last, ends, stands⟩
    · exact .inl (by rw [same])
    · refine .inr ⟨last, target, ?_⟩
      simp [ends, stands, bind, Except.bind]

end DocSurvey.FileTree
