import DocSurvey.Proofs.Files.Frame
import DocSurvey.Proofs.Files.Growth

/-! Files told apart by their names, in trees whose directories may be links. A path joined to a
name leads to a place of that name, unless a link has it. Main statement: what a path leads to is
left as it is when directories are made, and when files of other names are written anywhere.
-/

namespace DocSurvey

open DocSurvey.Path

/-- Two names joined to a path make the same path only if they are the same. -/
theorem Path.join_eq_join_iff {base name other : String} (isName : IsName name)
    (isNameToo : IsName other)
    : join base name = join base other ↔ name = other := by
  refine ⟨fun same => ?_, fun same => by rw [same]⟩
  have relative := isAbsolute_eq_false_of_isName isName
  have relativeToo := isAbsolute_eq_false_of_isName isNameToo
  unfold join at same
  rw [relative, relativeToo, Bool.false_or] at same
  have texts := congrArg String.toList same
  refine String.toList_inj.mp ?_
  by_cases nothing : base.isEmpty = true
  · simpa [nothing] using texts
  · by_cases slash : (base.toList.getLast? == some '/') = true
    · simpa [nothing, slash] using texts
    · simpa [nothing, slash] using texts

namespace FileTree

variable {tree changed : FileTree} {name : String}

-----------------------------------------------------------------------------------------
-- The name at the end of a path
-----------------------------------------------------------------------------------------

/-- The stop of steps that go down to a name at their end: at a place of that name, or at a link
that has it or stands before it.
-/
def Stop.EndsAt (tree : FileTree) (name : String) : Stop → Prop
  | .place last => last.getLast? = some name
  | .link directory target rest =>
      tree.get? (directory ++ [name]) = some (.link target)
      ∨ ∃ before, rest = before ++ [.down name]

/-- Steps that go down to a name at their end stop there or at a link, by induction along them. -/
theorem advance_endsAt {way : List Step} {place : Place} {stop : Stop}
    (stops : tree.advance true (way ++ [.down name]) place = .ok stop)
    : stop.EndsAt tree name := by
  induction way generalizing place with
  | nil =>
      have here : ∀ {other : Stop}, other = .place (place ++ [name]) → other.EndsAt tree name := by
        rintro _ rfl
        simp [Stop.EndsAt]
      cases stands : tree.get? (place ++ [name]) with
      | none => exact here (by simpa [advance, stands] using stops.symm)
      | some node =>
          cases node with
          | directory => exact here (by simpa [advance, stands] using stops.symm)
          | file content => exact here (by simpa [advance, stands] using stops.symm)
          | link target =>
              obtain rfl : Stop.link place target [] = stop := by
                simpa [advance, stands] using stops
              exact .inl stands
  | cons step rest ih =>
      cases step with
      | stay => exact ih stops
      | up => exact ih stops
      | down between =>
          -- More steps follow, so that only a directory or a link is gone past.
          cases stands : tree.get? (place ++ [between]) with
          | none => simp [advance, stands] at stops
          | some node =>
              cases node with
              | directory => exact ih (by simpa [advance, stands] using stops)
              | file content => simp [advance, stands] at stops
              | link target =>
                  obtain rfl : Stop.link place target (rest ++ [.down name]) = stop := by
                    simpa [advance, stands] using stops
                  exact .inr ⟨rest, rfl⟩

/-- No link has a name of the sort. -/
def HasNoLink (sort : String → Prop) (tree : FileTree) : Prop :=
  ∀ directory name target, sort name → tree.get? (directory ++ [name]) ≠ some (.link target)

variable {sort : String → Prop}

/-- A walk that goes down to a name at its end leads to a place of that name if no link has it, by
induction over the links on the way.
-/
theorem HasNoLink.walk (noLink : tree.HasNoLink sort) (ofSort : sort name) {links : Nat}
    {way : List Step} {place last : Place}
    (leads : tree.walk true links (way ++ [.down name]) place = .ok last)
    : last.getLast? = some name := by
  induction links generalizing way place with
  | zero =>
      rcases walk_eq_ok_iff.mp leads with stops | ⟨_, _, _, _, more, _⟩
      · exact advance_endsAt stops
      · simp at more
  | succ links ih =>
      rcases walk_eq_ok_iff.mp leads
        with stops | ⟨fewer, above, target, rest, same, stops, goesOn⟩
      · exact advance_endsAt stops
      · obtain rfl : links = fewer := Nat.succ.inj same
        rcases advance_endsAt stops with isLink | ⟨before, rfl⟩
        · exact absurd isLink (noLink above name target ofSort)
        · rw [← List.append_assoc] at goesOn
          exact ih goesOn

/-- A path joined to a name leads to a place of that name if no link has it. -/
theorem HasNoLink.locate_join (noLink : tree.HasNoLink sort) (ofSort : sort name)
    (isName : IsName name) {base : String} {place : Place}
    (leads : tree.locate true (join base name) = .ok place)
    : place.getLast? = some name := by
  have named : ∀ other ∈ [name], IsName other := by simpa using isName
  have way : steps (join base name) = (components base).map Step.ofComponent ++ [.down name] :=
    steps_foldl_join named (by simp) base
  unfold locate at leads
  split at leads
  · simp at leads
  · rw [way] at leads
    exact noLink.walk ofSort leads

-----------------------------------------------------------------------------------------
-- What other changes leave
-----------------------------------------------------------------------------------------

/-- A directory that is made takes nothing away. -/
theorem isWithin_withDirectory {path : String} (done : tree.withDirectory path = .ok changed)
    : tree.IsWithin changed := by
  obtain ⟨place, _, free, rfl⟩ := withDirectory_eq_ok_iff.mp done
  have noDirectory : tree.get? place ≠ some .directory := by simp [free]
  have below := ne_nil_of_get? noDirectory
  intro other node stands
  have apart : other ≠ place := by
    rintro rfl
    simp [free] at stands
  rw [tree.get?_insert below, if_neg apart]
  exact stands

/-- No link comes of putting something else into the tree. -/
theorem HasNoLink.insert (noLink : tree.HasNoLink sort) {place : Place} (below : place ≠ [])
    {node : Node} (other : ∀ target, node ≠ .link target)
    : (tree.insert place node).HasNoLink sort := by
  intro directory name target ofSort
  rw [tree.get?_insert below]
  split
  · exact fun same => other target (Option.some.inj same)
  · exact noLink directory name target ofSort

/-- Making a directory makes no link. -/
theorem HasNoLink.withDirectory (noLink : tree.HasNoLink sort) {path : String}
    (done : tree.withDirectory path = .ok changed)
    : changed.HasNoLink sort := by
  obtain ⟨place, _, free, rfl⟩ := withDirectory_eq_ok_iff.mp done
  have noDirectory : tree.get? place ≠ some .directory := by simp [free]
  exact noLink.insert (ne_nil_of_get? noDirectory) (by simp)

/-- Writing a file makes no link. -/
theorem HasNoLink.withFile (noLink : tree.HasNoLink sort) (isTree : tree.IsTree) {path : String}
    {content : Option String} (done : tree.withFile path content = .ok changed)
    : changed.HasNoLink sort := by
  obtain ⟨place, leads, noDirectory, rfl⟩ := withFile_eq_ok_iff.mp done
  exact noLink.insert (isTree.takesFile_of_locate leads noDirectory).ne_nil (by simp)

/-- A file that is written elsewhere does not change what a path leads to. -/
theorem IsTree.find_of_withFile (isTree : tree.IsTree) {path other : String} {place : Place}
    {node : Node} {content : Option String} (found : tree.find true path = .ok (place, node))
    (done : tree.withFile other content = .ok changed)
    (apart : ∀ there, tree.locate true other = .ok there → there ≠ place)
    : changed.find true path = .ok (place, node) := by
  obtain ⟨there, leads, noDirectory, rfl⟩ := withFile_eq_ok_iff.mp done
  have takes := isTree.takesFile_of_locate leads noDirectory
  obtain ⟨reached, stands⟩ := find_eq_ok_iff.mp found
  refine find_eq_ok_iff.mpr ⟨(sameBut_insert takes content).locate reached, ?_⟩
  rw [tree.get?_insert takes.ne_nil, if_neg (apart there leads).symm]
  exact stands

/-- A file is found where it is written. -/
theorem IsTree.find_of_withFile_self (isTree : tree.IsTree) {path : String}
    {content : Option String} (done : tree.withFile path content = .ok changed)
    : ∃ place,
        tree.locate true path = .ok place
        ∧ changed.find true path = .ok (place, .file content) := by
  obtain ⟨place, leads, noDirectory, rfl⟩ := withFile_eq_ok_iff.mp done
  have takes := isTree.takesFile_of_locate leads noDirectory
  refine ⟨place, leads, find_eq_ok_iff.mpr ⟨(sameBut_insert takes content).locate leads, ?_⟩⟩
  rw [tree.get?_insert takes.ne_nil, if_pos rfl]

end FileTree

theorem FileAction.keeps_writeFile {property : FileTree → Prop} {path text : String}
    (steps : ∀ tree changed,
      property tree → tree.withFile path (some text) = .ok changed → property changed)
    : (FileAction.writeFile path text).Keeps property := by
  refine FileAction.keeps_change fun tree changed before done => steps tree changed before ?_
  cases written : tree.withFile path (some text) with
  | error cause => simp [written, Except.mapError] at done
  | ok made => simpa [written, Except.mapError] using done

end DocSurvey
