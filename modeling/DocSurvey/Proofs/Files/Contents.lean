import DocSurvey.Proofs.Files.Writing

/-! What files hold has no part in where paths lead. Main statement: directories that can be made in
a tree can be made in each tree that differs from it in the contents of files alone, and the trees
still differ in nothing else then.
-/

namespace DocSurvey

namespace FileTree

variable {tree other : FileTree}

/-- The trees differ at most in what their files hold. -/
def Alike (tree other : FileTree) : Prop :=
  ∀ place,
    other.get? place = tree.get? place
    ∨ ∃ content written,
        tree.get? place = some (.file content) ∧ other.get? place = some (.file written)

theorem Alike.refl (tree : FileTree) : tree.Alike tree := fun _ => .inl rfl

theorem Alike.symm (alike : tree.Alike other) : other.Alike tree :=
  fun place => (alike place).imp Eq.symm fun ⟨content, written, stands, standsToo⟩ =>
    ⟨written, content, standsToo, stands⟩

/-- A file that is written where one stands leaves a tree alike. -/
theorem alike_insert {place : Place} {content : Option String}
    (stands : tree.get? place = some (.file content)) (written : Option String)
    : tree.Alike (tree.insert place (.file written)) := by
  have noDirectory : tree.get? place ≠ some .directory := by simp [stands]
  have below := ne_nil_of_get? noDirectory
  intro apart
  rw [tree.get?_insert below]
  by_cases here : apart = place
  · subst here
    exact .inr ⟨content, written, stands, if_pos rfl⟩
  · exact .inl (if_neg here)

namespace Alike

variable (alike : tree.Alike other)

include alike

/-- Steps stop at the same place in both trees, by induction along them. -/
theorem advance_eq (follow : Bool) (way : List Step) (place : Place)
    : other.advance follow way place = tree.advance follow way place := by
  induction way generalizing place with
  | nil => rfl
  | cons step rest ih =>
      cases step with
      | stay => exact ih place
      | up => exact ih place.dropLast
      | down name =>
          rcases alike (place ++ [name]) with same | ⟨content, written, stands, standsToo⟩
          · simp only [advance, same, ih]
          · simp only [advance, stands, standsToo]

/-- A walk ends at the same place in both trees, by induction over the links on the way. -/
theorem walk_eq (follow : Bool) (links : Nat) (way : List Step) (place : Place)
    : other.walk follow links way place = tree.walk follow links way place := by
  induction links generalizing way place with
  | zero => rw [FileTree.walk_eq, FileTree.walk_eq, alike.advance_eq]
  | succ links ih =>
      rw [FileTree.walk_eq, FileTree.walk_eq, alike.advance_eq]
      simp only [ih]

/-- A path leads to the same place in both trees. -/
theorem locate_eq (follow : Bool) (path : String)
    : other.locate follow path = tree.locate follow path := by
  simp only [locate, alike.walk_eq]

/-- The trees have the same directories. -/
theorem directory_iff {place : Place}
    : other.get? place = some .directory ↔ tree.get? place = some .directory := by
  rcases alike place with same | ⟨_, _, stands, standsToo⟩
  · rw [same]
  · simp [stands, standsToo]

/-- A path leads to a directory in both trees or in none. -/
theorem isDirectory_eq (path : String) : other.isDirectory path = tree.isDirectory path := by
  unfold isDirectory find
  rw [alike.locate_eq]
  cases tree.locate true path with
  | error cause => rfl
  | ok place =>
      rcases alike place with same | ⟨_, _, stands, standsToo⟩
      · simp [bind, Except.bind, same]
      · simp [bind, Except.bind, stands, standsToo]

/-- A file finds a place in one tree where it finds one in the other. -/
theorem acceptsFile_iff {path : String} : other.AcceptsFile path ↔ tree.AcceptsFile path := by
  simp only [AcceptsFile, alike.locate_eq, ne_eq, alike.directory_iff]

/-- The trees stay alike when the same is put into both. -/
theorem insert {place : Place} (below : place ≠ []) (node : Node)
    : (tree.insert place node).Alike (other.insert place node) := by
  intro apart
  rw [tree.get?_insert below, other.get?_insert below]
  split
  · exact .inl rfl
  · exact alike apart

/-- A directory that can be made in one tree can be made in the other, which leaves them alike. -/
theorem withDirectory_of_ok {path : String} {made : FileTree}
    (done : tree.withDirectory path = .ok made)
    : ∃ madeToo, other.withDirectory path = .ok madeToo ∧ made.Alike madeToo := by
  unfold withDirectory at done ⊢
  rw [alike.locate_eq]
  cases leads : tree.locate false path with
  | error cause => simp [leads, bind, Except.bind] at done
  | ok place =>
      cases stands : tree.get? place with
      | some node => simp [leads, stands, bind, Except.bind] at done
      | none =>
          obtain rfl : tree.insert place .directory = made := by
            simpa [leads, stands, bind, Except.bind] using done
          have free : other.get? place = none := by
            rcases alike place with same | ⟨_, _, file, _⟩
            · exact same.trans stands
            · simp [stands] at file
          have noDirectory : tree.get? place ≠ some .directory := by simp [stands]
          refine ⟨other.insert place .directory, by simp [free, bind, Except.bind], ?_⟩
          exact alike.insert (ne_nil_of_get? noDirectory) .directory

/-- What keeps a directory from being made keeps it from being made in the other tree. -/
theorem withDirectory_of_error {path : String} {cause : SystemError}
    (failed : tree.withDirectory path = .error cause)
    : other.withDirectory path = .error cause := by
  cases done : other.withDirectory path with
  | ok made =>
      obtain ⟨_, doneToo, _⟩ := alike.symm.withDirectory_of_ok done
      simp [failed] at doneToo
  | error problem =>
      unfold withDirectory at failed done
      rw [alike.locate_eq] at done
      cases leads : tree.locate false path with
      | error obstacle => simp_all [bind, Except.bind]
      | ok place =>
          rcases alike place with same | ⟨_, _, stands, standsToo⟩
          · cases stands : tree.get? place <;> simp_all [bind, Except.bind]
          · simp_all [bind, Except.bind]

/-- The way to a path is cut off in both trees or in none. -/
theorem isCutOff_eq (path : String) : other.isCutOff path = tree.isCutOff path := by
  unfold isCutOff
  cases done : tree.withDirectory path with
  | ok made =>
      obtain ⟨madeToo, doneToo, _⟩ := alike.withDirectory_of_ok done
      rw [doneToo]
  | error cause => rw [alike.withDirectory_of_error done]

end Alike

end FileTree

namespace FileAction

open FileTree

/-- The action succeeds in a tree that is alike to one in which it does, and leaves alike trees. -/
def IgnoresContents (action : FileAction SystemError Unit) : Prop :=
  ∀ tree other changed : FileTree,
    tree.Alike other
    → action.Yields tree () changed
    → ∃ changedToo, action.Yields other () changedToo ∧ changed.Alike changedToo

theorem ignoresContents_pure : IgnoresContents (pure ()) := by
  intro tree other changed alike done
  obtain ⟨_, rfl⟩ := yields_pure_iff.mp done
  exact ⟨other, yields_pure_iff.mpr ⟨rfl, rfl⟩, alike⟩

/-- Actions in a row ignore contents if each of them does. -/
theorem IgnoresContents.bind {first : FileAction SystemError Unit}
    {next : Unit → FileAction SystemError Unit} (ignores : first.IgnoresContents)
    (ignoresToo : ∀ result, (next result).IgnoresContents)
    : IgnoresContents (first >>= next) := by
  intro tree other changed alike done
  obtain ⟨_, between, started, ended⟩ := yields_bind_iff.mp done
  obtain ⟨betweenToo, startedToo, stillAlike⟩ := ignores _ _ _ alike started
  obtain ⟨changedToo, endedToo, alikeAfter⟩ := ignoresToo () _ _ _ stillAlike ended
  exact ⟨changedToo, yields_bind_iff.mpr ⟨(), betweenToo, startedToo, endedToo⟩, alikeAfter⟩

/-- A directory is made in both trees, or is there in both. -/
theorem ignoresContents_makeOrFind (path : String) : (makeOrFind path).IgnoresContents := by
  intro tree other changed alike done
  unfold makeOrFind at done ⊢
  rw [yields_get_bind_iff] at done
  split at done
  · rename_i made isMade
    obtain ⟨madeToo, isMadeToo, alikeAfter⟩ := alike.withDirectory_of_ok isMade
    obtain rfl := yields_set_iff.mp done
    refine ⟨madeToo, ?_, alikeAfter⟩
    rw [yields_get_bind_iff, isMadeToo]
    exact yields_set_iff.mpr rfl
  · rename_i cause failed
    split at done
    · rename_i rooted
      obtain ⟨_, rfl⟩ := yields_pure_iff.mp done
      refine ⟨other, ?_, alike⟩
      simp only [yields_get_bind_iff, alike.withDirectory_of_error failed, alike.isDirectory_eq,
        rooted, if_true]
      exact yields_pure_iff.mpr ⟨rfl, rfl⟩
    · exact absurd done not_yields_throw

/-- A directory is made in both trees if the way to it is. -/
theorem ignoresContents_makeDirectory (path : String) {above : FileAction SystemError Unit}
    (ignores : above.IgnoresContents)
    : (makeDirectory path above).IgnoresContents := by
  intro tree other changed alike done
  unfold makeDirectory at done ⊢
  rw [yields_get_bind_iff] at done
  simp only [yields_get_bind_iff, alike.isCutOff_eq]
  split at done
  · rename_i cutOff
    simp only [cutOff, if_true]
    exact ignores.bind (fun _ => ignoresContents_makeOrFind path) _ _ _ alike done
  · rename_i reachable
    simp only [reachable]
    exact ignoresContents_makeOrFind path _ _ _ alike done

/-- The directories on a way are made in both trees, by induction over its components. -/
theorem ignoresContents_makeDirectoriesFrom (components : List Path.Component)
    : (makeDirectoriesFrom components).IgnoresContents := by
  induction components with
  | nil => exact ignoresContents_pure
  | cons last above ih => exact ignoresContents_makeDirectory _ ih

/-- What stands in files has no part in making directories. -/
theorem ignoresContents_makeDirectories (path : String)
    : (makeDirectories path).IgnoresContents := by
  unfold makeDirectories
  split
  · exact ignoresContents_pure
  · exact ignoresContents_makeDirectory _ (ignoresContents_makeDirectoriesFrom _)

end FileAction

end DocSurvey
