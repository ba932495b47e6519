import DocSurvey.Files.Output
import DocSurvey.Proofs.Files.Changes

/-! Files that are written. No path leads anywhere else because of a file: it could not have gone
past the place where the file is put. Main statement: what is written where a path leads is read
back under the same path.
-/

namespace DocSurvey

namespace FileTree

variable {tree : FileTree}

-----------------------------------------------------------------------------------------
-- Where a file can be put
-----------------------------------------------------------------------------------------

/-- Nothing stands at the place, or a file. -/
def TakesFile (tree : FileTree) (place : Place) : Prop :=
  tree.get? place = none ∨ ∃ content, tree.get? place = some (.file content)

theorem TakesFile.noDirectory {place : Place} (takes : tree.TakesFile place)
    : tree.get? place ≠ some .directory := by
  rcases takes with free | ⟨content, stands⟩
  · simp [free]
  · simp [stands]

/-- No file can be put at the top. -/
theorem TakesFile.ne_nil {place : Place} (takes : tree.TakesFile place) : place ≠ [] :=
  ne_nil_of_get? takes.noDirectory

theorem ite_ok_eq_ok_iff {ε α : Type} {p : Prop} [Decidable p] {found other : α} {cause : ε}
    : (if p then Except.ok found else .error cause) = .ok other ↔ p ∧ found = other := by
  split <;> simp [*]

/-- Steps that follow links do not stop on one, by induction along them. -/
theorem IsTree.advance_noLink (isTree : tree.IsTree) {way : List Step} {place last : Place}
    (directory : tree.get? place = some .directory)
    (stops : tree.advance true way place = .ok (.place last))
    : tree.TakesFile last ∨ tree.get? last = some .directory := by
  induction way generalizing place with
  | nil =>
      obtain rfl : place = last := by simpa [advance] using stops
      exact .inr directory
  | cons step rest ih =>
      cases step with
      | stay => exact ih directory stops
      | up => exact ih (isTree.get?_dropLast directory) stops
      | down name =>
          cases stands : tree.get? (place ++ [name]) with
          | none =>
              obtain ⟨_, rfl⟩ : rest = [] ∧ place ++ [name] = last := by
                simpa [advance, stands, ite_ok_eq_ok_iff] using stops
              exact .inl (.inl stands)
          | some node =>
              cases node with
              | directory => exact ih stands (by simpa [advance, stands] using stops)
              | file content =>
                  obtain ⟨_, rfl⟩ : rest = [] ∧ place ++ [name] = last := by
                    simpa [advance, stands, ite_ok_eq_ok_iff] using stops
                  exact .inl (.inr ⟨content, stands⟩)
              | link target => simp [advance, stands] at stops

/-- A walk that follows links leads to none, by induction over the links on the way. -/
theorem IsTree.walk_noLink (isTree : tree.IsTree) {links : Nat} {way : List Step}
    {place last : Place} (named : AreNamed way) (directory : tree.get? place = some .directory)
    (leads : tree.walk true links way place = .ok last)
    : tree.TakesFile last ∨ tree.get? last = some .directory := by
  induction links generalizing way place with
  | zero =>
      rcases walk_eq_ok_iff.mp leads with stops | ⟨_, _, _, _, more, _⟩
      · exact isTree.advance_noLink directory stops
      · simp at more
  | succ links ih =>
      rcases walk_eq_ok_iff.mp leads
        with stops | ⟨fewer, above, target, rest, same, stops, goesOn⟩
      · exact isTree.advance_noLink directory stops
      · obtain rfl : links = fewer := Nat.succ.inj same
        obtain ⟨aboveDirectory, restNamed⟩ := isTree.advance_hasRoom named directory stops
        refine ih ?_ (get?_linkStart aboveDirectory target) goesOn
        intro name member
        rcases List.mem_append.mp member with inLink | behind
        · exact areNamed_steps target name inLink
        · exact restNamed name behind

/-- A file is written exactly where its path leads and no directory stands. -/
theorem withFile_eq_ok_iff {path : String} {content : Option String} {changed : FileTree}
    : tree.withFile path content = .ok changed
      ↔ ∃ place,
          tree.locate true path = .ok place
          ∧ tree.get? place ≠ some .directory
          ∧ changed = tree.insert place (.file content) := by
  unfold withFile
  cases leads : tree.locate true path with
  | error cause => simp [bind, Except.bind]
  | ok place =>
      simp only [bind, Except.bind, Except.ok.injEq, exists_eq_left']
      cases stands : tree.get? place with
      | none => simp [eq_comm]
      | some node => cases node <;> simp [eq_comm]

/-- A file is written where it can be put. -/
theorem IsTree.takesFile_of_locate (isTree : tree.IsTree) {path : String} {place : Place}
    (leads : tree.locate true path = .ok place) (noDirectory : tree.get? place ≠ some .directory)
    : tree.TakesFile place := by
  unfold locate at leads
  split at leads
  · simp at leads
  · rcases isTree.walk_noLink (areNamed_steps path) tree.get?_nil leads with takes | directory
    · exact takes
    · exact absurd directory noDirectory

-----------------------------------------------------------------------------------------
-- Paths past a file
-----------------------------------------------------------------------------------------

/-- The trees are the same but for a file at a place, which only one of them may hold. -/
structure SameBut (place : Place) (tree other : FileTree) : Prop where
  takes : tree.TakesFile place
  takesToo : other.TakesFile place
  elsewhere : ∀ apart, apart ≠ place → other.get? apart = tree.get? apart

/-- A file that is written leaves the tree the same but for that file. -/
theorem sameBut_insert {place : Place} (takes : tree.TakesFile place) (content : Option String)
    : SameBut place tree (tree.insert place (.file content)) where
  takes := takes
  takesToo := .inr ⟨content, by rw [tree.get?_insert takes.ne_nil, if_pos rfl]⟩
  elsewhere := fun apart differs => by rw [tree.get?_insert takes.ne_nil, if_neg differs]

namespace SameBut

variable {place : Place} {other : FileTree}

theorem symm (same : SameBut place tree other) : SameBut place other tree where
  takes := same.takesToo
  takesToo := same.takes
  elsewhere := fun apart differs => (same.elsewhere apart differs).symm

/-- Steps that stop somewhere stop there with or without the file: they do not go past it. By
induction along the steps.
-/
theorem advance (same : SameBut place tree other) {follow : Bool} {way : List Step} {start : Place}
    {stop : Stop} (stops : tree.advance follow way start = .ok stop)
    : other.advance follow way start = .ok stop := by
  induction way generalizing start with
  | nil => exact stops
  | cons step rest ih =>
      cases step with
      | stay => exact ih stops
      | up => exact ih stops
      | down name =>
          by_cases here : start ++ [name] = place
          · subst here
            rcases same.takes with free | ⟨content, stands⟩
              <;> rcases same.takesToo with otherFree | ⟨otherContent, otherStands⟩
              <;> simp_all [FileTree.advance, ite_ok_eq_ok_iff]
          · have now := same.elsewhere _ here
            cases stands : tree.get? (start ++ [name]) with
            | none => simpa [FileTree.advance, now, stands] using stops
            | some node =>
                cases node with
                | directory =>
                    simp only [FileTree.advance, now, stands] at stops ⊢
                    exact ih stops
                | file content => simpa [FileTree.advance, now, stands] using stops
                | link target => simpa [FileTree.advance, now, stands] using stops

/-- A path leads to the same place with or without the file, by induction over the links on the way.
-/
theorem walk (same : SameBut place tree other) {follow : Bool} {links : Nat} {way : List Step}
    {start last : Place} (leads : tree.walk follow links way start = .ok last)
    : other.walk follow links way start = .ok last := by
  induction links generalizing way start with
  | zero =>
      rcases walk_eq_ok_iff.mp leads with stops | ⟨_, _, _, _, more, _⟩
      · exact walk_of_place (same.advance stops) 0
      · simp at more
  | succ links ih =>
      rcases walk_eq_ok_iff.mp leads
        with stops | ⟨fewer, above, target, rest, count, stops, goesOn⟩
      · exact walk_of_place (same.advance stops) _
      · obtain rfl : links = fewer := Nat.succ.inj count
        exact walk_eq_ok_iff.mpr
          (.inr ⟨links, above, target, rest, rfl, same.advance stops, ih goesOn⟩)

/-- A path leads to the same place with or without the file. -/
theorem locate (same : SameBut place tree other) {follow : Bool} {path : String} {last : Place}
    (leads : tree.locate follow path = .ok last)
    : other.locate follow path = .ok last := by
  unfold FileTree.locate at leads ⊢
  split at leads
  · simp at leads
  · rename_i usable
    rw [if_neg usable]
    exact same.walk leads

end SameBut

-----------------------------------------------------------------------------------------
-- Paths that a file can be written to
-----------------------------------------------------------------------------------------

/-- The path leads to where a file is or can be put. -/
def AcceptsFile (tree : FileTree) (path : String) : Prop :=
  ∃ place, tree.locate true path = .ok place ∧ tree.get? place ≠ some .directory

/-- Whether a file can be written does not depend on what is written. -/
theorem exists_withFile_iff {path : String} {content : Option String}
    : (∃ changed, tree.withFile path content = .ok changed) ↔ tree.AcceptsFile path := by
  simp only [withFile_eq_ok_iff, AcceptsFile]
  constructor
  · rintro ⟨_, place, leads, noDirectory, _⟩
    exact ⟨place, leads, noDirectory⟩
  · rintro ⟨place, leads, noDirectory⟩
    exact ⟨_, place, leads, noDirectory, rfl⟩

/-- A file finds a place with or without the other one. -/
theorem SameBut.acceptsFile {place : Place} {other : FileTree} (same : SameBut place tree other)
    {path : String} (accepts : tree.AcceptsFile path)
    : other.AcceptsFile path := by
  obtain ⟨last, leads, noDirectory⟩ := accepts
  refine ⟨last, same.locate leads, ?_⟩
  by_cases here : last = place
  · exact here ▸ same.takesToo.noDirectory
  · rwa [same.elsewhere last here]

/-- Writing a file takes no place from another one. -/
theorem IsTree.acceptsFile_withFile_iff (isTree : tree.IsTree) {changed : FileTree}
    {path written : String} {content : Option String}
    (done : tree.withFile written content = .ok changed)
    : changed.AcceptsFile path ↔ tree.AcceptsFile path := by
  obtain ⟨place, leads, noDirectory, rfl⟩ := withFile_eq_ok_iff.mp done
  have same := sameBut_insert (isTree.takesFile_of_locate leads noDirectory) content
  exact ⟨same.symm.acceptsFile, same.acceptsFile⟩

/-- What is written where a path leads is read back under it. -/
theorem IsTree.readText_of_withFile (isTree : tree.IsTree) {path text : String}
    {changed : FileTree} (done : tree.withFile path (some text) = .ok changed)
    : changed.readText path = .ok text := by
  obtain ⟨place, leads, noDirectory, rfl⟩ := withFile_eq_ok_iff.mp done
  have takes := isTree.takesFile_of_locate leads noDirectory
  have still := (sameBut_insert takes (some text)).locate leads
  have stands : (tree.insert place (.file (some text))).get? place = some (.file (some text)) := by
    rw [tree.get?_insert takes.ne_nil, if_pos rfl]
  unfold readText find
  rw [still]
  simp [bind, Except.bind, stands]

end FileTree

-----------------------------------------------------------------------------------------
-- Actions that write
-----------------------------------------------------------------------------------------

namespace FileAction

variable {ε δ α β : Type} {tree changed : FileTree}

/-- The action gives the result and leaves the changed tree. -/
def Yields (action : FileAction ε α) (tree : FileTree) (result : α) (changed : FileTree) : Prop :=
  ((ExceptT.run action).run tree).1 = .ok result ∧ ((ExceptT.run action).run tree).2 = changed

/-- An action succeeds with changes exactly if it yields them. -/
theorem apply_eq_none_iff {action : FileAction ε Unit}
    : action.apply tree = (changed, none) ↔ action.Yields tree () changed := by
  unfold apply Yields
  rcases (ExceptT.run action).run tree with ⟨cause | result, other⟩ <;> simp

/-- What an action keeps is kept where it succeeds. -/
theorem Keeps.yields {action : FileAction ε α} {property : FileTree → Prop}
    (keeps : action.Keeps property) (before : property tree) {result : α}
    (yields : action.Yields tree result changed)
    : property changed :=
  yields.2 ▸ keeps tree before

theorem yields_pure_iff {result other : α}
    : (pure result : FileAction ε α).Yields tree other changed
      ↔ result = other ∧ tree = changed := by
  change (Except.ok result : Except ε α) = .ok other ∧ tree = changed ↔ _
  simp

theorem yields_get_bind_iff {next : FileTree → FileAction ε α} {result : α}
    : (get >>= next : FileAction ε α).Yields tree result changed
      ↔ (next tree).Yields tree result changed :=
  Iff.rfl

theorem yields_set_iff {made : FileTree}
    : (set made : FileAction ε Unit).Yields tree () changed ↔ made = changed := by
  change (Except.ok () : Except ε Unit) = .ok () ∧ made = changed ↔ _
  simp

/-- An error yields nothing. -/
theorem not_yields_throw {cause : ε} {result : α}
    : ¬ (throw cause : FileAction ε α).Yields tree result changed := by
  rintro ⟨fails, _⟩
  change (Except.error cause : Except ε α) = .ok result at fails
  simp at fails

/-- An action that goes on from another one gives a result where both do. -/
theorem yields_bind_iff {first : FileAction ε α} {next : α → FileAction ε β} {result : β}
    : (first >>= next).Yields tree result changed
      ↔ ∃ middle between,
          first.Yields tree middle between ∧ (next middle).Yields between result changed := by
  unfold Yields
  rw [run_bind]
  rcases (ExceptT.run first).run tree with ⟨cause | middle, between⟩ <;> simp

theorem run_change {ε : Type} (step : FileTree → Except ε FileTree) (tree : FileTree)
    : (ExceptT.run (change step)).run tree
      = match step tree with
        | .ok made => (.ok (), made)
        | .error cause => (.error cause, tree) := by
  change (ExceptT.run (match step tree with
    | .ok made => set made
    | .error cause => throw cause : FileAction ε Unit)).run tree = _
  cases step tree <;> rfl

/-- A single change yields the tree it comes to. -/
theorem yields_change_iff {step : FileTree → Except ε FileTree}
    : (change step).Yields tree () changed ↔ step tree = .ok changed := by
  unfold change
  rw [yields_get_bind_iff]
  cases result : step tree with
  | error cause => simpa using not_yields_throw
  | ok made => simpa using yields_set_iff

theorem run_adapt (rename : ε → δ) (action : FileAction ε α) (tree : FileTree)
    : (ExceptT.run (ExceptT.adapt rename action : FileAction δ α)).run tree
      = (((ExceptT.run action).run tree).1.mapError rename,
          ((ExceptT.run action).run tree).2) := rfl

/-- To rename errors changes nothing but what is said about a failure. -/
theorem apply_adapt (rename : ε → δ) (action : FileAction ε Unit) (tree : FileTree)
    : apply (ExceptT.adapt rename action) tree
      = ((action.apply tree).1, (action.apply tree).2.map rename) := by
  unfold apply
  rw [run_adapt]
  rcases (ExceptT.run action).run tree with ⟨cause | result, changed⟩ <;> rfl

/-- To rename errors changes nothing about what succeeds. -/
theorem yields_adapt_iff {rename : ε → δ} {action : FileAction ε α} {result : α}
    : Yields (ExceptT.adapt rename action : FileAction δ α) tree result changed
      ↔ action.Yields tree result changed := by
  unfold Yields
  rw [run_adapt]
  rcases (ExceptT.run action).run tree with ⟨cause | middle, between⟩ <;> simp [Except.mapError]

/-- A file that is written yields the tree with it. -/
theorem yields_writeFile_iff {path text : String}
    : (writeFile path text).Yields tree () changed
      ↔ tree.withFile path (some text) = .ok changed := by
  unfold writeFile
  rw [yields_change_iff]
  cases tree.withFile path (some text) with
  | error cause => simp [Except.mapError]
  | ok made => simp [Except.mapError]

/-- To rename errors changes nothing about what is kept. -/
theorem Keeps.adapt {rename : ε → δ} {action : FileAction ε α} {property : FileTree → Prop}
    (keeps : action.Keeps property)
    : Keeps (ExceptT.adapt rename action : FileAction δ α) property := by
  intro tree before
  unfold Leaves
  rw [run_adapt]
  exact keeps tree before

end FileAction

end DocSurvey
