import DocSurvey.Proofs.Files.Plain

/-! What is left as it was when directories are made and files are written in a tree without links.
Main statements: making the directories of a path adds directories on the way along the path where
nothing stood, and changes nothing else; where the directory is there already, nothing is changed.
-/

namespace DocSurvey

namespace FileTree

variable {tree changed : FileTree}

-----------------------------------------------------------------------------------------
-- Added directories
-----------------------------------------------------------------------------------------

/-- The changed tree differs from the first one by directories at places of a kind where nothing
stood.
-/
def Adds (kind : Place → Prop) (tree changed : FileTree) : Prop :=
  ∀ place,
    changed.get? place = tree.get? place
    ∨ kind place ∧ tree.get? place = none ∧ changed.get? place = some .directory

/-- Where the first components of a path lead. -/
def OnTheWay (path : String) (place : Place) : Prop :=
  ∃ before,
    before ≠ []
    ∧ before <+: Path.components path
    ∧ place = reach (before.map Step.ofComponent) []

theorem Adds.refl (kind : Place → Prop) (tree : FileTree) : tree.Adds kind tree :=
  fun _ => .inl rfl

/-- What was added stays when more is added. -/
theorem Adds.trans {kind : Place → Prop} {between : FileTree} (first : tree.Adds kind between)
    (second : between.Adds kind changed)
    : tree.Adds kind changed := by
  intro place
  rcases first place with same | ⟨isKind, free, made⟩
  · rw [← same]
    exact second place
  · rcases second place with kept | ⟨_, nothing, _⟩
    · exact .inr ⟨isKind, free, kept.trans made⟩
    · simp [made] at nothing

/-- What is added may be described more widely. -/
theorem Adds.mono {kind other : Place → Prop} (adds : tree.Adds kind changed)
    (weaker : ∀ place, kind place → other place)
    : tree.Adds other changed :=
  fun place => (adds place).imp id fun ⟨isKind, new⟩ => ⟨weaker place isKind, new⟩

/-- Nothing that stood in the tree is changed by additions. -/
theorem Adds.get?_of_some {kind : Place → Prop} (adds : tree.Adds kind changed) {place : Place}
    {node : Node} (stands : tree.get? place = some node)
    : changed.get? place = some node := by
  rcases adds place with same | ⟨_, free, _⟩
  · exact same.trans stands
  · simp [stands] at free

/-- What is no directory after additions was there before. -/
theorem Adds.get?_of_ne_directory {kind : Place → Prop} (adds : tree.Adds kind changed)
    {place : Place} (noDirectory : changed.get? place ≠ some .directory)
    : tree.get? place = changed.get? place := by
  rcases adds place with same | ⟨_, _, made⟩
  · exact same.symm
  · exact absurd made noDirectory

-----------------------------------------------------------------------------------------
-- Single changes of a plain tree
-----------------------------------------------------------------------------------------

/-- A directory is made exactly where its path leads and nothing stands. -/
theorem withDirectory_eq_ok_iff {path : String}
    : tree.withDirectory path = .ok changed
      ↔ ∃ place,
          tree.locate false path = .ok place
          ∧ tree.get? place = none
          ∧ changed = tree.insert place .directory := by
  unfold withDirectory
  cases leads : tree.locate false path with
  | error cause => simp [bind, Except.bind]
  | ok place =>
      simp only [bind, Except.bind, Except.ok.injEq, exists_eq_left']
      cases stands : tree.get? place with
      | none => simp [eq_comm]
      | some node => simp

/-- A directory that is made where a path leads adds just that directory. -/
theorem IsPlain.withDirectory (plain : tree.IsPlain) {path : String}
    (done : tree.withDirectory path = .ok changed)
    : changed.IsPlain ∧ path ≠ "" ∧ tree.Adds (· = spelled path) changed
      ∧ tree.Passes (steps path) [] ∧ changed.get? (spelled path) = some .directory := by
  have sound := plain.toIsSound.withDirectory done
  obtain ⟨place, leads, free, rfl⟩ := withDirectory_eq_ok_iff.mp done
  obtain ⟨filled, passes, rfl⟩ := plain.locate_eq_ok_iff.mp leads
  have noDirectory : tree.get? (spelled path) ≠ some .directory := by simp [free]
  have below := ne_nil_of_get? noDirectory
  have now := tree.get?_insert below .directory
  have adds : tree.Adds (· = spelled path) (tree.insert (spelled path) .directory) := by
    intro place
    by_cases here : place = spelled path
    · subst here
      exact .inr ⟨rfl, free, by simp [now]⟩
    · exact .inl (by simp [now, here])
  refine ⟨⟨sound, ?_⟩, filled, adds, passes, by simp [now]⟩
  intro place target link
  have before : tree.get? place = (tree.insert (spelled path) .directory).get? place :=
    adds.get?_of_ne_directory (by simp [link])
  exact plain.noLinks place target (before.trans link)

/-- A file that is put where nothing or a file stands leaves all other places as they were. -/
theorem IsPlain.insert_file (plain : tree.IsPlain) {place : Place} (room : tree.HasRoom place)
    (takes : tree.TakesFile place) (content : Option String)
    : (tree.insert place (.file content)).IsPlain := by
  have below := takes.ne_nil
  have noDirectory : tree.get? place ≠ some .directory := by
    rcases takes with free | ⟨old, stands⟩ <;> simp [*]
  refine ⟨plain.insert below room fun directory => absurd directory noDirectory, ?_⟩
  intro other target
  rw [tree.get?_insert below]
  split
  · simp
  · exact plain.noLinks other target

/-- A file is written at the place that its path spells, and nothing else changes. -/
theorem IsPlain.withFile (plain : tree.IsPlain) {path : String} {content : Option String}
    (done : tree.withFile path content = .ok changed)
    : changed.IsPlain ∧ path ≠ "" ∧ tree.Passes (steps path) []
      ∧ tree.get? (spelled path) ≠ some .directory
      ∧ changed = tree.insert (spelled path) (.file content)
      ∧ ∀ place,
          changed.get? place
            = if place = spelled path then some (.file content) else tree.get? place := by
  obtain ⟨place, leads, noDirectory, rfl⟩ := withFile_eq_ok_iff.mp done
  have takes := plain.takesFile_of_locate leads noDirectory
  have room := plain.locate_hasRoom leads
  obtain ⟨filled, passes, rfl⟩ := plain.locate_eq_ok_iff.mp leads
  exact ⟨plain.insert_file room takes content, filled, passes, noDirectory, rfl,
    tree.get?_insert takes.ne_nil _⟩

/-- A path leads to the place of a file once more after it has been written. -/
theorem IsPlain.withFile_eq_ok (plain : tree.IsPlain) {path : String} {content : Option String}
    (filled : path ≠ "") (passes : tree.Passes (steps path) [])
    (noDirectory : tree.get? (spelled path) ≠ some .directory)
    : tree.withFile path content = .ok (tree.insert (spelled path) (.file content)) :=
  withFile_eq_ok_iff.mpr
    ⟨_, plain.locate_eq_ok_iff.mpr ⟨filled, passes, rfl⟩, noDirectory, rfl⟩

/-- A file can be written under any name in a directory, unless there is a directory of that name.
-/
theorem IsPlain.withFile_join (plain : tree.IsPlain) {base name : String}
    (rooted : tree.isDirectory base = true) (isName : Path.IsName name)
    (free : tree.isDirectory (Path.join base name) = false) (content : Option String)
    : ∃ changed, tree.withFile (Path.join base name) content = .ok changed := by
  obtain ⟨_, passes, directory⟩ := plain.isDirectory_iff.mp rooted
  have named : ∀ other ∈ [name], Path.IsName other := by simpa using isName
  have filled := Path.join_ne_empty base isName
  have way : steps (Path.join base name)
      = (Path.components base).map Step.ofComponent ++ [.down name] :=
    steps_foldl_join named (by simp) base
  have passesToo : tree.Passes (steps (Path.join base name)) [] := by
    rw [way, plain.passes_append tree.get?_nil (by simp), ← spelled_eq]
    exact ⟨passes, directory, by simp [Passes]⟩
  refine ⟨_, plain.withFile_eq_ok filled passesToo fun stands => ?_⟩
  have there : tree.isDirectory (Path.join base name) = true :=
    plain.isDirectory_iff.mpr ⟨filled, (plain.passes_steps_iff stands).mp passesToo, stands⟩
  exact Bool.false_ne_true (free.symm.trans there)

/-- What is written once more where it stands changes nothing. -/
theorem IsSound.insert_of_get? (sound : tree.IsSound) {place : Place} {node : Node}
    (below : place ≠ []) (stands : tree.get? place = some node)
    : tree.insert place node = tree := by
  have kept := sound.ordered.insertByKey_of_mem (mem_entries_of_get? below stands)
  rw [FileTree.insert, kept]

-----------------------------------------------------------------------------------------
-- Files and directories that are new
-----------------------------------------------------------------------------------------

/-- The changed tree differs from the first one at most by files at places of a kind, where no
directory stood, and by directories at places of another kind, where nothing stood.
-/
def Differs (files directories : Place → Prop) (tree changed : FileTree) : Prop :=
  ∀ place,
    changed.get? place = tree.get? place
    ∨ (directories place ∧ tree.get? place = none ∧ changed.get? place = some .directory)
    ∨ (files place ∧ tree.get? place ≠ some .directory
        ∧ ∃ content, changed.get? place = some (.file content))

section Differs

variable {files directories : Place → Prop} {between : FileTree}

theorem Adds.differs (adds : tree.Adds directories changed)
    : tree.Differs files directories changed :=
  fun place => (adds place).imp id .inl

/-- Differences of one kind, one after the other, are differences of that kind. -/
theorem Differs.trans (first : tree.Differs files directories between)
    (second : between.Differs files directories changed)
    : tree.Differs files directories changed := by
  intro place
  rcases second place with kept | ⟨isNew, free, made⟩ | ⟨isFile, noDirectory, content, written⟩
  · rw [kept]
    exact first place
  · rcases first place with same | ⟨_, _, wasMade⟩ | ⟨_, _, old, wasWritten⟩
    · exact .inr (.inl ⟨isNew, same ▸ free, made⟩)
    · simp [wasMade] at free
    · simp [wasWritten] at free
  · rcases first place with same | ⟨_, _, wasMade⟩ | ⟨_, stood, _⟩
    · exact .inr (.inr ⟨isFile, same ▸ noDirectory, content, written⟩)
    · exact absurd wasMade noDirectory
    · exact .inr (.inr ⟨isFile, stood, content, written⟩)

theorem Differs.mono {otherFiles otherDirectories : Place → Prop}
    (differs : tree.Differs files directories changed)
    (moreFiles : ∀ place, files place → otherFiles place)
    (moreDirectories : ∀ place, directories place → otherDirectories place)
    : tree.Differs otherFiles otherDirectories changed :=
  fun place => (differs place).imp id <| .imp
    (fun ⟨isNew, made⟩ => ⟨moreDirectories place isNew, made⟩)
    (fun ⟨isFile, written⟩ => ⟨moreFiles place isFile, written⟩)

/-- No directory is lost. -/
theorem Differs.directory (differs : tree.Differs files directories changed) {place : Place}
    (stands : tree.get? place = some .directory)
    : changed.get? place = some .directory := by
  rcases differs place with same | ⟨_, free, _⟩ | ⟨_, noDirectory, _⟩
  · exact same.trans stands
  · simp [stands] at free
  · exact absurd stands noDirectory

/-- Nothing goes missing. -/
theorem Differs.isSome (differs : tree.Differs files directories changed) {place : Place}
    (stands : (tree.get? place).isSome = true)
    : (changed.get? place).isSome = true := by
  rcases differs place with same | ⟨_, _, made⟩ | ⟨_, _, _, written⟩
  · rwa [same]
  · simp [made]
  · simp [written]

/-- A directory where something stood was there before. -/
theorem Differs.directory_of_isSome (differs : tree.Differs files directories changed)
    {place : Place} (stood : (tree.get? place).isSome = true)
    (directory : changed.get? place = some .directory)
    : tree.get? place = some .directory := by
  rcases differs place with same | ⟨_, free, _⟩ | ⟨_, _, _, written⟩
  · exact same.symm.trans directory
  · simp [free] at stood
  · simp [directory] at written

/-- Elsewhere the same files stand. -/
theorem Differs.file_iff (differs : tree.Differs files directories changed) {place : Place}
    (apart : ¬ files place) {content : Option String}
    : changed.get? place = some (.file content) ↔ tree.get? place = some (.file content) := by
  rcases differs place with same | ⟨_, free, made⟩ | ⟨isFile, _⟩
  · rw [same]
  · simp [free, made]
  · exact absurd isFile apart

/-- A path to a directory still leads to one. -/
theorem Differs.isDirectory (differs : tree.Differs files directories changed)
    (plain : tree.IsPlain) (plainChanged : changed.IsPlain) {path : String}
    (there : tree.isDirectory path = true)
    : changed.isDirectory path = true := by
  obtain ⟨filled, passes, stands⟩ := plain.isDirectory_iff.mp there
  exact plainChanged.isDirectory_iff.mpr
    ⟨filled, passes.mono fun _ => differs.directory, differs.directory stands⟩

/-- A path that led somewhere still does. -/
theorem Differs.contains (differs : tree.Differs files directories changed)
    (plain : tree.IsPlain) (plainChanged : changed.IsPlain) {path : String}
    (there : tree.contains path = true)
    : changed.contains path = true := by
  obtain ⟨filled, passes, stands⟩ := plain.contains_iff.mp there
  exact plainChanged.contains_iff.mpr
    ⟨filled, passes.mono fun _ => differs.directory, differs.isSome stands⟩

end Differs

/-- Writing a file changes no more than the place that its path spells. -/
theorem IsPlain.withFile_differs (plain : tree.IsPlain) {path : String} {content : Option String}
    (done : tree.withFile path content = .ok changed)
    : tree.Differs (· = spelled path) (fun _ => False) changed := by
  obtain ⟨_, _, _, noDirectory, _, now⟩ := plain.withFile done
  intro place
  by_cases here : place = spelled path
  · subst here
    exact .inr (.inr ⟨rfl, noDirectory, content, by simp [now]⟩)
  · exact .inl (by simp [now, here])

/-- What a path names, and with that whether it is a directory, depends on its components alone. -/
theorem IsPlain.isDirectory_congr (plain : tree.IsPlain) {path other : String}
    (filled : path ≠ "" ↔ other ≠ "") (same : Path.components path = Path.components other)
    : tree.isDirectory path = true ↔ tree.isDirectory other = true := by
  rw [plain.isDirectory_iff, plain.isDirectory_iff, spelled_eq, spelled_eq, same, filled]

/-- A directory that was just made is there. -/
theorem IsPlain.isDirectory_of_withDirectory (plain : tree.IsPlain) {path : String}
    (done : tree.withDirectory path = .ok changed)
    : changed.isDirectory path = true := by
  obtain ⟨plainChanged, filled, adds, passes, directory⟩ := plain.withDirectory done
  have still := passes.mono fun place => adds.get?_of_some
  exact plainChanged.isDirectory_iff.mpr
    ⟨filled, (plainChanged.passes_steps_iff directory).mp still, directory⟩

end FileTree

namespace FileAction

open FileTree

variable {tree changed : FileTree}

-----------------------------------------------------------------------------------------
-- A single directory
-----------------------------------------------------------------------------------------

section Directory

variable {path : String} {above : FileAction SystemError Unit}

/-- Where a directory is made or found without an error, it is there in the end. -/
theorem isDirectory_of_makeOrFind (plain : tree.IsPlain)
    (made : (makeOrFind path).Yields tree () changed)
    : changed.isDirectory path = true := by
  unfold makeOrFind at made
  rw [yields_get_bind_iff] at made
  split at made
  · rename_i done
    obtain rfl := yields_set_iff.mp made
    exact plain.isDirectory_of_withDirectory done
  · split at made
    · rename_i rooted
      obtain ⟨_, rfl⟩ := yields_pure_iff.mp made
      exact rooted
    · exact absurd made not_yields_throw

/-- A directory that is made is there. -/
theorem isDirectory_of_makeDirectory (plain : tree.IsPlain) (keepsPlain : above.Keeps IsPlain)
    (made : (makeDirectory path above).Yields tree () changed)
    : changed.isDirectory path = true := by
  unfold makeDirectory at made
  rw [yields_get_bind_iff] at made
  split at made
  · obtain ⟨_, between, before, after⟩ := yields_bind_iff.mp made
    exact isDirectory_of_makeOrFind (keepsPlain.yields plain before) after
  · exact isDirectory_of_makeOrFind plain made

/-- A directory that is there already is not made again. -/
theorem makeDirectory_of_isDirectory (plain : tree.IsPlain) (rooted : tree.isDirectory path = true)
    : (makeDirectory path above).Yields tree () tree := by
  obtain ⟨filled, passes, stands⟩ := plain.isDirectory_iff.mp rooted
  have leads : tree.locate false path = .ok (spelled path) :=
    plain.locate_eq_ok_iff.mpr ⟨filled, (plain.passes_steps_iff stands).mpr passes, rfl⟩
  have alreadyThere : tree.withDirectory path = .error .exists := by
    simp [withDirectory, leads, stands, bind, Except.bind]
  have finds : (makeOrFind path).Yields tree () tree := by
    unfold makeOrFind
    rw [yields_get_bind_iff]
    simp only [alreadyThere, rooted, if_true]
    exact yields_pure_iff.mpr ⟨rfl, rfl⟩
  unfold makeDirectory
  rw [yields_get_bind_iff, isCutOff, alreadyThere]
  exact finds

end Directory

-----------------------------------------------------------------------------------------
-- Directories on the way
-----------------------------------------------------------------------------------------

/-- To make the directories of a path is to make one with the components of the path, and those
above before it.
-/
theorem makeDirectories_eq {path : String} (filled : path ≠ "")
    : ∃ spelling last above,
        Path.components path = above.reverse ++ [last]
        ∧ Path.components spelling = Path.components path
        ∧ spelling ≠ ""
        ∧ makeDirectories path = makeDirectory spelling (makeDirectoriesFrom above) := by
  cases shape : (Path.components path).reverse with
  | nil => exact absurd (List.reverse_eq_nil_iff.mp shape) (Path.components_ne_nil filled)
  | cons last above =>
      have order : Path.components path = above.reverse ++ [last] := by
        simpa using List.reverse_eq_iff.mp shape
      refine ⟨if Path.endsInDot path then path else Path.written path, last, above, order,
        ?_, ?_, ?_⟩
      · split
        · rfl
        · exact Path.components_written path
      · split
        · exact filled
        · exact Path.written_ne_empty_iff.mpr filled
      · rw [makeDirectories, shape]

/-- Making the directories of a path adds some on the way along it and changes nothing else, also if
it fails.
-/
theorem adds_makeDirectories (start : FileTree) (path : String)
    : (makeDirectories path).Keeps fun tree =>
        tree.IsPlain ∧ start.Adds (OnTheWay path) tree := by
  have onTheWay (text : String) (tree changed : FileTree)
      (nonempty : Path.components text ≠ [])
      (within : Path.components text <+: Path.components path)
      (before : tree.IsPlain ∧ start.Adds (OnTheWay path) tree)
      (done : tree.withDirectory text = .ok changed)
      : changed.IsPlain ∧ start.Adds (OnTheWay path) changed := by
    obtain ⟨plain, added⟩ := before
    obtain ⟨plainChanged, _, adds, _, _⟩ := plain.withDirectory done
    refine ⟨plainChanged, added.trans (adds.mono ?_)⟩
    rintro place rfl
    exact ⟨_, nonempty, within, spelled_eq text⟩
  by_cases empty : path = ""
  · subst empty
    exact fun tree before => before
  · obtain ⟨spelling, last, above, order, same, _, steps⟩ := makeDirectories_eq empty
    rw [steps]
    refine keeps_makeDirectory (keeps_makeDirectoriesFrom ?_) ?_
    · intro upTo tree changed nonempty within
      have isPrefix : upTo.reverse <+: Path.components path := by
        rw [order]
        exact (List.reverse_prefix.mpr within).trans (List.prefix_append _ _)
      have written := Path.components_of_isPrefix isPrefix
      refine onTheWay _ tree changed ?_ (written.symm ▸ isPrefix)
      rw [written]
      simpa using nonempty
    · intro tree changed
      exact onTheWay spelling tree changed (by simp [same, order]) (same ▸ List.prefix_rfl)

/-- Where directories are made without an error, the path leads to one in the end. -/
theorem isDirectory_of_makeDirectories (plain : tree.IsPlain) {path : String} (filled : path ≠ "")
    (made : (makeDirectories path).Yields tree () changed)
    : changed.isDirectory path = true := by
  have keepsPlain {components : List Path.Component}
      : (makeDirectoriesFrom components).Keeps IsPlain :=
    keeps_makeDirectoriesFrom fun _ _ _ _ _ before done => (IsPlain.withDirectory before done).1
  have plainChanged := (keeps_makeDirectories fun _ _ _ before done =>
    (IsPlain.withDirectory before done).1).yields plain made
  obtain ⟨spelling, last, above, _, same, filledToo, steps⟩ := makeDirectories_eq filled
  rw [steps] at made
  exact (plainChanged.isDirectory_congr (iff_of_true filledToo filled) same).mp
    (isDirectory_of_makeDirectory plain keepsPlain made)

/-- Directories that are there already are not made again. -/
theorem makeDirectories_of_isDirectory (plain : tree.IsPlain) {path : String}
    (rooted : tree.isDirectory path = true)
    : (makeDirectories path).Yields tree () tree := by
  have filled := (plain.isDirectory_iff.mp rooted).1
  obtain ⟨spelling, last, above, _, same, filledToo, steps⟩ := makeDirectories_eq filled
  rw [steps]
  exact makeDirectory_of_isDirectory plain
    ((plain.isDirectory_congr (iff_of_true filledToo filled) same).mpr rooted)

end FileAction

end DocSurvey
