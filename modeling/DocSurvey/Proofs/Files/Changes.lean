import DocSurvey.Proofs.Files.Tree

/-! Changes to trees of directories. Whatever a change puts into such a tree or takes out of it,
it leaves a tree of directories whose entries are in order.
-/

namespace DocSurvey

namespace FileTree

/-- A tree of directories as changes leave it, its entries in the order of their places. -/
structure IsSound (tree : FileTree) : Prop extends IsTree tree where
  ordered : Data.IsOrdered tree.entries

/-- Something can stand at the place: what it lies in is a directory, and names lead to it. -/
def HasRoom (tree : FileTree) (place : Place) : Prop :=
  tree.get? place.dropLast = some .directory ∧ ∀ name ∈ place, Path.IsName name

variable {tree : FileTree}

/-- A tree with nothing in it is sound. -/
theorem isSound_empty : empty.IsSound where
  distinct := List.nodup_nil
  named := by simp [empty]
  closed := by simp [empty]
  ordered := List.Pairwise.nil

-----------------------------------------------------------------------------------------
-- Single changes
-----------------------------------------------------------------------------------------

/-- What is put at a place stands there, and nothing else changes. -/
theorem get?_insert (tree : FileTree) {place : Place} (below : place ≠ []) (node : Node)
    (other : Place)
    : (tree.insert place node).get? other
      = if other = place then some node else tree.get? other := by
  by_cases top : other = []
  · subst top
    simp [Ne.symm below]
  · rw [get?_of_ne_nil _ top, get?_of_ne_nil _ top]
    change (Data.insertByKey place node tree.entries).lookup other = _
    by_cases same : other = place
    · subst same
      simpa using Data.lookup_insertByKey_self other node tree.entries
    · simpa [same] using Data.lookup_insertByKey_of_ne node tree.entries same

/-- What is put where there is room, and in the place of a directory only if it is one, leaves a
sound tree.
-/
theorem IsSound.insert (sound : tree.IsSound) {place : Place} {node : Node} (below : place ≠ [])
    (room : tree.HasRoom place) (keeps : tree.get? place = some .directory → node = .directory)
    : (tree.insert place node).IsSound where
  distinct := (sound.ordered.insertByKey place node).distinct
  named := by
    intro entry member
    rcases Data.mem_insertByKey member with rfl | earlier
    · exact ⟨below, room.2⟩
    · exact sound.named entry earlier
  closed := by
    intro entry member
    rw [tree.get?_insert below]
    rcases Data.mem_insertByKey member with rfl | earlier
    · -- A place does not lie in itself, hence what it lies in stands as before.
      have shorter : place.dropLast ≠ place := by
        intro same
        have lengths := congrArg List.length same
        have positive := List.length_pos_iff.mpr below
        rw [List.length_dropLast] at lengths
        omega
      simpa [shorter] using room.1
    · have directory := sound.closed entry earlier
      split
      · rename_i same
        rw [keeps (same ▸ directory)]
      · exact directory
  ordered := sound.ordered.insertByKey place node

theorem IsTree.erase_distinct (isTree : tree.IsTree) (place : Place)
    : ((tree.erase place).entries.map Prod.fst).Nodup :=
  (List.filter_sublist.map _).nodup isTree.distinct

/-- What is taken out goes with all that lies below it, so that the rest is sound. -/
theorem IsSound.erase (sound : tree.IsSound) (place : Place) : (tree.erase place).IsSound where
  distinct := sound.erase_distinct place
  named := fun entry member => sound.named entry (List.mem_filter.mp member).1
  closed := by
    intro entry member
    obtain ⟨before, kept⟩ := List.mem_filter.mp member
    have directory := sound.closed entry before
    by_cases top : entry.1.dropLast = []
    · simp [top]
    · -- Had the directory been taken out, the entry that lies in it would have gone with it.
      have apart : ¬ place <+: entry.1.dropLast := by
        intro within
        have whole := within.trans (List.dropLast_prefix entry.1)
        simp [List.isPrefixOf_iff_prefix.mpr whole] at kept
      have stays : (entry.1.dropLast, Node.directory) ∈ (tree.erase place).entries := by
        refine List.mem_filter.mpr ⟨mem_entries_of_get? top directory, ?_⟩
        simpa [Bool.eq_false_iff] using apart
      rw [get?_of_ne_nil _ top]
      exact Data.lookup_eq_some_of_mem (sound.erase_distinct place) stays
  ordered := List.Pairwise.filter _ sound.ordered

-----------------------------------------------------------------------------------------
-- Places that paths lead to
-----------------------------------------------------------------------------------------

/-- The names that the steps go down to can stand in a directory. -/
def AreNamed (way : List Step) : Prop :=
  ∀ name, .down name ∈ way → Path.IsName name

/-- The steps of a path go down by names of single components. -/
theorem areNamed_steps (path : String) : AreNamed (steps path) := by
  intro name member
  have among : Step.down name ∈ (Path.components path).map Step.ofComponent := by
    unfold steps at member
    split at member
    · simpa using member
    · exact member
  obtain ⟨component, isComponent, same⟩ := List.mem_map.mp among
  cases component with
  | root => simp [Step.ofComponent] at same
  | current => simp [Step.ofComponent] at same
  | parent => simp [Step.ofComponent] at same
  | name text =>
      obtain rfl : text = name := by simpa [Step.ofComponent] using same
      exact Path.isName_of_mem_components isComponent

/-- What stands somewhere stands in a directory. -/
theorem IsTree.get?_dropLast (isTree : tree.IsTree) {place : Place} {node : Node}
    (stands : tree.get? place = some node)
    : tree.get? place.dropLast = some .directory := by
  by_cases top : place = []
  · simp [top]
  · exact isTree.closed _ (mem_entries_of_get? top stands)

/-- There is room where something stands. -/
theorem IsTree.hasRoom (isTree : tree.IsTree) {place : Place} {node : Node}
    (stands : tree.get? place = some node)
    : tree.HasRoom place :=
  ⟨isTree.get?_dropLast stands, isTree.isName stands⟩

/-- There is room at the stop, or it is a link in a directory with names behind it. -/
def Stop.HasRoom (tree : FileTree) : Stop → Prop
  | .place last => tree.HasRoom last
  | .link directory _ rest => tree.get? directory = some .directory ∧ AreNamed rest

/-- There is room for every name in a directory. -/
theorem IsTree.hasRoom_below (isTree : tree.IsTree) {place : Place} {name : String}
    (directory : tree.get? place = some .directory) (isName : Path.IsName name)
    : tree.HasRoom (place ++ [name]) := by
  refine ⟨by simpa using directory, ?_⟩
  intro other member
  rcases List.mem_append.mp member with above | here
  · exact isTree.isName directory other above
  · obtain rfl : other = name := by simpa using here
    exact isName

/-- Steps from a directory stop where there is room, by induction along the steps. -/
theorem IsTree.advance_hasRoom (isTree : tree.IsTree) {follow : Bool} {way : List Step}
    {place : Place} (named : AreNamed way) (directory : tree.get? place = some .directory)
    {stop : Stop}
    (stops : tree.advance follow way place = .ok stop)
    : stop.HasRoom tree := by
  induction way generalizing place with
  | nil =>
      obtain rfl : Stop.place place = stop := by simpa [advance] using stops
      exact isTree.hasRoom directory
  | cons step rest ih =>
      have later : AreNamed rest := fun name member => named name (List.mem_cons_of_mem _ member)
      cases step with
      | stay => exact ih later directory stops
      | up => exact ih later (isTree.get?_dropLast directory) stops
      | down name =>
          have room := isTree.hasRoom_below directory (named name (by simp))
          have atEnd : ∀ {cause : SystemError},
              (if rest.isEmpty then .ok (.place (place ++ [name])) else .error cause)
                = Except.ok stop
              → stop.HasRoom tree := by
            intro cause ends
            split at ends
            · obtain rfl := Except.ok.inj ends
              exact room
            · simp at ends
          cases stands : tree.get? (place ++ [name]) with
          | none => exact atEnd (by simpa only [advance, stands] using stops)
          | some node =>
              cases node with
              | directory => exact ih later stands (by simpa only [advance, stands] using stops)
              | file content => exact atEnd (by simpa only [advance, stands] using stops)
              | link target =>
                  simp only [advance, stands] at stops
                  split at stops
                  · obtain rfl := Except.ok.inj stops
                    exact room
                  · obtain rfl := Except.ok.inj stops
                    exact ⟨directory, later⟩

/-- Walks from a directory lead to where there is room, by induction over the links on the way. -/
theorem IsTree.walk_hasRoom (isTree : tree.IsTree) {follow : Bool} {links : Nat} {way : List Step}
    {place last : Place} (named : AreNamed way) (directory : tree.get? place = some .directory)
    (leads : tree.walk follow links way place = .ok last)
    : tree.HasRoom last := by
  induction links generalizing way place with
  | zero =>
      rcases walk_eq_ok_iff.mp leads with stops | ⟨_, _, _, _, more, _⟩
      · exact isTree.advance_hasRoom named directory stops
      · simp at more
  | succ links ih =>
      rcases walk_eq_ok_iff.mp leads
        with stops | ⟨fewer, above, target, rest, same, stops, goesOn⟩
      · exact isTree.advance_hasRoom named directory stops
      · obtain rfl : links = fewer := Nat.succ.inj same
        obtain ⟨aboveDirectory, restNamed⟩ := isTree.advance_hasRoom named directory stops
        refine ih ?_ (get?_linkStart aboveDirectory target) goesOn
        intro name member
        rcases List.mem_append.mp member with inLink | behind
        · exact areNamed_steps target name inLink
        · exact restNamed name behind

/-- There is room where a path leads. -/
theorem IsTree.locate_hasRoom (isTree : tree.IsTree) {follow : Bool} {path : String} {place : Place}
    (leads : tree.locate follow path = .ok place)
    : tree.HasRoom place := by
  unfold locate at leads
  split at leads
  · simp at leads
  · exact isTree.walk_hasRoom (areNamed_steps path) (tree.get?_nil) leads

-----------------------------------------------------------------------------------------
-- Changes at paths
-----------------------------------------------------------------------------------------

/-- A file that is written leaves the tree sound. -/
theorem IsSound.withFile (sound : tree.IsSound) {path : String} {content : Option String}
    {changed : FileTree} (done : tree.withFile path content = .ok changed)
    : changed.IsSound := by
  unfold FileTree.withFile at done
  cases leads : tree.locate true path with
  | error cause => simp [leads, bind, Except.bind] at done
  | ok place =>
      simp only [leads, bind, Except.bind] at done
      split at done
      · simp at done
      · rename_i noDirectory
        obtain rfl := Except.ok.inj done
        exact sound.insert (ne_nil_of_get? noDirectory) (sound.locate_hasRoom leads)
          fun stands => absurd stands noDirectory

/-- A node that is put where nothing stands leaves a sound tree. -/
theorem IsSound.insertNew (sound : tree.IsSound) {follow : Bool} {path : String} {place : Place}
    (leads : tree.locate follow path = .ok place) (free : tree.get? place = none) (node : Node)
    : (tree.insert place node).IsSound := by
  have noDirectory : tree.get? place ≠ some .directory := by simp [free]
  exact sound.insert (ne_nil_of_get? noDirectory) (sound.locate_hasRoom leads) fun stands =>
    absurd stands noDirectory

/-- A directory that is made leaves the tree sound. -/
theorem IsSound.withDirectory (sound : tree.IsSound) {path : String} {changed : FileTree}
    (done : tree.withDirectory path = .ok changed)
    : changed.IsSound := by
  unfold FileTree.withDirectory at done
  cases leads : tree.locate false path with
  | error cause => simp [leads, bind, Except.bind] at done
  | ok place =>
      simp only [leads, bind, Except.bind] at done
      split at done
      · simp at done
      · rename_i free
        obtain rfl := Except.ok.inj done
        exact sound.insertNew leads free .directory

/-- A link that is made leaves the tree sound. -/
theorem IsSound.withLink (sound : tree.IsSound) {path target : String} {changed : FileTree}
    (done : tree.withLink path target = .ok changed)
    : changed.IsSound := by
  unfold FileTree.withLink at done
  cases leads : tree.locate false path with
  | error cause => simp [leads, bind, Except.bind] at done
  | ok place =>
      simp only [leads, bind, Except.bind] at done
      split at done
      · simp at done
      · split at done
        · simp at done
        · rename_i free
          obtain rfl := Except.ok.inj done
          exact sound.insertNew leads free (.link target)

/-- What is removed leaves the tree sound. -/
theorem IsSound.without (sound : tree.IsSound) {path : String} {changed : FileTree}
    (done : tree.without path = .ok changed)
    : changed.IsSound := by
  unfold FileTree.without at done
  cases leads : tree.find false path with
  | error cause => simp [leads, bind, Except.bind] at done
  | ok found =>
      obtain rfl : tree.erase found.1 = changed := by
        simpa [leads, bind, Except.bind] using done
      exact sound.erase found.1

end FileTree

-----------------------------------------------------------------------------------------
-- Actions
-----------------------------------------------------------------------------------------

namespace FileAction

variable {ε α β : Type}

/-- The action leaves a tree with the property, whether it ends in an error or not. -/
def Leaves (action : FileAction ε α) (property : FileTree → Prop) (tree : FileTree) : Prop :=
  property ((ExceptT.run action).run tree).2

/-- The action leaves a tree with the property of each one that had it before. -/
def Keeps (action : FileAction ε α) (property : FileTree → Prop) : Prop :=
  ∀ tree, property tree → action.Leaves property tree

/-- Changes go on where the first ones left the tree, unless those ended in an error. -/
theorem run_bind (first : FileAction ε α) (next : α → FileAction ε β) (tree : FileTree)
    : (ExceptT.run (first >>= next)).run tree
      = match (ExceptT.run first).run tree with
        | (.ok result, changed) => (ExceptT.run (next result)).run changed
        | (.error cause, changed) => (.error cause, changed) := by
  simp only [ExceptT.run_bind, StateT.run_bind]
  rcases (ExceptT.run first).run tree with ⟨result | result, changed⟩ <;> rfl

section Properties

variable {property : FileTree → Prop}

/-- An action that goes on from another one leaves a tree with the property if both do. -/
theorem Leaves.bind {first : FileAction ε α} {next : α → FileAction ε β} {tree : FileTree}
    (leaves : first.Leaves property tree) (keeps : ∀ result, (next result).Keeps property)
    : (first >>= next).Leaves property tree := by
  unfold Leaves at *
  rw [run_bind]
  split
  · rename_i result changed ends
    rw [ends] at leaves
    exact keeps result changed leaves
  · rename_i cause changed ends
    rwa [ends] at leaves

/-- Changes in a row keep what each of them keeps. -/
theorem Keeps.bind {first : FileAction ε α} {next : α → FileAction ε β}
    (keeps : first.Keeps property) (keepsNext : ∀ result, (next result).Keeps property)
    : (first >>= next).Keeps property :=
  fun tree before => (keeps tree before).bind keepsNext

/-- What changes keep is kept also where they end in an error. -/
theorem Keeps.apply {action : FileAction ε Unit} (keeps : action.Keeps property) {tree : FileTree}
    (before : property tree)
    : property (action.apply tree).1 := by
  have kept := keeps tree before
  unfold Leaves at kept
  unfold FileAction.apply
  split
  · rename_i ends
    rwa [ends] at kept
  · rename_i ends
    rwa [ends] at kept

theorem leaves_get_bind {next : FileTree → FileAction ε α} {tree : FileTree}
    : (get >>= next : FileAction ε α).Leaves property tree
      ↔ (next tree).Leaves property tree :=
  Iff.rfl

theorem leaves_set {tree changed : FileTree}
    : (set changed : FileAction ε Unit).Leaves property tree ↔ property changed :=
  Iff.rfl

theorem leaves_throw {cause : ε} {tree : FileTree}
    : (throw cause : FileAction ε α).Leaves property tree ↔ property tree :=
  Iff.rfl

theorem leaves_pure {result : α} {tree : FileTree}
    : (pure result : FileAction ε α).Leaves property tree ↔ property tree :=
  Iff.rfl

/-- A single change keeps a property if its results have it. -/
theorem keeps_change {step : FileTree → Except ε FileTree}
    (steps : ∀ tree changed, property tree → step tree = .ok changed → property changed)
    : (change step).Keeps property := by
  intro tree before
  unfold change
  rw [leaves_get_bind]
  split
  · rename_i changed done
    exact leaves_set.mpr (steps tree changed before done)
  · exact leaves_throw.mpr before

/-- Making or finding a directory keeps a property if a new one does. -/
theorem keeps_makeOrFind {path : String}
    (step : ∀ tree changed,
      property tree → tree.withDirectory path = .ok changed → property changed)
    : (makeOrFind path).Keeps property := by
  intro tree before
  unfold makeOrFind
  rw [leaves_get_bind]
  split
  · rename_i made done
    exact leaves_set.mpr (step tree made before done)
  · split
    · exact leaves_pure.mpr before
    · exact leaves_throw.mpr before

/-- Making a directory keeps a property if the action before does and a new directory does. -/
theorem keeps_makeDirectory {path : String} {above : FileAction SystemError Unit}
    (aboveKeeps : above.Keeps property)
    (step : ∀ tree changed,
      property tree → tree.withDirectory path = .ok changed → property changed)
    : (makeDirectory path above).Keeps property := by
  intro tree before
  unfold makeDirectory
  rw [leaves_get_bind]
  split
  · exact aboveKeeps.bind (fun _ => keeps_makeOrFind step) tree before
  · exact keeps_makeOrFind step tree before

/-- Making directories keeps a property if each one that is made on the way does, by induction over
the components of their path.
-/
theorem keeps_makeDirectoriesFrom {components : List Path.Component}
    (steps : ∀ upTo tree changed,
      upTo ≠ []
      → upTo <:+ components
      → property tree
      → tree.withDirectory ("/".intercalate (upTo.reverse.map Path.Component.text)) = .ok changed
      → property changed)
    : (makeDirectoriesFrom components).Keeps property := by
  induction components with
  | nil => exact fun tree before => before
  | cons last above ih =>
      refine keeps_makeDirectory (ih ?_) fun tree changed =>
        steps (last :: above) tree changed (List.cons_ne_nil _ _) List.suffix_rfl
      intro upTo tree changed nonempty within
      exact steps upTo tree changed nonempty (within.trans (List.suffix_cons _ _))

/-- Making directories keeps whatever property a single new directory keeps. -/
theorem keeps_makeDirectories {path : String}
    (steps : ∀ path tree changed,
      property tree → tree.withDirectory path = .ok changed → property changed)
    : (makeDirectories path).Keeps property := by
  unfold makeDirectories
  split
  · exact fun tree before => before
  · exact keeps_makeDirectory
      (keeps_makeDirectoriesFrom fun _ tree changed _ _ => steps _ tree changed) (steps _)

end Properties

/-- Making directories leaves the tree sound. -/
theorem keepsSound_makeDirectories (path : String)
    : (makeDirectories path).Keeps FileTree.IsSound :=
  keeps_makeDirectories fun _ _ _ sound done => sound.withDirectory done

/-- What is put into a sound tree leaves a sound one, also where it fails on the way. -/
theorem keepsSound_put (path : String) (node : Node) : (put path node).Keeps FileTree.IsSound := by
  cases node with
  | directory => exact keepsSound_makeDirectories path
  | file content =>
      refine (keepsSound_makeDirectories _).bind fun _ => ?_
      exact keeps_change fun _ _ sound done => sound.withFile done
  | link target =>
      refine (keepsSound_makeDirectories _).bind fun _ => ?_
      exact keeps_change fun _ _ sound done => sound.withLink done

/-- Whatever is put into an empty directory, one thing after another, makes a tree of directories.
-/
theorem isTree_of_puts (puts : List (String × Node))
    : (puts.foldl (fun tree entry => ((put entry.1 entry.2).apply tree).1) .empty).IsTree := by
  have sound : ∀ (tree : FileTree), tree.IsSound
      → (puts.foldl (fun tree entry => ((put entry.1 entry.2).apply tree).1) tree).IsSound := by
    induction puts with
    | nil => exact fun tree before => before
    | cons first rest ih =>
        intro tree before
        exact ih _ ((keepsSound_put first.1 first.2).apply before)
  exact (sound .empty FileTree.isSound_empty).toIsTree

end FileAction

end DocSurvey
