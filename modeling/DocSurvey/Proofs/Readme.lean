import DocSurvey.Proofs.Files.Plain
import DocSurvey.Readme

/-! The README of a directory. Main statement: the files in the directory that are named so decide
the score, whatever else lies in it and in whatever order it is listed.
-/

namespace DocSurvey.Readme

open FileTree

variable {tree other : FileTree}

-----------------------------------------------------------------------------------------
-- The first README by name
-----------------------------------------------------------------------------------------

/-- A file of the name is among the entries, and the name is one of a README's. -/
def IsAmong (entries : List (String × Node)) (name : String) : Prop :=
  isReadmeName name = true ∧ ∃ content, (name, .file content) ∈ entries

/-- A README is a file of such a name. -/
theorem isReadme_eq_true_iff {entry : String × Node}
    : isReadme entry = true ↔ isReadmeName entry.1 = true ∧ ∃ content, entry.2 = .file content := by
  obtain ⟨name, node⟩ := entry
  cases node <;> simp [isReadme]

theorem isAmong_iff {entries : List (String × Node)} {name : String}
    : IsAmong entries name ↔ ∃ node, (name, node) ∈ entries.filter isReadme := by
  unfold IsAmong
  simp only [List.mem_filter, isReadme_eq_true_iff]
  constructor
  · rintro ⟨named, content, member⟩
    exact ⟨_, member, named, content, rfl⟩
  · rintro ⟨_, member, named, content, rfl⟩
    exact ⟨named, content, member⟩

section First

variable {entries : List (String × Node)} (distinct : (entries.map Prod.fst).Nodup)

include distinct

/-- The READMEs in the order of their names are those that were listed. -/
theorem orderedByKey_perm_filter
    : (Data.orderedByKey (entries.filter isReadme)).Perm (entries.filter isReadme) :=
  Data.orderedByKey_perm ((List.filter_sublist.map _).nodup distinct)

/-- There is no first README exactly if there is none. -/
theorem first?_eq_none_iff : first? entries = none ↔ ∀ name, ¬ IsAmong entries name := by
  have sameMembers := fun entry => (orderedByKey_perm_filter distinct).mem_iff (a := entry)
  unfold first?
  rw [Option.map_eq_none_iff, List.head?_eq_none_iff, List.eq_nil_iff_forall_not_mem]
  simp only [sameMembers, isAmong_iff, not_exists, Prod.forall]

/-- The README is the one whose name comes first, wherever it stands in the list. -/
theorem first?_eq_some_iff {name : String}
    : first? entries = some name
      ↔ IsAmong entries name ∧ ∀ other, IsAmong entries other → name ≤ other := by
  have sameMembers := fun entry => (orderedByKey_perm_filter distinct).mem_iff (a := entry)
  have ordered := Data.isOrdered_orderedByKey (entries.filter isReadme)
  unfold first?
  simp only [Option.map_eq_some_iff, ordered.head?_eq_some_iff, sameMembers, Prod.exists,
    Prod.forall, isAmong_iff, forall_exists_index]
  simp

end First

/-- The order in which a directory is listed does not matter. -/
theorem first?_congr {entries others : List (String × Node)}
    (distinct : (entries.map Prod.fst).Nodup) (distinctToo : (others.map Prod.fst).Nodup)
    (same : ∀ name, IsAmong others name ↔ IsAmong entries name)
    : first? others = first? entries := by
  refine Option.ext fun name => ?_
  rw [first?_eq_some_iff distinct, first?_eq_some_iff distinctToo]
  simp only [same]

-----------------------------------------------------------------------------------------
-- The README of a directory
-----------------------------------------------------------------------------------------

/-- A README directly in the directory at the place. -/
def IsReadmeAt (tree : FileTree) (place : Place) (name : String) : Prop :=
  isReadmeName name = true ∧ ∃ content, tree.get? (place ++ [name]) = some (.file content)

/-- The READMEs of a directory are the files of such names in it. -/
theorem isAmong_children (isTree : tree.IsTree) {place : Place} {name : String}
    : IsAmong (tree.children place) name ↔ IsReadmeAt tree place name := by
  simp only [IsAmong, IsReadmeAt, isTree.mem_children]

/-- The README of a directory is the first one among its entries. -/
theorem find?_of_directory {root : String} {place : Place}
    (leads : tree.find true root = .ok (place, .directory))
    : find? tree root = (first? (tree.children place)).map (Path.join root) := by
  have entries : tree.readDirectory root = .ok (tree.children place) := by
    simp [readDirectory, leads, bind, Except.bind]
  unfold find?
  rw [entries]
  change (first? (tree.children place)).bind (fun name => some (Path.join root name)) = _
  cases first? (tree.children place) <;> rfl

theorem find?_of_not_isDirectory {root : String} (noDirectory : tree.isDirectory root = false)
    : find? tree root = none := by
  have nothing : (tree.readDirectory root).toOption = none := by
    unfold readDirectory
    unfold isDirectory at noDirectory
    cases found : tree.find true root with
    | error cause => rfl
    | ok reached =>
        obtain ⟨place, node⟩ := reached
        cases node <;> simp_all [bind, Except.bind, Except.toOption]
  unfold find?
  rw [nothing]
  rfl

-----------------------------------------------------------------------------------------
-- The score of a directory
-----------------------------------------------------------------------------------------

/-- A repository without a README has no points for it. -/
theorem scoreOf_of_find?_eq_none {root : String} (nothing : find? tree root = none)
    : (scoreOf tree root).value = 0 := by
  unfold scoreOf
  rw [nothing]
  rfl

theorem scoreOf_of_not_isDirectory {root : String} (noDirectory : tree.isDirectory root = false)
    : (scoreOf tree root).value = 0 :=
  scoreOf_of_find?_eq_none (find?_of_not_isDirectory noDirectory)

/-- What a file scores as the README of a directory: nothing, if it holds no text. -/
def scoreOfContent (content : Option String) : Nat :=
  (content.map fun text => score text.toList).getD 0

/-- The first README decides the score, also if it cannot be read. -/
theorem scoreOf_of_first (isTree : tree.IsTree) {root : String} {place : Place}
    (leads : tree.find true root = .ok (place, .directory)) {name : String}
    (first : first? (tree.children place) = some name) {content : Option String}
    (stands : tree.get? (place ++ [name]) = some (.file content))
    : (scoreOf tree root).value = scoreOfContent content := by
  have found : find? tree root = some (Path.join root name) := by
    rw [find?_of_directory leads, first]
    rfl
  have read := isTree.readText_foldl_join leads (List.cons_ne_nil name []) stands
  rw [List.foldl_cons, List.foldl_nil] at read
  unfold scoreOf
  simp only [found, read]
  cases content <;> rfl

/-- Directories with the same READMEs have the same score, whatever else lies in them. -/
theorem scoreOf_congr (isTree : tree.IsTree) (isOther : other.IsTree) {root otherRoot : String}
    {place otherPlace : Place} (leads : tree.find true root = .ok (place, .directory))
    (otherLeads : other.find true otherRoot = .ok (otherPlace, .directory))
    (same : ∀ name content, isReadmeName name = true
      → (other.get? (otherPlace ++ [name]) = some (.file content)
        ↔ tree.get? (place ++ [name]) = some (.file content)))
    : (scoreOf other otherRoot).value = (scoreOf tree root).value := by
  have sameReadmes : ∀ name,
      IsAmong (other.children otherPlace) name ↔ IsAmong (tree.children place) name := by
    intro name
    rw [isAmong_children isTree, isAmong_children isOther]
    exact and_congr_right fun named => exists_congr fun content => same name content named
  have distinct := isTree.children_distinct place
  have distinctToo := isOther.children_distinct otherPlace
  have sameFirst := first?_congr distinct distinctToo sameReadmes
  cases first : first? (tree.children place) with
  | none =>
      rw [scoreOf_of_find?_eq_none, scoreOf_of_find?_eq_none]
      · rw [find?_of_directory leads, first]
        rfl
      · rw [find?_of_directory otherLeads, sameFirst, first]
        rfl
  | some name =>
      obtain ⟨named, content, stands⟩ :=
        (isAmong_children isTree).mp ((first?_eq_some_iff distinct).mp first).1
      rw [scoreOf_of_first isTree leads first stands, scoreOf_of_first isOther otherLeads
        (sameFirst.trans first) ((same name content named).mpr stands)]

end DocSurvey.Readme
