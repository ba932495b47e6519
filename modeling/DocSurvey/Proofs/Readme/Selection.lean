import DocSurvey.Proofs.ApiDocs
import DocSurvey.Proofs.Readme
import DocSurvey.Proofs.Text.ByteOrder

/-! Which file is the README of a directory. Its name is one that a pattern matches in whatever
case, and comes before all other such names in the order of their bytes. Main statement: this one
file decides the score, also where it cannot be read, and nothing else in the directory does.
-/

namespace DocSurvey

-----------------------------------------------------------------------------------------
-- The pattern of the names
-----------------------------------------------------------------------------------------

namespace Glob

/-- A pattern of texts that start with the word: its characters and a star behind them. -/
def start (word : List Char) : List Token :=
  word.map (fun c => .literal (bytesOf c)) ++ [.zeroOrMore]

theorem read_start {word : List Char} (plain : ∀ c ∈ word, IsPlain c)
    : read (String.ofList (word ++ ['*'])) = .ok (start word) := by
  have enough : word.length + 2 ≤ (String.ofList (word ++ ['*'])).length + 1 := by
    rw [String.length_ofList, List.length_append, List.length_singleton]
  unfold read
  rw [String.toList_ofList]
  exact readFrom_plain plain enough [] none

/-- Behind the word stands what a star matches. -/
theorem reaches_start {text : List UInt8} (word : List Char)
    : Reaches (afterSequence text (atStart text) (start word)) text
      ↔ ∃ found run,
          text = found ++ run
          ∧ found.map lowerByte = (word.flatMap bytesOf).map lowerByte
          ∧ slash ∉ run := by
  have covers := covers_bytes (word.flatMap bytesOf) (covers_atStart text)
  have inComponent : ∀ run : List UInt8, (∀ byte ∈ run, (!isSlash byte) = true) ↔ slash ∉ run := by
    intro run
    simp only [isSlash, Bool.not_eq_true', beq_eq_false_iff_ne]
    exact ⟨fun free member => free slash member rfl,
      fun free byte member same => free (same ▸ member)⟩
  rw [start, afterSequence_append, afterSequence_literals]
  refine (reaches_spread covers (List.prefix_refl text)).trans ?_
  constructor
  · rintro ⟨before, run, split, free, reaches⟩
    obtain ⟨init, found, rfl, same, first⟩ := (reaches_bytes _ ⟨run, split.symm⟩).mp reaches
    obtain rfl := reaches_atStart.mp first
    exact ⟨found, run, split, same, (inComponent run).mp free⟩
  · rintro ⟨found, run, split, same, free⟩
    refine ⟨found, run, split, (inComponent run).mpr free, ?_⟩
    exact (reaches_bytes _ ⟨run, split.symm⟩).mpr ⟨[], found, rfl, same, reaches_atStart.mpr rfl⟩

/-- A name matches such a pattern exactly if it starts with the word, in whatever case. -/
theorem isMatch_start {word : List Char} (nonempty : word ≠ []) {name : String}
    (noSlash : '/' ∉ name.toList)
    : isMatch (start word) name = true
      ↔ (name.toList.take word.length).map Char.toLower = word.map Char.toLower := by
  obtain ⟨c, rest, rfl⟩ := List.exists_cons_of_ne_nil nonempty
  have spelled : isMatch (start (c :: rest)) name
      = (afterSequence (name.toList.flatMap bytesOf) (atStart (name.toList.flatMap bytesOf))
          (start (c :: rest))).getLastD false := rfl
  have covers : Covers (name.toList.flatMap bytesOf)
      (afterSequence (name.toList.flatMap bytesOf) (atStart (name.toList.flatMap bytesOf))
        (start (c :: rest))) := by
    rw [start, afterSequence_append, afterSequence_literals]
    exact covers_spread (covers_bytes _ (covers_atStart _))
  rw [spelled, getLastD_eq_true_iff covers, reaches_start]
  constructor
  · rintro ⟨found, run, split, same, _⟩
    have lowered := congrArg (List.map lowerByte) split
    rw [List.map_append, same] at lowered
    simp only [map_lowerByte_flatMap] at lowered
    obtain ⟨behind, whole, _⟩ := prefix_of_flatMap_bytesOf lowered
    rw [List.map_take, whole]
    exact List.take_left' (by simp)
  · intro same
    have behind : '/' ∉ name.toList.drop (c :: rest).length := fun member =>
      noSlash (List.mem_of_mem_drop member)
    refine ⟨(name.toList.take (c :: rest).length).flatMap bytesOf,
      (name.toList.drop (c :: rest).length).flatMap bytesOf, ?_, ?_, ?_⟩
    · rw [← List.flatMap_append, List.take_append_drop]
    · rw [map_lowerByte_flatMap, map_lowerByte_flatMap, same]
    · exact fun member => behind (slash_mem_flatMap.mp member)

end Glob

namespace Readme

open FileTree Text

/-- The name of a README starts with that word, in any case. -/
theorem isReadmeName_eq_true_iff {name : String}
    : isReadmeName name = true ↔ (name.toList.take 6).map Char.toLower = "readme".toList := by
  have small : "README".toList.map Char.toLower = "readme".toList := by decide
  rw [isReadmeName, equalsIgnoringCase, small, beq_iff_eq]

/-- The names of READMEs are those that the pattern `README*` matches. -/
theorem isReadmeName_iff_isMatch {name : String} (isName : Path.IsName name)
    : ∃ pattern,
        Glob.read "README*" = .ok pattern
        ∧ (Glob.isMatch pattern name = true ↔ isReadmeName name = true) := by
  have nonempty : "README".toList ≠ [] := by decide
  have read : Glob.read (String.ofList ("README".toList ++ ['*']))
      = .ok (Glob.start "README".toList) :=
    Glob.read_start (by simp [Glob.IsPlain])
  refine ⟨_, read, ?_⟩
  rw [Glob.isMatch_start nonempty isName.2.1, isReadmeName, equalsIgnoringCase, beq_iff_eq]
  rfl

-----------------------------------------------------------------------------------------
-- The first file of a directory that is named so
-----------------------------------------------------------------------------------------

/-- A file, no directory and no link, that stands directly in the directory at the place, with a
name whose first six characters are those of README in whatever case.
-/
def IsCandidate (tree : FileTree) (place : Place) (name : String) : Prop :=
  (∃ content, tree.get? (place ++ [name]) = some (.file content))
    ∧ (name.toList.take 6).map Char.toLower = "readme".toList

/-- A candidate whose name comes before all others in the order of the bytes. -/
def IsFirst (tree : FileTree) (place : Place) (name : String) : Prop :=
  IsCandidate tree place name
    ∧ ∀ other, IsCandidate tree place other → other = name ∨ BytesBefore name other

variable {tree : FileTree} {root : String} {place : Place}

theorem isAmong_children_iff (isTree : tree.IsTree) {name : String}
    : IsAmong (tree.children place) name ↔ IsCandidate tree place name := by
  rw [isAmong_children isTree, IsReadmeAt, isReadmeName_eq_true_iff, IsCandidate, and_comm]

theorem first?_children_eq_some_iff (isTree : tree.IsTree) {name : String}
    : first? (tree.children place) = some name ↔ IsFirst tree place name := by
  have earlier : ∀ other : String, name ≤ other ↔ other = name ∨ BytesBefore name other := by
    intro other
    rw [bytesBefore_iff, Std.le_iff_lt_or_eq, or_comm, eq_comm]
  rw [first?_eq_some_iff (isTree.children_distinct place)]
  simp only [isAmong_children_iff isTree, earlier]
  rfl

/-- No README is found exactly if there is no candidate. -/
theorem find?_eq_none_iff (isTree : tree.IsTree)
    (leads : tree.find true root = .ok (place, .directory))
    : find? tree root = none ↔ ∀ name, ¬ IsCandidate tree place name := by
  rw [find?_of_directory leads, Option.map_eq_none_iff,
    first?_eq_none_iff (isTree.children_distinct place)]
  simp only [isAmong_children_iff isTree]

/-- The README that is found is the first of the candidates. -/
theorem find?_eq_some_iff (isTree : tree.IsTree)
    (leads : tree.find true root = .ok (place, .directory))
    {path : String}
    : find? tree root = some path
      ↔ ∃ name, IsFirst tree place name ∧ Path.join root name = path := by
  rw [find?_of_directory leads, Option.map_eq_some_iff]
  simp only [first?_children_eq_some_iff isTree]

/-- A file system may list its entries in any order. -/
theorem find?_perm (isTree : tree.IsTree) {entries : List (Place × Node)}
    (shuffled : entries.Perm tree.entries)
    (leads : tree.find true root = .ok (place, .directory))
    : find? ⟨entries⟩ root = find? tree root := by
  have same := isTree.get?_perm shuffled
  have leadsToo := (find_congr same true root).trans leads
  refine Option.ext fun path => ?_
  rw [find?_eq_some_iff isTree leads, find?_eq_some_iff (isTree.perm shuffled) leadsToo]
  simp only [IsFirst, IsCandidate, same]

/-- A directory has a README exactly if a file directly in it is named so, and of several files it
is the one whose name comes first. That file alone decides the score: by its text, or to nothing if
it holds none, for no other file takes its place. Without one the score is zero. Entries may be
listed in any order, and directories with the same files that are named so score the same, whatever
else is in them.
-/
theorem first_readme_decides {repository : String} (isTree : tree.IsTree)
    (leads : tree.find true repository = .ok (place, .directory))
    : (find? tree repository = none ↔ ∀ name, ¬ IsCandidate tree place name)
      ∧ (∀ path,
          find? tree repository = some path
          ↔ ∃ name, IsFirst tree place name ∧ Path.join repository name = path)
      ∧ ((∀ name, ¬ IsCandidate tree place name) → (scoreOf tree repository).value = 0)
      ∧ (∀ name text,
          IsFirst tree place name
          → tree.get? (place ++ [name]) = some (.file (some text))
          → (scoreOf tree repository).value = score text.toList)
      ∧ (∀ name,
          IsFirst tree place name
          → tree.get? (place ++ [name]) = some (.file none)
          → (scoreOf tree repository).value = 0)
      ∧ (∀ entries,
          entries.Perm tree.entries
          → find? ⟨entries⟩ repository = find? tree repository
            ∧ (scoreOf ⟨entries⟩ repository).value = (scoreOf tree repository).value)
      ∧ ∀ (other : FileTree) (otherRepository : String) (otherPlace : Place),
          other.IsTree
          → other.find true otherRepository = .ok (otherPlace, .directory)
          → (∀ name content,
              (name.toList.take 6).map Char.toLower = "readme".toList
              → (other.get? (otherPlace ++ [name]) = some (.file content)
                ↔ tree.get? (place ++ [name]) = some (.file content)))
          → (scoreOf other otherRepository).value = (scoreOf tree repository).value := by
  have decides : ∀ {name content},
      IsFirst tree place name
      → tree.get? (place ++ [name]) = some (.file content)
      → (scoreOf tree repository).value = scoreOfContent content := by
    intro name content first stands
    exact scoreOf_of_first isTree leads ((first?_children_eq_some_iff isTree).mpr first) stands
  refine ⟨find?_eq_none_iff isTree leads, fun _ => find?_eq_some_iff isTree leads,
    ?_, ?_, ?_, ?_, ?_⟩
  · intro nothing
    exact scoreOf_of_find?_eq_none ((find?_eq_none_iff isTree leads).mpr nothing)
  · exact fun name text first stands => decides first stands
  · exact fun name first stands => decides first stands
  · intro entries shuffled
    have same := isTree.get?_perm shuffled
    have leadsToo := (find_congr same true repository).trans leads
    refine ⟨find?_perm isTree shuffled leads, ?_⟩
    exact scoreOf_congr isTree (isTree.perm shuffled) leads leadsToo
      fun name content _ => by rw [same]
  · intro other otherRepository otherPlace isOther otherLeads same
    refine scoreOf_congr isTree isOther leads otherLeads fun name content named => ?_
    exact same name content (isReadmeName_eq_true_iff.mp named)

/-- A directory and a link are named like READMEs, and the first of the files holds no text. -/
def shelf : FileTree :=
  ⟨[(["app"], .directory), (["app", "main.py"], .file (some "import os")),
    (["app", "readme.md"], .file (some "Usage")), (["app", "README.d"], .directory),
    (["app", "README.d", "README"], .file (some "License")), (["app", "README.txt"], .file none),
    (["app", "Readme.rst"], .file (some "Usage and License")),
    (["app", "README"], .link "readme.md")]⟩

/-- The shelf with the directory and the link removed, and another file changed and a directory put
under the name of a README.
-/
def clearedShelf : FileTree :=
  ⟨[(["app"], .directory), (["app", "README.txt"], .file none),
    (["app", "Readme.rst"], .file (some "Usage and License")), (["app", "ReadMe!"], .directory),
    (["app", "main.py"], .file none), (["app", "readme.md"], .file (some "Usage"))]⟩

/-- The first README cannot be read, and none of the others is tried in its place. -/
theorem first_readme_of_shelf
    : find? shelf "app" = some "app/README.txt"
      ∧ find? ⟨shelf.entries.reverse⟩ "app" = some "app/README.txt"
      ∧ (scoreOf shelf "app").value = 0
      ∧ (scoreOf clearedShelf "app").value = 0 := by
  have isTree : shelf.IsTree := by decide +kernel
  have leads : shelf.find true "app" = .ok (["app"], .directory) := by decide +kernel
  have least : first? (shelf.children ["app"]) = some "README.txt" := by decide +kernel
  have first := (first?_children_eq_some_iff isTree).mp least
  obtain ⟨_, found, _, _, unread, listed, kept⟩ := first_readme_decides isTree leads
  have selected : find? shelf "app" = some "app/README.txt" :=
    (found _).mpr ⟨_, first, by decide +kernel⟩
  have zero : (scoreOf shelf "app").value = 0 := unread _ first (by decide +kernel)
  refine ⟨selected, (listed _ (List.reverse_perm _)).1.trans selected, zero, ?_⟩
  have isCleared : clearedShelf.IsTree := by decide +kernel
  have remaining : ∀ entry ∈ clearedShelf.children ["app"],
      isReadme entry = true → entry ∈ shelf.children ["app"] := by decide +kernel
  have unremoved : ∀ entry ∈ shelf.children ["app"],
      isReadme entry = true → entry ∈ clearedShelf.children ["app"] := by decide +kernel
  refine (kept clearedShelf "app" ["app"] isCleared (by decide +kernel) ?_).trans zero
  intro name content named
  have readme : isReadme (name, .file content) = true := isReadmeName_eq_true_iff.mpr named
  rw [← isCleared.mem_children, ← isTree.mem_children]
  exact ⟨fun member => remaining _ member readme, fun member => unremoved _ member readme⟩

end Readme

end DocSurvey
