import DocSurvey.Declarations.Survey
import DocSurvey.Proofs.Declarations.Counts
import DocSurvey.Proofs.Files.Reading
import Mathlib.Algebra.BigOperators.Group.Finset.Basic

/-! What a scan adds up. The counts of a repository are those of its source files, each counted
once, and neither the order of the entries nor the name of the repository decides them.
-/

namespace DocSurvey

namespace Declarations

open FileTree

-----------------------------------------------------------------------------------------
-- The files of a language
-----------------------------------------------------------------------------------------

/-- A name ends in one of the extensions that the language counts, a name without any in an empty
one.
-/
def IsSourceName (language : Language) (name : String) : Prop :=
  ∃ extension ∈ language.extensions,
    Path.IsExtension name extension ∨ extension = "" ∧ ∀ other, ¬ Path.IsExtension name other

/-- A file that is counted, by the names that lead to it from the root, and its declarations. It
is no link, it can be read, its name ends in an extension of the language, it lies in no directory
that is left out, and its declarations are found. The file may be the root itself.
-/
def IsCounted (tree : FileTree) (root : String) (language : Language) (names : Place)
    (counts : DeclarationCounts)
    : Prop :=
  ∃ content,
    tree.standsAt? root names = some (.file (some content))
    ∧ IsSourceName language (names.getLast?.getD ((Path.fileName? root).getD ""))
    ∧ (∀ directory ∈ names.dropLast, language.excludes directory = false)
    ∧ language.definitions (names.foldl Path.join root) content = .ok counts

/-- A language reads the files with one of its extensions. -/
theorem handles_iff {language : Language} {name : String}
    : language.handles ((Path.extensionOf? name).getD "") = true ↔ IsSourceName language name := by
  simp [Language.handles, IsSourceName, ← Path.getD_extensionOf?_eq_iff]

variable {tree : FileTree}

/-- The extension of what a walk finds is that of the name it is found under, if that has one. -/
theorem bind_extensionOf?_path {found : Visit} (named : ∀ name ∈ found.names, Path.IsName name)
    (root : String)
    : (Path.fileName? (found.path root)).bind Path.extensionOf?
      = Path.extensionOf? (nameAt root found.names) := by
  cases ends : found.names.getLast? with
  | none =>
      have atRoot := List.getLast?_eq_none_iff.mp ends
      simp only [Visit.path, nameAt, atRoot, List.foldl_nil, List.getLast?_nil, Option.getD_none]
      cases Path.fileName? root <;> rfl
  | some last => simp [Visit.path, nameAt, Path.fileName?_foldl_join named ends, ends]

/-- The extension of a path that was found is that of its last name. -/
theorem extensionOf_path {found : Visit} (named : ∀ name ∈ found.names, Path.IsName name)
    (root : String)
    : extensionOf (found.path root)
      = (Path.extensionOf?
          (found.names.getLast?.getD ((Path.fileName? root).getD ""))).getD "" := by
  rw [extensionOf, bind_extensionOf?_path named]
  rfl

/-- The files of a language that a scan looks at; none where it cannot start. -/
def listing (tree : FileTree) (root : String) (language : Language) : List Visit :=
  (sources tree root language).toOption.getD []

/-- What a scan looks at is a file of the language in no directory that is left out. -/
theorem mem_listing (isTree : tree.IsTree) (root : String) (language : Language) {found : Visit}
    : found ∈ listing tree root language
      ↔ tree.standsAt? root found.names = some found.node
        ∧ found.isFile = true
        ∧ (∀ directory ∈ found.names.dropLast, language.excludes directory = false)
        ∧ IsSourceName language (found.names.getLast?.getD ((Path.fileName? root).getD "")) := by
  unfold listing sources
  cases walked : tree.walkFrom (fun name => !language.excludes name) root with
  | error cause =>
      have nothing
          : ¬ (tree.standsAt? root found.names = some found.node ∧ found.isFile = true) := by
        rintro ⟨stands, isFile⟩
        obtain ⟨_, target, link⟩ := standsAt?_of_walkFrom_error walked stands
        simp [Visit.isFile, link] at isFile
      simp only [bind, Except.bind, Except.toOption, Option.getD_none, List.not_mem_nil, false_iff]
      rintro ⟨stands, isFile, _⟩
      exact nothing ⟨stands, isFile⟩
  | ok visits =>
      have listed : found ∈ visits.filter (fun found =>
            found.isFile && language.handles (extensionOf (found.path root)))
          ↔ (tree.standsAt? root found.names = some found.node
              ∧ ∀ name ∈ found.directories, (!language.excludes name) = true)
            ∧ found.isFile = true ∧ language.handles (extensionOf (found.path root)) = true := by
        rw [List.mem_filter, isTree.mem_walkFrom walked, Bool.and_eq_true]
      refine listed.trans ?_
      by_cases isFile : found.isFile = true
      · have onTheWay : found.directories = found.names.dropLast := by
          unfold Visit.isFile at isFile
          unfold Visit.directories
          split at isFile <;> simp_all
        by_cases stands : tree.standsAt? root found.names = some found.node
        · have named := isTree.isName_of_standsAt? stands
          rw [extensionOf_path named, handles_iff, onTheWay]
          simp [stands, isFile]
        · simp [stands]
      · simp [isFile]

/-- No names lead a scan to two files. -/
theorem listing_distinct (isTree : tree.IsTree) (root : String) (language : Language)
    : ((listing tree root language).map Visit.names).Nodup := by
  have apart : (listing tree root language).Nodup := by
    unfold listing sources
    cases walked : tree.walkFrom (fun name => !language.excludes name) root with
    | error cause => simp [bind, Except.bind, Except.toOption]
    | ok visits => exact (isTree.walkFrom_distinct walked).filter _
  refine apart.map_on ?_
  rintro ⟨names, node⟩ member ⟨others, other⟩ otherMember same
  obtain rfl : names = others := same
  have stands := ((mem_listing isTree root language).mp member).1
  have otherStands := ((mem_listing isTree root language).mp otherMember).1
  simpa [stands] using otherStands

-----------------------------------------------------------------------------------------
-- The counts of a scan
-----------------------------------------------------------------------------------------

/-- The names of a file that a scan looks at and its declarations, if it has any. -/
def countedFile? (root : String) (language : Language) (found : Visit)
    : Option (Place × DeclarationCounts) :=
  (countFile language (found.path root) found.node).toOption.map fun counts => (found.names, counts)

/-- Only a file that can be read has declarations to count. -/
theorem countedFile?_eq_some_iff {root : String} {language : Language} {found : Visit}
    {names : Place} {counts : DeclarationCounts}
    : countedFile? root language found = some (names, counts)
      ↔ found.names = names
        ∧ ∃ content, found.node = .file (some content)
          ∧ language.definitions (names.foldl Path.join root) content = .ok counts := by
  obtain ⟨reached, node⟩ := found
  unfold countedFile? countFile Visit.path
  constructor
  · intro counted
    obtain ⟨value, isCounted, same⟩ := Option.map_eq_some_iff.mp counted
    obtain ⟨rfl, rfl⟩ := Prod.mk.inj same
    split at isCounted
    · rename_i content readable
      refine ⟨rfl, content, readable, ?_⟩
      cases result : language.definitions (reached.foldl Path.join root) content with
      | ok found => simpa [result, Except.toOption] using isCounted
      | error problem => simp [result, Except.toOption] at isCounted
    · simp [Except.toOption] at isCounted
  · rintro ⟨rfl, content, rfl, counted⟩
    simp [counted, Except.toOption]

/-- A file without declarations adds nothing to those behind it, by induction over the files. -/
theorem countFiles_value (root : String) (language : Language) (files : List Visit)
    : (countFiles language root files).value
      = ((files.filterMap (countedFile? root language)).map Prod.snd).sum := by
  induction files with
  | nil => rfl
  | cons found rest ih =>
      unfold countFiles
      cases counted : countFile language (found.path root) found.node with
      | ok counts => simp [countedFile?, counted, Except.toOption, ih]
      | error problem => simp [countedFile?, counted, Except.toOption, ih]

/-- A scan adds up the files that count, and finishes the sum as the language does. -/
theorem scan_value (tree : FileTree) (root : String) (language : Language)
    : (scan tree root language).value
      = language.finalize (((listing tree root language).filterMap
          (countedFile? root language)).map Prod.snd).sum := by
  unfold scan listing
  cases sources tree root language with
  | error cause => rfl
  | ok files => simp [countFiles_value, Except.toOption]

/-- The files that a scan counts are those that are to be counted. -/
theorem mem_counted_iff (isTree : tree.IsTree) (root : String) (language : Language) (names : Place)
    (counts : DeclarationCounts)
    : (names, counts) ∈ (listing tree root language).filterMap (countedFile? root language)
      ↔ IsCounted tree root language names counts := by
  rw [List.mem_filterMap]
  constructor
  · rintro ⟨⟨reached, node⟩, member, counted⟩
    obtain ⟨rfl, content, rfl, declared⟩ := countedFile?_eq_some_iff.mp counted
    obtain ⟨stands, _, entered, named⟩ := (mem_listing isTree root language).mp member
    exact ⟨content, stands, named, entered, declared⟩
  · rintro ⟨content, stands, named, entered, declared⟩
    refine ⟨⟨names, .file (some content)⟩, (mem_listing isTree root language).mpr ?_, ?_⟩
    · exact ⟨stands, rfl, entered, named⟩
    · exact countedFile?_eq_some_iff.mpr ⟨rfl, content, rfl, declared⟩

/-- The files that a scan counts, each once. -/
theorem counted_distinct (isTree : tree.IsTree) (root : String) (language : Language)
    : ((listing tree root language).filterMap (countedFile? root language)).Nodup := by
  refine List.Pairwise.filterMap _ ?_ (List.pairwise_map.mp (listing_distinct isTree root language))
  rintro found other differs ⟨names, counts⟩ inFound ⟨others, otherCounts⟩ inOther same
  have left := (countedFile?_eq_some_iff.mp inFound).1
  have right := (countedFile?_eq_some_iff.mp inOther).1
  exact differs (left.trans ((Prod.mk.inj same).1.trans right.symm))

-----------------------------------------------------------------------------------------
-- What decides the counts
-----------------------------------------------------------------------------------------

/-- A scan adds up what it counts, whatever the order in which it was found. -/
theorem scan_eq_sum (isTree : tree.IsTree) (root : String) (language : Language)
    : ∃ files : Finset (Place × DeclarationCounts),
        (∀ names counts, (names, counts) ∈ files ↔ IsCounted tree root language names counts)
        ∧ (scan tree root language).value = language.finalize (∑ file ∈ files, file.2) := by
  refine ⟨((listing tree root language).filterMap (countedFile? root language)).toFinset, ?_, ?_⟩
  · intro names counts
    rw [List.mem_toFinset, mem_counted_iff isTree]
  · rw [List.sum_toFinset _ (counted_distinct isTree root language), scan_value]

/-- Trees in which the same files count have the same scan, in whatever order they list them. -/
theorem scan_congr {other : FileTree} (isTree : tree.IsTree) (isOther : other.IsTree)
    {root otherRoot : String} {language : Language}
    (same : ∀ names counts,
      IsCounted other otherRoot language names counts ↔ IsCounted tree root language names counts)
    : (scan other otherRoot language).value = (scan tree root language).value := by
  obtain ⟨files, counted, total⟩ := scan_eq_sum isTree root language
  obtain ⟨otherFiles, otherCounted, otherTotal⟩ := scan_eq_sum isOther otherRoot language
  have agree : otherFiles = files := by
    ext ⟨names, counts⟩
    rw [otherCounted, counted, same]
  rw [total, otherTotal, agree]

/-- Whether a file counts is read off what stands in the tree. -/
theorem isCounted_congr {other : FileTree} (same : ∀ place, other.get? place = tree.get? place)
    (root : String) (language : Language) (names : Place) (counts : DeclarationCounts)
    : IsCounted other root language names counts ↔ IsCounted tree root language names counts := by
  simp only [IsCounted, standsAt?_congr same]

-----------------------------------------------------------------------------------------
-- The language of a repository
-----------------------------------------------------------------------------------------

/-- A file of the name tells of the language. -/
def IsTellingName (language : Language) (name : String) : Prop :=
  ∃ extension ∈ language.tellingExtensions, Path.IsExtension name extension

/-- A repository is told to be of a language by a single file with a telling extension. -/
theorem tellsOf_eq_any (tree : FileTree) (root : String) (language : Language)
    : tellsOf tree root language
      = (tree.found root).any fun found => found.isFile
        && ((Path.fileName? (found.path root)).bind Path.extensionOf?).any
          language.tellingExtensions.contains := by
  unfold tellsOf
  congr 1
  funext found
  cases (Path.fileName? (found.path root)).bind Path.extensionOf? <;> rfl

/-- A repository tells of a language by the name of one of its files, its own if it is one. -/
theorem tellsOf_eq_true_iff (isTree : tree.IsTree) (root : String) (language : Language)
    : tellsOf tree root language = true
      ↔ ∃ names content,
          tree.standsAt? root names = some (.file content)
          ∧ IsTellingName language (nameAt root names) := by
  have telling : ∀ found : Visit, (∀ name ∈ found.names, Path.IsName name)
      → (((Path.fileName? (found.path root)).bind Path.extensionOf?).any
          language.tellingExtensions.contains = true
        ↔ IsTellingName language (nameAt root found.names)) := by
    intro found named
    rw [bind_extensionOf?_path named]
    simp [IsTellingName, ← Path.extensionOf?_eq_some_iff, Option.any_eq_true, and_comm]
  rw [tellsOf_eq_any, List.any_eq_true]
  constructor
  · rintro ⟨⟨names, node⟩, member, kept⟩
    obtain ⟨isFile, tells⟩ := Bool.and_eq_true_iff.mp kept
    cases node with
    | directory => simp [Visit.isFile] at isFile
    | link target => simp [Visit.isFile] at isFile
    | file content =>
        have stands := (isTree.mem_found_iff (.inr (by simp))).mp member
        exact ⟨names, content, stands, (telling _ (isTree.isName_of_standsAt? stands)).mp tells⟩
  · rintro ⟨names, content, stands, tells⟩
    refine ⟨⟨names, .file content⟩, (isTree.mem_found_iff (.inr (by simp))).mpr stands, ?_⟩
    exact Bool.and_eq_true_iff.mpr
      ⟨rfl, (telling ⟨names, .file content⟩ (isTree.isName_of_standsAt? stands)).mpr tells⟩

/-- What a repository declares is what is scanned for its language. -/
theorem count_value (tree : FileTree) (root : String) (languages : List Language)
    : (count tree root languages).value
      = match languageOf? tree root languages with
        | some language => (scan tree root language).value
        | none => .zero := by
  unfold count
  cases languageOf? tree root languages <;> rfl

theorem find?_eq_of_forall_mem {α : Type} {test other : α → Bool} {items : List α}
    (same : ∀ item ∈ items, test item = other item)
    : items.find? test = items.find? other := by
  induction items with
  | nil => rfl
  | cons item rest ih =>
      obtain ⟨first, later⟩ := List.forall_mem_cons.mp same
      rw [List.find?_cons, List.find?_cons, first, ih later]

/-- The files that tell of a language and those that are counted for it decide the declarations of a
repository.
-/
theorem count_congr {other : FileTree} (isTree : tree.IsTree) (isOther : other.IsTree)
    {root : String} {languages : List Language}
    (same : ∀ language ∈ languages, ∀ names content,
      IsTellingName language (nameAt root names) ∨ IsSourceName language (nameAt root names)
      → (other.standsAt? root names = some (.file content)
        ↔ tree.standsAt? root names = some (.file content)))
    : (count other root languages).value = (count tree root languages).value := by
  have chosen : languageOf? other root languages = languageOf? tree root languages := by
    refine find?_eq_of_forall_mem fun language among => ?_
    rw [Bool.eq_iff_iff, tellsOf_eq_true_iff isTree, tellsOf_eq_true_iff isOther]
    refine exists_congr fun names => exists_congr fun content => ?_
    exact and_congr_left fun tells => same language among names content (.inl tells)
  rw [count_value, count_value, chosen]
  cases found : languageOf? tree root languages with
  | none => rfl
  | some language =>
      have among := List.mem_of_find?_eq_some found
      refine scan_congr isTree isOther fun names counts => exists_congr fun content => ?_
      refine and_congr_left fun ⟨named, _⟩ => ?_
      exact same language among names (some content) (.inr named)

-----------------------------------------------------------------------------------------
-- Directories of the same contents
-----------------------------------------------------------------------------------------

/-- Where a file lies does not decide which declarations are found in it. -/
def IgnoresPaths (language : Language) : Prop :=
  ∀ path other source counts,
    language.definitions path source = .ok counts → language.definitions other source = .ok counts

/-- No language of the program reads a file otherwise because of its path. -/
theorem ignoresPaths_of_mem_all {language : Language} (builtIn : language ∈ Language.all)
    : IgnoresPaths language := by
  intro path other source counts found
  rcases List.mem_pair.mp builtIn with rfl | rfl
  · unfold Language.python at found ⊢
    cases result : Python.definitions source.toList <;> simp_all [Except.mapError]
  · exact found

/-- A directory is not counted itself, and which files are counted in it depends on what stands
below it only.
-/
theorem IsCounted.of_same_below {other : FileTree} {root otherRoot : String}
    {place otherPlace : Place} {language : Language} {names : Place} {counts : DeclarationCounts}
    (counted : IsCounted tree root language names counts) (ignores : IgnoresPaths language)
    (leads : tree.find true root = .ok (place, .directory))
    (otherLeads : other.find true otherRoot = .ok (otherPlace, .directory))
    (same : ∀ names, names ≠ [] → other.get? (otherPlace ++ names) = tree.get? (place ++ names))
    : IsCounted other otherRoot language names counts := by
  obtain ⟨content, stands, named, entered, declared⟩ := counted
  by_cases atRoot : names = []
  · -- At the root itself stands a directory or a link to one, and neither is counted.
    subst atRoot
    rw [standsAt?_nil] at stands
    rcases tree.find_follow root with followed | ⟨_, target, link⟩
    · simp [← followed, leads, Except.toOption] at stands
    · simp [link, Except.toOption] at stands
  · refine ⟨content, ?_, ?_, entered, ignores _ _ _ _ declared⟩
    · rw [standsAt?_of_ne_nil _ atRoot, leads] at stands
      rw [standsAt?_of_ne_nil _ atRoot, otherLeads]
      exact (same names atRoot).trans stands
    · obtain ⟨before, last, rfl⟩ := (List.eq_nil_or_concat names).resolve_left atRoot
      simpa using named

/-- A scan adds up the declarations of exactly the files that are to be counted, each once, and
adjusts the sum once. Trees that agree on these files have the same counts, whatever else they
hold and in whatever order; and so have directories of any names with the same contents, for the
built-in languages and for any other that does not look at paths.
-/
theorem scan_counts_each_source_once (isTree : tree.IsTree) (root : String) (language : Language)
    : (∃ files : Finset (Place × DeclarationCounts),
        (∀ names counts, (names, counts) ∈ files ↔ IsCounted tree root language names counts)
        ∧ (scan tree root language).value = language.finalize (∑ file ∈ files, file.2))
      ∧ (∀ other otherRoot,
          other.IsTree
          → (∀ names counts,
              IsCounted other otherRoot language names counts
                ↔ IsCounted tree root language names counts)
          → (scan other otherRoot language).value = (scan tree root language).value)
      ∧ (∀ entries,
          entries.Perm tree.entries
          → (scan ⟨entries⟩ root language).value = (scan tree root language).value)
      ∧ ∀ other otherRoot place otherPlace,
          other.IsTree
          → tree.find true root = .ok (place, .directory)
          → other.find true otherRoot = .ok (otherPlace, .directory)
          → (∀ names, names ≠ [] → other.get? (otherPlace ++ names) = tree.get? (place ++ names))
          → language ∈ Language.all ∨ IgnoresPaths language
          → (scan other otherRoot language).value = (scan tree root language).value := by
  refine ⟨scan_eq_sum isTree root language, ?_, ?_, ?_⟩
  · intro other otherRoot isOther same
    exact scan_congr isTree isOther same
  · intro entries shuffled
    exact scan_congr isTree (isTree.perm shuffled)
      (isCounted_congr (isTree.get?_perm shuffled) root language)
  · intro other otherRoot place otherPlace isOther leads otherLeads same kind
    have ignores : IgnoresPaths language := kind.elim ignoresPaths_of_mem_all id
    refine scan_congr isTree isOther fun names counts => ⟨fun counted => ?_, fun counted => ?_⟩
    · exact counted.of_same_below ignores otherLeads leads
        fun names below => (same names below).symm
    · exact counted.of_same_below ignores leads otherLeads same

/-- A repository with the name of a directory that is left out, which holds such a directory, a file
that cannot be read, a directory with the name of a file and a link.
-/
def environment : FileTree :=
  ⟨[(["venv"], .directory),
    (["venv", "__pycache__"], .directory),
    (["venv", "__pycache__", "old.py"], .file (some "def left(): pass\n")),
    (["venv", "bad.py"], .file none),
    (["venv", "main.py"], .file (some "def run(): pass\n")),
    (["venv", "same.py"], .link "main.py"),
    (["venv", "pack.py"], .directory),
    (["venv", "pack.py", "part.py"], .file (some "def walk():\n    'Walks.'\n"))]⟩

/-- A directory of the name of an excluded one is scanned if it is the repository itself. -/
theorem scan_of_environment
    : environment.IsTree
      ∧ (scan ⟨environment.entries.reverse⟩ "venv" .python).value
        = (scan environment "venv" .python).value
      ∧ (scan environment "venv" .python).value = ⟨2, 1, 0, 0⟩ := by
  have isTree : environment.IsTree := by decide +kernel
  have ordered := (scan_counts_each_source_once isTree "venv" .python).2.2.1
  exact ⟨isTree, ordered _ (List.reverse_perm _), by decide +kernel⟩

end Declarations

end DocSurvey
