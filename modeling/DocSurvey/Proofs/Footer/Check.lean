import DocSurvey.Footer.Check
import DocSurvey.Footer.Report
import DocSurvey.Proofs.Files.Reading
import DocSurvey.Proofs.Text.Characters
import DocSurvey.Proofs.Text.Lowercase
import Mathlib.Data.Finset.Card

/-! A footer check has one result for each README below its root and no other. The key of a result
tells the README apart from all others and how deep it lies, and the result is that of its own text.
-/

namespace DocSurvey.Footer

open FileTree Text

variable {tree : FileTree}

-----------------------------------------------------------------------------------------
-- The READMEs below a root
-----------------------------------------------------------------------------------------

/-- A README below the root of the settings, by the names that lead to it from there, and its
content. It is no link, its name is that of a README up to the case of ASCII letters, and it lies in
no directory that is left out.
-/
def IsReadme (tree : FileTree) (settings : Config.Footer) (names : Place)
    (content : Option String)
    : Prop :=
  tree.standsAt? settings.root names = some (.file content)
  ∧ (∃ name, names.getLast? = some name
    ∧ name.toList.map Char.toLower = "readme.md".toList)
  ∧ ∀ directory ∈ names.dropLast, directory ∉ settings.excludedDirectories

def resultOf (rules : Rules) (content : Option String) : Result :=
  match content with
  | some text => .analyzed (rules.analyze text.toList)
  | none => .unreadable "Could not read file: stream did not contain valid UTF-8"

/-- A README is recognised by its name in any case. -/
theorem isReadmeName_iff (name : String)
    : isReadmeName name = true ↔ name.toList.map Char.toLower = "readme.md".toList := by
  rw [isReadmeName, beq_iff_eq, lower_eq_iff (forall_mem_of_all (by decide)) (by decide)]

/-- A README lies below the root. -/
theorem IsReadme.names_ne_nil {settings : Config.Footer} {names : Place} {content : Option String}
    (readme : IsReadme tree settings names content)
    : names ≠ [] := by
  obtain ⟨_, ⟨name, ends, _⟩, _⟩ := readme
  rintro rfl
  simp at ends

/-- A root that is a directory leads to one. -/
theorem find_of_isDirectory {root : String} (rooted : tree.isDirectory root = true)
    : ∃ place, tree.find true root = .ok (place, .directory) := by
  unfold isDirectory at rooted
  split at rooted
  · rename_i place leads
    exact ⟨place, leads⟩
  · contradiction

def visits (tree : FileTree) (settings : Config.Footer) : List Visit :=
  ((tree.walkFrom (fun name => !settings.excludedDirectories.contains name)
    settings.root).toOption.getD []).filter fun found =>
      found.isFile && (Path.fileName? (found.path settings.root)).any isReadmeName

/-- READMEs are found by the paths of the visits to them. -/
theorem readmes_value (tree : FileTree) (settings : Config.Footer)
    : (readmes tree settings.root settings.excludedDirectories).value
      = (visits tree settings).map fun found => found.path settings.root := by
  unfold readmes visits
  cases tree.walkFrom (fun name => !settings.excludedDirectories.contains name) settings.root with
  | error cause => rfl
  | ok found => rfl

/-- A walk from a directory finds the READMEs below it. -/
theorem mem_visits (isTree : tree.IsTree) {settings : Config.Footer}
    (rooted : tree.isDirectory settings.root = true) {found : Visit}
    : found ∈ visits tree settings
      ↔ ∃ content, found.node = .file content ∧ IsReadme tree settings found.names content := by
  obtain ⟨place, leads⟩ := find_of_isDirectory rooted
  unfold visits
  cases walked : tree.walkFrom (fun name => !settings.excludedDirectories.contains name)
      settings.root with
  | error cause =>
      obtain ⟨problem, failed⟩ := walkFrom_eq_error walked
      simp [leads] at failed
  | ok all =>
      rw [Except.toOption, Option.getD_some, List.mem_filter, isTree.mem_walkFrom walked]
      obtain ⟨names, node⟩ := found
      cases node with
      | directory => simp [Visit.isFile]
      | link target => simp [Visit.isFile]
      | file content =>
          cases ends : names.getLast? with
          | none =>
              -- The root is a directory or leads to one, so it is no README itself.
              obtain rfl := List.getLast?_eq_none_iff.mp ends
              have noFile : tree.standsAt? settings.root [] ≠ some (.file content) := by
                rw [standsAt?_nil]
                rcases tree.find_follow settings.root with followed | ⟨_, target, link⟩
                · simp [← followed, leads, Except.toOption]
                · simp [link, Except.toOption]
              simp [IsReadme, noFile]
          | some last =>
              by_cases stands : tree.standsAt? settings.root names = some (.file content)
              · have named := isTree.isName_of_standsAt? stands
                have file : Path.fileName? (Visit.path settings.root ⟨names, .file content⟩)
                    = some last := Path.fileName?_foldl_join named ends settings.root
                simp [IsReadme, Visit.isFile, Visit.directories, file, ends, stands,
                  isReadmeName_iff, and_comm]
              · simp [IsReadme, stands]

/-- No README is visited twice. -/
theorem visits_distinct (isTree : tree.IsTree) (settings : Config.Footer)
    : (visits tree settings).Nodup := by
  unfold visits
  cases walked : tree.walkFrom (fun name => !settings.excludedDirectories.contains name)
      settings.root with
  | error cause => exact .nil
  | ok all => exact (isTree.walkFrom_distinct walked).filter _

-----------------------------------------------------------------------------------------
-- Keys
-----------------------------------------------------------------------------------------

/-- A README is reached by names. -/
theorem IsReadme.named (isTree : tree.IsTree) {settings : Config.Footer} {names : Place}
    {content : Option String} (readme : IsReadme tree settings names content)
    : ∀ name ∈ names, Path.IsName name :=
  isTree.isName_of_standsAt? readme.1

/-- No two READMEs have the same key. -/
theorem IsReadme.eq_of_key_eq (isTree : tree.IsTree) {settings : Config.Footer}
    {names others : Place} {content other : Option String}
    (readme : IsReadme tree settings names content) (another : IsReadme tree settings others other)
    (same : "/".intercalate names = "/".intercalate others)
    : names = others :=
  Path.intercalate_inj (readme.named isTree) (another.named isTree) readme.names_ne_nil
    another.names_ne_nil same

/-- A key has a slash for each directory below the root that leads to its file. -/
theorem isPriority_intercalate {names : List String} (named : ∀ name ∈ names, Path.IsName name)
    (filled : names ≠ [])
    : isPriority ("/".intercalate names) = true ↔ names.length ≤ 2 := by
  have counted := Path.length_pieces ("/".intercalate names).toList
  rw [Path.pieces_intercalate named filled, List.length_map] at counted
  rw [isPriority, decide_eq_true_iff]
  omega

/-- A README is a priority if it lies in the root or in a directory there. -/
theorem IsReadme.isPriority_iff (isTree : tree.IsTree) {settings : Config.Footer} {names : Place}
    {content : Option String} (readme : IsReadme tree settings names content)
    : isPriority ("/".intercalate names) = true ↔ names.length ≤ 2 :=
  isPriority_intercalate (readme.named isTree) readme.names_ne_nil

-----------------------------------------------------------------------------------------
-- Results
-----------------------------------------------------------------------------------------

/-- What comes out for a file that was found, under its key. -/
def entryOf (tree : FileTree) (settings : Config.Footer) (found : Visit) : String × Result :=
  (Path.relativeKey settings.root (found.path settings.root),
    (analyzeFile tree (.ofSettings settings) (found.path settings.root)).value)

/-- Files are analysed one by one, each under its key, by induction over their paths. -/
theorem analyzeFiles_value (tree : FileTree) (rules : Rules) (root : String) (paths : List String)
    : (analyzeFiles tree rules root paths).value
      = paths.map fun path =>
          (Path.relativeKey root path, (analyzeFile tree rules path).value) := by
  induction paths with
  | nil => rfl
  | cons path rest ih => simp [analyzeFiles, ih]

/-- A check orders what it finds in each README by its key. -/
theorem checkAll_value (tree : FileTree) (settings : Config.Footer)
    : (checkAll tree settings).value
      = Data.orderedByKey ((visits tree settings).map (entryOf tree settings)) := by
  simp only [checkAll, Logged.value_bind, Logged.value_pure, readmes_value, analyzeFiles_value,
    List.map_map]
  rfl

/-- What comes out for a README is that of its own text, under the names that lead to it. -/
theorem entryOf_of_isReadme (isTree : tree.IsTree) {settings : Config.Footer}
    (rooted : tree.isDirectory settings.root = true) {names : Place} {content : Option String}
    (readme : IsReadme tree settings names content)
    : entryOf tree settings ⟨names, .file content⟩
      = ("/".intercalate names, resultOf (.ofSettings settings) content) := by
  obtain ⟨place, leads⟩ := find_of_isDirectory rooted
  have stands : tree.get? (place ++ names) = some (.file content) := by
    have below := readme.1
    rwa [tree.standsAt?_of_ne_nil readme.names_ne_nil, leads] at below
  have read := isTree.readText_foldl_join leads readme.names_ne_nil stands
  have key := Path.relativeKey_foldl_join (readme.named isTree) settings.root
  unfold entryOf analyzeFile Visit.path
  dsimp only
  rw [key, read]
  cases content <;> rfl

/-- The entries of a check are the READMEs below the root with what was found in them. -/
theorem mem_entries (isTree : tree.IsTree) {settings : Config.Footer}
    (rooted : tree.isDirectory settings.root = true) {key : String} {result : Result}
    : (key, result) ∈ (visits tree settings).map (entryOf tree settings)
      ↔ ∃ names content, IsReadme tree settings names content
        ∧ key = "/".intercalate names
        ∧ result = resultOf (.ofSettings settings) content := by
  rw [List.mem_map]
  constructor
  · rintro ⟨⟨names, node⟩, member, same⟩
    obtain ⟨content, rfl, readme⟩ := (mem_visits isTree rooted).mp member
    rw [entryOf_of_isReadme isTree rooted readme] at same
    obtain ⟨rfl, rfl⟩ := Prod.mk.inj same
    exact ⟨names, content, readme, rfl, rfl⟩
  · rintro ⟨names, content, readme, rfl, rfl⟩
    exact ⟨⟨names, .file content⟩, (mem_visits isTree rooted).mpr ⟨content, rfl, readme⟩,
      entryOf_of_isReadme isTree rooted readme⟩

/-- No key is used twice, so that no result takes the place of another. -/
theorem keys_distinct (isTree : tree.IsTree) {settings : Config.Footer}
    (rooted : tree.isDirectory settings.root = true)
    : (((visits tree settings).map (entryOf tree settings)).map Prod.fst).Nodup := by
  rw [List.map_map]
  refine (visits_distinct isTree settings).map_on ?_
  rintro ⟨names, node⟩ member ⟨others, other⟩ otherMember same
  obtain ⟨content, rfl, readme⟩ := (mem_visits isTree rooted).mp member
  obtain ⟨otherContent, rfl, another⟩ := (mem_visits isTree rooted).mp otherMember
  rw [Function.comp_apply, Function.comp_apply, entryOf_of_isReadme isTree rooted readme,
    entryOf_of_isReadme isTree rooted another] at same
  obtain rfl := readme.eq_of_key_eq isTree another same
  have stands := readme.1.symm.trans another.1
  simpa using stands

/-- Every entry is among the results exactly once. -/
theorem checkAll_perm (isTree : tree.IsTree) {settings : Config.Footer}
    (rooted : tree.isDirectory settings.root = true)
    : (checkAll tree settings).value.Perm
        ((visits tree settings).map (entryOf tree settings)) :=
  checkAll_value tree settings ▸ Data.orderedByKey_perm (keys_distinct isTree rooted)

/-- The READMEs and the rules decide the results, their order included. -/
theorem checkAll_congr {other : FileTree} (isTree : tree.IsTree) (isOther : other.IsTree)
    {settings otherSettings : Config.Footer} (rooted : tree.isDirectory settings.root = true)
    (otherRooted : other.isDirectory otherSettings.root = true)
    (rules : Rules.ofSettings otherSettings = .ofSettings settings)
    (same : ∀ names content,
      IsReadme other otherSettings names content ↔ IsReadme tree settings names content)
    : (checkAll other otherSettings).value = (checkAll tree settings).value := by
  have entries : ((visits other otherSettings).map (entryOf other otherSettings)).Perm
      ((visits tree settings).map (entryOf tree settings)) := by
    refine (List.perm_ext_iff_of_nodup ?_ ?_).mpr ?_
    · exact (keys_distinct isOther otherRooted).of_map
    · exact (keys_distinct isTree rooted).of_map
    · rintro ⟨key, result⟩
      rw [mem_entries isOther otherRooted, mem_entries isTree rooted]
      simp only [same, rules]
  have order : Data.IsOrdered (checkAll tree settings).value :=
    checkAll_value tree settings ▸ Data.isOrdered_orderedByKey _
  have otherOrder : Data.IsOrdered (checkAll other otherSettings).value :=
    checkAll_value other otherSettings ▸ Data.isOrdered_orderedByKey _
  exact otherOrder.eq_of_perm order
    (((checkAll_perm isOther otherRooted).trans entries).trans (checkAll_perm isTree rooted).symm)

/-- A check has one result for each README below its root, under the names that lead there, and no
other result. It tells the text of that README, or that its bytes are no text. No two READMEs share
a key, and the keys of those that lie at the root or in a directory directly below it are the ones
that count as such. Neither the order of the entries nor the spelling of the root matters.
-/
theorem checkAll_complete (isTree : tree.IsTree) (settings : Config.Footer)
    (rooted : tree.isDirectory settings.root = true)
    : let results := (checkAll tree settings).value
      (∀ key result,
        (key, result) ∈ results
          ↔ ∃ names content, IsReadme tree settings names content
            ∧ key = "/".intercalate names
            ∧ result = resultOf (.ofSettings settings) content)
      ∧ (results.map Prod.fst).Nodup
      ∧ (∀ names others content other,
          IsReadme tree settings names content
          → IsReadme tree settings others other
          → "/".intercalate names = "/".intercalate others
          → names = others ∧ content = other)
      ∧ (∀ names content,
          IsReadme tree settings names content
          → (isPriority ("/".intercalate names) = true ↔ names.length ≤ 2))
      ∧ (∀ entries,
          entries.Perm tree.entries → (checkAll ⟨entries⟩ settings).value = results)
      ∧ ∀ root place,
          tree.find true settings.root = .ok (place, .directory)
          → tree.find true root = .ok (place, .directory)
          → (checkAll tree { settings with root }).value = results := by
  intro results
  have whole := checkAll_perm isTree rooted
  refine ⟨?_, ?_, ?_, ?_, ?_, ?_⟩
  · intro key result
    rw [whole.mem_iff, mem_entries isTree rooted]
  · exact (whole.map Prod.fst).nodup_iff.mpr (keys_distinct isTree rooted)
  · intro names others content other readme another same
    obtain rfl := readme.eq_of_key_eq isTree another same
    have stands := readme.1.symm.trans another.1
    exact ⟨rfl, by simpa using stands⟩
  · exact fun names content readme => readme.isPriority_iff isTree
  · intro entries shuffled
    have same := isTree.get?_perm shuffled
    refine checkAll_congr isTree (isTree.perm shuffled) rooted ?_ rfl ?_
    · simpa only [isDirectory, find_congr same] using rooted
    · simp only [IsReadme, standsAt?_congr same, implies_true]
  · intro root place leads otherLeads
    refine checkAll_congr isTree isTree rooted (by simp [isDirectory, otherLeads]) rfl ?_
    intro names content
    unfold IsReadme
    by_cases atRoot : names = []
    · simp [atRoot]
    · simp only [standsAt?_of_ne_nil _ atRoot, leads, otherLeads]

/-- Two READMEs, one of them no text, and a third one in a directory that is left out. -/
def bookshelf : FileTree :=
  ⟨[(["shelf"], .directory),
    (["shelf", "Readme.MD"], .file (some "Books\n---\n")),
    (["shelf", "novels"], .directory),
    (["shelf", "novels", "README.md"], .file none),
    (["shelf", "node_modules"], .directory),
    (["shelf", "node_modules", "README.md"], .file (some "Books"))]⟩

/-- A README that is no text is recorded with the reason, and the root may be spelled otherwise. -/
theorem checkAll_bookshelf
    : let settings : Config.Footer := { root := "shelf" }
      let results := (checkAll bookshelf settings).value
      bookshelf.IsTree
      ∧ bookshelf.isDirectory settings.root = true
      ∧ ("novels/README.md",
          .unreadable "Could not read file: stream did not contain valid UTF-8") ∈ results
      ∧ results.map Prod.fst = ["Readme.MD", "novels/README.md"]
      ∧ isPriority "novels/README.md" = true
      ∧ (checkAll bookshelf { settings with root := "./shelf//" }).value = results := by
  intro settings results
  have isTree : bookshelf.IsTree := by decide +kernel
  have rooted : bookshelf.isDirectory settings.root = true := by decide +kernel
  obtain ⟨recorded, -, -, priority, -, respelled⟩ := checkAll_complete isTree settings rooted
  have readme : IsReadme bookshelf settings ["novels", "README.md"] none :=
    ⟨by decide +kernel, ⟨"README.md", rfl, by decide +kernel⟩, by decide +kernel⟩
  refine ⟨isTree, rooted, (recorded _ _).mpr ⟨_, _, readme, by decide +kernel, rfl⟩,
    by decide +kernel, ?_, ?_⟩
  · exact (priority _ _ readme).mpr (by decide)
  · exact respelled "./shelf//" ["shelf"] (by decide +kernel) (by decide +kernel)

end DocSurvey.Footer
