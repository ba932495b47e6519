import DocSurvey.Proofs.Declarations.Scan
import DocSurvey.Proofs.Files.Plain

/-! Files in directories that are left out. Such a file is never counted, but it tells of its
language like any other: the language is looked for in the whole repository, and only a scan leaves
directories out. So the file changes the counts exactly where it alone decides which language that
is.
-/

namespace DocSurvey

namespace FileTree.SameBut

variable {tree other : FileTree} {place : Place}

/-- What is no file is found with or without the file. -/
theorem find (same : SameBut place tree other) {follow : Bool} {path : String} {last : Place}
    {node : Node} (noFile : ∀ content, node ≠ .file content)
    (leads : tree.find follow path = .ok (last, node))
    : other.find follow path = .ok (last, node) := by
  obtain ⟨located, stands⟩ := find_eq_ok_iff.mp leads
  have apart : last ≠ place := by
    rintro rfl
    rcases same.takes with free | ⟨content, file⟩
    · simp [free] at stands
    · exact noFile content (by simpa [file] using stands.symm)
  exact find_eq_ok_iff.mpr ⟨same.locate located, (same.elsewhere last apart).trans stands⟩

end FileTree.SameBut

namespace Declarations

open FileTree

-----------------------------------------------------------------------------------------
-- The languages apart
-----------------------------------------------------------------------------------------

/-- Python files are read for what they declare by their one extension. -/
theorem isSourceName_python_iff {name : String}
    : IsSourceName .python name ↔ Path.IsExtension name "py" := by
  simp [IsSourceName, Language.python]

/-- A repository is told to be Python's by the same extension. -/
theorem isTellingName_python_iff {name : String}
    : IsTellingName .python name ↔ Path.IsExtension name "py" := by
  simp [IsTellingName, Language.python]

/-- No file is one of both languages, as a name has one extension. -/
theorem not_isSourceName_javascript {name : String} (python : IsSourceName .python name)
    : ¬ IsSourceName .javascript name := by
  rintro ⟨extension, member, ends | ⟨rfl, _⟩⟩
  · have one := Path.extensionOf?_eq_some_iff.mpr (isSourceName_python_iff.mp python)
    have other := Path.extensionOf?_eq_some_iff.mpr ends
    obtain rfl : "py" = extension := Option.some.inj (one.symm.trans other)
    simp [Language.javascript] at member
  · simp [Language.javascript] at member

/-- What tells of a language is counted for it. -/
theorem IsTellingName.isSourceName {language : Language} (builtIn : language ∈ Language.all)
    {name : String} (tells : IsTellingName language name)
    : IsSourceName language name := by
  obtain ⟨extension, member, ends⟩ := tells
  refine ⟨extension, ?_, .inl ends⟩
  rcases List.mem_pair.mp builtIn with rfl | rfl
  · exact member
  · exact List.mem_append_left ["jsx", "tsx"] member

/-- Python comes first, then JavaScript. -/
theorem count_value_all (tree : FileTree) (root : String)
    : (count tree root).value
      = if tellsOf tree root .python = true then (scan tree root .python).value
        else if tellsOf tree root .javascript = true then (scan tree root .javascript).value
        else .zero := by
  rw [count_value, languageOf?, Language.all, List.find?_cons, List.find?_cons]
  cases tellsOf tree root .python <;> cases tellsOf tree root .javascript <;> rfl

/-- A repository without files of Python has no declarations of it. -/
theorem scan_python_of_tellsOf {tree : FileTree} (isTree : tree.IsTree) {root : String}
    (without : tellsOf tree root .python = false)
    : (scan tree root .python).value = .zero := by
  obtain ⟨files, counted, total⟩ := scan_eq_sum isTree root .python
  have none : files = ∅ := by
    refine Finset.eq_empty_of_forall_notMem fun ⟨names, counts⟩ member => ?_
    obtain ⟨content, stands, named, _⟩ := (counted names counts).mp member
    have tells : tellsOf tree root .python = true :=
      (tellsOf_eq_true_iff isTree root .python).mpr
        ⟨names, _, stands, isTellingName_python_iff.mpr (isSourceName_python_iff.mp named)⟩
    simp [without] at tells
  rw [total, none]
  rfl

-----------------------------------------------------------------------------------------
-- A file in a directory that is left out
-----------------------------------------------------------------------------------------

/-- Two trees of which the first one has a file of a built-in language below the root, in a
directory that the language leaves out, and the second one has all but that file.
-/
structure DropsExcluded (language : Language) (tree less : FileTree) (root : String) (names : Place)
    : Prop where
  isTree : tree.IsTree
  isLess : less.IsTree
  dropped
    : ∃ place content,
        tree.find true root = .ok (place, .directory)
        ∧ tree.get? (place ++ names) = some (.file content)
        ∧ ∀ other, less.get? other = if other = place ++ names then none else tree.get? other
  builtIn : language ∈ Language.all
  named : IsSourceName language (nameAt root names)
  excluded : ∃ directory ∈ names.dropLast, language.excludes directory = true

namespace DropsExcluded

variable {language : Language} {tree less : FileTree} {root : String} {names : Place}

theorem below (drops : DropsExcluded language tree less root names) : names ≠ [] := by
  rintro rfl
  obtain ⟨_, member, _⟩ := drops.excluded
  simp at member

/-- A tree without an excluded file is the same but for that file. -/
theorem sameBut (drops : DropsExcluded language tree less root names)
    : ∃ place content,
        tree.find true root = .ok (place, .directory)
        ∧ tree.get? (place ++ names) = some (.file content)
        ∧ less.get? (place ++ names) = none
        ∧ SameBut (place ++ names) tree less := by
  obtain ⟨place, content, leads, stands, removed⟩ := drops.dropped
  have gone : less.get? (place ++ names) = none := by rw [removed, if_pos rfl]
  exact ⟨place, content, leads, stands, gone, .inr ⟨content, stands⟩, .inl gone,
    fun apart differs => by rw [removed, if_neg differs]⟩

/-- The file is found with its names in the first tree only. -/
theorem standsAt?_file (drops : DropsExcluded language tree less root names)
    : (∃ content, tree.standsAt? root names = some (.file content))
      ∧ less.standsAt? root names = none := by
  obtain ⟨place, content, leads, stands, gone, same⟩ := drops.sameBut
  have leadsToo := same.find (by simp) leads
  rw [tree.standsAt?_of_ne_nil drops.below, less.standsAt?_of_ne_nil drops.below, leads, leadsToo]
  exact ⟨⟨content, stands⟩, gone⟩

/-- All else is found in both trees. -/
theorem standsAt?_eq (drops : DropsExcluded language tree less root names) {other : Place}
    (apart : other ≠ names)
    : less.standsAt? root other = tree.standsAt? root other := by
  obtain ⟨place, content, leads, stands, gone, same⟩ := drops.sameBut
  have leadsToo := same.find (by simp) leads
  by_cases atRoot : other = []
  · -- The root leads to a directory, so at the root itself stands one or a link to it.
    subst atRoot
    rw [standsAt?_nil, standsAt?_nil]
    rcases tree.find_follow root with followed | ⟨standing, target, link⟩
    · rw [leads] at followed
      rw [← followed, same.find (by simp) followed.symm]
    · rw [link, same.find (by simp) link]
  · rw [less.standsAt?_of_ne_nil atRoot, tree.standsAt?_of_ne_nil atRoot, leads, leadsToo]
    exact same.elsewhere _ (fun equal => apart (List.append_cancel_left equal))

/-- The file is not counted, for its own language or another one. -/
theorem scan_eq (drops : DropsExcluded language tree less root names) {counting : Language}
    (builtIn : counting ∈ Language.all)
    : (scan tree root counting).value = (scan less root counting).value := by
  refine scan_congr drops.isLess drops.isTree fun other counts => ?_
  by_cases here : other = names
  · subst here
    have passedOver : ¬ IsCounted tree root counting other counts := by
      rintro ⟨_, _, named, entered, _⟩
      obtain ⟨directory, member, out⟩ := drops.excluded
      have own := drops.named
      have differs : counting ≠ language := by
        rintro rfl
        simp [entered directory member] at out
      rcases List.mem_pair.mp builtIn with rfl | rfl
        <;> rcases List.mem_pair.mp drops.builtIn with rfl | rfl
      · exact differs rfl
      · exact not_isSourceName_javascript named own
      · exact not_isSourceName_javascript own named
      · exact differs rfl
    have gone : ¬ IsCounted less root counting other counts := by
      rintro ⟨_, stands, _⟩
      simp [drops.standsAt?_file.2] at stands
    exact iff_of_false passedOver gone
  · simp only [IsCounted, drops.standsAt?_eq here]

/-- The file tells of its language, like any other. -/
theorem tellsOf_eq_true_iff (drops : DropsExcluded language tree less root names)
    (telling : Language)
    : tellsOf tree root telling = true
      ↔ tellsOf less root telling = true ∨ IsTellingName telling (nameAt root names) := by
  rw [Declarations.tellsOf_eq_true_iff drops.isTree, Declarations.tellsOf_eq_true_iff drops.isLess]
  obtain ⟨⟨content, stands⟩, gone⟩ := drops.standsAt?_file
  constructor
  · rintro ⟨other, found, standing, tells⟩
    by_cases here : other = names
    · exact .inr (here ▸ tells)
    · exact .inl ⟨other, found, (drops.standsAt?_eq here).trans standing, tells⟩
  · rintro (⟨other, found, standing, tells⟩ | tells)
    · have apart : other ≠ names := by
        rintro rfl
        simp [gone] at standing
      exact ⟨other, found, (drops.standsAt?_eq apart).symm.trans standing, tells⟩
    · exact ⟨names, content, stands, tells⟩

/-- A file that is put where nothing stood before. -/
theorem of_insert (place : Place) {content : Option String}
    (isTree : (less.insert (place ++ names) (.file content)).IsTree) (isLess : less.IsTree)
    (leads : less.find true root = .ok (place, .directory))
    (free : less.get? (place ++ names) = none) (builtIn : language ∈ Language.all)
    (named : IsSourceName language (nameAt root names))
    (excluded : ∃ directory ∈ names.dropLast, language.excludes directory = true)
    : DropsExcluded language (less.insert (place ++ names) (.file content)) less root names := by
  have takes : less.TakesFile (place ++ names) := .inl free
  have same := sameBut_insert takes content
  have stands := less.get?_insert takes.ne_nil (.file content)
  refine ⟨isTree, isLess, ⟨place, content, same.find (by simp) leads, ?_, ?_⟩, builtIn, named,
    excluded⟩
  · rw [stands, if_pos rfl]
  · intro other
    by_cases here : other = place ++ names
    · rw [if_pos here, here, free]
    · rw [if_neg here, stands, if_neg here]

end DropsExcluded

-----------------------------------------------------------------------------------------
-- What the file changes
-----------------------------------------------------------------------------------------

/-- A file of Python in a virtual environment makes a repository of scripts one of Python. -/
theorem excluded_file_changes_count
    : let less : FileTree :=
        ⟨[(["r"], .directory),
          (["r", "app.js"], .file (some "function a() \x7b\x7d\n")),
          (["r", "venv"], .directory)]⟩
      let tree := less.insert ["r", "venv", "tool.py"] (.file (some "x = 1\n"))
      DropsExcluded .python tree less "r" ["venv", "tool.py"]
      ∧ (count tree "r").value = .zero
      ∧ (count less "r").value = ⟨1, 0, 0, 0⟩ := by
  intro less tree
  have isTree : tree.IsTree := by decide +kernel
  have isLess : less.IsTree := by decide +kernel
  have named : IsSourceName .python "tool.py" := handles_iff.mp (by decide +kernel)
  refine ⟨?_, by decide +kernel, by decide +kernel⟩
  exact DropsExcluded.of_insert ["r"] isTree isLess (by decide +kernel) (by decide +kernel)
    List.mem_cons_self named ⟨"venv", List.mem_cons_self, by decide +kernel⟩

/-- A file in a directory that its language leaves out is passed over by every scan. It changes the
declarations of the repository exactly if there are scripts to count, no other file tells of Python,
and the file alone decides which language that leaves: as the only file of Python in a repository of
scripts, or as the only file that tells of JavaScript.
-/
theorem excluded_file_only_tells {language : Language} {tree less : FileTree} {root : String}
    {names : Place} (drops : DropsExcluded language tree less root names)
    : let name := nameAt root names
      (∀ counting ∈ Language.all,
          (scan tree root counting).value = (scan less root counting).value)
      ∧ ((count tree root).value ≠ (count less root).value
        ↔ (scan less root .javascript).value ≠ .zero
          ∧ tellsOf less root .python = false
          ∧ (IsTellingName .python name ∧ tellsOf less root .javascript = true
            ∨ IsTellingName .javascript name ∧ tellsOf less root .javascript = false)) := by
  intro name
  refine ⟨fun counting builtIn => drops.scan_eq builtIn, ?_⟩
  have python : Language.python ∈ Language.all := List.mem_cons_self
  have javascript : Language.javascript ∈ Language.all := List.mem_cons_of_mem _ List.mem_cons_self
  have apart : IsTellingName .python name → ¬ IsTellingName .javascript name := fun tells other =>
    not_isSourceName_javascript (tells.isSourceName python) (other.isSourceName javascript)
  rw [count_value_all tree, count_value_all less, drops.scan_eq python, drops.scan_eq javascript]
  classical
  simp only [drops.tellsOf_eq_true_iff]
  cases ofPython : tellsOf less root .python with
  | true => simp
  | false =>
      rw [scan_python_of_tellsOf drops.isLess ofPython]
      by_cases tellsPython : IsTellingName .python name
      · have noScript := apart tellsPython
        cases tellsOf less root .javascript <;> simp [name, tellsPython, noScript, eq_comm]
      · by_cases tellsScript : IsTellingName .javascript name
          <;> cases tellsOf less root .javascript <;> simp [name, tellsPython, tellsScript]

/-- Components alone do not make a repository one of scripts, but a dependency of theirs does. -/
theorem excluded_file_of_components
    : let less : FileTree :=
        ⟨[(["web"], .directory),
          (["web", "node_modules"], .directory),
          (["web", "view.jsx"], .file (some "function view() \x7b\x7d\n"))]⟩
      let tree := less.insert ["web", "node_modules", "index.ts"]
        (.file (some "export \x7b\x7d\n"))
      DropsExcluded .javascript tree less "web" ["node_modules", "index.ts"]
      ∧ (scan tree "web" .javascript).value = ⟨1, 0, 0, 0⟩
      ∧ (count tree "web").value ≠ (count less "web").value := by
  intro less tree
  have isTree : tree.IsTree := by decide +kernel
  have isLess : less.IsTree := by decide +kernel
  have builtIn : Language.javascript ∈ Language.all := List.mem_cons_of_mem _ List.mem_cons_self
  have named : IsTellingName .javascript "index.ts" :=
    ⟨"ts", by decide, Path.extensionOf?_eq_some_iff.mp (by decide +kernel)⟩
  have drops : DropsExcluded .javascript tree less "web" ["node_modules", "index.ts"] :=
    DropsExcluded.of_insert ["web"] isTree isLess (by decide +kernel) (by decide +kernel) builtIn
      (named.isSourceName builtIn) ⟨"node_modules", List.mem_cons_self, by decide +kernel⟩
  have script : (scan less "web" .javascript).value = ⟨1, 0, 0, 0⟩ := by decide +kernel
  obtain ⟨scans, changes⟩ := excluded_file_only_tells drops
  refine ⟨drops, (scans .javascript builtIn).trans script, changes.mpr ?_⟩
  exact ⟨by rw [script]; decide, by decide +kernel, .inr ⟨named, by decide +kernel⟩⟩

end Declarations

end DocSurvey
