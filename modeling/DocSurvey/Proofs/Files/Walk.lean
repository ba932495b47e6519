import DocSurvey.Files.Walk
import DocSurvey.Proofs.Files.Tree
import Mathlib.Data.List.Nodup

/-! A walk finds each thing once that stands below its start, save what lies in directories it
does not enter. The order of the entries decides the order in which things are found and nothing
else.
-/

namespace DocSurvey

/-- The directories that a walk has entered to find something, what was found included. -/
def Visit.directories (found : Visit) : Place :=
  match found.node with
  | .directory => found.names
  | _ => found.names.dropLast

@[simp]
theorem Visit.names_within (directory : String) (found : Visit)
    : (found.within directory).names = directory :: found.names := rfl

@[simp]
theorem Visit.node_within (directory : String) (found : Visit)
    : (found.within directory).node = found.node := rfl

/-- Visits stay apart inside a directory. -/
theorem Visit.within_injective (directory : String) : Function.Injective (within directory) := by
  rintro ⟨names, node⟩ ⟨others, other⟩ same
  simpa [within] using same

/-- Inside a directory a visit passes through that first. -/
theorem Visit.directories_within (directory : String) {found : Visit} (below : found.names ≠ [])
    : (found.within directory).directories = directory :: found.directories := by
  unfold directories
  cases kind : found.node <;> simp [kind, List.dropLast_cons_of_ne_nil below]

namespace FileTree

variable {tree : FileTree}

-----------------------------------------------------------------------------------------
-- The entries of a directory
-----------------------------------------------------------------------------------------

/-- The entries of a directory are what stands right below it. -/
theorem IsTree.mem_children (isTree : tree.IsTree) {place : Place} {name : String} {node : Node}
    : (name, node) ∈ tree.children place ↔ tree.get? (place ++ [name]) = some node := by
  rw [isTree.get?_eq_some_iff (by simp)]
  unfold children
  rw [List.mem_filterMap]
  constructor
  · rintro ⟨⟨found, other⟩, member, kept⟩
    cases last : found.getLast? with
    | none => simp [last] at kept
    | some lowest =>
        obtain ⟨above, rfl⟩ := List.getLast?_eq_some_iff.mp last
        obtain ⟨rfl, rfl, rfl⟩ : above = place ∧ lowest = name ∧ other = node := by
          simpa using kept
        exact member
  · intro member
    exact ⟨_, member, by simp⟩

/-- The names in a directory are distinct, as the places of its entries are. -/
theorem IsTree.children_distinct (isTree : tree.IsTree) (place : Place)
    : ((tree.children place).map Prod.fst).Nodup := by
  have spelled : (tree.children place).map Prod.fst
      = (tree.entries.map Prod.fst).filterMap fun found =>
          if found.dropLast = place then found.getLast? else none := by
    simp only [children, List.map_filterMap, List.filterMap_map]
    congr 1
    funext ⟨found, node⟩
    cases last : found.getLast? <;> simp [last]
  rw [spelled]
  refine isTree.distinct.filterMap ?_
  intro found other name inFound inOther
  simp only [Option.mem_def, Option.ite_none_right_eq_some] at inFound inOther
  obtain ⟨above, rfl⟩ := List.getLast?_eq_some_iff.mp inFound.2
  obtain ⟨others, rfl⟩ := List.getLast?_eq_some_iff.mp inOther.2
  simpa using inFound.1.trans inOther.1.symm

-----------------------------------------------------------------------------------------
-- Everything below a place
-----------------------------------------------------------------------------------------

/-- What is found in a directory under one of its names. -/
theorem mem_descend_succ (enters : String → Bool) {levels : Nat} {place : Place} {found : Visit}
    : found ∈ tree.descend enters (levels + 1) place
      ↔ ∃ name node, (name, node) ∈ tree.children place
          ∧ (node = .directory → enters name = true)
          ∧ (found = ⟨[name], node⟩
            ∨ node = .directory
              ∧ ∃ inside ∈ tree.descend enters levels (place ++ [name]),
                  found = inside.within name) := by
  simp only [descend, List.mem_flatMap, Prod.exists]
  refine exists_congr fun name => exists_congr fun node => and_congr_right fun _ => ?_
  cases node with
  | directory =>
      by_cases entered : enters name = true <;> simp [entered, eq_comm]
  | file content => simp
  | link target => simp

/-- A descent comes to something below its start. -/
theorem names_ne_nil_of_mem_descend {enters : String → Bool} {levels : Nat} {place : Place}
    {found : Visit} (member : found ∈ tree.descend enters levels place)
    : found.names ≠ [] := by
  cases levels with
  | zero => simp [descend] at member
  | succ levels =>
      obtain ⟨name, node, _, _, rfl | ⟨_, inside, _, rfl⟩⟩ := (mem_descend_succ enters).mp member
      · simp
      · simp

/-- What is found so many levels down is what stands there, all directories on the way being
entered. By induction over the levels, the lowest name of a place being reached through all those
above.
-/
theorem IsTree.mem_descend (isTree : tree.IsTree) (enters : String → Bool) {levels : Nat}
    {place : Place} {found : Visit}
    : found ∈ tree.descend enters levels place
      ↔ found.names ≠ [] ∧ found.names.length ≤ levels
        ∧ tree.get? (place ++ found.names) = some found.node
        ∧ ∀ name ∈ found.directories, enters name = true := by
  induction levels generalizing place found with
  | zero =>
      have nothing : ¬ (found.names ≠ [] ∧ found.names.length ≤ 0) := by
        simp
      simp only [descend, List.not_mem_nil, false_iff]
      exact fun ⟨below, short, _⟩ => nothing ⟨below, short⟩
  | succ levels ih =>
      rw [mem_descend_succ]
      constructor
      · rintro ⟨name, node, child, entered, rfl | ⟨rfl, inside, deeper, rfl⟩⟩
        · refine ⟨by simp, by simp, isTree.mem_children.mp child, ?_⟩
          cases node <;> simp_all [Visit.directories]
        · obtain ⟨below, short, stands, accepted⟩ := ih.mp deeper
          refine ⟨by simp, by simpa using short, by simpa using stands, ?_⟩
          rw [Visit.directories_within name below]
          simpa [entered rfl] using accepted
      · rintro ⟨below, short, stands, accepted⟩
        obtain ⟨names, node⟩ := found
        obtain ⟨name, rest, rfl⟩ := List.exists_cons_of_ne_nil below
        by_cases done : rest = []
        · subst done
          refine ⟨name, node, isTree.mem_children.mpr stands, ?_, .inl rfl⟩
          rintro rfl
          exact accepted name (by simp [Visit.directories])
        · -- What names lead further down from is a directory, so that the walk can go on in it.
          have deep : tree.get? ((place ++ [name]) ++ rest) = some node := by simpa using stands
          have above := isTree.get?_above done deep
          have spelled : (⟨name :: rest, node⟩ : Visit) = Visit.within name ⟨rest, node⟩ := rfl
          rw [spelled, Visit.directories_within name done] at accepted
          refine ⟨name, .directory, isTree.mem_children.mpr above, ?_,
            .inr ⟨rfl, ⟨rest, node⟩, ?_, rfl⟩⟩
          · exact fun _ => accepted name (by simp)
          · refine ih.mpr ⟨done, by simpa using short, deep, ?_⟩
            exact fun directory member => accepted directory (List.mem_cons_of_mem name member)

/-- Lists without repetition make up one, where each has a key of its own that its members tell. -/
theorem nodup_flatMap_of_key {α β κ : Type} {items : List α} {parts : α → List β} (keyOf : α → κ)
    (tells : β → κ) (keyed : ∀ item, ∀ part ∈ parts item, tells part = keyOf item)
    (distinct : (items.map keyOf).Nodup) (each : ∀ item ∈ items, (parts item).Nodup)
    : (items.flatMap parts).Nodup := by
  refine List.nodup_flatMap.mpr ⟨each, (List.pairwise_map.mp distinct).imp ?_⟩
  intro one other differs part inOne inOther
  exact differs ((keyed one part inOne).symm.trans (keyed other part inOther))

/-- Nothing is found twice, by induction over the levels: the first name that leads to it is the one
under which it is found.
-/
theorem IsTree.descend_distinct (isTree : tree.IsTree) (enters : String → Bool) (levels : Nat)
    (place : Place)
    : (tree.descend enters levels place).Nodup := by
  induction levels generalizing place with
  | zero => simp [descend]
  | succ levels ih =>
      refine nodup_flatMap_of_key Prod.fst (fun found => found.names.headD "") ?_
        (isTree.children_distinct place) ?_
      · rintro ⟨name, node⟩ found member
        cases node with
        | directory =>
            by_cases entered : enters name = true
            · simp only [entered, if_true, List.mem_cons, List.mem_map] at member
              rcases member with rfl | ⟨inside, _, rfl⟩ <;> rfl
            · simp [entered] at member
        | file content => simp_all
        | link target => simp_all
      · rintro ⟨name, node⟩ _
        cases node with
        | directory =>
            by_cases entered : enters name = true
            · -- What lies in the directory is named from there on, the directory itself is not.
              have apart : (⟨[name], .directory⟩ : Visit)
                  ∉ (tree.descend enters levels (place ++ [name])).map (Visit.within name) := by
                intro member
                obtain ⟨inside, deeper, same⟩ := List.mem_map.mp member
                have below := names_ne_nil_of_mem_descend deeper
                exact below (by simpa using congrArg Visit.names same)
              have deeper := (ih (place ++ [name])).map (Visit.within_injective name)
              simpa only [entered, if_true] using List.nodup_cons.mpr ⟨apart, deeper⟩
            · simp [entered]
        | file content => simp
        | link target => simp

-----------------------------------------------------------------------------------------
-- Walks from a path
-----------------------------------------------------------------------------------------

/-- No place lies deeper than the tree, by induction over the entries before it. -/
theorem length_le_depth {place : Place} {node : Node} (member : (place, node) ∈ tree.entries)
    : place.length ≤ tree.depth := by
  have grows : ∀ (entries : List (Place × Node)) (deepest : Nat),
      deepest ≤ entries.foldl (fun depth entry => max depth entry.1.length) deepest := by
    intro entries
    induction entries with
    | nil => exact fun _ => Nat.le_refl _
    | cons entry rest ih => exact fun deepest => Nat.le_trans (Nat.le_max_left _ _) (ih _)
  obtain ⟨before, after, split⟩ := List.append_of_mem member
  rw [depth, split, List.foldl_append, List.foldl_cons]
  exact Nat.le_trans (Nat.le_max_right _ _) (grows after _)

/-- What the names lead to from where a path starts. No names lead to what stands at the path
itself, a link that it ends in included; names lead into the directory at the end of such a link.
-/
def standsAt? (tree : FileTree) (start : String) (names : Place) : Option Node :=
  if names.isEmpty then
    (tree.find false start).toOption.map Prod.snd
  else
    match tree.find true start with
    | .ok (place, .directory) => tree.get? (place ++ names)
    | _ => none

theorem standsAt?_nil (tree : FileTree) (start : String)
    : tree.standsAt? start [] = (tree.find false start).toOption.map Prod.snd := rfl

theorem standsAt?_of_ne_nil (tree : FileTree) {start : String} {names : Place} (below : names ≠ [])
    : tree.standsAt? start names
      = match tree.find true start with
        | .ok (place, .directory) => tree.get? (place ++ names)
        | _ => none := by
  simp [standsAt?, below]

/-- What stands as seen from a start is read off what stands in the tree. -/
theorem standsAt?_congr {other : FileTree} (same : ∀ place, other.get? place = tree.get? place)
    (start : String) (names : Place)
    : other.standsAt? start names = tree.standsAt? start names := by
  simp only [standsAt?, find_congr same, same]

/-- A walk that starts finds what stands at its start, and below it if the start leads to a
directory.
-/
theorem walkFrom_eq_ok {enters : String → Bool} {start : String} {visits : List Visit}
    (walked : tree.walkFrom enters start = .ok visits)
    : ∃ node place ending,
        tree.standsAt? start [] = some node
        ∧ tree.find true start = .ok (place, ending)
        ∧ visits = ⟨[], node⟩
          :: if ending = .directory then tree.descend enters tree.depth place else [] := by
  unfold walkFrom at walked
  cases unfollowed : tree.find false start with
  | error cause => simp [unfollowed, bind, Except.bind] at walked
  | ok standing =>
      cases followed : tree.find true start with
      | error cause => simp [unfollowed, followed, bind, Except.bind] at walked
      | ok ending =>
          obtain ⟨place, kind⟩ := ending
          refine ⟨standing.2, place, kind, ?_, rfl, ?_⟩
          · simp [standsAt?_nil, unfollowed, Except.toOption]
          · cases kind <;> simp_all [bind, Except.bind, pure, Except.pure]

/-- A walk that starts finds what the names of something lead to, if it enters all directories on
the way.
-/
theorem IsTree.mem_walkFrom (isTree : tree.IsTree) {enters : String → Bool} {start : String}
    {visits : List Visit} (walked : tree.walkFrom enters start = .ok visits) {found : Visit}
    : found ∈ visits
      ↔ tree.standsAt? start found.names = some found.node
        ∧ ∀ name ∈ found.directories, enters name = true := by
  obtain ⟨node, place, ending, standing, followed, rfl⟩ := walkFrom_eq_ok walked
  obtain ⟨names, reached⟩ := found
  by_cases atStart : names = []
  · subst atStart
    have apart : (⟨[], reached⟩ : Visit)
        ∉ if ending = .directory then tree.descend enters tree.depth place else [] := by
      intro member
      split at member
      · exact names_ne_nil_of_mem_descend member rfl
      · simp at member
    have free : (⟨[], reached⟩ : Visit).directories = [] := by cases reached <;> rfl
    simp only [standing, free, List.mem_cons, apart, or_false, List.not_mem_nil, false_imp_iff,
      implies_true, and_true, Visit.mk.injEq, true_and, Option.some.injEq]
    exact eq_comm
  · rw [tree.standsAt?_of_ne_nil atStart, followed]
    by_cases inside : ending = .directory
    · subst inside
      -- The levels that a walk is given are enough for every place of the tree.
      have bounded : tree.get? (place ++ names) = some reached → names.length ≤ tree.depth := by
        intro stands
        have whole := length_le_depth (mem_entries_of_get? (by simp [atStart]) stands)
        rw [List.length_append] at whole
        omega
      simp only [if_true, List.mem_cons, isTree.mem_descend, Visit.mk.injEq, atStart, false_and,
        false_or, ne_eq, not_false_eq_true, true_and]
      exact and_iff_right_of_imp fun ⟨stands, _⟩ => bounded stands
    · cases ending <;> simp_all

/-- A walk finds nothing twice. -/
theorem IsTree.walkFrom_distinct (isTree : tree.IsTree) {enters : String → Bool} {start : String}
    {visits : List Visit} (walked : tree.walkFrom enters start = .ok visits)
    : visits.Nodup := by
  obtain ⟨node, place, ending, _, _, rfl⟩ := walkFrom_eq_ok walked
  split
  · refine List.nodup_cons.mpr ⟨?_, isTree.descend_distinct enters tree.depth place⟩
    exact fun member => names_ne_nil_of_mem_descend member rfl
  · simp

/-- A walk starts wherever its path leads to something. -/
theorem walkFrom_eq_error {enters : String → Bool} {start : String} {cause : SystemError}
    (failed : tree.walkFrom enters start = .error cause)
    : ∃ problem, tree.find true start = .error problem := by
  unfold walkFrom at failed
  cases followed : tree.find true start with
  | error problem => exact ⟨problem, rfl⟩
  | ok ending =>
      cases unfollowed : tree.find false start with
      | error problem =>
          rcases tree.find_follow start with same | ⟨place, target, link⟩
          · simp [followed, unfollowed] at same
          · simp [unfollowed] at link
      | ok standing =>
          obtain ⟨place, kind⟩ := ending
          cases kind <;> simp [unfollowed, followed, bind, Except.bind, pure, Except.pure] at failed

/-- Where a walk cannot start, names lead to nothing, and at its start there is at most a link that
leads to nothing.
-/
theorem standsAt?_of_walkFrom_error {enters : String → Bool} {start : String} {cause : SystemError}
    (failed : tree.walkFrom enters start = .error cause) {names : Place} {node : Node}
    (stands : tree.standsAt? start names = some node)
    : names = [] ∧ ∃ target, node = .link target := by
  obtain ⟨problem, followed⟩ := walkFrom_eq_error failed
  by_cases atStart : names = []
  · subst atStart
    rcases tree.find_follow start with same | ⟨place, target, link⟩
    · simp [standsAt?_nil, ← same, followed, Except.toOption] at stands
    · obtain rfl : Node.link target = node := by
        simpa [standsAt?_nil, link, Except.toOption] using stands
      exact ⟨rfl, target, rfl⟩
  · simp [tree.standsAt?_of_ne_nil atStart, followed] at stands

/-- A walk that enters all directories finds all that names lead to, a link at its start aside. -/
theorem IsTree.mem_found_iff (isTree : tree.IsTree) {start : String} {found : Visit}
    (noLink : found.names ≠ [] ∨ ∀ target, found.node ≠ .link target)
    : found ∈ tree.found start ↔ tree.standsAt? start found.names = some found.node := by
  unfold FileTree.found
  cases walked : tree.walkFrom (fun _ => true) start with
  | error cause =>
      have nothing : tree.standsAt? start found.names ≠ some found.node := by
        intro stands
        obtain ⟨atStart, target, link⟩ := standsAt?_of_walkFrom_error walked stands
        exact noLink.elim (fun below => below atStart) fun noLink => noLink target link
      simp [Except.toOption, nothing]
  | ok visits => simp [Except.toOption, isTree.mem_walkFrom walked]

/-- Below its start a walk that enters all directories finds all that names lead to. -/
theorem IsTree.mem_found (isTree : tree.IsTree) {start : String} {found : Visit}
    (below : found.names ≠ [])
    : found ∈ tree.found start ↔ tree.standsAt? start found.names = some found.node :=
  isTree.mem_found_iff (.inl below)

/-- Names that lead further lead to a directory before. -/
theorem IsTree.standsAt?_above (isTree : tree.IsTree) {start : String} {before behind : Place}
    {node : Node} (below : before ≠ []) (further : behind ≠ [])
    (stands : tree.standsAt? start (before ++ behind) = some node)
    : tree.standsAt? start before = some .directory := by
  rw [tree.standsAt?_of_ne_nil (by simp [below])] at stands
  rw [tree.standsAt?_of_ne_nil below]
  split at stands
  · rename_i place leads
    rw [← List.append_assoc] at stands
    simpa [leads] using isTree.get?_above further stands
  · simp at stands

-----------------------------------------------------------------------------------------
-- Paths of what is found
-----------------------------------------------------------------------------------------

/-- The name that something is found under: the last of the names that lead to it, or that of the
path where no names lead further.
-/
def nameAt (start : String) (names : Place) : String :=
  names.getLast?.getD ((Path.fileName? start).getD "")

/-- What stands as seen from a start is reached by names. -/
theorem IsTree.isName_of_standsAt? (isTree : tree.IsTree) {start : String} {names : Place}
    {node : Node} (stands : tree.standsAt? start names = some node)
    : ∀ name ∈ names, Path.IsName name := by
  by_cases atStart : names = []
  · simp [atStart]
  · rw [tree.standsAt?_of_ne_nil atStart] at stands
    split at stands
    · exact fun name member => isTree.isName stands name (List.mem_append_right _ member)
    · simp at stands

end FileTree

end DocSurvey
