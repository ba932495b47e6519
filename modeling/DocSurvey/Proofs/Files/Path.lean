import DocSurvey.Files.Path
import Mathlib.Data.List.TakeWhile

/-! The components of a path that is joined to a name are those of the path and the name. All names
that a path has among its components can stand in a directory. The extension of a name stands behind
its last dot.
-/

namespace DocSurvey.Path

/-- A name that an entry of a directory can have: not empty, without a slash, and not one of the two
names that lead to the directory itself and to the one above.
-/
def IsName (name : String) : Prop :=
  name.toList ≠ [] ∧ '/' ∉ name.toList ∧ name.toList ≠ ['.'] ∧ name.toList ≠ ['.', '.']

instance (name : String) : Decidable (IsName name) :=
  inferInstanceAs (Decidable (_ ∧ _ ∧ _ ∧ _))

-----------------------------------------------------------------------------------------
-- Pieces between slashes
-----------------------------------------------------------------------------------------

theorem pieces_ne_nil (path : List Char) : pieces path ≠ [] := by
  fun_cases pieces path <;> simp

/-- A slash ends the pieces before it, by induction over the text before it. -/
theorem pieces_append_slash (left right : List Char)
    : pieces (left ++ '/' :: right) = pieces left ++ pieces right := by
  induction left with
  | nil => simp [pieces]
  | cons c rest ih =>
      by_cases slash : c = '/'
      · subst slash
        simp [pieces, ih]
      · obtain ⟨first, others, split⟩ := List.exists_cons_of_ne_nil (pieces_ne_nil rest)
        simp [pieces, ih, split]

/-- A text without slashes is a single piece. -/
theorem pieces_of_no_slash {text : List Char} (noSlash : '/' ∉ text) : pieces text = [text] := by
  induction text with
  | nil => rfl
  | cons c rest ih =>
      have different : c ≠ '/' := fun same => noSlash (by simp [same])
      have split := ih fun member => noSlash (List.mem_cons_of_mem c member)
      simp [pieces, split]

/-- No piece holds a slash, by induction over the text. -/
theorem no_slash_of_mem_pieces {text piece : List Char} (member : piece ∈ pieces text)
    : '/' ∉ piece := by
  induction text generalizing piece with
  | nil =>
      have same : piece = [] := by simpa [pieces] using member
      simp [same]
  | cons c rest ih =>
      by_cases slash : c = '/'
      · subst slash
        rcases List.mem_cons.mp (by simpa [pieces] using member) with rfl | later
        · simp
        · exact ih later
      · obtain ⟨first, others, split⟩ := List.exists_cons_of_ne_nil (pieces_ne_nil rest)
        have among : piece ∈ (c :: first) :: others := by simpa [pieces, slash, split] using member
        rcases List.mem_cons.mp among with rfl | later
        · have free : '/' ∉ first := ih (by simp [split])
          simp [free, Ne.symm slash]
        · exact ih (by simp [split, later])

-----------------------------------------------------------------------------------------
-- Components
-----------------------------------------------------------------------------------------

/-- A name stands for itself inside a path. -/
theorem innerComponent_of_isName {name : String} (isName : IsName name)
    : innerComponent name.toList = some (.name name) := by
  obtain ⟨nonempty, _, notCurrent, notParent⟩ := isName
  simp [innerComponent, nonempty, notCurrent, notParent]

/-- What a piece without slashes stands for is a name, if it is one at all. -/
theorem isName_of_innerComponent {piece : List Char} {name : String} (noSlash : '/' ∉ piece)
    (found : innerComponent piece = some (.name name))
    : IsName name := by
  unfold innerComponent at found
  split at found
  · simp at found
  · rename_i notEmpty
    split at found
    · simp at found
    · rename_i notParent
      obtain rfl : String.ofList piece = name := by simpa using found
      simp only [Bool.or_eq_true, beq_iff_eq, not_or] at notEmpty notParent
      exact ⟨by simpa using notEmpty.1, by simpa using noSlash, by simpa using notEmpty.2,
        by simpa using notParent⟩

/-- The name that a first part stands for is one a file can have. -/
theorem isName_of_openingComponent {piece : List Char} {name : String} (noSlash : '/' ∉ piece)
    (found : openingComponent piece = some (.name name))
    : IsName name := by
  unfold openingComponent at found
  split at found
  · simp at found
  · split at found
    · simp at found
    · exact isName_of_innerComponent noSlash found

/-- The components of a path that is not empty, by its pieces. -/
theorem components_of_pieces {path : String} {first : List Char} {rest : List (List Char)}
    (nonempty : path ≠ "") (split : pieces path.toList = first :: rest)
    : components path = (openingComponent first).toList ++ rest.filterMap innerComponent := by
  simp [components, nonempty, split]

/-- What stands behind a slash adds inner components to those of the text before it. -/
theorem components_append_slash {left : List Char} (filled : left ≠ []) (right : List Char)
    : components (String.ofList (left ++ '/' :: right))
      = components (String.ofList left) ++ (pieces right).filterMap innerComponent := by
  obtain ⟨first, rest, split⟩ := List.exists_cons_of_ne_nil (pieces_ne_nil left)
  have short : pieces (String.ofList left).toList = first :: rest := by simpa using split
  have whole : pieces (String.ofList (left ++ '/' :: right)).toList
      = first :: (rest ++ pieces right) := by
    rw [String.toList_ofList, pieces_append_slash, split, List.cons_append]
  rw [components_of_pieces (by simp) whole, components_of_pieces (by simpa using filled) short,
    List.filterMap_append, List.append_assoc]

/-- Every name among the components of a path can stand in a directory. -/
theorem isName_of_mem_components {path name : String} (member : .name name ∈ components path)
    : IsName name := by
  by_cases nonempty : path = ""
  · subst nonempty
    simp [components] at member
  · obtain ⟨first, rest, split⟩ := List.exists_cons_of_ne_nil (pieces_ne_nil path.toList)
    have free : ∀ piece ∈ first :: rest, '/' ∉ piece :=
      fun piece among => no_slash_of_mem_pieces (split ▸ among)
    rw [components_of_pieces nonempty split] at member
    rcases List.mem_append.mp member with opening | later
    · exact isName_of_openingComponent (free first (by simp)) (by simpa using opening)
    · obtain ⟨piece, among, found⟩ := List.mem_filterMap.mp later
      exact isName_of_innerComponent (free piece (by simp [among])) found

/-- The components of a path joined to another one: those of the second path stand as inner ones
behind those of the first. The cases are a slash that is there and one to be added.
-/
theorem components_join_of_relative {base child : String} (filled : base ≠ "")
    (relative : isAbsolute child = false)
    : components (join base child)
      = components base ++ (pieces child.toList).filterMap innerComponent := by
  by_cases slash : base.toList.getLast? = some '/'
  · have joined : join base child = base ++ child := by simp [join, relative, filled, slash]
    obtain ⟨before, spelled⟩ := List.getLast?_eq_some_iff.mp slash
    obtain ⟨first, rest, split⟩ := List.exists_cons_of_ne_nil (pieces_ne_nil before)
    have short : pieces base.toList = first :: (rest ++ [[]]) := by
      rw [spelled, pieces_append_slash, split]
      rfl
    have whole : pieces (join base child).toList = first :: (rest ++ pieces child.toList) := by
      have longer : (join base child).toList = before ++ '/' :: child.toList := by
        simp [joined, spelled]
      rw [longer, pieces_append_slash, split]
      rfl
    have longer : join base child ≠ "" := by simp [joined, filled]
    have empty : innerComponent [] = none := rfl
    rw [components_of_pieces longer whole, components_of_pieces filled short]
    simp [empty]
  · obtain ⟨first, rest, split⟩ := List.exists_cons_of_ne_nil (pieces_ne_nil base.toList)
    have joined : join base child = base ++ "/" ++ child := by
      simp [join, relative, filled, slash]
    have whole : pieces (join base child).toList = first :: (rest ++ pieces child.toList) := by
      have spelled : (join base child).toList = base.toList ++ '/' :: child.toList := by
        simp [joined]
      rw [spelled, pieces_append_slash, split]
      rfl
    have longer : join base child ≠ "" := by simp [joined]
    rw [components_of_pieces longer whole, components_of_pieces filled split]
    simp

/-- The components of a path joined to a name are those of the path and the name. -/
theorem components_join (base : String) {name : String} (isName : IsName name)
    : components (join base name) = components base ++ [.name name] := by
  have inner := innerComponent_of_isName isName
  have single := pieces_of_no_slash isName.2.1
  have relative : isAbsolute name = false := by
    obtain ⟨first, rest, spelled⟩ := List.exists_cons_of_ne_nil isName.1
    have different : first ≠ '/' := fun same => isName.2.1 (by simp [spelled, same])
    simp [isAbsolute, spelled, different]
  by_cases nothing : base = ""
  · subst nothing
    have nonempty : name ≠ "" := fun same => isName.1 (by simp [same])
    have opening : openingComponent name.toList = some (.name name) := by
      rw [← inner]
      simp [openingComponent, isName.1, isName.2.2.1]
    have joined : join "" name = name := by simp [join]
    rw [joined, components_of_pieces nonempty single, opening]
    rfl
  · rw [components_join_of_relative nothing relative, single]
    simp [inner]

/-- Joining names to a path one after another adds them to its components, by induction. -/
theorem components_foldl_join {names : List String} (named : ∀ name ∈ names, IsName name)
    (start : String)
    : components (names.foldl join start) = components start ++ names.map .name := by
  induction names generalizing start with
  | nil => simp
  | cons name rest ih =>
      have first := components_join start (named name (by simp))
      have later := ih (fun other member => named other (by simp [member])) (join start name)
      simp [later, first]

-----------------------------------------------------------------------------------------
-- Extensions
-----------------------------------------------------------------------------------------

/-- The text stands behind the last dot of the name, and that dot is not its first character. -/
def IsExtension (name extension : String) : Prop :=
  ∃ stem, stem ≠ [] ∧ '.' ∉ extension.toList ∧ name.toList = stem ++ '.' :: extension.toList

/-- What is found behind the last dot from the end of a name is its extension. -/
theorem extensionOf?_eq_some_iff {name extension : String}
    : extensionOf? name = some extension ↔ IsExtension name extension := by
  constructor
  · intro found
    simp only [extensionOf?] at found
    split at found
    · rename_i first before dropped
      set behind := name.toList.reverse.takeWhile (· != '.') with taken
      obtain rfl : String.ofList behind.reverse = extension := by simpa using found
      have whole : behind ++ '.' :: first :: before = name.toList.reverse := by
        rw [← dropped]
        exact taken ▸ (List.prefix_iff_eq_append.mp (List.takeWhile_prefix _))
      refine ⟨(first :: before).reverse, by simp, ?_, ?_⟩
      · intro dot
        have among : '.' ∈ behind := by simpa using dot
        simpa using List.mem_takeWhile_imp among
      · have turned := congrArg List.reverse whole
        simpa using turned.symm
    · simp at found
  · rintro ⟨stem, nonempty, noDot, spelled⟩
    have turned : name.toList.reverse = extension.toList.reverse ++ '.' :: stem.reverse := by
      simp [spelled]
    have taken : name.toList.reverse.takeWhile (· != '.') = extension.toList.reverse := by
      have free : ∀ c ∈ extension.toList.reverse, (c != '.') = true := by
        intro c member
        simpa using fun same : c = '.' => noDot (by simpa [same] using member)
      rw [turned, List.takeWhile_append_of_pos free]
      simp
    obtain ⟨first, before, split⟩ :=
      List.exists_cons_of_ne_nil (fun empty => nonempty (List.reverse_eq_nil_iff.mp empty))
    simp only [extensionOf?, taken]
    simp [turned, split]

/-- The extension of a name, empty where there is none. -/
theorem getD_extensionOf?_eq_iff {name extension : String}
    : (extensionOf? name).getD "" = extension
      ↔ IsExtension name extension ∨ extension = "" ∧ ∀ other, ¬ IsExtension name other := by
  simp only [← extensionOf?_eq_some_iff]
  cases extensionOf? name with
  | none => simp [eq_comm]
  | some found => simp

end DocSurvey.Path
