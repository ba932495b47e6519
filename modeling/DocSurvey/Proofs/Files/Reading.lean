import DocSurvey.Proofs.Files.Walk

/-! What names lead to from where a path starts is found under the path joined to the names. How the
path is spelled does not matter: slashes and dots at its end are steps that stay where they are.
-/

namespace DocSurvey

-----------------------------------------------------------------------------------------
-- The spelling of a joined path
-----------------------------------------------------------------------------------------

namespace Path

theorem isAbsolute_eq_false_of_isName {name : String} (isName : IsName name)
    : isAbsolute name = false := by
  obtain ⟨first, rest, spelled⟩ := List.exists_cons_of_ne_nil isName.1
  have different : first ≠ '/' := fun same => isName.2.1 (by simp [spelled, same])
  simp [isAbsolute, spelled, different]

/-- A path that is joined to a name starts with the path and ends with the name. -/
theorem toList_join (base : String) {name : String} (isName : IsName name)
    : ∃ between, (join base name).toList = base.toList ++ between ++ name.toList := by
  have relative := isAbsolute_eq_false_of_isName isName
  by_cases nothing : base = ""
  · exact ⟨[], by simp [join, nothing]⟩
  · by_cases slash : base.toList.getLast? = some '/'
    · exact ⟨[], by simp [join, relative, nothing, slash]⟩
    · exact ⟨['/'], by simp [join, relative, nothing, slash]⟩

theorem join_ne_empty (base : String) {name : String} (isName : IsName name)
    : join base name ≠ "" := by
  obtain ⟨between, spelled⟩ := toList_join base isName
  intro empty
  rw [empty] at spelled
  exact isName.1 (List.append_eq_nil_iff.mp spelled.symm).2

/-- A path that is not empty stays so with names behind it. -/
theorem foldl_join_ne_empty {names : List String} (named : ∀ name ∈ names, IsName name)
    {start : String} (filled : start ≠ "")
    : names.foldl join start ≠ "" := by
  induction names generalizing start with
  | nil => exact filled
  | cons name rest ih =>
      have first := named name (by simp)
      exact ih (fun other member => named other (by simp [member])) (join_ne_empty start first)

/-- The name of the file is the last of the names behind a path. -/
theorem fileName?_foldl_join {names : List String} (named : ∀ name ∈ names, IsName name)
    {last : String} (ends : names.getLast? = some last) (start : String)
    : fileName? (names.foldl join start) = some last := by
  obtain ⟨before, rfl⟩ := List.getLast?_eq_some_iff.mp ends
  have final : (components ((before ++ [last]).foldl join start)).getLast? = some (.name last) := by
    rw [components_foldl_join named, List.map_append, ← List.append_assoc]
    exact List.getLast?_concat
  rw [fileName?, final]

/-- The key of a path that has names behind the components of the root. -/
theorem relativeKey_of_components {root path : String} {names : List String}
    (below : components path = components root ++ names.map .name)
    : relativeKey root path = "/".intercalate names := by
  have found : relativeTo? root path = some (names.map .name) := by
    simp [relativeTo?, below]
  have written : (names.map Component.name).map Component.text = names := by
    rw [List.map_map]
    exact List.map_id names
  rw [relativeKey, found, Option.getD_some, written]

/-- Names behind a path are its key as seen from there. -/
theorem relativeKey_foldl_join {names : List String} (named : ∀ name ∈ names, IsName name)
    (start : String)
    : relativeKey start (names.foldl join start) = "/".intercalate names :=
  relativeKey_of_components (components_foldl_join named start)

/-- Texts without slashes can be read off the text that joins them, by induction over them. -/
theorem pieces_intercalate_of_no_slash {texts : List String}
    (free : ∀ text ∈ texts, '/' ∉ text.toList) (nonempty : texts ≠ [])
    : pieces ("/".intercalate texts).toList = texts.map String.toList := by
  induction texts with
  | nil => exact absurd rfl nonempty
  | cons text rest ih =>
      obtain ⟨first, later⟩ := List.forall_mem_cons.mp free
      have single := pieces_of_no_slash first
      cases rest with
      | nil => simpa using single
      | cons next others =>
          have spelled : ("/".intercalate (text :: next :: others)).toList
              = text.toList ++ '/' :: ("/".intercalate (next :: others)).toList := by
            rw [String.intercalate_cons_cons]
            simp
          rw [spelled, pieces_append_slash, single, ih later (by simp)]
          rfl

/-- The names can be read off the text that joins them. -/
theorem pieces_intercalate {names : List String} (named : ∀ name ∈ names, IsName name)
    (nonempty : names ≠ [])
    : pieces ("/".intercalate names).toList = names.map String.toList :=
  pieces_intercalate_of_no_slash (fun name member => (named name member).2.1) nonempty

/-- No other names are joined to the same text. -/
theorem intercalate_inj {names others : List String} (named : ∀ name ∈ names, IsName name)
    (namedToo : ∀ name ∈ others, IsName name) (filled : names ≠ []) (filledToo : others ≠ [])
    (same : "/".intercalate names = "/".intercalate others)
    : names = others := by
  have spelled := pieces_intercalate named filled
  rw [same, pieces_intercalate namedToo filledToo] at spelled
  exact (List.map_injective_iff.mpr (fun _ _ => String.toList_injective) spelled).symm

/-- Each piece but the last one ends at a slash. -/
theorem length_pieces (text : List Char) : (pieces text).length = text.count '/' + 1 := by
  induction text with
  | nil => rfl
  | cons c rest ih =>
      by_cases slash : c = '/'
      · subst slash
        simp [pieces, ih]
      · obtain ⟨first, others, split⟩ := List.exists_cons_of_ne_nil (pieces_ne_nil rest)
        rw [split] at ih
        simpa [pieces, slash, split] using ih

end Path

namespace FileTree

open DocSurvey.Path

/-- The last characters of a joined path are those of the name, which is not a dot alone. -/
theorem asksDirectory_join (base : String) {name : String} (isName : IsName name)
    : asksDirectory (join base name) = false := by
  obtain ⟨between, spelled⟩ := toList_join base isName
  obtain ⟨nonempty, noSlash, notCurrent, _⟩ := isName
  have inside : ∀ c ∈ name.toList.reverse, c ≠ '/' := by
    intro c member same
    exact noSlash (same ▸ List.mem_reverse.mp member)
  unfold asksDirectory
  rw [spelled, List.reverse_append]
  cases turned : name.toList.reverse with
  | nil => exact absurd (List.reverse_eq_nil_iff.mp turned) nonempty
  | cons last before =>
      have lastInside := inside last (by simp [turned])
      cases before with
      | nil =>
          have notDot : last ≠ '.' := by
            rintro rfl
            exact notCurrent (by simpa using congrArg List.reverse turned)
          simp [lastInside, notDot]
      | cons earlier others =>
          have earlierInside := inside earlier (by simp [turned])
          simp [lastInside, earlierInside]

/-- The steps of a path that is joined to names are those of the path and one down for each name. -/
theorem steps_foldl_join {names : List String} (named : ∀ name ∈ names, IsName name)
    (nonempty : names ≠ []) (start : String)
    : steps (names.foldl join start)
      = (components start).map Step.ofComponent ++ names.map .down := by
  have spelled : (components (names.foldl join start)).map Step.ofComponent
      = (components start).map Step.ofComponent ++ names.map .down := by
    rw [components_foldl_join named, List.map_append, List.map_map]
    rfl
  have open? : asksDirectory (names.foldl join start) = false := by
    have whole := List.dropLast_concat_getLast nonempty
    rw [← whole, List.foldl_append]
    exact asksDirectory_join _ (named _ (List.getLast_mem nonempty))
  rw [steps, open?, spelled]
  rfl

-----------------------------------------------------------------------------------------
-- Going on from where a path leads
-----------------------------------------------------------------------------------------

variable {tree : FileTree}

/-- Steps that end in a directory can be gone on from there, by induction along them. -/
theorem advance_append_of_place {follow : Bool} {way further : List Step} {place middle : Place}
    (stops : tree.advance true way place = .ok (.place middle))
    (directory : tree.get? middle = some .directory)
    : tree.advance follow (way ++ further) place = tree.advance follow further middle := by
  induction way generalizing place with
  | nil =>
      obtain rfl : place = middle := by simpa [advance] using stops
      rfl
  | cons step rest ih =>
      cases step with
      | stay => exact ih stops
      | up => exact ih stops
      | down name =>
          -- What stands at the end is a directory, so the steps do not run into nothing or a file.
          cases stands : tree.get? (place ++ [name]) with
          | none => by_cases done : rest = [] <;> simp_all [advance]
          | some node =>
              cases node with
              | directory =>
                  simp only [advance, stands, List.cons_append] at stops ⊢
                  exact ih stops
              | file content => by_cases done : rest = [] <;> simp_all [advance]
              | link target => simp [advance, stands] at stops

/-- Steps that stop at a link stop there as well if further ones follow, by induction along them. -/
theorem advance_append_of_link {follow : Bool} {way further rest : List Step}
    {place directory : Place} {target : String} (more : further ≠ [])
    (stops : tree.advance true way place = .ok (.link directory target rest))
    : tree.advance follow (way ++ further) place
      = .ok (.link directory target (rest ++ further)) := by
  induction way generalizing place with
  | nil => simp [advance] at stops
  | cons step behind ih =>
      cases step with
      | stay => exact ih stops
      | up => exact ih stops
      | down name =>
          cases stands : tree.get? (place ++ [name]) with
          | none => by_cases done : behind = [] <;> simp_all [advance]
          | some node =>
              cases node with
              | directory =>
                  simp only [advance, stands, List.cons_append] at stops ⊢
                  exact ih stops
              | file content => by_cases done : behind = [] <;> simp_all [advance]
              | link found =>
                  obtain ⟨rfl, rfl, rfl⟩ : place = directory ∧ found = target ∧ behind = rest := by
                    simpa [advance, stands] using stops
                  simp [advance, stands, more]

/-- A walk to a directory can be gone on from there if no link is in the way, by induction over the
links that it uses.
-/
theorem walk_append {follow : Bool} {links : Nat} {way further : List Step}
    {place middle last : Place} (more : further ≠ [])
    (leads : tree.walk true links way place = .ok middle)
    (directory : tree.get? middle = some .directory)
    (onward : tree.advance follow further middle = .ok (.place last))
    : tree.walk follow links (way ++ further) place = .ok last := by
  induction links generalizing way place with
  | zero =>
      rcases walk_eq_ok_iff.mp leads with stops | ⟨_, _, _, _, used, _⟩
      · exact walk_of_place ((advance_append_of_place stops directory).trans onward) 0
      · simp at used
  | succ links ih =>
      rcases walk_eq_ok_iff.mp leads
        with stops | ⟨fewer, above, target, rest, same, stops, goesOn⟩
      · exact walk_of_place ((advance_append_of_place stops directory).trans onward) _
      · obtain rfl : links = fewer := Nat.succ.inj same
        refine walk_eq_ok_iff.mpr (.inr ⟨links, above, target, rest ++ further, rfl,
          advance_append_of_link more stops, ?_⟩)
        rw [← List.append_assoc]
        exact ih goesOn

/-- A step at the end that stays where it is only asks for a directory, by induction along the steps
before it.
-/
theorem advance_of_stay {way : List Step} {place : Place}
    : (∀ last, tree.advance true (way ++ [.stay]) place = .ok (.place last)
        → tree.advance true way place = .ok (.place last))
      ∧ ∀ directory target rest,
          tree.advance true (way ++ [.stay]) place = .ok (.link directory target rest)
          → ∃ before, rest = before ++ [.stay]
            ∧ tree.advance true way place = .ok (.link directory target before) := by
  induction way generalizing place with
  | nil => simp [advance]
  | cons step behind ih =>
      cases step with
      | stay => exact ih
      | up => exact ih
      | down name =>
          cases stands : tree.get? (place ++ [name]) with
          | none => simp [advance, stands]
          | some node =>
              cases node with
              | directory =>
                  simp only [advance, stands, List.cons_append]
                  exact ih
              | file content => simp [advance, stands]
              | link found =>
                  refine ⟨by simp [advance, stands], ?_⟩
                  intro directory target rest stops
                  obtain ⟨rfl, rfl, rfl⟩ :
                      place = directory ∧ found = target ∧ behind ++ [.stay] = rest := by
                    simpa [advance, stands] using stops
                  exact ⟨behind, rfl, by simp [advance, stands]⟩

/-- A walk that ends with a step that stays where it is leads as far without it, by induction over
the links that it uses.
-/
theorem walk_of_stay {links : Nat} {way : List Step} {place last : Place}
    (leads : tree.walk true links (way ++ [.stay]) place = .ok last)
    : tree.walk true links way place = .ok last := by
  induction links generalizing way place with
  | zero =>
      rcases walk_eq_ok_iff.mp leads with stops | ⟨_, _, _, _, used, _⟩
      · exact walk_of_place (advance_of_stay.1 last stops) 0
      · simp at used
  | succ links ih =>
      rcases walk_eq_ok_iff.mp leads
        with stops | ⟨fewer, above, target, rest, same, stops, goesOn⟩
      · exact walk_of_place (advance_of_stay.1 last stops) _
      · obtain rfl : links = fewer := Nat.succ.inj same
        obtain ⟨before, rfl, stopsBefore⟩ := advance_of_stay.2 _ _ _ stops
        rw [← List.append_assoc] at goesOn
        exact walk_eq_ok_iff.mpr
          (.inr ⟨links, above, target, before, rfl, stopsBefore, ih goesOn⟩)

/-- Names that lead to something other than a link lead there step by step, by induction over the
names.
-/
theorem IsTree.advance_down (isTree : tree.IsTree) {follow : Bool} {place names : Place}
    {node : Node} (stands : tree.get? (place ++ names) = some node)
    (noLink : ∀ target, node ≠ .link target)
    : tree.advance follow (names.map .down) place = .ok (.place (place ++ names)) := by
  induction names generalizing place with
  | nil => simp [advance]
  | cons name rest ih =>
      have deep : tree.get? ((place ++ [name]) ++ rest) = some node := by simpa using stands
      by_cases done : rest = []
      · subst done
        cases node with
        | directory => simp [advance, stands]
        | file content => simp [advance, stands]
        | link target => exact absurd rfl (noLink target)
      · simpa [advance, isTree.get?_above done deep] using ih deep

/-- What names lead to below a directory is found under the path that is joined to them. -/
theorem IsTree.find_foldl_join (isTree : tree.IsTree) {start : String} {place names : Place}
    {node : Node} (leads : tree.find true start = .ok (place, .directory)) (nonempty : names ≠ [])
    (stands : tree.get? (place ++ names) = some node) (noLink : ∀ target, node ≠ .link target)
    : tree.find true (names.foldl join start) = .ok (place ++ names, node) := by
  have named : ∀ name ∈ names, IsName name :=
    fun name member => isTree.isName stands name (List.mem_append_right _ member)
  unfold find at leads
  cases located : tree.locate true start with
  | error cause => simp [located, bind, Except.bind] at leads
  | ok found =>
      have directory : found = place ∧ tree.get? found = some .directory := by
        rw [located] at leads
        cases here : tree.get? found <;> simp_all [bind, Except.bind]
      obtain ⟨rfl, directory⟩ := directory
      unfold locate at located
      split at located
      · simp at located
      · rename_i startFilled
        have filled := foldl_join_ne_empty named (by simpa using startFilled)
        -- A slash behind the start is a step that stays where it is.
        have reached : tree.walk true linkLimit ((components start).map Step.ofComponent) []
            = .ok found := by
          unfold steps at located
          split at located
          · exact walk_of_stay located
          · exact located
        have downward : tree.advance true (names.map .down) found = .ok (.place (found ++ names)) :=
          isTree.advance_down stands noLink
        have onward := walk_append (by simpa using nonempty) reached directory downward
        have located : tree.locate true (names.foldl join start) = .ok (found ++ names) := by
          unfold locate
          rw [if_neg (by simp [filled]), steps_foldl_join named nonempty]
          exact onward
        unfold find
        rw [located]
        simp [bind, Except.bind, stands]

/-- The file that names lead to below a directory is read under the path that is joined to them. -/
theorem IsTree.readText_foldl_join (isTree : tree.IsTree) {start : String} {place names : Place}
    {content : Option String} (leads : tree.find true start = .ok (place, .directory))
    (nonempty : names ≠ []) (stands : tree.get? (place ++ names) = some (.file content))
    : tree.readText (names.foldl join start)
      = match content with
        | some text => .ok text
        | none => .error .notText := by
  have found := isTree.find_foldl_join leads nonempty stands (by simp)
  unfold readText
  rw [found]
  cases content <;> rfl

end FileTree

end DocSurvey
