import DocSurvey.Proofs.Files.Spelling

/-! The path of the directory that something lies in. Slashes and dots at the end of a path name
nothing, so that leaving them out changes no component. Main statement: a path's parent has the
components of the path without the last one.
-/

namespace DocSurvey.Path

/-- A text without a slash has one component at most. -/
theorem dropLast_components_of_no_slash {text : List Char} (noSlash : '/' ∉ text)
    : (components (String.ofList text)).dropLast = [] := by
  by_cases empty : text = []
  · simp [empty, components]
  · have split : pieces (String.ofList text).toList = [text] := by
      rw [String.toList_ofList, pieces_of_no_slash noSlash]
    rw [components_of_pieces (by simpa using empty) split]
    cases openingComponent text <;> rfl

/-- A part behind the last slash is the last component, also behind that of the root of all files.
-/
theorem dropLast_components_append_slash {name : List Char} (noSlash : '/' ∉ name)
    (filled : name ≠ []) (noDot : name ≠ ['.']) (above : List Char)
    : (components (String.ofList (above ++ '/' :: name))).dropLast
      = components (String.ofList (above ++ ['/'])) := by
  obtain ⟨component, inner⟩ := exists_innerComponent filled noDot
  have last : (pieces name).filterMap innerComponent = [component] := by
    simp [pieces_of_no_slash noSlash, inner]
  have nothing : (pieces []).filterMap innerComponent = [] := rfl
  by_cases top : above = []
  · subst top
    have split : pieces (String.ofList ('/' :: name)).toList = [] :: pieces name := by
      simp [pieces]
    have root : components (String.ofList ['/']) = [.root] := by decide
    rw [List.nil_append, List.nil_append, components_of_pieces (by simp) split, last, root]
    rfl
  · rw [components_append_slash top, components_append_slash top, last, nothing,
      List.dropLast_concat, List.append_nil]

/-- A reversed path with nothing left at its start that names nothing, unless that is the root of
all files, but with all components of the path.
-/
structure IsTrimmed (reversed trimmed : List Char) : Prop where
  short : trimmed = ['/']
    ∨ (∀ rest, trimmed ≠ '/' :: rest) ∧ ∀ rest, trimmed ≠ '.' :: '/' :: rest
  same : components (String.ofList trimmed.reverse) = components (String.ofList reversed.reverse)

/-- A part that names nothing can be left out. -/
theorem IsTrimmed.of_append (part : List Char) {reversed trimmed : List Char}
    (filled : reversed ≠ [])
    (nothing : (pieces part.reverse).filterMap innerComponent = [])
    (trims : IsTrimmed reversed trimmed)
    : IsTrimmed (part ++ '/' :: reversed) trimmed := by
  refine ⟨trims.short, trims.same.trans ?_⟩
  have turned : (part ++ '/' :: reversed).reverse = reversed.reverse ++ '/' :: part.reverse := by
    simp
  rw [turned, components_append_slash (by simpa using filled), nothing, List.append_nil]

/-- Slashes and dots at the end of a path are left out one by one, by induction along them. -/
theorem isTrimmed_trimTail (reversed : List Char) : IsTrimmed reversed (trimTail reversed) := by
  fun_induction trimTail reversed with
  | case1 => exact ⟨.inl rfl, rfl⟩
  | case2 => exact ⟨.inl rfl, by decide⟩
  | case3 rest filled ih => exact .of_append [] filled rfl ih
  | case4 rest filled ih => exact .of_append ['.'] filled rfl ih
  | case5 reversed _ _ noSlash noDot => exact ⟨.inr ⟨noSlash, noDot⟩, rfl⟩

/-- The parent of a path has the components of the path without the last one. -/
theorem components_parent (path : String)
    : components (parent path) = (components path).dropLast := by
  obtain ⟨short, same⟩ := isTrimmed_trimTail path.toList.reverse
  rw [List.reverse_reverse, String.ofList_toList] at same
  unfold parent
  generalize trimTail path.toList.reverse = trimmed at *
  rw [← same]
  split
  · rfl
  · rename_i notRoot
    obtain ⟨noSlash, noDot⟩ := short.resolve_left notRoot
    by_cases slash : '/' ∈ trimmed
    · obtain ⟨name, above, rfl, free⟩ := List.eq_append_cons_of_mem slash
      have isAbove : (name ++ '/' :: above).dropWhile (· != '/') = '/' :: above := by
        have before : ∀ c ∈ name, (c != '/') = true := fun c member =>
          bne_iff_ne.mpr fun same => free (same ▸ member)
        rw [List.dropWhile_append_of_pos before]
        rfl
      have filled : name.reverse ≠ [] := by
        intro empty
        exact noSlash above (by simp [List.reverse_eq_nil_iff.mp empty])
      have noDotAlone : name.reverse ≠ ['.'] := by
        intro dot
        exact noDot above (by simp [List.reverse_eq_iff.mp dot])
      have turned : (name ++ '/' :: above).reverse = above.reverse ++ '/' :: name.reverse := by
        simp
      have turnedAbove : ('/' :: above).reverse = above.reverse ++ ['/'] := by simp
      rw [isAbove, (isTrimmed_trimTail _).same, turnedAbove, turned,
        dropLast_components_append_slash (by simpa using free) filled noDotAlone]
    · have nothing : trimmed.dropWhile (· != '/') = [] := by
        exact List.dropWhile_eq_nil_iff.mpr fun c member =>
          bne_iff_ne.mpr fun same => slash (same ▸ member)
      rw [nothing, dropLast_components_of_no_slash (by simpa using slash)]
      rfl

end DocSurvey.Path
