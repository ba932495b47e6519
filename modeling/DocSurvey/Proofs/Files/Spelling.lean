import DocSurvey.Proofs.Files.Reading

/-! How paths are spelled. A path that is written from the first components of another one has just
these components, and the steps of a joined path start with those of the path it is joined to.
-/

namespace DocSurvey

namespace Path

/-- A component as it stands behind others: a name or two dots. -/
def IsInner (component : Component) : Prop :=
  innerComponent component.text.toList = some component ∧ '/' ∉ component.text.toList

/-- A component that a path can start with. -/
def IsOpening (component : Component) : Prop :=
  component = .root ∨ component = .current ∨ IsInner component

/-- A part between slashes stands for an inner component. -/
theorem isInner_of_innerComponent {piece : List Char} {component : Component}
    (noSlash : '/' ∉ piece) (found : innerComponent piece = some component)
    : IsInner component := by
  unfold innerComponent at found
  split at found
  · simp at found
  · split at found
    · obtain rfl := Option.some.inj found
      exact ⟨rfl, by decide⟩
    · rename_i noPlace notParent
      obtain rfl := Option.some.inj found
      refine ⟨?_, by simpa [Component.text] using noSlash⟩
      simp only [Component.text, String.toList_ofList, innerComponent, if_neg noPlace,
        if_neg notParent]

theorem isInner_of_mem_filterMap {pieces : List (List Char)}
    (free : ∀ piece ∈ pieces, '/' ∉ piece) {component : Component}
    (member : component ∈ pieces.filterMap innerComponent)
    : IsInner component := by
  obtain ⟨piece, among, found⟩ := List.mem_filterMap.mp member
  exact isInner_of_innerComponent (free piece among) found

/-- A part without slashes that is neither empty nor a dot stands for a component. -/
theorem exists_innerComponent {part : List Char} (filled : part ≠ []) (noDot : part ≠ ['.'])
    : ∃ component, innerComponent part = some component := by
  unfold innerComponent
  rw [if_neg (by simp [filled, noDot])]
  split <;> exact ⟨_, rfl⟩

/-- Whatever stands before the first slash of a path stands for a component. -/
theorem exists_openingComponent {piece : List Char} (noSlash : '/' ∉ piece)
    : ∃ component, openingComponent piece = some component ∧ IsOpening component := by
  by_cases empty : piece = []
  · exact ⟨.root, by simp [openingComponent, empty], .inl rfl⟩
  · by_cases dot : piece = ['.']
    · exact ⟨.current, by simp [openingComponent, dot], .inr (.inl rfl)⟩
    · obtain ⟨component, found⟩ := exists_innerComponent empty dot
      have opens : openingComponent piece = innerComponent piece := by
        simp [openingComponent, empty, dot]
      exact ⟨component, opens.trans found, .inr (.inr (isInner_of_innerComponent noSlash found))⟩

/-- A path has a first component unless it is empty, and inner ones behind it. -/
theorem components_eq_cons {path : String} (filled : path ≠ "")
    : ∃ first rest,
        components path = first :: rest
        ∧ IsOpening first
        ∧ ∀ component ∈ rest, IsInner component := by
  obtain ⟨piece, pieces, split⟩ := List.exists_cons_of_ne_nil (pieces_ne_nil path.toList)
  have free : ∀ other ∈ piece :: pieces, '/' ∉ other :=
    fun other among => no_slash_of_mem_pieces (split ▸ among)
  obtain ⟨first, opens, isOpening⟩ := exists_openingComponent (free piece (by simp))
  refine ⟨first, pieces.filterMap innerComponent, ?_, isOpening, ?_⟩
  · rw [components_of_pieces filled split, opens]
    rfl
  · exact fun component =>
      isInner_of_mem_filterMap fun other among => free other (List.mem_cons_of_mem _ among)

/-- A path that is not empty has components. -/
theorem components_ne_nil {path : String} (filled : path ≠ "") : components path ≠ [] := by
  obtain ⟨first, rest, shape, _⟩ := components_eq_cons filled
  simp [shape]

/-- The text of a component that a path can start with has this component and no other one. -/
theorem IsOpening.components_text {component : Component} (opening : IsOpening component)
    : components component.text = [component] := by
  rcases opening with rfl | rfl | ⟨inner, noSlash⟩
  · decide
  · decide
  · have filled : component.text ≠ "" := by
      intro empty
      simp [empty, innerComponent] at inner
    have noDot : component.text.toList ≠ ['.'] := by
      intro dot
      simp [dot, innerComponent] at inner
    have opens : openingComponent component.text.toList = some component := by
      simpa [openingComponent, filled, noDot] using inner
    rw [components_of_pieces filled (pieces_of_no_slash noSlash), opens]
    rfl

/-- A path written from components has these components, by induction from the last one. -/
theorem components_intercalate {first : Component} {rest : List Component}
    (opening : IsOpening first) (inner : ∀ component ∈ rest, IsInner component)
    : components ("/".intercalate ((first :: rest).map Component.text)) = first :: rest := by
  induction rest using List.reverseRecOn with
  | nil => simpa using opening.components_text
  | append_singleton before last ih =>
      obtain ⟨innerLast, noSlash⟩ := inner last (by simp)
      have shorter := ih fun component member => inner component (by simp [member])
      generalize start : "/".intercalate ((first :: before).map Component.text) = text at shorter
      have filled : text.toList ≠ [] := by
        intro empty
        simp [String.toList_eq_nil_iff.mp empty, components] at shorter
      have longer : "/".intercalate ((first :: (before ++ [last])).map Component.text)
          = String.ofList (text.toList ++ '/' :: last.text.toList) := by
        rw [← List.cons_append, List.map_append,
          String.intercalate_append_of_ne_nil (by simp) (by simp), start]
        simp [← String.toList_inj]
      rw [longer, components_append_slash filled, String.ofList_toList, shorter,
        pieces_of_no_slash noSlash]
      simp [innerLast]

/-- A path written from the first components of another one has just these. -/
theorem components_of_isPrefix {path : String} {before : List Component}
    (within : before <+: components path)
    : components ("/".intercalate (before.map Component.text)) = before := by
  cases before with
  | nil => rfl
  | cons first rest =>
      have filled : path ≠ "" := by
        rintro rfl
        exact absurd (List.prefix_nil.mp within) (List.cons_ne_nil _ _)
      obtain ⟨opening, others, shape, isOpening, inner⟩ := components_eq_cons filled
      rw [shape] at within
      obtain ⟨rfl, among⟩ := List.cons_prefix_cons.mp within
      exact components_intercalate isOpening fun component member =>
        inner component (among.subset member)

/-- A path has the same components once it is written from them. -/
@[simp]
theorem components_written (path : String) : components (written path) = components path :=
  components_of_isPrefix List.prefix_rfl

/-- What is written from the components of a path is empty only if the path is. -/
theorem written_ne_empty_iff {path : String} : written path ≠ "" ↔ path ≠ "" := by
  refine not_congr ⟨fun empty => ?_, by rintro rfl; rfl⟩
  by_contra filled
  exact components_ne_nil filled (by rw [← components_written, empty]; rfl)

end Path

namespace FileTree

open DocSurvey.Path

/-- A path asks for a directory if nothing but a dot stands behind its last slash. -/
theorem asksDirectory_eq_true_iff {path : String}
    : asksDirectory path = true
      ↔ ∃ before last, path.toList = before ++ '/' :: last ∧ (last = [] ∨ last = ['.']) := by
  unfold asksDirectory
  constructor
  · intro asks
    split at asks
    · rename_i tail turned
      exact ⟨tail.reverse, [], by simpa using congrArg List.reverse turned, .inl rfl⟩
    · rename_i tail turned
      exact ⟨tail.reverse, ['.'], by simpa using congrArg List.reverse turned, .inr rfl⟩
    · contradiction
  · rintro ⟨before, last, spelled, rfl | rfl⟩
    · simp [spelled]
    · simp [spelled]

/-- A path joined to another one stands in full behind a slash. -/
theorem exists_toList_join {base child : String} (filled : base ≠ "")
    (relative : isAbsolute child = false)
    : ∃ before, (join base child).toList = before ++ '/' :: child.toList := by
  by_cases slash : base.toList.getLast? = some '/'
  · obtain ⟨before, spelled⟩ := List.getLast?_eq_some_iff.mp slash
    exact ⟨before, by simp [join, relative, filled, spelled]⟩
  · exact ⟨base.toList, by simp [join, relative, filled, slash]⟩

/-- A text behind a slash that names nothing asks for a directory: so does what stands behind its
own last slash, if it has one.
-/
theorem asksDirectory_of_nothing {path : String} {before behind : List Char}
    (spelled : path.toList = before ++ '/' :: behind)
    (nothing : (pieces behind).filterMap innerComponent = [])
    : asksDirectory path = true := by
  have short : ∀ last ∈ pieces behind, last = [] ∨ last = ['.'] := by
    intro last member
    have noPlace := List.filterMap_eq_nil_iff.mp nothing last member
    unfold innerComponent at noPlace
    split at noPlace
    · rename_i isShort
      simpa using isShort
    · split at noPlace <;> simp at noPlace
  by_cases slash : '/' ∈ behind.reverse
  · obtain ⟨lastTurned, others, turned, free⟩ := List.eq_append_cons_of_mem slash
    have whole : behind = others.reverse ++ '/' :: lastTurned.reverse := by
      simpa using congrArg List.reverse turned
    have last := pieces_of_no_slash fun member => free (List.mem_reverse.mp member)
    have member : lastTurned.reverse ∈ pieces behind := by
      rw [whole, pieces_append_slash, last]
      simp
    refine asksDirectory_eq_true_iff.mpr ⟨before ++ '/' :: others.reverse, _, ?_, short _ member⟩
    simp [spelled, whole]
  · have single := pieces_of_no_slash fun member => slash (List.mem_reverse.mpr member)
    exact asksDirectory_eq_true_iff.mpr ⟨before, behind, spelled, short _ (by simp [single])⟩

/-- Behind the steps of the path it is joined to, a joined path has steps of its own. -/
theorem exists_steps_join {base child : String} (filled : base ≠ "")
    (relative : isAbsolute child = false)
    : ∃ further, further ≠ []
      ∧ steps (join base child) = (components base).map Step.ofComponent ++ further := by
  have behind := components_join_of_relative filled relative
  cases asks : asksDirectory (join base child) with
  | true =>
      refine ⟨((pieces child.toList).filterMap innerComponent).map Step.ofComponent ++ [.stay],
        by simp, ?_⟩
      simp [steps, asks, behind]
  | false =>
      refine ⟨((pieces child.toList).filterMap innerComponent).map Step.ofComponent, ?_, ?_⟩
      · intro nothing
        obtain ⟨before, spelled⟩ := exists_toList_join filled relative
        have alwaysAsks := asksDirectory_of_nothing spelled (List.map_eq_nil_iff.mp nothing)
        simp [asks] at alwaysAsks
      · simp [steps, asks, behind]

end FileTree

end DocSurvey
