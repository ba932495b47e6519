import DocSurvey.Text.CharClass

/-! Texts up to the amount of white space in them. Each run of white space becomes one space. A text
may be cut anywhere but inside a run, and its two parts collapse apart from each other.
-/

namespace DocSurvey.Text

/-- The text with a space for each run of white space, save for one that has begun before. -/
def collapseBehind (inRun : Bool) : List Char → List Char
  | [] => []
  | c :: rest =>
      if isWhiteSpace c then
        if inRun then collapseBehind true rest else ' ' :: collapseBehind true rest
      else
        c :: collapseBehind false rest

/-- The text with one space for each of its longest runs of white space. -/
def collapse (text : List Char) : List Char :=
  collapseBehind false text

def startsBlank (text : List Char) : Bool :=
  text.head?.any isWhiteSpace

def endsBlank (text : List Char) : Bool :=
  text.getLast?.any isWhiteSpace

/-- No run of white space goes on from one text into the other. -/
def IsCut (first rest : List Char) : Prop :=
  ¬ (endsBlank first = true ∧ startsBlank rest = true)

variable {c : Char} {first rest text : List Char}

-----------------------------------------------------------------------------------------
-- Cuts
-----------------------------------------------------------------------------------------

theorem endsBlank_cons (c : Char) (filled : first ≠ [])
    : endsBlank (c :: first) = endsBlank first := by
  rw [endsBlank, endsBlank, List.getLast?_cons, List.getLast?_eq_some_getLast filled]
  rfl

theorem IsCut.of_cons (cut : IsCut (c :: first) rest) : IsCut first rest := by
  by_cases filled : first = []
  · subst filled
    simp [IsCut, endsBlank]
  · rwa [IsCut, endsBlank_cons c filled] at cut

theorem IsCut.cons (cut : IsCut first rest) (inside : first ≠ [] ∨ isWhiteSpace c = false)
    : IsCut (c :: first) rest := by
  by_cases filled : first = []
  · have visible := inside.resolve_left (absurd filled)
    simp [IsCut, filled, endsBlank, visible]
  · rwa [IsCut, endsBlank_cons c filled]

/-- A cut stays one if less text stands behind it. -/
theorem IsCut.take (cut : IsCut first rest) (length : Nat) : IsCut first (rest.take length) := by
  cases length with
  | zero => simp [IsCut, startsBlank]
  | succ length =>
      cases rest with
      | nil => exact cut
      | cons d rest => simpa [IsCut, startsBlank] using cut

/-- Two cuts in a row are a cut. -/
theorem IsCut.append {middle : List Char} (outer : IsCut first (middle ++ rest))
    (inner : IsCut middle rest)
    : IsCut (first ++ middle) rest := by
  by_cases filled : middle = []
  · subst filled
    simpa using outer
  · have last : (first ++ middle).getLast? = middle.getLast? := by
      rw [List.getLast?_append, List.getLast?_eq_some_getLast filled, Option.some_or]
    rwa [IsCut, endsBlank, last]

/-- A text can be cut wherever none of its parts is white space. -/
theorem isCut_of_visible (visible : ∀ c ∈ first, isWhiteSpace c = false) (rest : List Char)
    : IsCut first rest := by
  rintro ⟨ends, -⟩
  obtain ⟨c, isLast, blank⟩ := (Option.any_eq_true _ _).mp ends
  rw [visible c (List.mem_of_getLast? isLast)] at blank
  contradiction

-----------------------------------------------------------------------------------------
-- Collapsed texts
-----------------------------------------------------------------------------------------

@[simp] theorem collapse_nil : collapse [] = [] := rfl

theorem collapse_cons_visible (visible : isWhiteSpace c = false) (rest : List Char)
    : collapse (c :: rest) = c :: collapse rest := by
  simp [collapse, collapseBehind, visible]

/-- White space in front of more white space makes no difference. -/
theorem collapse_cons_blank (blank : isWhiteSpace c = true) (rest : List Char)
    : collapse (c :: rest) = if startsBlank rest then collapse rest else ' ' :: collapse rest := by
  cases rest with
  | nil => simp [collapse, collapseBehind, blank, startsBlank]
  | cons d rest =>
      cases next : isWhiteSpace d <;> simp [collapse, collapseBehind, blank, startsBlank, next]

/-- A collapsed text starts as the text does, with a space for a blank. -/
theorem head?_collapse (text : List Char)
    : (collapse text).head? = text.head?.map fun c => if isWhiteSpace c then ' ' else c := by
  cases text with
  | nil => rfl
  | cons c rest => cases blank : isWhiteSpace c <;> simp [collapse, collapseBehind, blank]

theorem collapse_eq_nil_iff : collapse text = [] ↔ text = [] := by
  rw [← List.head?_eq_none_iff, head?_collapse, Option.map_eq_none_iff, List.head?_eq_none_iff]

/-- The characters of a collapsed text are those of the text and the space of its white space. -/
theorem of_mem_collapse (member : c ∈ collapse text)
    : c ∈ text ∨ c = ' ' ∧ ∃ d ∈ text, isWhiteSpace d = true := by
  induction text with
  | nil => simp at member
  | cons d rest ih =>
      have onward (later : c ∈ collapse rest)
          : c ∈ d :: rest ∨ c = ' ' ∧ ∃ e ∈ d :: rest, isWhiteSpace e = true :=
        (ih later).imp (List.mem_cons_of_mem d)
          (And.imp_right fun ⟨e, inside, blank⟩ => ⟨e, List.mem_cons_of_mem d inside, blank⟩)
      cases blank : isWhiteSpace d with
      | false =>
          rw [collapse_cons_visible blank] at member
          rcases List.mem_cons.mp member with rfl | later
          · exact .inl List.mem_cons_self
          · exact onward later
      | true =>
          rw [collapse_cons_blank blank] at member
          split at member
          · exact onward member
          · rcases List.mem_cons.mp member with space | later
            · exact .inr ⟨space, d, List.mem_cons_self, blank⟩
            · exact onward later

/-- At a cut, both parts collapse by themselves, by induction over the first one. -/
theorem collapse_append (cut : IsCut first rest)
    : collapse (first ++ rest) = collapse first ++ collapse rest := by
  induction first with
  | nil => rfl
  | cons c first ih =>
      have inner := ih cut.of_cons
      cases blank : isWhiteSpace c with
      | false =>
          rw [List.cons_append, collapse_cons_visible blank, collapse_cons_visible blank, inner,
            List.cons_append]
      | true =>
          rw [List.cons_append, collapse_cons_blank blank, collapse_cons_blank blank, inner]
          cases first with
          | nil =>
              have stops : startsBlank rest = false := by
                simpa [IsCut, endsBlank, blank] using cut
              rw [List.nil_append, if_neg (by simp [stops]), if_neg (by simp [startsBlank])]
              rfl
          | cons d first =>
              have same : startsBlank (d :: first ++ rest) = startsBlank (d :: first) := rfl
              rw [same]
              split <;> rfl

/-- A word without white space starts a text as it starts the collapsed one, by induction over the
word.
-/
theorem prefix_collapse_iff {word : List Char} (visible : ∀ c ∈ word, isWhiteSpace c = false)
    : word <+: collapse text ↔ word <+: text := by
  induction word generalizing text with
  | nil => simp
  | cons c word ih =>
      obtain ⟨shown, others⟩ := List.forall_mem_cons.mp visible
      cases text with
      | nil => simp
      | cons d rest =>
          cases blank : isWhiteSpace d with
          | false =>
              rw [collapse_cons_visible blank, List.cons_prefix_cons, List.cons_prefix_cons,
                ih others]
          | true =>
              have space : isWhiteSpace ' ' = true := by decide
              have differs : c ≠ d := by
                rintro rfl
                simp [shown] at blank
              have other : c ≠ ' ' := by
                rintro rfl
                simp [shown] at space
              have starts := head?_collapse (d :: rest)
              rw [List.head?_cons, Option.map_some, blank, if_pos rfl] at starts
              obtain ⟨more, isMore⟩ := List.head?_eq_some_iff.mp starts
              simp [isMore, List.cons_prefix_cons, differs, other]

/-- A text without blanks stays as it is, by induction over it. -/
theorem collapse_of_visible (visible : ∀ c ∈ text, isWhiteSpace c = false)
    : collapse text = text := by
  induction text with
  | nil => rfl
  | cons c rest ih =>
      obtain ⟨shown, others⟩ := List.forall_mem_cons.mp visible
      rw [collapse_cons_visible shown, ih others]

end DocSurvey.Text
