import DocSurvey.ApiDocs
import DocSurvey.Proofs.Files.Walk
import DocSurvey.Proofs.Glob.Match

/-! What indicates API documentation. An indicator without marks of patterns is found wherever its
text occurs in the path of something in the repository, across directories and in whatever case.
-/

namespace DocSurvey

-----------------------------------------------------------------------------------------
-- Reading the pattern of an indicator
-----------------------------------------------------------------------------------------

namespace Glob

/-- A character that stands for itself in a pattern. -/
def IsPlain (c : Char) : Prop :=
  c ∉ ['*', '?', '[', ']', '{', '}', '\\']

instance (c : Char) : Decidable (IsPlain c) :=
  inferInstanceAs (Decidable (c ∉ _))

/-- A character without a meaning of its own is read as itself. -/
theorem step_of_isPlain {c : Char} (plain : IsPlain c) (current : List Token)
    (previous : Option Char) (rest : List Char)
    : Reading.step ⟨[], current, previous, c :: rest⟩ c
      = .ok ⟨[], .literal (bytesOf c) :: current, some c, rest⟩ := by
  simp only [IsPlain, List.mem_cons, List.not_mem_nil, or_false, not_or] at plain
  obtain ⟨star, question, opening, _, group, groupEnd, escape⟩ := plain
  by_cases comma : c = ','
  · subst comma
    rfl
  · simp [Reading.step, Reading.advance, Reading.push]

/-- Characters that stand for themselves are read one by one, up to the star at the end. -/
theorem readFrom_plain {word : List Char} (plain : ∀ c ∈ word, IsPlain c) {budget : Nat}
    (enough : word.length + 2 ≤ budget) (current : List Token) (previous : Option Char)
    : readFrom budget ⟨[], current, previous, word ++ ['*']⟩
      = .ok (current.reverse ++ word.map (fun c => .literal (bytesOf c)) ++ [.zeroOrMore]) := by
  induction word generalizing budget current previous with
  | nil =>
      obtain ⟨budget, rfl⟩ := Nat.exists_eq_add_of_le' enough
      simp [readFrom, Reading.step, Reading.advance, Reading.push]
  | cons c rest ih =>
      obtain ⟨first, later⟩ := List.forall_mem_cons.mp plain
      obtain ⟨budget, rfl⟩ := Nat.exists_eq_add_of_le' (Nat.le_trans (by simp) enough : 1 ≤ budget)
      have left : rest.length + 2 ≤ budget := by
        rw [List.length_cons] at enough
        omega
      rw [List.cons_append, readFrom]
      simp only [step_of_isPlain first, ih later left, List.map_cons, List.reverse_cons,
        List.append_assoc, List.cons_append, List.nil_append]

/-- Around a text that stands for itself the stars are read as those of a fragment. -/
theorem read_fragment {word : List Char} (plain : ∀ c ∈ word, IsPlain c) (nonempty : word ≠ [])
    : read (String.ofList (['*', '*', '/', '*'] ++ word ++ ['*'])) = .ok (fragment word) := by
  obtain ⟨first, rest, rfl⟩ := List.exists_cons_of_ne_nil nonempty
  have notStar : first ≠ '*' := fun same => plain first (by simp) (by simp [same])
  have leading : ∀ rest, Reading.step ⟨[], [], none, '*' :: '*' :: '/' :: rest⟩ '*'
      = .ok ⟨[], [.leading], some '/', rest⟩ := fun _ => rfl
  have star : Reading.step ⟨[], [.leading], some '/', '*' :: (first :: rest ++ ['*'])⟩ '*'
      = .ok ⟨[], [.zeroOrMore, .leading], some '*', first :: rest ++ ['*']⟩ := by
    simp [Reading.step, Reading.advance, Reading.push, notStar]
  have size : (String.ofList (['*', '*', '/', '*'] ++ (first :: rest) ++ ['*'])).length + 1
      = (first :: rest).length + 4 + 1 + 1 := by
    rw [String.length_ofList, List.length_append, List.length_append]
    simp only [List.length_cons, List.length_nil]
    omega
  have spelled : (String.ofList (['*', '*', '/', '*'] ++ (first :: rest) ++ ['*'])).toList
      = '*' :: '*' :: '/' :: '*' :: (first :: rest ++ ['*']) := by
    simp
  rw [read, size, spelled, readFrom]
  simp only [leading]
  rw [readFrom]
  simp only [star]
  exact readFrom_plain plain (Nat.add_le_add_left (by decide) _) [.zeroOrMore, .leading] (some '*')

end Glob

namespace ApiDocs

/-- An indicator that is a text to be looked for: not empty, and without marks of patterns. -/
def IsText (indicator : String) : Prop :=
  indicator ≠ "" ∧ ∀ c ∈ indicator.toList, Glob.IsPlain c

instance (indicator : String) : Decidable (IsText indicator) :=
  decidable_of_iff (indicator ≠ "" ∧ indicator.toList.all (fun c => decide (Glob.IsPlain c)) = true)
    (by simp [IsText])

/-- An indicator of such characters finds its text wherever that stands in a name. -/
theorem compile_of_isText {indicator : String} (isText : IsText indicator)
    : compile indicator = .ok (Glob.fragment indicator.toList) := by
  have spelled : patternOf indicator
      = String.ofList (['*', '*', '/', '*'] ++ indicator.toList ++ ['*']) := by
    rw [← String.toList_inj]
    simp [patternOf, toString]
  have nonempty : indicator.toList ≠ [] := by simpa using isText.1
  rw [compile, spelled, Glob.read_fragment isText.2 nonempty]
  rfl

/-- Indicators that are of use one by one are of use together, by induction over them. -/
theorem compileAll_of_forall {indicators : List String} {compiled : String → List Glob.Token}
    (each : ∀ indicator ∈ indicators, compile indicator = .ok (compiled indicator))
    : compileAll indicators = .ok (indicators.map compiled) := by
  unfold compileAll
  induction indicators with
  | nil => rfl
  | cons indicator rest ih =>
      obtain ⟨first, later⟩ := List.forall_mem_cons.mp each
      rw [List.mapM_cons, first, ih later]
      rfl

/-- All indicators of such characters can be compiled. -/
theorem compileAll_of_isText {indicators : List String}
    (texts : ∀ indicator ∈ indicators, IsText indicator)
    : compileAll indicators
      = .ok (indicators.map fun indicator => Glob.fragment indicator.toList) :=
  compileAll_of_forall fun indicator member => compile_of_isText (texts indicator member)

-----------------------------------------------------------------------------------------
-- Paths and those above them
-----------------------------------------------------------------------------------------

/-- A slash in a path stands between the names before it and those behind it, by induction over the
names.
-/
theorem intercalate_split {names : Place} (named : ∀ name ∈ names, Path.IsName name)
    {left right : List Char} (split : ("/".intercalate names).toList = left ++ '/' :: right)
    : ∃ before behind,
        names = before ++ behind
        ∧ before ≠ [] ∧ behind ≠ []
        ∧ ("/".intercalate before).toList = left := by
  induction names generalizing left with
  | nil => simp at split
  | cons name rest ih =>
      obtain ⟨first, later⟩ := List.forall_mem_cons.mp named
      cases rest with
      | nil =>
          have inside : '/' ∈ name.toList := by
            have whole : name.toList = left ++ '/' :: right := by simpa using split
            simp [whole]
          exact absurd inside first.2.1
      | cons next others =>
          have joined : name.toList ++ '/' :: ("/".intercalate (next :: others)).toList
              = left ++ '/' :: right := by
            rw [← split, String.intercalate_cons_cons]
            simp
          -- The slash stands behind the first name, as no slash can stand in it.
          rcases List.append_eq_append_iff.mp joined
            with ⟨beyond, rfl, inner⟩ | ⟨beyond, whole, inner⟩
          · cases beyond with
            | nil => exact ⟨[name], next :: others, rfl, by simp, by simp, by simp⟩
            | cons mark beyond =>
                obtain ⟨rfl, deeper⟩ := List.cons.inj inner
                obtain ⟨before, behind, same, nonempty, below, spelled⟩ := ih later deeper
                refine ⟨name :: before, behind, by rw [same]; rfl, by simp, below, ?_⟩
                rw [String.intercalate_cons_of_ne_nil nonempty]
                simp [spelled]
          · cases beyond with
            | nil => exact ⟨[name], next :: others, rfl, by simp, by simp, by simpa using whole⟩
            | cons mark beyond =>
                obtain ⟨rfl, _⟩ := List.cons.inj inner
                exact absurd (by simp [whole]) first.2.1

-----------------------------------------------------------------------------------------
-- What indicates documentation
-----------------------------------------------------------------------------------------

variable {tree : FileTree}

/-- The text of the indicator occurs in the path, in whatever case. -/
def Occurs (indicator path : String) : Prop :=
  indicator.toList.map Char.toLower <:+: path.toList.map Char.toLower

/-- Documentation is present if the path of something below the repository matches a pattern. -/
theorem isPresent_eq_true_iff (isTree : tree.IsTree) (patterns : List (List Glob.Token))
    (repository : String)
    : isPresent tree patterns repository = true
      ↔ ∃ names node,
          names ≠ []
          ∧ tree.standsAt? repository names = some node
          ∧ indicates patterns ("/".intercalate names) = true := by
  unfold isPresent
  rw [List.any_eq_true]
  constructor
  · rintro ⟨⟨names, node⟩, member, kept⟩
    obtain ⟨below, indicated⟩ : names ≠ [] ∧ indicates patterns ("/".intercalate names) = true := by
      simpa using kept
    exact ⟨names, node, below, (isTree.mem_found below).mp member, indicated⟩
  · rintro ⟨names, node, below, stands, indicated⟩
    exact ⟨⟨names, node⟩, (isTree.mem_found below).mpr stands, by simp [below, indicated]⟩

/-- Whether something stands at the places that are indicated decides whether documentation is
present.
-/
theorem isPresent_congr {other : FileTree} (isTree : tree.IsTree) (isOther : other.IsTree)
    {patterns : List (List Glob.Token)} {repository : String}
    (same : ∀ names,
      names ≠ []
      → indicates patterns ("/".intercalate names) = true
      → ((other.standsAt? repository names).isSome
        ↔ (tree.standsAt? repository names).isSome))
    : isPresent other patterns repository = isPresent tree patterns repository := by
  rw [Bool.eq_iff_iff, isPresent_eq_true_iff isTree, isPresent_eq_true_iff isOther]
  refine exists_congr fun names => ?_
  simp only [exists_and_left, exists_and_right, ← Option.isSome_iff_exists]
  refine and_congr_right fun below => and_congr_left fun indicated => ?_
  exact same names below indicated

/-- The patterns of texts match a path that one of them occurs in with no slash behind. -/
theorem indicates_fragments {indicators : List String}
    (texts : ∀ indicator ∈ indicators, IsText indicator) (path : String)
    : indicates (indicators.map fun indicator => Glob.fragment indicator.toList) path = true
      ↔ ∃ indicator ∈ indicators, ∃ before behind,
          path.toList.map Char.toLower = before ++ indicator.toList.map Char.toLower ++ behind
          ∧ '/' ∉ behind := by
  simp only [indicates, List.any_map, List.any_eq_true, Function.comp]
  refine exists_congr fun indicator => and_congr_right fun member => ?_
  have nonempty : indicator.toList ≠ [] := by simpa using (texts indicator member).1
  exact Glob.isMatch_fragment nonempty path

/-- Where a text occurs in a path, it occurs at the end of that path or of one further up, save
what is left of a name: the path is cut at the first slash behind the text.
-/
theorem exists_path_above (isTree : tree.IsTree) {repository : String} {names : Place} {node : Node}
    (below : names ≠ []) (stands : tree.standsAt? repository names = some node) {indicator : String}
    (occurs : Occurs indicator ("/".intercalate names))
    : ∃ above reached,
        above ≠ []
        ∧ tree.standsAt? repository above = some reached
        ∧ ∃ before behind,
            ("/".intercalate above).toList.map Char.toLower
              = before ++ indicator.toList.map Char.toLower ++ behind
            ∧ '/' ∉ behind := by
  obtain ⟨before, behind, whole⟩ := occurs
  by_cases inside : '/' ∈ behind
  · obtain ⟨kept, others, rfl, free⟩ := List.eq_append_cons_of_mem inside
    have cut : ("/".intercalate names).toList.map Char.toLower
        = (before ++ indicator.toList.map Char.toLower ++ kept) ++ '/' :: others := by
      rw [← whole]
      simp
    -- No other character becomes a slash in lower case, so that the path itself can be cut there.
    obtain ⟨left, right, spelled, lowered, rightLowered⟩ := List.map_eq_append_iff.mp cut
    obtain ⟨mark, rest, rfl, isSlash, _⟩ := List.map_eq_cons_iff.mp rightLowered
    obtain rfl := Glob.toLower_eq_slash isSlash
    have named := isTree.isName_of_standsAt? stands
    obtain ⟨above, further, rfl, nonempty, more, joined⟩ := intercalate_split named spelled
    refine ⟨above, .directory, nonempty, isTree.standsAt?_above nonempty more stands, ?_⟩
    exact ⟨before, kept, by rw [joined, lowered], free⟩
  · exact ⟨names, node, below, stands, before, behind, whole.symm, inside⟩

/-- Indicators that are texts are of use, and documentation is present exactly if something below
the repository has a path, as seen from there, in which one of them occurs. The order of the
entries does not matter.
-/
theorem isPresent_iff_occurs (isTree : tree.IsTree) (repository : String) {indicators : List String}
    (texts : ∀ indicator ∈ indicators, IsText indicator)
    : ∃ patterns,
        compileAll indicators = .ok patterns
        ∧ (isPresent tree patterns repository = true
          ↔ ∃ names node,
              names ≠ []
              ∧ tree.standsAt? repository names = some node
              ∧ ∃ indicator ∈ indicators, Occurs indicator ("/".intercalate names))
        ∧ ∀ entries,
            entries.Perm tree.entries
            → isPresent ⟨entries⟩ patterns repository = isPresent tree patterns repository := by
  refine ⟨_, compileAll_of_isText texts, ?_, ?_⟩
  · rw [isPresent_eq_true_iff isTree]
    constructor
    · rintro ⟨names, node, below, stands, indicated⟩
      obtain ⟨indicator, member, before, behind, whole, _⟩ :=
        (indicates_fragments texts _).mp indicated
      exact ⟨names, node, below, stands, indicator, member, before, behind, whole.symm⟩
    · rintro ⟨names, node, below, stands, indicator, member, occurs⟩
      obtain ⟨above, reached, nonempty, standsAbove, found⟩ :=
        exists_path_above isTree below stands occurs
      refine ⟨above, reached, nonempty, standsAbove, ?_⟩
      exact (indicates_fragments texts _).mpr ⟨indicator, member, found⟩
  · intro entries shuffled
    rw [Bool.eq_iff_iff, isPresent_eq_true_iff isTree, isPresent_eq_true_iff (isTree.perm shuffled)]
    simp only [FileTree.standsAt?_congr (isTree.get?_perm shuffled)]

/-- A repository with API documentation in a directory of a directory. -/
def handbook : FileTree :=
  ⟨[(["app"], .directory),
    (["app", "Docs"], .directory),
    (["app", "Docs", "API"], .directory),
    (["app", "Docs", "API", "intro.md"], .file (some "")),
    (["app", "guide"], .link "Docs")]⟩

/-- Two indicators, and a path of two components that one of them finds. -/
theorem isPresent_in_handbook
    : handbook.IsTree
      ∧ (∀ indicator ∈ ["openapi", "docs/api"], IsText indicator)
      ∧ ∃ patterns,
          compileAll ["openapi", "docs/api"] = .ok patterns
          ∧ isPresent handbook patterns "app" = true := by
  have isTree : handbook.IsTree := by decide +kernel
  have texts : ∀ indicator ∈ ["openapi", "docs/api"], IsText indicator := by decide +kernel
  obtain ⟨patterns, compiled, present, _⟩ := isPresent_iff_occurs isTree "app" texts
  have stands : handbook.standsAt? "app" ["Docs", "API"] = some .directory := by decide +kernel
  have occurs : Occurs "docs/api" ("/".intercalate ["Docs", "API"]) := ⟨[], [], by decide +kernel⟩
  exact ⟨isTree, texts, patterns, compiled,
    present.mpr ⟨_, _, by simp, stands, "docs/api", by simp, occurs⟩⟩

end ApiDocs

end DocSurvey
