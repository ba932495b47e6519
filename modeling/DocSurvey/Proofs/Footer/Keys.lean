import DocSurvey.Proofs.Files.Parent
import DocSurvey.Proofs.Footer.Check
import Mathlib.Logic.Relation

/-! The keys of files under a root, whatever way the root and the paths are spelled. Main statement:
the key of a path is what stands behind the root, so that no two places have the same one and the
depth of a place can be told from it; a relative path that is not below the root is its own key but
for its spelling.
-/

namespace DocSurvey

-----------------------------------------------------------------------------------------
-- Spellings of a path
-----------------------------------------------------------------------------------------

namespace Path

/-- The second path is the first one without a part that names nothing: an empty one or a dot,
behind a slash.
-/
inductive Shortens : String → String → Prop where
  | inside (left right : List Char) {part : List Char} (nothing : part ∈ [[], ['.']])
    : Shortens (String.ofList (left ++ '/' :: (part ++ '/' :: right)))
        (String.ofList (left ++ '/' :: right))
  | atEnd {left part : List Char} (filled : left ≠ []) (nothing : part ∈ [[], ['.']])
    : Shortens (String.ofList (left ++ '/' :: part)) (String.ofList left)

/-- Two spellings of a path: slashes that repeat or stand at its end, and dots that stand inside it
or at its end, are put in and left out one after another.
-/
def Respells : String → String → Prop :=
  Relation.EqvGen Shortens

/-- Empty parts and single dots stand for nothing. -/
theorem innerComponent_of_nothing {part : List Char} (nothing : part ∈ [[], ['.']])
    : '/' ∉ part ∧ innerComponent part = none := by
  rcases List.mem_pair.mp nothing with rfl | rfl
  · exact ⟨by simp, rfl⟩
  · exact ⟨by simp, rfl⟩

/-- What stands behind a slash adds the components of its pieces to the same ones before it. -/
theorem exists_components_behind (left : List Char)
    : ∃ ahead, ∀ right,
        components (String.ofList (left ++ '/' :: right))
        = ahead ++ (pieces right).filterMap innerComponent := by
  by_cases filled : left = []
  · refine ⟨[.root], fun right => ?_⟩
    have split : pieces (String.ofList ('/' :: right)).toList = [] :: pieces right := by
      rw [String.toList_ofList, pieces]
    rw [filled, List.nil_append, components_of_pieces (by simp) split]
    rfl
  · exact ⟨_, components_append_slash filled⟩

/-- A part that names nothing is no component. -/
theorem Shortens.components_eq {path short : String} (shortens : Shortens path short)
    : components path = components short := by
  cases shortens with
  | inside left right nothing =>
      obtain ⟨noSlash, names⟩ := innerComponent_of_nothing nothing
      obtain ⟨ahead, behind⟩ := exists_components_behind left
      rw [behind, behind, pieces_append_slash, pieces_of_no_slash noSlash, List.singleton_append,
        List.filterMap_cons_none names]
  | atEnd filled nothing =>
      obtain ⟨noSlash, names⟩ := innerComponent_of_nothing nothing
      rw [components_append_slash filled, pieces_of_no_slash noSlash,
        List.filterMap_cons_none names, List.filterMap_nil, List.append_nil]

/-- All spellings of a path have the same components, by induction along the parts put in and left
out.
-/
theorem Respells.components_eq {path other : String} (respells : Respells path other)
    : components path = components other := by
  induction respells with
  | rel _ _ shortens => exact shortens.components_eq
  | refl _ => rfl
  | symm _ _ _ ih => exact ih.symm
  | trans _ _ _ _ _ first second => exact first.trans second

-----------------------------------------------------------------------------------------
-- Keys of paths that are not below the root
-----------------------------------------------------------------------------------------

/-- A path is written from its components if they do not start with those of the root. -/
theorem relativeKey_of_outside {root path : String}
    (outside : ¬ components root <+: components path)
    : relativeKey root path = written path := by
  have none : relativeTo? root path = none := by
    unfold relativeTo?
    exact if_neg fun starts => outside (List.isPrefixOf_iff_prefix.mp starts)
  rw [relativeKey, none, Option.getD_none, written]

/-- As seen from nowhere the key of a path is the path as it is written from its components. -/
theorem relativeKey_of_empty (path : String) : relativeKey "" path = written path := by
  simp [relativeKey, relativeTo?, components, written]

/-- Writing a path from its components once more changes nothing. -/
theorem written_written (path : String) : written (written path) = written path := by
  have same := components_written path
  unfold written at same ⊢
  rw [same]

end Path

-----------------------------------------------------------------------------------------
-- Keys of every spelling
-----------------------------------------------------------------------------------------

namespace Footer

open DocSurvey.Path

/-- Paths that have names behind the components of the root have the names as their keys, with one
slash between each two of them. Such a key has priority if there are at most two names, and no two
of these paths that lead to different places have the same key. All spellings of the root and of the
path joined from it and the names are such paths. A relative path elsewhere has its own components
for its key, which is its own key from then on.
-/
theorem relativeKey_of_every_spelling
    : (∀ (root path : String) (names : List String),
        names ≠ []
        → (∀ name ∈ names, IsName name)
        → components path = components root ++ names.map .name
        → relativeKey root path = "/".intercalate names
          ∧ (isPriority (relativeKey root path) = true ↔ names.length ≤ 2))
      ∧ (∀ (base root path : String) (names : List String),
          (∀ name ∈ names, IsName name)
          → Respells base root
          → Respells (names.foldl join base) path
          → components path = components root ++ names.map .name)
      ∧ (∀ (root path other : String) (names others : List String),
          names ≠ []
          → others ≠ []
          → (∀ name ∈ names, IsName name)
          → (∀ name ∈ others, IsName name)
          → components path = components root ++ names.map .name
          → components other = components root ++ others.map .name
          → relativeKey root path = relativeKey root other
          → components path = components other)
      ∧ ∀ root path : String,
          isAbsolute path = false
          → ¬ components root <+: components path
          → relativeKey root path = "/".intercalate ((components path).map Component.text)
            ∧ relativeKey "" (relativeKey root path) = relativeKey root path := by
  refine ⟨?_, ?_, ?_, ?_⟩
  · intro root path names filled named below
    have key := relativeKey_of_components below
    rw [key]
    exact ⟨rfl, isPriority_intercalate named filled⟩
  · intro base root path names named sameRoot samePath
    rw [← samePath.components_eq, ← sameRoot.components_eq, components_foldl_join named]
  · intro root path other names others filled filledToo named namedToo below belowToo same
    rw [relativeKey_of_components below, relativeKey_of_components belowToo] at same
    rw [below, belowToo, intercalate_inj named namedToo filled filledToo same]
  · intro root path _ outside
    rw [relativeKey_of_outside outside, relativeKey_of_empty, written_written]
    exact ⟨rfl, rfl⟩

/-- Paths with dots and slashes to spare, and a path outside the root. -/
theorem relativeKey_of_messy_paths
    : components "./docs//a/b.md/." = components "./docs/" ++ ["a", "b.md"].map .name
      ∧ relativeKey "./docs/" "./docs//a/b.md/." = "a/b.md"
      ∧ isPriority (relativeKey "./docs/" "./docs//a/b.md/.") = true
      ∧ isPriority (relativeKey "/" "//a/./b/c.md") = false
      ∧ components "./docs/a/.//b.md" = components "./docs//a/b.md/."
      ∧ relativeKey "/docs" "./x/..//docs/" = "./x/../docs"
      ∧ relativeKey "" "./x/../docs" = "./x/../docs" := by
  obtain ⟨keys, spellings, places, elsewhere⟩ := relativeKey_of_every_spelling
  have named : ∀ name ∈ ["a", "b.md"], IsName name := by decide
  have filled : ["a", "b.md"] ≠ [] := by decide
  have root : Respells "./docs" "./docs/" := by
    have slash : Shortens "./docs/" "./docs" :=
      @Shortens.atEnd "./docs".toList [] (by decide) (by decide)
    exact .symm _ _ (.rel _ _ slash)
  have path : Respells (["a", "b.md"].foldl join "./docs") "./docs//a/b.md/." := by
    have dot : Shortens "./docs//a/b.md/." "./docs//a/b.md" :=
      @Shortens.atEnd "./docs//a/b.md".toList ['.'] (by decide) (by decide)
    have slash : Shortens "./docs//a/b.md" "./docs/a/b.md" :=
      @Shortens.inside "./docs".toList "a/b.md".toList [] (by decide)
    have joined : ["a", "b.md"].foldl join "./docs" = "./docs/a/b.md" := by decide
    rw [joined]
    exact .symm _ _ (.trans _ _ _ (.rel _ _ dot) (.rel _ _ slash))
  have below := spellings "./docs" "./docs/" "./docs//a/b.md/." ["a", "b.md"] named root path
  obtain ⟨key, near⟩ := keys "./docs/" _ ["a", "b.md"] filled named below
  obtain ⟨_, far⟩ := keys "/" "//a/./b/c.md" ["a", "b", "c.md"] (by decide) (by decide) (by decide)
  have deep : isPriority (relativeKey "/" "//a/./b/c.md") = false :=
    Bool.eq_false_iff.mpr fun isNear => absurd (far.mp isNear) (by decide)
  have sameKey : relativeKey "./docs/" "./docs/a/.//b.md"
      = relativeKey "./docs/" "./docs//a/b.md/." := by
    rw [key]
    decide
  have samePlace := places "./docs/" "./docs/a/.//b.md" _ ["a", "b.md"] ["a", "b.md"] filled filled
    named named (by decide) below sameKey
  obtain ⟨outside, again⟩ := elsewhere "/docs" "./x/..//docs/" (by decide) (by decide)
  have spelled : relativeKey "/docs" "./x/..//docs/" = "./x/../docs" := outside.trans (by decide)
  rw [spelled] at again
  exact ⟨below, key, near.mpr (by decide), deep, samePlace, spelled, again⟩

end Footer

end DocSurvey
