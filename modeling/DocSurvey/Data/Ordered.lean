/-! Lists of keys and values in the order of their keys. Main statements: the value put under a
key is found there, no other key is touched, the order is kept, and no pair is lost where the keys
are distinct.
-/

namespace DocSurvey.Data

/-- Puts a value under a key, in the place of an older one. -/
def insertByKey {κ α : Type} [LT κ] [DecidableLT κ] [DecidableEq κ] (key : κ) (value : α)
    : List (κ × α) → List (κ × α)
  | [] => [(key, value)]
  | (other, found) :: rest =>
      if key = other then
        (key, value) :: rest
      else if key < other then
        (key, value) :: (other, found) :: rest
      else
        (other, found) :: insertByKey key value rest

/-- The pairs in the order of their keys; of two pairs with one key the later one counts. -/
def orderedByKey {κ α : Type} [LT κ] [DecidableLT κ] [DecidableEq κ] (pairs : List (κ × α))
    : List (κ × α) :=
  pairs.foldl (fun kept (key, value) => insertByKey key value kept) []

/-- What is put under a key is found under it. -/
theorem lookup_insertByKey_self {κ α : Type} [LT κ] [DecidableLT κ] [DecidableEq κ] [BEq κ]
    [LawfulBEq κ] (key : κ) (value : α) (pairs : List (κ × α))
    : (insertByKey key value pairs).lookup key = some value := by
  induction pairs with
  | nil => simp [insertByKey]
  | cons head rest ih =>
      obtain ⟨other, found⟩ := head
      unfold insertByKey
      split
      · simp
      · split
        · simp
        · rename_i differs _
          simpa [List.lookup_cons, beq_eq_false_iff_ne.mpr differs] using ih

/-- What is put under a key changes nothing under another one. -/
theorem lookup_insertByKey_of_ne {κ α : Type} [LT κ] [DecidableLT κ] [DecidableEq κ] [BEq κ]
    [LawfulBEq κ] {key other : κ} (value : α) (pairs : List (κ × α)) (differs : other ≠ key)
    : (insertByKey key value pairs).lookup other = pairs.lookup other := by
  have unequal : (other == key) = false := beq_eq_false_iff_ne.mpr differs
  induction pairs with
  | nil => simp [insertByKey, List.lookup_cons, unequal]
  | cons head rest ih =>
      obtain ⟨first, found⟩ := head
      unfold insertByKey
      split
      · rename_i same
        subst same
        simp [List.lookup_cons, unequal]
      · split
        · simp [List.lookup_cons, unequal]
        · simp [List.lookup_cons, ih]

/-- Where the keys are distinct, a pair is found under its key: no pair before it has the same
one.
-/
theorem lookup_eq_some_of_mem {κ α : Type} [BEq κ] [LawfulBEq κ] {pairs : List (κ × α)} {key : κ}
    {value : α} (distinct : (pairs.map Prod.fst).Nodup) (member : (key, value) ∈ pairs)
    : pairs.lookup key = some value := by
  obtain ⟨before, after, split⟩ := List.append_of_mem member
  refine List.lookup_eq_some_iff.mpr ⟨before, after, split, fun pair among => ?_⟩
  have apart : pair.1 ≠ key := by
    rw [split, List.map_append, List.nodup_append] at distinct
    exact distinct.2.2 pair.1 (List.mem_map_of_mem among) key (by simp)
  simpa using Ne.symm apart

theorem mem_of_lookup_eq_some {κ α : Type} [BEq κ] [LawfulBEq κ] {pairs : List (κ × α)} {key : κ}
    {value : α} (found : pairs.lookup key = some value)
    : (key, value) ∈ pairs := by
  obtain ⟨before, after, split, _⟩ := List.lookup_eq_some_iff.mp found
  simp [split]

-----------------------------------------------------------------------------------------
-- The order of the keys
-----------------------------------------------------------------------------------------

section Order

variable {κ α : Type} [LT κ] [DecidableLT κ] [DecidableEq κ] {key : κ} {value : α}
  {pairs : List (κ × α)}

/-- A pair among those with one put in is that one or an old one. -/
theorem mem_insertByKey {pair : κ × α} (member : pair ∈ insertByKey key value pairs)
    : pair = (key, value) ∨ pair ∈ pairs := by
  fun_induction insertByKey key value pairs with
  | case1 => exact .inl (List.mem_singleton.mp member)
  | case2 found rest => exact (List.mem_cons.mp member).imp id (List.mem_cons_of_mem _)
  | case3 other found rest => exact List.mem_cons.mp member
  | case4 other found rest differs later ih =>
      rcases List.mem_cons.mp member with rfl | among
      · exact .inr (by simp)
      · exact (ih among).imp id (List.mem_cons_of_mem _)

/-- Under a new key a pair is added to those that are there, by induction over those before it. -/
theorem insertByKey_perm (fresh : key ∉ pairs.map Prod.fst)
    : (insertByKey key value pairs).Perm ((key, value) :: pairs) := by
  fun_induction insertByKey key value pairs with
  | case1 => exact .refl _
  | case2 found rest => simp at fresh
  | case3 other found rest => exact .refl _
  | case4 other found rest _ _ ih =>
      have later : key ∉ rest.map Prod.fst := fun member => fresh (List.mem_cons_of_mem _ member)
      exact ((ih later).cons _).trans (.swap _ _ _)

/-- Pairs with new and distinct keys are added to those that are there, by induction over them. -/
theorem insertAll_perm {kept : List (κ × α)} (distinct : ((pairs ++ kept).map Prod.fst).Nodup)
    : (pairs.foldl (fun kept (key, value) => insertByKey key value kept) kept).Perm
        (pairs ++ kept) := by
  induction pairs generalizing kept with
  | nil => exact .refl kept
  | cons pair rest ih =>
      obtain ⟨key, value⟩ := pair
      have apart := List.nodup_cons.mp distinct
      have fresh : key ∉ kept.map Prod.fst := fun member =>
        apart.1 (List.map_append ▸ List.mem_append_right _ member)
      have put : (rest ++ insertByKey key value kept).Perm ((key, value) :: (rest ++ kept)) :=
        ((insertByKey_perm fresh).append_left rest).trans List.perm_middle
      exact (ih ((put.map Prod.fst).nodup_iff.mpr distinct)).trans put

/-- No pair is lost where the keys are distinct. -/
theorem orderedByKey_perm (distinct : (pairs.map Prod.fst).Nodup)
    : (orderedByKey pairs).Perm pairs := by
  have put := insertAll_perm
    (show ((pairs ++ []).map Prod.fst).Nodup by rwa [List.append_nil])
  rwa [List.append_nil] at put

/-- The keys of the pairs grow. -/
def IsOrdered (pairs : List (κ × α)) : Prop :=
  pairs.Pairwise fun first second => first.1 < second.1

/-- A pair is put where its key belongs, by induction over those before it. -/
theorem IsOrdered.insertByKey [LE κ] [Std.IsLinearOrder κ] [Std.LawfulOrderLT κ]
    (ordered : IsOrdered pairs) (key : κ) (value : α)
    : IsOrdered (insertByKey key value pairs) := by
  unfold IsOrdered at *
  fun_induction Data.insertByKey key value pairs with
  | case1 => simp
  | case2 found rest =>
      obtain ⟨below, later⟩ := List.pairwise_cons.mp ordered
      exact List.pairwise_cons.mpr ⟨below, later⟩
  | case3 other found rest _ smaller =>
      obtain ⟨below, later⟩ := List.pairwise_cons.mp ordered
      refine List.pairwise_cons.mpr ⟨?_, ordered⟩
      intro pair member
      rcases List.mem_cons.mp member with rfl | among
      · exact smaller
      · exact Std.lt_trans smaller (below pair among)
  | case4 other found rest differs notSmaller ih =>
      obtain ⟨below, later⟩ := List.pairwise_cons.mp ordered
      refine List.pairwise_cons.mpr ⟨?_, ih later⟩
      intro pair member
      rcases mem_insertByKey member with rfl | among
      · rcases Std.lt_trichotomy key other with smaller | same | greater
        · exact absurd smaller notSmaller
        · exact absurd same differs
        · exact greater
      · exact below pair among

omit [DecidableLT κ] [DecidableEq κ] in
/-- Keys in order are distinct. -/
theorem IsOrdered.distinct [LE κ] [Std.IsLinearOrder κ] [Std.LawfulOrderLT κ]
    (ordered : IsOrdered pairs)
    : (pairs.map Prod.fst).Nodup := by
  refine List.pairwise_map.mpr (List.Pairwise.imp ?_ ordered)
  intro first second smaller same
  exact Std.lt_irrefl (same ▸ smaller)

/-- Putting in any number of pairs keeps the order, by induction over them. -/
theorem IsOrdered.insertAll [LE κ] [Std.IsLinearOrder κ] [Std.LawfulOrderLT κ]
    {kept : List (κ × α)} (ordered : IsOrdered kept) (pairs : List (κ × α))
    : IsOrdered (pairs.foldl (fun kept (key, value) => Data.insertByKey key value kept) kept) := by
  induction pairs generalizing kept with
  | nil => exact ordered
  | cons pair rest ih => exact ih (ordered.insertByKey pair.1 pair.2)

theorem isOrdered_orderedByKey [LE κ] [Std.IsLinearOrder κ] [Std.LawfulOrderLT κ]
    (pairs : List (κ × α))
    : IsOrdered (orderedByKey pairs) :=
  IsOrdered.insertAll .nil pairs

/-- A pair that is there already is put where it is, by induction over the pairs before it. -/
theorem IsOrdered.insertByKey_of_mem [LE κ] [Std.IsLinearOrder κ] [Std.LawfulOrderLT κ]
    (ordered : IsOrdered pairs) (member : (key, value) ∈ pairs)
    : Data.insertByKey key value pairs = pairs := by
  induction pairs with
  | nil => simp at member
  | cons pair rest ih =>
      obtain ⟨other, found⟩ := pair
      obtain ⟨below, later⟩ := List.pairwise_cons.mp ordered
      rcases List.mem_cons.mp member with same | among
      · obtain ⟨rfl, rfl⟩ := Prod.mk.inj same
        simp [Data.insertByKey]
      · have greater : other < key := below _ among
        have differs : key ≠ other := fun same => Std.lt_irrefl (same ▸ greater)
        have notSmaller : ¬ key < other := fun smaller =>
          Std.lt_irrefl (Std.lt_trans smaller greater)
        simp [Data.insertByKey, differs, notSmaller, ih later among]

omit [DecidableLT κ] [DecidableEq κ] in
/-- The order leaves no choice: the same pairs are the same list. -/
theorem IsOrdered.eq_of_perm [LE κ] [Std.IsLinearOrder κ] [Std.LawfulOrderLT κ]
    {others : List (κ × α)} (ordered : IsOrdered pairs) (otherOrdered : IsOrdered others)
    (same : pairs.Perm others)
    : pairs = others := by
  refine same.eq_of_pairwise ?_ ordered otherOrdered
  intro first second _ _ smaller greater
  exact absurd (Std.lt_trans smaller greater) Std.lt_irrefl

omit [DecidableLT κ] [DecidableEq κ] in
/-- The first of ordered pairs is the one with the least key. -/
theorem IsOrdered.head?_eq_some_iff [LE κ] [Std.IsLinearOrder κ] [Std.LawfulOrderLT κ]
    {pair : κ × α} (ordered : IsOrdered pairs)
    : pairs.head? = some pair ↔ pair ∈ pairs ∧ ∀ other ∈ pairs, pair.1 ≤ other.1 := by
  cases pairs with
  | nil => simp
  | cons first rest =>
      have below := (List.pairwise_cons.mp ordered).1
      rw [List.head?_cons, Option.some.injEq]
      constructor
      · rintro rfl
        refine ⟨List.mem_cons_self, fun other member => ?_⟩
        rcases List.mem_cons.mp member with rfl | later
        · exact Std.le_refl _
        · exact Std.le_of_lt (below other later)
      · rintro ⟨member, least⟩
        rcases List.mem_cons.mp member with same | later
        · exact same.symm
        · exact absurd (below pair later) (Std.not_lt.mpr (least first List.mem_cons_self))

end Order

end DocSurvey.Data
