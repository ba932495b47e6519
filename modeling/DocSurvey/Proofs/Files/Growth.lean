import DocSurvey.Proofs.Files.Plain

/-! Trees that grow, links in them included. Whatever a path led to before something was added, it
leads to still: no step finds anything else where something stood. Main statement: what names lead
to from where a path starts is kept.
-/

namespace DocSurvey.FileTree

variable {tree other : FileTree}

/-- Everything that stands in the tree stands in the other one too. -/
def IsWithin (tree other : FileTree) : Prop :=
  ∀ place node, tree.get? place = some node → other.get? place = some node

/-- Entries that are added take nothing away. -/
theorem IsTree.isWithin (isTree : tree.IsTree) (isOther : other.IsTree)
    (more : tree.entries ⊆ other.entries)
    : tree.IsWithin other := by
  intro place node stands
  by_cases below : place = []
  · simpa [below] using stands
  · exact (isOther.get?_eq_some_iff below).mpr (more ((isTree.get?_eq_some_iff below).mp stands))

/-- Steps come to a stop at something that stands in the tree. -/
def Stop.IsTaken (tree : FileTree) : Stop → Prop
  | .place last => (tree.get? last).isSome = true
  | .link _ _ _ => True

namespace IsWithin

variable (within : tree.IsWithin other)

include within

/-- Steps that stop at something stop there in the grown tree, by induction along them. -/
theorem advance {follow : Bool} {way : List Step} {start : Place} {stop : Stop}
    (stops : tree.advance follow way start = .ok stop) (taken : stop.IsTaken tree)
    : other.advance follow way start = .ok stop := by
  induction way generalizing start with
  | nil => exact stops
  | cons step rest ih =>
      cases step with
      | stay => exact ih stops
      | up => exact ih stops
      | down name =>
          cases stands : tree.get? (start ++ [name]) with
          | none =>
              obtain ⟨_, rfl⟩ : rest = [] ∧ Stop.place (start ++ [name]) = stop := by
                simpa [FileTree.advance, stands, ite_ok_eq_ok_iff] using stops
              simp [Stop.IsTaken, stands] at taken
          | some node =>
              have still := within _ _ stands
              cases node with
              | directory =>
                  simp only [FileTree.advance, stands, still] at stops ⊢
                  exact ih stops
              | file content => simpa only [FileTree.advance, stands, still] using stops
              | link target => simpa only [FileTree.advance, stands, still] using stops

/-- A walk to something leads there in the grown tree, by induction over the links on the way. -/
theorem walk {follow : Bool} {links : Nat} {way : List Step} {start last : Place}
    (leads : tree.walk follow links way start = .ok last)
    (taken : (tree.get? last).isSome = true)
    : other.walk follow links way start = .ok last := by
  induction links generalizing way start with
  | zero =>
      rcases walk_eq_ok_iff.mp leads with stops | ⟨_, _, _, _, more, _⟩
      · exact walk_of_place (within.advance stops taken) 0
      · simp at more
  | succ links ih =>
      rcases walk_eq_ok_iff.mp leads
        with stops | ⟨fewer, above, target, rest, same, stops, goesOn⟩
      · exact walk_of_place (within.advance stops taken) _
      · obtain rfl : links = fewer := Nat.succ.inj same
        exact walk_eq_ok_iff.mpr (.inr ⟨links, above, target, rest, rfl,
          within.advance stops trivial, ih goesOn⟩)

/-- What a path leads to, it leads to in the grown tree. -/
theorem find {follow : Bool} {path : String} {place : Place} {node : Node}
    (found : tree.find follow path = .ok (place, node))
    : other.find follow path = .ok (place, node) := by
  obtain ⟨leads, stands⟩ := find_eq_ok_iff.mp found
  refine find_eq_ok_iff.mpr ⟨?_, within _ _ stands⟩
  unfold locate at leads ⊢
  split at leads
  · simp at leads
  · rename_i usable
    rw [if_neg usable]
    exact within.walk leads (by simp [stands])

/-- What names lead to from where a path starts, they lead to in the grown tree. -/
theorem standsAt? {start : String} {names : Place} {node : Node}
    (stands : tree.standsAt? start names = some node)
    : other.standsAt? start names = some node := by
  by_cases atStart : names = []
  · subst atStart
    rw [standsAt?_nil] at stands ⊢
    cases found : tree.find false start with
    | error cause => simp [found, Except.toOption] at stands
    | ok reached => simpa [within.find found, found, Except.toOption] using stands
  · rw [standsAt?_of_ne_nil _ atStart] at stands ⊢
    split at stands
    · rename_i place leads
      rw [within.find leads]
      exact within _ _ stands
    · simp at stands

end IsWithin

end DocSurvey.FileTree
