/-! Facts about fixed characters are found by looking at each of them: those of a list, or all of
ASCII.
-/

namespace DocSurvey.Text

/-- What is checked for one after another holds of all. -/
theorem forall_mem_of_all {α : Type} {holds : α → Prop} [DecidablePred holds] {items : List α}
    (checked : (items.all fun item => decide (holds item)) = true)
    : ∀ item ∈ items, holds item := by
  simpa using checked

/-- A fact about the ASCII characters holds if it holds of the first 128 numbers. -/
theorem forall_ascii (holds : Char → Prop) (all : ∀ code : Fin 128, holds (Char.ofNat code))
    {c : Char} (ascii : c.toNat < 128)
    : holds c := by
  have found := all ⟨c.toNat, ascii⟩
  rwa [Char.ofNat_toNat] at found

end DocSurvey.Text
