import DocSurvey.Declarations.Pattern
import Mathlib.Data.Finset.Card
import Mathlib.Data.List.Pairwise
import Mathlib.Data.List.TakeWhile
import Mathlib.Order.Bounds.Basic

/-! How many places of a text match a pattern. Places are looked for from the left, and each one
found hides those that overlap it. This leaves as many as any choice of places could, if what is
found at a place never ends behind a match that starts later. Patterns in which one character ends
the first part of every match are of this kind.
-/

namespace DocSurvey

-----------------------------------------------------------------------------------------
-- The texts that match a pattern
-----------------------------------------------------------------------------------------

/-- The text is one that the part stands for. -/
def PatternStep.Admits (text : List Char) : PatternStep → Prop
  | .exactly characters => text = characters
  | .run least isMember => least ≤ text.length ∧ ∀ c ∈ text, isMember c = true
  | .upTo characters => characters <:+ text

namespace Pattern

/-- The whole text matches the pattern: it is made up of texts that the parts stand for. -/
def Matches : Pattern → List Char → Prop
  | [], text => text = []
  | step :: rest, text =>
      ∃ first others, text = first ++ others ∧ step.Admits first ∧ Matches rest others

/-- A text matches two patterns in a row if it splits into a match of either. -/
theorem matches_append {left right : Pattern} {text : List Char}
    : Matches (left ++ right) text
      ↔ ∃ first others, text = first ++ others ∧ Matches left first ∧ Matches right others := by
  induction left generalizing text with
  | nil => simp [Matches]
  | cons step rest ih =>
      simp only [List.cons_append, Matches, ih]
      constructor
      · rintro ⟨first, _, rfl, admits, middle, others, rfl, inner, outer⟩
        exact ⟨first ++ middle, others, by simp, ⟨first, middle, rfl, admits, inner⟩, outer⟩
      · rintro ⟨_, others, rfl, ⟨first, middle, rfl, admits, inner⟩, outer⟩
        exact ⟨first, middle ++ others, by simp, admits, middle, others, rfl, inner, outer⟩

end Pattern

/-- The first end of the characters in a text is found, by induction over the text. -/
theorem lengthUpTo_of_suffix {characters text : List Char} {stop : Nat}
    (ends : characters <:+ text.take stop)
    : ∃ length ≤ stop, lengthUpTo characters text = some length := by
  induction text generalizing stop with
  | nil =>
      obtain rfl : characters = [] := by simpa using ends
      exact ⟨0, Nat.zero_le _, rfl⟩
  | cons c rest ih =>
      unfold lengthUpTo
      by_cases here : characters.isPrefixOf (c :: rest) = true
      · have short := ends.length_le
        rw [List.length_take] at short
        exact ⟨characters.length, by omega, by simp [here]⟩
      · cases stop with
        | zero =>
            obtain rfl : characters = [] := by simpa using ends
            simp at here
        | succ stop =>
            rw [List.take_succ_cons] at ends
            rcases List.suffix_cons_iff.mp ends with whole | later
            · have starts : characters <+: c :: rest := by
                rw [whole]
                simpa using List.take_prefix stop rest
              exact absurd (List.isPrefixOf_iff_prefix.mpr starts) here
            · obtain ⟨length, short, found⟩ := ih later
              exact ⟨length + 1, by omega, by simp [here, found]⟩

/-- What is found up to some characters ends in them. -/
theorem suffix_of_lengthUpTo {characters text : List Char} {length : Nat}
    (found : lengthUpTo characters text = some length)
    : length ≤ text.length ∧ characters <:+ text.take length := by
  induction text generalizing length with
  | nil =>
      unfold lengthUpTo at found
      split at found
      · rename_i empty
        obtain rfl : 0 = length := by simpa using found
        simpa using empty
      · simp at found
  | cons c rest ih =>
      unfold lengthUpTo at found
      split at found
      · rename_i here
        obtain rfl : characters.length = length := by simpa using found
        have starts := List.isPrefixOf_iff_prefix.mp here
        exact ⟨starts.length_le, by rw [← List.prefix_iff_eq_take.mp starts]⟩
      · obtain ⟨before, isFound, rfl⟩ := Option.map_eq_some_iff.mp found
        obtain ⟨short, ends⟩ := ih isFound
        exact ⟨by simpa using short, by simpa using ends.trans (List.suffix_cons c _)⟩

/-- What a part takes is a text that it stands for. -/
theorem PatternStep.admits_of_length? {step : PatternStep} {text : List Char} {length : Nat}
    (found : step.length? text = some length)
    : length ≤ text.length ∧ step.Admits (text.take length) := by
  cases step with
  | exactly characters =>
      obtain ⟨starts, rfl⟩ : characters <+: text ∧ characters.length = length := by
        simpa [PatternStep.length?] using found
      exact ⟨starts.length_le, (List.prefix_iff_eq_take.mp starts).symm⟩
  | run least isMember =>
      obtain ⟨enough, rfl⟩ :
          least ≤ (text.takeWhile isMember).length ∧ (text.takeWhile isMember).length = length := by
        simpa [PatternStep.length?] using found
      have starts := List.takeWhile_prefix isMember (l := text)
      rw [PatternStep.Admits, ← List.prefix_iff_eq_take.mp starts]
      exact ⟨starts.length_le, enough, fun c member => List.mem_takeWhile_imp member⟩
  | upTo characters => exact suffix_of_lengthUpTo found

namespace Pattern

/-- What a pattern takes matches it, by induction over its parts. -/
theorem matches_of_length? {pattern : Pattern} {text : List Char} {length : Nat}
    (found : length? pattern text = some length)
    : length ≤ text.length ∧ Matches pattern (text.take length) := by
  induction pattern generalizing text length with
  | nil =>
      obtain rfl : 0 = length := by simpa [length?] using found
      simp [Matches]
  | cons step rest ih =>
      cases isFirst : step.length? text with
      | none => simp [length?, isFirst] at found
      | some first =>
          cases areOthers : length? rest (text.drop first) with
          | none => simp [length?, isFirst, areOthers] at found
          | some others =>
              obtain rfl : first + others = length := by
                simpa [length?, isFirst, areOthers] using found
              obtain ⟨short, admits⟩ := step.admits_of_length? isFirst
              obtain ⟨shortRest, inner⟩ := ih areOthers
              rw [List.length_drop] at shortRest
              exact ⟨by omega, _, _, List.take_add, admits, inner⟩

end Pattern

-----------------------------------------------------------------------------------------
-- Choices of stretches that do not overlap
-----------------------------------------------------------------------------------------

/-- Where a part of a text starts and where it stops, in characters from the text's start. -/
structure Stretch where
  start : Nat
  stop : Nat
  deriving DecidableEq

namespace Stretch

def of (text : List Char) (stretch : Stretch) : List Char :=
  (text.take stretch.stop).drop stretch.start

/-- The stretch lies in the text, and the part that it covers is a match. -/
structure Holds (isMatch : List Char → Prop) (text : List Char) (stretch : Stretch) : Prop where
  ordered : stretch.start ≤ stretch.stop
  inside : stretch.stop ≤ text.length
  covers : isMatch (stretch.of text)

def Apart (one other : Stretch) : Prop :=
  one.stop ≤ other.start ∨ other.stop ≤ one.start

instance : Std.Symm Apart where
  symm _ _ := Or.symm

/-- The stretch in a text with one more character at its start. -/
def later (stretch : Stretch) : Stretch := ⟨stretch.start + 1, stretch.stop + 1⟩

variable {isMatch : List Char → Prop} {text : List Char} {stretch : Stretch}

/-- A stretch that is moved on by a character is the same stretch of the text without it. -/
theorem holds_later {c : Char}
    : stretch.later.Holds isMatch (c :: text) ↔ stretch.Holds isMatch text := by
  have same : stretch.later.of (c :: text) = stretch.of text := by simp [of, later]
  constructor
  · rintro ⟨ordered, inside, covers⟩
    exact ⟨Nat.le_of_succ_le_succ ordered, Nat.le_of_succ_le_succ inside, same ▸ covers⟩
  · rintro ⟨ordered, inside, covers⟩
    exact ⟨Nat.succ_le_succ ordered, Nat.succ_le_succ inside, same.symm ▸ covers⟩

/-- A stretch that does not start with the text is one in the text behind its first character. -/
theorem exists_later (beyond : 0 < stretch.start) (ordered : stretch.start ≤ stretch.stop)
    : ∃ before : Stretch, stretch = before.later := by
  refine ⟨⟨stretch.start - 1, stretch.stop - 1⟩, ?_⟩
  obtain ⟨start, stop⟩ := stretch
  simp only [later, mk.injEq] at *
  omega

/-- What a stretch covers starts the text behind its start. -/
theorem of_append_drop (ordered : stretch.start ≤ stretch.stop)
    : stretch.of text ++ text.drop stretch.stop = text.drop stretch.start := by
  have whole := congrArg (List.drop stretch.start) (List.take_append_drop stretch.stop text)
  by_cases inside : stretch.start ≤ (text.take stretch.stop).length
  · rwa [List.drop_append_of_le_length inside] at whole
  · rw [List.length_take] at inside
    have beyond : text.length ≤ stretch.start := by omega
    simp [of, List.drop_eq_nil_of_le beyond, List.drop_eq_nil_of_le (beyond.trans ordered),
      List.take_of_length_le (beyond.trans ordered)]

/-- A start of the text that holds the stretch is what stands before it, it and what stands behind.
-/
theorem take_append_of_append (text : List Char) (ordered : stretch.start ≤ stretch.stop)
    {length : Nat} (short : stretch.stop ≤ length)
    : text.take stretch.start ++ (stretch.of text ++ (text.take length).drop stretch.stop)
        = text.take length := by
  have ahead : text.take stretch.start = (text.take stretch.stop).take stretch.start := by
    rw [List.take_take, Nat.min_eq_left ordered]
  have inner : text.take stretch.stop = (text.take length).take stretch.stop := by
    rw [List.take_take, Nat.min_eq_left short]
  rw [← List.append_assoc, of, ahead, List.take_append_drop, inner, List.take_append_drop]

end Stretch

/-- Stretches of the text that match and do not overlap. -/
structure IsChoice (isMatch : List Char → Prop) (text : List Char) (chosen : Finset Stretch)
    : Prop where
  holds : ∀ stretch ∈ chosen, stretch.Holds isMatch text
  apart : (chosen : Set Stretch).Pairwise Stretch.Apart

/-- So many stretches can be chosen that match and do not overlap, and no more. -/
def IsMost (isMatch : List Char → Prop) (text : List Char) (most : Nat) : Prop :=
  IsGreatest {number | ∃ chosen, IsChoice isMatch text chosen ∧ chosen.card = number} most

-----------------------------------------------------------------------------------------
-- Looking for matches from the left
-----------------------------------------------------------------------------------------

namespace Pattern

/-- What the pattern takes is a match, it takes something wherever a match starts, and what it takes
at the start of a text ends no later than any match in the text.
-/
structure FindsFirst (pattern : Pattern) (isMatch : List Char → Prop) : Prop where
  filled : ¬ isMatch []
  sound : ∀ {text : List Char} {length : Nat}, length? pattern text = some length
    → length ≤ text.length ∧ isMatch (text.take length)
  complete : ∀ {text : List Char} {stretch : Stretch}, stretch.Holds isMatch text
    → ∃ length, length? pattern (text.drop stretch.start) = some length
  first : ∀ {text : List Char} {length : Nat} {stretch : Stretch},
    length? pattern text = some length → stretch.Holds isMatch text → length ≤ stretch.stop

def placesFrom (pattern : Pattern) (taken : Nat) : List Char → List Stretch
  | [] => []
  | c :: rest =>
      match taken with
      | n + 1 => (pattern.placesFrom n rest).map .later
      | 0 =>
          match length? pattern (c :: rest) with
          | some (n + 1) => ⟨0, n + 1⟩ :: (pattern.placesFrom n rest).map .later
          | _ => (pattern.placesFrom 0 rest).map .later

/-- There are as many places as are counted, by induction over the text. -/
theorem length_placesFrom (pattern : Pattern) (taken : Nat) (text : List Char)
    : (pattern.placesFrom taken text).length = pattern.countFrom taken text := by
  fun_induction countFrom pattern taken text with
  | case1 taken => rfl
  | case2 c rest n ih => simpa [placesFrom] using ih
  | case3 c rest n found ih => simp [placesFrom, found, ih, Nat.add_comm]
  | case4 c rest nothing ih =>
      cases found : length? pattern (c :: rest) with
      | none => simpa [placesFrom, found] using ih
      | some length =>
          cases length with
          | zero => simpa [placesFrom, found] using ih
          | succ n => exact absurd found (nothing n)

variable {pattern : Pattern} {isMatch : List Char → Prop}

/-- What is counted is a match, behind the characters that are taken. By induction over the text,
each case being one of the count.
-/
theorem FindsFirst.of_mem_placesFrom (finds : pattern.FindsFirst isMatch) {taken : Nat}
    {text : List Char} {place : Stretch} (member : place ∈ pattern.placesFrom taken text)
    : taken ≤ place.start ∧ place.Holds isMatch text := by
  induction text generalizing taken place with
  | nil => simp [placesFrom] at member
  | cons c rest ih =>
      have behind : ∀ n, place ∈ (pattern.placesFrom n rest).map Stretch.later
          → n + 1 ≤ place.start ∧ place.Holds isMatch (c :: rest) := by
        intro n later
        obtain ⟨before, inRest, rfl⟩ := List.mem_map.mp later
        obtain ⟨after, holds⟩ := ih inRest
        exact ⟨Nat.succ_le_succ after, Stretch.holds_later.mpr holds⟩
      cases taken with
      | succ n => exact behind n member
      | zero =>
          refine ⟨Nat.zero_le _, ?_⟩
          cases found : length? pattern (c :: rest) with
          | none =>
              simp only [placesFrom, found] at member
              exact (behind 0 member).2
          | some length =>
              cases length with
              | zero =>
                  simp only [placesFrom, found] at member
                  exact (behind 0 member).2
              | succ n =>
                  simp only [placesFrom, found] at member
                  rcases List.mem_cons.mp member with rfl | later
                  · obtain ⟨short, covers⟩ := finds.sound found
                    exact ⟨Nat.zero_le _, short, covers⟩
                  · exact (behind n later).2

/-- What is counted does not overlap, by induction over the text. -/
theorem FindsFirst.placesFrom_apart (finds : pattern.FindsFirst isMatch) (taken : Nat)
    (text : List Char)
    : (pattern.placesFrom taken text).Pairwise fun one other => one.stop ≤ other.start := by
  induction text generalizing taken with
  | nil => exact .nil
  | cons c rest ih =>
      have behind : ∀ n, ((pattern.placesFrom n rest).map Stretch.later).Pairwise
          fun one other => one.stop ≤ other.start := fun n =>
        List.pairwise_map.mpr ((ih n).imp fun apart => Nat.succ_le_succ apart)
      cases taken with
      | succ n => exact behind n
      | zero =>
          cases found : length? pattern (c :: rest) with
          | none => simpa only [placesFrom, found] using behind 0
          | some length =>
              cases length with
              | zero => simpa only [placesFrom, found] using behind 0
              | succ n =>
                  simp only [placesFrom, found]
                  refine List.pairwise_cons.mpr ⟨?_, behind n⟩
                  intro other later
                  obtain ⟨before, inRest, rfl⟩ := List.mem_map.mp later
                  exact Nat.succ_le_succ (finds.of_mem_placesFrom inRest).1

/-- Every match holds the last character of a place that is counted, by induction over the text:
what is found at a place ends no later than any match that is hidden by it.
-/
theorem FindsFirst.exists_place (finds : pattern.FindsFirst isMatch) {taken : Nat}
    {text : List Char} {stretch : Stretch} (holds : stretch.Holds isMatch text)
    (behind : taken ≤ stretch.start)
    : ∃ place ∈ pattern.placesFrom taken text,
        stretch.start < place.stop ∧ place.stop ≤ stretch.stop := by
  induction text generalizing taken stretch with
  | nil =>
      have empty : stretch.of [] = [] := by simp [Stretch.of]
      exact absurd (empty ▸ holds.covers) finds.filled
  | cons c rest ih =>
      have further : ∀ n, n + 1 ≤ stretch.start
          → ∃ place ∈ (pattern.placesFrom n rest).map Stretch.later,
              stretch.start < place.stop ∧ place.stop ≤ stretch.stop := by
        intro n beyond
        obtain ⟨before, rfl⟩ := Stretch.exists_later (by omega) holds.ordered
        obtain ⟨place, member, starts, stops⟩ :=
          ih (Stretch.holds_later.mp holds) (Nat.le_of_succ_le_succ beyond)
        exact ⟨place.later, List.mem_map_of_mem member, Nat.succ_lt_succ starts,
          Nat.succ_le_succ stops⟩
      have beyond : (∀ n, length? pattern (c :: rest) ≠ some (n + 1)) → 1 ≤ stretch.start := by
        intro nothing
        refine Nat.pos_of_ne_zero fun atStart => ?_
        obtain ⟨length, found⟩ := finds.complete holds
        rw [atStart, List.drop_zero] at found
        cases length with
        | zero => exact finds.filled (finds.sound found).2
        | succ n => exact nothing n found
      cases taken with
      | succ n => exact further n behind
      | zero =>
          cases found : length? pattern (c :: rest) with
          | none => simpa only [placesFrom, found] using further 0 (beyond (by simp [found]))
          | some length =>
              cases length with
              | zero => simpa only [placesFrom, found] using further 0 (beyond (by simp [found]))
              | succ n =>
                  simp only [placesFrom, found]
                  by_cases hidden : stretch.start < n + 1
                  · exact ⟨⟨0, n + 1⟩, List.mem_cons_self, hidden, finds.first found holds⟩
                  · obtain ⟨place, member, inside⟩ := further n (by omega)
                    exact ⟨place, List.mem_cons_of_mem _ member, inside⟩

/-- A match is never empty. -/
theorem FindsFirst.start_lt_stop (finds : pattern.FindsFirst isMatch) {text : List Char}
    {stretch : Stretch} (holds : stretch.Holds isMatch text)
    : stretch.start < stretch.stop := by
  refine Nat.lt_of_le_of_ne holds.ordered fun same => finds.filled ?_
  have empty : stretch.of text = [] := by simp [Stretch.of, same]
  exact empty ▸ holds.covers

/-- The places that are counted stop one behind another. -/
theorem FindsFirst.nodup_stops (finds : pattern.FindsFirst isMatch) (text : List Char)
    : ((pattern.placesFrom 0 text).map Stretch.stop).Nodup := by
  refine List.pairwise_map.mpr (List.Pairwise.imp_of_mem ?_ (finds.placesFrom_apart 0 text))
  intro one other _ otherMember ordered
  have filled := finds.start_lt_stop (finds.of_mem_placesFrom otherMember).2
  exact Nat.ne_of_lt (ordered.trans_lt filled)

/-- As many places are counted as can be chosen at all. The last characters of the places counted
tell the matches of any choice apart.
-/
theorem FindsFirst.isMost_count (finds : pattern.FindsFirst isMatch) (text : List Char)
    : IsMost isMatch text (pattern.count text) := by
  have apart := finds.placesFrom_apart 0 text
  have distinct : (pattern.placesFrom 0 text).Nodup := (finds.nodup_stops text).of_map
  constructor
  · refine ⟨(pattern.placesFrom 0 text).toFinset, ⟨?_, ?_⟩, ?_⟩
    · intro place member
      exact (finds.of_mem_placesFrom (List.mem_toFinset.mp member)).2
    · have either : (pattern.placesFrom 0 text).Pairwise Stretch.Apart := apart.imp Or.inl
      intro one member other otherMember differs
      exact either.forall (List.mem_toFinset.mp member) (List.mem_toFinset.mp otherMember) differs
    · rw [List.toFinset_card_of_nodup distinct, length_placesFrom, count]
  · rintro _ ⟨chosen, choice, rfl⟩
    have stabbed : ∀ stretch ∈ chosen, ∃ place ∈ pattern.placesFrom 0 text,
        stretch.start < place.stop ∧ place.stop ≤ stretch.stop :=
      fun stretch member => finds.exists_place (choice.holds stretch member) (Nat.zero_le _)
    choose! stab among inside using stabbed
    have few : chosen.card ≤ (pattern.placesFrom 0 text).toFinset.card := by
      refine Finset.card_le_card_of_injOn stab ?_ ?_
      · intro stretch member
        simpa using among stretch member
      · intro one member other otherMember same
        by_contra differs
        have left := inside one member
        have right := inside other otherMember
        rw [same] at left
        rcases choice.apart member otherMember differs with before | after
        · omega
        · omega
    rwa [List.toFinset_card_of_nodup distinct, length_placesFrom] at few

end Pattern

end DocSurvey
