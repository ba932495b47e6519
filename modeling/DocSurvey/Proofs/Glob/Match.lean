import DocSurvey.Proofs.Glob.Bytes
import Mathlib.Data.List.Induction

/-! What patterns match. A place in a text is named by the bytes before it; each part of a pattern
leads from the places that are reached to those behind the bytes that it stands for.
-/

namespace DocSurvey.Glob

/-- The place behind the bytes is reached. -/
def Reaches (reached : Reached) (before : List UInt8) : Prop :=
  reached[before.length]? = some true

/-- Each place of the text is reached or not. -/
def Covers (text : List UInt8) (reached : Reached) : Prop :=
  reached.length = text.length + 1

variable {text before : List UInt8} {reached : Reached} {accepts : UInt8 → Bool}

-----------------------------------------------------------------------------------------
-- One step
-----------------------------------------------------------------------------------------

theorem covers_onward (covers : Covers text reached)
    : Covers text (onward accepts text reached) := by
  unfold Covers at *
  simp [onward, covers]

/-- Behind a byte that is accepted stands what was reached before it. -/
theorem reaches_onward_append {init : List UInt8} {byte : UInt8} (within : init ++ [byte] <+: text)
    : Reaches (onward accepts text reached) (init ++ [byte])
      ↔ accepts byte = true ∧ Reaches reached init := by
  obtain ⟨behind, rfl⟩ := within
  have here : (init ++ [byte] ++ behind)[init.length]? = some byte := by simp
  have place : (init ++ [byte]).length = init.length + 1 := by simp
  unfold Reaches onward
  rw [place, List.getElem?_cons_succ, List.getElem?_zipWith, here]
  cases reached[init.length]? <;> simp [and_comm]

/-- A step leads behind an accepted byte, from the place before it. -/
theorem reaches_onward (within : before <+: text)
    : Reaches (onward accepts text reached) before
      ↔ ∃ init byte, before = init ++ [byte] ∧ accepts byte = true ∧ Reaches reached init := by
  rcases List.eq_nil_or_concat before with rfl | ⟨init, byte, rfl⟩
  · simp [Reaches, onward]
  · rw [List.concat_eq_append] at *
    rw [reaches_onward_append within]
    constructor
    · exact fun ⟨accepted, reaches⟩ => ⟨init, byte, rfl, accepted, reaches⟩
    · rintro ⟨other, last, same, accepted, reaches⟩
      obtain ⟨rfl, rfl⟩ : init = other ∧ byte = last := by simpa using same
      exact ⟨accepted, reaches⟩

/-- Steps lead over any number of accepted bytes, by induction over the bytes before the place: they
start at a place that is reached, or before the text if the flag says so.
-/
theorem reaches_spreadFrom (covers : Covers text reached) (within : before <+: text) (flag : Bool)
    : Reaches (spreadFrom accepts flag text reached) before
      ↔ (flag = true ∧ ∀ byte ∈ before, accepts byte = true)
        ∨ ∃ init run,
            before = init ++ run ∧ (∀ byte ∈ run, accepts byte = true) ∧ Reaches reached init := by
  induction before generalizing text reached flag with
  | nil =>
      cases reached with
      | nil => simp [Covers] at covers
      | cons here later =>
          have start : Reaches (spreadFrom accepts flag text (here :: later)) []
              ↔ (here || flag) = true := by
            cases text <;> simp [Reaches, spreadFrom]
          rw [start]
          cases flag <;> simp [Reaches]
  | cons byte before ih =>
      obtain ⟨behind, rfl⟩ := within
      cases reached with
      | nil => simp [Covers] at covers
      | cons here later =>
          have fewer : Covers (before ++ behind) later := by simpa [Covers] using covers
          have next := ih fewer (List.prefix_append before behind) ((here || flag) && accepts byte)
          have step : Reaches (spreadFrom accepts flag (byte :: before ++ behind) (here :: later))
                (byte :: before)
              ↔ Reaches
                  (spreadFrom accepts ((here || flag) && accepts byte) (before ++ behind) later)
                  before := by
            simp [Reaches, spreadFrom]
          rw [step, next]
          -- The steps start before the text, at this place or further on. The flag that is handed
          -- to the rest of the text stands for the first two.
          constructor
          · rintro (⟨started, run⟩ | ⟨init, run, rfl, accepted, reaches⟩)
            · obtain ⟨first, accepted⟩ := (Bool.and_eq_true _ _).mp started
              have whole : ∀ other ∈ byte :: before, accepts other = true :=
                List.forall_mem_cons.mpr ⟨accepted, run⟩
              rcases (Bool.or_eq_true _ _).mp first with reachedHere | flagged
              · exact .inr ⟨[], byte :: before, rfl, whole, by simpa [Reaches] using reachedHere⟩
              · exact .inl ⟨flagged, whole⟩
            · exact .inr ⟨byte :: init, run, rfl, accepted, reaches⟩
          · rintro (⟨flagged, run⟩ | ⟨init, run, split, accepted, reaches⟩)
            · obtain ⟨first, later⟩ := List.forall_mem_cons.mp run
              exact .inl ⟨by simp [flagged, first], later⟩
            · cases init with
              | nil =>
                  obtain rfl : byte :: before = run := split
                  obtain ⟨first, later⟩ := List.forall_mem_cons.mp accepted
                  have reachedHere : here = true := by simpa [Reaches] using reaches
                  exact .inl ⟨by simp [reachedHere, first], later⟩
              | cons other init =>
                  obtain ⟨rfl, rfl⟩ : byte = other ∧ before = init ++ run := by simpa using split
                  exact .inr ⟨init, run, rfl, accepted, reaches⟩

/-- Steps lead from a reached place over any number of accepted bytes. -/
theorem reaches_spread (covers : Covers text reached) (within : before <+: text)
    : Reaches (spread accepts text reached) before
      ↔ ∃ init run,
          before = init ++ run ∧ (∀ byte ∈ run, accepts byte = true) ∧ Reaches reached init := by
  simp [spread, reaches_spreadFrom covers within]

theorem covers_spread (covers : Covers text reached)
    : Covers text (spread accepts text reached) := by
  have kept : ∀ (text : List UInt8) (reached : Reached) (flag : Bool),
      Covers text reached → Covers text (spreadFrom accepts flag text reached) := by
    intro text
    induction text with
    | nil =>
        intro reached flag covers
        obtain ⟨here, rfl⟩ := List.length_eq_one_iff.mp covers
        rfl
    | cons byte rest ih =>
        intro reached flag covers
        cases reached with
        | nil => simp [Covers] at covers
        | cons here later =>
            have fewer : Covers rest later := by simpa [Covers] using covers
            simpa [Covers, spreadFrom] using ih later ((here || flag) && accepts byte) fewer
  exact kept text reached false covers

/-- Two sets reach together what one of them does. -/
theorem reaches_either {other : Reached} (covers : Covers text reached)
    (otherCovers : Covers text other)
    : Reaches (either reached other) before ↔ Reaches reached before ∨ Reaches other before := by
  have same : reached.length = other.length := covers.trans otherCovers.symm
  unfold Reaches either
  rw [List.getElem?_zipWith]
  by_cases within : before.length < reached.length
  · simp [within, same ▸ within]
  · simp [within, same ▸ within]

theorem covers_either {other : Reached} (covers : Covers text reached)
    (otherCovers : Covers text other)
    : Covers text (either reached other) := by
  unfold Covers at *
  simp [either, covers, otherCovers]

theorem covers_behindSlashes (covers : Covers text reached)
    : Covers text (behindSlashes text reached) :=
  covers_onward (covers_spread covers)

/-- Behind a slash further on than a reached place. -/
theorem reaches_behindSlashes (covers : Covers text reached) (within : before <+: text)
    : Reaches (behindSlashes text reached) before
      ↔ ∃ init run, before = init ++ run ++ [slash] ∧ Reaches reached init := by
  unfold behindSlashes
  rw [reaches_onward within]
  constructor
  · rintro ⟨earlier, byte, rfl, closes, reaches⟩
    obtain ⟨init, run, rfl, _, start⟩ :=
      (reaches_spread covers ((List.prefix_append earlier [byte]).trans within)).mp reaches
    obtain rfl : byte = slash := by simpa [isSlash] using closes
    exact ⟨init, run, rfl, start⟩
  · rintro ⟨init, run, rfl, start⟩
    refine ⟨init ++ run, slash, rfl, by simp [isSlash], ?_⟩
    refine (reaches_spread covers ((List.prefix_append _ [slash]).trans within)).mpr ?_
    exact ⟨init, run, rfl, by simp, start⟩

-----------------------------------------------------------------------------------------
-- Parts of a pattern
-----------------------------------------------------------------------------------------

/-- Nothing has been matched yet. -/
def atStart (text : List UInt8) : Reached := true :: text.map fun _ => false

theorem covers_atStart (text : List UInt8) : Covers text (atStart text) := by
  simp [Covers, atStart]

/-- Nothing but the empty front is reached at the start. -/
theorem reaches_atStart : Reaches (atStart text) before ↔ before = [] := by
  cases before with
  | nil => simp [Reaches, atStart]
  | cons byte rest =>
      have clear : (text.map fun _ => false)[rest.length]? ≠ some true := by
        rw [List.getElem?_map]
        cases text[rest.length]? <;> simp
      constructor
      · exact fun found => absurd found clear
      · simp

theorem covers_bytes (bytes : List UInt8) (covers : Covers text reached)
    : Covers text
        (bytes.foldl (fun reached byte => onward (sameLetter byte) text reached) reached) := by
  induction bytes generalizing reached with
  | nil => exact covers
  | cons byte rest ih => exact ih (covers_onward covers)

/-- Given bytes lead behind bytes that are the same up to case, by induction over them. -/
theorem reaches_bytes (bytes : List UInt8) (within : before <+: text)
    : Reaches
          (bytes.foldl (fun reached byte => onward (sameLetter byte) text reached) reached) before
      ↔ ∃ init word,
          before = init ++ word
          ∧ word.map lowerByte = bytes.map lowerByte
          ∧ Reaches reached init := by
  induction bytes generalizing reached with
  | nil => simp
  | cons byte rest ih =>
      rw [List.foldl_cons, ih]
      constructor
      · rintro ⟨later, word, rfl, same, reaches⟩
        obtain ⟨init, other, rfl, matched, start⟩ :=
          (reaches_onward ((List.prefix_append later word).trans within)).mp reaches
        refine ⟨init, other :: word, by simp, ?_, start⟩
        simp [same, (sameLetter_iff byte other).mp matched]
      · rintro ⟨init, word, rfl, same, start⟩
        cases word with
        | nil => simp at same
        | cons other word =>
            obtain ⟨first, others⟩ : lowerByte other = lowerByte byte
                ∧ word.map lowerByte = rest.map lowerByte := by simpa using same
            refine ⟨init ++ [other], word, by simp, others, ?_⟩
            have shorter : init ++ [other] <+: text :=
              List.IsPrefix.trans ⟨word, by simp⟩ within
            have matched := (sameLetter_iff byte other).mpr first.symm
            exact (reaches_onward_append shorter).mpr ⟨matched, start⟩

/-- What stands behind the last slash, by induction from the end. -/
theorem exists_last_component (bytes : List UInt8)
    : ∃ init run,
        bytes = init ++ run
        ∧ (∀ byte ∈ run, (!isSlash byte) = true)
        ∧ (init = [] ∨ ∃ parent, init = parent ++ [slash]) := by
  induction bytes using List.reverseRecOn with
  | nil => exact ⟨[], [], rfl, by simp, .inl rfl⟩
  | append_singleton bytes last ih =>
      by_cases closes : last = slash
      · exact ⟨bytes ++ [last], [], by simp, by simp, .inr ⟨bytes, by rw [closes]⟩⟩
      · obtain ⟨init, run, rfl, free, boundary⟩ := ih
        refine ⟨init, run ++ [last], by simp, ?_, boundary⟩
        intro byte member
        rcases List.mem_append.mp member with earlier | here
        · exact free byte earlier
        · obtain rfl : byte = last := by simpa using here
          simpa [isSlash] using closes

/-- Leading components and the start of another one lead anywhere. -/
theorem reaches_anywhere (within : before <+: text)
    : Reaches (afterSequence text (atStart text) [.leading, .zeroOrMore]) before := by
  have covers := covers_atStart text
  have behind := covers_behindSlashes covers
  simp only [afterSequence, Token.after]
  obtain ⟨init, run, rfl, free, boundary⟩ := exists_last_component before
  refine (reaches_spread (covers_either covers behind) within).mpr ⟨init, run, rfl, free, ?_⟩
  rw [reaches_either covers behind]
  rcases boundary with rfl | ⟨parent, rfl⟩
  · exact .inl (reaches_atStart.mpr rfl)
  · refine .inr ((reaches_behindSlashes covers ((List.prefix_append _ run).trans within)).mpr ?_)
    exact ⟨[], parent, rfl, reaches_atStart.mpr rfl⟩

-----------------------------------------------------------------------------------------
-- A text within a component, or across some
-----------------------------------------------------------------------------------------

/-- The pattern of a text that may stand behind leading components and ends in the last component.
-/
def fragment (word : List Char) : List Token :=
  [.leading, .zeroOrMore] ++ word.map (fun c => .literal (bytesOf c)) ++ [.zeroOrMore]

/-- Tokens in a row lead on from where the first ones lead, by induction over them. -/
theorem afterSequence_append (text : List UInt8) (first second : List Token) (reached : Reached)
    : afterSequence text reached (first ++ second)
      = afterSequence text (afterSequence text reached first) second := by
  induction first generalizing reached with
  | nil => rfl
  | cons token rest ih => exact ih (token.after text reached)

/-- A word is matched byte by byte. -/
theorem afterSequence_literals (text : List UInt8) (word : List Char) (reached : Reached)
    : afterSequence text reached (word.map fun c => .literal (bytesOf c))
      = (word.flatMap bytesOf).foldl (fun reached byte => onward (sameLetter byte) text reached)
          reached := by
  induction word generalizing reached with
  | nil => rfl
  | cons c rest ih =>
      rw [List.flatMap_cons, List.foldl_append]
      exact ih _

/-- The whole text is matched if its end is reached. -/
theorem getLastD_eq_true_iff (covers : Covers text reached)
    : reached.getLastD false = true ↔ Reaches reached text := by
  have last : reached.getLast? = reached[text.length]? := by
    rw [List.getLast?_eq_getElem?, covers, Nat.add_sub_cancel]
  unfold Reaches
  rw [List.getLastD_eq_getLast?, last]
  cases reached[text.length]? <;> simp

theorem covers_fragmentStart (text : List UInt8)
    : Covers text (afterSequence text (atStart text) [.leading, .zeroOrMore]) :=
  covers_spread (covers_either (covers_atStart text) (covers_behindSlashes (covers_atStart text)))

/-- What is left of the bytes behind a fragment stands in one component. -/
theorem reaches_fragment (word : List Char)
    : Reaches (afterSequence text (atStart text) (fragment word)) text
      ↔ ∃ init found run,
          text = init ++ found ++ run
          ∧ found.map lowerByte = (word.flatMap bytesOf).map lowerByte
          ∧ slash ∉ run := by
  have covers := covers_bytes (word.flatMap bytesOf) (covers_fragmentStart text)
  rw [fragment, afterSequence_append, afterSequence_append, afterSequence_literals]
  refine (reaches_spread covers (List.prefix_refl text)).trans ?_
  constructor
  · rintro ⟨before, run, split, free, reaches⟩
    have within : before <+: text := ⟨run, split.symm⟩
    obtain ⟨init, found, rfl, same, _⟩ := (reaches_bytes _ within).mp reaches
    exact ⟨init, found, run, split, same, fun member => by simpa [isSlash] using free slash member⟩
  · rintro ⟨init, found, run, split, same, free⟩
    have within : init ++ found <+: text := ⟨run, split.symm⟩
    refine ⟨init ++ found, run, split, ?_, ?_⟩
    · intro byte member
      have differs : byte ≠ slash := fun closes => free (closes ▸ member)
      simpa [isSlash] using differs
    · refine (reaches_bytes _ within).mpr ⟨init, found, rfl, same, ?_⟩
      exact reaches_anywhere ((List.prefix_append init found).trans within)

/-- A path matches a fragment where the fragment occurs in it, in whatever case, with no slash
behind.
-/
theorem isMatch_fragment {word : List Char} (nonempty : word ≠ []) (path : String)
    : isMatch (fragment word) path = true
      ↔ ∃ before behind,
          path.toList.map Char.toLower = before ++ word.map Char.toLower ++ behind
          ∧ '/' ∉ behind := by
  have spelled : isMatch (fragment word) path
      = (afterSequence (path.toList.flatMap bytesOf) (atStart (path.toList.flatMap bytesOf))
          (fragment word)).getLastD false := rfl
  have covers : Covers (path.toList.flatMap bytesOf)
      (afterSequence (path.toList.flatMap bytesOf) (atStart (path.toList.flatMap bytesOf))
        (fragment word)) := by
    rw [fragment, afterSequence_append, afterSequence_append, afterSequence_literals]
    exact covers_spread (covers_bytes _ (covers_fragmentStart _))
  rw [spelled, getLastD_eq_true_iff covers, reaches_fragment]
  constructor
  · rintro ⟨init, found, run, split, same, free⟩
    have lowered := congrArg (List.map lowerByte) split
    rw [List.map_append, List.map_append, same] at lowered
    simp only [map_lowerByte_flatMap] at lowered
    -- The bytes that were found are those of the word only up to case, hence both are lowered
    -- before they are read as characters again.
    have nonemptyToo : word.map Char.toLower ≠ [] := by simpa using nonempty
    obtain ⟨before, behind, whole, left⟩ := infix_of_flatMap_bytesOf nonemptyToo lowered
    refine ⟨before, behind, whole, fun member => ?_⟩
    have among : slash ∈ run.map lowerByte := left ▸ slash_mem_flatMap.mpr member
    obtain ⟨byte, inRun, closes⟩ := List.mem_map.mp among
    exact free (lowerByte_eq_slash closes ▸ inRun)
  · rintro ⟨before, behind, split, free⟩
    obtain ⟨front, run, whole, frontLowered, rfl⟩ := List.map_eq_append_iff.mp split
    obtain ⟨init, found, rfl, _, same⟩ := List.map_eq_append_iff.mp frontLowered
    refine ⟨init.flatMap bytesOf, found.flatMap bytesOf, run.flatMap bytesOf, ?_, ?_, ?_⟩
    · simp [whole]
    · rw [map_lowerByte_flatMap, map_lowerByte_flatMap, same]
    · rw [slash_mem_flatMap]
      exact fun member => free (List.mem_map.mpr ⟨'/', member, rfl⟩)

end DocSurvey.Glob
