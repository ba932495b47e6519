import DocSurvey.Config.Settings
import DocSurvey.Coverage.Report
import DocSurvey.Proofs.ApiDocs
import DocSurvey.Proofs.Readme
import Mathlib.Data.List.Infix

/-! The file of a report. Main statements: its name is a name, has the extension of data, is not
that of a README and holds none of the words by which the default indicators are told, whatever the
time of the report.
-/

namespace DocSurvey

-----------------------------------------------------------------------------------------
-- Parts of a text
-----------------------------------------------------------------------------------------

section Parts

variable {α : Type} {part left right : List α} {mark : α}

/-- A part that does not hold a mark starts a text before the mark. -/
theorem prefix_of_prefix_append_cons (apart : mark ∉ part) (starts : part <+: left ++ mark :: right)
    : part <+: left := by
  rcases List.prefix_or_prefix_of_prefix starts (List.prefix_append left _)
    with within | ⟨beyond, rfl⟩
  · exact within
  · cases beyond with
    | nil => simp
    | cons c others =>
        have further := (List.prefix_append_right_inj left).mp starts
        obtain ⟨rfl, _⟩ := List.cons_prefix_cons.mp further
        exact absurd (by simp) apart

/-- A part without a mark lies on one side of it, by induction over the side before it. -/
theorem infix_or_infix_of_infix_append_cons (apart : mark ∉ part)
    (inside : part <:+: left ++ mark :: right)
    : part <:+: left ∨ part <:+: right := by
  induction left with
  | nil =>
      rcases List.infix_cons_iff.mp inside with starts | later
      · have within : part <+: [] := prefix_of_prefix_append_cons apart starts
        exact .inl within.isInfix
      · exact .inr later
  | cons c rest ih =>
      rcases List.infix_cons_iff.mp inside with starts | later
      · have within : part <+: c :: rest := prefix_of_prefix_append_cons apart starts
        exact .inl within.isInfix
      · exact (ih later).imp List.infix_cons id

/-- A part at the end that has no mark does not reach beyond the last one. -/
theorem suffix_of_append_eq_append {before : List α}
    (ends : ∀ c, left.getLast? = some c → c = mark)
    (same : left ++ right = before ++ part) (apart : mark ∉ part)
    : part <:+ right := by
  rcases List.append_eq_append_iff.mp same with ⟨beyond, rfl, rfl⟩ | ⟨beyond, rfl, rfl⟩
  · exact List.suffix_append _ _
  · cases last : beyond.getLast? with
    | none =>
        obtain rfl := List.getLast?_eq_none_iff.mp last
        exact List.suffix_refl _
    | some c =>
        obtain rfl := ends c (by simp [List.getLast?_append, last])
        exact absurd (List.mem_append_left _ (List.mem_of_getLast? last)) apart

end Parts

-----------------------------------------------------------------------------------------
-- Characters of a time
-----------------------------------------------------------------------------------------

/-- A character that a time can have in the name of a file: a digit or a sign. -/
def IsStampCharacter (c : Char) : Prop :=
  c.isDigit = true ∨ c ∈ ['+', '-', '_']

/-- A padded number is made of digits. -/
theorem isStampCharacter_of_mem_padded {width n : Nat} {c : Char}
    (member : c ∈ Number.padded width n)
    : IsStampCharacter c := by
  rcases List.mem_append.mp member with zero | digit
  · obtain ⟨_, rfl⟩ := List.mem_replicate.mp zero
    exact .inl (by decide)
  · exact .inl (Nat.isDigit_of_mem_toDigits (by decide) (by decide) digit)

theorem isStampCharacter_of_mem_yearText {year : Int} {c : Char}
    (member : c ∈ Time.Instant.yearText year)
    : IsStampCharacter c := by
  unfold Time.Instant.yearText at member
  split at member
  · exact isStampCharacter_of_mem_padded member
  · rcases List.mem_cons.mp member with rfl | digit
    · split
      · exact .inr (by simp)
      · exact .inr (by simp)
    · exact isStampCharacter_of_mem_padded digit

/-- A stamp is made of digits, signs and underscores. -/
theorem isStampCharacter_of_mem_fileStamp {time : Time.Instant} {c : Char}
    (member : c ∈ time.fileStamp)
    : IsStampCharacter c := by
  simp only [Time.Instant.fileStamp, List.mem_append, List.mem_singleton] at member
  rcases member with (((((year | month) | day) | rfl) | hour) | minute) | second
  · exact isStampCharacter_of_mem_yearText year
  · exact isStampCharacter_of_mem_padded month
  · exact isStampCharacter_of_mem_padded day
  · exact .inr (by simp)
  · exact isStampCharacter_of_mem_padded hour
  · exact isStampCharacter_of_mem_padded minute
  · exact isStampCharacter_of_mem_padded second

theorem IsStampCharacter.isAlpha {c : Char} (stamp : IsStampCharacter c) : c.isAlpha = false := by
  rcases stamp with digit | sign
  · refine Bool.eq_false_iff.mpr fun letter => ?_
    have upToNine : c.val.toNat ≤ 57 := by
      simp only [Char.isDigit, Bool.and_eq_true, decide_eq_true_eq, UInt32.le_iff_toNat_le] at digit
      exact digit.2
    have fromCapital : 65 ≤ c.val.toNat := by
      obtain capital | small := Bool.or_eq_true_iff.mp letter
      · exact UInt32.le_iff_toNat_le.mp (of_decide_eq_true capital).1
      · have fromSmall := of_decide_eq_true (Bool.and_eq_true_iff.mp small).1
        exact Nat.le_trans (by decide) (UInt32.le_iff_toNat_le.mp fromSmall)
    omega
  · simp only [List.mem_cons, List.not_mem_nil, or_false] at sign
    rcases sign with rfl | rfl | rfl <;> rfl

/-- No character but a letter has another lower case. -/
theorem toLower_of_isAlpha {c : Char} (noLetter : c.isAlpha = false) : c.toLower = c := by
  have noCapital : ¬ (c.val ≥ 'A'.val ∧ c.val ≤ 'Z'.val) := by
    intro bounds
    have isUpper : c.isUpper = true := decide_eq_true bounds
    have letter : c.isAlpha = true := Bool.or_eq_true_iff.mpr (.inl isUpper)
    simp [letter] at noLetter
  unfold Char.toLower
  rw [dif_neg noCapital]

-----------------------------------------------------------------------------------------
-- The name of the file
-----------------------------------------------------------------------------------------

namespace EcosystemReport

/-- The name of a report is its beginning, the stamp and the extension. -/
theorem toList_fileName (time : Time.Instant)
    : (fileName time).toList
      = "documentation_report_".toList ++ time.fileStamp ++ ".json".toList := by
  unfold fileName
  simp only [String.toList_append, String.toList_ofList]

theorem mem_fileName {time : Time.Instant} {c : Char} (member : c ∈ (fileName time).toList)
    : c ∈ "documentation_report_".toList ∨ IsStampCharacter c ∨ c ∈ ".json".toList := by
  rw [toList_fileName] at member
  rcases List.mem_append.mp member with before | behind
  · exact (List.mem_append.mp before).imp id fun stamp =>
      .inl (isStampCharacter_of_mem_fileStamp stamp)
  · exact .inr (.inr behind)

/-- The name of a report is a single component of a path. -/
theorem isName_fileName (time : Time.Instant) : Path.IsName (fileName time) := by
  have start : (fileName time).toList.take 3 = "doc".toList := by
    rw [toList_fileName]
    rfl
  refine ⟨?_, ?_, ?_, ?_⟩
  · intro empty
    simp [empty] at start
  · intro slash
    rcases mem_fileName slash with word | stamp | extension
    · exact absurd word (by decide)
    · simp [IsStampCharacter] at stamp
    · exact absurd extension (by decide)
  · intro same
    simp [same] at start
  · intro same
    simp [same] at start

theorem isExtension_fileName (time : Time.Instant) : Path.IsExtension (fileName time) "json" :=
  ⟨"documentation_report_".toList ++ time.fileStamp, by simp, by decide, toList_fileName time⟩

/-- No report is taken for a README. -/
theorem isReadmeName_fileName (time : Time.Instant)
    : Readme.isReadmeName (fileName time) = false := by
  have start : (fileName time).toList.take 6 = "docume".toList := by
    rw [toList_fileName]
    rfl
  rw [Readme.isReadmeName, start]
  decide

/-- The name of a report is in lower case. -/
theorem map_toLower_fileName (time : Time.Instant)
    : (fileName time).toList.map Char.toLower = (fileName time).toList := by
  have before : "documentation_report_".toList.map Char.toLower
      = "documentation_report_".toList := by
    decide
  have behind : ".json".toList.map Char.toLower = ".json".toList := by decide
  have stamp : time.fileStamp.map Char.toLower = time.fileStamp :=
    (List.map_congr_left fun _ member =>
      toLower_of_isAlpha (isStampCharacter_of_mem_fileStamp member).isAlpha).trans (List.map_id' _)
  rw [toList_fileName, List.map_append, List.map_append, before, behind, stamp]

/-- A word occurs in the name only if it occurs between the marks and the characters of the time. -/
theorem not_infix_fileName {word : List Char} (letters : ∀ c ∈ word, c.isAlpha = true)
    (nonempty : word ≠ [])
    (apart : ∀ part ∈ ["documentation", "report", "json"], ¬ word <:+: part.toList)
    (time : Time.Instant)
    : ¬ word <:+: (fileName time).toList := by
  have noMark : ∀ mark : Char, mark.isAlpha = false → mark ∉ word := by
    intro mark noLetter member
    simp [letters mark member] at noLetter
  have noStamp : ¬ word <:+: time.fileStamp := by
    intro inside
    obtain ⟨c, rest, rfl⟩ := List.exists_cons_of_ne_nil nonempty
    have stamp := isStampCharacter_of_mem_fileStamp (inside.subset List.mem_cons_self)
    exact noMark c stamp.isAlpha List.mem_cons_self
  have shape : (fileName time).toList
      = "documentation".toList
        ++ '_' :: ("report".toList ++ '_' :: (time.fileStamp ++ '.' :: "json".toList)) := by
    rw [toList_fileName]
    simp
  rw [shape]
  intro inside
  rcases infix_or_infix_of_infix_append_cons (noMark '_' (by decide)) inside with first | inside
  · exact apart _ (by simp) first
  rcases infix_or_infix_of_infix_append_cons (noMark '_' (by decide)) inside with second | inside
  · exact apart _ (by simp) second
  rcases infix_or_infix_of_infix_append_cons (noMark '.' (by decide)) inside with stamp | extension
  · exact noStamp stamp
  · exact apart _ (by simp) extension

end EcosystemReport

-----------------------------------------------------------------------------------------
-- Default indicators
-----------------------------------------------------------------------------------------

namespace ApiDocs

/-- The words of the default indicators: each of them holds one behind its last slash. -/
def indicatorWords : List String := ["api", "swagger", "postman"]

def defaultIndicators : List String := ({} : Config.Coverage).indicators

/-- Each default indicator needs one of a few words behind its last slash. -/
theorem exists_word_of_mem_default {indicator : String} (member : indicator ∈ defaultIndicators)
    : ∃ before behind word,
        indicator.toList.map Char.toLower = before ++ behind
        ∧ '/' ∉ behind
        ∧ word ∈ indicatorWords
        ∧ word.toList <:+: behind := by
  have cut : ∀ indicator ∈ defaultIndicators, ∃ length ∈ [0, 5], ∃ word ∈ indicatorWords,
      '/' ∉ (indicator.toList.map Char.toLower).drop length
      ∧ word.toList <:+: (indicator.toList.map Char.toLower).drop length := by
    decide
  obtain ⟨length, _, word, isWord, free, inside⟩ := cut indicator member
  exact ⟨_, _, word, (List.take_append_drop length _).symm, free, isWord, inside⟩

/-- The name holds none of the words of the default indicators. -/
def IsQuiet (name : String) : Prop :=
  ∀ word ∈ indicatorWords, ¬ word.toList <:+: name.toList.map Char.toLower

/-- No default indicator finds one of its words in the name of a report. -/
theorem isQuiet_fileName (time : Time.Instant) : IsQuiet (EcosystemReport.fileName time) := by
  intro word member
  rw [EcosystemReport.map_toLower_fileName]
  have letters : ∀ word ∈ indicatorWords,
      word.toList.all Char.isAlpha = true
      ∧ word.toList ≠ []
      ∧ ∀ part ∈ ["documentation", "report", "json"], ¬ word.toList <:+: part.toList := by
    decide
  obtain ⟨isAlpha, nonempty, apart⟩ := letters word member
  exact EcosystemReport.not_infix_fileName (List.all_eq_true.mp isAlpha) nonempty apart time

/-- A path stands before its last name, with a slash between them. -/
theorem exists_toList_intercalate (above : Place) (last : String)
    : ∃ front,
        ("/".intercalate (above ++ [last])).toList = front ++ last.toList
        ∧ ∀ c, front.getLast? = some c → c = '/' := by
  by_cases top : above = []
  · exact ⟨[], by simp [top], by simp⟩
  · refine ⟨("/".intercalate above).toList ++ ['/'], ?_, by simp⟩
    rw [String.intercalate_append_of_ne_nil top (by simp), String.intercalate_singleton]
    simp

/-- A path that ends in a quiet name is not indicated by default. -/
theorem not_indicates_of_isQuiet {names : Place} {last : String} (ends : names.getLast? = some last)
    (quiet : IsQuiet last)
    : indicates (defaultIndicators.map fun indicator => Glob.fragment indicator.toList)
        ("/".intercalate names) = false := by
  have texts : ∀ indicator ∈ defaultIndicators, IsText indicator := by decide
  refine Bool.eq_false_iff.mpr fun indicated => ?_
  obtain ⟨indicator, member, before, behind, whole, free⟩ :=
    (indicates_fragments texts _).mp indicated
  obtain ⟨head, tail, word, split, noSlash, isWord, inside⟩ := exists_word_of_mem_default member
  obtain ⟨above, rfl⟩ := List.getLast?_eq_some_iff.mp ends
  obtain ⟨front, spelled, isSlash⟩ := exists_toList_intercalate above last
  have same : front.map Char.toLower ++ last.toList.map Char.toLower
      = (before ++ head) ++ (tail ++ behind) := by
    rw [← List.map_append, ← spelled, whole, split]
    simp
  have closes : ∀ c, (front.map Char.toLower).getLast? = some c → c = '/' := by
    intro c final
    obtain ⟨d, isFinal, rfl⟩ := Option.map_eq_some_iff.mp (by simpa using final)
    rw [isSlash d isFinal]
    rfl
  have within : tail ++ behind <:+ last.toList.map Char.toLower :=
    suffix_of_append_eq_append closes same (by simp [noSlash, free])
  exact quiet word isWord
    (inside.trans ((List.prefix_append tail behind).isInfix.trans within.isInfix))

end ApiDocs

end DocSurvey
