import DocSurvey.Footer.Report
import DocSurvey.Proofs.Text.ByteOrder

/-! The report on footers accounts for every file. The counts of the summary and the lists of the
files that lack something are made one by one. Main statement: they add up, each file is in the
lists that it belongs to and in no other one, and the files near the root have a heading each.
-/

namespace DocSurvey.Footer

open DocSurvey.Text

variable {results : Results}

-----------------------------------------------------------------------------------------
-- Files that lack a mark
-----------------------------------------------------------------------------------------

/-- The file could be read and lacks the mark. -/
def Result.lacks (mark : Analysis → Bool) : Result → Bool
  | .analyzed analysis => !mark analysis
  | .unreadable _ => false

/-- Only a file that could be read lacks a mark. -/
theorem Result.lacks_eq_true_iff {mark : Analysis → Bool} {result : Result}
    : result.lacks mark = true
      ↔ ∃ analysis, result = .analyzed analysis ∧ mark analysis = false := by
  cases result <;> simp [lacks]

/-- The files that lack a mark are picked one by one, by induction over the results. -/
theorem lacking_eq (mark : Analysis → Bool) (results : Results)
    : lacking mark results
      = (results.filter fun entry => entry.2.lacks mark).map Prod.fst := by
  unfold lacking
  induction results with
  | nil => rfl
  | cons first rest ih =>
      obtain ⟨path, result⟩ := first
      rw [List.filterMap_cons, List.filter_cons, ih]
      cases result with
      | unreadable reason => rfl
      | analyzed analysis =>
          cases marked : mark analysis <;> simp [Result.lacks, Result.analysis?, marked]

/-- The paths that are listed for a mark are those of files that lack it. -/
theorem mem_lacking_iff {mark : Analysis → Bool} {path : String}
    : path ∈ lacking mark results
      ↔ ∃ analysis, (path, .analyzed analysis) ∈ results ∧ mark analysis = false := by
  simp only [lacking_eq, List.mem_map, List.mem_filter, Prod.exists, Result.lacks_eq_true_iff]
  constructor
  · rintro ⟨_, _, ⟨member, analysis, rfl, marked⟩, rfl⟩
    exact ⟨analysis, member, marked⟩
  · rintro ⟨analysis, member, marked⟩
    exact ⟨path, _, ⟨member, analysis, rfl, marked⟩, rfl⟩

def Results.analyses (results : Results) : List Analysis :=
  results.filterMap fun (_, result) => result.analysis?

/-- The files that lack a mark and those that have it are all that could be read, by induction over
the results.
-/
theorem length_lacking_add_countP (mark : Analysis → Bool) (results : Results)
    : (lacking mark results).length + results.analyses.countP mark = results.analyses.length := by
  simp only [lacking_eq, List.length_map]
  induction results with
  | nil => rfl
  | cons first rest ih =>
      obtain ⟨path, result⟩ := first
      cases result with
      | unreadable reason => exact ih
      | analyzed analysis =>
          have read : Results.analyses ((path, .analyzed analysis) :: rest)
              = analysis :: Results.analyses rest := rfl
          rw [read, List.filter_cons, List.countP_cons, List.length_cons, ← ih]
          cases marked : mark analysis <;> simp [Result.lacks, marked] <;> omega

/-- The counts of the marks are those of some of the files that could be read, and these are some of
all files.
-/
theorem Summary.counts_le (results : Results)
    : let summary := Summary.ofResults results
      summary.withBrandLink ≤ summary.readable
      ∧ summary.withMission ≤ summary.readable
      ∧ summary.withEnterprise ≤ summary.readable
      ∧ summary.withRule ≤ summary.readable
      ∧ summary.readable ≤ summary.total :=
  ⟨List.countP_le_length, List.countP_le_length, List.countP_le_length, List.countP_le_length,
    List.length_filterMap_le _ _⟩

-----------------------------------------------------------------------------------------
-- Sections about files that lack a mark
-----------------------------------------------------------------------------------------

/-- The files that could be read and lack the mark: each once, in the order of the bytes of their
paths, and none that could not be read.
-/
structure AreLacking (mark : Analysis → Bool) (results : Results) (paths : List String) : Prop where
  ordered : paths.Pairwise BytesBefore
  covered : ∀ path,
    path ∈ paths ↔ ∃ analysis, (path, .analyzed analysis) ∈ results ∧ mark analysis = false
  separate : ∀ path reason, (path, .unreadable reason) ∈ results → path ∉ paths

/-- The files that lack a mark are listed in order, and each of them once. -/
theorem areLacking_lacking (ordered : Data.IsOrdered results) (mark : Analysis → Bool)
    : AreLacking mark results (lacking mark results) where
  ordered := by
    rw [lacking_eq]
    exact List.pairwise_map.mpr ((List.Pairwise.filter _ ordered).imp bytesBefore_iff.mpr)
  covered := fun _ => mem_lacking_iff
  separate := by
    intro path reason unread member
    obtain ⟨analysis, read, _⟩ := mem_lacking_iff.mp member
    have same := (Data.lookup_eq_some_of_mem ordered.distinct unread).symm.trans
      (Data.lookup_eq_some_of_mem ordered.distinct read)
    cases Option.some.inj same

/-- The lines show the files that lack the mark, so many as are missing it: none if all have it, or
else the heading, the first ten paths and how many more there are.
-/
def ShowsLacking (results : Results) (mark : Analysis → Bool) (missing : Nat) (heading : String)
    (lines : List String)
    : Prop :=
  ∃ paths,
    AreLacking mark results paths
    ∧ paths.length = missing
    ∧ (missing = 0 → lines = [])
    ∧ (0 < missing → ∃ more,
        lines = s!"### {heading}:" :: (paths.take (min 10 missing)).map (fun path => s!"- {path}")
          ++ more ++ [""]
        ∧ (missing ≤ 10 → more = [])
        ∧ (10 < missing → more = [s!"- ... and {missing - 10} more"]))

/-- The list of a report shows ten files at most and tells how many more there are. -/
theorem showsLacking_missingLines (ordered : Data.IsOrdered results) (mark : Analysis → Bool)
    (heading : String)
    : ShowsLacking results mark (results.analyses.length - results.analyses.countP mark) heading
        (missingLines heading (lacking mark results)) := by
  have counted := length_lacking_add_countP mark results
  have missing : (lacking mark results).length
      = results.analyses.length - results.analyses.countP mark := by omega
  refine ⟨_, areLacking_lacking ordered mark, missing, fun nothing => ?_, fun something => ?_⟩
  · have empty : lacking mark results = [] := List.length_eq_zero_iff.mp (missing.trans nothing)
    rw [empty]
    rfl
  · rw [← missing] at something ⊢
    have filled : (lacking mark results).isEmpty = false := by
      rw [List.isEmpty_eq_false_iff]
      exact List.ne_nil_of_length_pos something
    rw [← List.take_eq_take_min]
    unfold missingLines listLimit
    rw [if_neg (by simp [filled])]
    refine ⟨_, rfl, fun few => if_neg (by omega), fun many => if_pos many⟩

-----------------------------------------------------------------------------------------
-- Headings of the files near the root
-----------------------------------------------------------------------------------------

def isHeading (line : String) : Bool :=
  "### ".toList.isPrefixOf line.toList

/-- The signs in front of a path: which marks the file has. -/
def Analysis.signs (analysis : Analysis) : String :=
  DocSurvey.IssueDraft.mark analysis.brandLink ++ " " ++ markOr analysis.enterprise "🏢"
    ++ " " ++ markOr analysis.mission "🌟" ++ " " ++ markOr analysis.ruled "📄"

def errorHeading (path reason : String) : String :=
  s!"### ❌ {path} - ERROR: {reason}"

def Result.heading (path : String) : Result → String
  | .unreadable reason => errorHeading path reason
  | .analyzed analysis => s!"### {analysis.signs} {path}"

/-- Each file has one heading among its lines. -/
theorem fileLines_filter (path : String) (result : Result)
    : (fileLines path result).filter isHeading = [result.heading path] := by
  cases result with
  | unreadable reason => simp [fileLines, isHeading, Result.heading, errorHeading, toString]
  | analyzed analysis => simp [fileLines, isHeading, Result.heading, Analysis.signs, toString]

theorem Analysis.length_signs (analysis : Analysis) : analysis.signs.length = 7 := by
  have single : ∀ (flag : Bool) (sign : String),
      sign.length = 1 → (markOr flag sign).length = 1 := by
    intro flag sign one
    cases flag
    · exact (rfl : "⚪".length = 1)
    · exact one
  have mark : (DocSurvey.IssueDraft.mark analysis.brandLink).length = 1 := by
    cases analysis.brandLink <;> rfl
  simp only [signs, String.length_append, mark, single _ "🏢" rfl, single _ "🌟" rfl,
    single _ "📄" rfl]
  rfl

/-- The heading of a file that could be read is too short for that of an error. -/
theorem exists_heading_eq_errorHeading_iff {path : String} {result : Result}
    : (∃ reason, result.heading path = errorHeading path reason)
      ↔ ∃ reason, result = .unreadable reason := by
  cases result with
  | unreadable reason => exact iff_of_true ⟨reason, rfl⟩ ⟨reason, rfl⟩
  | analyzed analysis =>
      refine iff_of_false ?_ (by simp)
      rintro ⟨reason, same⟩
      have lengths := congrArg String.length same
      have marks : "### ".length = 4 := rfl
      have cross : "### ❌ ".length = 6 := rfl
      have word : " - ERROR: ".length = 10 := rfl
      have space : " ".length = 1 := rfl
      simp only [Result.heading, errorHeading, toString, String.length_append,
        analysis.length_signs, marks, cross, word, space] at lengths
      omega

/-- The files near the root: each once, in the order of the bytes of their paths. -/
structure AreNear (results near : Results) : Prop where
  ordered : near.Pairwise fun first second => BytesBefore first.1 second.1
  covered : ∀ path result,
    (path, result) ∈ near ↔ (path, result) ∈ results ∧ path.toList.count '/' ≤ 1

/-- The lines show the files near the root: none if there are no such files, or else a heading for
the section and one for each file, which tells an error exactly where the file could not be read.
-/
def ShowsNear (results : Results) (lines : List String) : Prop :=
  ∃ near,
    AreNear results near
    ∧ (near = [] → lines = [])
    ∧ (near ≠ [] → lines.head? = some "## Priority Files Analysis (Main Project READMEs)")
    ∧ lines.filter isHeading = near.map (fun (path, result) => result.heading path)
    ∧ ∀ path result,
        (path, result) ∈ near
        → ((∃ reason, result.heading path = errorHeading path reason)
          ↔ ∃ reason, result = .unreadable reason)

/-- The headings among the lines about files are those of the files. -/
theorem flatMap_fileLines_filter (files : Results)
    : (files.flatMap fun (path, result) => fileLines path result).filter isHeading
      = files.map fun (path, result) => result.heading path := by
  rw [List.filter_flatMap]
  simp only [fileLines_filter]
  exact List.map_eq_flatMap.symm

/-- The lines about the files near the root. -/
def nearLines (results : Results) : List String :=
  let near := results.filter fun (path, _) => isPriority path
  if near.isEmpty then []
  else
    ["## Priority Files Analysis (Main Project READMEs)", ""]
      ++ near.flatMap fun (path, result) => fileLines path result

/-- The files near the root are shown in order, under a heading for their section. -/
theorem showsNear_nearLines (ordered : Data.IsOrdered results)
    : ShowsNear results (nearLines results) := by
  have near : AreNear results (results.filter fun (path, _) => isPriority path) := by
    constructor
    · exact (List.Pairwise.filter _ ordered).imp bytesBefore_iff.mpr
    · intro path result
      simp [isPriority]
  refine ⟨_, near, ?_⟩
  unfold nearLines
  generalize results.filter (fun (path, _) => isPriority path) = files
  have fixed : ["## Priority Files Analysis (Main Project READMEs)", ""].filter isHeading = [] := by
    decide
  refine ⟨?_, ?_, ?_, fun path result _ => exists_heading_eq_errorHeading_iff⟩
  · rintro rfl
    rfl
  · intro filled
    simp [filled]
  · rw [← flatMap_fileLines_filter files]
    cases files with
    | nil => rfl
    | cons first rest => exact (List.filter_append ..).trans (by rw [fixed, List.nil_append])

/-- The report accounts for every file. The files with a mark are among those that could be read,
and these among all; where they are not all, a line says how many are left. A section about a mark
shows as many files as lack it, no unreadable one among them, and the last section has one heading
for each file near the root and none for any other one.
-/
theorem report_accounts_for_every_file (ordered : Data.IsOrdered results) (brandLink : String)
    : let summary := Summary.ofResults results
      (summary.withBrandLink ≤ summary.readable
        ∧ summary.withMission ≤ summary.readable
        ∧ summary.withEnterprise ≤ summary.readable
        ∧ summary.withRule ≤ summary.readable
        ∧ summary.readable ≤ summary.total)
      ∧ ∃ statistics unread withoutLink withoutMission priority,
          reportLines results brandLink
            = statistics ++ unread ++ ["", "## Files Missing Key Elements", ""] ++ withoutLink
              ++ withoutMission ++ priority
          ∧ statistics.length = 8
          ∧ (∀ line ∈ statistics, ¬ "- **Unreadable files**".toList <+: line.toList)
          ∧ (summary.readable = summary.total → unread = [])
          ∧ (summary.readable ≠ summary.total
              → unread = [s!"- **Unreadable files**: {summary.total - summary.readable}"])
          ∧ ShowsLacking results (·.brandLink) (summary.readable - summary.withBrandLink)
              s!"Missing {brandLink} Link" withoutLink
          ∧ ShowsLacking results (·.mission) (summary.readable - summary.withMission)
              "Missing NGO Mention" withoutMission
          ∧ ShowsNear results priority := by
  have counts := Summary.counts_le results
  refine ⟨counts, _, _, _, _, nearLines results, rfl, rfl, ?_, ?_, ?_, ?_, ?_, ?_⟩
  · simp [toString]
  · intro same
    exact if_neg (by omega)
  · intro differ
    exact if_pos (by omega)
  · exact showsLacking_missingLines ordered _ _
  · exact showsLacking_missingLines ordered _ _
  · exact showsNear_nearLines ordered

/-- An analysis that found the marks and nothing else. -/
def analysisWith (brandLink mission : Bool) : Analysis :=
  { (default : Analysis) with brandLink, mission }

/-- A README with both marks, one that could not be read, and more below that lack the link than a
list shows.
-/
def mixedResults : Results :=
  ("README.md", .analyzed (analysisWith true true)) :: ("app/README.md", .unreadable "denied")
    :: "abcdefghijk".toList.map fun c =>
        ("lib/docs/" ++ String.singleton c ++ ".md", .analyzed (analysisWith false true))

/-- One file more lacks its link than a list shows, and one could not be read. -/
theorem report_of_mixedResults
    : Data.IsOrdered mixedResults
      ∧ Summary.ofResults mixedResults = ⟨13, 12, 1, 12, 0, 0⟩
      ∧ ∃ statistics withoutLink priority,
          reportLines mixedResults "tiation.github.io"
            = statistics ++ ["- **Unreadable files**: 1"]
              ++ ["", "## Files Missing Key Elements", ""] ++ withoutLink ++ [] ++ priority
          ∧ "- ... and 1 more" ∈ withoutLink
          ∧ "### ❌ app/README.md - ERROR: denied" ∈ priority := by
  have ordered : Data.IsOrdered mixedResults := by
    unfold Data.IsOrdered
    decide
  have counted : Summary.ofResults mixedResults = ⟨13, 12, 1, 12, 0, 0⟩ := by decide
  obtain ⟨_, statistics, unread, withoutLink, withoutMission, priority, whole, _, _, _, differ,
    links, missions, near⟩ := report_accounts_for_every_file ordered "tiation.github.io"
  rw [counted] at differ links missions
  obtain rfl := differ (by decide)
  obtain ⟨_, _, _, unshown, _⟩ := missions
  obtain rfl := unshown rfl
  refine ⟨ordered, counted, statistics, withoutLink, priority, whole, ?_, ?_⟩
  · obtain ⟨_, _, _, _, shown⟩ := links
    obtain ⟨_, rfl, _, many⟩ := shown (by decide)
    rw [many (by decide)]
    exact List.mem_append_left _ (List.mem_append_right _ (List.mem_singleton.mpr (by decide)))
  · obtain ⟨files, areNear, _, _, headings, _⟩ := near
    have listed : ("app/README.md", Result.unreadable "denied") ∈ files :=
      (areNear.covered _ _).mpr ⟨by simp [mixedResults], by decide⟩
    have heading :=
      List.mem_map_of_mem (f := fun (path, result) => Result.heading path result) listed
    rw [← headings] at heading
    exact List.mem_of_mem_filter heading

end DocSurvey.Footer
