import DocSurvey.Footer.Decoding
import DocSurvey.Footer.Report
import DocSurvey.Proofs.Data.Records
import DocSurvey.Proofs.Files.Writing
import DocSurvey.Proofs.Json.RoundTrip

/-! Results on footers as they are stored. Main statement: whatever the results are, the data that
is written for them reads back to the same results.
-/

namespace DocSurvey.Footer

-----------------------------------------------------------------------------------------
-- Results as data
-----------------------------------------------------------------------------------------

def Analysis.FitsWord (analysis : Analysis) : Prop :=
  analysis.length < Number.bitRange 64

/-- The fields of an analysis with their values. -/
def Analysis.parts (analysis : Analysis) : List Data.Filled :=
  [⟨"has_tiation_link", .flag, .bool analysis.brandLink, .flag analysis.brandLink⟩,
    ⟨"has_enterprise_mention", .flag, .bool analysis.enterprise, .flag analysis.enterprise⟩,
    ⟨"has_ngo_mention", .flag, .bool analysis.mission, .flag analysis.mission⟩,
    ⟨"has_footer_section", .flag, .bool analysis.ruled, .flag analysis.ruled⟩,
    ⟨"has_centered_footer", .flag, .bool analysis.centered, .flag analysis.centered⟩,
    ⟨"has_built_with", .flag, .bool analysis.builtWith, .flag analysis.builtWith⟩,
    ⟨"content_length", .count, .nat analysis.length, .integer analysis.length⟩,
    ⟨"ends_with_footer", .flag, .bool analysis.closing, .flag analysis.closing⟩,
    ⟨"footer_preview", .text, .string analysis.preview, .text analysis.preview⟩]

/-- No two parts of an analysis have the same name. -/
theorem Analysis.parts_distinct (analysis : Analysis)
    : (analysis.parts.map Data.Filled.name).Nodup := by
  have closed : ((parts default).map Data.Filled.name).Nodup := by decide
  exact closed

theorem Analysis.parts_hold {analysis : Analysis} (fits : analysis.FitsWord)
    : ∀ part ∈ analysis.parts, part.Holds := by
  have counted : Data.readJson .count (.nat analysis.length)
      = .ok (.integer analysis.length) := by
    have small : analysis.length < Number.bitRange 64 := fits
    have bounded : (analysis.length : Int) ≤ Number.bitRange 64 - 1 := by omega
    simp [Data.Kind.count, Json.nat, Data.readJson, bounded]
  rw [Analysis.parts]
  simp only [List.forall_mem_cons]
  exact ⟨rfl, rfl, rfl, rfl, rfl, rfl, counted, rfl, rfl, by simp⟩

/-- An analysis is read back from its record. -/
theorem Result.ofJson_analyzed {analysis : Analysis} (fits : analysis.FitsWord)
    : Result.ofJson (Result.analyzed analysis).toJson = .ok (.analyzed analysis) := by
  have reads : Data.readJson Analysis.kind (Result.analyzed analysis).toJson
      = .ok (.record (analysis.parts.map Data.Filled.entry)) :=
    Data.readJson_record "FooterAnalysis" true analysis.parts_distinct (Analysis.parts_hold fits)
  rw [Result.ofJson, reads]
  rfl

/-- A reason is read back from its record, which lacks the fields of an analysis. -/
theorem Result.ofJson_unreadable (reason : String)
    : Result.ofJson (Result.unreadable reason).toJson = .ok (.unreadable reason) := by
  have lacking : Json.lookup [("error", .string reason)] "has_tiation_link" = none := by
    simp [Json.lookup]
  obtain ⟨e, refuses⟩ : ∃ e,
      Data.readJson Analysis.kind (Result.unreadable reason).toJson = .error e :=
    Data.readJson_record_of_missing "FooterAnalysis" (List.mem_cons_self ..) lacking
  have reads : Data.readJson Result.unreadableKind (Result.unreadable reason).toJson
      = .ok (.record [("error", .text reason)]) := by
    let part : Data.Filled := ⟨"error", .text, .string reason, .text reason⟩
    have holds : ∀ found ∈ [part], found.Holds := by
      intro found member
      obtain rfl := List.mem_singleton.mp member
      rfl
    have distinct : ([part].map Data.Filled.name).Nodup := List.nodup_singleton _
    exact Data.readJson_record "Unreadable" true distinct holds
  rw [Result.ofJson, refuses]
  simp only [reads]
  rfl

/-- A result is read back from its record. -/
theorem Result.ofJson_toJson {result : Result}
    (fits : ∀ analysis, result = .analyzed analysis → analysis.FitsWord)
    : Result.ofJson result.toJson = .ok result := by
  cases result with
  | analyzed analysis => exact Result.ofJson_analyzed (fits analysis rfl)
  | unreadable reason => exact Result.ofJson_unreadable reason

/-- A result can be read back if its numbers fit into a word. -/
theorem Result.legible_toJson {result : Result}
    (fits : ∀ analysis, result = .analyzed analysis → analysis.FitsWord) (depth : Nat)
    : Json.Legible (depth + 1) result.toJson := by
  cases result with
  | unreadable reason =>
      refine .object ?_
      simp only [List.forall_mem_cons]
      exact ⟨.string reason, by simp⟩
  | analyzed analysis =>
      have small : analysis.length < Number.bitRange 64 := fits analysis rfl
      have length : Json.Legible depth (.nat analysis.length) := .int ⟨by omega, by omega⟩
      refine .object ?_
      simp only [List.forall_mem_cons]
      exact ⟨.bool _, .bool _, .bool _, .bool _, .bool _, .bool _, length, .bool _, .string _,
        by simp⟩

-----------------------------------------------------------------------------------------
-- Results by their paths
-----------------------------------------------------------------------------------------

/-- The length of each README that was analysed fits into a word. -/
def Results.FitWords (results : Results) : Prop :=
  ∀ path analysis, (path, .analyzed analysis) ∈ results → analysis.FitsWord

theorem Results.FitWords.analyzed {results : Results} (fit : results.FitWords) {path : String}
    {result : Result} (member : (path, result) ∈ results)
    : ∀ analysis, result = .analyzed analysis → analysis.FitsWord := by
  rintro analysis rfl
  exact fit path analysis member

/-- All results are read back from their records, by induction over them. -/
theorem mapM_ofMember {results : Results} (fit : Results.FitWords results)
    : (results.map fun (path, result) => (path, result.toJson)).mapM Result.ofMember
      = Except.ok results := by
  induction results with
  | nil => rfl
  | cons first rest ih =>
      obtain ⟨path, result⟩ := first
      have others := ih fun path analysis member =>
        fit path analysis (List.mem_cons_of_mem _ member)
      have here := Result.ofJson_toJson (Results.FitWords.analyzed fit (List.mem_cons_self ..))
      simp [Result.ofMember, here, others, bind, Except.bind, pure, Except.pure]

/-- Results in the order of their paths are read back from their data. -/
theorem Results.ofJson_toJson {results : Results} (ordered : Data.IsOrdered results)
    (fit : results.FitWords)
    : Results.ofJson results.toJson = .ok results := by
  have kept : Data.orderedByKey results = results :=
    (Data.isOrdered_orderedByKey results).eq_of_perm ordered
      (Data.orderedByKey_perm ordered.distinct)
  simp [Results.ofJson, Results.toJson, mapM_ofMember fit, kept, bind, Except.bind, pure,
    Except.pure]

/-- All results can be read back if their numbers fit into a word. -/
theorem Results.legible_toJson {results : Results} (fit : results.FitWords)
    : Json.Legible 127 results.toJson := by
  refine .object fun member among => ?_
  obtain ⟨⟨path, result⟩, isResult, rfl⟩ := List.mem_map.mp among
  exact Result.legible_toJson (fit.analyzed isResult) 125

-----------------------------------------------------------------------------------------
-- The files that are written
-----------------------------------------------------------------------------------------

/-- Both files are written, each at its turn, once the directories are made. -/
theorem yields_writeOutputs_iff {results : Results} {report reportPath dataPath : String}
    {tree changed : FileTree}
    : (writeOutputs results report reportPath dataPath).Yields tree () changed
      ↔ ∃ first second third,
          (provideParent reportPath).Yields tree () first
          ∧ (provideParent dataPath).Yields first () second
          ∧ second.withFile reportPath (some report) = .ok third
          ∧ third.withFile dataPath (some results.toJson.pretty) = .ok changed := by
  simp only [writeOutputs, FileAction.yields_bind_iff]
  constructor
  · rintro ⟨_, first, made, _, second, madeToo, _, third, reported, stored⟩
    exact ⟨first, second, third, made, madeToo, FileAction.yields_writeFile_iff.mp reported,
      FileAction.yields_writeFile_iff.mp stored⟩
  · rintro ⟨first, second, third, made, madeToo, reported, stored⟩
    exact ⟨(), first, made, (), second, madeToo, (), third,
      FileAction.yields_writeFile_iff.mpr reported, FileAction.yields_writeFile_iff.mpr stored⟩

/-- To provide a directory keeps what making it keeps. -/
theorem keeps_provideParent {property : FileTree → Prop} {path : String}
    (keeps : (FileAction.makeDirectories (Path.parent path)).Keeps property)
    : (provideParent path).Keeps property := by
  simp only [provideParent]
  split
  · exact keeps.adapt
  · exact fun tree before => before

/-- What is written for results stands in the file of the data. -/
theorem readText_of_writeOutputs {results : Results} {report reportPath dataPath : String}
    {tree changed : FileTree} (sound : tree.IsSound)
    (written : (writeOutputs results report reportPath dataPath).apply tree = (changed, none))
    : changed.readText dataPath = .ok results.toJson.pretty := by
  obtain ⟨first, second, third, made, madeToo, reported, stored⟩ :=
    yields_writeOutputs_iff.mp (FileAction.apply_eq_none_iff.mp written)
  have keepsSound := fun path =>
    keeps_provideParent (FileAction.keepsSound_makeDirectories (Path.parent path))
  have soundFirst := (keepsSound reportPath).yields sound made
  have soundSecond := (keepsSound dataPath).yields soundFirst madeToo
  have soundThird := soundSecond.withFile reported
  exact soundThird.readText_of_withFile stored

/-- The text written for results spells data that holds the same results, and that text is what
stands in the file once it is written: no path or text is changed, and no record is lost or taken
for one of the other sort.
-/
theorem results_readBack {results : Results} (ordered : Data.IsOrdered results)
    (fit : results.FitWords)
    : (∃ json, Json.parse results.toJson.pretty = some json ∧ Results.ofJson json = .ok results)
      ∧ ∀ (tree changed : FileTree) (report reportPath dataPath : String),
          tree.IsSound
          → (writeOutputs results report reportPath dataPath).apply tree = (changed, none)
          → ∃ text json,
              changed.readText dataPath = .ok text
              ∧ Json.parse text = some json
              ∧ Results.ofJson json = .ok results := by
  have parsed : Json.parse results.toJson.pretty = some results.toJson :=
    (Results.legible_toJson fit).parse_pretty
  have decoded := Results.ofJson_toJson ordered fit
  refine ⟨⟨results.toJson, parsed, decoded⟩, ?_⟩
  intro tree changed report reportPath dataPath sound written
  exact ⟨_, results.toJson, readText_of_writeOutputs sound written, parsed, decoded⟩

/-- An analysis whose length fills a word, with a text that needs escapes. -/
def awkwardAnalysis : Analysis where
  brandLink := true
  enterprise := false
  mission := true
  ruled := false
  centered := true
  builtWith := false
  length := Number.bitRange 64 - 1
  closing := true
  preview := "a tab\t, a bell\x07, a line\u2028, \\n and \"error\""

/-- The analysis and a reason, under paths that need escapes. -/
def awkwardResults : Results :=
  [("a \"quoted\" \\ path/README.md", .analyzed awkwardAnalysis),
    ("naïve/README.md", .unreadable "Could not read file: \x00\r\n")]

/-- Paths with quotes and signs, an error and an analysis are read back. -/
theorem awkwardResults_readBack
    : Data.IsOrdered awkwardResults
      ∧ awkwardResults.FitWords
      ∧ (∃ json, Json.parse awkwardResults.toJson.pretty = some json
          ∧ Results.ofJson json = .ok awkwardResults)
      ∧ ∃ changed text json,
          (writeOutputs awkwardResults "" "out/report.md" "out/data.json").apply .empty
              = (changed, none)
          ∧ changed.readText "out/data.json" = .ok text
          ∧ Json.parse text = some json
          ∧ Results.ofJson json = .ok awkwardResults := by
  have ordered : Data.IsOrdered awkwardResults := by
    unfold Data.IsOrdered
    decide
  have fit : awkwardResults.FitWords := by
    intro path analysis member
    have first : Result.analyzed analysis ∈ awkwardResults.map Prod.snd :=
      List.mem_map_of_mem member
    obtain rfl : analysis = awkwardAnalysis := by simpa [awkwardResults] using first
    change Number.bitRange 64 - 1 < Number.bitRange 64
    decide
  obtain ⟨readBack, stored⟩ := results_readBack ordered fit
  have succeeds : ((writeOutputs awkwardResults "" "out/report.md" "out/data.json").apply .empty).2
      = none := by
    decide +kernel
  have written : (writeOutputs awkwardResults "" "out/report.md" "out/data.json").apply .empty
      = (_, none) :=
    Prod.ext rfl succeeds
  obtain ⟨text, json, reads⟩ := stored _ _ _ _ _ FileTree.isSound_empty written
  exact ⟨ordered, fit, readBack, _, text, json, written, reads⟩

end DocSurvey.Footer
