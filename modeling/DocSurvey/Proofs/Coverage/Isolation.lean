import DocSurvey.Coverage.Survey

/-! A survey depends neither on the receiver of its results nor on repositories that are missing.
The receiver is handed nothing before the report is written, and then exactly what was asked for;
what it makes of it shows in the log alone.
-/

namespace DocSurvey

-----------------------------------------------------------------------------------------
-- What a receiver is handed
-----------------------------------------------------------------------------------------

/-- What is logged while a receiver is handed deliveries, each of them once and in their order. -/
def Receiver.transcript (receiver : Receiver) (before : List Delivery)
    : List Delivery → List Message
  | [] => []
  | delivery :: rest =>
      (Survey.hand receiver before delivery).messages
        ++ receiver.transcript (before ++ [delivery]) rest

/-- Deliveries in two goes are logged like those in one, by induction over the first go. -/
theorem Receiver.transcript_append (receiver : Receiver) (before first second : List Delivery)
    : receiver.transcript before (first ++ second)
      = receiver.transcript before first ++ receiver.transcript (before ++ first) second := by
  induction first generalizing before with
  | nil => simp [transcript]
  | cons delivery rest ih =>
      simp only [List.cons_append, transcript, ih, List.append_assoc, List.nil_append]

namespace Survey

/-- A delivery counts as handed over whether or not it arrives. -/
@[simp] theorem hand_value (receiver : Receiver) (before : List Delivery) (delivery : Delivery)
    : (hand receiver before delivery).value = before ++ [delivery] := by
  unfold hand
  rw [Logged.value_bind]
  cases (receiver.take before delivery).value <;> rfl

/-- Publishing hands over every report once, by induction over the reports. -/
theorem publishAll_value (receiver : Receiver) (before : List Delivery)
    (reports : List RepositoryReport)
    : (publishAll receiver before reports).value = before ++ reports.map .metrics := by
  induction reports generalizing before with
  | nil => simp [publishAll]
  | cons report rest ih => simp [publishAll, ih]

/-- What is logged about metrics is about those that did not arrive, by induction over the reports.
-/
theorem publishAll_messages (receiver : Receiver) (before : List Delivery)
    (reports : List RepositoryReport)
    : (publishAll receiver before reports).messages
      = receiver.transcript before (reports.map .metrics) := by
  induction reports generalizing before with
  | nil => simp [publishAll, Receiver.transcript]
  | cons report rest ih => simp [publishAll, ih, Receiver.transcript]

theorem fileAll_nil (receiver : Receiver) (marker : String) (before : List Delivery)
    : fileAll receiver marker before [] = pure before := rfl

theorem fileAll_cons (receiver : Receiver) (marker : String) (before : List Delivery)
    (stats : RepositoryStats) (rest : List RepositoryStats)
    : fileAll receiver marker before (stats :: rest)
      = match IssueDraft.forRepository? stats marker with
        | none => fileAll receiver marker before rest
        | some draft =>
            hand receiver before (.issue draft)
              >>= fun handed => fileAll receiver marker handed rest := by
  rfl

/-- Filing hands over every issue there is once, by induction over the repositories. -/
theorem fileAll_value (receiver : Receiver) (marker : String) (before : List Delivery)
    (stats : List RepositoryStats)
    : (fileAll receiver marker before stats).value
      = before
        ++ (stats.filterMap fun one => IssueDraft.forRepository? one marker).map .issue := by
  induction stats generalizing before with
  | nil => simp [fileAll_nil]
  | cons one rest ih =>
      cases issue : IssueDraft.forRepository? one marker with
      | none => simp [fileAll_cons, issue, ih]
      | some draft => simp [fileAll_cons, issue, ih]

/-- What is logged about issues is about those that did not arrive, by induction over the stats. -/
theorem fileAll_messages (receiver : Receiver) (marker : String) (before : List Delivery)
    (stats : List RepositoryStats)
    : (fileAll receiver marker before stats).messages
      = receiver.transcript before
          ((stats.filterMap fun one => IssueDraft.forRepository? one marker).map .issue) := by
  induction stats generalizing before with
  | nil => simp [fileAll_nil, Receiver.transcript]
  | cons one rest ih =>
      cases issue : IssueDraft.forRepository? one marker with
      | none => simp [fileAll_cons, issue, ih]
      | some draft => simp [fileAll_cons, issue, ih, Receiver.transcript]

/-- What the receiver is to be handed: the metrics of all repositories, and after them the issues of
those about which there is something to suggest, each as far as asked for.
-/
def wanted (survey : Survey) (options : Options) (report : EcosystemReport)
    (stats : List RepositoryStats) : List Delivery :=
  (if options.sendMetrics then report.repositories.map .metrics else [])
    ++ if options.createIssues then
        (stats.filterMap fun one =>
          IssueDraft.forRepository? one survey.settings.backendMarker).map .issue
      else []

/-- Delivering hands over what is wanted, and changes nothing else about the outcome. -/
theorem deliver_value (survey : Survey) (receiver : Receiver) (options : Options)
    (outcome : Outcome)
    : (survey.deliver receiver options outcome).value
      = { outcome with delivered := survey.wanted options outcome.report outcome.stats } := by
  unfold deliver wanted
  cases options.sendMetrics <;> cases options.createIssues <;>
    simp [publishAll_value, fileAll_value]

/-- What is logged of deliveries is the transcript of those that are wanted. -/
theorem deliver_messages (survey : Survey) (receiver : Receiver) (options : Options)
    (outcome : Outcome)
    : (survey.deliver receiver options outcome).messages
      = receiver.transcript [] (survey.wanted options outcome.report outcome.stats) := by
  unfold deliver wanted
  cases options.sendMetrics <;> cases options.createIssues <;>
    simp [publishAll_value, publishAll_messages, fileAll_messages, Receiver.transcript_append,
      Receiver.transcript]

-----------------------------------------------------------------------------------------
-- What is found out
-----------------------------------------------------------------------------------------

/-- What is found out about each of the configured repositories on its own, those that are missing
left out.
-/
def statsOf (survey : Survey) (tree : FileTree) (now : Time.Instant) : List RepositoryStats :=
  survey.settings.repositories.filterMap fun name => (survey.repository? tree now name).value

/-- The names of the configured repositories whose path exists. -/
def present (survey : Survey) (tree : FileTree) : List String :=
  survey.settings.repositories.filter fun name =>
    tree.contains (Path.join survey.settings.basePath name)

/-- Something is found out about a name exactly if its path exists, and it is kept under that
name.
-/
theorem repository?_name (survey : Survey) (tree : FileTree) (now : Time.Instant) (name : String)
    : (survey.repository? tree now name).value.map RepositoryStats.name
      = if tree.contains (Path.join survey.settings.basePath name) then some name else none := by
  cases found : tree.contains (Path.join survey.settings.basePath name) with
  | true => simp [repository?, found]
  | false => simp [repository?, found]

/-- Missing repositories are passed over and all others kept in their order, by induction over the
names.
-/
theorem repositories_value (survey : Survey) (tree : FileTree) (now : Time.Instant)
    (names : List String)
    : (survey.repositories tree now names).value
      = names.filterMap fun name => (survey.repository? tree now name).value := by
  induction names with
  | nil => simp [repositories]
  | cons name rest ih =>
      simp only [repositories, Logged.value_bind, Logged.value_pure, ih, List.filterMap_cons]
      cases (survey.repository? tree now name).value <;> simp

/-- Something is found out about exactly the repositories that are there. -/
theorem statsOf_names (survey : Survey) (tree : FileTree) (now : Time.Instant)
    : (survey.statsOf tree now).map RepositoryStats.name = survey.present tree := by
  unfold statsOf present
  rw [List.map_filterMap]
  simp only [repository?_name]
  rw [← List.filterMap_eq_filter]
  rfl

/-- The report that a survey comes to. -/
def reportOf (survey : Survey) (tree : FileTree) (now : Time.Instant) : EcosystemReport :=
  .ofStats (survey.statsOf tree now) now

/-- The files after the report is written, and what kept it from being written, if anything did. -/
def written (survey : Survey) (tree : FileTree) (now : Time.Instant)
    : FileTree × Option WriteError :=
  ((survey.reportOf tree now).write survey.settings.reportsPath).apply tree

/-- What is reported is found out about each repository on its own. -/
theorem findings_value (survey : Survey) (tree : FileTree) (now : Time.Instant)
    : (survey.findings tree now).value
      = ⟨survey.reportOf tree now, survey.statsOf tree now,
          (survey.reportOf tree now).path survey.settings.reportsPath, []⟩ := by
  unfold findings reportOf statsOf
  rw [Logged.value_bind, Logged.value_bind, repositories_value]
  rfl

/-- Writing the report decides whether there is an outcome; so far the receiver has no part in it.
-/
theorem writeReport_value (survey : Survey) (tree : FileTree) (now : Time.Instant)
    : (survey.writeReport tree now).value
      = match survey.written tree now with
        | (changed, some problem) => (changed, .error problem)
        | (changed, none) =>
            (changed, .ok ⟨survey.reportOf tree now, survey.statsOf tree now,
              (survey.reportOf tree now).path survey.settings.reportsPath, []⟩) := by
  unfold writeReport
  rw [Logged.value_bind, findings_value]
  unfold written
  rcases ((survey.reportOf tree now).write survey.settings.reportsPath).apply tree
    with ⟨changed, _ | problem⟩ <;> rfl

/-- That a report is written is logged behind what was found. -/
theorem writeReport_messages (survey : Survey) (tree : FileTree) (now : Time.Instant)
    : (survey.writeReport tree now).messages
      = (survey.findings tree now).messages
        ++ match (survey.written tree now).2 with
          | some _ => []
          | none =>
              [⟨.info, .survey,
                savedText ((survey.reportOf tree now).path survey.settings.reportsPath)⟩] := by
  unfold writeReport
  rw [Logged.messages_bind, findings_value]
  unfold written
  rcases ((survey.reportOf tree now).write survey.settings.reportsPath).apply tree
    with ⟨changed, _ | problem⟩
  · simp [Logged.say]
  · simp

-----------------------------------------------------------------------------------------
-- Whole surveys
-----------------------------------------------------------------------------------------

/-- A repository has an issue if there is something to suggest, and the issue is named after it. -/
theorem forRepository?_repository (stats : RepositoryStats) (marker : String)
    : (IssueDraft.forRepository? stats marker).map IssueDraft.repository
      = if Suggestion.all stats marker ≠ [] then some stats.name else none := by
  unfold IssueDraft.forRepository?
  cases Suggestion.all stats marker with
  | nil => rfl
  | cons first rest => rfl

/-- The issues are those of the repositories about which there is something to suggest. -/
theorem issues_repositories (stats : List RepositoryStats) (marker : String)
    : (stats.filterMap fun one => IssueDraft.forRepository? one marker).map IssueDraft.repository
      = (stats.filter fun one => Suggestion.all one marker ≠ []).map RepositoryStats.name := by
  rw [List.map_filterMap]
  simp only [forRepository?_repository]
  induction stats with
  | nil => rfl
  | cons one rest ih =>
      by_cases any : Suggestion.all one marker = []
      · simpa [any] using ih
      · simpa [any] using ih

/-- A survey writes its report and hands over what is wanted, or ends with what kept it from
writing.
-/
theorem run_value (survey : Survey) (tree : FileTree) (now : Time.Instant) (receiver : Receiver)
    (options : Options)
    : (survey.run tree now receiver options).value
      = match survey.written tree now with
        | (changed, some problem) => (changed, .error problem)
        | (changed, none) =>
            (changed, .ok ⟨survey.reportOf tree now, survey.statsOf tree now,
              (survey.reportOf tree now).path survey.settings.reportsPath,
              survey.wanted options (survey.reportOf tree now) (survey.statsOf tree now)⟩) := by
  unfold run
  rw [Logged.value_bind, writeReport_value]
  rcases survey.written tree now with ⟨changed, _ | problem⟩ <;> simp [deliver_value]

/-- A survey logs what it finds, and about deliveries only if its report is written. -/
theorem run_messages (survey : Survey) (tree : FileTree) (now : Time.Instant)
    (receiver : Receiver) (options : Options)
    : (survey.run tree now receiver options).messages
      = (survey.writeReport tree now).messages
        ++ match (survey.written tree now).2 with
          | some _ => []
          | none =>
              receiver.transcript []
                (survey.wanted options (survey.reportOf tree now) (survey.statsOf tree now)) := by
  unfold run
  rw [Logged.messages_bind, writeReport_value]
  rcases survey.written tree now with ⟨changed, _ | problem⟩ <;> simp [deliver_messages]

end Survey

end DocSurvey
