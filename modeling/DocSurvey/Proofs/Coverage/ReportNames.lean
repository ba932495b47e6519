import DocSurvey.Proofs.Coverage.Traces
import DocSurvey.Proofs.Files.Naming
import DocSurvey.Proofs.Text.ByteOrder
import DocSurvey.Proofs.Time.Stamp

/-! The names of the files of reports. Main statement: the names are in the order of the times of
the reports, and only reports of the same second have the same name, so that no other report takes
the place of one that was written before it.
-/

namespace DocSurvey.EcosystemReport

open FileTree Text
open Time (Instant)

variable {time later : Instant} {tree changed : FileTree} {report other : EcosystemReport}
  {directory elsewhere : String}

-----------------------------------------------------------------------------------------
-- Names and times
-----------------------------------------------------------------------------------------

/-- A later report has a greater name. -/
theorem fileName_lt (regular : time.IsRegular) (regularToo : later.IsRegular)
    (before : time.seconds < later.seconds)
    : fileName time < fileName later := by
  have stamps := Instant.fileStamp_lt regular regularToo before
  have lengths : time.fileStamp.length = later.fileStamp.length := by
    rw [Instant.length_fileStamp regular, Instant.length_fileStamp regularToo]
  rw [String.lt_iff, toList_fileName, toList_fileName, List.append_assoc, List.append_assoc]
  exact List.append_left_lt (Number.append_lt_append stamps lengths _ _)

/-- Reports of the same second have the same name. -/
theorem fileName_congr (regular : time.IsRegular) (regularToo : later.IsRegular)
    (same : time.seconds = later.seconds)
    : fileName time = fileName later := by
  have stamps := Instant.fileStamp_congr regular.noLeap regularToo.noLeap same
  exact congrArg (fun stamp => "documentation_report_" ++ String.ofList stamp ++ ".json") stamps

theorem fileName_ne (regular : time.IsRegular) (regularToo : later.IsRegular)
    (differ : time.seconds ≠ later.seconds)
    : fileName time ≠ fileName later := by
  intro same
  rcases Int.lt_or_gt_of_ne differ with before | behind
  · have smaller := fileName_lt regular regularToo before
    rw [same] at smaller
    exact String.lt_irrefl _ smaller
  · have smaller := fileName_lt regularToo regular behind
    rw [same] at smaller
    exact String.lt_irrefl _ smaller

/-- Reports have the same name exactly if they are of the same second. -/
theorem fileName_eq_iff (regular : time.IsRegular) (regularToo : later.IsRegular)
    : fileName time = fileName later ↔ time.seconds = later.seconds :=
  ⟨fun same => not_not.mp fun differ => fileName_ne regular regularToo differ same,
    fileName_congr regular regularToo⟩

/-- Names are in the order of the seconds when reports are made. -/
theorem fileName_before_iff (regular : time.IsRegular) (regularToo : later.IsRegular)
    : BytesBefore (fileName time) (fileName later) ↔ time.seconds < later.seconds := by
  rw [bytesBefore_iff]
  refine ⟨fun before => ?_, fileName_lt regular regularToo⟩
  rcases Int.lt_trichotomy time.seconds later.seconds with earlier | equal | behind
  · exact earlier
  · rw [fileName_congr regular regularToo equal] at before
    exact absurd before (String.lt_irrefl _)
  · exact absurd (fileName_lt regularToo regular behind) (String.lt_asymm before)

/-- Reports in one directory have the same path exactly if they are of the same second. -/
theorem path_eq_iff (regular : report.generated.IsRegular) (regularToo : other.generated.IsRegular)
    : report.path directory = other.path directory
      ↔ report.generated.seconds = other.generated.seconds := by
  rw [path_eq, path_eq, Path.join_eq_join_iff (isName_fileName _) (isName_fileName _),
    fileName_eq_iff regular regularToo]

-----------------------------------------------------------------------------------------
-- Reports that stay
-----------------------------------------------------------------------------------------

/-- A name that the file of a report can have. -/
def IsReportName (name : String) : Prop :=
  ∃ time, name = fileName time

/-- The report stands in a tree in which no link has the name of a report: its path leads to its
text, at a place of its name.
-/
structure Stands (report : EcosystemReport) (directory : String) (tree : FileTree) : Prop where
  sound : tree.IsSound
  noLink : tree.HasNoLink IsReportName
  found : ∃ place,
    place.getLast? = some (fileName report.generated)
    ∧ tree.find true (report.path directory) = .ok (place, .file (some report.text))

theorem Stands.readText (stands : report.Stands directory tree)
    : tree.readText (report.path directory) = .ok report.text := by
  obtain ⟨place, _, found⟩ := stands.found
  unfold FileTree.readText
  rw [found]
  rfl

/-- The place that a report is written to has the name of the report. -/
theorem getLast?_of_locate (noLink : tree.HasNoLink IsReportName) {place : Place}
    (leads : tree.locate true (report.path directory) = .ok place)
    : place.getLast? = some (fileName report.generated) :=
  noLink.locate_join ⟨report.generated, rfl⟩ (isName_fileName _) leads

/-- A report that was written stands. -/
theorem stands_of_write (sound : tree.IsSound) (noLink : tree.HasNoLink IsReportName)
    (written : (report.write directory).apply tree = (changed, none))
    : report.Stands directory changed := by
  obtain ⟨between, made, done⟩ := apply_write_eq_none_iff.mp written
  have keeps : (FileAction.makeDirectories directory).Keeps fun tree =>
      tree.IsSound ∧ tree.HasNoLink IsReportName :=
    FileAction.keeps_makeDirectories fun _ _ _ before done =>
      ⟨before.1.withDirectory done, before.2.withDirectory done⟩
  obtain ⟨soundBetween, noLinkBetween⟩ := keeps.yields ⟨sound, noLink⟩ made
  obtain ⟨place, leads, found⟩ := soundBetween.find_of_withFile_self done
  exact ⟨soundBetween.withFile done, noLinkBetween.withFile soundBetween.toIsTree done, place,
    getLast?_of_locate noLinkBetween leads, found⟩

/-- A report of another name can be written anywhere, or fail to be written, and the first one
stands.
-/
theorem keepsStands_write (apart : fileName other.generated ≠ fileName report.generated)
    : (other.write elsewhere).Keeps (report.Stands directory) := by
  have makes : (FileAction.provideDirectory elsewhere).Keeps (report.Stands directory) := by
    refine FileAction.Keeps.adapt (FileAction.keeps_makeDirectories ?_)
    rintro _ tree changed ⟨sound, noLink, place, ends, found⟩ done
    exact ⟨sound.withDirectory done, noLink.withDirectory done, place, ends,
      (isWithin_withDirectory done).find found⟩
  refine makes.bind fun _ => FileAction.keeps_writeFile ?_
  rintro tree changed ⟨sound, noLink, place, ends, found⟩ done
  refine ⟨sound.withFile done, noLink.withFile sound.toIsTree done, place, ends,
    sound.find_of_withFile found done ?_⟩
  rintro there leads rfl
  exact apart (Option.some.inj ((getLast?_of_locate noLink leads).symm.trans ends))

/-- Reports are written one after another, each into a directory; one that cannot be written leaves
the directories that were made for it.
-/
def writeAll (writes : List (EcosystemReport × String)) (tree : FileTree) : FileTree :=
  writes.foldl (fun tree (report, directory) => ((report.write directory).apply tree).1) tree

/-- A report stands through all that is written after it under other names, by induction over the
writes.
-/
theorem Stands.writeAll (stands : report.Stands directory tree)
    {writes : List (EcosystemReport × String)}
    (apart : ∀ write ∈ writes, fileName write.1.generated ≠ fileName report.generated)
    : report.Stands directory (writeAll writes tree) := by
  induction writes generalizing tree with
  | nil => exact stands
  | cons write rest ih =>
      obtain ⟨first, others⟩ := List.forall_mem_cons.mp apart
      exact ih ((keepsStands_write first).apply stands) others

-----------------------------------------------------------------------------------------
-- Reports in the order of their times
-----------------------------------------------------------------------------------------

/-- The names of reports are in the order of their times to the second when they are compared byte
by byte, and reports written to the same path are of the same second. A report that was written is
read under its path whatever other reports are written after it, to any directories and of any other
seconds, if no link has the name of a report. Of the names in a directory, the last one of a report
is that of the latest.
-/
theorem names_in_order_of_time
    : (∀ time later : Instant,
        time.IsRegular
        → later.IsRegular
        → (BytesBefore (fileName time) (fileName later) ↔ time.seconds < later.seconds)
          ∧ (fileName time = fileName later ↔ time.seconds = later.seconds))
      ∧ (∀ (report other : EcosystemReport) (directory : String),
          report.generated.IsRegular
          → other.generated.IsRegular
          → report.path directory = other.path directory
          → report.generated.seconds = other.generated.seconds)
      ∧ (∀ (tree changed : FileTree) (report : EcosystemReport) (directory : String)
            (writes : List (EcosystemReport × String)),
          tree.IsSound
          → tree.HasNoLink IsReportName
          → report.generated.IsRegular
          → (∀ write ∈ writes,
              write.1.generated.IsRegular
              ∧ write.1.generated.seconds ≠ report.generated.seconds)
          → (report.write directory).apply tree = (changed, none)
          → (writeAll writes changed).readText (report.path directory) = .ok report.text)
      ∧ ∀ (tree : FileTree) (directory : String) (entries : List (String × Node))
            (latest : Instant),
          tree.readDirectory directory = .ok entries
          → latest.IsRegular
          → (∀ time : Instant,
              time.IsRegular
              → fileName time ∈ entries.map Prod.fst
              → ¬ BytesBefore (fileName latest) (fileName time))
          → ∀ time : Instant,
              time.IsRegular
              → fileName time ∈ entries.map Prod.fst
              → time.seconds ≤ latest.seconds := by
  refine ⟨?_, ?_, ?_, ?_⟩
  · intro time later regular regularToo
    exact ⟨fileName_before_iff regular regularToo, fileName_eq_iff regular regularToo⟩
  · intro report other directory regular regularToo same
    exact (path_eq_iff regular regularToo).mp same
  · intro tree changed report directory writes sound noLink regular others written
    have apart : ∀ write ∈ writes, fileName write.1.generated ≠ fileName report.generated := by
      intro write member
      obtain ⟨regularToo, differ⟩ := others write member
      exact fileName_ne regularToo regular differ
    exact ((stands_of_write sound noLink written).writeAll apart).readText
  · intro tree directory entries latest _ regular last time regularToo member
    by_contra behind
    exact last time regularToo member
      ((fileName_before_iff regular regularToo).mpr (by omega))

/-- A report on nothing, made at a time. -/
def bare (generated : Instant) : EcosystemReport :=
  .ofStats [] generated

def yearEnd : Instant := ⟨946684799, 999999999⟩

def newYear : Instant := ⟨946684800, 0⟩

def leapDay : Instant := ⟨951782400, 5⟩

/-- Reports around the turn of a year, and on a leap day. -/
theorem names_of_new_year
    : yearEnd.IsRegular
      ∧ newYear.IsRegular
      ∧ leapDay.IsRegular
      ∧ BytesBefore (fileName yearEnd) (fileName newYear)
      ∧ ((bare newYear).path "out" = (bare ⟨946684800, 7⟩).path "out"
          ∧ newYear.seconds = (946684800 : Int))
      ∧ (∃ changed,
          ((bare yearEnd).write "out").apply .empty = (changed, none)
          ∧ (writeAll [(bare newYear, "./out/"), (bare leapDay, "out/more")] changed).readText
                ((bare yearEnd).path "out")
              = .ok (bare yearEnd).text)
      ∧ ∀ time : Instant,
          time.IsRegular
          → fileName time ∈ [fileName leapDay, fileName newYear]
          → time.seconds ≤ leapDay.seconds := by
  obtain ⟨order, paths, stand, latest⟩ := names_in_order_of_time
  have atEnd : yearEnd.IsRegular := ⟨by decide, by decide, by decide⟩
  have atStart : newYear.IsRegular := ⟨by decide, by decide, by decide⟩
  have onLeapDay : leapDay.IsRegular := ⟨by decide, by decide, by decide⟩
  have samePath : (bare newYear).path "out" = (bare ⟨946684800, 7⟩).path "out" := by decide +kernel
  have sameSecond : newYear.seconds = (946684800 : Int) :=
    paths (bare newYear) (bare ⟨946684800, 7⟩) "out" atStart ⟨by decide, by decide, by decide⟩
      samePath
  have noLink : FileTree.empty.HasNoLink IsReportName := by
    intro directory name target _
    simp [get?, FileTree.empty]
  have others : ∀ write ∈ [(bare newYear, "./out/"), (bare leapDay, "out/more")],
      write.1.generated.IsRegular
      ∧ write.1.generated.seconds ≠ (bare yearEnd).generated.seconds := by
    simp only [List.forall_mem_cons]
    exact ⟨⟨atStart, by decide⟩, ⟨onLeapDay, by decide⟩, by simp⟩
  have succeeds : (((bare yearEnd).write "out").apply .empty).2 = none := by decide +kernel
  have written : ((bare yearEnd).write "out").apply .empty = (_, none) := Prod.ext rfl succeeds
  have stays := stand .empty _ (bare yearEnd) "out" _ FileTree.isSound_empty noLink atEnd others
    written
  have lists : (FileTree.mk [(["out"], .directory),
        (["out", fileName leapDay], .file none),
        (["out", fileName newYear], .file none)]).readDirectory "out"
      = .ok [(fileName leapDay, .file none), (fileName newYear, .file none)] := by
    decide +kernel
  refine ⟨atEnd, atStart, onLeapDay, (order _ _ atEnd atStart).1.mpr (by decide),
    ⟨samePath, sameSecond⟩, ⟨_, written, stays⟩, ?_⟩
  refine latest _ _ _ leapDay lists onLeapDay ?_
  intro time _ member
  rcases List.mem_pair.mp member with same | same
  · rw [same]
    decide +kernel
  · rw [same]
    decide +kernel

end DocSurvey.EcosystemReport
