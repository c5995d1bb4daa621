import CodeSurvey.Proofs.Archive.Marks
import CodeSurvey.Proofs.Command.Analysis
import CodeSurvey.Proofs.Config.Source
import Mathlib.Data.List.Infix

/-!
# Analyses can be repeated

An analysis that is carried out either fails and touches nothing, or touches nothing but its
record.  Carried out once more it comes to the same, even if the record is in the directory that
is analyzed: a record is no source.  This is so as long as the first run has not changed what the
second one reads.
-/

namespace CodeSurvey.Command

open FileTree

variable {t : FileTree} {cwd : Location} {color : Bool} {a : AnalyzeArguments} {report : RunReport}
  {p : Path}

section

variable [Grammars]

theorem executeAnalyze_of_error {e : CommandError} (h : analysis t cwd a = .error e) :
    executeAnalyze t cwd color a = .failure e a.debug [] [] := by
  rw [executeAnalyze, h]

theorem executeAnalyze_of_no_directory (h : analysis t cwd a = .ok (report, none)) :
    executeAnalyze t cwd color a = .success (reportLines color report a.format) [] := by
  rw [executeAnalyze, h]
  rfl

end

/-- What comes of a command after its record has been written, or could not be written. -/
def outcomeOf (color : Bool) (a : AnalyzeArguments) (report : RunReport) :
    List Change × Except CommandError String → Outcome
  | (changes, .error e) => .failure e a.debug (reportLines color report a.format) changes
  | (changes, .ok path) =>
    .success (reportLines color report a.format ++
      if a.format = .pretty then ["  Report written to " ++ path] else []) changes

theorem executeAnalyze_of_directory [Grammars] (h : analysis t cwd a = .ok (report, some p)) :
    executeAnalyze t cwd color a = outcomeOf color a report (writeRecord t report p) := by
  rw [executeAnalyze, h]
  dsimp only [Option.map_some]
  cases writeRecord t report p with
  | mk changes written => cases written <;> rfl

@[simp] theorem changes_outcomeOf (w : List Change × Except CommandError String) :
    (outcomeOf color a report w).changes = w.1 := by
  obtain ⟨changes, written⟩ := w
  cases written <;> rfl

/-- The format of the report makes no difference to the run. -/
theorem analysis_format [Grammars] (t : FileTree) (cwd : Location) (a : AnalyzeArguments) (format : OutputFormat) :
    analysis t cwd { a with format } = analysis t cwd a := rfl

theorem accept_of_output {raw : String} {directory : Option Path} (houtput : a.output = some raw)
    (h : a.output.mapM (OutputPath.accept (Location.path cwd)) = .ok directory) :
    ∃ p, OutputPath.accept (Location.path cwd) raw = .ok p ∧ directory = some p := by
  rw [houtput] at h
  cases haccept : OutputPath.accept (Location.path cwd) raw with
  | error e => simp [haccept, Functor.map, Except.map] at h
  | ok p =>
    simp [haccept, Functor.map, Except.map] at h
    exact ⟨p, rfl, h.symm⟩

theorem isKnown_recordPlace (p : Path) :
    (Language.ofFileName ((recordPlace p).getLast?.getD "")).isKnown = false := by
  have hlast : (recordPlace p).getLast? = some recordName := by simp [recordPlace]
  rw [hlast]
  decide +kernel

/-- There are no links on the way to where a record is asked for. -/
def NoLinksToRecord (t : FileTree) (cwd : Location) (a : AnalyzeArguments) : Prop :=
  ∀ raw p, a.output = some raw → OutputPath.accept (Location.path cwd) raw = .ok p → NoLinks t p

theorem changes_of_error [Grammars] {e : CommandError} (h : analysis t cwd a = .error e) :
    (executeAnalyze t cwd color a).changes = [] := by
  rw [executeAnalyze_of_error h]
  rfl

/-- What is printed as JSON is the text of the report. -/
theorem stdout_outcomeOf_json {path : String} (cs : List Change) :
    (outcomeOf color { a with format := .json } report (cs, .ok path)).stdout =
      report.toJson.text ++ "\n" := by
  simp [outcomeOf, reportLines, Outcome.success, Outcome.stdout, Outcome.written]

/-- A command that succeeds has written its record if it was asked to, and has touched nothing
else. -/
theorem changes_of_success [Grammars] (hlinks : NoLinksToRecord t cwd a)
    (hcode : (executeAnalyze t cwd color a).code = 0) :
    (a.output = none → (executeAnalyze t cwd color a).changes = []) ∧
      ∀ raw, a.output = some raw → ∃ p text, OutputPath.accept (Location.path cwd) raw = .ok p ∧
        RecordWritten t p text (executeAnalyze t cwd color a).changes ∧
        (executeAnalyze t cwd color { a with format := .json }).stdout = text ++ "\n" := by
  cases hanalysis : analysis t cwd a with
  | error e =>
    rw [executeAnalyze_of_error hanalysis] at hcode
    cases hcode
  | ok found =>
    obtain ⟨report, directory⟩ := found
    obtain ⟨-, -, -, -, -, houtput, -⟩ := analysis_eq_ok_iff.mp hanalysis
    constructor
    · intro hnone
      rw [hnone] at houtput
      obtain rfl : none = directory := Except.ok.inj houtput
      rw [executeAnalyze_of_no_directory hanalysis]
      rfl
    · intro raw hraw
      obtain ⟨p, haccept, rfl⟩ := accept_of_output hraw houtput
      have hjson := (analysis_format t cwd a .json).trans hanalysis
      refine ⟨p, report.toJson.text, haccept, ?_⟩
      rw [executeAnalyze_of_directory hanalysis] at hcode ⊢
      rw [executeAnalyze_of_directory hjson]
      have hcourse := recordCourse_writeRecord (hlinks raw p hraw haccept) report
      generalize writeRecord t report p = w at hcode hcourse ⊢
      cases hcourse with
      | noDirectory _ => cases hcode
      | unwritable _ _ => cases hcode
      | written hmade _ => exact ⟨recordWritten hmade _, stdout_outcomeOf_json _⟩

/-- What comes of a command depends on how its record was written, but not on where. -/
theorem outcomeOf_congr {w w' : List Change × Except CommandError String} (h : w'.2 = w.2) :
    outcomeOf color a report w' = { outcomeOf color a report w with changes := w'.1 } := by
  obtain ⟨changes, written⟩ := w
  obtain ⟨changes', written'⟩ := w'
  obtain rfl : written' = written := h
  cases written' <;> rfl

/-- The directory for a record is one that was asked for and accepted. -/
theorem output_of_analysis [Grammars] (h : analysis t cwd a = .ok (report, some p)) :
    ∃ raw, a.output = some raw ∧ OutputPath.accept (Location.path cwd) raw = .ok p := by
  obtain ⟨-, -, -, -, -, houtput, -⟩ := analysis_eq_ok_iff.mp h
  cases hraw : a.output with
  | none =>
    rw [hraw] at houtput
    cases houtput
  | some raw =>
    obtain ⟨p', haccept, heq⟩ := accept_of_output hraw houtput
    exact ⟨raw, rfl, haccept.trans (congrArg _ (Option.some.inj heq).symm)⟩

/-- The record that is asked for is none of the files that the command reads. -/
def RecordUnread (t : FileTree) (cwd : Location) (a : AnalyzeArguments) : Prop :=
  ∀ raw p, a.output = some raw → OutputPath.accept (Location.path cwd) raw = .ok p →
    ¬Reads t cwd a (recordPlace p)

/-- If the input is a file, there is room to unpack it in, even after a record has been written. -/
def RoomToUnpack (t : FileTree) (cwd : Location) (a : AnalyzeArguments) : Prop :=
  ∀ loc content, t.find cwd a.input = .ok (loc, .file content) → Workspace.HasRoom t

/-- A command that is carried out on what it has left behind finds out the same and says the same,
and leaves everything as it is. -/
theorem executeAnalyze_again [Grammars] (hlinks : NoLinksToRecord t cwd a) (hunread : RecordUnread t cwd a)
    {t' : FileTree} (ht' : t.applyAll (executeAnalyze t cwd color a).changes = t')
    (hdiscover : a.config = none → Config.discover t' cwd (Location.path cwd) =
      Config.discover t cwd (Location.path cwd))
    (hroom : RoomToUnpack t cwd a) :
    analysis t' cwd a = analysis t cwd a ∧
      executeAnalyze t' cwd color a = { executeAnalyze t cwd color a with
        changes := (executeAnalyze t' cwd color a).changes } ∧
      ∀ loc, (t'.applyAll (executeAnalyze t' cwd color a).changes).get? loc = t'.get? loc := by
  -- A run that has touched nothing is repeated on the same tree.
  have hsame (hnone : (executeAnalyze t cwd color a).changes = []) :
      analysis t' cwd a = analysis t cwd a ∧
        executeAnalyze t' cwd color a = { executeAnalyze t cwd color a with
          changes := (executeAnalyze t' cwd color a).changes } ∧
        ∀ loc, (t'.applyAll (executeAnalyze t' cwd color a).changes).get? loc = t'.get? loc := by
    obtain rfl : t = t' := by rw [← ht', hnone, applyAll_nil]
    refine ⟨rfl, rfl, fun loc ↦ ?_⟩
    rw [hnone, applyAll_nil]
  cases hanalysis : analysis t cwd a with
  | error e => exact hanalysis ▸ hsame (changes_of_error hanalysis)
  | ok found =>
    obtain ⟨report, directory⟩ := found
    cases directory with
    | none =>
      refine hanalysis ▸ hsame ?_
      rw [executeAnalyze_of_no_directory hanalysis]
      rfl
    | some p =>
      obtain ⟨raw, hraw, haccept⟩ := output_of_analysis hanalysis
      have hno := hlinks raw p hraw haccept
      rw [executeAnalyze_of_directory hanalysis, changes_outcomeOf] at ht'
      have hlarger := enlarged_writeRecord hno report
      have hagain := writeRecord_again hno report
      dsimp only at hagain
      rw [ht'] at hlarger hagain
      -- The record takes one of the free names at most, so both workspaces have usual names.
      have hsize (loc : Location) (content : ByteArray) (hfind : t.find cwd a.input = .ok (loc, .file content)) :
          (Location.path (Workspace.location t)).utf8ByteSize =
            (Location.path (Workspace.location t')).utf8ByteSize := by
        have hkept (loc : Location) (hloc : ¬loc <+: recordPlace p) : t'.get? loc = t.get? loc :=
          ht' ▸ get?_applyAll_writeRecord hno report hloc
        obtain ⟨n, hn, hfree, hfree'⟩ := (hroom loc content hfind).exists_isFree hkept
        rw [Workspace.utf8ByteSize_path_location hfree hn, Workspace.utf8ByteSize_path_location hfree' hn]
      have hanalysis' := analysis_of_enlarged hlarger (isKnown_recordPlace p)
        (hunread raw p hraw haccept) hdiscover hsize hanalysis
      rw [executeAnalyze_of_directory hanalysis, executeAnalyze_of_directory hanalysis',
        changes_outcomeOf]
      exact ⟨hanalysis', outcomeOf_congr hagain.1, hagain.2⟩

/-- An analysis that fails touches nothing.  One that succeeds touches its record and the missing
directories above it, if a record is asked for, and the record holds what is printed as JSON.  An
analysis that is carried out again on what it has left behind comes to the same: the record is not
read unless it is the configuration or the input, and is no source. -/
theorem executeAnalyze_repeatable [Grammars] (t : FileTree) (cwd : Location) (color : Bool) (a : AnalyzeArguments)
    (hlinks : NoLinksToRecord t cwd a) :
    let o := executeAnalyze t cwd color a
    let t' := t.applyAll o.changes
    (Fails t cwd a → o.code = 2 ∧ o.stdout = "" ∧ o.changes = []) ∧
    (o.code = 0 → (a.output = none → o.changes = []) ∧
      ∀ raw, a.output = some raw → ∃ p text, OutputPath.accept (Location.path cwd) raw = .ok p ∧
        RecordWritten t p text o.changes ∧
        (executeAnalyze t cwd color { a with format := .json }).stdout = text ++ "\n") ∧
    (RecordUnread t cwd a →
      (a.config = none → Config.discover t' cwd (Location.path cwd) =
        Config.discover t cwd (Location.path cwd)) →
      RoomToUnpack t cwd a →
      analysis t' cwd a = analysis t cwd a ∧
        executeAnalyze t' cwd color a = { o with changes := (executeAnalyze t' cwd color a).changes } ∧
        ∀ loc, (t'.applyAll (executeAnalyze t' cwd color a).changes).get? loc = t'.get? loc) := by
  refine ⟨fun hfails ↦ ?_, changes_of_success hlinks, fun hunread hdiscover hroom ↦
    executeAnalyze_again hlinks hunread rfl hdiscover hroom⟩
  obtain ⟨e, he⟩ := hfails.analysis_eq_error
  rw [executeAnalyze_of_error he]
  exact ⟨rfl, rfl, rfl⟩

/-! ## Commands without a configuration -/

/-- The options without a configuration. -/
def usualOptions : SurveyOptions := ⟨Limits.builtin.maxFileSize, 1, []⟩

/-- An analysis without a configuration is a run with the usual options. -/
theorem analysis_of_run [Grammars] (hdiscover : Config.discover t cwd (Location.path cwd) = none)
    (hconfig : a.config = none) (hjobs : a.jobs = none) {raw : String} (hraw : a.output = some raw)
    (haccept : OutputPath.accept (Location.path cwd) raw = .ok p)
    (hrun : run t cwd .builtin usualOptions a.input = .ok report) :
    analysis t cwd a = .ok (report, some p) := by
  have hload : loadConfig t cwd a.config = .ok ∅ := by
    rw [loadConfig_eq_ok_iff, hconfig]
    exact ⟨none, Config.load_of_discover_eq_none hdiscover⟩
  have hoptions : (∅ : Config).surveyOptions a.jobs = .ok usualOptions := by
    rw [hjobs]
    rfl
  have houtput : a.output.mapM (OutputPath.accept (Location.path cwd)) = .ok (some p) := by
    rw [hraw]
    simp [haccept, Functor.map, Except.map]
  exact analysis_eq_ok_iff.mpr ⟨by simp [hjobs], ∅, usualOptions, hload, hoptions, houtput, hrun⟩

/-- A command succeeds if its analysis does and its record can be written. -/
theorem executeAnalyze_of_openFailure? [Grammars] (color : Bool)
    (hanalysis : analysis t cwd a = .ok (report, some p)) (hno : NoLinks t p)
    (hmade : (t.makeDirectories [] p.names).2 = none)
    (hopen : t.openFailure? (recordPlace p) = none) :
    (executeAnalyze t cwd color a).code = 0 ∧ (executeAnalyze t cwd color a).changes =
      (t.makeDirectories [] p.names).1 ++ writing (recordPlace p) [report.toJson.text.toUTF8] := by
  rw [executeAnalyze_of_directory hanalysis, writeRecord_of_openFailure? hno hmade hopen]
  exact ⟨rfl, rfl⟩

/-- There are no links on the way if whatever is there is a directory or a file. -/
theorem noLinks_of_inits (h : ∀ way ∈ (recordPlace p).inits, t.get? way = none ∨
    t.get? way = some .directory ∨ ((t.get? way).bind Node.content?).isSome = true) : NoLinks t p := by
  intro way hway target hlink
  have hlink : t.get? way = some (.link target) := hlink
  have hkind := h way ((List.mem_inits _ _).mpr hway)
  rw [hlink] at hkind
  simp [Node.content?] at hkind

/-- A record is asked for in one place only. -/
theorem eq_of_accept {raw raw' : String} {p' : Path} (houtput : a.output = some raw)
    (haccept : OutputPath.accept (Location.path cwd) raw = .ok p) (houtput' : a.output = some raw')
    (haccept' : OutputPath.accept (Location.path cwd) raw' = .ok p') : p' = p := by
  obtain rfl := Option.some.inj (houtput.symm.trans houtput')
  exact Except.ok.inj (haccept'.symm.trans haccept)

theorem NoLinks.noLinksToRecord (h : NoLinks t p) {raw : String} (houtput : a.output = some raw)
    (haccept : OutputPath.accept (Location.path cwd) raw = .ok p) : NoLinksToRecord t cwd a :=
  fun _ _ houtput' haccept' ↦ eq_of_accept houtput haccept houtput' haccept' ▸ h

/-- What is read for the analysis of a directory is its configuration, if there is one. -/
theorem recordUnread_of_directory {root : Location} (hfind : t.find cwd a.input = .ok (root, .directory))
    (hconfig : ∀ path loc content, (a.config <|> Config.discover t cwd (Location.path cwd)) = some path →
      t.find cwd path = .ok (loc, .file content) → loc.getLast? ≠ some recordName) :
    RecordUnread t cwd a := by
  intro raw p _ _ hread
  have hlast : (recordPlace p).getLast? = some recordName := by simp [recordPlace]
  generalize recordPlace p = place at hread hlast
  cases hread with
  | config hsource hfile => exact hconfig _ _ _ hsource hfile hlast
  | input hinput => cases hfind.symm.trans hinput
  | archive hinput _ => cases hfind.symm.trans hinput

/-! ## A record in the directory that is analyzed -/

/-- The directory `p` is analyzed, and the record is written into a directory in it. -/
def nestedRecord : AnalyzeArguments := ⟨"p", some "p/out", .pretty, none, none, false, false⟩

/-- The record is one more file in the directory that is analyzed, but not for an analysis. -/
theorem executeAnalyze_repeatable_nestedRecord :
    let o := executeAnalyze plainTree [] false nestedRecord
    let t' := plainTree.applyAll o.changes
    NoLinksToRecord plainTree [] nestedRecord ∧ RecordUnread plainTree [] nestedRecord ∧
      Config.discover t' [] (Location.path []) = Config.discover plainTree [] (Location.path []) ∧
      Workspace.HasRoom plainTree ∧ RoomToUnpack plainTree [] nestedRecord ∧
      o.code = 0 ∧ t'.get? ["p", "out"] = some .directory ∧
      analysis t' [] nestedRecord = analysis plainTree [] nestedRecord ∧
      executeAnalyze t' [] false nestedRecord =
        { o with changes := (executeAnalyze t' [] false nestedRecord).changes } := by
  intro o t'
  have haccept : OutputPath.accept (Location.path []) "p/out" = .ok ⟨true, ["p", "out"]⟩ := by decide
  have hno : NoLinks plainTree ⟨true, ["p", "out"]⟩ := noLinks_of_inits (by decide +kernel)
  have hlinks : NoLinksToRecord plainTree [] nestedRecord := hno.noLinksToRecord rfl haccept
  have hfind : plainTree.find [] "p" = .ok (["p"], .directory) :=
    find_name (by decide) (by decide) (by decide +kernel) nofun
  have hdiscover : Config.discover plainTree [] (Location.path []) = none :=
    Config.discover_eq_none_of_get? (by decide +kernel)
  have hunread : RecordUnread plainTree [] nestedRecord :=
    recordUnread_of_directory hfind fun path _ _ hsource _ ↦ nomatch hdiscover.symm.trans hsource
  have hanalysis := analysis_of_run (a := nestedRecord) hdiscover rfl rfl rfl haccept
    (run_of_directory (Input.accept_directory_iff.mpr hfind) usualOptions)
  have hcode : o.code = 0 :=
    (executeAnalyze_of_openFailure? false hanalysis hno (by decide +kernel) (by decide +kernel)).1
  obtain ⟨-, hwritten, hagain⟩ := executeAnalyze_repeatable plainTree [] false nestedRecord hlinks
  obtain ⟨p, text, hok, hrecord, -⟩ := (hwritten hcode).2 "p/out" rfl
  obtain rfl := eq_of_accept (a := nestedRecord) rfl haccept rfl hok
  have hdiscover' : Config.discover t' [] (Location.path []) = none := by
    have hfree : ∀ name ∈ Config.fileNames, [name] ≠ recordPlace ⟨true, ["p", "out"]⟩ ∧
        ¬[name] <+: ["p", "out"] ∧ plainTree.get? [name] = none := by decide +kernel
    refine Config.discover_eq_none_of_get? fun name hname ↦ ?_
    obtain ⟨hplace, hway, hnone⟩ := hfree name hname
    exact (hrecord.untouched [name] hplace fun h ↦ hway h.1).trans hnone
  have hroom : Workspace.HasRoom plainTree := Workspace.hasRoom_of_below_eq_nil (by decide +kernel)
  have hsame := hagain hunread (fun _ ↦ hdiscover'.trans hdiscover.symm) fun _ _ _ ↦ hroom
  exact ⟨hlinks, hunread, hdiscover'.trans hdiscover.symm, hroom, fun _ _ _ ↦ hroom, hcode,
    hrecord.directory ["p", "out"] (List.prefix_refl _), hsame.1, hsame.2.1⟩

/-! ## What the first run may change for the second -/

/-- The record that is asked for is not the configuration. -/
def ConfigApart (t : FileTree) (cwd : Location) (a : AnalyzeArguments) : Prop :=
  ∀ raw p path n, a.output = some raw → OutputPath.accept (Location.path cwd) raw = .ok p →
    (a.config <|> Config.discover t cwd (Location.path cwd)) = some path →
    t.find cwd path ≠ .ok (recordPlace p, n)

/-- A command that succeeds, but fails when it is carried out again on what it has left behind,
though its record is reached without links and is not the configuration of either run. -/
structure FailsAgain [Grammars] (t : FileTree) (cwd : Location) (a : AnalyzeArguments) : Prop where
  noLinks : NoLinksToRecord t cwd a
  configApart : ConfigApart t cwd a
  success : (executeAnalyze t cwd false a).code = 0
  configApart_again : ConfigApart (t.applyAll (executeAnalyze t cwd false a).changes) cwd a
  failure : (executeAnalyze (t.applyAll (executeAnalyze t cwd false a).changes) cwd false a).code = 2

theorem configApart_of_discover (hconfig : a.config = none)
    (h : Config.discover t cwd (Location.path cwd) = none) : ConfigApart t cwd a := by
  intro raw p path n _ _ hsource
  rw [hconfig, h] at hsource
  cases hsource

/-- A configuration is looked for behind a link that leads through the directory for the record.
It is found as soon as this directory is there, and it is not even text. -/
def latentTree : FileTree :=
  ⟨⟨[(["archlens.yaml"], .link "out/../bad.yaml"), (["bad.yaml"], .file ⟨#[0xff]⟩),
    (["src"], .directory)], by decide +kernel⟩⟩

def latentArguments : AnalyzeArguments := ⟨"src", some "out", .json, none, none, false, false⟩

theorem locate_latent (hlink : t.get? ["archlens.yaml"] = some (.link "out/../bad.yaml")) :
    t.locate [] (Location.path ["archlens.yaml"]) true =
      t.follow true 39 [] ["out", "..", "bad.yaml"] := by
  have hsteps : steps "out/../bad.yaml" = ["out", "..", "bad.yaml"] := by decide
  rw [locate_path (by decide) (by decide), maxLinks, follow_link (by decide) (by decide) rfl hlink,
    hsteps]
  rfl

/-- The link leads nowhere as long as there is no directory for the record. -/
theorem find_latent_of_none (hlink : t.get? ["archlens.yaml"] = some (.link "out/../bad.yaml"))
    (hout : t.get? ["out"] = none) :
    t.find [] (Location.path ["archlens.yaml"]) = .error .notFound := by
  rw [find, locate_latent hlink, follow_none (by decide) (by decide) rfl hout]

theorem find_latent_of_directory (hlink : t.get? ["archlens.yaml"] = some (.link "out/../bad.yaml"))
    (hout : t.get? ["out"] = some .directory) {content : ByteArray}
    (hbad : t.get? ["bad.yaml"] = some (.file content)) :
    t.find [] (Location.path ["archlens.yaml"]) = .ok (["bad.yaml"], .file content) := by
  rw [find, locate_latent hlink, follow_down (n := .directory) (by decide) (by decide) rfl hout (by simp),
    List.nil_append, follow_up hout, List.dropLast_singleton,
    follow_singleton (n := .file content) (by decide) (by decide) hbad (by simp)]
  dsimp only
  rw [hbad]

/-- The second run finds a configuration that the first one has not found. -/
theorem failsAgain_latentTree [Grammars] : FailsAgain latentTree [] latentArguments := by
  have haccept : OutputPath.accept (Location.path []) "out" = .ok ⟨true, ["out"]⟩ := by decide
  have hno : NoLinks latentTree ⟨true, ["out"]⟩ := noLinks_of_inits (by decide +kernel)
  have hlinks : NoLinksToRecord latentTree [] latentArguments := hno.noLinksToRecord rfl haccept
  have hfind : latentTree.find [] "src" = .ok (["src"], .directory) :=
    find_name (by decide) (by decide) (by decide +kernel) nofun
  have hdiscover : Config.discover latentTree [] (Location.path []) = none := by
    refine Config.discover_eq_none fun name hname ↦ ?_
    simp only [Config.fileNames, List.mem_cons, List.not_mem_nil, or_false] at hname
    rcases hname with rfl | rfl
    · exact find_latent_of_none (by decide +kernel) (by decide +kernel)
    · exact find_path_of_none (by decide) (by decide) (by decide +kernel) []
  have hanalysis := analysis_of_run (a := latentArguments) hdiscover rfl rfl rfl haccept
    (run_of_directory (Input.accept_directory_iff.mpr hfind) usualOptions)
  have hcode :=
    (executeAnalyze_of_openFailure? false hanalysis hno (by decide +kernel) (by decide +kernel)).1
  obtain ⟨p, text, hok, hrecord, -⟩ := (changes_of_success hlinks hcode).2 "out" rfl
  obtain rfl := eq_of_accept (a := latentArguments) rfl haccept rfl hok
  have hold (loc : Location) (hloc : loc ≠ ["out", "analysis.json"]) (hway : ¬loc <+: ["out"]) :=
    hrecord.untouched loc hloc fun h ↦ hway h.1
  -- Now there is a directory for the record, so the link leads somewhere.
  have hbad := find_latent_of_directory ((hold _ (by simp) (by simp)).trans (by decide +kernel))
    (hrecord.directory ["out"] (List.prefix_refl _))
    ((hold _ (by simp) (by simp)).trans (by decide +kernel : _ = some (Node.file ⟨#[0xff]⟩)))
  have hdiscover' := Config.discover_eq_some_of_find hbad
  have hload := Config.load_of_not_text hdiscover' (by rw [FileTree.read, hbad]) (by decide +kernel)
  obtain ⟨e, he⟩ := (Fails.config (a := latentArguments) hload).analysis_eq_error
  refine ⟨hlinks, configApart_of_discover rfl hdiscover, hcode, ?_, ?_⟩
  · intro raw p path n hraw hok hsource hfile
    obtain rfl := eq_of_accept rfl haccept hraw hok
    obtain rfl := Option.some.inj (hdiscover'.symm.trans hsource)
    exact absurd (congrArg Prod.fst (Except.ok.inj (hbad.symm.trans hfile)))
      (by simp [recordPlace])
  · rw [executeAnalyze_of_error he]
    rfl

/-- An archive with nothing in it: the end record alone. -/
def emptyArchive : ByteArray := ⟨⟨[80, 75, 5, 6] ++ List.replicate 18 0⟩⟩

/-- The archive that is analyzed stands where the record is written. -/
def selfTree : FileTree :=
  ⟨⟨[(["out"], .directory), (["out", "analysis.json"], .file emptyArchive),
    (["x.zip"], .link "out/analysis.json")], by decide +kernel⟩⟩

def selfArguments : AnalyzeArguments := ⟨"x.zip", some "out", .json, none, none, false, false⟩

section

variable {content : ByteArray} (hout : t.get? ["out"] = some .directory)
  (hrecord : t.get? ["out", "analysis.json"] = some (.file content))

include hout hrecord

theorem follow_self (links : Nat) :
    t.follow true links [] ["out", "analysis.json"] = .ok ["out", "analysis.json"] := by
  rw [follow_down (n := .directory) (by decide) (by decide) rfl hout nofun, List.nil_append,
    follow_down (n := .file content) (by decide) (by decide) hout hrecord nofun, follow]
  rfl

theorem find_self (hlink : t.get? ["x.zip"] = some (.link "out/analysis.json")) :
    t.find [] "x.zip" = .ok (["out", "analysis.json"], .file content) := by
  have hsteps : steps "out/analysis.json" = ["out", "analysis.json"] := by decide
  rw [find, locate_name (by decide) (by decide), maxLinks, follow_link (by decide) (by decide) rfl hlink,
    hsteps, List.append_nil, ite_self, follow_self hout hrecord]
  dsimp only
  rw [hrecord]

theorem find_path_self : t.find [] (Location.path ["out", "analysis.json"]) =
    .ok (["out", "analysis.json"], .file content) := by
  have hsteps : steps (Location.path ["out", "analysis.json"]) = ["out", "analysis.json"] := by decide
  rw [find, locate, if_neg (by decide), if_neg (by decide), if_neg (by decide), hsteps, ite_self,
    follow_self hout hrecord]
  dsimp only
  rw [hrecord]

end

/-- No record can be analyzed as an archive. -/
theorem run_eq_error_of_record [Grammars] {raw : String} {loc loc' : Location} {j : Json String}
    (hfind : t.find cwd raw = .ok (loc, .file j.text.toUTF8))
    (hopened : t.find [] (Location.path loc) = .ok (loc', .file j.text.toUTF8)) (limits : Limits)
    (options : SurveyOptions) : ∃ e, run t cwd limits options raw = .error e := by
  cases hrun : run t cwd limits options raw with
  | error e => exact ⟨e, rfl⟩
  | ok report =>
    obtain ⟨prepared, hprepared, -⟩ := bind_eq_ok_iff.mp hrun
    rcases PreparedInput.ofPath_cases hprepared with
      ⟨root, haccept, -⟩ | ⟨root, entries, haccept, hentries, -⟩
    · cases hfind.symm.trans (Input.accept_directory_iff.mp haccept)
    · obtain ⟨content, hfind', -⟩ := Input.accept_archive_iff.mp haccept
      obtain ⟨rfl, -⟩ := Prod.mk.inj (Except.ok.inj (hfind.symm.trans hfind'))
      obtain ⟨e, he⟩ := Archive.entries_text_eq_error j limits.maxFileSize.toNat
      rw [Input.entries, hopened] at hentries
      dsimp only at hentries
      rw [he] at hentries
      cases hentries

theorem exists_run_selfTree [Grammars] : ∃ report, run selfTree [] .builtin usualOptions "x.zip" = .ok report := by
  have hout : selfTree.get? ["out"] = some .directory := by decide +kernel
  have hfile : selfTree.get? ["out", "analysis.json"] = some (.file emptyArchive) := by decide +kernel
  have hinput : Input.accept selfTree [] .builtin "x.zip" = .ok (.archive ["out", "analysis.json"]) :=
    Input.accept_archive_iff.mpr
      ⟨_, find_self hout hfile (by decide +kernel), by decide +kernel⟩
  cases hall : Archive.entries emptyArchive Limits.builtin.maxFileSize.toNat with
  | error e =>
    have hopens : (Archive.entries emptyArchive Limits.builtin.maxFileSize.toNat).isOk = true := by
      decide +kernel
    rw [hall] at hopens
    cases hopens
  | ok entries =>
    have hentries : Input.entries selfTree [] .builtin (Location.path ["out", "analysis.json"]) =
        .ok entries := by
      rw [Input.entries, find_path_self hout hfile]
      dsimp only
      rw [hall]
      rfl
    obtain ⟨report, hrun, -⟩ :=
      run_of_prepared (PreparedInput.ofPath_of_archive hinput hentries) usualOptions
    exact ⟨report, hrun⟩

/-- The second run finds the record in the place of the archive. -/
theorem failsAgain_selfTree [Grammars] : FailsAgain selfTree [] selfArguments := by
  have haccept : OutputPath.accept (Location.path []) "out" = .ok ⟨true, ["out"]⟩ := by decide
  have hno : NoLinks selfTree ⟨true, ["out"]⟩ := noLinks_of_inits (by decide +kernel)
  have hlinks : NoLinksToRecord selfTree [] selfArguments := hno.noLinksToRecord rfl haccept
  have hdiscover : Config.discover selfTree [] (Location.path []) = none :=
    Config.discover_eq_none_of_get? (by decide +kernel)
  obtain ⟨report, hrun⟩ := exists_run_selfTree
  have hanalysis := analysis_of_run (a := selfArguments) hdiscover rfl rfl rfl haccept hrun
  have hmade : (selfTree.makeDirectories [] ["out"]).2 = none := by decide +kernel
  obtain ⟨hcode, hchanges⟩ :=
    executeAnalyze_of_openFailure? false hanalysis hno hmade (by decide +kernel)
  have hrecord := hchanges ▸ recordWritten (p := ⟨true, ["out"]⟩) hmade report.toJson.text
  have hold (name : String) (hname : name ≠ "out") :
      (selfTree.applyAll (executeAnalyze selfTree [] false selfArguments).changes).get? [name] =
        selfTree.get? [name] :=
    hrecord.untouched [name] (by simp [recordPlace]) (by simp [hname])
  have hout := hrecord.directory ["out"] (List.prefix_refl _)
  have hlink := (hold "x.zip" (by decide)).trans
    (by decide +kernel : _ = some (Node.link "out/analysis.json"))
  have hfree : ∀ name ∈ Config.fileNames, name ≠ "out" ∧ selfTree.get? [name] = none := by
    decide +kernel
  have hdiscover' := Config.discover_eq_none_of_get? fun name hname ↦
    (hold name (hfree name hname).1).trans (hfree name hname).2
  obtain ⟨e, he⟩ := run_eq_error_of_record (find_self hout hrecord.record hlink)
    (find_path_self hout hrecord.record) .builtin usualOptions
  have hload := Config.load_of_discover_eq_none hdiscover'
  obtain ⟨e', he'⟩ := (Fails.run (a := selfArguments) hload rfl he).analysis_eq_error
  refine ⟨hlinks, configApart_of_discover rfl hdiscover, hcode,
    configApart_of_discover rfl hdiscover', ?_⟩
  rw [executeAnalyze_of_error he']
  rfl

/-- It is not enough that the record is not the configuration.  The first run may bring about that
another configuration is found, and it may write over the archive that it has read. -/
theorem not_executeAnalyze_repeatable :
    FailsAgain latentTree [] latentArguments ∧ FailsAgain selfTree [] selfArguments :=
  ⟨failsAgain_latentTree, failsAgain_selfTree⟩

end CodeSurvey.Command
