import CodeSurvey.Proofs.Command.Record
import CodeSurvey.Proofs.Intake.Input
import CodeSurvey.Proofs.Intake.Relocation
import CodeSurvey.Proofs.Survey.Relevance

/-!
# What an analysis depends on

An analysis fails because of its arguments, its configuration or its input, or it comes to a
report.  The report depends on the files that the command reads and on the sources in its
input.  Directories and a file that is no source may be added without making a difference, as
long as this file is none of those that are read.
-/

namespace CodeSurvey

theorem mapM_mapError_eq_ok_iff {ε ε' α β : Type} {f : α → Except ε β} {g : α → ε → ε'} {x : Option α}
    {y : Option β} : (x.mapM fun a ↦ (f a).mapError (g a)) = .ok y ↔ x.mapM f = .ok y := by
  cases x with
  | none => simp [pure, Except.pure]
  | some a => cases hfa : f a <;> simp [hfa, Functor.map, Except.map]

open FileTree

variable {t t' : FileTree} {cwd place root : Location} {raw : String} {limits : Limits}

/-! ## The input -/

theorem PreparedInput.ofPath_cases {prepared : PreparedInput}
    (h : ofPath t cwd limits raw = .ok prepared) :
    (∃ loc, Input.accept t cwd limits raw = .ok (.directory loc) ∧ prepared = ⟨t, loc, none⟩) ∨
      ∃ loc entries, Input.accept t cwd limits raw = .ok (.archive loc) ∧
        Input.entries t [] limits (Location.path loc) = .ok entries ∧
        prepared = ofEntries t limits entries := by
  rw [ofPath, bind_eq_ok_iff] at h
  obtain ⟨input, haccept, h⟩ := h
  cases input with
  | directory loc => exact .inl ⟨loc, haccept, (Except.ok.inj h).symm⟩
  | archive loc =>
    dsimp only at h
    rw [bind_eq_ok_iff] at h
    obtain ⟨entries, hentries, h⟩ := h
    exact .inr ⟨loc, entries, haccept, hentries, (Except.ok.inj h).symm⟩

namespace Command

variable {a : AnalyzeArguments} {report : RunReport} {directory : Option Path}

theorem loadConfig_eq_ok_iff {explicit : Option String} {config : Config} :
    loadConfig t cwd explicit = .ok config ↔
      ∃ source, Config.load t cwd explicit (Location.path cwd) = .ok (config, source) := by
  rw [loadConfig]
  cases Config.load t cwd explicit (Location.path cwd) with
  | error e => simp
  | ok loaded => simp [Prod.ext_iff]

theorem analysis_eq_ok_iff [Grammars] :
    analysis t cwd a = .ok (report, directory) ↔
      a.jobs ≠ some 0 ∧ ∃ config options, loadConfig t cwd a.config = .ok config ∧
        config.surveyOptions a.jobs = .ok options ∧
        (a.output.mapM fun raw ↦ OutputPath.accept (Location.path cwd) raw) = .ok directory ∧
        run t cwd config.effectiveLimits options a.input = .ok report := by
  unfold analysis
  by_cases hjobs : a.jobs = some 0
  · simp [hjobs, bind, Except.bind, throw, throwThe, MonadExceptOf.throw]
  · simp only [hjobs, if_false, ne_eq, not_false_eq_true, true_and]
    simp only [bind_eq_ok_iff, mapError_eq_ok_iff, mapM_mapError_eq_ok_iff]
    refine exists_congr fun config ↦ ?_
    simp only [pure, Except.pure, Except.ok.injEq, Prod.mk.injEq]
    grind

/-- Why an analysis fails.  Each of these is enough. -/
inductive Fails [Grammars] (t : FileTree) (cwd : Location) (a : AnalyzeArguments) : Prop
  | noJobs : a.jobs = some 0 → Fails t cwd a
  | config {e : Config.LoadError} :
      Config.load t cwd a.config (Location.path cwd) = .error e → Fails t cwd a
  | options {config : Config} {source : Option String} {e : ConfigError} :
      Config.load t cwd a.config (Location.path cwd) = .ok (config, source) →
      config.surveyOptions a.jobs = .error e → Fails t cwd a
  | output {raw : String} {e : OutputRefusal} : a.output = some raw →
      OutputPath.accept (Location.path cwd) raw = .error e → Fails t cwd a
  | run {config : Config} {source : Option String} {options : SurveyOptions} {e : IntakeError} :
      Config.load t cwd a.config (Location.path cwd) = .ok (config, source) →
      config.surveyOptions a.jobs = .ok options →
      run t cwd config.effectiveLimits options a.input = .error e → Fails t cwd a

/-- No analysis comes to a report if there is a reason to fail. -/
theorem Fails.analysis_eq_error [Grammars] (h : Fails t cwd a) : ∃ e, analysis t cwd a = .error e := by
  cases hanalysis : analysis t cwd a with
  | error e => exact ⟨e, rfl⟩
  | ok found =>
    obtain ⟨report, directory⟩ := found
    obtain ⟨hjobs, config, options, hload, hoptions, houtput, hrun⟩ := analysis_eq_ok_iff.mp hanalysis
    obtain ⟨source, hload⟩ := loadConfig_eq_ok_iff.mp hload
    cases h with
    | noJobs hnone => exact absurd hnone hjobs
    | config hfail => exact absurd (hload.symm.trans hfail) (by simp)
    | options hload' hfail =>
      obtain ⟨rfl, -⟩ := Prod.mk.inj (Except.ok.inj (hload.symm.trans hload'))
      exact absurd (hoptions.symm.trans hfail) (by simp)
    | output hraw hfail =>
      rw [hraw] at houtput
      simp [hfail, Functor.map, Except.map] at houtput
    | run hload' hoptions' hfail =>
      obtain ⟨rfl, -⟩ := Prod.mk.inj (Except.ok.inj (hload.symm.trans hload'))
      obtain rfl := Except.ok.inj (hoptions.symm.trans hoptions')
      exact absurd (hrun.symm.trans hfail) (by simp)

/-! ## Another tree -/

/-- The files that a command reads in any case: its configuration, and its input if that is an
archive.  An archive is opened by the path to where it was found. -/
inductive Reads (t : FileTree) (cwd : Location) (a : AnalyzeArguments) : Location → Prop
  | config {path : String} {loc : Location} {content : ByteArray} :
      (a.config <|> Config.discover t cwd (Location.path cwd)) = some path →
      t.find cwd path = .ok (loc, .file content) → Reads t cwd a loc
  | input {loc : Location} {content : ByteArray} :
      t.find cwd a.input = .ok (loc, .file content) → Reads t cwd a loc
  | archive {found loc : Location} {content content' : ByteArray} :
      t.find cwd a.input = .ok (found, .file content') →
      t.find [] (Location.path found) = .ok (loc, .file content) → Reads t cwd a loc

end Command

namespace FileTree.Enlarged

/-- A walk does not notice what has been added if it is no source. -/
theorem sightings_eq (h : Enlarged place t t')
    (hplace : (Language.ofFileName (place.getLast?.getD "")).isKnown = false) (root : Location) :
    t'.sightings root = t.sightings root := by
  refine sightings_congr ?_
  rintro ⟨names, content⟩ hsource
  rw [mem_files, mem_files]
  refine and_congr_right fun hne ↦ h.get?_eq_file_iff ?_
  rintro rfl
  rw [List.getLast?_append, Option.or_of_isSome (List.getLast?_isSome.mpr hne)] at hplace
  exact Bool.false_ne_true (hplace.symm.trans hsource)

theorem read_eq (h : Enlarged place t t') {content : ByteArray} (hread : t.read cwd raw = .ok content)
    (hplace : ∀ loc, t.find cwd raw = .ok (loc, .file content) → loc ≠ place) :
    t'.read cwd raw = .ok content := by
  rw [read] at hread
  split at hread
  next => cases hread
  next loc content' hfind =>
    obtain rfl := Except.ok.inj hread
    rw [read, h.find_eq hfind (.inr (hplace loc hfind))]
  next => cases hread

theorem readFile_eq (h : Enlarged place t t') {path : String} {config : Config}
    (hread : Config.readFile t cwd path = .ok config)
    (hplace : ∀ loc content, t.find cwd path = .ok (loc, .file content) → loc ≠ place) :
    Config.readFile t' cwd path = .ok config := by
  rw [Config.readFile, bind_eq_ok_iff] at hread ⊢
  obtain ⟨content, hcontent, htext⟩ := hread
  rw [mapError_eq_ok_iff] at hcontent
  refine ⟨content, ?_, htext⟩
  rw [mapError_eq_ok_iff]
  exact h.read_eq hcontent fun loc ↦ hplace loc content

/-- The same configuration is loaded if it is looked for in the same place. -/
theorem load_eq (h : Enlarged place t t') {explicit : Option String} {directory : String}
    {loaded : Config × Option String} (hload : Config.load t cwd explicit directory = .ok loaded)
    (hplace : ∀ path loc content, (explicit <|> Config.discover t cwd directory) = some path →
      t.find cwd path = .ok (loc, .file content) → loc ≠ place)
    (hdiscover : explicit = none → Config.discover t' cwd directory = Config.discover t cwd directory) :
    Config.load t' cwd explicit directory = .ok loaded := by
  have hsource : (explicit <|> Config.discover t' cwd directory) =
      (explicit <|> Config.discover t cwd directory) := by
    cases explicit with
    | none => rw [hdiscover rfl]
    | some path => rfl
  unfold Config.load at hload ⊢
  dsimp only at hload ⊢
  rw [hsource]
  generalize (explicit <|> Config.discover t cwd directory) = source at hload hplace ⊢
  cases source with
  | none => exact hload
  | some path =>
    dsimp only at hload ⊢
    rw [bind_eq_ok_iff] at hload ⊢
    obtain ⟨config, hread, hvalid⟩ := hload
    exact ⟨config, h.readFile_eq hread fun loc content ↦ hplace path loc content rfl, hvalid⟩

/-- The same archive is opened if it is none of what has been added. -/
theorem entries_eq (h : Enlarged place t t') {entries : Entries}
    (hentries : Input.entries t cwd limits raw = .ok entries)
    (hplace : ∀ loc content, t.find cwd raw = .ok (loc, .file content) → loc ≠ place) :
    Input.entries t' cwd limits raw = .ok entries := by
  rw [Input.entries] at hentries ⊢
  split at hentries
  next => cases hentries
  next loc content hfind =>
    rw [h.find_eq hfind (.inr (hplace loc content hfind))]
    exact hentries
  next => cases hentries

/-- A run on a larger tree finds out the same, provided that its input is none of what has been
added and that the workspace, if there is to be one, has a path of the same length. -/
theorem run_eq [Grammars] (h : Enlarged place t t') {options : SurveyOptions} {report : RunReport}
    (hsource : (Language.ofFileName (place.getLast?.getD "")).isKnown = false)
    (hinput : ∀ loc content, t.find cwd raw = .ok (loc, .file content) → loc ≠ place ∧
      ∀ loc' content', t.find [] (Location.path loc) = .ok (loc', .file content') → loc' ≠ place)
    (hsize : ∀ loc content, t.find cwd raw = .ok (loc, .file content) →
      (Location.path (Workspace.location t)).utf8ByteSize =
        (Location.path (Workspace.location t')).utf8ByteSize)
    (hrun : run t cwd limits options raw = .ok report) :
    run t' cwd limits options raw = .ok report := by
  rw [run, bind_eq_ok_iff] at hrun ⊢
  obtain ⟨prepared, hprepared, hreport⟩ := hrun
  rcases PreparedInput.ofPath_cases hprepared with
    ⟨root, haccept, rfl⟩ | ⟨loc, entries, haccept, hentries, rfl⟩
  · have hfind := Input.accept_directory_iff.mp haccept
    have hfind' := h.find_eq hfind (.inl rfl)
    have haccept' := (Input.accept_congr (hfind'.trans hfind.symm) limits).trans haccept
    refine ⟨_, PreparedInput.ofPath_of_directory haccept', ?_⟩
    rw [h.sightings_eq hsource]
    exact hreport
  · obtain ⟨content, hfind, -⟩ := Input.accept_archive_iff.mp haccept
    obtain ⟨hloc, hopened⟩ := hinput loc content hfind
    have hfind' := h.find_eq hfind (.inr hloc)
    have haccept' := (Input.accept_congr (hfind'.trans hfind.symm) limits).trans haccept
    have hentries' := h.entries_eq hentries hopened
    obtain ⟨hintake, hsightings⟩ := PreparedInput.ofEntries_relocated (hsize loc content hfind) limits entries
    refine ⟨_, PreparedInput.ofPath_of_archive haccept' hentries', ?_⟩
    rw [← hintake, ← hsightings]
    exact hreport

end FileTree.Enlarged

namespace Command

variable {a : AnalyzeArguments}

/-- An analysis comes to the same in a larger tree, provided that none of the files it reads has
been added, that no configuration is found instead of another, and that the workspace, if there is to be
one, has a path of the same length. -/
theorem analysis_of_enlarged [Grammars] (h : Enlarged place t t')
    (hsource : (Language.ofFileName (place.getLast?.getD "")).isKnown = false)
    (hreads : ¬Reads t cwd a place)
    (hdiscover : a.config = none → Config.discover t' cwd (Location.path cwd) =
      Config.discover t cwd (Location.path cwd))
    (hsize : ∀ loc content, t.find cwd a.input = .ok (loc, .file content) →
      (Location.path (Workspace.location t)).utf8ByteSize =
        (Location.path (Workspace.location t')).utf8ByteSize)
    {found : RunReport × Option Path} (hanalysis : analysis t cwd a = .ok found) :
    analysis t' cwd a = .ok found := by
  obtain ⟨report, directory⟩ := found
  rw [analysis_eq_ok_iff] at hanalysis ⊢
  obtain ⟨hjobs, config, options, hload, hoptions, houtput, hrun⟩ := hanalysis
  refine ⟨hjobs, config, options, ?_, hoptions, houtput, ?_⟩
  · rw [loadConfig_eq_ok_iff] at hload ⊢
    obtain ⟨source, hload⟩ := hload
    refine ⟨source, h.load_eq hload (fun path loc content hpath hfind ↦ ?_) hdiscover⟩
    rintro rfl
    exact hreads (.config hpath hfind)
  · refine h.run_eq hsource (fun loc content hfind ↦ ⟨?_, fun loc' content' hopened ↦ ?_⟩) hsize hrun
    · rintro rfl
      exact hreads (.input hfind)
    · rintro rfl
      exact hreads (.archive hfind hopened)

end Command

end CodeSurvey
