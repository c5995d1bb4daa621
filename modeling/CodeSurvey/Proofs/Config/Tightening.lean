import CodeSurvey.Proofs.Command.Analysis
import CodeSurvey.Proofs.Config.Source
import CodeSurvey.Proofs.Survey.Unpacked

/-!
# Configurations only tighten

A configuration is valid exactly if each ceiling that it names is lowered or left as it is, but
not lowered to nothing, and if its number of workers and its globs make sense.  What is said of
one ceiling is said of all of them at once, since they are checked and replaced in the same way.

A run keeps the limits that it is given in all that it takes in: the archive that it opens, the
files and bytes that it unpacks, and the files that it reads.  So it keeps all higher ceilings as
well, and a configuration that can be loaded makes no run go past the built-in ones.
-/

namespace CodeSurvey

/-- Limits that are nowhere above some ceilings. -/
structure Limits.Within (limits ceilings : Limits) : Prop where
  maxArchiveSize_le : limits.maxArchiveSize ≤ ceilings.maxArchiveSize
  maxTotalBytes_le : limits.maxTotalBytes ≤ ceilings.maxTotalBytes
  maxFileCount_le : limits.maxFileCount ≤ ceilings.maxFileCount
  maxFileSize_le : limits.maxFileSize ≤ ceilings.maxFileSize
  maxCompressionRatio_le : limits.maxCompressionRatio ≤ ceilings.maxCompressionRatio

namespace Config

/-! ## What a configuration may ask for -/

/-- A value for a ceiling, if there is one, is not above it and leaves something. -/
def Lowers (value? : Option UInt64) (ceiling : UInt64) : Prop :=
  ∀ value ∈ value?, 1 ≤ value ∧ value ≤ ceiling

/-- A configuration that lowers ceilings or leaves them as they are, and otherwise makes sense. -/
structure OnlyTightens (c : Config) : Prop where
  maxArchiveSize : Lowers c.limits.maxArchiveSize Limits.builtin.maxArchiveSize
  maxTotalBytes : Lowers c.limits.maxTotalBytes Limits.builtin.maxTotalBytes
  maxFileCount : Lowers c.limits.maxFileCount Limits.builtin.maxFileCount
  maxFileSize : Lowers c.limits.maxFileSize Limits.builtin.maxFileSize
  maxCompressionRatio : Lowers c.limits.maxCompressionRatio Limits.builtin.maxCompressionRatio
  jobs_ne_zero : c.jobs ≠ some 0
  globs : ∀ pattern ∈ c.excludedPaths, ∃ glob, Glob.parse pattern = .ok glob

/-- What is asked of a configuration is the same for every ceiling. -/
theorem onlyTightens_iff {c : Config} : c.OnlyTightens ↔
    (∀ ceiling, Lowers (c.limits.get? ceiling) (Limits.builtin.get ceiling)) ∧ c.jobs ≠ some 0 ∧
      ∀ pattern ∈ c.excludedPaths, ∃ glob, Glob.parse pattern = .ok glob := by
  constructor
  · rintro ⟨harchive, htotal, hcount, hsize, hratio, hjobs, hglobs⟩
    refine ⟨fun ceiling ↦ ?_, hjobs, hglobs⟩
    cases ceiling with
    | archiveSize => exact harchive
    | totalBytes => exact htotal
    | fileCount => exact hcount
    | fileSize => exact hsize
    | compressionRatio => exact hratio
  · rintro ⟨hlimits, hjobs, hglobs⟩
    exact ⟨hlimits .archiveSize, hlimits .totalBytes, hlimits .fileCount, hlimits .fileSize,
      hlimits .compressionRatio, hjobs, hglobs⟩

/-- Nothing is wrong with a value exactly if it lowers its ceiling. -/
theorem limitError?_eq_none_iff {c : Config} {ceiling : Ceiling} : c.limitError? ceiling = none ↔
    Lowers (c.limits.get? ceiling) (Limits.builtin.get ceiling) := by
  rw [limitError?, Option.bind_eq_none_iff, Lowers]
  refine forall₂_congr fun value _ ↦ ?_
  by_cases hzero : value = 0
  · subst hzero
    simp
  · have hone : 1 ≤ value := by
      rw [UInt64.le_iff_toNat_le]
      exact Nat.pos_of_ne_zero fun h ↦ hzero (UInt64.toNat_inj.mp h)
    rw [if_neg hzero]
    simp [hone]

/-- The globs can be had exactly if each of them can be read. -/
theorem exists_globs_iff {c : Config} : (∃ globs, c.globs = .ok globs) ↔
    ∀ pattern ∈ c.excludedPaths, ∃ glob, Glob.parse pattern = .ok glob := by
  rw [globs, exists_mapM_eq_ok_iff]
  simp only [glob, mapError_eq_ok_iff]

theorem validate_eq_ok_iff {c : Config} : c.validate = .ok () ↔
    (∀ ceiling, c.limitError? ceiling = none) ∧ c.jobs ≠ some 0 ∧ ∃ globs, c.globs = .ok globs := by
  have hlimits : (∀ ceiling, c.limitError? ceiling = none) ↔
      Ceiling.all.findSome? c.limitError? = none := by
    rw [List.findSome?_eq_none_iff]
    exact ⟨fun h ceiling _ ↦ h ceiling, fun h ceiling ↦ h ceiling ceiling.mem_all⟩
  rw [hlimits, validate]
  cases Ceiling.all.findSome? c.limitError? with
  | some e => simp [bind, Except.bind, throw, throwThe, MonadExceptOf.throw]
  | none =>
    by_cases hjobs : c.jobs = some 0
    · simp [hjobs, bind, Except.bind, throw, throwThe, MonadExceptOf.throw]
    · cases c.globs <;> simp [hjobs, bind, Except.bind, pure, Except.pure]

/-- A configuration is valid exactly if it only tightens. -/
theorem validate_eq_ok_iff_onlyTightens {c : Config} : c.validate = .ok () ↔ c.OnlyTightens := by
  rw [validate_eq_ok_iff, onlyTightens_iff, exists_globs_iff]
  simp only [limitError?_eq_none_iff]

/-- A configuration that can be loaded is valid, wherever it is from. -/
theorem validate_of_load {t : FileTree} {cwd : Location} {explicit source : Option String}
    {directory : String} {c : Config} (h : load t cwd explicit directory = .ok (c, source)) :
    c.validate = .ok () := by
  have hchecked {config : Config} {found : Option String}
      (hrest : (config.validate.mapError LoadError.invalid >>= fun _ ↦ pure (config, found)) =
        .ok (c, source)) : c.validate = .ok () := by
    rw [bind_eq_ok_iff] at hrest
    obtain ⟨⟨⟩, hvalid, heq⟩ := hrest
    obtain ⟨rfl, -⟩ := Prod.mk.inj (Except.ok.inj heq)
    exact mapError_eq_ok_iff.mp hvalid
  rw [load] at h
  dsimp only at h
  generalize (explicit <|> discover t cwd directory) = found at h
  cases found with
  | none => exact @hchecked ∅ none h
  | some path =>
    dsimp only at h
    rw [bind_eq_ok_iff] at h
    obtain ⟨config, -, h⟩ := h
    exact hchecked h

/-! ## What a configuration comes to -/

/-- A ceiling is replaced by the value for it if there is one, and stays positive and no higher. -/
structure Replaced (value? : Option UInt64) (ceiling effective : UInt64) : Prop where
  of_some : ∀ value, value? = some value → effective = value
  of_none : value? = none → effective = ceiling
  one_le : 1 ≤ effective
  le_ceiling : effective ≤ ceiling

theorem Lowers.replaced {value? : Option UInt64} {ceiling : UInt64} (h : Lowers value? ceiling)
    (hceiling : 1 ≤ ceiling) : Replaced value? ceiling (value?.getD ceiling) := by
  cases value? with
  | none => exact ⟨nofun, fun _ ↦ rfl, hceiling, UInt64.le_refl _⟩
  | some value =>
    obtain ⟨hone, hle⟩ := h value rfl
    exact ⟨fun _ heq ↦ Option.some.inj heq, nofun, hone, hle⟩

/-- Limits in which each built-in ceiling is replaced by the value that the configuration gives
it. -/
structure Replaces (c : Config) (limits : Limits) : Prop where
  maxArchiveSize :
    Replaced c.limits.maxArchiveSize Limits.builtin.maxArchiveSize limits.maxArchiveSize
  maxTotalBytes : Replaced c.limits.maxTotalBytes Limits.builtin.maxTotalBytes limits.maxTotalBytes
  maxFileCount : Replaced c.limits.maxFileCount Limits.builtin.maxFileCount limits.maxFileCount
  maxFileSize : Replaced c.limits.maxFileSize Limits.builtin.maxFileSize limits.maxFileSize
  maxCompressionRatio : Replaced c.limits.maxCompressionRatio Limits.builtin.maxCompressionRatio
    limits.maxCompressionRatio

variable {c : Config}

theorem replaces_effectiveLimits (h : c.validate = .ok ()) : c.Replaces c.effectiveLimits := by
  have hbuiltin (ceiling : Ceiling) : 1 ≤ Limits.builtin.get ceiling := by cases ceiling <;> decide
  have hreplaced (ceiling : Ceiling) : Replaced (c.limits.get? ceiling) (Limits.builtin.get ceiling)
      (c.effectiveLimits.get ceiling) := by
    rw [effectiveLimits, Limits.get_ofFn]
    exact (limitError?_eq_none_iff.mp ((validate_eq_ok_iff.mp h).1 ceiling)).replaced (hbuiltin ceiling)
  exact ⟨hreplaced .archiveSize, hreplaced .totalBytes, hreplaced .fileCount, hreplaced .fileSize,
    hreplaced .compressionRatio⟩

theorem Replaces.within {limits : Limits} (h : c.Replaces limits) : limits.Within .builtin :=
  ⟨h.maxArchiveSize.le_ceiling, h.maxTotalBytes.le_ceiling, h.maxFileCount.le_ceiling,
    h.maxFileSize.le_ceiling, h.maxCompressionRatio.le_ceiling⟩

/-- The options that come of a configuration when some number of workers may be asked for on the
spot. -/
structure Chooses (c : Config) (jobs : Option Nat) (available : Nat) (options : SurveyOptions) : Prop where
  maxFileSize_eq : options.maxFileSize = c.effectiveLimits.maxFileSize
  globs_eq : c.globs = .ok options.excluded
  one_le_jobs : 1 ≤ options.jobs
  /-- What is asked for on the spot comes first. -/
  jobs_asked : ∀ n, jobs = some n → options.jobs = max 1 n
  jobs_configured : ∀ n, jobs = none → c.jobs = some n → options.jobs = n
  jobs_available : jobs = none → c.jobs = none → options.jobs = max 1 available

theorem exists_surveyOptions (h : c.validate = .ok ()) (jobs : Option Nat) (available : Nat) :
    ∃ options, c.surveyOptions jobs available = .ok options ∧ c.Chooses jobs available options := by
  obtain ⟨-, hjobs, globs, hglobs⟩ := validate_eq_ok_iff.mp h
  refine ⟨⟨c.effectiveLimits.maxFileSize, max 1 ((jobs <|> c.jobs).getD available), globs⟩, ?_, ?_⟩
  · rw [surveyOptions, hglobs]
    rfl
  · refine ⟨rfl, hglobs, Nat.le_max_left .., ?_, ?_, ?_⟩
    · rintro n rfl
      rfl
    · rintro n rfl hn
      have hpos : n ≠ 0 := fun hzero ↦ hjobs (hzero ▸ hn)
      rw [hn]
      exact Nat.max_eq_right (Nat.one_le_iff_ne_zero.mpr hpos)
    · rintro rfl hnone
      rw [hnone]
      rfl

end Config

/-! ## Runs -/

open Placement Extraction

section

variable {t : FileTree} {root cwd : Location} {limits ceilings : Limits} {entries : Entries}

/-- What is unpacked keeps some ceilings. -/
structure UnpacksWithin (ceilings : Limits) (t : FileTree) (root : Location) (limits : Limits)
    (entries : Entries) : Prop where
  fileCount_le :
    (extract t root limits entries).finalStats.filesExtracted ≤ ceilings.maxFileCount.toNat
  totalBytes_le :
    (extract t root limits entries).finalStats.bytesExtracted ≤ ceilings.maxTotalBytes.toNat
  /-- The tally is not exceeded on the disk. -/
  files_le : ((extract t root limits entries).tree.files root).length ≤ ceilings.maxFileCount.toNat
  sizes_le : sizes ((extract t root limits entries).tree.files root) ≤ ceilings.maxTotalBytes.toNat
  fileSize_le : ∀ names content, (names, content) ∈ (extract t root limits entries).tree.files root →
    content.size ≤ ceilings.maxFileSize.toNat
  /-- No file is written that is declared to be packed more densely. -/
  ratio_le : ∀ e size, EndsWritten t root limits entries e size →
    e.declaredSize / e.packedSize ≤ ceilings.maxCompressionRatio.toNat

/-- A run keeps some ceilings in all that it takes in. -/
structure RunReport.KeepsCeilings [Grammars] (ceilings : Limits) (t : FileTree) (cwd : Location)
    (options : SurveyOptions) (r : RunReport) : Prop where
  limits_within : r.limits.Within ceilings
  /-- An archive is accepted only if it is not too large. -/
  archive_le : ∀ loc, Input.accept t cwd r.limits r.input = .ok (.archive loc) →
    ∃ content, t.find cwd r.input = .ok (loc, .file content) ∧
      content.size ≤ ceilings.maxArchiveSize.toNat
  /-- What is reported of an unpacking is about the entries of such an archive. -/
  unpacked : ∀ stats, r.intake = some stats → ∃ loc entries,
    Input.accept t cwd r.limits r.input = .ok (.archive loc) ∧
      Input.entries t [] r.limits (Location.path loc) = .ok entries ∧
      (PreparedInput.ofEntries t r.limits entries).intake = some stats ∧
      UnpacksWithin ceilings (t.insert (Workspace.location t) .directory) (Workspace.location t)
        r.limits entries
  /-- The survey reads no file that is too large. -/
  read_le : ∀ file contribution,
    Survey.outcome (options.within r.limits) (.source file) = .analyzed contribution →
      file.content.size ≤ ceilings.maxFileSize.toNat

/-- A file is opened only if its declared sizes keep the compression ratio. -/
theorem Budget.ratio_le_of_screen {b : Budget} {e : Entry}
    (h : b.screen (some e.declaredSize) (some e.packedSize) = .ok ()) :
    e.declaredSize / e.packedSize ≤ b.limits.maxCompressionRatio.toNat := by
  by_contra hmore
  have hratio := Nat.not_le.mp hmore
  obtain ⟨hpacked, hle⟩ := Nat.div_pos_iff.mp (Nat.zero_lt_of_lt hratio)
  have hdeclared : 0 < e.declaredSize := Nat.lt_of_lt_of_le hpacked hle
  rw [screen] at h
  split at h
  next => cases h
  next => simp [hdeclared, hpacked, hratio] at h

theorem UnpacksWithin.of_within (hempty : t.IsEmptyDirectory root) (h : limits.Within ceilings)
    (entries : Entries) : UnpacksWithin ceilings t root limits entries := by
  have hcharged := charged_extract hempty limits entries
  have hcount := Nat.le_trans hcharged.fileCount_le (UInt64.le_iff_toNat_le.mp h.maxFileCount_le)
  have htotal := Nat.le_trans hcharged.totalBytes_le (UInt64.le_iff_toNat_le.mp h.maxTotalBytes_le)
  refine ⟨hcount, htotal, Nat.le_trans hcharged.files_le hcount,
    Nat.le_trans hcharged.sizes_le htotal, fun names content hmem ↦ ?_, ?_⟩
  · exact Nat.le_trans (size_le_of_mem_files hempty hmem) (UInt64.le_iff_toNat_le.mp h.maxFileSize_le)
  · rintro e size ⟨past, rest, rfl, -, hout⟩
    rcases (extract t root limits past).placement_cases root (some e) with heq | ⟨entry, he, hcourse⟩
    · rw [heq] at hout
      exact nomatch hout
    · obtain rfl := Option.some.inj he
      obtain ⟨names, hopened⟩ := hcourse.opened_of_written hout
      have hratio := Budget.ratio_le_of_screen hopened.screened
      rw [limits_extract] at hratio
      exact Nat.le_trans hratio (UInt64.le_iff_toNat_le.mp h.maxCompressionRatio_le)

theorem SurveyOptions.maxFileSize_within_le (options : SurveyOptions) (limits : Limits) :
    (options.within limits).maxFileSize ≤ limits.maxFileSize := by
  show (if options.maxFileSize ≤ limits.maxFileSize then _ else _) ≤ _
  split
  next hle => exact hle
  next => exact UInt64.le_refl _

/-- No survey reads a file that is larger than its options allow. -/
theorem Survey.size_le_of_analyzed [Grammars] {options : SurveyOptions} {file : SourceFile}
    {contribution : Contribution} (h : outcome options (.source file) = .analyzed contribution) :
    file.content.size ≤ options.maxFileSize.toNat := by
  rw [outcome] at h
  split at h
  next => cases h
  next =>
    split at h
    next => cases h
    next hsize => exact Nat.not_lt.mp hsize

/-- A run keeps all ceilings that are nowhere below its limits. -/
theorem RunReport.KeepsCeilings.of_run [Grammars] {options : SurveyOptions} {raw : String} {r : RunReport}
    (h : limits.Within ceilings) (hrun : run t cwd limits options raw = .ok r) :
    r.KeepsCeilings ceilings t cwd options := by
  rw [run, bind_eq_ok_iff] at hrun
  obtain ⟨prepared, hprepared, hreport⟩ := hrun
  obtain rfl := Except.ok.inj hreport
  refine ⟨h, fun loc haccept ↦ ?_, fun stats hstats ↦ ?_, fun file contribution hread ↦ ?_⟩
  · obtain ⟨content, hfind, hrefusal⟩ := Input.accept_archive_iff.mp haccept
    refine ⟨content, hfind, Nat.le_trans (Input.size_le_of_archiveRefusal? hrefusal) ?_⟩
    exact UInt64.le_iff_toNat_le.mp h.maxArchiveSize_le
  · rcases PreparedInput.ofPath_cases hprepared with
      ⟨root, -, rfl⟩ | ⟨loc, entries, haccept, hentries, rfl⟩
    · cases hstats
    · exact ⟨loc, entries, haccept, hentries, hstats,
        .of_within (Workspace.isEmptyDirectory t) h entries⟩
  · refine Nat.le_trans (Survey.size_le_of_analyzed hread) ?_
    exact UInt64.le_iff_toNat_le.mp (UInt64.le_trans (options.maxFileSize_within_le limits) h.maxFileSize_le)

/-- Whatever configuration a command finds, its run keeps the built-in ceilings. -/
theorem Command.keepsCeilings_of_analysis [Grammars] {a : AnalyzeArguments} {r : RunReport}
    {directory : Option Path} (h : analysis t cwd a = .ok (r, directory)) : ∃ config options source,
      Config.load t cwd a.config (Location.path cwd) = .ok (config, source) ∧
        config.surveyOptions a.jobs = .ok options ∧ r.KeepsCeilings .builtin t cwd options := by
  obtain ⟨-, config, options, hconfig, hoptions, -, hrun⟩ := analysis_eq_ok_iff.mp h
  obtain ⟨source, hload⟩ := loadConfig_eq_ok_iff.mp hconfig
  have hreplaces := Config.replaces_effectiveLimits (Config.validate_of_load hload)
  exact ⟨config, options, source, hload, hoptions, .of_run hreplaces.within hrun⟩

end

namespace Config

/-- Configurations only tighten.  One is valid exactly if it only lowers ceilings; then it replaces
the ceilings that it names, options come of it whatever is asked for on the spot, and no run goes
past a built-in ceiling.  Each that can be loaded is valid. -/
theorem only_tightens [Grammars] (c : Config) :
    (c.validate = .ok () ↔ c.OnlyTightens) ∧
      (c.validate = .ok () →
        c.Replaces c.effectiveLimits ∧
        (∀ jobs available, ∃ options, c.surveyOptions jobs available = .ok options ∧
          c.Chooses jobs available options) ∧
        ∀ t cwd options raw r, run t cwd c.effectiveLimits options raw = .ok r →
          r.KeepsCeilings .builtin t cwd options) ∧
      ∀ t cwd explicit directory source, load t cwd explicit directory = .ok (c, source) →
        c.validate = .ok () := by
  refine ⟨validate_eq_ok_iff_onlyTightens, fun hvalid ↦ ?_, fun t cwd explicit directory source h ↦
    validate_of_load h⟩
  have hreplaces := replaces_effectiveLimits hvalid
  exact ⟨hreplaces, exists_surveyOptions hvalid, fun t cwd options raw r hrun ↦
    .of_run hreplaces.within hrun⟩

/-- A configuration at the root allows fewer files than usual, and a directory is surveyed under
it. -/
theorem only_tightens_fewer_files :
    let text := "limits:\n  max_file_count: 500\njobs: 2\nexcluded_paths: [vendor]\n"
    let c : Config := ⟨{ LimitOverrides.empty with maxFileCount := some 500 }, some 2, ["vendor"]⟩
    let t := ((∅ : FileTree).insert ["archlens.yaml"] (.file text.toUTF8)).insert ["d"] .directory
    load t [] none (Location.path []) = .ok (c, some (Location.path ["archlens.yaml"])) ∧
      c.validate = .ok () ∧ c.effectiveLimits = { Limits.builtin with maxFileCount := 500 } ∧
      c.Replaces c.effectiveLimits ∧
      ∃ options r, c.surveyOptions (some 6) 4 = .ok options ∧ options.jobs = 6 ∧
        run t [] c.effectiveLimits options "d" = .ok r ∧ r.KeepsCeilings .builtin t [] options := by
  intro text c t
  have htext : ofYaml text.toList = .ok c := by decide +kernel
  have hvalid : c.validate = .ok () := by decide +kernel
  have hfind : t.find [] (Location.path ["archlens.yaml"]) =
      .ok (["archlens.yaml"], .file text.toUTF8) :=
    FileTree.find_path (by decide) (by decide) rfl (by simp)
  have hread : t.read [] (Location.path ["archlens.yaml"]) = .ok text.toUTF8 := by
    rw [FileTree.read, hfind]
  have hload : load t [] none (Location.path []) = .ok (c, some (Location.path ["archlens.yaml"])) :=
    load_of_text (discover_eq_some_of_find hfind) hread htext hvalid
  have haccept : Input.accept t [] c.effectiveLimits "d" = .ok (.directory ["d"]) :=
    Input.accept_directory_iff.mpr (FileTree.find_name (by decide) (by decide) rfl (by simp))
  obtain ⟨hreplaces, hoptions, hruns⟩ :=
    (only_tightens c).2.1 ((only_tightens c).2.2 t [] none _ _ hload)
  obtain ⟨options, heq, hchooses⟩ := hoptions (some 6) 4
  obtain ⟨r, hrun, -⟩ := run_of_prepared (PreparedInput.ofPath_of_directory haccept) options
  exact ⟨hload, hvalid, rfl, hreplaces, options, r, heq, hchooses.jobs_asked 6 rfl, hrun,
    hruns t [] options "d" r hrun⟩

end Config

end CodeSurvey
