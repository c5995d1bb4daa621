import CodeSurvey.Proofs.Intake.Ceilings
import CodeSurvey.Proofs.Intake.Sandbox
import CodeSurvey.Proofs.Intake.Tally
import CodeSurvey.Proofs.Survey.Sequential

/-!
# What was unpacked is read

Two places look at the size of a file.  The unpacking gives up a file as soon as its stream
exceeds the ceiling, and the survey skips a file that is larger than its options allow.  If
these allow at least what the ceiling allows, the second look finds nothing: whatever the
archive holds, each source in the workspace is either read or left out by choice.
-/

namespace CodeSurvey

open Placement Extraction

/-- Below a workspace no file is larger than the ceiling for a single file. -/
theorem size_le_of_mem_files {t : FileTree} {root : Location} (h : t.IsEmptyDirectory root)
    {limits : Limits} {entries : Entries} {names : Location} {content : ByteArray}
    (hmem : (names, content) ∈ (extract t root limits entries).tree.files root) :
    content.size ≤ limits.maxFileSize.toNat := by
  induction entries using extract_induction with
  | start =>
    have hnone : t.files root = [] := h.files_eq_nil
    rw [Extraction.start, hnone] at hmem
    cases hmem
  | take past e x ih hrefusal =>
    rcases Sandboxed.file_take hrefusal hmem with hbefore | ⟨entry, -, -, -, -, hsize⟩
    · exact ih hbefore
    · exact hsize
  | refuse past e reason x ih _ => exact ih hmem

namespace Survey

variable [Grammars] {options : SurveyOptions} {seen : List Sighting}

/-- A reason that applies to nothing has no count. -/
theorem skippedFor_ofSightings_eq_zero {reason : FileSkip}
    (h : ∀ x ∈ seen, outcome options x ≠ .skipped reason) :
    (ofSightings options seen).stats.skippedFor reason = 0 := by
  induction seen using List.reverseRecOn with
  | nil => rfl
  | append_singleton seen x ih =>
    have hseen := ih fun y hy ↦ h y (List.mem_append_left _ hy)
    have hx := h x (by simp)
    rw [ofSightings_concat]
    cases houtcome : outcome options x with
    | analyzed contribution => exact hseen
    | skipped reason' =>
      show ((ofSightings options seen).stats.skip reason').skippedFor reason = 0
      rw [SurveyStats.skippedFor_skip, hseen, if_neg]
      rintro rfl
      exact hx houtcome

/-- A source in a known language that is within the limit is read or excluded. -/
theorem outcome_source {file : SourceFile} (hknown : file.language.isKnown = true)
    (hsize : file.content.size ≤ options.maxFileSize.toNat) :
    (∃ contribution, outcome options (.source file) = .analyzed contribution) ∨
      outcome options (.source file) = .skipped .excluded := by
  rw [outcome]
  split
  next => exact .inr rfl
  next =>
    obtain ⟨record, -, hrecord, -⟩ := Language.exists_recorder hknown
    rw [if_neg (Nat.not_lt.mpr hsize), contribution?, hrecord]
    exact .inl ⟨_, rfl⟩

/-- Where all that is seen is analyzed or excluded, nothing else is counted. -/
theorem stats_of_outcomes (hknown : ∀ x ∈ seen, x.IsKnown)
    (h : ∀ x ∈ seen, (∃ contribution, outcome options x = .analyzed contribution) ∨
      outcome options x = .skipped .excluded) :
    (ofSightings options seen).stats.skippedFor .oversized = 0 ∧
      (ofSightings options seen).stats.skippedFor .unreadable = 0 ∧
      (ofSightings options seen).stats.filesAnalyzed +
        (ofSightings options seen).stats.skippedFor .excluded = seen.length := by
  have hskipped : ∀ reason, reason ≠ .excluded →
      (ofSightings options seen).stats.skippedFor reason = 0 := by
    intro reason hne
    refine skippedFor_ofSightings_eq_zero fun x hx heq ↦ ?_
    rcases h x hx with ⟨contribution, hout⟩ | hout
    · exact nomatch heq.symm.trans hout
    · exact hne (Outcome.skipped.inj (heq.symm.trans hout))
  have hoversized := hskipped .oversized nofun
  have hunreadable := hskipped .unreadable nofun
  have haccounted := (tallied_ofSightings options hknown).accounted_eq
  rw [SurveyStats.accounted, hoversized, hunreadable] at haccounted
  exact ⟨hoversized, hunreadable, haccounted⟩

end Survey

theorem sourceOf?_eq_ite (f : Location × ByteArray) :
    sourceOf? f = if isSource f = true then some (FileTree.sourceAt f) else none := rfl

/-- The sources among some files are as many as the files with the name of a source. -/
theorem length_filterMap_sourceOf? (fs : List (Location × ByteArray)) :
    (fs.filterMap sourceOf?).length = (fs.filter isSource).length := by
  rw [← FileTree.filterMap_sourceOf?, List.length_filterMap_eq_countP, List.countP_eq_length]
  intro f hf
  rw [sourceOf?_eq_ite, if_pos (List.mem_filter.mp hf).2]
  rfl

/-- Options that allow what the ceiling allows are those of the ceiling. -/
theorem SurveyOptions.maxFileSize_within {options : SurveyOptions} {limits : Limits}
    (h : limits.maxFileSize ≤ options.maxFileSize) :
    (options.within limits).maxFileSize = limits.maxFileSize := by
  show (if options.maxFileSize ≤ limits.maxFileSize then _ else _) = _
  split
  next hle => exact UInt64.le_antisymm hle h
  next => rfl

section

variable [Grammars]

/-- The survey that a run makes of what has been prepared for it. -/
def PreparedInput.survey (prepared : PreparedInput) (limits : Limits) (options : SurveyOptions) : Survey :=
  .ofSightings (options.within limits) (prepared.tree.sightings prepared.root)

/-- A survey of a workspace finds nothing too large and nothing that cannot be read.  Every file
with the name of a source is analyzed or excluded, and no more files than were unpacked. -/
structure ReadsUnpacked (prepared : PreparedInput) (stats : SurveyStats) : Prop where
  oversized_eq : stats.skippedFor .oversized = 0
  unreadable_eq : stats.skippedFor .unreadable = 0
  sources_eq : stats.filesAnalyzed + stats.skippedFor .excluded =
    ((prepared.tree.files prepared.root).filter isSource).length
  sources_le : ∃ intake, prepared.intake = some intake ∧
    stats.filesAnalyzed + stats.skippedFor .excluded ≤ intake.filesExtracted

/-- What a survey of a workspace comes upon is analyzed or excluded. -/
theorem outcome_unpacked (t : FileTree) {limits : Limits} (entries : Entries) {options : SurveyOptions}
    (h : limits.maxFileSize ≤ options.maxFileSize) {x : Sighting}
    (hx : x ∈ (PreparedInput.ofEntries t limits entries).tree.sightings (Workspace.location t)) :
    (∃ contribution, Survey.outcome (options.within limits) x = .analyzed contribution) ∨
      Survey.outcome (options.within limits) x = .skipped .excluded := by
  rw [FileTree.sightings_eq_map] at hx
  obtain ⟨file, hfile, rfl⟩ := List.mem_map.mp hx
  obtain ⟨⟨names, content⟩, hmem, hsource⟩ := List.mem_filterMap.mp hfile
  rw [sourceOf?_eq_ite] at hsource
  split at hsource
  next hknown =>
    obtain rfl := Option.some.inj hsource
    refine Survey.outcome_source hknown ?_
    rw [SurveyOptions.maxFileSize_within h]
    exact size_le_of_mem_files (Workspace.isEmptyDirectory t) hmem
  next => cases hsource

theorem readsUnpacked_ofEntries (t : FileTree) {limits : Limits} (entries : Entries)
    {options : SurveyOptions} (h : limits.maxFileSize ≤ options.maxFileSize) :
    ReadsUnpacked (PreparedInput.ofEntries t limits entries)
      ((PreparedInput.ofEntries t limits entries).survey limits options).stats := by
  have hcharged := charged_extract (Workspace.isEmptyDirectory t) limits entries
  have hlength : ((PreparedInput.ofEntries t limits entries).tree.sightings
      (Workspace.location t)).length = (((PreparedInput.ofEntries t limits entries).tree.files
        (Workspace.location t)).filter isSource).length := by
    rw [FileTree.sightings_eq_map, List.length_map, length_filterMap_sourceOf?]
  obtain ⟨hoversized, hunreadable, hread⟩ := Survey.stats_of_outcomes
    (fun x hx ↦ FileTree.isKnown_of_mem_sightings hx) fun x hx ↦ outcome_unpacked t entries h hx
  rw [hlength] at hread
  refine ⟨hoversized, hunreadable, hread, _, rfl, ?_⟩
  refine Nat.le_trans (Nat.le_of_eq hread) ?_
  exact Nat.le_trans (List.length_filter_le ..) hcharged.files_le

/-- A run on an archive reads what it has unpacked, whatever the entries are, under whichever
limits, and with any options that allow the files that the limits allow. -/
theorem run_readsUnpacked (t : FileTree) {limits : Limits} (entries : Entries) {options : SurveyOptions}
    (h : limits.maxFileSize ≤ options.maxFileSize) :
    let prepared := PreparedInput.ofEntries t limits entries
    ReadsUnpacked prepared (prepared.survey limits options).stats ∧
      ∀ (cwd loc : Location) (raw : String), Input.accept t cwd limits raw = .ok (.archive loc) →
        Input.entries t [] limits (Location.path loc) = .ok entries →
        run t cwd limits options raw =
          .ok ⟨raw, limits, prepared.intake, prepared.survey limits options⟩ := by
  intro prepared
  refine ⟨readsUnpacked_ofEntries t entries h, fun cwd loc raw haccept hentries ↦ ?_⟩
  rw [run, PreparedInput.ofPath_of_archive haccept hentries]
  rfl

end

/-- Of three files in an archive two can be unpacked, and both are read. -/
theorem run_readsUnpacked_clashing :
    let t := archiveOf clashingFiles
    let entries := clashingFiles.map fun f ↦ some f.entry
    let options : SurveyOptions := ⟨Limits.builtin.maxFileSize, 1, []⟩
    let prepared := PreparedInput.ofEntries t .builtin entries
    Limits.builtin.maxFileSize ≤ options.maxFileSize ∧
      Input.accept t [] .builtin "a.zip" = .ok (.archive ["a.zip"]) ∧
      Input.entries t [] .builtin (Location.path ["a.zip"]) = .ok entries ∧
      ReadsUnpacked prepared (prepared.survey .builtin options).stats ∧
      (prepared.survey .builtin options).stats.filesAnalyzed = 2 ∧
      run t [] .builtin options "a.zip" =
        .ok ⟨"a.zip", .builtin, prepared.intake, prepared.survey .builtin options⟩ := by
  intro t entries options prepared
  have hmax : Limits.builtin.maxFileSize ≤ options.maxFileSize := UInt64.le_refl _
  have haccept : Input.accept t [] .builtin "a.zip" = .ok (.archive ["a.zip"]) :=
    accept_archiveOf (by decide +kernel)
  have hentries := entries_archiveOf storable_clashingFiles .builtin
  obtain ⟨hreads, hrun⟩ := run_readsUnpacked t entries hmax
  exact ⟨hmax, haccept, hentries, hreads, by decide +kernel, hrun [] ["a.zip"] "a.zip" haccept hentries⟩

end CodeSurvey
