import CodeSurvey.Proofs.FileTree.Change
import CodeSurvey.Proofs.FileTree.Growth
import CodeSurvey.Proofs.Intake.Input
import CodeSurvey.Proofs.Run
import CodeSurvey.Proofs.Survey.Sequential

/-!
# What matters to a survey

Where all directories can be listed, a survey depends on the regular files whose names
are those of sources, and on nothing else: other files, links, whatever they stand for,
and directories with nothing in them may come and go.  To exclude files from a survey
is to delete them first, but that they are counted.
-/

namespace CodeSurvey

/-! ## Directories that can be listed -/

namespace FileTree

variable {t t' : FileTree} {root : Location} {locked locked' : Location → Bool}

/-- Every directory from the root on can be listed.  Files may be locked. -/
def Readable (t : FileTree) (root : Location) (locked : Location → Bool) : Prop :=
  ∀ names n, t.get? (root ++ names) = some n →
    Reached locked root names ∧ (n = .directory → locked (root ++ names) = false)

theorem readable_unlocked (t : FileTree) (root : Location) : t.Readable root fun _ ↦ false :=
  fun _ _ _ ↦ ⟨fun _ _ _ ↦ rfl, fun _ ↦ rfl⟩

/-- A directory is readable if everything that a walk may come upon says so. -/
theorem readable_iff (hroot : t.get? root = some .directory) :
    t.Readable root locked ↔ ∀ x ∈ t.walked root, isHidden locked root x.1 = false ∧
      (x.2 = .directory → locked (root ++ x.1) = false) := by
  constructor
  · rintro h ⟨names, n⟩ hmem
    obtain ⟨hreached, hunlocked⟩ := h names n ((mem_walked hroot).mp hmem)
    exact ⟨isHidden_eq_false_iff.mpr hreached, hunlocked⟩
  · intro h names n hget
    obtain ⟨hhidden, hunlocked⟩ := h (names, n) ((mem_walked hroot).mpr hget)
    exact ⟨isHidden_eq_false_iff.mp hhidden, hunlocked⟩

/-- A source file as a walk reports it. -/
def sightingOf (root : Location) (locked : Location → Bool) (f : Location × ByteArray) : Sighting :=
  if locked (root ++ f.1) then .sealed (relativePath f.1) else .source (sourceAt f)

/-- The walk of a readable directory reports its source files, whether they can be read
or not. -/
theorem sightings_of_readable (hroot : t.get? root = some .directory) (h : t.Readable root locked) :
    t.sightings root locked = ((t.files root).filter isSource).map (sightingOf root locked) := by
  obtain ⟨-, hunlocked⟩ := h [] .directory (by rwa [List.append_nil])
  have hnone : sighting? [] (Language.ofFileName "") (locked (root ++ [])) .directory = none := by
    rw [sighting?, hunlocked rfl, if_neg Bool.false_ne_true]
  rw [sightings, List.filterMap_cons_none ?first, files, List.filter_filterMap, List.map_filterMap]
  case first => exact hnone
  refine List.filterMap_congr ?_
  rintro ⟨names, n⟩ hmem
  obtain ⟨hreached, hlisted⟩ := h names n (mem_below.mp hmem).2
  dsimp only
  rw [isHidden_eq_false_iff.mpr hreached, if_neg Bool.false_ne_true]
  cases n with
  | link target => rfl
  | directory =>
    rw [sighting?, hlisted rfl, if_neg Bool.false_ne_true]
    rfl
  | file content =>
    have hsource : isSource (names, content) = (languageOf names).isKnown := rfl
    change sighting? names (languageOf names) (locked (root ++ names)) (.file content) = _
    rw [sighting?_file, Node.content?, Option.map_some, Option.filter_some, hsource]
    cases (languageOf names).isKnown <;> rfl

/-- Two trees have the same source files below a directory, with the same contents, and
the same of them can be read. -/
structure SameSources (t t' : FileTree) (root : Location) (locked locked' : Location → Bool) : Prop where
  get?_iff : ∀ names content, (languageOf names).isKnown = true →
    (t.get? (root ++ names) = some (.file content) ↔ t'.get? (root ++ names) = some (.file content))
  locked_eq : ∀ names content, (languageOf names).isKnown = true →
    t.get? (root ++ names) = some (.file content) → locked (root ++ names) = locked' (root ++ names)

/-- Two trees have the same source files if they list the same. -/
theorem sameSources_iff (hroot : t.get? root = some .directory) (hroot' : t'.get? root = some .directory) :
    SameSources t t' root locked locked' ↔
      (t.files root).filter isSource = (t'.files root).filter isSource ∧
        ∀ f ∈ (t.files root).filter isSource, locked (root ++ f.1) = locked' (root ++ f.1) := by
  constructor
  · intro h
    constructor
    · refine filter_isSource_congr ?_
      rintro ⟨names, content⟩ hsource
      rw [mem_files, mem_files, h.get?_iff names content hsource]
    · rintro ⟨names, content⟩ hmem
      obtain ⟨hmem, hsource⟩ := List.mem_filter.mp hmem
      exact h.locked_eq names content hsource (mem_files.mp hmem).2
  · rintro ⟨hfiles, hlocked⟩
    have mem_iff : ∀ {t : FileTree}, t.get? root = some .directory → ∀ {names : Location} {content : ByteArray},
        (languageOf names).isKnown = true →
          ((names, content) ∈ (t.files root).filter isSource ↔
            t.get? (root ++ names) = some (.file content)) := by
      intro t hroot names content hknown
      rw [List.mem_filter, mem_files]
      refine ⟨fun h ↦ h.1.2, fun hget ↦ ⟨⟨?_, hget⟩, hknown⟩⟩
      rintro rfl
      rw [List.append_nil, hroot] at hget
      exact nomatch hget
    constructor
    · intro names content hknown
      rw [← mem_iff hroot hknown, ← mem_iff hroot' hknown, hfiles]
    · intro names content hknown hget
      exact hlocked (names, content) ((mem_iff hroot hknown).mpr hget)

namespace SameSources

/-- It does not matter which files can be read where all of them can. -/
theorem unlocked (h : SameSources t t' root locked locked') :
    SameSources t t' root (fun _ ↦ false) fun _ ↦ false :=
  ⟨h.get?_iff, fun _ _ _ _ ↦ rfl⟩

theorem sightings_eq (h : SameSources t t' root locked locked')
    (hroot : t.get? root = some .directory) (hroot' : t'.get? root = some .directory)
    (hread : t.Readable root locked) (hread' : t'.Readable root locked') :
    t'.sightings root locked' = t.sightings root locked := by
  obtain ⟨hfiles, hlocked⟩ := (sameSources_iff hroot hroot').mp h
  rw [sightings_of_readable hroot hread, sightings_of_readable hroot' hread', ← hfiles]
  refine List.map_congr_left fun f hmem ↦ ?_
  rw [sightingOf, sightingOf, hlocked f hmem]

end SameSources

/-! ## Deleting files -/

/-- The tree without some of the files below a directory. -/
def without (t : FileTree) (root : Location) (fs : List (Location × ByteArray)) : FileTree :=
  t.applyAll ((fs.map fun f ↦ root ++ f.1).map .remove)

/-- Only files are missing in one tree of those in another. -/
def LacksFiles (t t' : FileTree) : Prop :=
  ∀ loc, t'.get? loc = t.get? loc ∨ t'.get? loc = none ∧ ∃ content, t.get? loc = some (.file content)

theorem LacksFiles.get?_eq (h : LacksFiles t t') {loc : Location} {n : Node} (hget : t.get? loc = some n)
    (hn : n.content? = none) : t'.get? loc = some n := by
  rcases h loc with heq | ⟨-, content, hfile⟩
  · exact heq.trans hget
  · obtain rfl := Option.some.inj (hget.symm.trans hfile)
    simp [Node.content?] at hn

theorem LacksFiles.keeps (h : LacksFiles t t') : Keeps t t' := fun _ _ ↦ h.get?_eq

theorem LacksFiles.find_eq (h : LacksFiles t t') {cwd : Location} {raw : String}
    (hfind : t.find cwd raw = .ok (root, .directory)) : t'.find cwd raw = .ok (root, .directory) :=
  h.keeps.find_eq hfind (h.get?_eq (locate_get?_of_find hfind).2 rfl)

variable {fs : List (Location × ByteArray)}

theorem get?_without {names : Location} (hne : names ≠ []) (t : FileTree) (root : Location)
    (fs : List (Location × ByteArray)) : (t.without root fs).get? (root ++ names) =
      if names ∈ fs.map Prod.fst then none else t.get? (root ++ names) := by
  rw [without, get?_applyAll_remove (by simp [hne])]
  refine if_congr ?_ rfl rfl
  simp

theorem lacksFiles_without (h : ∀ f ∈ fs, f ∈ t.files root) : LacksFiles t (t.without root fs) := by
  intro loc
  by_cases hne : loc = []
  · exact .inl (hne ▸ rfl)
  rw [without, get?_applyAll_remove hne]
  split_ifs with hmem
  · obtain ⟨f, hf, rfl⟩ := List.mem_map.mp hmem
    exact .inr ⟨rfl, f.2, (mem_files.mp (h f hf)).2⟩
  · exact .inl rfl

theorem mem_files_without (h : ∀ f ∈ fs, f ∈ t.files root) {f : Location × ByteArray} :
    f ∈ (t.without root fs).files root ↔ f ∈ t.files root ∧ f ∉ fs := by
  obtain ⟨names, content⟩ := f
  rw [mem_files, mem_files, and_assoc]
  refine and_congr_right fun hne ↦ ?_
  rw [get?_without hne]
  split_ifs with hmem
  · obtain ⟨⟨names, content'⟩, hf, rfl⟩ := List.mem_map.mp hmem
    refine iff_of_false not_false fun h' ↦ h'.2 ?_
    have hget := h'.1
    have heq := (mem_files.mp (h _ hf)).2.symm.trans hget
    obtain rfl : content' = content := by simpa using heq
    exact hf
  · refine (and_iff_left fun hf ↦ hmem (List.mem_map.mpr ⟨_, hf, rfl⟩)).symm

theorem Readable.lacksFiles (hread : t.Readable root locked) (h : LacksFiles t t') :
    t'.Readable root locked := by
  intro names n hget
  refine hread names n ?_
  rcases h (root ++ names) with heq | ⟨hnone, -⟩
  · exact heq ▸ hget
  · exact nomatch hnone.symm.trans hget

end FileTree

/-! ## Surveys without exclusions -/

/-- The same options, but nothing is excluded. -/
def SurveyOptions.excludingNothing (options : SurveyOptions) : SurveyOptions :=
  { options with excluded := [] }

/-- Is the path of what was sighted left out by choice? -/
def Sighting.isExcluded (options : SurveyOptions) : Sighting → Bool
  | .source file => Survey.isExcluded options file.path
  | .sealed path => Survey.isExcluded options path
  | .unlisted => false

/-- One survey has learnt the same as another, but `n` files were excluded from it and
none from the other. -/
structure SameButExcluded (n : Nat) (s s' : Survey) : Prop where
  model_eq : s.model = s'.model
  modules_eq : s.modules = s'.modules
  filesAnalyzed_eq : s.stats.filesAnalyzed = s'.stats.filesAnalyzed
  fallbacks_eq : s.stats.fallbacks = s'.stats.fallbacks
  oversized_eq : s.stats.skippedFor .oversized = s'.stats.skippedFor .oversized
  unreadable_eq : s.stats.skippedFor .unreadable = s'.stats.skippedFor .unreadable
  excluded_eq : s.stats.skippedFor .excluded = n
  nothing_excluded : s'.stats.skippedFor .excluded = 0

namespace SameButExcluded

variable {n : Nat} {s s' : Survey}

theorem record_excluded (h : SameButExcluded n s s') :
    SameButExcluded (n + 1) (s.record (.skipped .excluded)) s' where
  model_eq := h.model_eq
  modules_eq := h.modules_eq
  filesAnalyzed_eq := h.filesAnalyzed_eq
  fallbacks_eq := h.fallbacks_eq
  oversized_eq := (s.stats.skippedFor_skip .excluded .oversized).trans h.oversized_eq
  unreadable_eq := (s.stats.skippedFor_skip .excluded .unreadable).trans h.unreadable_eq
  excluded_eq := (s.stats.skippedFor_skip .excluded .excluded).trans (congrArg (· + 1) h.excluded_eq)
  nothing_excluded := h.nothing_excluded

theorem record_skipped (h : SameButExcluded n s s') {reason : FileSkip} (hne : reason ≠ .excluded) :
    SameButExcluded n (s.record (.skipped reason)) (s'.record (.skipped reason)) where
  model_eq := h.model_eq
  modules_eq := h.modules_eq
  filesAnalyzed_eq := h.filesAnalyzed_eq
  fallbacks_eq := h.fallbacks_eq
  oversized_eq := by
    simp only [Survey.record, SurveyStats.skippedFor_skip, h.oversized_eq]
  unreadable_eq := by
    simp only [Survey.record, SurveyStats.skippedFor_skip, h.unreadable_eq]
  excluded_eq := by
    simp only [Survey.record, SurveyStats.skippedFor_skip, h.excluded_eq, if_neg hne.symm, Nat.add_zero]
  nothing_excluded := by
    simp only [Survey.record, SurveyStats.skippedFor_skip, h.nothing_excluded, if_neg hne.symm]

theorem record_analyzed (h : SameButExcluded n s s') (contribution : Survey.Contribution) :
    SameButExcluded n (s.record (.analyzed contribution)) (s'.record (.analyzed contribution)) where
  model_eq := congrArg (·.merge contribution.model) h.model_eq
  modules_eq := congrArg (fun m : Model ↦ (m.merge contribution.model).modules) h.model_eq
  filesAnalyzed_eq := congrArg (· + 1) h.filesAnalyzed_eq
  fallbacks_eq := congrArg (· + contribution.fellBack.toNat) h.fallbacks_eq
  oversized_eq := h.oversized_eq
  unreadable_eq := h.unreadable_eq
  excluded_eq := h.excluded_eq
  nothing_excluded := h.nothing_excluded

end SameButExcluded

namespace Survey

theorem isExcluded_excludingNothing (options : SurveyOptions) (path : String) :
    isExcluded options.excludingNothing path = false := rfl

variable [Grammars] {options : SurveyOptions} {x : Sighting}

theorem outcome_of_isExcluded (h : x.isExcluded options = true) :
    outcome options x = .skipped .excluded := by
  cases x with
  | unlisted => exact nomatch h
  | «sealed» path => exact congrArg Outcome.skipped (if_pos h)
  | source file => exact if_pos h

/-- What is not excluded comes out the same, and not as something excluded. -/
theorem outcome_excludingNothing (h : x.isExcluded options = false) :
    outcome options x = outcome options.excludingNothing x ∧
      outcome options x ≠ .skipped .excluded := by
  have hnot : ∀ path, isExcluded options path = false → ¬ isExcluded options path = true := by
    intro path hpath
    rw [hpath]
    exact Bool.false_ne_true
  cases x with
  | unlisted => exact ⟨rfl, by simp [outcome]⟩
  | «sealed» path =>
    rw [outcome, outcome, if_neg (hnot path h), isExcluded_excludingNothing]
    exact ⟨rfl, by simp⟩
  | source file =>
    rw [outcome, outcome, if_neg (hnot file.path h), isExcluded_excludingNothing,
      if_neg Bool.false_ne_true]
    refine ⟨rfl, ?_⟩
    split
    · simp
    · split <;> simp

/-- To exclude things is to leave them out before the survey. -/
theorem ofSightings_excluding (options : SurveyOptions) (seen : List Sighting) :
    SameButExcluded (seen.countP (·.isExcluded options)) (ofSightings options seen)
      (ofSightings options.excludingNothing (seen.filter fun x ↦ !x.isExcluded options)) := by
  induction seen using List.reverseRecOn with
  | nil => exact ⟨rfl, rfl, rfl, rfl, rfl, rfl, rfl, rfl⟩
  | append_singleton seen x ih =>
    rw [ofSightings_concat, List.countP_append, List.countP_singleton, List.filter_append,
      List.filter_singleton]
    cases hx : x.isExcluded options with
    | true =>
      rw [outcome_of_isExcluded hx, if_pos rfl, Bool.not_true, cond_false, List.append_nil]
      exact ih.record_excluded
    | false =>
      obtain ⟨hsame, hne⟩ := outcome_excludingNothing hx
      rw [if_neg Bool.false_ne_true, Nat.add_zero, Bool.not_false, cond_true, ofSightings_concat, ← hsame]
      cases hcome : outcome options x with
      | analyzed contribution => exact ih.record_analyzed contribution
      | skipped reason => exact ih.record_skipped fun heq ↦ hne (heq ▸ hcome)

end Survey

/-! ## Exclusion is deletion -/

namespace FileTree

variable {t t' : FileTree} {root : Location} {locked locked' : Location → Bool}
  {options : SurveyOptions} {cwd : Location} {raw : String}

/-- The source files below a directory that are left out by choice. -/
def excludedFiles (t : FileTree) (root : Location) (options : SurveyOptions) :
    List (Location × ByteArray) :=
  (t.files root).filter fun f ↦ isSource f && Survey.isExcluded options (relativePath f.1)

theorem mem_files_of_mem_excludedFiles {f : Location × ByteArray} (h : f ∈ t.excludedFiles root options) :
    f ∈ t.files root := List.mem_of_mem_filter h

theorem isExcluded_sightingOf (options : SurveyOptions) (root : Location) (locked : Location → Bool)
    (f : Location × ByteArray) :
    (sightingOf root locked f).isExcluded options = Survey.isExcluded options (relativePath f.1) := by
  rw [sightingOf]
  split <;> rfl

/-- What a walk reports of a directory without the excluded files is what it reports of
the whole directory and is not excluded. -/
theorem sightings_without_excludedFiles (hroot : t.get? root = some .directory)
    (hread : t.Readable root locked) :
    (t.without root (t.excludedFiles root options)).sightings root locked =
      (t.sightings root locked).filter fun x ↦ !x.isExcluded options := by
  have hlacks : LacksFiles t (t.without root (t.excludedFiles root options)) :=
    lacksFiles_without fun f ↦ mem_files_of_mem_excludedFiles
  have hroot' : (t.without root (t.excludedFiles root options)).get? root = some .directory :=
    hlacks.get?_eq hroot rfl
  have hfiles : ((t.without root (t.excludedFiles root options)).files root).filter isSource =
      ((t.files root).filter isSource).filter fun f ↦ !Survey.isExcluded options (relativePath f.1) := by
    have : Std.Irrefl fun f g : Location × ByteArray ↦ f.1 < g.1 := ⟨fun f ↦ List.lt_irrefl f.1⟩
    refine ((sorted_files _ root).filter _).eq_of_mem_iff (((t.sorted_files root).filter _).filter _)
      fun f ↦ ?_
    rw [List.mem_filter, mem_files_without fun f ↦ mem_files_of_mem_excludedFiles, List.mem_filter,
      List.mem_filter, excludedFiles, List.mem_filter, Bool.and_eq_true, Bool.not_eq_true']
    cases Survey.isExcluded options (relativePath f.1) <;> tauto
  rw [sightings_of_readable hroot hread, sightings_of_readable hroot' (hread.lacksFiles hlacks), hfiles,
    List.filter_map]
  congr 1
  refine List.filter_congr fun f _ ↦ ?_
  rw [Function.comp_apply, isExcluded_sightingOf]

theorem countP_isExcluded_sightings (hroot : t.get? root = some .directory)
    (hread : t.Readable root locked) :
    (t.sightings root locked).countP (·.isExcluded options) = (t.excludedFiles root options).length := by
  rw [sightings_of_readable hroot hread, List.countP_map, excludedFiles, ← List.countP_eq_length_filter,
    List.countP_filter]
  refine List.countP_congr fun f _ ↦ ?_
  rw [Function.comp_apply, isExcluded_sightingOf, Bool.and_comm]

/-- A survey of a directory with exclusions and one of what is left when the excluded files
have been deleted. -/
theorem ofSightings_excluding [Grammars] (options : SurveyOptions) (hroot : t.get? root = some .directory)
    (hread : t.Readable root locked) :
    SameButExcluded (t.excludedFiles root options).length
      (.ofSightings options (t.sightings root locked))
      (.ofSightings options.excludingNothing
        ((t.without root (t.excludedFiles root options)).sightings root locked)) := by
  rw [sightings_without_excludedFiles hroot hread, ← countP_isExcluded_sightings hroot hread]
  exact Survey.ofSightings_excluding ..

end FileTree

/-! ## Runs on directories -/

open FileTree

variable {t : FileTree} {cwd root : Location} {limits : Limits} {raw : String}

/-- A run on a directory surveys what the path leads to. -/
theorem run_of_directory [Grammars] (haccept : Input.accept t cwd limits raw = .ok (.directory root))
    (options : SurveyOptions) :
    run t cwd limits options raw =
      .ok ⟨raw, limits, none, t.survey cwd (options.within limits) raw⟩ := by
  rw [run, PreparedInput.ofPath_of_directory haccept, survey,
    walk_of_find (Input.accept_directory_iff.mp haccept)]
  rfl

/-- Where all directories can be listed, nothing but the source files matters to the survey of
a directory, and a survey with exclusions is one without them of what is left when the
excluded files have been deleted.  They are counted. -/
theorem survey_depends_on_sources [Grammars] (haccept : Input.accept t cwd limits raw = .ok (.directory root))
    {locked : Location → Bool} (hread : t.Readable root locked) (options : SurveyOptions) :
    (∀ t' locked', Input.accept t' cwd limits raw = .ok (.directory root) → t'.Readable root locked' →
      SameSources t t' root locked locked' →
        t'.survey cwd options raw locked' = t.survey cwd options raw locked ∧
        run t' cwd limits options raw = run t cwd limits options raw) ∧
    let rest := t.without root (t.excludedFiles root options)
    let n := (t.excludedFiles root options).length
    Input.accept rest cwd limits raw = .ok (.directory root) ∧ rest.Readable root locked ∧
      SameButExcluded n (t.survey cwd options raw locked)
        (rest.survey cwd options.excludingNothing raw locked) ∧
      ∃ r r', run t cwd limits options raw = .ok r ∧
        run rest cwd limits options.excludingNothing raw = .ok r' ∧
        SameButExcluded n r.survey r'.survey := by
  have hfind := Input.accept_directory_iff.mp haccept
  have hroot := (locate_get?_of_find hfind).2
  constructor
  · intro t' locked' haccept' hread' hsame
    have hfind' := Input.accept_directory_iff.mp haccept'
    have hroot' := (locate_get?_of_find hfind').2
    constructor
    · rw [survey, survey, walk_of_find hfind, walk_of_find hfind',
        hsame.sightings_eq hroot hroot' hread hread']
    · have hsightings := hsame.unlocked.sightings_eq hroot hroot' (t.readable_unlocked root)
        (t'.readable_unlocked root)
      rw [run_of_directory haccept, run_of_directory haccept', survey, survey, walk_of_find hfind,
        walk_of_find hfind', hsightings]
  · intro rest n
    have hlacks : LacksFiles t rest := lacksFiles_without fun f ↦ mem_files_of_mem_excludedFiles
    have hfind' := hlacks.find_eq hfind
    have haccept' : Input.accept rest cwd limits raw = .ok (.directory root) :=
      Input.accept_directory_iff.mpr hfind'
    refine ⟨haccept', hread.lacksFiles hlacks, ?_, _, _, run_of_directory haccept options,
      run_of_directory haccept' options.excludingNothing, ?_⟩
    · rw [survey, survey, walk_of_find hfind, walk_of_find hfind']
      exact ofSightings_excluding options hroot hread
    · rw [survey, survey, walk_of_find hfind, walk_of_find hfind']
      exact ofSightings_excluding (options.within limits) hroot (t.readable_unlocked root)

/-- A directory with three sources, one of which cannot be read, and another file beside it. -/
def plainTree : FileTree :=
  ⟨⟨[(["p"], .directory), (["p", "a.py"], .file "import os".toUTF8), (["p", "old.py"], .file "".toUTF8),
    (["p", "s.py"], .file "".toUTF8), (["secret.py"], .file "".toUTF8)], by decide +kernel⟩⟩

/-- The same with an empty directory, a note and a link to the other file. -/
def clutteredTree : FileTree :=
  ⟨⟨[(["p"], .directory), (["p", "a.py"], .file "import os".toUTF8), (["p", "empty"], .directory),
    (["p", "link.py"], .link "/secret.py"), (["p", "note.txt"], .file "import os".toUTF8),
    (["p", "old.py"], .file "".toUTF8), (["p", "s.py"], .file "".toUTF8), (["secret.py"], .file "".toUTF8)],
    by decide +kernel⟩⟩

theorem survey_depends_on_sources_plainTree :
    let locked : Location → Bool := fun loc ↦ loc = ["p", "s.py"]
    let options : SurveyOptions := ⟨9, 1, [⟨"old.py".toList.map .literal⟩]⟩
    Input.accept plainTree [] .builtin "p" = .ok (.directory ["p"]) ∧
      plainTree.Readable ["p"] locked ∧
      Input.accept clutteredTree [] .builtin "p" = .ok (.directory ["p"]) ∧
      clutteredTree.Readable ["p"] locked ∧
      SameSources plainTree clutteredTree ["p"] locked locked ∧
      clutteredTree.survey [] options "p" locked = plainTree.survey [] options "p" locked ∧
      run clutteredTree [] .builtin options "p" = run plainTree [] .builtin options "p" ∧
      (plainTree.survey [] options "p" locked).stats.skippedFor .excluded = 1 := by
  intro locked options
  have hname : SafeName "p" := ⟨by simp, by simp, by simp, by simp, by simp⟩
  have haccept : Input.accept plainTree [] .builtin "p" = .ok (.directory ["p"]) :=
    Input.accept_directory_iff.mpr (find_name hname (by decide) (by decide +kernel) nofun)
  have haccept' : Input.accept clutteredTree [] .builtin "p" = .ok (.directory ["p"]) :=
    Input.accept_directory_iff.mpr (find_name hname (by decide) (by decide +kernel) nofun)
  have hroot : plainTree.get? ["p"] = some .directory := by decide +kernel
  have hroot' : clutteredTree.get? ["p"] = some .directory := by decide +kernel
  have hread : plainTree.Readable ["p"] locked := (readable_iff hroot).mpr (by decide +kernel)
  have hread' : clutteredTree.Readable ["p"] locked := (readable_iff hroot').mpr (by decide +kernel)
  have hsame : SameSources plainTree clutteredTree ["p"] locked locked :=
    (sameSources_iff hroot hroot').mpr (by decide +kernel)
  obtain ⟨hany, -, -, hexcluded, -⟩ := survey_depends_on_sources haccept hread options
  obtain ⟨hsurvey, hrun⟩ := hany clutteredTree locked haccept' hread' hsame
  have hone : (plainTree.excludedFiles ["p"] options).length = 1 := by decide +kernel
  exact ⟨haccept, hread, haccept', hread', hsame, hsurvey, hrun, hexcluded.excluded_eq.trans hone⟩

end CodeSurvey
