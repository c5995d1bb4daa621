import CodeSurvey.Proofs.Analyzer.Frameworks
import CodeSurvey.Proofs.Survey.Sequential

/-!
# How many files use a framework

A model counts, for each framework, how often it was reported.  A reading reports each
framework at most once, and a survey visits each file once.  So the count of a framework in
a survey is the number of files that report it by themselves.
-/

namespace CodeSurvey

open Model

section

variable {facts : List Fact} {name : String}

theorem mem_frameworkNames : name ∈ frameworkNames facts ↔ .framework name ∈ facts := by
  rw [frameworkNames, ← List.count_pos_iff, Fact.count_framework?, List.count_pos_iff]

theorem count_framework_eq_one (h : (frameworkNames facts).Nodup) (hmem : .framework name ∈ facts) :
    facts.count (.framework name) = 1 := by
  rw [← Fact.count_framework?]
  exact List.count_eq_one_of_mem h (mem_frameworkNames.mpr hmem)

end

namespace Survey

section

variable [Grammars] {file : SourceFile}

/-- Is a framework in the model of a file that is read alone? -/
def reports (name : String) (file : SourceFile) : Bool :=
  file.language.recorder?.any fun record ↦
    (((record (unitOf file)).run ∅).2.frameworks.get? name).isSome

/-- A file that is visited tells of a framework once if it reports it, and else not at all. -/
theorem count_framework_factsOf (h : file.language.isKnown = true) (name : String) :
    (factsOf file).count (.framework name) = if reports name file then 1 else 0 := by
  obtain ⟨record, analyze, hrecord, hanalyze, hadds⟩ := Language.exists_recorder h
  have hnodup := Language.nodup_frameworkNames hanalyze (unitOf file)
  have hcount : (factsOf file).count (.framework name) =
      (analyze (unitOf file)).facts.count (.framework name) := by
    rw [factsOf, hanalyze]
    exact List.count_append.trans (congrArg _ (List.count_eq_zero.mpr (by simp)))
  rw [hcount, reports, hrecord, Option.any_some, (hadds _).run_empty, get?_frameworks_ofFacts]
  by_cases hmem : .framework name ∈ (analyze (unitOf file)).facts
  · simp [hmem, count_framework_eq_one hnodup hmem]
  · simp [hmem, List.count_eq_zero]

/-- Files that are visited one after the other count a framework once for each that reports it. -/
theorem get?_frameworks_foldl_visit {files : List SourceFile}
    (h : ∀ file ∈ files, file.language.isKnown = true) (name : String) :
    (files.foldl visit ∅).frameworks.get? name =
      if files.any (reports name) then some (.ofNat (files.countP (reports name))) else none := by
  have hcount : (files.flatMap factsOf).count (.framework name) = files.countP (reports name) :=
    count_flatMap_factsOf fun file hfile ↦ count_framework_factsOf (h file hfile) name
  have hmem : .framework name ∈ files.flatMap factsOf ↔ files.any (reports name) = true := by
    rw [← List.count_pos_iff, hcount, List.countP_pos_iff, List.any_eq_true]
  rw [foldl_visit h]
  exact (get?_frameworks_ofFacts ..).trans (by simp only [hcount, hmem])

end

/-- What is read of known sightings are files in known languages. -/
theorem isKnown_of_read? {options : SurveyOptions} {x : Sighting} {file : SourceFile} (hx : x.IsKnown)
    (h : read? options x = some file) : file.language.isKnown = true := by
  cases x with
  | unlisted | sealed path => cases h
  | source file' =>
    rw [read?] at h
    split at h
    next =>
      obtain rfl := Option.some.inj h
      exact hx
    next => cases h

theorem get?_frameworks_ofSightings [Grammars] (options : SurveyOptions) {seen : List Sighting}
    (h : ∀ x ∈ seen, x.IsKnown) (name : String) :
    let analyzed := seen.filterMap (read? options)
    (ofSightings options seen).model.frameworks.get? name =
      if analyzed.any (reports name) then some (.ofNat (analyzed.countP (reports name))) else none := by
  intro analyzed
  have hknown : ∀ file ∈ analyzed, file.language.isKnown = true := by
    intro file hfile
    obtain ⟨x, hx, hread⟩ := List.mem_filterMap.mp hfile
    exact isKnown_of_read? (h x hx) hread
  rw [(tallied_ofSightings options h).model_eq, get?_frameworks_foldl_visit hknown]

end Survey

/-- Whatever a path leads to, the sources that a walk from there reports are in known languages. -/
theorem FileTree.isKnown_of_mem_walk {t : FileTree} {cwd : Location} {raw : String}
    {locked : Location → Bool} {x : Sighting} (h : x ∈ t.walk cwd raw locked) : x.IsKnown := by
  have hunlisted : ∀ {y : Sighting}, y ∈ [Sighting.unlisted] → y.IsKnown := by
    rintro y hy
    rw [List.mem_singleton.mp hy]
    trivial
  unfold walk at h
  split at h
  · exact hunlisted h
  next loc _ =>
    split at h
    · exact isKnown_of_mem_sightings h
    · split at h
      · exact isKnown_of_mem_sightings h
      · cases h
      · exact hunlisted h
    · exact isKnown_of_sighting? (Option.mem_toList.mp h)
    · exact hunlisted h

/-- A file counts a framework at most once.  Recorded alone, a unit has a count of one for each
framework that it has at all.  In a survey the count of a framework is the number of files that
report it when they are read alone, and so it is at most the number of files analyzed.  Counts
are machine words, and no walk that fits into a memory comes upon as many files as to make them
wrap around. -/
theorem frameworks_once [Grammars] :
    (∀ l ∈ Language.all, ∃ record, l.recorder? = some record ∧
      ∀ (u : SourceUnit) (name : String) (n : UInt64),
        ((record u).run ∅).2.frameworks.get? name = some n → n = 1) ∧
    ∀ (t : FileTree) (cwd : Location) (options : SurveyOptions) (raw : String)
      (locked : Location → Bool) (name : String),
      let s := t.survey cwd options raw locked
      let analyzed := (t.walk cwd raw locked).filterMap (Survey.read? options)
      let reporting := analyzed.countP (Survey.reports name)
      s.stats.filesAnalyzed = analyzed.length ∧ s.model.frameworkCount name = reporting % 2 ^ 64 ∧
        ∀ n, s.model.frameworks.get? name = some n →
          n = .ofNat reporting ∧ 1 ≤ reporting ∧ reporting ≤ s.stats.filesAnalyzed ∧
            (s.stats.filesAnalyzed < 2 ^ 64 → n.toNat = reporting) := by
  constructor
  · intro l hl
    obtain ⟨record, analyze, hrecord, hanalyze, hadds⟩ :=
      Language.exists_recorder (Language.isKnown_of_mem_all hl)
    refine ⟨record, hrecord, fun u name n hn ↦ ?_⟩
    rw [(hadds u).run_empty, get?_frameworks_ofFacts, Option.ite_none_right_eq_some] at hn
    obtain ⟨hmem, hcount⟩ := hn
    rw [count_framework_eq_one (Language.nodup_frameworkNames hanalyze u) hmem] at hcount
    exact (Option.some.inj hcount).symm
  · intro t cwd options raw locked name s analyzed reporting
    have hknown : ∀ x ∈ t.walk cwd raw locked, x.IsKnown := fun _ ↦ FileTree.isKnown_of_mem_walk
    have hlength : s.stats.filesAnalyzed = analyzed.length :=
      (Survey.tallied_ofSightings options hknown).filesAnalyzed_eq
    have hget : s.model.frameworks.get? name =
        if analyzed.any (Survey.reports name) then some (.ofNat reporting) else none :=
      Survey.get?_frameworks_ofSightings options hknown name
    have hpos : analyzed.any (Survey.reports name) = true ↔ 0 < reporting := by
      rw [List.any_eq_true, ← List.countP_pos_iff]
    refine ⟨hlength, ?_, fun n hn ↦ ?_⟩
    · rw [frameworkCount, hget]
      split
      next => exact UInt64.toNat_ofNat'
      next hnone =>
        rw [Nat.eq_zero_of_not_pos fun hcount ↦ hnone (hpos.mpr hcount)]
        rfl
    · rw [hget, Option.ite_none_right_eq_some, Option.some.injEq] at hn
      obtain ⟨hany, rfl⟩ := hn
      have hle : reporting ≤ s.stats.filesAnalyzed := hlength ▸ List.countP_le_length
      refine ⟨rfl, hpos.mp hany, hle, fun hfits ↦ ?_⟩
      exact UInt64.toNat_ofNat_of_lt' (Nat.lt_of_le_of_lt hle hfits)

/-- A directory with two lists of gems. -/
def gemsTree : FileTree :=
  ⟨⟨[(["p"], .directory), (["p", "Gemfile"], .file "gem 'rack'".toUTF8), (["p", "q"], .directory),
    (["p", "q", "Gemfile"], .file "".toUTF8)], by decide +kernel⟩⟩

/-- A list of gems counts the tool that reads it once, and two such lists count it twice. -/
theorem frameworks_once_gems :
    let options : SurveyOptions := ⟨Limits.builtin.maxFileSize, 1, []⟩
    let bundler := "Bundler (Dependency Management)"
    let s := gemsTree.survey [] options "p"
    let analyzed := (gemsTree.walk [] "p").filterMap (Survey.read? options)
    ((Ruby.record ⟨"Gemfile", .ruby, "gem 'rack'"⟩).run ∅).2.frameworks.get? bundler = some 1 ∧
      s.model.frameworks.get? bundler = some 2 ∧
        analyzed.countP (Survey.reports bundler) ≤ s.stats.filesAnalyzed ∧
          2 = UInt64.ofNat (analyzed.countP (Survey.reports bundler)) := by
  intro options bundler s analyzed
  have hname : SafeName "p" := ⟨by simp, by simp, by simp, by simp, by simp⟩
  have hfind : gemsTree.find [] "p" = .ok (["p"], .directory) :=
    FileTree.find_name hname (by decide) (by decide +kernel) nofun
  have hunit : (((Ruby.record ⟨"Gemfile", .ruby, "gem 'rack'"⟩).run ∅).2.frameworks.get?
      bundler).isSome := by decide +kernel
  have hsurvey : (gemsTree.survey [] options "p").model.frameworks.get? bundler = some 2 := by
    rw [FileTree.survey, FileTree.walk_of_find hfind]
    decide +kernel
  obtain ⟨n, hn⟩ := Option.isSome_iff_exists.mp hunit
  obtain ⟨record, hrecord, hone⟩ := frameworks_once.1 .ruby (by decide)
  obtain rfl : Ruby.record = record := Option.some.inj hrecord
  obtain rfl := hone _ bundler n hn
  obtain ⟨-, -, hcounts⟩ := frameworks_once.2 gemsTree [] options "p" (fun _ ↦ false) bundler
  obtain ⟨hcount, -, hle, -⟩ := hcounts 2 hsurvey
  exact ⟨hn, hsurvey, hle, hcount⟩

end CodeSurvey
