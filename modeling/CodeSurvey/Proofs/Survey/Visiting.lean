import CodeSurvey.Proofs.Analyzer.Files
import CodeSurvey.Proofs.Model.Counts
import CodeSurvey.Survey.Basic

/-!
# Reading files into one model

A survey reads every file into a model of its own and merges these models.  The same
comes about if there is one model for all files, which each recorder adds to in its turn
and in which each file is then counted.  As recorders count no files, the model counts
exactly the files that were visited.
-/

namespace CodeSurvey

namespace Model

variable [Grammars]

/-- Reads a file into a model: the recorder of its language adds what it comes across, and
then the file is counted. -/
def visit (m : Model) (file : SourceFile) : Model :=
  match file.language.recorder? with
  | some record => ((record (Survey.unitOf file)).run m).2.add (.file file.language)
  | none => m

/-- What is told of a file by visiting it. -/
def factsOf (file : SourceFile) : List Fact :=
  match file.language.analyzer? with
  | some analyze => (analyze (Survey.unitOf file)).facts ++ [.file file.language]
  | none => []

variable {file : SourceFile}

theorem visit_eq_addAll (h : file.language.isKnown = true) (m : Model) :
    m.visit file = m.addAll (factsOf file) := by
  obtain ⟨record, analyze, hrecord, hanalyze, hadds⟩ := Language.exists_recorder h
  rw [visit, hrecord, factsOf, hanalyze, addAll_append]
  dsimp only
  rw [(hadds (Survey.unitOf file)).run_eq, add]

theorem model_eq_of_contribution? {contribution : Survey.Contribution}
    (h : Survey.contribution? file = some contribution) :
    contribution.model = .ofFacts (factsOf file) := by
  obtain ⟨record, hrecord, rfl⟩ := Option.map_eq_some_iff.mp h
  obtain ⟨analyze, hanalyze, hadds⟩ := Language.exists_analyzer_of_recorder? hrecord
  rw [factsOf, hanalyze]
  dsimp only
  rw [(hadds _).run_empty, ofFacts, ofFacts, addAll_append]
  rfl

/-- To merge in what a file contributes is to visit the file. -/
theorem merge_contribution {contribution : Survey.Contribution}
    (h : Survey.contribution? file = some contribution) (m : Model) :
    m.merge contribution.model = m.visit file := by
  obtain ⟨record, hrecord, -⟩ := Option.map_eq_some_iff.mp h
  rw [model_eq_of_contribution? h, visit_eq_addAll (Language.isKnown_of_recorder? hrecord),
    addAll_eq_merge_ofFacts]

theorem foldl_visit {files : List SourceFile} (h : ∀ file ∈ files, file.language.isKnown = true)
    (m : Model) : files.foldl visit m = m.addAll (files.flatMap factsOf) := by
  induction files generalizing m with
  | nil => exact (addAll_nil m).symm
  | cons file rest ih =>
    obtain ⟨hfile, hrest⟩ := List.forall_mem_cons.mp h
    rw [List.foldl_cons, ih hrest, visit_eq_addAll hfile, List.flatMap_cons, addAll_append]

/-! ## Counts of files -/

/-- A fact that each file tells once or not at all is told by as many files as tell it. -/
theorem count_flatMap_factsOf {files : List SourceFile} {fact : Fact} {tells : SourceFile → Bool}
    (h : ∀ file ∈ files, (factsOf file).count fact = if tells file then 1 else 0) :
    (files.flatMap factsOf).count fact = files.countP tells := by
  induction files with
  | nil => rfl
  | cons file rest ih =>
    obtain ⟨hfile, hrest⟩ := List.forall_mem_cons.mp h
    rw [List.flatMap_cons, List.count_append, hfile, ih hrest, List.countP_cons, Nat.add_comm]

/-- The only file that a visit counts is the one visited. -/
theorem filterMap_language?_factsOf (h : file.language.isKnown = true) :
    (factsOf file).filterMap Fact.language? = [file.language] := by
  obtain ⟨record, analyze, -, hanalyze, -⟩ := Language.exists_recorder h
  have hnone := List.filterMap_eq_nil_iff.mpr (Language.countNoFiles hanalyze (Survey.unitOf file))
  rw [factsOf, hanalyze]
  dsimp only
  rw [List.filterMap_append, hnone]
  rfl

theorem count_file_factsOf (h : file.language.isKnown = true) (l : Language) :
    (factsOf file).count (.file l) = if file.language = l then 1 else 0 := by
  rw [← Fact.count_language?, filterMap_language?_factsOf h, List.count_singleton]
  simp only [beq_iff_eq]

variable {files : List SourceFile}

/-- Files are counted in a machine word. -/
theorem totalFiles_foldl_visit (h : ∀ file ∈ files, file.language.isKnown = true) :
    (files.foldl visit ∅).totalFiles = files.length % 2 ^ 64 := by
  have hall : (files.flatMap factsOf).filterMap Fact.language? = files.map (·.language) := by
    rw [List.filterMap_flatMap, List.map_eq_flatMap]
    exact List.flatMap_congr fun file hfile ↦ filterMap_language?_factsOf (h file hfile)
  have hnone : (∅ : Model).totalFiles = 0 := rfl
  rw [foldl_visit h, totalFiles_addAll, hall, List.length_map, hnone, Nat.zero_add]

theorem fileCount_foldl_visit (h : ∀ file ∈ files, file.language.isKnown = true) (l : Language) :
    (files.foldl visit ∅).fileCount l = (files.countP fun file ↦ file.language = l) % 2 ^ 64 := by
  have hcount : (files.flatMap factsOf).count (.file l) = files.countP fun file ↦ file.language = l := by
    refine count_flatMap_factsOf fun file hfile ↦ ?_
    simpa only [decide_eq_true_eq] using count_file_factsOf (h file hfile) l
  have hnone : (∅ : Model).fileCount l = 0 := rfl
  rw [foldl_visit h, fileCount_addAll, hcount, hnone, Nat.zero_add]

end Model

end CodeSurvey
