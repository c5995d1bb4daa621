import CodeSurvey.Proofs.Analyzer.Designs
import CodeSurvey.Proofs.Survey.Sequential

/-!
# How often a design pattern is hit

A model lists, for each design pattern, the units that show it.  A reading adds its unit to
such a list as often as it names the pattern, and surveys put the lists one after the other.
So a pattern has no more hits than files were read, and one more for each file that repeats
itself.
-/

namespace CodeSurvey

namespace Model

/-- How many units are listed for a design pattern. -/
def hits (m : Model) (design : String) : Nat := ((m.patterns.get? design).getD []).length

theorem hits_empty (design : String) : (∅ : Model).hits design = 0 := rfl

theorem length_get?_foldl_alter (shown : List (String × String)) (ps : SortedMap String (List String))
    (design : String) :
    (((shown.foldl (fun ps (name, unit) ↦ ps.alter name fun old ↦ old.getD [] ++ [unit]) ps).get?
      design).getD []).length =
        ((ps.get? design).getD []).length + (shown.map Prod.fst).count design := by
  induction shown generalizing ps with
  | nil => rfl
  | cons x rest ih =>
    obtain ⟨name, unit⟩ := x
    rw [List.foldl_cons, ih, SortedMap.get?_alter, List.map_cons, List.count_cons]
    by_cases hname : design = name
    · subst hname
      simp
      omega
    · rw [if_neg hname, if_neg (by simpa using Ne.symm hname), Nat.add_zero]

/-- A model is hit by facts as often as these name the pattern. -/
theorem hits_addAll (m : Model) (facts : List Fact) (design : String) :
    (m.addAll facts).hits design = m.hits design + (designNames facts).count design :=
  length_get?_foldl_alter ..

theorem hits_merge (m n : Model) (design : String) :
    (m.merge n).hits design = m.hits design + n.hits design := by
  rw [hits, merge, SortedMap.get?_mergeWith, hits, hits]
  cases m.patterns.get? design <;> cases n.patterns.get? design <;> simp

theorem hits_ofFacts (facts : List Fact) (design : String) :
    (ofFacts facts).hits design = (designNames facts).count design := by
  rw [ofFacts, hits_addAll, hits_empty, Nat.zero_add]

end Model

namespace Survey

variable [Grammars] {options : SurveyOptions}

/-- What is analyzed is a file that is read. -/
theorem exists_of_analyzed {x : Sighting} {contribution : Contribution}
    (h : outcome options x = .analyzed contribution) :
    ∃ file, read? options x = some file ∧ contribution? file = some contribution := by
  cases x with
  | unlisted | sealed path => cases h
  | source file =>
    rw [outcome] at h
    split at h
    · cases h
    next hincluded =>
      split at h
      · cases h
      next hsize =>
        have hwanted : isWanted options file = true :=
          isWanted_iff.mpr ⟨eq_false_of_ne_true hincluded, Nat.not_lt.mp hsize⟩
        cases hcontribution : contribution? file with
        | none =>
          rw [hcontribution] at h
          cases h
        | some contribution' =>
          rw [hcontribution] at h
          exact ⟨file, if_pos hwanted, Outcome.analyzed.inj h ▸ hcontribution⟩

/-- Does a file repeat itself when it is read? -/
def repeats (file : SourceFile) : Bool := file.language.repeatsDesign (unitOf file)

/-- A file that is read hits a design pattern once, or at most twice if it repeats itself. -/
theorem hits_contribution_le {file : SourceFile} {contribution : Contribution}
    (h : contribution? file = some contribution) (design : String) :
    contribution.model.hits design ≤ 1 + if repeats file = true then 1 else 0 := by
  rw [Model.model_eq_of_contribution? h]
  obtain ⟨record, hrecord, -⟩ := Option.map_eq_some_iff.mp h
  obtain ⟨analyze, hanalyze, -⟩ := Language.exists_analyzer_of_recorder? hrecord
  have hnamed := Language.namedOnce hanalyze (unitOf file)
  have hnone : designNames [.file file.language] = [] := rfl
  rw [Model.hits_ofFacts, Model.factsOf, hanalyze, designNames_append, hnone, List.append_nil]
  by_cases hrepeats : repeats file = true
  · rw [if_pos hrepeats]
    exact hnamed.count_le_two design
  · rw [if_neg hrepeats]
    have hnodup := hnamed.nodup_iff.mpr (eq_false_of_ne_true hrepeats)
    exact List.nodup_iff_count_le_one.mp hnodup design

/-- A design pattern has no more hits than files were read and than files repeat themselves. -/
theorem hits_ofSightings_le (options : SurveyOptions) (seen : List Sighting) (design : String) :
    (ofSightings options seen).model.hits design ≤
      (ofSightings options seen).stats.filesAnalyzed +
        (seen.filterMap (read? options)).countP repeats := by
  induction seen using List.reverseRecOn with
  | nil => exact Nat.zero_le _
  | append_singleton seen x ih =>
    rw [ofSightings_concat, List.filterMap_append, List.countP_append]
    cases houtcome : outcome options x with
    | skipped reason => exact Nat.le_trans ih (Nat.add_le_add_left (Nat.le_add_right ..) _)
    | analyzed contribution =>
      obtain ⟨file, hread, hcontribution⟩ := exists_of_analyzed houtcome
      have hmore := hits_contribution_le hcontribution design
      rw [List.filterMap_cons_some hread, List.filterMap_nil, List.countP_singleton]
      show (Model.merge _ _).hits design ≤ _ + 1 + _
      rw [Model.hits_merge]
      omega

end Survey

/-- A unit is listed at most once for each design pattern exactly if it does not show a strategy
or a component twice.  A survey lists no more units for a design pattern than files were
analyzed, but for those that repeat themselves. -/
theorem hits_le [Grammars] (u : SourceUnit) (t : FileTree) (cwd : Location) (options : SurveyOptions)
    (raw : String) (locked : Location → Bool) :
    (∀ l ∈ Language.all, ∃ record, l.recorder? = some record ∧
      ((∀ design, ((record u).run ∅).2.hits design ≤ 1) ↔ l.repeatsDesign u = false)) ∧
    ∀ design, (t.survey cwd options raw locked).model.hits design ≤
      (t.survey cwd options raw locked).stats.filesAnalyzed +
        ((t.walk cwd raw locked).filterMap (Survey.read? options)).countP Survey.repeats := by
  constructor
  · intro l hl
    obtain ⟨record, analyze, hrecord, hanalyze, hadds⟩ :=
      Language.exists_recorder (Language.isKnown_of_mem_all hl)
    refine ⟨record, hrecord, ?_⟩
    simp only [(hadds u).run_empty, Model.hits_ofFacts]
    exact List.nodup_iff_count_le_one.symm.trans (Language.namedOnce hanalyze u).nodup_iff
  · intro design
    exact Survey.hits_ofSightings_le ..

/-- An object that is declared in a file named after a singleton is one singleton. -/
theorem hits_le_singleton :
    let u : SourceUnit := ⟨"src/AppSingleton.kt", .kotlin, "object App"⟩
    Language.repeatsDesign .kotlin u = false ∧
      (∀ design, ((Kotlin.record u).run ∅).2.hits design ≤ 1) ∧
      ((Kotlin.record u).run ∅).2.hits "Singleton (object)" = 1 := by
  intro u
  have honce : Language.repeatsDesign .kotlin u = false := by decide
  have hunits := (hits_le u ∅ [] ⟨Limits.builtin.maxFileSize, 1, []⟩ "" fun _ ↦ false).1
  obtain ⟨record, hrecord, hiff⟩ := hunits .kotlin (by decide)
  obtain rfl : Kotlin.record = record := Option.some.inj hrecord
  exact ⟨honce, hiff.mpr honce, by decide +kernel⟩

/-- An interface that is a strategy by the name of its file and by what it declares. -/
def strategyText : String := "public interface PayStrategy \x7b\n    void execute();\n\x7d\n"

/-- A directory with this interface alone. -/
def strategyTree : FileTree :=
  ⟨⟨[(["p"], .directory), (["p", "PayStrategy.java"], .file strategyText.toUTF8)], by decide +kernel⟩⟩

/-- One unit is listed twice for a strategy, and another one twice for a component; a survey of a
single file has two hits. -/
theorem two_hits :
    let strategy : SourceUnit := ⟨"PayStrategy.java", .java, strategyText⟩
    let component : SourceUnit := ⟨"src/App.tsx", .typescript,
      "@Component\nexport function App() \x7b\n  return <div></div>;\n\x7d\n"⟩
    let options : SurveyOptions := ⟨Limits.builtin.maxFileSize, 1, []⟩
    ((Java.record strategy).run ∅).2.patterns.get? "Strategy" = some ["PayStrategy", "PayStrategy"] ∧
      ((JavaScript.record true component).run ∅).2.patterns.get? "Component" = some ["App", "App"] ∧
      (strategyTree.survey [] options "p").stats.filesAnalyzed = 1 ∧
      (strategyTree.survey [] options "p").model.hits "Strategy" = 2 := by
  intro strategy component options
  have hname : SafeName "p" := ⟨by simp, by simp, by simp, by simp, by simp⟩
  have hfind : strategyTree.find [] "p" = .ok (["p"], .directory) :=
    FileTree.find_name hname (by decide) (by decide +kernel) nofun
  rw [FileTree.survey, FileTree.walk_of_find hfind]
  refine ⟨?_, ?_, ?_⟩
  · decide +kernel
  · decide +kernel
  · decide +kernel

end CodeSurvey
