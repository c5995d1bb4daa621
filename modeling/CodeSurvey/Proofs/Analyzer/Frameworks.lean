import CodeSurvey.Proofs.Analyzer.Plain
import Mathlib.Data.List.Nodup

/-!
# What frameworks a reading reports

An analyzer reports the frameworks of a catalogue whose markers it finds, and some of them
report a few more by signs of their own.  No catalogue lists a framework twice, and no sign
stands for one that the catalogue of the same analyzer lists.  So a reading reports each
framework at most once, whether the unit was read as text or as a manifest.
-/

namespace CodeSurvey

/-- The names of the frameworks that facts report, from first to last. -/
def frameworkNames (facts : List Fact) : List String := facts.filterMap Fact.framework?

section FrameworkNames

variable {facts rest : List Fact} {f : Fact}

@[simp] theorem frameworkNames_append (facts rest : List Fact) :
    frameworkNames (facts ++ rest) = frameworkNames facts ++ frameworkNames rest :=
  List.filterMap_append

@[simp] theorem frameworkNames_of_bare (h : Bare facts) : frameworkNames facts = [] :=
  List.filterMap_eq_nil_iff.mpr fun f hf ↦ Fact.framework?_of_isBare (h f hf)

@[simp] theorem frameworkNames_cons_of_bare (h : Bare [f]) (rest : List Fact) :
    frameworkNames (f :: rest) = frameworkNames rest := by
  rw [← List.singleton_append, frameworkNames_append, frameworkNames_of_bare h, List.nil_append]

@[simp] theorem frameworkNames_onlyIf_pattern (condition : Bool) (name unit : String) :
    frameworkNames (Fact.onlyIf condition (.pattern name unit)) = [] := by
  cases condition <;> rfl

@[simp] theorem frameworkNames_designsIn (fileName unitName : String) (text : List Char)
    (rules : List DesignRule) : frameworkNames (designsIn fileName unitName text rules) = [] := by
  simp [frameworkNames, designsIn, Fact.framework?]

theorem sublist_frameworksIn (text : List Char) (rules : List FrameworkRule) :
    (frameworkNames (frameworksIn text rules)).Sublist (rules.map FrameworkRule.name) := by
  have hnames : frameworkNames (frameworksIn text rules) =
      (rules.filter fun r ↦ Text.containsAny text r.markers).map FrameworkRule.name := by
    rw [frameworkNames, frameworksIn, List.filterMap_map]
    exact congrFun List.filterMap_eq_map _
  rw [hnames]
  exact List.filter_sublist.map _

theorem sublist_onlyIf_framework (condition : Bool) (name : String) :
    (frameworkNames (Fact.onlyIf condition (.framework name))).Sublist [name] := by
  cases condition with
  | false => exact List.nil_sublist _
  | true => exact List.Sublist.refl _

/-- A catalogue that lists no framework twice reports none twice. -/
theorem nodup_frameworksIn (rules : List FrameworkRule) (h : (rules.map FrameworkRule.name).Nodup)
    (text : List Char) : (frameworkNames (frameworksIn text rules)).Nodup :=
  h.sublist (sublist_frameworksIn text rules)

/-- A catalogue and some signs report no framework twice if they share none. -/
theorem nodup_frameworksIn_append (rules : List FrameworkRule) {signs : List Fact} {known : List String}
    (hsigns : (frameworkNames signs).Sublist known)
    (h : (rules.map FrameworkRule.name ++ known).Nodup) (text : List Char) :
    (frameworkNames (frameworksIn text rules) ++ frameworkNames signs).Nodup :=
  h.sublist ((sublist_frameworksIn text rules).append hsigns)

end FrameworkNames

/-! ## The analyzers -/

theorem C.nodup_frameworkNames [Grammars] (u : SourceUnit) : (frameworkNames (analyze u).facts).Nodup := by
  simpa [analyze, specialDesigns] using nodup_frameworksIn frameworks (by simp [frameworks]) u.text

/-- Templates and smart pointers have signs of their own. -/
theorem Cpp.nodup_frameworkNames [Grammars] (u : SourceUnit) : (frameworkNames (analyze u).facts).Nodup := by
  have hsigns : (frameworkNames (specialFrameworks u.text)).Sublist
      ["C++ Templates / Metaprogramming", "C++ Smart Pointers"] := by
    rw [specialFrameworks, frameworkNames_append]
    exact (sublist_onlyIf_framework ..).append (sublist_onlyIf_framework ..)
  have hnames : frameworkNames (analyze u).facts =
      frameworkNames (frameworksIn u.text frameworks) ++ frameworkNames (specialFrameworks u.text) := by
    simp [analyze, specialDesigns]
  rw [hnames]
  exact nodup_frameworksIn_append frameworks hsigns (by simp [frameworks]) u.text

theorem CSharp.nodup_frameworkNames (u : SourceUnit) : (frameworkNames (analyze u).facts).Nodup := by
  simpa [analyze, specialDesigns] using nodup_frameworksIn frameworks (by simp [frameworks]) u.text

theorem Java.nodup_frameworkNames [Grammars] (u : SourceUnit) : (frameworkNames (analyze u).facts).Nodup := by
  simpa [analyze, specialDesigns] using nodup_frameworksIn frameworks (by simp [frameworks]) u.text

/-- TypeScript counts as a framework. -/
theorem JavaScript.nodup_frameworkNames [Grammars] (typed : Bool) (u : SourceUnit) :
    (frameworkNames (analyze typed u).facts).Nodup := by
  have hsigns := sublist_onlyIf_framework typed "TypeScript"
  have hnames : frameworkNames (analyze typed u).facts = frameworkNames (frameworksIn u.text frameworks) ++
      frameworkNames (Fact.onlyIf typed (.framework "TypeScript")) := by
    simp [analyze, specialDesigns]
  rw [hnames]
  exact nodup_frameworksIn_append frameworks hsigns (by simp [frameworks]) u.text

theorem Jsp.nodup_frameworkNames (u : SourceUnit) : (frameworkNames (analyze u).facts).Nodup := by
  have hdesigns : frameworkNames (designs u.unitName u.text (Text.lower u.text)) = [] := by
    simp [frameworkNames, designs, Fact.framework?]
  simpa [analyze, hdesigns] using nodup_frameworksIn frameworks (by simp [frameworks]) (Text.lower u.text)

/-- The scripts of a build tool are a framework. -/
theorem Kotlin.nodup_frameworkNames (u : SourceUnit) : (frameworkNames (analyze u).facts).Nodup := by
  have hnames : frameworkNames (analyze u).facts = frameworkNames (frameworksIn u.text frameworks) ++
      frameworkNames (Fact.onlyIf
        (Text.endsWith u.fileName.toList ".kts" && Text.contains u.text "plugins \x7b")
        (.framework "Gradle Kotlin DSL")) := by
    simp [analyze, specialDesigns]
  rw [hnames]
  exact nodup_frameworksIn_append frameworks (sublist_onlyIf_framework ..) (by simp [frameworks]) u.text

theorem Php.nodup_frameworkNames (u : SourceUnit) : (frameworkNames (analyze u).facts).Nodup := by
  have hcatalogue := nodup_frameworksIn frameworks (by simp [frameworks]) u.text
  rw [analyze]
  split
  · simpa [manifest] using hcatalogue
  · have hdesigns : frameworkNames (designs u.unitName u.text) = [] := by
      simp [frameworkNames, designs, Fact.framework?]
    simpa [hdesigns] using hcatalogue

theorem Python.nodup_frameworkNames [Grammars] (u : SourceUnit) :
    (frameworkNames (analyze u).facts).Nodup := by
  have hcatalogue := nodup_frameworksIn frameworks (by simp [frameworks]) u.text
  rw [analyze]
  split
  · simpa using hcatalogue
  · simpa [specialDesigns] using hcatalogue

/-- A manifest reports the tool that it is written for, and nothing else. -/
theorem Ruby.nodup_frameworkNames (u : SourceUnit) : (frameworkNames (analyze u).facts).Nodup := by
  rw [analyze]
  split
  · have hnames : frameworkNames (manifest u.text) = ["Bundler (Dependency Management)"] := by
      simp [manifest, frameworkNames, Fact.framework?, Fact.depends]
    rw [hnames]
    exact List.nodup_singleton _
  · have hsigns := sublist_onlyIf_framework (isBuildFile u u.text) "Rake (Build Tool)"
    simpa [specialDesigns] using nodup_frameworksIn_append frameworks hsigns (by simp [frameworks]) u.text

/-- A manifest reports no framework at all. -/
theorem Rust.nodup_frameworkNames [Grammars] (u : SourceUnit) : (frameworkNames (analyze u).facts).Nodup := by
  rw [analyze]
  split
  · have hnames : frameworkNames (manifest u.text) = [] := by simp
    rw [hnames]
    exact List.nodup_nil
  · simpa [specialDesigns] using nodup_frameworksIn frameworks (by simp [frameworks]) u.text

/-- No reading reports a framework twice. -/
theorem Language.nodup_frameworkNames [Grammars] {l : Language} {analyze : SourceUnit → Reading}
    (h : l.analyzer? = some analyze) (u : SourceUnit) : (frameworkNames (analyze u).facts).Nodup := by
  cases l with
  | unknown => exact nomatch h
  | java => exact Option.some.inj h ▸ Java.nodup_frameworkNames u
  | csharp => exact Option.some.inj h ▸ CSharp.nodup_frameworkNames u
  | javascript => exact Option.some.inj h ▸ JavaScript.nodup_frameworkNames false u
  | typescript => exact Option.some.inj h ▸ JavaScript.nodup_frameworkNames true u
  | c => exact Option.some.inj h ▸ C.nodup_frameworkNames u
  | cpp => exact Option.some.inj h ▸ Cpp.nodup_frameworkNames u
  | ruby => exact Option.some.inj h ▸ Ruby.nodup_frameworkNames u
  | rust => exact Option.some.inj h ▸ Rust.nodup_frameworkNames u
  | kotlin => exact Option.some.inj h ▸ Kotlin.nodup_frameworkNames u
  | python => exact Option.some.inj h ▸ Python.nodup_frameworkNames u
  | php => exact Option.some.inj h ▸ Php.nodup_frameworkNames u
  | jsp => exact Option.some.inj h ▸ Jsp.nodup_frameworkNames u

end CodeSurvey
