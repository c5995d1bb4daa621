import CodeSurvey.Proofs.Analyzer.Manifests
import CodeSurvey.Proofs.Pattern.Captures
import CodeSurvey.Proofs.Text.Trimming

/-!
# Packages and the references that start from them

A reading names at most one package, and refers to others from one name.  In seven languages
this is the same name, but it is kept in two ways: a package loses the blanks around its name,
the source of a reference does not.  So references start at the package that was recorded if
its name is tidy.  A name that a pattern has found always is; one that comes from a path or from
a parser need not be.
-/

namespace CodeSurvey

/-! ## Facts that link -/

namespace Fact

/-- Does a fact neither name a package nor refer to one? -/
def isInner : Fact → Bool
  | package _ | dependency _ => false
  | _ => true

/-- Does a fact name no package, and refer to others from `source` only? -/
def isFrom (source : String) : Fact → Bool
  | package _ => false
  | dependency e => e.source = source
  | _ => true

@[simp] theorem isInner_framework (name : String) : (framework name).isInner = true := rfl

@[simp] theorem isInner_pattern (name unit : String) : (pattern name unit).isInner = true := rfl

@[simp] theorem isInner_classes (count : Nat) : (classes count).isInner = true := rfl

@[simp] theorem isFrom_classes (source : String) (count : Nat) : (classes count).isFrom source = true := rfl

@[simp] theorem isFrom_depends (source : String) (target : List Char) (kind : String) :
    (depends source target kind).isFrom source = true := decide_eq_true rfl

/-- References count, but for those to nothing. -/
theorem filterMap_edge?_depends (source kind : String) (targets : List (List Char)) :
    (targets.map (depends source · kind)).filterMap edge? =
      (targets.filter (· ≠ [])).map fun target ↦ ⟨source, String.ofList target, kind⟩ := by
  induction targets with
  | nil => rfl
  | cons target targets ih =>
    cases target with
    | nil => exact ih
    | cons c cs =>
      have hne : String.ofList (c :: cs) ≠ "" :=
        fun hempty ↦ List.cons_ne_nil c cs (String.ofList_injective hempty)
      have hedge : (depends source (c :: cs) kind).edge? = some ⟨source, String.ofList (c :: cs), kind⟩ :=
        if_neg hne
      rw [List.map_cons, List.filterMap_cons_some hedge, ih]
      rfl

theorem isInner_of_isMention {f : Fact} (h : f.isMention = true) : f.isInner = true := by
  cases f with
  | schema | endpoint => rfl
  | _ => exact nomatch h

theorem isFrom_of_isInner {f : Fact} (h : f.isInner = true) (source : String) : f.isFrom source = true := by
  cases f with
  | package | dependency => exact nomatch h
  | _ => rfl

end Fact

/-- None of the facts names a package or refers to one. -/
abbrev Inner (facts : List Fact) : Prop := Every Fact.isInner facts

section Inner

variable {facts : List Fact}

@[simp 1100] theorem Inner.of_mentions (h : Mentions facts) : Inner facts :=
  h.imp fun _ ↦ Fact.isInner_of_isMention

@[simp] theorem inner_frameworksIn (text : List Char) (rules : List FrameworkRule) :
    Inner (frameworksIn text rules) := by
  simp [frameworksIn]

@[simp] theorem inner_designsIn (fileName unitName : String) (text : List Char) (rules : List DesignRule) :
    Inner (designsIn fileName unitName text rules) := by
  simp [designsIn]

theorem Inner.filterMap_edge? (h : Inner facts) : facts.filterMap Fact.edge? = [] := by
  refine List.filterMap_eq_nil_iff.mpr fun f hf ↦ ?_
  have hinner := h f hf
  cases f with
  | package | dependency => exact nomatch hinner
  | _ => rfl

end Inner

/-! ## Readings -/

/-- A reading names a package and refers to others from this name, or does neither. -/
def Reading.LinksFrom (r : Reading) : Option String → Prop
  | some name => ∃ rest, r.facts = .package name :: rest ∧ Every (Fact.isFrom name) rest
  | none => Inner r.facts

/-- The name from which the references of a unit start.  Some languages ask for a declaration. -/
def Language.source? [Grammars] : Language → SourceUnit → Option String
  | .java, u => (Java.declarations u.text).packages.head?.map String.ofList
  | .csharp, u => (firstGroup? CSharp.namespaceLine 1 u.text).map String.ofList
  | .javascript, u | .typescript, u | .c, u | .cpp, u | .ruby, u | .rust, u =>
    some (parentModule u.directory)
  | .kotlin, u =>
    some ((firstGroup? Kotlin.packageLine 1 u.text).elim (parentModule u.directory) String.ofList)
  | .python, u => some (Python.moduleOf u)
  | .php, u =>
    some (((firstGroup? Php.namespaceLine 1 u.text).map Php.dotted).elim u.unitName String.ofList)
  | .jsp, u => some u.unitName
  | .unknown, _ => none

section LinksFrom

variable {facts : List Fact} {source : String}

@[simp 1100] theorem Every.isFrom_of_inner (h : Inner facts) : Every (Fact.isFrom source) facts :=
  h.imp fun _ hf ↦ Fact.isFrom_of_isInner hf source

theorem Java.isFrom_imports (package text : List Char) :
    Every (Fact.isFrom (String.ofList package)) (imports package text) := by
  simp only [imports, Every.filterMap]
  intro imported _ f hf
  split at hf
  · exact nomatch hf
  · split at hf
    · exact nomatch hf
    · exact Option.some.inj hf ▸ Fact.isFrom_depends ..

variable [Grammars]

theorem Java.linksFrom (u : SourceUnit) : (analyze u).LinksFrom (Language.java.source? u) := by
  rw [Language.source?, analyze]
  cases (declarations u.text).packages.head? with
  | none => simp [Reading.LinksFrom, specialDesigns]
  | some package =>
    refine ⟨_, rfl, ?_⟩
    simp [isFrom_imports, specialDesigns]

theorem CSharp.linksFrom (u : SourceUnit) : (analyze u).LinksFrom (Language.csharp.source? u) := by
  rw [Language.source?, analyze]
  cases firstGroup? namespaceLine 1 u.text with
  | none => simp [Reading.LinksFrom, specialDesigns]
  | some space =>
    refine ⟨_, rfl, ?_⟩
    simp [usings, specialDesigns]

theorem JavaScript.linksFrom (typed : Bool) (u : SourceUnit) :
    (analyze typed u).LinksFrom (some (parentModule u.directory)) := by
  refine ⟨_, rfl, ?_⟩
  simp [references, specialDesigns]

theorem C.linksFrom (u : SourceUnit) : (analyze u).LinksFrom (Language.c.source? u) := by
  refine ⟨_, rfl, ?_⟩
  simp [includes, specialDesigns]

theorem Kotlin.linksFrom (u : SourceUnit) : (analyze u).LinksFrom (Language.kotlin.source? u) := by
  refine ⟨_, rfl, ?_⟩
  simp [imports, specialDesigns]

theorem Python.linksFrom {u : SourceUnit} (h : u.loweredName ∉ Language.python.dependencyFiles) :
    (analyze u).LinksFrom (Language.python.source? u) := by
  rw [← isSome_manifestNames? u u.text, Option.not_isSome_iff_eq_none] at h
  rw [analyze, h]
  refine ⟨_, rfl, ?_⟩
  simp [imports, specialDesigns]

/-- The languages in which the references of a unit start from the name of its package. -/
def Language.rooted : List Language :=
  [.java, .csharp, .javascript, .typescript, .c, .kotlin, .python]

theorem Language.linksFrom {l : Language} (hl : l ∈ rooted) {analyze : SourceUnit → Reading}
    (h : l.analyzer? = some analyze) {u : SourceUnit} (hu : u.loweredName ∉ l.dependencyFiles) :
    (analyze u).LinksFrom (l.source? u) := by
  cases l with
  | java => exact Option.some.inj h ▸ Java.linksFrom u
  | csharp => exact Option.some.inj h ▸ CSharp.linksFrom u
  | javascript => exact Option.some.inj h ▸ JavaScript.linksFrom false u
  | typescript => exact Option.some.inj h ▸ JavaScript.linksFrom true u
  | c => exact Option.some.inj h ▸ C.linksFrom u
  | kotlin => exact Option.some.inj h ▸ Kotlin.linksFrom u
  | python => exact Option.some.inj h ▸ Python.linksFrom hu
  | _ => exact absurd hl (by decide)

end LinksFrom

/-! ## Where references start -/

/-- Every reference starts at a package of the model. -/
def Model.IsRooted (m : Model) : Prop := ∀ e ∈ m.dependencies, e.source ∈ m.packages.keys

instance (m : Model) : Decidable m.IsRooted :=
  inferInstanceAs (Decidable (∀ e ∈ m.dependencies, e.source ∈ m.packages.keys))

/-- The package of a name is the name itself exactly if the name is tidy. -/
theorem Fact.package?_eq_some_self_iff {name : String} :
    (package name).package? = some name ↔ Text.IsTidy name.toList := by
  have hofList {s : List Char} {t : String} : String.ofList s = t ↔ s = t.toList := by
    rw [← String.toList_inj, String.toList_ofList]
  rw [package?, Text.isTidy_iff]
  split
  next hempty =>
    rw [hofList] at hempty
    exact iff_of_false nofun fun ⟨hne, htrim⟩ ↦ hne (htrim.symm.trans hempty)
  next hempty =>
    rw [Option.some_inj, hofList]
    rw [hofList] at hempty
    exact ⟨fun htrim ↦ ⟨fun hnil ↦ hempty (htrim.trans hnil), htrim⟩, And.right⟩

section OfFacts

variable {r : Reading} {name : String}

theorem Model.dependencies_ofFacts (facts : List Fact) :
    (ofFacts facts).dependencies = facts.filterMap Fact.edge? :=
  List.nil_append _

theorem Reading.LinksFrom.dependencies_eq_nil (h : r.LinksFrom none) :
    (Model.ofFacts r.facts).dependencies = [] := by
  rw [Model.dependencies_ofFacts]
  exact Inner.filterMap_edge? h

theorem Reading.LinksFrom.source_eq (h : r.LinksFrom (some name)) :
    ∀ e ∈ (Model.ofFacts r.facts).dependencies, e.source = name := by
  obtain ⟨rest, hfacts, hrest⟩ := h
  rw [Model.dependencies_ofFacts, hfacts, List.filterMap_cons_none rfl]
  intro e he
  obtain ⟨f, hf, hedge⟩ := List.mem_filterMap.mp he
  have hfrom := hrest f hf
  cases f with
  | dependency e' =>
    rw [Fact.edge?] at hedge
    split at hedge
    · exact nomatch hedge
    · exact Option.some.inj hedge ▸ of_decide_eq_true hfrom
  | _ => exact nomatch hedge

theorem Reading.LinksFrom.keys_packages (h : r.LinksFrom (some name)) :
    (Model.ofFacts r.facts).packages.keys = (Fact.package name).package?.toList := by
  obtain ⟨rest, hfacts, hrest⟩ := h
  have hnone : rest.filterMap Fact.package? = [] := by
    refine List.filterMap_eq_nil_iff.mpr fun f hf ↦ ?_
    have hfrom := hrest f hf
    cases f with
    | package => exact nomatch hfrom
    | _ => rfl
  rw [Model.ofFacts, Model.addAll, hfacts, List.filterMap_cons, hnone]
  cases (Fact.package name).package? <;> rfl

/-- References that all start from one name start at a package if there are none, or if the name is tidy. -/
theorem Reading.LinksFrom.isRooted_iff (h : r.LinksFrom (some name)) :
    (Model.ofFacts r.facts).IsRooted ↔
      (Model.ofFacts r.facts).dependencies = [] ∨ Text.IsTidy name.toList := by
  rw [Model.IsRooted, h.keys_packages, ← Fact.package?_eq_some_self_iff]
  simp only [Option.mem_toList]
  constructor
  · intro hrooted
    refine or_iff_not_imp_left.mpr fun hne ↦ ?_
    obtain ⟨e, he⟩ := List.exists_mem_of_ne_nil _ hne
    have hself := hrooted e he
    rwa [h.source_eq e he] at hself
  · rintro (hnil | htidy) e he
    · exact absurd he (hnil ▸ List.not_mem_nil)
    · rwa [h.source_eq e he]

end OfFacts

/-! ## Declared names -/

theorem Java.captures_packageLine : packageLine.Captures 1 Pattern.dottedName :=
  .before (.before (.after (.group rfl)) rfl) rfl

theorem CSharp.captures_namespaceLine : namespaceLine.Captures 1 Pattern.dottedName :=
  .after (.group rfl)

theorem Kotlin.captures_packageLine : packageLine.Captures 1 Pattern.dottedWord :=
  .after (.group rfl)

/-- What a group around a run took is tidy if no blank belongs to the class of the run. -/
theorem Pattern.Captures.isTidy_firstGroup? {p : Pattern} {number : Nat} {cls : CharClass} {greedy : Bool}
    (h : p.Captures number (run cls 1 greedy))
    (hcls : ∀ n ∈ Text.blankCodes, cls.mem (Char.ofNat n) = false) {text taken : List Char}
    (htaken : firstGroup? p number text = some taken) : Text.IsTidy (String.ofList taken).toList := by
  rw [String.toList_ofList]
  obtain ⟨hall, hleast⟩ := h.run_of_mem_groupIn (mem_groupIn_of_firstGroup? htaken)
  exact Text.isTidy_of_forall (List.ne_nil_of_length_pos hleast) fun c hc ↦
    Text.isBlank_eq_false_of (p := fun c ↦ cls.mem c) hcls (hall c hc)

/-- The name that no pattern has found: where a unit declares none, it takes one from its path, and
what a declaration says may be read off a syntax tree. -/
def Language.looseName? [Grammars] : Language → SourceUnit → Option String
  | .java, u =>
    let declared := Java.declarations u.text
    if declared.fidelity = .structured then declared.packages.head?.map String.ofList else none
  | .javascript, u | .typescript, u | .c, u => some (parentModule u.directory)
  | .kotlin, u =>
    if (firstGroup? Kotlin.packageLine 1 u.text).isSome then none else some (parentModule u.directory)
  | .python, u => some (Python.moduleOf u)
  | _, _ => none

/-- Declarations that are not read off a syntax tree are those that patterns have found. -/
theorem Java.declarations_eq_of_ne_structured [Grammars] {text : List Char}
    (h : (declarations text).fidelity ≠ .structured) :
    (declarations text).packages.head? = firstGroup? packageLine 1 text := by
  rw [declarations, declarationsBy] at h ⊢
  split at h
  next => exact absurd rfl h
  next => cases firstGroup? packageLine 1 text <;> rfl

/-- A name is loose or has been found by a pattern, and what a pattern has found is tidy. -/
theorem Language.isTidy_source_iff [Grammars] {l : Language} (hl : l ∈ rooted) {u : SourceUnit}
    {name : String} (h : l.source? u = some name) :
    Text.IsTidy name.toList ↔ ∀ loose ∈ l.looseName? u, Text.IsTidy loose.toList := by
  have hloose (heq : l.looseName? u = some name) :
      Text.IsTidy name.toList ↔ ∀ loose ∈ l.looseName? u, Text.IsTidy loose.toList := by
    rw [heq]
    simp
  have hfound (heq : l.looseName? u = none) (htidy : Text.IsTidy name.toList) :
      Text.IsTidy name.toList ↔ ∀ loose ∈ l.looseName? u, Text.IsTidy loose.toList := by
    rw [heq]
    simp [htidy]
  cases l with
  | java =>
    by_cases hparsed : (Java.declarations u.text).fidelity = .structured
    · exact hloose ((if_pos hparsed).trans h)
    · obtain ⟨package, hpackage, rfl⟩ := Option.map_eq_some_iff.mp h
      rw [Java.declarations_eq_of_ne_structured hparsed] at hpackage
      exact hfound (if_neg hparsed) (Java.captures_packageLine.isTidy_firstGroup? (by decide) hpackage)
  | csharp =>
    obtain ⟨space, hspace, rfl⟩ := Option.map_eq_some_iff.mp h
    exact hfound rfl (CSharp.captures_namespaceLine.isTidy_firstGroup? (by decide) hspace)
  | kotlin =>
    have hname := Option.some.inj h
    cases hpackage : firstGroup? Kotlin.packageLine 1 u.text with
    | none =>
      rw [hpackage] at hname
      exact hloose (by simp [looseName?, hpackage, ← hname])
    | some package =>
      rw [hpackage] at hname
      refine hfound (by simp [looseName?, hpackage]) ?_
      rw [← hname]
      exact Kotlin.captures_packageLine.isTidy_firstGroup? (by decide +kernel) hpackage
  | javascript | typescript | c | python => exact hloose h
  | _ => exact absurd hl (by decide)

/-- In the languages whose references start from the name of the package, each of them starts at a
package but for blanks around its name, unless it starts from blanks only.  They all start at
packages exactly if there are none, or if the name is tidy that the unit takes from its path or
that a parser has found, if there is one. -/
theorem isRooted_iff_isTidy [Grammars] : ∀ l ∈ Language.rooted, ∃ record, l.recorder? = some record ∧
    ∀ u : SourceUnit, u.loweredName ∉ l.dependencyFiles →
      let m := ((record u).run ∅).2
      (∀ e ∈ m.dependencies, ∀ name, (Fact.package e.source).package? = some name →
        name ∈ m.packages.keys) ∧
      (m.IsRooted ↔ m.dependencies = [] ∨ ∀ loose ∈ l.looseName? u, Text.IsTidy loose.toList) := by
  intro l hl
  have hknown : l.isKnown = true := by
    revert l
    decide
  obtain ⟨record, analyze, hrecord, hanalyze, hadds⟩ := Language.exists_recorder hknown
  refine ⟨record, hrecord, fun u hu ↦ ?_⟩
  have hlinks := Language.linksFrom hl hanalyze hu
  intro m
  have hm : m = .ofFacts (analyze u).facts := congrArg Prod.snd (hadds u).run_empty
  rw [hm]
  cases hsource : l.source? u with
  | none =>
    rw [hsource] at hlinks
    rw [Model.IsRooted, hlinks.dependencies_eq_nil]
    exact ⟨List.forall_mem_nil _, iff_of_true (List.forall_mem_nil _) (.inl rfl)⟩
  | some name =>
    rw [hsource] at hlinks
    refine ⟨fun e he package hpackage ↦ ?_, ?_⟩
    · rw [hlinks.source_eq e he] at hpackage
      rw [hlinks.keys_packages, hpackage]
      exact List.mem_singleton_self package
    · rw [hlinks.isRooted_iff, Language.isTidy_source_iff hl hsource]

/-- A unit in a directory with a tidy name, and a class in a package with a tidy name, which a parser has
found. -/
theorem isRooted_of_tidy_directory :
    let u : SourceUnit := ⟨"app/src/a.js", .javascript, "const x = require('x');"⟩
    let m := ((JavaScript.record false u).run ∅).2
    let c : SourceUnit := ⟨"A.java", .java, "package p;\nimport q.B;"⟩
    let build : Grammars := .ofTrees [(.java, c.content, .named "package_declaration" "package p;"
      [.token "package", .named "identifier" "p" [], .token ";"])]
    let n := ((@Java.record build c).run ∅).2
    (m.IsRooted ∧ m.dependencies = [⟨"src", "x", "require"⟩]) ∧
      @Language.looseName? build .java c = some "p" ∧ n.IsRooted ∧
        n.dependencies = [⟨"p", "q", "import"⟩] := by
  intro u m c build n
  obtain ⟨record, hrecord, hplaced⟩ := isRooted_iff_isTidy .javascript (by decide)
  obtain rfl : JavaScript.record false = record := Option.some.inj hrecord
  obtain ⟨record, hrecord, hparsed⟩ := @isRooted_iff_isTidy build .java (by decide)
  obtain rfl : @Java.record build = record := Option.some.inj hrecord
  have hloose : @Language.looseName? build .java c = some "p" := by decide +kernel
  refine ⟨⟨(hplaced u (by decide)).2.mpr (.inr ?_), ?_⟩, hloose,
    (hparsed c (by decide)).2.mpr (.inr ?_), ?_⟩
  · decide +kernel
  · decide +kernel
  · rw [hloose]
    decide +kernel
  · decide +kernel

/-- A blank at one end of a name is enough for references to start at no package, be it the name of a
directory or of a file. -/
theorem not_isRooted_of_blank :
    let inDirectory : SourceUnit := ⟨" src/a.js", .javascript, "const x = require('x');"⟩
    let inFile : SourceUnit := ⟨" a.py", .python, "import x"⟩
    let m := ((JavaScript.record false inDirectory).run ∅).2
    let n := ((Python.record inFile).run ∅).2
    (m.packages.keys = ["src"] ∧ m.dependencies = [⟨" src", "x", "require"⟩] ∧ ¬ m.IsRooted) ∧
      n.packages.keys = ["a"] ∧ n.dependencies = [⟨" a", "x", "import"⟩] ∧ ¬ n.IsRooted := by
  decide +kernel

end CodeSurvey
