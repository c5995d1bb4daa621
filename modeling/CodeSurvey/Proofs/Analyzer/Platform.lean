import CodeSurvey.Proofs.Analyzer.Links

/-!
# Imports from outside the platform

Five languages record imports from outside their platform only.  What belongs to the platform
is told by the first segment of a name, its root.  Kotlin, Python and PHP keep to this rule.
C# looks at the first letters of a name and not at its first segment, so it also leaves
out names whose root only begins with that of the platform.  Rust keeps to the rule where a
crate is used, and records a crate that is declared in any case.
-/

namespace CodeSurvey

/-- A way to import something: how it is written, and what the reference to it is like. -/
structure ImportForm where
  /-- Takes the name that is imported in its first group. -/
  pattern : Pattern
  /-- What stands between the segments of a name. -/
  separator : Char
  /-- The roots that are not recorded. -/
  platform : List String
  /-- What part of the name is referred to, and how it is spelled. -/
  target : List Char → List Char
  kind : String

namespace ImportForm

/-- The first segment of a name. -/
def root (form : ImportForm) (name : List Char) : String :=
  String.ofList (Text.firstPiece (· = form.separator) name)

/-- Is a name outside the platform? -/
def isForeign (form : ImportForm) (name : List Char) : Bool := form.root name ∉ form.platform

/-- The names that a text imports. -/
def names (form : ImportForm) (text : List Char) : List (List Char) := form.pattern.groupIn 1 text

/-- The reference to a name. -/
def edge (form : ImportForm) (source : String) (name : List Char) : Edge :=
  ⟨source, String.ofList (form.target name), form.kind⟩

end ImportForm

namespace Language

/-- The ways to import something in the languages that have a platform.  A relative import of
Python has an empty root, and is never recorded. -/
def importForms : Language → List ImportForm
  | .csharp => [⟨CSharp.usingLine, '.', ["System"], id, "using"⟩]
  | .kotlin => [⟨Kotlin.importLine, '.', Kotlin.platformRoots, id, "import"⟩]
  | .python =>
    [⟨Python.importLine, '.', "" :: Python.standardModules, Python.root, "import"⟩,
      ⟨Python.fromImport, '.', "" :: Python.standardModules, Python.root, "from-import"⟩]
  | .php => [⟨Php.useLine, '\\', Php.builtinRoots, Php.dotted, "use"⟩]
  | .rust =>
    [⟨Rust.useLine, '.', Rust.localRoots, id, "use"⟩,
      ⟨Rust.externCrate, '.', Rust.localRoots, id, "extern_crate"⟩]
  | _ => []

/-- The references to the imported names that pass a test, form by form. -/
def importEdges (l : Language) (keeps : ImportForm → List Char → Bool) (source : String)
    (text : List Char) : List Edge :=
  l.importForms.flatMap fun form ↦ ((form.names text).filter (keeps form)).map (form.edge source)

/-- Does the analyzer record a name that is imported in this form? -/
def records : Language → ImportForm → List Char → Bool
  | .csharp, _, name => !Text.startsWith name "System"
  | .rust, form, name => form.kind = "extern_crate" || form.isForeign name
  | _, form, name => form.isForeign name

/-- The imported names that are recorded or left out against the rule. -/
def misjudged : Language → List Char → List (List Char)
  | .csharp, text => (CSharp.usingLine.groupIn 1 text).filter fun used ↦
    Text.startsWith used "System" && Text.firstPiece (· = '.') used ≠ "System".toList
  | .rust, text => (Rust.externCrate.groupIn 1 text).filter fun crate ↦ String.ofList crate ∈ Rust.localRoots
  | _, _ => []

end Language

/-! ## What is recorded -/

section Recorded

variable {form : ImportForm} {text : List Char}

/-- A reference counts if what it refers to is not empty. -/
theorem ImportForm.filterMap_edge?_map {keep : List Char → Bool}
    (hne : ∀ name ∈ form.names text, keep name = true → form.target name ≠ []) (source : String) :
    (((form.names text).filter keep).map fun name ↦
      Fact.depends source (form.target name) form.kind).filterMap Fact.edge? =
        ((form.names text).filter keep).map (form.edge source) := by
  have htargets : (((form.names text).filter keep).map form.target).filter (· ≠ []) =
      ((form.names text).filter keep).map form.target := by
    refine List.filter_eq_self.mpr (List.forall_mem_map.mpr fun name hname ↦ decide_eq_true ?_)
    exact hne name (List.mem_of_mem_filter hname) (List.of_mem_filter hname)
  have hedges := Fact.filterMap_edge?_depends source form.kind
    (((form.names text).filter keep).map form.target)
  rw [htargets, List.map_map, List.map_map] at hedges
  exact hedges

theorem ImportForm.ne_nil_of_mem_names {cls : CharClass} {greedy : Bool}
    (h : form.pattern.Captures 1 (.run cls 1 greedy)) {name : List Char} (hname : name ∈ form.names text) :
    name ≠ [] :=
  List.ne_nil_of_length_pos (h.run_of_mem_groupIn hname).2

theorem CSharp.captures_usingLine : usingLine.Captures 1 Pattern.dottedName :=
  .before (.before (.after (.group rfl)) rfl) rfl

theorem Kotlin.captures_importLine : importLine.Captures 1 Pattern.dottedWord := .after (.group rfl)

theorem Php.captures_useLine : useLine.Captures 1 qualifiedName :=
  .before (.before (.before (.after (.group rfl)) rfl) rfl) rfl

theorem Rust.captures_useLine : useLine.Captures 1 Pattern.word1 := .after (.group rfl)

theorem Rust.captures_externCrate : externCrate.Captures 1 Pattern.word1 := .after (.group rfl)

theorem CSharp.edges_usings (space text : List Char) : (usings space text).filterMap Fact.edge? =
    Language.csharp.importEdges Language.csharp.records (String.ofList space) text := by
  rw [Language.importEdges, Language.importForms, List.flatMap_singleton, ← ImportForm.filterMap_edge?_map]
  · rfl
  · exact fun name hname _ ↦ ImportForm.ne_nil_of_mem_names captures_usingLine hname

theorem Kotlin.edges_imports (package : String) (text : List Char) :
    (imports package text).filterMap Fact.edge? =
      Language.kotlin.importEdges Language.kotlin.records package text := by
  rw [Language.importEdges, Language.importForms, List.flatMap_singleton, ← ImportForm.filterMap_edge?_map]
  · rfl
  · exact fun name hname _ ↦ ImportForm.ne_nil_of_mem_names captures_importLine hname

theorem Php.edges_uses (source : String) (text : List Char) :
    (uses source text).filterMap Fact.edge? = Language.php.importEdges Language.php.records source text := by
  rw [Language.importEdges, Language.importForms, List.flatMap_singleton, ← ImportForm.filterMap_edge?_map]
  · rfl
  · intro name hname _ hnil
    exact ImportForm.ne_nil_of_mem_names captures_useLine hname (List.map_eq_nil_iff.mp hnil)

/-- A word is its own first segment. -/
theorem root_eq_of_mem_names (h : form.pattern.Captures 1 Pattern.word1) (hsep : form.separator = '.')
    {name : List Char} (hname : name ∈ form.names text) : form.root name = String.ofList name := by
  have hall := (h.run_of_mem_groupIn hname).1
  rw [ImportForm.root, Text.firstPiece, hsep, List.takeWhile_eq_self_iff.mpr]
  intro c hc
  have hdot : CharClass.word.mem '.' = false := by decide
  rw [Bool.not_eq_true', decide_eq_false_iff_not]
  rintro rfl
  exact Bool.false_ne_true (hdot.symm.trans (hall _ hc))

theorem Rust.edges_uses (crate : String) (text : List Char) :
    (uses crate text).filterMap Fact.edge? = Language.rust.importEdges Language.rust.records crate text := by
  rw [Language.importEdges, Language.importForms, List.flatMap_cons, List.flatMap_singleton,
    ← ImportForm.filterMap_edge?_map, ← ImportForm.filterMap_edge?_map, ← List.filterMap_append, uses]
  · congr 3
    · refine List.filter_congr fun name hname ↦ ?_
      rw [Language.records, ImportForm.isForeign, root_eq_of_mem_names captures_useLine rfl hname]
      rfl
    · exact (List.filter_eq_self.mpr fun _ _ ↦ rfl).symm
  · exact fun name hname _ ↦ ImportForm.ne_nil_of_mem_names captures_externCrate hname
  · exact fun name hname _ ↦ ImportForm.ne_nil_of_mem_names captures_useLine hname

theorem Python.filterMap_imports {p : Pattern} {kind : String} (module : String) :
    let form : ImportForm := ⟨p, '.', "" :: standardModules, root, kind⟩
    (imports module p kind text).filterMap Fact.edge? =
      ((form.names text).filter form.isForeign).map (form.edge module) := by
  intro form
  have hforeign {name : List Char} : form.isForeign name =
      (root name ≠ [] && String.ofList (root name) ∉ standardModules) := by
    have hempty : String.ofList (root name) = "" ↔ root name = [] :=
      ⟨fun h ↦ String.ofList_injective h, fun h ↦ h ▸ rfl⟩
    rw [ImportForm.isForeign, show form.root name = String.ofList (root name) from rfl]
    simp [form, hempty]
  rw [← form.filterMap_edge?_map, imports, List.filter_map, List.map_map]
  · congr 2
    exact List.filter_congr fun name _ ↦ hforeign.symm
  · intro name _ hkeep hnil
    rw [hforeign, show root name = [] from hnil] at hkeep
    exact Bool.false_ne_true hkeep

theorem Python.edges_imports (module : String) (text : List Char) :
    (imports module importLine "import" text).filterMap Fact.edge? ++
      (imports module fromImport "from-import" text).filterMap Fact.edge? =
        Language.python.importEdges Language.python.records module text := by
  rw [filterMap_imports, filterMap_imports, Language.importEdges, Language.importForms, List.flatMap_cons,
    List.flatMap_singleton]
  rfl

end Recorded

section Analyzed

variable [Grammars] {u : SourceUnit} {source : String}

theorem CSharp.edges_analyze (h : Language.csharp.source? u = some source) :
    (analyze u).facts.filterMap Fact.edge? =
      Language.csharp.importEdges Language.csharp.records source u.text := by
  obtain ⟨space, hspace, rfl⟩ := Option.map_eq_some_iff.mp h
  rw [← edges_usings]
  simp [analyze, hspace, Inner.filterMap_edge?, specialDesigns, List.filterMap_cons, Fact.packageOf,
    Fact.edge?]

theorem Kotlin.edges_analyze (h : Language.kotlin.source? u = some source) :
    (analyze u).facts.filterMap Fact.edge? =
      Language.kotlin.importEdges Language.kotlin.records source u.text := by
  obtain rfl := Option.some.inj h
  rw [← edges_imports]
  simp [analyze, Inner.filterMap_edge?, specialDesigns, List.filterMap_cons, Fact.edge?]

theorem Python.edges_analyze (h : Language.python.source? u = some source)
    (hread : (analyze u).fidelity ≠ .manifest) :
    (analyze u).facts.filterMap Fact.edge? =
      Language.python.importEdges Language.python.records source u.text := by
  obtain rfl := Option.some.inj h
  rw [← edges_imports]
  rw [analyze] at hread ⊢
  cases hnames : manifestNames? u.fileName u.text with
  | some names =>
    rw [hnames] at hread
    exact absurd rfl hread
  | none => simp [Inner.filterMap_edge?, specialDesigns, List.filterMap_cons, Fact.edge?]

theorem Php.edges_analyze (h : Language.php.source? u = some source)
    (hread : (analyze u).fidelity ≠ .manifest) :
    (analyze u).facts.filterMap Fact.edge? =
      Language.php.importEdges Language.php.records source u.text := by
  obtain rfl := Option.some.inj h
  rw [← edges_uses]
  rw [analyze] at hread ⊢
  split at hread
  next => exact absurd rfl hread
  next hmanifest =>
    rw [if_neg hmanifest]
    cases firstGroup? namespaceLine 1 u.text <;>
      simp [Inner.filterMap_edge?, designs, List.filterMap_cons, Fact.packageOf, Fact.edge?]

theorem Rust.edges_analyze (h : Language.rust.source? u = some source)
    (hread : (analyze u).fidelity ≠ .manifest) :
    (analyze u).facts.filterMap Fact.edge? =
      Language.rust.importEdges Language.rust.records source u.text := by
  obtain rfl := Option.some.inj h
  rw [← edges_uses]
  rw [analyze] at hread ⊢
  split at hread
  next => exact absurd rfl hread
  next hmanifest =>
    rw [if_neg hmanifest]
    simp [Inner.filterMap_edge?, specialDesigns, List.filterMap_cons, Fact.edge?]

/-- The languages that leave out imports from their platform by its roots. -/
def Language.withPlatform : List Language := [.csharp, .kotlin, .python, .php, .rust]

theorem Language.dependencies_eq {l : Language} (hl : l ∈ withPlatform) {analyze : SourceUnit → Reading}
    (h : l.analyzer? = some analyze) (hread : (analyze u).fidelity ≠ .manifest)
    (hsource : l.source? u = some source) :
    (Model.ofFacts (analyze u).facts).dependencies = l.importEdges l.records source u.text := by
  rw [Model.dependencies_ofFacts]
  cases l with
  | csharp => exact Option.some.inj h ▸ CSharp.edges_analyze hsource
  | kotlin => exact Option.some.inj h ▸ Kotlin.edges_analyze hsource
  | python =>
    obtain rfl := Option.some.inj h
    exact Python.edges_analyze hsource hread
  | php =>
    obtain rfl := Option.some.inj h
    exact Php.edges_analyze hsource hread
  | rust =>
    obtain rfl := Option.some.inj h
    exact Rust.edges_analyze hsource hread
  | _ => exact absurd hl (by decide)

end Analyzed

/-! ## What should be recorded -/

section Filters

variable {α β γ : Type} {p q : β → Bool} {xs : List β}

theorem filter_sublist_filter (hle : ∀ b ∈ xs, p b = true → q b = true) :
    (xs.filter p).Sublist (xs.filter q) := by
  have htwice : xs.filter p = (xs.filter q).filter p := by
    rw [List.filter_filter]
    refine List.filter_congr fun b hb ↦ ?_
    cases hp : p b with
    | false => rfl
    | true => exact (hle b hb hp).symm
  exact htwice ▸ List.filter_sublist

theorem length_flatMap_le {f g : α → List β} {as : List α} (hle : ∀ a ∈ as, (f a).length ≤ (g a).length) :
    (as.flatMap f).length ≤ (as.flatMap g).length := by
  induction as with
  | nil => exact Nat.le_refl _
  | cons a as ih =>
    obtain ⟨hhead, htail⟩ := List.forall_mem_cons.mp hle
    rw [List.flatMap_cons, List.flatMap_cons, List.length_append, List.length_append]
    exact Nat.add_le_add hhead (ih htail)

/-- Where each list is at most as long as another, they are the same together only if each is the same:
none can make up for what another lacks. -/
theorem flatMap_eq_flatMap_iff {f g : α → List β} {as : List α}
    (hle : ∀ a ∈ as, (f a).length ≤ (g a).length) : as.flatMap f = as.flatMap g ↔ ∀ a ∈ as, f a = g a := by
  refine ⟨fun heq ↦ ?_, List.flatMap_congr⟩
  induction as with
  | nil => exact List.forall_mem_nil _
  | cons a as ih =>
    obtain ⟨hhead, htail⟩ := List.forall_mem_cons.mp hle
    rw [List.flatMap_cons, List.flatMap_cons] at heq
    have hrest := length_flatMap_le htail
    have hlength := congrArg List.length heq
    rw [List.length_append, List.length_append] at hlength
    obtain ⟨hfirst, hothers⟩ := List.append_inj heq (by omega)
    exact List.forall_mem_cons.mpr ⟨hfirst, ih htail hothers⟩

/-- Where one test is stricter than another on some lists, what passes is the same exactly if no
element passes the laxer test only. -/
theorem flatMap_map_filter_eq_iff {xs : α → List β} {g : α → β → γ} {p q : α → β → Bool} {as : List α}
    (hle : ∀ a ∈ as, ∀ b ∈ xs a, p a b = true → q a b = true) :
    (as.flatMap fun a ↦ ((xs a).filter (p a)).map (g a)) =
        as.flatMap (fun a ↦ ((xs a).filter (q a)).map (g a)) ↔
      ∀ a ∈ as, ∀ b ∈ xs a, q a b = true → p a b = true := by
  have hsub (a : α) (ha : a ∈ as) := filter_sublist_filter (hle a ha)
  rw [flatMap_eq_flatMap_iff fun a ha ↦ ((hsub a ha).map (g a)).length_le]
  refine forall₂_congr fun a ha ↦ ⟨fun heq b hb hq ↦ ?_, fun hge ↦ ?_⟩
  · have hlength := congrArg List.length heq
    rw [List.length_map, List.length_map] at hlength
    have hfilter := (hsub a ha).eq_of_length hlength
    exact (List.mem_filter.mp (hfilter ▸ List.mem_filter.mpr ⟨hb, hq⟩)).2
  · refine congrArg _ (List.filter_congr fun b hb ↦ ?_)
    rw [Bool.eq_iff_iff]
    exact ⟨hle a ha b hb, hge b hb⟩

end Filters

theorem ImportForm.isForeign_csharp_iff {name : List Char} {form : ImportForm}
    (h : form ∈ Language.csharp.importForms) :
    form.isForeign name = true ↔ Text.firstPiece (· = '.') name ≠ "System".toList := by
  obtain rfl := List.mem_singleton.mp h
  rw [isForeign, decide_eq_true_iff, List.mem_singleton, root, ← String.toList_inj, String.toList_ofList]

/-- A name whose first segment is the root of the platform begins with it. -/
theorem CSharp.isForeign_of_records {form : ImportForm} (h : form ∈ Language.csharp.importForms)
    {name : List Char} (hrecords : Language.csharp.records form name = true) :
    form.isForeign name = true := by
  refine (ImportForm.isForeign_csharp_iff h).mpr fun hroot ↦ ?_
  have hstarts : Text.startsWith name "System" = true :=
    List.isPrefixOf_iff_prefix.mpr (hroot ▸ List.takeWhile_prefix _)
  rw [Language.records, hstarts] at hrecords
  exact nomatch hrecords

theorem Rust.records_of_isForeign {form : ImportForm} {name : List Char} (h : form.isForeign name = true) :
    Language.rust.records form name = true := by
  rw [Language.records, h, Bool.or_true]

/-- An analyzer records what it should if it misjudges no name. -/
theorem Language.importEdges_eq_iff {l : Language} (hl : l ∈ withPlatform) (source : String)
    (text : List Char) :
    l.importEdges l.records source text = l.importEdges ImportForm.isForeign source text ↔
      l.misjudged text = [] := by
  cases l with
  | csharp =>
    rw [importEdges, importEdges,
      flatMap_map_filter_eq_iff fun form hform _ _ ↦ CSharp.isForeign_of_records hform, misjudged,
      List.filter_eq_nil_iff, importForms, List.forall_mem_singleton]
    refine forall₂_congr fun used _ ↦ ?_
    rw [ImportForm.isForeign_csharp_iff (List.mem_singleton_self _), records]
    cases Text.startsWith used "System" with
    | false => simp only [Bool.not_false, implies_true, Bool.false_and, Bool.false_eq_true, not_false_eq_true]
    | true => simp only [Bool.not_true, Bool.true_and, decide_eq_true_eq, Bool.false_eq_true, imp_false]
  | rust =>
    rw [eq_comm, importEdges, importEdges,
      flatMap_map_filter_eq_iff fun form _ _ _ ↦ Rust.records_of_isForeign, misjudged,
      List.filter_eq_nil_iff, importForms, List.forall_mem_cons, List.forall_mem_singleton]
    refine (and_iff_right fun name _ ↦ id).trans (forall₂_congr fun crate hcrate ↦ ?_)
    rw [ImportForm.isForeign, root_eq_of_mem_names Rust.captures_externCrate rfl hcrate]
    simp [records]
  | kotlin | python | php => exact iff_of_true rfl rfl
  | _ => exact absurd hl (by decide)

/-- A unit that is no manifest, and that declares a package where its language asks for one, records
the imported names that its analyzer keeps, form by form and in the order of the text.  These are the
names with a root outside the platform exactly if no name is misjudged. -/
theorem foreign_imports_recorded [Grammars] :
    ∀ l ∈ Language.withPlatform, ∃ record, l.recorder? = some record ∧
      ∀ (u : SourceUnit) (source : String),
        ((record u).run ∅).1 ≠ .manifest → l.source? u = some source →
          let edges := ((record u).run ∅).2.dependencies
          edges = l.importEdges l.records source u.text ∧
            (edges = l.importEdges ImportForm.isForeign source u.text ↔ l.misjudged u.text = []) := by
  intro l hl
  have hknown : l.isKnown = true := by
    revert l
    decide
  obtain ⟨record, analyze, hrecord, hanalyze, hadds⟩ := Language.exists_recorder hknown
  refine ⟨record, hrecord, fun u source hread hsource ↦ ?_⟩
  rw [(hadds u).run_empty] at hread ⊢
  intro edges
  have hedges : edges = l.importEdges l.records source u.text :=
    Language.dependencies_eq hl hanalyze hread hsource
  refine ⟨hedges, ?_⟩
  rw [hedges]
  exact Language.importEdges_eq_iff hl source u.text

/-- A unit with a name from the platform and two from outside it, in a build that parses it. -/
theorem foreign_imports_recorded_crates :
    let u : SourceUnit := ⟨"src/a.rs", .rust, "use std::io;\nuse serde::de;\nextern crate log;"⟩
    let build : Grammars := .ofTrees [(.rust, u.content, .named "source_file" u.content [])]
    let read := (@Rust.record build u).run ∅
    read.1 = .structured ∧
      read.2.dependencies = [⟨"src", "serde", "use"⟩, ⟨"src", "log", "extern_crate"⟩] := by
  intro u build read
  obtain ⟨record, hrecord, hrecorded⟩ := @foreign_imports_recorded build .rust (by decide)
  obtain rfl : @Rust.record build = record := Option.some.inj hrecord
  have hstructured : read.1 = .structured := by decide +kernel
  have hread : read.1 ≠ .manifest := by
    rw [hstructured]
    decide
  obtain ⟨-, hiff⟩ := hrecorded u "src" hread (by decide +kernel)
  refine ⟨hstructured, ?_⟩
  rw [hiff.mpr (by decide +kernel)]
  decide +kernel

/-- A name whose root only begins with that of the platform is left out, and a crate of the platform is
recorded where it is declared, whatever a parser makes of the text. -/
theorem platform_misjudged :
    let space : SourceUnit := ⟨"A.cs", .csharp, "namespace A;\nusing SystemsLab.Core;"⟩
    let crate : SourceUnit := ⟨"a.rs", .rust, "extern crate std;"⟩
    (Language.csharp.source? space = some "A" ∧ ((CSharp.record space).run ∅).2.dependencies = [] ∧
      Language.csharp.importEdges ImportForm.isForeign "A" space.text = [⟨"A", "SystemsLab.Core", "using"⟩]) ∧
    (∀ build : Grammars,
      ((@Rust.record build crate).run ∅).2.dependencies = [⟨"root", "std", "extern_crate"⟩]) ∧
    Language.rust.importEdges ImportForm.isForeign "root" crate.text = [] := by
  intro space crate
  refine ⟨by decide +kernel, fun build ↦ ?_, by decide +kernel⟩
  have hread : (Rust.analyze crate).fidelity ≠ .manifest := by
    rw [ne_eq, (Rust.isManifestIf crate).fidelity_iff]
    decide +kernel
  have hroot : parentModule crate.directory = "root" := by decide +kernel
  have hsource : Language.rust.source? crate = some "root" := congrArg some hroot
  rw [(Rust.adds_record crate).run_empty]
  dsimp only
  rw [Language.dependencies_eq (l := .rust) (by decide) rfl hread hsource]
  decide +kernel

end CodeSurvey
