import CodeSurvey.Proofs.Survey.Sources
import CodeSurvey.Proofs.Survey.Visiting
import CodeSurvey.Proofs.Text.Pieces

/-!
# Manifests

An analyzer knows the manifests of its language by their names, and each does so in its own
way.  The table of names gives every manifest to one language, so a unit whose path tells
that language is read as a manifest exactly if the table has its name, but for the scripts of
two build tools, which are read as sources.  A manifest adds references and frameworks to a
model and leaves the rest of it as it is.
-/

namespace CodeSurvey

/-! ## Names of manifests -/

/-- The file name in lower case. -/
def SourceUnit.loweredName (u : SourceUnit) : String := String.ofList (Text.lower u.fileName.toList)

theorem SourceUnit.loweredName_eq_iff {u : SourceUnit} {name : String} :
    u.loweredName = name ↔ Text.lower u.fileName.toList = name.toList := by
  rw [loweredName, ← String.toList_inj, String.toList_ofList]

/-- The last component of a path is what follows its last slash, if that is a name. -/
theorem Path.fileName?_eq_of_lastPiece {path name : String}
    (hlast : Text.lastPiece (· = '/') path.toList = name.toList) (hempty : name ≠ "") (hdot : name ≠ ".")
    (hdots : name ≠ "..") : fileName? path = some name := by
  have hpieces := Text.getLast?_pieces (· = '/') path.toList
  rw [hlast] at hpieces
  obtain ⟨before, hbefore⟩ := List.getLast?_eq_some_iff.mp hpieces
  have hne : name.toList ≠ [] := by simpa using hempty
  have hne' : name.toList ≠ ['.'] := fun heq ↦ hdot (String.toList_inj.mp heq)
  have hkept : [name.toList].filter (fun p ↦ p ≠ [] && p ≠ ['.']) = [name.toList] := by
    simp [hne, hne']
  rw [fileName?, components, hbefore, List.filter_append, hkept, List.map_append, List.map_singleton,
    String.ofList_toList, List.getLast?_concat, Option.filter_some, if_pos (by simpa using hdots)]

/-- The name of a manifest is that of a file. -/
theorem isName_of_mem_manifestNames : ∀ entry ∈ Language.manifestNames, ∀ name ∈ ["", ".", ".."],
    String.ofList (Text.lower name.toList) ≠ entry.1 := by
  decide

/-- The path of a manifest tells the language that owns it. -/
theorem lookup_loweredName {u : SourceUnit} (h : isManifestName u.fileName = true) :
    Language.manifestNames.lookup u.loweredName = some (Language.ofPath u.path) := by
  obtain ⟨l, hl⟩ := Option.isSome_iff_exists.mp h
  have hentry := Language.mem_of_lookup_eq_some hl
  have hname : ∀ name ∈ ["", ".", ".."], u.fileName ≠ name := by
    rintro name hname heq
    exact isName_of_mem_manifestNames _ hentry name hname (by rw [← heq])
  have hlast : Text.lastPiece (· = '/') u.path.toList = u.fileName.toList := by
    rw [SourceUnit.fileName, String.toList_ofList]
  have hpath : Path.fileName? u.path = some u.fileName :=
    Path.fileName?_eq_of_lastPiece hlast (hname _ (by simp)) (hname _ (by simp)) (hname _ (by simp))
  have howner : Language.ofFileName u.fileName = l := by
    simp only [Language.ofFileName, hl]
  rw [SourceUnit.loweredName, hl, Language.ofPath, hpath]
  dsimp only
  rw [howner]

/-- The manifests of a language, by their names in lower case. -/
def Language.dependencyFiles : Language → List String
  | .ruby => ["gemfile"]
  | .rust => ["cargo.toml"]
  | .python => ["requirements.txt", "pipfile", "pyproject.toml", "setup.py", "setup.cfg"]
  | .php => ["composer.json", "composer.lock"]
  | _ => []

/-- Of the names that a language owns, all but the scripts of two build tools are its manifests. -/
theorem mem_dependencyFiles_of_mem_manifestNames : ∀ entry ∈ Language.manifestNames,
    (entry.1 ∈ entry.2.dependencyFiles ↔ entry.1 ≠ "rakefile" ∧ entry.1 ≠ "build.rs") := by
  decide

theorem lookup_of_mem_dependencyFiles : ∀ l ∈ Language.all, ∀ name ∈ l.dependencyFiles,
    Language.manifestNames.lookup name = some l := by
  decide

/-- A name is that of a manifest of the language of the path if the table has it and it is not
that of a build script. -/
theorem mem_dependencyFiles_iff {u : SourceUnit} (h : (Language.ofPath u.path).isKnown = true) :
    u.loweredName ∈ (Language.ofPath u.path).dependencyFiles ↔
      isManifestName u.fileName = true ∧ u.loweredName ≠ "rakefile" ∧ u.loweredName ≠ "build.rs" := by
  have hall : Language.ofPath u.path ∈ Language.all := by
    revert h
    cases Language.ofPath u.path <;> decide
  constructor
  · intro hmem
    have hlookup := lookup_of_mem_dependencyFiles _ hall _ hmem
    have hentry := Language.mem_of_lookup_eq_some hlookup
    refine ⟨?_, (mem_dependencyFiles_of_mem_manifestNames _ hentry).mp hmem⟩
    rw [isManifestName, ← SourceUnit.loweredName, hlookup]
    rfl
  · rintro ⟨hmanifest, hbuild⟩
    have hentry := Language.mem_of_lookup_eq_some (lookup_loweredName hmanifest)
    exact (mem_dependencyFiles_of_mem_manifestNames _ hentry).mpr hbuild

/-! ## What a manifest reports -/

/-- Is a fact a reference or a framework? -/
def Fact.isUse : Fact → Bool
  | dependency _ | framework _ => true
  | _ => false

@[simp] theorem Fact.isUse_dependency (edge : Edge) : (dependency edge).isUse = true := rfl

@[simp] theorem Fact.isUse_framework (name : String) : (framework name).isUse = true := rfl

@[simp] theorem Fact.isUse_depends (source : String) (target : List Char) (kind : String) :
    (depends source target kind).isUse = true := rfl

/-- All of the facts are references and frameworks. -/
abbrev Uses (facts : List Fact) : Prop := Every Fact.isUse facts

@[simp] theorem uses_frameworksIn (text : List Char) (rules : List FrameworkRule) :
    Uses (frameworksIn text rules) := by
  simp [frameworksIn]

/-- A reading is one of a manifest exactly under a condition, and then it reports references and
frameworks only. -/
structure Reading.IsManifestIf (r : Reading) (condition : Prop) : Prop where
  fidelity_iff : r.fidelity = .manifest ↔ condition
  uses : r.fidelity = .manifest → Uses r.facts

namespace Reading.IsManifestIf

variable {r : Reading} {condition : Prop}

/-- A unit that is read as a source, by a grammar or by patterns, is no manifest. -/
theorem of_source (h : r.fidelity ≠ .manifest) (hnot : ¬ condition) : r.IsManifestIf condition where
  fidelity_iff := iff_of_false h hnot
  uses hmanifest := absurd hmanifest h

theorem of_manifest (h : r.fidelity = .manifest) (hcondition : condition) (huses : Uses r.facts) :
    r.IsManifestIf condition where
  fidelity_iff := iff_of_true h hcondition
  uses _ := huses

end Reading.IsManifestIf

open Reading (IsManifestIf)

theorem Fidelity.heuristic_ne_manifest : heuristic ≠ manifest := by decide

theorem Ruby.isManifestIf (u : SourceUnit) :
    (analyze u).IsManifestIf (u.loweredName ∈ Language.ruby.dependencyFiles) := by
  rw [Language.dependencyFiles, List.mem_singleton, SourceUnit.loweredName_eq_iff, analyze]
  split
  next hname => exact .of_manifest rfl hname (by simp [manifest])
  next hname => exact .of_source Fidelity.heuristic_ne_manifest hname

theorem Rust.isManifestIf [Grammars] (u : SourceUnit) :
    (analyze u).IsManifestIf (u.loweredName ∈ Language.rust.dependencyFiles) := by
  rw [Language.dependencyFiles, List.mem_singleton, SourceUnit.loweredName_eq_iff, analyze]
  split
  next hname => exact .of_manifest rfl hname (by simp [manifest])
  next hname => exact .of_source fidelity_declarationsBy_ne_manifest hname

theorem Python.isSome_manifestNames? (u : SourceUnit) (text : List Char) :
    (manifestNames? u.fileName text).isSome ↔ u.loweredName ∈ Language.python.dependencyFiles := by
  rw [manifestNames?, ← SourceUnit.loweredName, Language.dependencyFiles]
  split <;> simp_all

theorem Python.isManifestIf [Grammars] (u : SourceUnit) :
    (analyze u).IsManifestIf (u.loweredName ∈ Language.python.dependencyFiles) := by
  rw [← isSome_manifestNames? u u.text, analyze]
  cases manifestNames? u.fileName u.text with
  | some names => exact .of_manifest rfl rfl (by simp)
  | none => exact .of_source fidelity_declarationsBy_ne_manifest (by simp)

/-- Whatever the table calls a manifest is read as one. -/
theorem Php.isManifestIf {u : SourceUnit}
    (howner : isManifestName u.fileName = true → (u.loweredName, .php) ∈ Language.manifestNames) :
    (analyze u).IsManifestIf (u.loweredName ∈ Language.php.dependencyFiles) := by
  have hiff : u.loweredName ∈ Language.php.dependencyFiles ↔ isManifestName u.fileName = true := by
    constructor
    · intro hmem
      rw [isManifestName, ← SourceUnit.loweredName,
        lookup_of_mem_dependencyFiles .php (by decide) _ hmem]
      rfl
    · intro hmanifest
      have howned : ∀ entry ∈ Language.manifestNames, entry.2 = .php →
          entry.1 ∈ Language.php.dependencyFiles := by decide
      exact howned (u.loweredName, .php) (howner hmanifest) rfl
  rw [hiff, analyze]
  split
  next hname => exact .of_manifest rfl hname (by simp [manifest])
  next hname => exact .of_source Fidelity.heuristic_ne_manifest hname

/-- A unit with a path that tells a language is read as a manifest exactly if its name is that of
a manifest of this language. -/
theorem Language.isManifestIf [Grammars] {u : SourceUnit} {analyze : SourceUnit → Reading}
    (h : (ofPath u.path).analyzer? = some analyze) :
    (analyze u).IsManifestIf (u.loweredName ∈ (ofPath u.path).dependencyFiles) := by
  have howner : ∀ {l}, ofPath u.path = l → isManifestName u.fileName = true →
      (u.loweredName, l) ∈ manifestNames := by
    rintro l rfl hmanifest
    exact mem_of_lookup_eq_some (lookup_loweredName hmanifest)
  cases hl : ofPath u.path with
  | unknown => rw [hl] at h; exact nomatch h
  | ruby => rw [hl] at h; exact Option.some.inj h ▸ Ruby.isManifestIf u
  | rust => rw [hl] at h; exact Option.some.inj h ▸ Rust.isManifestIf u
  | python => rw [hl] at h; exact Option.some.inj h ▸ Python.isManifestIf u
  | php => rw [hl] at h; exact Option.some.inj h ▸ Php.isManifestIf (howner hl)
  | csharp | kotlin | jsp =>
    rw [hl] at h
    obtain rfl := Option.some.inj h
    exact .of_source Fidelity.heuristic_ne_manifest (by simp [dependencyFiles])
  | java | javascript | typescript | c | cpp =>
    rw [hl] at h
    obtain rfl := Option.some.inj h
    exact .of_source fidelity_declarationsBy_ne_manifest (by simp [dependencyFiles])

/-! ## The frame of a manifest -/

/-- Two models differ at most in their references and frameworks. -/
structure Model.Frame (m m' : Model) : Prop where
  packages_eq : m'.packages = m.packages
  patterns_eq : m'.patterns = m.patterns
  schemas_eq : m'.schemas = m.schemas
  endpoints_eq : m'.endpoints = m.endpoints
  languageFiles_eq : m'.languageFiles = m.languageFiles
  classCount_eq : m'.classCount = m.classCount

/-- References and frameworks leave the rest of a model as it is. -/
theorem Model.frame_addAll {facts : List Fact} (h : Uses facts) (m : Model) : m.Frame (m.addAll facts) := by
  have hnone : ∀ {α : Type} (part : Fact → Option α),
      (∀ f, f.isUse = true → part f = none) → facts.filterMap part = [] :=
    fun part hpart ↦ List.filterMap_eq_nil_iff.mpr fun f hf ↦ hpart f (h f hf)
  have huse : ∀ f : Fact, f.isUse = true → f.package? = none ∧ f.pattern? = none ∧
      f.schema? = none ∧ f.endpoint? = none ∧ f.language? = none ∧ f.classCount = 0 := by
    intro f hf
    cases f with
    | dependency | framework => exact ⟨rfl, rfl, rfl, rfl, rfl, rfl⟩
    | _ => exact nomatch hf
  constructor
  case packages_eq =>
    rw [addAll, hnone Fact.package? fun f hf ↦ (huse f hf).1]
    rfl
  case patterns_eq =>
    rw [addAll, hnone Fact.pattern? fun f hf ↦ (huse f hf).2.1]
    rfl
  case schemas_eq =>
    rw [addAll, hnone Fact.schema? fun f hf ↦ (huse f hf).2.2.1]
    exact List.append_nil _
  case endpoints_eq =>
    rw [addAll, hnone Fact.endpoint? fun f hf ↦ (huse f hf).2.2.2.1]
    exact List.append_nil _
  case languageFiles_eq =>
    rw [addAll, hnone Fact.language? fun f hf ↦ (huse f hf).2.2.2.2.1]
    rfl
  case classCount_eq =>
    rw [addAll, total_classCount_eq_zero fun f hf ↦ (huse f (h f hf)).2.2.2.2.2]
    exact UInt64.add_zero m.classCount

theorem Model.languageFiles_addAll {facts : List Fact} (h : CountNoFiles facts) (m : Model) :
    (m.addAll facts).languageFiles = m.languageFiles := by
  have hnone : facts.filterMap Fact.language? = [] := List.filterMap_eq_nil_iff.mpr h
  rw [addAll, hnone]
  rfl

/-- A unit whose path tells its language is read as a manifest exactly if its name is in the
table of manifests and is not that of a build script.  Then nothing but references and
frameworks is added to a model.  However a unit is read, no recorder counts a file. -/
theorem manifest_mode [Grammars] :
    (∀ path : String, (Language.ofPath path).isKnown = true →
      ∃ record, (Language.ofPath path).recorder? = some record ∧ ∀ (content : String) (m : Model),
        let u : SourceUnit := ⟨path, Language.ofPath path, content⟩
        let read := (record u).run m
        (read.1 = .manifest ↔ isManifestName u.fileName = true ∧
          u.loweredName ≠ "rakefile" ∧ u.loweredName ≠ "build.rs") ∧
        (read.1 = .manifest → m.Frame read.2)) ∧
    ∀ l ∈ Language.all, ∃ record, l.recorder? = some record ∧
      ∀ (u : SourceUnit) (m : Model), ((record u).run m).2.languageFiles = m.languageFiles := by
  constructor
  · intro path hknown
    obtain ⟨record, analyze, hrecord, hanalyze, hadds⟩ := Language.exists_recorder hknown
    refine ⟨record, hrecord, fun content m ↦ ?_⟩
    intro u read
    have hread : read = ((analyze u).fidelity, m.addAll (analyze u).facts) := (hadds u).run_eq m
    have hmanifest : (analyze u).IsManifestIf (u.loweredName ∈ (Language.ofPath u.path).dependencyFiles) :=
      Language.isManifestIf hanalyze
    rw [hread]
    refine ⟨hmanifest.fidelity_iff.trans (mem_dependencyFiles_iff hknown), fun hfidelity ↦ ?_⟩
    exact Model.frame_addAll (hmanifest.uses hfidelity) m
  · intro l hl
    obtain ⟨record, analyze, hrecord, hanalyze, hadds⟩ :=
      Language.exists_recorder (Language.isKnown_of_mem_all hl)
    refine ⟨record, hrecord, fun u m ↦ ?_⟩
    rw [(hadds u).run_eq]
    exact Model.languageFiles_addAll (Language.countNoFiles hanalyze u) m

/-- A manifest of a crate, whatever the case of its name, adds a reference to a model that holds a
package, and is no source, though the build parses the text that comes in it. -/
theorem manifest_mode_crate :
    let u : SourceUnit := ⟨"app/Cargo.TOML", .rust, "[dependencies]\nserde = \"1\""⟩
    let build : Grammars := .ofTrees [(.rust, u.content, .named "source_file" u.content [])]
    let m : Model := .ofFacts [.package "app", .classes 2]
    let read := (@Rust.record build u).run m
    read.1 = .manifest ∧ m.Frame read.2 ∧ read.2.dependencies = [⟨"Cargo.toml", "serde", "dependency"⟩] := by
  intro u build m read
  have hlanguage : Language.ofPath "app/Cargo.TOML" = .rust := by decide +kernel
  have hknown : (Language.ofPath "app/Cargo.TOML").isKnown = true := by rw [hlanguage]; rfl
  obtain ⟨record, hrecord, hmode⟩ := (@manifest_mode build).1 _ hknown
  rw [hlanguage] at hrecord hmode
  obtain rfl : @Rust.record build = record := Option.some.inj hrecord
  obtain ⟨hiff, hframe⟩ := hmode u.content m
  have hread : read.1 = .manifest := hiff.mpr (by decide +kernel)
  exact ⟨hread, hframe hread, by decide +kernel⟩

end CodeSurvey
