import CodeSurvey.Proofs.Analyzer.CrateManifest
import CodeSurvey.Proofs.Text.Lines

/-!
# Manifests that are read line by line

Four manifests are read line by line, and what is read of a line does not depend on the way it
ends.  Two of them are read table by table: all that is kept in mind from one line to the next is
whether the nearest header opened a table of dependencies.  A header makes the lines above it
forgotten, so the parts of such a manifest can be read one by one.
-/

namespace CodeSurvey

open Pattern

/-! ## Readers of tables -/

/-- What a reader of tables looks for.  Lines are trimmed before they are looked at. -/
structure TableReader where
  /-- The names that a header has by itself. -/
  inHeader : List Char → List (List Char)
  /-- Does a header open a table whose keys are wanted? -/
  opens : List Char → Bool
  key : Pattern
  key_nil : firstGroup? key 1 [] = none

namespace TableReader

/-- What a line holds between brackets, if it is a header. -/
def header? (line : List Char) : Option (List Char) := firstGroup? Rust.tableHeader 1 (Text.trim line)

theorem header?_eq_some_iff {line header : List Char} :
    header? line = some header ↔ Rust.Brackets (Text.trim line) header :=
  Rust.firstGroup?_tableHeader_iff

variable (r : TableReader)

/-- The names in a line. -/
def found (inTable : Bool) (line : List Char) : List (List Char) :=
  match header? line with
  | some header => r.inHeader header
  | none => if inTable then (firstGroup? r.key 1 (Text.trim line)).toList else []

/-- Is the line that follows in a table whose keys are wanted? -/
def next (inTable : Bool) (line : List Char) : Bool := (header? line).elim inTable r.opens

def names (inTable : Bool) : List (List Char) → List (List Char)
  | [] => []
  | line :: rest => r.found inTable line ++ names (r.next inTable line) rest

def after (inTable : Bool) (lines : List (List Char)) : Bool := lines.foldl r.next inTable

theorem names_append (inTable : Bool) (before rest : List (List Char)) :
    r.names inTable (before ++ rest) = r.names inTable before ++ r.names (r.after inTable before) rest := by
  induction before generalizing inTable with
  | nil => rfl
  | cons line before ih => rw [List.cons_append, names, ih, names, List.append_assoc, after, after,
      List.foldl_cons]

/-- Only what is left of a line by trimming counts. -/
theorem names_congr {line line' : List Char} (h : Text.trim line = Text.trim line') (inTable : Bool)
    (rest : List (List Char)) : r.names inTable (line :: rest) = r.names inTable (line' :: rest) := by
  rw [names, names, found, found, next, next, header?, header?, h]

/-- From a header on, it does not matter in which table the lines before it were. -/
theorem names_of_header {line header : List Char} (h : header? line = some header) (inTable inTable' : Bool)
    (rest : List (List Char)) : r.names inTable (line :: rest) = r.names inTable' (line :: rest) := by
  rw [names, names, found, found, next, next, h]
  rfl

/-- The first line of a text is the header of a table. -/
def BeginsWithHeader (text : List Char) : Prop :=
  ∃ line rest header, Text.lines text = line :: rest ∧ Rust.Brackets (Text.trim line) header

/-- A blank line has no name. -/
theorem names_singleton_nil (inTable : Bool) : r.names inTable [[]] = [] := by
  have hheader : header? [] = none := Rust.firstGroup?_tableHeader_eq_none nofun
  have hkey : firstGroup? r.key 1 (Text.trim []) = none := r.key_nil
  rw [names, found, hheader]
  dsimp only
  rw [hkey]
  cases inTable <;> rfl

theorem names_closedLines (inTable : Bool) (text : List Char) :
    r.names inTable (Text.closedLines text) = r.names inTable (Text.lines text) := by
  obtain ⟨before, last, hclosed, hlines⟩ := Text.closedLines_eq text
  rw [hclosed, hlines, names_append, names_append, r.names_congr (Text.trim_dropReturn last)]
  split
  next hnil => rw [hnil, names_singleton_nil, names]
  next => rfl

/-- The parts of a manifest can be read one by one if each begins with a header. -/
theorem names_lines_append {a b : List Char} (hb : BeginsWithHeader b) (inTable inTable' : Bool) :
    r.names inTable (Text.lines (a ++ '\n' :: b)) =
      r.names inTable (Text.lines a) ++ r.names inTable' (Text.lines b) := by
  obtain ⟨line, rest, header, hlines, hheader⟩ := hb
  rw [Text.lines_append_feed, names_append, names_closedLines, hlines,
    r.names_of_header (header?_eq_some_iff.mpr hheader)]

end TableReader

open TableReader (BeginsWithHeader)

/-- The reader of a crate's manifest.  A header may name a dependency by itself. -/
def Rust.manifestReader : TableReader where
  inHeader header := (headerDependency? (Text.trim header)).toList
  opens header := String.ofList (Text.trim header) ∈ dependencyTables
  key := manifestKey
  key_nil := firstGroup?_manifestKey_eq_none nofun

theorem Rust.manifestNames_eq (inTable : Bool) (lines : List (List Char)) :
    manifestNames inTable lines = manifestReader.names inTable lines := by
  induction lines generalizing inTable with
  | nil => rfl
  | cons line rest ih =>
    simp only [manifestNames, TableReader.names, TableReader.found, TableReader.next, TableReader.header?, ih]
    cases firstGroup? tableHeader 1 (Text.trim line) <;> rfl

/-- The reader of the tables with wanted headers.  All names are keys. -/
def Python.tableReader (wanted : List Char → Bool) : TableReader where
  inHeader _ := []
  opens := wanted
  key := tomlKey
  key_nil := by decide +kernel

theorem Python.tableKeys_eq (wanted : List Char → Bool) (inTable : Bool) (lines : List (List Char)) :
    tableKeys wanted inTable lines = (tableReader wanted).names inTable lines := by
  induction lines generalizing inTable with
  | nil => rfl
  | cons line rest ih =>
    have hsection : tomlSection = Rust.tableHeader := rfl
    simp only [tableKeys, TableReader.names, TableReader.found, TableReader.next, TableReader.header?, ih,
      hsection]
    cases firstGroup? Rust.tableHeader 1 (Text.trim line) <;> rfl

/-! ## Units that differ in their text -/

/-- The same unit with another text. -/
def SourceUnit.withText (u : SourceUnit) (text : List Char) : SourceUnit :=
  { u with content := String.ofList text }

namespace SourceUnit

variable (u : SourceUnit) (t : List Char)

@[simp] theorem text_withText : (u.withText t).text = t := String.toList_ofList

@[simp] theorem fileName_withText : (u.withText t).fileName = u.fileName := rfl

end SourceUnit

/-! ## Line endings -/

/-- Markers that are found in a text with either line ending. -/
def HasInnerMarkers (rules : List FrameworkRule) : Prop :=
  ∀ rule ∈ rules, ∀ marker ∈ rule.markers, '\r' ∉ marker.toList ∧ '\n' ∉ marker.toList

instance (rules : List FrameworkRule) : Decidable (HasInnerMarkers rules) :=
  inferInstanceAs (Decidable (∀ rule ∈ rules, ∀ marker ∈ rule.markers, _))

theorem frameworksIn_withReturns {rules : List FrameworkRule} (h : HasInnerMarkers rules) (t : List Char) :
    frameworksIn (Text.withReturns t) rules = frameworksIn t rules := by
  rw [frameworksIn, frameworksIn]
  congr 1
  refine List.filter_congr fun rule hrule ↦ ?_
  rw [Text.containsAny, Text.containsAny, Bool.eq_iff_iff, List.any_eq_true, List.any_eq_true]
  refine exists_congr fun marker ↦ and_congr_right fun hmarker ↦ ?_
  obtain ⟨hreturn, hfeed⟩ := h rule hrule marker hmarker
  rw [Text.contains, Text.contains, Text.hasInfix_withReturns hreturn hfeed]

theorem Python.hasInnerMarkers_frameworks : HasInnerMarkers frameworks := by decide +kernel

section LineEndings

variable {u : SourceUnit} {t : List Char}

theorem Rust.analyze_withReturns [Grammars] (hname : u.loweredName = "cargo.toml") (ht : '\r' ∉ t) :
    analyze (u.withText (Text.withReturns t)) = analyze (u.withText t) := by
  have hname := SourceUnit.loweredName_eq_iff.mp hname
  simp only [analyze, SourceUnit.text_withText, SourceUnit.fileName_withText, if_pos hname, manifest,
    Text.lines_withReturns ht]

theorem Python.manifestNames?_pipfile (hname : u.loweredName = "pipfile") (t : List Char) :
    manifestNames? u.fileName t = some (pipfilePackages t) := by
  rw [manifestNames?, ← SourceUnit.loweredName, hname]
  rfl

/-- What is listed in these manifests is told by their lines. -/
theorem Python.exists_scan
    (hname : u.loweredName = "requirements.txt" ∨ u.loweredName = "pipfile" ∨ u.loweredName = "setup.cfg") :
    ∃ scan : List (List Char) → List (List Char),
      ∀ t, manifestNames? u.fileName t = some (scan (Text.lines t)) := by
  rcases hname with h | h | h
  · refine ⟨fun lines ↦ ((lines.map Text.trim).filter fun l ↦
      !Text.startsWith l "#" && !Text.startsWith l "-").filterMap requirementName?, fun t ↦ ?_⟩
    rw [manifestNames?, ← SourceUnit.loweredName, h]
    rfl
  · exact ⟨tableKeys _ false, manifestNames?_pipfile h⟩
  · refine ⟨setupConfigRequires false, fun t ↦ ?_⟩
    rw [manifestNames?, ← SourceUnit.loweredName, h]
    rfl

theorem Python.analyze_of_listed [Grammars] {names : List (List Char)}
    (h : manifestNames? u.fileName t = some names) :
    analyze (u.withText t) =
      ⟨.manifest, names.map (Fact.depends u.fileName · "dependency") ++ frameworksIn t frameworks⟩ := by
  rw [analyze, SourceUnit.text_withText, SourceUnit.fileName_withText, h]

theorem Python.analyze_withReturns [Grammars]
    (hname : u.loweredName = "requirements.txt" ∨ u.loweredName = "pipfile" ∨ u.loweredName = "setup.cfg")
    (ht : '\r' ∉ t) : analyze (u.withText (Text.withReturns t)) = analyze (u.withText t) := by
  obtain ⟨scan, hscan⟩ := exists_scan hname
  rw [analyze_of_listed (hscan t), analyze_of_listed (hscan (Text.withReturns t)),
    Text.lines_withReturns ht, frameworksIn_withReturns hasInnerMarkers_frameworks]

end LineEndings

/-! ## Parts of a manifest -/

/-- The names of the dependencies in a model. -/
def Model.targets (m : Model) : List String := m.dependencies.map Edge.target

/-- The references of a unit are to the names that a reader of tables finds in its text. -/
def TableReader.Lists (r : TableReader) (analyze : SourceUnit → Reading) (u : SourceUnit) : Prop :=
  ∀ t, ∃ source others, Inner others ∧ (analyze (u.withText t)).facts =
    (r.names false (Text.lines t)).map (Fact.depends source · "dependency") ++ others

section Parts

/-- The names that count are those that are not empty. -/
theorem Model.targets_ofFacts {source : String} {names : List (List Char)} {others : List Fact}
    (hothers : Inner others) :
    (ofFacts (names.map (Fact.depends source · "dependency") ++ others)).targets =
      (names.filter (· ≠ [])).map String.ofList := by
  rw [targets, dependencies_ofFacts, List.filterMap_append, hothers.filterMap_edge?, List.append_nil,
    Fact.filterMap_edge?_depends, List.map_map]
  rfl

variable {u : SourceUnit}

theorem TableReader.Lists.targets_append {r : TableReader} {analyze : SourceUnit → Reading}
    {record : SourceUnit → StateM Model Fidelity}
    (hadds : ∀ u, Adds (record u) (analyze u).fidelity (analyze u).facts) (h : r.Lists analyze u)
    {b : List Char} (hb : BeginsWithHeader b) (a : List Char) :
    ((record (u.withText (a ++ '\n' :: b))).run ∅).2.targets =
      ((record (u.withText a)).run ∅).2.targets ++ ((record (u.withText b)).run ∅).2.targets := by
  have htargets (t : List Char) : ((record (u.withText t)).run ∅).2.targets =
      ((r.names false (Text.lines t)).filter (· ≠ [])).map String.ofList := by
    obtain ⟨source, others, hothers, hfacts⟩ := h t
    rw [(hadds _).run_empty, hfacts]
    exact Model.targets_ofFacts hothers
  rw [htargets, htargets, htargets, r.names_lines_append hb false false, List.filter_append, List.map_append]

variable [Grammars]

theorem Rust.lists (hname : u.loweredName = "cargo.toml") : manifestReader.Lists analyze u := by
  intro t
  refine ⟨"Cargo.toml", [], List.forall_mem_nil _, ?_⟩
  rw [analyze, SourceUnit.text_withText, SourceUnit.fileName_withText,
    if_pos (SourceUnit.loweredName_eq_iff.mp hname), manifest, manifestNames_eq, List.append_nil]

theorem Python.lists (hname : u.loweredName = "pipfile") :
    (tableReader fun h ↦ h = "packages".toList || h = "dev-packages".toList).Lists analyze u := by
  intro t
  refine ⟨u.fileName, frameworksIn t frameworks, inner_frameworksIn t frameworks, ?_⟩
  rw [analyze_of_listed (manifestNames?_pipfile hname t), pipfilePackages, tableKeys_eq]

end Parts

/-- The manifests that are read line by line, by their names in lower case. -/
def lineScanned : List (String × Language) :=
  [("cargo.toml", .rust), ("requirements.txt", .python), ("pipfile", .python), ("setup.cfg", .python)]

/-- Those that are read table by table. -/
def tableScanned : List (String × Language) := [("cargo.toml", .rust), ("pipfile", .python)]

/-- In a manifest that is read line by line it makes no difference how its lines end.  In one that
is read table by table, a part that begins with a header may be read by itself. -/
theorem manifest_scans [Grammars] :
    (∀ entry ∈ lineScanned, ∃ record, entry.2.recorder? = some record ∧
      ∀ (u : SourceUnit) (t : List Char) (m : Model), u.loweredName = entry.1 → '\r' ∉ t →
        (record (u.withText (Text.withReturns t))).run m = (record (u.withText t)).run m) ∧
    ∀ entry ∈ tableScanned, ∃ record, entry.2.recorder? = some record ∧
      ∀ (u : SourceUnit) (a b : List Char), u.loweredName = entry.1 → BeginsWithHeader b →
        ((record (u.withText (a ++ '\n' :: b))).run ∅).2.targets =
          ((record (u.withText a)).run ∅).2.targets ++ ((record (u.withText b)).run ∅).2.targets := by
  constructor
  · intro entry hentry
    simp only [lineScanned, List.mem_cons, List.not_mem_nil, or_false] at hentry
    rcases hentry with rfl | rfl | rfl | rfl
    · refine ⟨Rust.record, rfl, fun u t m hname ht ↦ ?_⟩
      rw [(Rust.adds_record _).run_eq, (Rust.adds_record _).run_eq, Rust.analyze_withReturns hname ht]
    all_goals refine ⟨Python.record, rfl, fun u t m hname ht ↦ ?_⟩
    all_goals rw [(Python.adds_record _).run_eq, (Python.adds_record _).run_eq]
    · rw [Python.analyze_withReturns (.inl hname) ht]
    · rw [Python.analyze_withReturns (.inr (.inl hname)) ht]
    · rw [Python.analyze_withReturns (.inr (.inr hname)) ht]
  · intro entry hentry
    simp only [tableScanned, List.mem_cons, List.not_mem_nil, or_false] at hentry
    rcases hentry with rfl | rfl
    · exact ⟨Rust.record, rfl, fun u a b hname hb ↦
        (Rust.lists hname).targets_append Rust.adds_record hb a⟩
    · exact ⟨Python.record, rfl, fun u a b hname hb ↦
        (Python.lists hname).targets_append Python.adds_record hb a⟩

/-- A manifest of a crate in two parts, the second of which has no dependencies. -/
theorem manifest_scans_crate :
    let u : SourceUnit := ⟨"app/Cargo.toml", .rust, ""⟩
    let a := "[dependencies]\nserde = \"1\"".toList
    let b := "[package]\nname = \"app\"".toList
    (Rust.record (u.withText (Text.withReturns a))).run ∅ = (Rust.record (u.withText a)).run ∅ ∧
      Text.withReturns a ≠ a ∧
      ((Rust.record (u.withText (a ++ '\n' :: b))).run ∅).2.targets = ["serde"] := by
  intro u a b
  obtain ⟨hendings, hparts⟩ := manifest_scans
  obtain ⟨record, hrecord, hendings⟩ := hendings ("cargo.toml", .rust) (by decide)
  obtain rfl : Rust.record = record := Option.some.inj hrecord
  obtain ⟨record, hrecord, hparts⟩ := hparts ("cargo.toml", .rust) (by decide)
  obtain rfl : Rust.record = record := Option.some.inj hrecord
  have hname : u.loweredName = "cargo.toml" := by decide +kernel
  have hheader : BeginsWithHeader b := by
    refine ⟨"[package]".toList, ["name = \"app\"".toList], "package".toList, by decide +kernel, [], ?_⟩
    exact ⟨by decide +kernel, by decide +kernel, by decide +kernel⟩
  refine ⟨hendings u a ∅ hname (by decide +kernel), by decide +kernel, ?_⟩
  rw [hparts u a b hname hheader]
  decide +kernel

end CodeSurvey
