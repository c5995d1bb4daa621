import CodeSurvey.Proofs.Recorder.Basic
import CodeSurvey.Recorder.Compiled

/-!
# Recorders of compiled languages report what their analyzers report

Each loop of a recorder adds the facts that the analyzer has at its place, in the same order.
-/

namespace CodeSurvey

namespace Java

theorem adds_recordImports (package text : List Char) :
    Adds (recordImports package text) () (imports package text) := by
  refine .eachSome fun imported ↦ ?_
  refine ((Adds.pure ()).ite (.tellWhen ..)).congr ?_
  split
  next => rfl
  next => by_cases htarget : owningPackage imported = package <;> simp [Fact.onlyIf, htarget]

theorem adds_recordSpecialDesigns (unit : String) (text : List Char) :
    Adds (recordSpecialDesigns unit text) () (specialDesigns unit text) := by
  unfold recordSpecialDesigns
  exact .seq (.tellWhen ..) (.tellWhen ..)

theorem adds_recordSchemas (text : List Char) :
    Adds (recordSchemas text) () (entityTable text ++ tablesIn createdTable text "SQL DDL") := by
  unfold recordSchemas entityTable
  refine .seq (.when _ ?_) (adds_recordTables ..)
  cases firstGroup? tableAnnotation 1 text with
  | some name => exact .tell _
  | none =>
    refine Adds.tellSome.congr ?_
    cases firstGroup? className 1 text <;> rfl

theorem adds_recordMappings (base : List Char) (lines : List (List Char)) :
    Adds (recordMappings base lines) () (mappedEndpoints base lines) := by
  induction lines with
  | nil => exact .pure ()
  | cons line following ih =>
    refine ((Adds.option fun _ ↦ .tellBoth).seq ih).congr ?_
    rw [mappedEndpoints]
    cases mapping.find? line with
    | none => rfl
    | some m =>
      simp only [Option.toList_some, List.flatMap_singleton]
      cases m.group? 1 <;> cases m.group? 2 <;> rfl

theorem adds_record [Grammars] (u : SourceUnit) : Adds (record u) (analyze u).fidelity (analyze u).facts := by
  refine (Adds.tellSome.seq <| (Adds.tell _).seq <|
    (Adds.option fun _ ↦ adds_recordImports ..).seq <| (adds_recordFrameworks ..).seq <|
    (adds_recordDesigns ..).seq <| (adds_recordSpecialDesigns ..).seq <| (adds_recordSchemas _).seq <|
    (adds_recordMappings ..).seq <| .pure _).congr ?_
  simp [analyze, endpoints]

end Java

namespace CSharp

theorem adds_recordUsings (space text : List Char) : Adds (recordUsings space text) () (usings space text) :=
  .filtered

theorem adds_recordSchemas (text : List Char) : Adds (recordSchemas text) () (entityTable text) := by
  refine .when _ (Adds.tellSome.congr ?_)
  cases firstGroup? tableAttribute 1 text |>.orElse fun _ ↦ firstGroup? className 1 text <;> rfl

theorem adds_recordEndpoints (text : List Char) : Adds (recordEndpoints text) () (endpoints text) := by
  refine .eachSome fun mapped ↦ ?_
  obtain ⟨m, declared?⟩ := mapped
  refine Adds.tellSome.congr ?_
  dsimp only
  cases m.group? 1 <;> rfl

theorem adds_record (u : SourceUnit) : Adds (record u) (analyze u).fidelity (analyze u).facts := by
  refine (Adds.tellSome.seq <| (Adds.tell _).seq <| (Adds.option fun _ ↦ adds_recordUsings ..).seq <|
    (adds_recordFrameworks ..).seq <| (adds_recordDesigns ..).seq <| (Adds.tellWhen ..).seq <|
    (adds_recordSchemas _).seq <| (adds_recordEndpoints _).seq <| .pure _).congr ?_
  simp [analyze, specialDesigns]

end CSharp

namespace C

theorem adds_recordIncludes (module : String) (text : List Char) :
    Adds (recordIncludes module text) () (includes module text) :=
  .each

section

variable (u : SourceUnit) (text : List Char)

theorem adds_recordSpecialDesigns : Adds (recordSpecialDesigns u text) () (specialDesigns u text) := by
  refine ((Adds.tellWhen ..).seq <| (Adds.tellWhen ..).seq <| (Adds.tellWhen ..).seq <|
    (Adds.tellWhen ..).seq <| .tellWhen ..).congr ?_
  simp only [specialDesigns, List.append_assoc]

theorem adds_recordSchemas : Adds (recordSchemas text) () (tables text) :=
  .seq (.when _ (adds_recordTables ..)) (.when _ (adds_recordTables ..))

theorem adds_recordEndpoints : Adds (recordEndpoints text) () (endpoints text) := by
  refine ((Adds.when _ .each).seq <| (Adds.tellWhen ..).seq <| .tellWhen ..).congr ?_
  simp only [endpoints, List.append_assoc]

end

theorem adds_record [Grammars] (u : SourceUnit) : Adds (record u) (analyze u).fidelity (analyze u).facts := by
  refine ((Adds.tell _).seq <| (Adds.tell _).seq <| (adds_recordIncludes ..).seq <|
    (adds_recordFrameworks ..).seq <| (adds_recordDesigns ..).seq <| (adds_recordSpecialDesigns ..).seq <|
    (adds_recordSchemas _).seq <| (adds_recordEndpoints _).seq <| .pure _).congr ?_
  simp [analyze]

end C

namespace Cpp

theorem adds_recordNamespaces (declared : List (List Char)) :
    Adds (recordNamespaces declared) () (namespaces declared) := by
  refine Adds.filtered.congr ?_
  rw [namespaces, List.filter_map, List.map_map]
  rfl

section

variable (u : SourceUnit) (text : List Char)

theorem adds_recordSpecialFrameworks : Adds (recordSpecialFrameworks text) () (specialFrameworks text) :=
  .seq (.tellWhen ..) (.tellWhen ..)

theorem adds_recordSpecialDesigns : Adds (recordSpecialDesigns u text) () (specialDesigns u text) := by
  refine ((Adds.tellWhen ..).seq <| (Adds.tellWhen ..).seq <| (Adds.tellWhen ..).seq <|
    (Adds.tellWhen ..).seq <| (Adds.tellWhen ..).seq <| .tellWhen ..).congr ?_
  simp only [specialDesigns, List.append_assoc]

theorem adds_recordSchemas : Adds (recordSchemas text) () (tables text) :=
  .seq (.when _ (adds_recordTables ..)) (.when _ (adds_recordTables ..))

theorem adds_recordEndpoints : Adds (recordEndpoints text) () (endpoints text) := by
  refine ((Adds.tellWhen ..).seq <| (Adds.tellWhen ..).seq <| (Adds.tellWhen ..).seq <|
    (Adds.tellWhen ..).seq <| (adds_recordPathRoutes ..).seq <| adds_recordMethodRoutes ..).congr ?_
  simp only [endpoints, List.append_assoc]

end

theorem adds_record [Grammars] (u : SourceUnit) : Adds (record u) (analyze u).fidelity (analyze u).facts := by
  refine ((adds_recordNamespaces _).seq <| (Adds.tell _).seq <| (C.adds_recordIncludes ..).seq <|
    (adds_recordFrameworks ..).seq <| (adds_recordSpecialFrameworks _).seq <| (adds_recordDesigns ..).seq <|
    (adds_recordSpecialDesigns ..).seq <| (adds_recordSchemas _).seq <| (adds_recordEndpoints _).seq <|
    .pure _).congr ?_
  simp [analyze]

end Cpp

namespace Kotlin

theorem adds_recordImports (package : String) (text : List Char) :
    Adds (recordImports package text) () (imports package text) :=
  .filtered

section

variable (u : SourceUnit) (text : List Char)

theorem adds_recordSpecialDesigns : Adds (recordSpecialDesigns u text) () (specialDesigns u text) := by
  refine ((Adds.tellWhen ..).seq <| (Adds.tellWhen ..).seq <| .tellWhen ..).congr ?_
  simp only [specialDesigns, List.append_assoc]

theorem adds_recordEndpoints : Adds (recordEndpoints text) () (endpoints text) := by
  refine ((adds_recordMethodRoutes ..).seq <| (Adds.when _ (adds_recordMethodRoutes ..)).seq <|
    adds_recordMethodRoutes ..).congr ?_
  simp only [endpoints, List.append_assoc]

theorem adds_recordSchemas : Adds (recordSchemas text) () (tables text) := by
  refine ((adds_recordTables ..).seq <| (adds_recordTables ..).seq <| .when _ (adds_recordTables ..)).congr ?_
  simp only [tables, List.append_assoc]

end

theorem adds_record (u : SourceUnit) : Adds (record u) (analyze u).fidelity (analyze u).facts := by
  refine ((Adds.tell _).seq <| (Adds.tell _).seq <| (adds_recordImports ..).seq <|
    (adds_recordFrameworks ..).seq <| (Adds.tellWhen ..).seq <| (adds_recordDesigns ..).seq <|
    (adds_recordSpecialDesigns ..).seq <| (adds_recordEndpoints _).seq <| (adds_recordSchemas _).seq <|
    .pure _).congr ?_
  simp [analyze]

end Kotlin

namespace Rust

/-- The induction is on the lines, for either state of the scanner. -/
theorem adds_recordManifest (inTable : Bool) (lines : List (List Char)) :
    Adds (recordManifest inTable lines) ()
      ((manifestNames inTable lines).map (Fact.depends "Cargo.toml" · "dependency")) := by
  induction lines generalizing inTable with
  | nil => exact .pure ()
  | cons line rest ih =>
    rw [recordManifest, manifestNames]
    cases firstGroup? tableHeader 1 (Text.trim line) with
    | some header => exact (Adds.tellSome.seq (ih _)).congr List.map_append.symm
    | none =>
      refine ((Adds.when _ .tellSome).seq (ih _)).congr ?_
      cases inTable <;> simp

section

variable (u : SourceUnit) (text : List Char)

theorem adds_recordUses (crate : String) : Adds (recordUses crate text) () (uses crate text) :=
  .seq .filtered .each

theorem adds_recordSpecialDesigns : Adds (recordSpecialDesigns u text) () (specialDesigns u text) :=
  .seq (.tellWhen ..) (.tellWhen ..)

theorem adds_recordEndpoints : Adds (recordEndpoints text) () (endpoints text) := by
  refine ((adds_recordMethodRoutes ..).seq <| (adds_recordMethodRoutes ..).seq .each).congr ?_
  simp only [endpoints, List.append_assoc]

theorem adds_recordSchemas : Adds (recordSchemas text) () (schemas text) :=
  .seq (adds_recordTables ..) (.when _ .filtered)

end

theorem adds_record [Grammars] (u : SourceUnit) : Adds (record u) (analyze u).fidelity (analyze u).facts := by
  unfold record analyze
  dsimp only
  split
  next => exact ((adds_recordManifest ..).seq (.pure _)).congr (List.append_nil _)
  next =>
    refine ((Adds.tell _).seq <| (Adds.tell _).seq <| (adds_recordUses ..).seq <|
      (adds_recordFrameworks ..).seq <| (adds_recordDesigns ..).seq <| (adds_recordSpecialDesigns ..).seq <|
      (adds_recordEndpoints _).seq <| (adds_recordSchemas _).seq <| .pure _).congr ?_
    simp

end Rust

end CodeSurvey
