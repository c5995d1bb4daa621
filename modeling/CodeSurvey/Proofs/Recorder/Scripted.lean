import CodeSurvey.Proofs.Recorder.Basic
import CodeSurvey.Recorder.Scripted

/-!
# Recorders of scripting languages report what their analyzers report

As for the compiled languages, loop by loop.  Where a loop of a recorder runs inside another one, the
analyzer has one list of all that is found.
-/

namespace CodeSurvey

namespace JavaScript

theorem adds_recordReferences (module : String) (p : Pattern) (kind : String) (text : List Char) :
    Adds (recordReferences module p kind text) () (references module p kind text) :=
  .filtered

section

variable (u : SourceUnit) (text : List Char)

theorem adds_recordSpecialDesigns : Adds (recordSpecialDesigns u text) () (specialDesigns u text) := by
  refine ((Adds.tellWhen ..).seq <| (Adds.tellWhen ..).seq <| (Adds.tellWhen ..).seq <|
    .tellWhen ..).congr ?_
  simp only [specialDesigns, List.append_assoc]

theorem adds_recordSchemas : Adds (recordSchemas text) () (schemas text) := by
  refine ((Adds.when _ .tellSome).seq <| Adds.tellSome.seq <| .tellWhen ..).congr ?_
  simp only [schemas, List.append_assoc]

theorem adds_recordEndpoints : Adds (recordEndpoints text) () (endpoints text) := by
  refine ((adds_recordMethodRoutes ..).seq <| (adds_recordMethodRoutes ..).seq <| .tellWhen ..).congr ?_
  simp only [endpoints, List.append_assoc]

end

theorem adds_record [Grammars] (typed : Bool) (u : SourceUnit) :
    Adds (record typed u) (analyze typed u).fidelity (analyze typed u).facts := by
  refine ((Adds.tell _).seq <| (Adds.tell _).seq <| (adds_recordReferences ..).seq <|
    (adds_recordReferences ..).seq <| (adds_recordFrameworks ..).seq <| (Adds.tellWhen ..).seq <|
    (adds_recordDesigns ..).seq <| (adds_recordSpecialDesigns ..).seq <| (adds_recordSchemas _).seq <|
    (adds_recordEndpoints _).seq <| .pure _).congr ?_
  simp [analyze]

end JavaScript

namespace Ruby

section

variable (u : SourceUnit) (text : List Char)

theorem adds_recordManifest : Adds (recordManifest text) () (manifest text) :=
  .seq .each (.tell _)

theorem adds_recordRequires (module : String) : Adds (recordRequires module text) () (requires module text) :=
  .seq .filtered .each

theorem adds_recordSpecialDesigns : Adds (recordSpecialDesigns u text) () (specialDesigns u text) := by
  refine ((Adds.tellWhen ..).seq <| (Adds.tellWhen ..).seq <| (Adds.tellWhen ..).seq <|
    .tellWhen ..).congr ?_
  simp only [specialDesigns, List.append_assoc]

theorem adds_recordSchemas : Adds (recordSchemas text) () (schemas text) := by
  refine ((adds_recordTables ..).seq <| (adds_recordTables ..).seq <| .when _ .tellSome).congr ?_
  simp only [schemas, List.append_assoc]

theorem adds_recordEndpoints : Adds (recordEndpoints text) () (endpoints text) :=
  .ite (adds_recordMethodRoutes ..) (.seq (adds_recordMethodRoutes ..) (.when _ .each))

end

theorem adds_record (u : SourceUnit) : Adds (record u) (analyze u).fidelity (analyze u).facts := by
  unfold record analyze
  dsimp only
  split
  next => exact ((adds_recordManifest _).seq (.pure _)).congr (List.append_nil _)
  next =>
    refine ((Adds.tell _).seq <| (Adds.tell _).seq <| (adds_recordRequires ..).seq <|
      (adds_recordFrameworks ..).seq <| (Adds.tellWhen ..).seq <| (adds_recordDesigns ..).seq <|
      (adds_recordSpecialDesigns ..).seq <| (adds_recordSchemas _).seq <| (adds_recordEndpoints _).seq <|
      .pure _).congr ?_
    simp

end Ruby

namespace Python

theorem adds_recordImports (module : String) (p : Pattern) (kind : String) (text : List Char) :
    Adds (recordImports module p kind text) () (imports module p kind text) := by
  refine Adds.filtered.congr ?_
  rw [imports, List.filter_map, List.map_map]
  rfl

section

variable (u : SourceUnit) (text : List Char)

theorem adds_recordSpecialDesigns : Adds (recordSpecialDesigns u text) () (specialDesigns u text) :=
  .seq (.tellWhen ..) (.tellWhen ..)

theorem adds_recordEndpoints : Adds (recordEndpoints text) () (endpoints text) := by
  refine ((adds_recordPathRoutes ..).seq <| (adds_recordMethodRoutes ..).seq <| (Adds.when _ .each).seq <|
    adds_recordPathRoutes ..).congr ?_
  simp only [endpoints, List.append_assoc]

theorem adds_recordSchemas : Adds (recordSchemas text) () (tables text) := by
  refine ((adds_recordTables ..).seq <| (adds_recordTables ..).seq <| (adds_recordTables ..).seq
    .filtered).congr ?_
  simp only [tables, List.append_assoc]

end

theorem adds_record [Grammars] (u : SourceUnit) : Adds (record u) (analyze u).fidelity (analyze u).facts := by
  unfold record analyze
  dsimp only
  cases manifestNames? u.fileName u.text with
  | some names =>
    refine (Adds.each.seq <| (adds_recordFrameworks ..).seq <| .pure _).congr ?_
    rw [List.append_nil]
  | none =>
    refine ((Adds.tell _).seq <| (Adds.tell _).seq <| (adds_recordImports ..).seq <|
      (adds_recordImports ..).seq <| (adds_recordFrameworks ..).seq <| (adds_recordDesigns ..).seq <|
      (adds_recordSpecialDesigns ..).seq <| (adds_recordEndpoints _).seq <| (adds_recordSchemas _).seq <|
      .pure _).congr ?_
    simp

end Python

namespace Php

section

variable (u : SourceUnit) (text : List Char)

theorem adds_recordManifest : Adds (recordManifest u text) () (manifest u text) :=
  .seq .filtered (adds_recordFrameworks ..)

theorem adds_recordUses (source : String) : Adds (recordUses source text) () (uses source text) :=
  .filtered

theorem adds_recordEndpoints : Adds (recordEndpoints text) () (endpoints text) :=
  .forM fun _ ↦ .each

theorem adds_recordSchemas : Adds (recordSchemas text) () (tables text) := by
  refine ((adds_recordTables ..).seq <| (adds_recordTables ..).seq <| Adds.each.seq <|
    adds_recordTables ..).congr ?_
  simp only [tables, List.append_assoc]

end

theorem adds_record (u : SourceUnit) : Adds (record u) (analyze u).fidelity (analyze u).facts := by
  unfold record analyze
  dsimp only
  split
  next => exact ((adds_recordManifest ..).seq (.pure _)).congr (List.append_nil _)
  next =>
    refine (Adds.tellSome.seq <| (Adds.tell _).seq <| (adds_recordUses ..).seq <|
      (adds_recordFrameworks ..).seq <| (adds_recordSigns ..).seq <| (adds_recordEndpoints _).seq <|
      (adds_recordSchemas _).seq <| .pure _).congr ?_
    simp [designs]

end Php

namespace Jsp

theorem adds_recordImports (page : String) (text : List Char) :
    Adds (recordImports page text) () (imports page text) := by
  refine (Adds.forM fun _ ↦ .forM fun _ ↦ .filtered).congr ?_
  simp only [imports, List.flatMap_assoc, List.filter_flatMap, List.map_flatMap]

section

variable (u : SourceUnit) (text : List Char)

theorem adds_recordTaglibs : Adds (recordTaglibs text) () (taglibs text) :=
  .eachSome fun _ ↦ .tellBoth

theorem adds_recordPages : Adds (recordPages text) () (pages text) :=
  .seq .each (.eachSome fun _ ↦ .tellBoth)

theorem adds_recordEndpoints : Adds (recordEndpoints text) () (endpoints text) :=
  .filtered

theorem adds_recordSchemas : Adds (recordSchemas text) () (schemas text) :=
  .seq (.tellWhen ..) (adds_recordTables ..)

end

theorem adds_record (u : SourceUnit) : Adds (record u) (analyze u).fidelity (analyze u).facts := by
  refine ((adds_recordImports ..).seq <| (adds_recordTaglibs _).seq <| (adds_recordPages _).seq <|
    (adds_recordFrameworks ..).seq <| (adds_recordSigns ..).seq <| (adds_recordEndpoints _).seq <|
    (adds_recordSchemas _).seq <| (Adds.tellWhen ..).seq <| (Adds.tellWhen ..).seq <| .pure _).congr ?_
  simp [analyze, designs, classes, expressions]

end Jsp

end CodeSurvey
