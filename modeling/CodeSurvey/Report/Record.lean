import CodeSurvey.Json.Printer
import CodeSurvey.Run

/-!
# Records

What a run has found as a JSON value, for other programs. Fields come in a fixed order, and maps in the
order of their keys.
-/

namespace CodeSurvey

def Json.strings (ss : List String) : Json String := .array (ss.map .string)

/-- An object with a number in each field. -/
def Json.counts (cs : List (String × Nat)) : Json String :=
  .object (cs.map fun (k, n) => (k, .nat n))

def Json.counters (cs : List (String × UInt64)) : Json String :=
  .counts (cs.map fun (k, n) => (k, n.toNat))

def Limits.toJson (l : Limits) : Json String := .counts (Ceiling.all.map fun c => (c.key, (l.get c).toNat))

def Edge.toJson (e : Edge) : Json String :=
  .object [("from", .string e.source), ("to", .string e.target), ("kind", .string e.kind)]

def Module.toJson (m : Module) : Json String :=
  .object [("name", .string m.name), ("package_name", .string m.firstPackage),
    ("package_count", .nat m.packageCount)]

def Model.toJson (m : Model) : Json String :=
  .object [
    ("packages", .strings m.packages.keys),
    ("dependencies", .array (m.dependencies.map Edge.toJson)),
    ("frameworks", .counters m.frameworks.entries),
    ("patterns", .object (m.patterns.entries.map fun (k, units) => (k, .strings units))),
    ("schemas", .strings m.schemas),
    ("endpoints", .strings m.endpoints),
    ("language_files", .counters (m.languageFiles.entries.map fun (l, n) => (l.displayName, n))),
    ("class_count", .nat m.classCount.toNat)]

def IntakeStats.toJson (s : IntakeStats) : Json String :=
  .object [
    ("entries_seen", .nat s.entriesSeen),
    ("files_extracted", .nat s.filesExtracted),
    ("bytes_extracted", .nat s.bytesExtracted),
    ("directories_created", .nat s.directoriesCreated),
    ("skipped", .counts (s.skipped.entries.map fun (r, n) => (r.key, n))),
    ("stopped", (s.stopped.map fun r => .string r.key).getD .null)]

def SurveyStats.toJson (s : SurveyStats) : Json String :=
  .object [
    ("files_analyzed", .nat s.filesAnalyzed),
    ("skipped", .counts (s.skipped.entries.map fun (r, n) => (r.key, n))),
    ("heuristic_fallbacks", .nat s.fallbacks)]

def Survey.toJson (s : Survey) : Json String :=
  .object [("model", s.model.toJson), ("modules", .array (s.modules.map Module.toJson)),
    ("stats", s.stats.toJson)]

def RunReport.toJson (r : RunReport) : Json String :=
  .object [
    ("version", .string version),
    ("input", .string r.input),
    ("archive", .bool r.isArchive),
    ("limits", r.limits.toJson),
    ("intake", (r.intake.map IntakeStats.toJson).getD .null),
    ("analysis", r.survey.toJson)]

end CodeSurvey
