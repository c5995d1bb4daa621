import CodeSurvey.Report.Paint
import CodeSurvey.Run
import CodeSurvey.Size

/-!
# Summaries

What a run has found, for human readers: counts, the languages of the files, and the most frequent
frameworks, design patterns and modules. A summary is a list of lines.
-/

namespace CodeSurvey

/-- How many rows a ranking has at most. -/
def rankingSize : Nat := 8

/-- Does a row come before another one or stand level with it? Larger counts come first, then smaller
names. -/
def ranksBefore (a b : String × Nat) : Bool := b.2 < a.2 || (a.2 = b.2 && a.1 ≤ b.1)

/-- The rows with the largest counts. -/
def topCounts (rows : List (String × Nat)) : List (String × Nat) :=
  (rows.mergeSort ranksBefore).take rankingSize

/-- Counts and what they count, as one phrase. -/
def tally {κ : Type} (describe : κ → String) (counts : List (κ × Nat)) : String :=
  ", ".intercalate (counts.map fun (k, n) => toString n ++ " " ++ describe k)

section

variable (color : Bool)

/-- A line with a label and a value. -/
def labelled (label value : String) : String :=
  "  " ++ Paint.apply color [.dimmed] label ++ value

def intakeLines (s : IntakeStats) : List String :=
  [labelled color "Extracted:"
    (toString s.filesExtracted ++ " files, " ++ Size.text s.bytesExtracted ++ " (" ++
      toString s.entriesSeen ++ " entries seen)")] ++
  (if s.totalSkipped = 0 then []
    else [labelled color "Rejected: "
      (Paint.apply color [.yellow] (tally EntrySkip.description s.skipped.entries))]) ++
  match s.stopped with
  | none => []
  | some reason =>
    [labelled color "Stopped:  " (Paint.apply color [.bold, .yellow] reason.description)]

/-- The languages, those with the most files first. -/
def languageLines (m : Model) : List String :=
  ("  " ++ Paint.apply color [.bold] "Languages" ++ " (" ++ toString m.totalFiles ++ " files):") ::
  match m.languageFiles.entries.mergeSort fun a b => b.2 ≤ a.2 with
  | [] => ["    " ++ Paint.apply color [.dimmed] "no recognized source files"]
  | rows => rows.map fun (l, n) =>
    "    " ++ Paint.apply color [.blue] (padRight 12 l.displayName) ++ " " ++ toString n.toNat

/-- A ranking under its title, unless it is empty. -/
def rankingLines (title : String) (rows : List (String × Nat)) : List String :=
  match topCounts rows with
  | [] => []
  | rows =>
    ["  " ++ Paint.apply color [.bold] title ++ ":"] ++
    (rows.map fun (name, n) =>
      "    " ++ padRight 32 name ++ " " ++ Paint.apply color [.dimmed] (toString n)) ++
    [""]

/-- How many files were skipped and why, and for how many the grammar has failed. -/
def skippedLines (s : SurveyStats) : List String :=
  if s.skipped.values.sum = 0 && s.fallbacks = 0 then []
  else
    let reasons := match s.skipped.entries with
      | [] => "none"
      | counts => tally FileSkip.description counts
    labelled color "Skipped files: " reasons ::
    (if s.fallbacks = 0 then []
      else ["  " ++ Paint.apply color [.yellow]
        (toString s.fallbacks ++ " units analyzed heuristically after a parse failure")]) ++
    [""]

/-- The verdict on the whole run. -/
def verdict (r : RunReport) : String :=
  if r.intake.any IntakeStats.isPartial then
    Paint.apply color [.yellow] "⚠ Analyzed a partial workspace"
  else if r.survey.stats.filesAnalyzed = 0 then
    Paint.apply color [.yellow] "⚠ No source files analyzed"
  else Paint.apply color [.green] "✓ Analysis complete"

/-- The lines of a summary. -/
def RunReport.summary (r : RunReport) : List String :=
  let m := r.survey.model
  let modules := r.survey.modules
  ["", "  " ++ Paint.apply color [.bold, .cyan] "archlens" ++ " v" ++ version, "",
    labelled color "Input:    " r.input] ++
  (r.intake.map (intakeLines color)).getD [] ++ [""] ++
  languageLines color m ++
  ["",
    labelled color "Types:        " (Paint.apply color [.bold] (toString m.classCount.toNat)),
    labelled color "Packages:     "
      (toString m.packages.size ++ " in " ++ toString modules.length ++ " modules"),
    labelled color "Dependencies: " (toString m.dependencies.length),
    labelled color "Endpoints:    " (toString m.endpoints.length),
    labelled color "Schemas:      " (toString m.schemas.length),
    ""] ++
  rankingLines color "Frameworks" (m.frameworks.entries.map fun (name, n) => (name, n.toNat)) ++
  rankingLines color "Design patterns" (m.patterns.entries.map fun (k, units) => (k, units.length)) ++
  rankingLines color "Modules" (modules.map fun k => (k.name, k.packageCount)) ++
  skippedLines color r.survey.stats ++
  ["  " ++ verdict color r, ""]

/-- A ceiling as it is shown: sizes with their unit, the compression as a proportion. -/
def Ceiling.display (c : Ceiling) (n : Nat) : String :=
  match c with
  | .archiveSize | .totalBytes | .fileSize => Size.text n
  | .fileCount => toString n
  | .compressionRatio => toString n ++ ":1"

/-- The lines that list the ceilings. -/
def Limits.summary (l : Limits) : List String :=
  ["", "  " ++ Paint.apply color [.bold] "Resource limits", ""] ++
  (Ceiling.all.map fun c =>
    "    " ++ padRight 32 c.key ++ " " ++ c.display (l.get c).toNat) ++
  [""]

end

end CodeSurvey
