import CodeSurvey.Command.Arguments
import CodeSurvey.Config.Source
import CodeSurvey.FileTree.Write
import CodeSurvey.Intake.OutputPath
import CodeSurvey.Report.Record
import CodeSurvey.Report.Summary

/-!
# Carrying out commands

A command is carried out on a tree of files. What comes of it is an exit code, two texts, and changes to the
tree: none but those that write a record of the run where that was asked for. The destination of the record
is checked before any other work is done.
-/

namespace CodeSurvey

/-- Why a command fails. -/
inductive CommandError where
  | noJobs
  | config (cause : Config.LoadError)
  | options (cause : ConfigError)
  | intake (cause : IntakeError)
  | noOutputDirectory (path : String) (cause : OsError)
  | unwritable (path : String) (cause : OsError)
deriving DecidableEq

namespace CommandError

def message : CommandError → String
  | noJobs => "--jobs must be at least 1"
  | config cause => cause.message
  | options cause => cause.message
  | intake cause => cause.message
  | noOutputDirectory path _ => "cannot create output directory " ++ path
  | unwritable path _ => "cannot write " ++ path

/-- What led to the error, the latest cause first. -/
def causes : CommandError → List String
  | intake (.corruptArchive _ cause) =>
    if cause.isIo then [cause.message, cause.message] else [cause.message]
  | noOutputDirectory _ cause | unwritable _ cause => [cause.message]
  | _ => []

/-- The kind of the error, if it has one. -/
def kind? : CommandError → Option String
  | intake cause => some cause.kind
  | _ => none

/-- Several causes are numbered from zero. -/
def causeLines (e : CommandError) : List String :=
  match e.causes with
  | [] => []
  | [cause] => ["", "Caused by:", "    " ++ cause]
  | causes =>
    ["", "Caused by:"] ++ causes.zipIdx.map fun (cause, n) => "    " ++ toString n ++ ": " ++ cause

/-- The error as it is shown: with all its causes, or with its kind and a hint that there are causes. -/
def lines (e : CommandError) (debug : Bool) : List String :=
  ("Error: " ++ e.message) ::
    if debug then e.causeLines
    else
      (e.kind?.map fun kind => "  kind: " ++ kind).toList ++
        if e.causes = [] then [] else ["  (rerun with --debug for details)"]

end CommandError

/-- What comes of a command. -/
structure Outcome where
  code : Nat
  output : List String
  errors : List String
  changes : List Change
deriving DecidableEq

namespace Outcome

def success (output : List String) (changes : List Change) : Outcome := ⟨0, output, [], changes⟩

def failure (e : CommandError) (debug : Bool) (output : List String) (changes : List Change) : Outcome :=
  ⟨2, output, e.lines debug, changes⟩

/-- Lines as they are written. -/
def written (lines : List String) : String := String.join (lines.map (· ++ "\n"))

def stdout (o : Outcome) : String := written o.output

def stderr (o : Outcome) : String := written o.errors

end Outcome

namespace Command

/-- The name of the file in which a record is written. -/
def recordName : String := "analysis.json"

section

variable (t : FileTree) (cwd : Location) (color : Bool)

def loadConfig (explicit : Option String) : Except CommandError Config :=
  match Config.load t cwd explicit (Location.path cwd) with
  | .ok (config, _) => .ok config
  | .error e => .error (.config e)

/-- The run that is asked for, and the directory for its record. -/
def analysis [Grammars] (a : AnalyzeArguments) : Except CommandError (RunReport × Option Path) := do
  if a.jobs = some 0 then throw .noJobs
  let config ← loadConfig t cwd a.config
  let options ← (config.surveyOptions a.jobs).mapError .options
  let directory ← a.output.mapM fun raw =>
    (OutputPath.accept (Location.path cwd) raw).mapError fun e => .intake (.invalidOutput raw e)
  let report ← (run t cwd config.effectiveLimits options a.input).mapError .intake
  return (report, directory)

/-- Writes the record of a run and gives its path. -/
def writeRecord (report : RunReport) (directory : Path) : List Change × Except CommandError String :=
  match t.ensureDirectory directory with
  | (changes, .error e) => (changes, .error (.noOutputDirectory directory.written e))
  | (changes, .ok loc) =>
    let path := Path.extend directory.written recordName
    match (t.applyAll changes).writeFile loc recordName report.toJson.text.toUTF8 with
    | .ok more => (changes ++ more, .ok path)
    | .error e => (changes, .error (.unwritable path e))

/-- The report on a run, in the format that is asked for. -/
def reportLines (report : RunReport) : OutputFormat → List String
  | .json => [report.toJson.text]
  | .pretty => report.summary color

def executeAnalyze [Grammars] (a : AnalyzeArguments) : Outcome :=
  match analysis t cwd a with
  | .error e => .failure e a.debug [] []
  | .ok (report, directory) =>
    let lines := reportLines color report a.format
    match directory.map (writeRecord t report) with
    | none => .success lines []
    | some (changes, .error e) => .failure e a.debug lines changes
    | some (changes, .ok path) =>
      .success (lines ++ if a.format = .pretty then ["  Report written to " ++ path] else []) changes

def executeLimits (a : LimitsArguments) : Outcome :=
  match loadConfig t cwd a.config with
  | .error e => .failure e false [] []
  | .ok config =>
    let limits := config.effectiveLimits
    .success (match a.format with
      | .json => [limits.toJson.text]
      | .pretty => limits.summary color) []

/-- Carries out a command at a working directory. -/
def execute [Grammars] : Command → Outcome
  | .analyze a => executeAnalyze t cwd color a
  | .limits a => executeLimits t cwd color a

end

end Command

end CodeSurvey
