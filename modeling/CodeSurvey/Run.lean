import CodeSurvey.Intake.Extraction
import CodeSurvey.Intake.Input
import CodeSurvey.Intake.Workspace
import CodeSurvey.Survey.Basic

/-!
# Runs

A run accepts an input, unpacks it into a workspace if it is an archive, and surveys what is there. The
workspace is gone when the run is over: a run leaves no change behind.
-/

namespace CodeSurvey

/-- The version shown in reports. -/
def version : String := "0.1.0"

/-- What a run has found. -/
structure RunReport where
  /-- The input as it was asked for. -/
  input : String
  limits : Limits
  /-- The tally of the unpacking, if the input is an archive. -/
  intake : Option IntakeStats
  survey : Survey
deriving DecidableEq

namespace RunReport

def isArchive (r : RunReport) : Bool := r.intake.isSome

end RunReport

/-- What there is to survey: a tree, the directory in it, and the tally of the unpacking if there was
one. -/
structure PreparedInput where
  tree : FileTree
  root : Location
  intake : Option IntakeStats

namespace PreparedInput

/-- Unpacks entries into a fresh workspace. -/
def ofEntries (t : FileTree) (limits : Limits) (entries : Entries) : PreparedInput :=
  let root := Workspace.location t
  let x := extract (t.insert root .directory) root limits entries
  ⟨x.tree, root, some x.finalStats⟩

/-- Accepts an input and unpacks it if it is an archive. -/
def ofPath (t : FileTree) (cwd : Location) (limits : Limits) (raw : String) :
    Except IntakeError PreparedInput := do
  match ← Input.accept t cwd limits raw with
  | .directory loc => return ⟨t, loc, none⟩
  | .archive loc => return ofEntries t limits (← Input.entries t [] limits (Location.path loc))

end PreparedInput

/-- The options under which a run surveys: no file may be larger than the ceiling of the run. -/
def SurveyOptions.within (options : SurveyOptions) (limits : Limits) : SurveyOptions :=
  { options with maxFileSize := min options.maxFileSize limits.maxFileSize }

/-- A run on the input that a path leads to. -/
def run [Grammars] (t : FileTree) (cwd : Location) (limits : Limits) (options : SurveyOptions) (raw : String) :
    Except IntakeError RunReport := do
  let prepared ← PreparedInput.ofPath t cwd limits raw
  return {
    input := raw
    limits
    intake := prepared.intake
    survey := .ofSightings (options.within limits) (prepared.tree.sightings prepared.root) }

end CodeSurvey
