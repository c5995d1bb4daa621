import CodeSurvey.Analyzer
import CodeSurvey.Glob.Basic
import CodeSurvey.Intake.Limits
import CodeSurvey.Model.Modules
import CodeSurvey.Survey.Walk
import CodeSurvey.Text.Utf8

/-!
# Surveys

A survey reads every source file that a walk comes upon, each on its own, and merges what it learns in the
order of the walk. A file that is excluded, too large or cannot be read is skipped and counted, and so is
what cannot be listed; nothing makes a survey fail.
-/

namespace CodeSurvey

/-- Why a file that the walk came upon was not read. -/
inductive FileSkip where
  | oversized
  | unreadable
  | excluded
deriving DecidableEq, Repr

namespace FileSkip

/-- The name used in records. -/
def key : FileSkip → String
  | oversized => "oversized"
  | unreadable => "unreadable"
  | excluded => "excluded"

/-- The wording used in summaries. -/
def description : FileSkip → String
  | oversized => "over size limit"
  | unreadable => "unreadable"
  | excluded => "excluded"

/-- Reasons are listed in the order of their declaration. -/
instance : LT FileSkip := ⟨fun a b => a.ctorIdx < b.ctorIdx⟩

instance : DecidableLT FileSkip := fun a b =>
  inferInstanceAs (Decidable (a.ctorIdx < b.ctorIdx))

instance : Trans (α := FileSkip) (· < ·) (· < ·) (· < ·) := ⟨fun h k => Nat.lt_trans h k⟩

end FileSkip

/-- What can be chosen about a survey. -/
structure SurveyOptions where
  /-- Larger files are skipped. -/
  maxFileSize : UInt64
  /-- How many files may be read at the same time. What is learnt does not depend on it. -/
  jobs : Nat
  /-- Files whose paths below the root match one of these are skipped. -/
  excluded : List Glob

/-- Counts of the files that a walk came upon. As a walk is held in memory as a list, none of them comes
near the end of a machine word. -/
structure SurveyStats where
  filesAnalyzed : Nat
  skipped : SortedMap FileSkip Nat
  /-- Files that were read by patterns because their grammar had failed. -/
  fallbacks : Nat
deriving DecidableEq

namespace SurveyStats

def empty : SurveyStats := ⟨0, ∅, 0⟩

instance : EmptyCollection SurveyStats := ⟨empty⟩

def skip (s : SurveyStats) (reason : FileSkip) : SurveyStats :=
  { s with skipped := s.skipped.alter reason fun old => old.getD 0 + 1 }

def skippedFor (s : SurveyStats) (reason : FileSkip) : Nat := (s.skipped.get? reason).getD 0

end SurveyStats

/-- What a survey has learnt, and of how many files. -/
structure Survey where
  model : Model
  stats : SurveyStats
deriving DecidableEq

namespace Survey

def modules (s : Survey) : List Module := s.model.modules

/-- What has been learnt of one file. -/
structure Contribution where
  model : Model
  /-- Did patterns have to stand in for a grammar that was tried? -/
  fellBack : Bool

/-- What becomes of one sighting. -/
inductive Outcome where
  | analyzed (contribution : Contribution)
  | skipped (reason : FileSkip)

/-- The unit that an analyzer is given of a source file. -/
def unitOf (file : SourceFile) : SourceUnit := ⟨file.path, file.language, Text.ofBytes file.content⟩

/-- What a source file contributes: a model of its own, which holds what the recorder of its language
comes across and counts the file itself. -/
def contribution? [Grammars] (file : SourceFile) : Option Contribution :=
  file.language.recorder?.map fun record =>
    let (fidelity, m) := (record (unitOf file)).run ∅
    ⟨m.add (.file file.language), file.language.triesGrammar && fidelity = .heuristic⟩

/-- Is a path left out by choice? -/
def isExcluded (options : SurveyOptions) (path : String) : Bool :=
  options.excluded.any (·.isMatch path)

def outcome [Grammars] (options : SurveyOptions) : Sighting → Outcome
  | .unlisted => .skipped .unreadable
  | .sealed path => .skipped (if isExcluded options path then .excluded else .unreadable)
  | .source file =>
    if isExcluded options file.path then .skipped .excluded
    else if options.maxFileSize.toNat < file.content.size then .skipped .oversized
    else
      match contribution? file with
      | some contribution => .analyzed contribution
      | none => .skipped .unreadable

/-- Takes in one outcome. -/
def record (s : Survey) : Outcome → Survey
  | .analyzed contribution =>
    ⟨s.model.merge contribution.model,
      { s.stats with
        filesAnalyzed := s.stats.filesAnalyzed + 1
        fallbacks := s.stats.fallbacks + contribution.fellBack.toNat }⟩
  | .skipped reason => { s with stats := s.stats.skip reason }

/-- The survey of what a walk has reported. -/
def ofSightings [Grammars] (options : SurveyOptions) (sightings : List Sighting) : Survey :=
  (sightings.map (outcome options)).foldl record ⟨∅, ∅⟩

end Survey

/-- Surveys the directory or file that a path leads to. The operating system may refuse to open some of
what is there. -/
def FileTree.survey [Grammars] (t : FileTree) (cwd : Location) (options : SurveyOptions) (raw : String)
    (locked : Location → Bool := fun _ => false) : Survey :=
  .ofSightings options (t.walk cwd raw locked)

end CodeSurvey
