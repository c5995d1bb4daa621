import CodeSurvey.Language

/-!
# Source units

One file as it is handed to an analyzer: its path below the surveyed root, its language and its text.
The path is cut into directory, file name and unit name.
-/

namespace CodeSurvey

structure SourceUnit where
  /-- The path below the surveyed root, with `/` between its components. -/
  path : String
  language : Language
  content : String

/-- How a unit was read. -/
inductive Fidelity where
  /-- By its grammar, as far as packages and types go. -/
  | structured
  /-- As text, by patterns. -/
  | heuristic
  /-- As a manifest, for its dependencies only. -/
  | manifest
deriving DecidableEq, Repr

def Fidelity.name : Fidelity → String
  | structured => "Structured"
  | heuristic => "Heuristic"
  | manifest => "Manifest"

namespace SourceUnit

def text (u : SourceUnit) : List Char := u.content.toList

/-- What follows the last slash of the path. -/
def fileName (u : SourceUnit) : String :=
  String.ofList (Text.lastPiece (· = '/') u.path.toList)

/-- The file name up to its last dot. A name that begins with its only dot is kept whole. -/
def unitName (u : SourceUnit) : String :=
  match Text.splitLast? '.' u.fileName.toList with
  | some (stem@(_ :: _), _) => String.ofList stem
  | _ => u.fileName

/-- What precedes the last slash of the path; empty for a file at the root. -/
def directory (u : SourceUnit) : String :=
  match Text.splitLast? '/' u.path.toList with
  | some (dir, _) => String.ofList dir
  | none => ""

def isManifest (u : SourceUnit) : Bool := isManifestName u.fileName

end SourceUnit

/-- The module that a unit makes up: its directory with dots for slashes, or the unit itself at the
root. -/
def moduleName (directory unit : String) : String :=
  if directory = "" then unit else String.ofList (Text.replaceChar '/' '.' directory.toList)

/-- The innermost directory, or `root` where there is none. -/
def parentModule (directory : String) : String :=
  match Text.lastPiece (· = '/') directory.toList with
  | [] => "root"
  | name => String.ofList name

end CodeSurvey
