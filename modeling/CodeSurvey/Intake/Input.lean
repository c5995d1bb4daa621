import CodeSurvey.Archive.Content
import CodeSurvey.FileTree.Lookup
import CodeSurvey.Intake.Error
import CodeSurvey.Intake.Limits

/-!
# Inputs of a run

An input is a directory that is surveyed in place, or an archive that has to be unpacked first. Only its
kind, its name and its size are looked at before it is accepted.
-/

namespace CodeSurvey

/-- An input that has been accepted, by its location without links. -/
inductive Input where
  | directory (loc : Location)
  | archive (loc : Location)
deriving DecidableEq, Repr

namespace Input

def location : Input → Location
  | directory loc | archive loc => loc

/-- The location and node of an input that has to be of some kind. -/
def found (t : FileTree) (cwd : Location) (expected : InputKind) (raw : String) :
    Except IntakeError (Location × Node) :=
  (t.find cwd raw).mapError fun e => .invalidInput raw (.missing expected e)

/-- Accepts a directory. -/
def acceptDirectory (t : FileTree) (cwd : Location) (raw : String) : Except IntakeError Location := do
  match ← found t cwd .directory raw with
  | (loc, .directory) => return loc
  | _ => throw (.invalidInput raw .notDirectory)

/-- Why a file of this name and size is no acceptable archive, if so. -/
def archiveRefusal? (limits : Limits) (name : String) (size : Nat) : Option InputRefusal :=
  if !hasArchiveExtension name then some (.unsupportedType name)
  else if size = 0 then some .emptyArchive
  else if limits.maxArchiveSize.toNat < size then some (.tooLarge size limits.maxArchiveSize.toNat)
  else none

/-- Accepts an archive. Its name is the one in the path, even if that is a link. -/
def acceptArchive (t : FileTree) (cwd : Location) (limits : Limits) (raw : String) :
    Except IntakeError Location := do
  match ← found t cwd .archive raw with
  | (loc, .file content) =>
    match archiveRefusal? limits ((Path.fileName? raw).getD "") content.size with
    | some refusal => throw (.invalidInput raw refusal)
    | none => return loc
  | _ => throw (.invalidInput raw .notRegularFile)

/-- Accepts a directory or an archive. -/
def accept (t : FileTree) (cwd : Location) (limits : Limits) (raw : String) :
    Except IntakeError Input := do
  match ← found t cwd .any raw with
  | (_, .directory) => (acceptDirectory t cwd raw).map .directory
  | _ => (acceptArchive t cwd limits raw).map .archive

/-- The entries of the archive that a path leads to. -/
def entries (t : FileTree) (cwd : Location) (limits : Limits) (raw : String) :
    Except IntakeError Entries :=
  match t.find cwd raw with
  | .error e => .error (.invalidInput raw (.cannotOpen e))
  | .ok (_, .file content) =>
    (Archive.entries content limits.maxFileSize.toNat).mapError (.corruptArchive raw)
  | .ok _ => .error (.corruptArchive raw .directory)

end Input

end CodeSurvey
