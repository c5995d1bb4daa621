import CodeSurvey.Archive.Basic
import CodeSurvey.FileTree.Basic
import CodeSurvey.Intake.OutputPath
import CodeSurvey.Intake.Whitelist
import CodeSurvey.Size

/-!
# Errors that end a run

A run ends with an error only if its input cannot be taken in at all or its output must not be written.
Each error has a kind for programs and a message for people.
-/

namespace CodeSurvey

/-- What an input is expected to be. -/
inductive InputKind where
  | any
  | directory
  | archive
deriving DecidableEq, Repr

def InputKind.noun : InputKind → String
  | any => "path"
  | directory => "directory"
  | archive => "file"

/-- Why an input is refused. -/
inductive InputRefusal where
  | missing (expected : InputKind) (cause : OsError)
  | notDirectory
  | notRegularFile
  | unsupportedType (name : String)
  | emptyArchive
  | tooLarge (size max : Nat)
  | cannotOpen (cause : OsError)
deriving DecidableEq, Repr

namespace InputRefusal

def mebibyte : Nat := 1024 * 1024

def reason : InputRefusal → String
  | missing expected cause => expected.noun ++ " does not exist (" ++ cause.message ++ ")"
  | notDirectory => "not a directory"
  | notRegularFile => "not a regular file"
  | unsupportedType name =>
    "unsupported file type " ++ Text.quoted name ++ ", only ." ++
      " or .".intercalate archiveExtensions ++ " archives are accepted"
  | emptyArchive => "archive is empty"
  | tooLarge size max =>
    "archive is too large: " ++ Size.decimal size mebibyte ++ " MB (max " ++
      toString (max / mebibyte) ++ " MB)"
  | cannotOpen cause => "cannot open archive (" ++ cause.message ++ ")"

end InputRefusal

inductive IntakeError where
  | invalidInput (path : String) (refusal : InputRefusal)
  | corruptArchive (path : String) (cause : ArchiveError)
  | invalidOutput (raw : String) (refusal : OutputRefusal)
deriving DecidableEq, Repr

namespace IntakeError

def kind : IntakeError → String
  | invalidInput .. => "invalid_input"
  | corruptArchive .. => "corrupt_archive"
  | invalidOutput .. => "invalid_output_path"

def message : IntakeError → String
  | invalidInput path refusal => "invalid input " ++ path ++ ": " ++ refusal.reason
  | corruptArchive path cause => "corrupt archive " ++ path ++ ": " ++ cause.message
  | invalidOutput raw refusal =>
    "invalid output path " ++ Text.quoted raw ++ ": " ++ refusal.reason

end IntakeError

end CodeSurvey
