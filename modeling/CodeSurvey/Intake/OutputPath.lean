import CodeSurvey.Path
import CodeSurvey.Text.Quoted

/-!
# Where a report may be written

A requested output directory is brought into normal form first. It has to lie below the root of the
file system, and it must not be the system directory of a drive.
-/

namespace CodeSurvey

/-- Why an output directory is refused. -/
inductive OutputRefusal where
  | empty
  | nulByte
  | root
  | systemDirectory
deriving DecidableEq, Repr

namespace OutputRefusal

def reason : OutputRefusal → String
  | empty => "path is empty"
  | nulByte => "path contains a NUL byte"
  | root => "resolves to the filesystem root"
  | systemDirectory => "refusing to write into a system directory"

end OutputRefusal

namespace OutputPath

/-- Does the path, read with either kind of slash, end in the system directory of a drive? -/
def isSystemDirectory (p : Path) : Bool :=
  let text := Text.lower (Text.replaceChar '\\' '/' p.written.toList)
  Text.endsWith text ":/windows" || Text.endsWith text ":/windows/"

/-- The directory that is meant by `raw` at the working directory `cwd`. -/
def accept (cwd raw : String) : Except OutputRefusal Path :=
  if (Text.trim raw.toList).isEmpty then .error .empty
  else if '\x00' ∈ raw.toList then .error .nulByte
  else
    let p := Path.normalize (Path.join cwd raw)
    if p.names.isEmpty then .error .root
    else if isSystemDirectory p then .error .systemDirectory
    else .ok p

end OutputPath

end CodeSurvey
