import CodeSurvey.Path

/-!
# Names of archive entries

An archive names its entries by paths of its own choosing. A name is accepted only if it leads from
the workspace root strictly downwards; then it says which names to go down by.
-/

namespace CodeSurvey

/-- Why the name of an archive entry is refused. -/
inductive UnsafeName where
  | empty
  | nulByte
  | absolute
  | driveLetter
  | parentSegment
  | escapesRoot
deriving DecidableEq, Repr

def UnsafeName.message : UnsafeName → String
  | empty => "empty entry name"
  | nulByte => "entry name contains a NUL byte"
  | absolute => "absolute entry path"
  | driveLetter => "drive-letter entry path"
  | parentSegment => "entry path contains '..'"
  | escapesRoot => "entry resolves outside the workspace"

namespace EntryName

/-- Does a text begin with a letter and a colon? -/
def startsWithDrive : List Char → Bool
  | c :: ':' :: _ => c.isAlpha
  | _ => false

/-- The names to go down by, or the first reason to refuse the entry. Two dots are refused anywhere,
even inside a longer name. -/
def components (name : String) : Except UnsafeName (List String) :=
  let text := name.toList
  if (Text.trim text).isEmpty then .error .empty
  else if '\x00' ∈ text then .error .nulByte
  else if text.head? = some '/' || text.head? = some '\\' then .error .absolute
  else if startsWithDrive text then .error .driveLetter
  else if Text.contains text ".." then .error .parentSegment
  else
    match Path.components name with
    | [] => .error .escapesRoot
    | names => .ok names

/-- Where an accepted entry belongs below a root. -/
def resolve (root name : String) : Except UnsafeName String :=
  (components name).map (·.foldl Path.extend root)

end EntryName

end CodeSurvey
