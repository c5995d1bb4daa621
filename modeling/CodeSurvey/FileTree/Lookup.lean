import CodeSurvey.FileTree.Basic
import CodeSurvey.Path

/-!
# Finding files by path

A written path is followed step by step from the working directory or from the root. Symbolic links are
replaced by what they stand for, up to a limit, so that circles of links end.
-/

namespace CodeSurvey.FileTree

/-- The steps of a written path. A slash at the end asks for a directory, which is a step to itself. -/
def steps (raw : String) : List String :=
  let names := (Text.pieces (· = '/') raw.toList).filter (· ≠ [])
  names.map String.ofList ++ if raw.toList.getLast? = some '/' then ["."] else []

/-- How many links may be followed on one way. -/
def maxLinks : Nat := 40

/-- Follows steps from a location. A link in the last place is followed only on request. -/
def follow (t : FileTree) (last : Bool) : (links : Nat) → Location → List String →
    Except OsError Location
  | _, here, [] => .ok here
  | links, here, name :: rest =>
    if !t.isDirectory here then .error .notDirectory
    else if name = "." then follow t last links here rest
    else if name = ".." then follow t last links here.dropLast rest
    else if Location.maxName < name.utf8ByteSize then .error .nameTooLong
    else
      match t.get? (here ++ [name]) with
      | none => .error .notFound
      | some (.link target) =>
        if rest = [] && !last then .ok (here ++ [name])
        else
          match links with
          | 0 => .error .tooManyLinks
          | links + 1 =>
            follow t last links (if Path.isAbsolute target then [] else here) (steps target ++ rest)
      | some _ => follow t last links (here ++ [name]) rest
termination_by links _ names => (links, names.length)

/-- Where a path leads from the working directory. -/
def locate (t : FileTree) (cwd : Location) (raw : String) (last : Bool) : Except OsError Location :=
  if '\x00' ∈ raw.toList then .error .nulByte
  else if raw = "" then .error .notFound
  else if Location.maxPath < raw.utf8ByteSize then .error .nameTooLong
  else t.follow last maxLinks (if Path.isAbsolute raw then [] else cwd) (steps raw)

/-- The location and the node that a path leads to when links are followed. -/
def find (t : FileTree) (cwd : Location) (raw : String) : Except OsError (Location × Node) :=
  match t.locate cwd raw true with
  | .error e => .error e
  | .ok loc =>
    match t.get? loc with
    | some n => .ok (loc, n)
    | none => .error .notFound

/-- The content of the file that a path leads to. -/
def read (t : FileTree) (cwd : Location) (raw : String) : Except OsError ByteArray :=
  match t.find cwd raw with
  | .error e => .error e
  | .ok (_, .file content) => .ok content
  | .ok _ => .error .isDirectory

end CodeSurvey.FileTree
