import CodeSurvey.FileTree.Change
import CodeSurvey.FileTree.Lookup

/-!
# Writing files

A file is written below a directory that may have to be made first. Links on the way are followed.
-/

namespace CodeSurvey.FileTree

/-- Goes down by names as far as there is something, and gives the names that are left. -/
def descend (t : FileTree) (here : Location) : List String → Except OsError (Location × List String)
  | [] => .ok (here, [])
  | name :: rest =>
    let blocked (below : OsError) : Except OsError (Location × List String) :=
      .error (if rest = [] then .alreadyExists else below)
    match t.get? (here ++ [name]) with
    | none => .ok (here, name :: rest)
    | some .directory => descend t (here ++ [name]) rest
    | some (.file _) => blocked .notDirectory
    | some (.link _) =>
      match t.follow true maxLinks here [name] with
      | .ok loc => if t.isDirectory loc then descend t loc rest else blocked .notDirectory
      | .error .notFound => blocked .alreadyExists
      | .error e => blocked e

/-- The changes that make sure of a directory, and where it is then. -/
def ensureDirectory (t : FileTree) (p : Path) : List Change × Except OsError Location :=
  if Location.isTooLong p.names then ([], .error .nameTooLong)
  else
    match t.descend [] p.names with
    | .error e => ([], .error e)
    | .ok (loc, missing) =>
      match t.makeDirectories loc missing with
      | (changes, none) => (changes, .ok (loc ++ missing))
      | (changes, some e) => (changes, .error e)

/-- The file that is written under a name in a directory: the one with this name, or the one that a link
with this name leads to. -/
def target (t : FileTree) (here : Location) (name : String) : (links : Nat) → Except OsError Location
  | 0 => .error .tooManyLinks
  | links + 1 =>
    match t.get? (here ++ [name]) with
    | some .directory => .error .isDirectory
    | some (.link path) =>
      match t.follow true maxLinks (if Path.isAbsolute path then [] else here) (steps path).dropLast with
      | .error e => .error e
      | .ok loc =>
        match (steps path).getLast? with
        | none | some "." | some ".." => .error .isDirectory
        | some last => t.target loc last links
    | _ =>
      match t.openFailure? (here ++ [name]) with
      | some e => .error e
      | none => .ok (here ++ [name])

/-- The changes that write a file in a directory. -/
def writeFile (t : FileTree) (directory : Location) (name : String) (content : ByteArray) :
    Except OsError (List Change) :=
  (t.target directory name (maxLinks + 1)).map fun loc => [.create loc, .append loc content]

end CodeSurvey.FileTree
