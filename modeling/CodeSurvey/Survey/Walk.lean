import CodeSurvey.FileTree.Lookup
import CodeSurvey.Language

/-!
# Walking a tree

A walk lists the source files below a directory in the order of their locations, which puts a directory
before its contents. Links inside the tree are not followed, and only names decide which files are
sources; a link to the directory itself is followed. What the operating system refuses to open is reported:
a directory as something that could not be listed, and a source file as one that cannot be read.
-/

namespace CodeSurvey

/-- A source file that a walk has come upon. -/
structure SourceFile where
  /-- The path below the root of the walk. -/
  path : String
  language : Language
  content : ByteArray
deriving DecidableEq

/-- One thing that a walk has to report. -/
inductive Sighting where
  | source (file : SourceFile)
  /-- A source file that cannot be read, by its path below the root of the walk. -/
  | sealed (path : String)
  /-- Something could not be listed. -/
  | unlisted
deriving DecidableEq

namespace FileTree

/-- The path below the root of a walk, with slashes of one kind only. -/
def relativePath (names : List String) : String :=
  String.ofList (Text.replaceChar '\\' '/' ("/".intercalate names).toList)

/-- The source file that a node is, if it is one. -/
def sourceFile? (names : List String) (language : Language) : Node → Option SourceFile
  | .file content => if language.isKnown then some ⟨relativePath names, language, content⟩ else none
  | _ => none

/-- What a walk reports of a node, which may be locked. -/
def sighting? (names : List String) (language : Language) (isLocked : Bool) : Node → Option Sighting
  | .directory => if isLocked then some .unlisted else none
  | n => (sourceFile? names language n).map fun file => if isLocked then .sealed file.path else .source file

/-- Is one of the directories locked through which a way leads down? The last name on the way is not gone
through. -/
def isHidden (locked : Location → Bool) (base : Location) : List String → Bool
  | [] => false
  | name :: rest => locked base || isHidden locked (base ++ [name]) rest

/-- What is reported of a walk from a location, which is itself the first thing come upon. Nothing is seen
below a directory that is locked. -/
def sightings (t : FileTree) (root : Location) (locked : Location → Bool := fun _ => false) :
    List Sighting :=
  (([], .directory) :: t.below root).filterMap fun (names, n) =>
    if isHidden locked root names then none
    else sighting? names (Language.ofFileName (names.getLast?.getD "")) (locked (root ++ names)) n

/-- What is reported of a walk from a path. It may lead to a single file; its path below the root is then
empty. -/
def walk (t : FileTree) (cwd : Location) (raw : String) (locked : Location → Bool := fun _ => false) :
    List Sighting :=
  match t.locate cwd raw false with
  | .error _ => [.unlisted]
  | .ok loc =>
    match t.get? loc with
    | some .directory => t.sightings loc locked
    | some (.link _) =>
      match t.find cwd raw with
      | .ok (target, .directory) => t.sightings target locked
      | .ok _ => []
      | .error _ => [.unlisted]
    | some n => (sighting? [] (Language.ofPath raw) (locked loc) n).toList
    | none => [.unlisted]

end FileTree

end CodeSurvey
