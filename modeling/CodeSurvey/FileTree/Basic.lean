import CodeSurvey.SortedMap

/-!
# Trees of files

A tree of files and directories, held as a map from locations to what is there. A location is the list of
names that lead down to it from the root; the root itself is always a directory. Listing the map in the
order of its keys visits a directory before its contents, and the contents in the order of their names.
-/

namespace CodeSurvey

/-- Where something is: the names to go down by, from the root. -/
abbrev Location := List String

/-- What is at a location. -/
inductive Node where
  | file (content : ByteArray)
  | directory
  /-- A symbolic link, with the path it stands for. -/
  | link (target : String)
deriving DecidableEq

/-- Why the operating system refuses an operation on files. -/
inductive OsError where
  | notFound
  | alreadyExists
  | notDirectory
  | isDirectory
  | nameTooLong
  | tooManyLinks
  | nulByte
deriving DecidableEq, Repr

def OsError.message : OsError → String
  | notFound => "No such file or directory (os error 2)"
  | alreadyExists => "File exists (os error 17)"
  | notDirectory => "Not a directory (os error 20)"
  | isDirectory => "Is a directory (os error 21)"
  | nameTooLong => "File name too long (os error 36)"
  | tooManyLinks => "Too many levels of symbolic links (os error 40)"
  | nulByte => "file name contained an unexpected NUL byte"

namespace Location

/-- The longest name of a file, in bytes. -/
def maxName : Nat := 255

/-- The longest path, in bytes. -/
def maxPath : Nat := 4095

/-- The path to a location. -/
def path (loc : Location) : String := "/" ++ "/".intercalate loc

/-- Is the path to a location too long to be used? -/
def isTooLong (loc : Location) : Bool := maxPath < (path loc).utf8ByteSize

end Location

structure FileTree where
  nodes : SortedMap Location Node
deriving DecidableEq

namespace FileTree

/-- The tree in which there is nothing below the root. -/
def empty : FileTree := ⟨∅⟩

instance : EmptyCollection FileTree := ⟨empty⟩
instance : Inhabited FileTree := ⟨empty⟩

def get? (t : FileTree) (loc : Location) : Option Node :=
  if loc = [] then some .directory else t.nodes.get? loc

def isDirectory (t : FileTree) (loc : Location) : Bool := t.get? loc = some .directory

def insert (t : FileTree) (loc : Location) (n : Node) : FileTree := ⟨t.nodes.insert loc n⟩

/-- Everything strictly below a location, with the names that lead there from it. -/
def below (t : FileTree) (loc : Location) : List (Location × Node) :=
  t.nodes.entries.filterMap fun (place, n) =>
    match loc.isPrefixOf? place with
    | some (name :: names) => some (name :: names, n)
    | _ => none

end FileTree

end CodeSurvey
