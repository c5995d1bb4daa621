import CodeSurvey.FileTree.Basic

/-!
# Changes to a tree

Writing proceeds by small changes, each of which leaves a tree behind. The changes that an operation makes
are listed before they are carried out, so that the tree between any two of them can be spoken of.
-/

namespace CodeSurvey

inductive Change where
  | makeDirectory (loc : Location)
  /-- Makes an empty file, or empties the one that is there. -/
  | create (loc : Location)
  | append (loc : Location) (chunk : ByteArray)
  | remove (loc : Location)
deriving DecidableEq

namespace FileTree

/-- The node of a file after some bytes have been added to it. -/
def appended (chunk : ByteArray) : Option Node → Node
  | some (.file content) => .file (content ++ chunk)
  | some other => other
  | none => .file chunk

def apply (t : FileTree) : Change → FileTree
  | .makeDirectory loc => t.insert loc .directory
  | .create loc => t.insert loc (.file .empty)
  | .append loc chunk => ⟨t.nodes.alter loc (appended chunk)⟩
  | .remove loc => ⟨t.nodes.erase loc⟩

/-- Carries out changes from first to last. -/
def applyAll (t : FileTree) (changes : List Change) : FileTree := changes.foldl apply t

@[simp] theorem applyAll_nil (t : FileTree) : t.applyAll [] = t := rfl

@[simp] theorem applyAll_append (t : FileTree) (cs ds : List Change) :
    t.applyAll (cs ++ ds) = (t.applyAll cs).applyAll ds := List.foldl_append ..

/-- Goes down by the given names and lists the directories to be made on the way, up to the first that
cannot be made. -/
def missingDirectories (t : FileTree) (base : Location) :
    List String → List Change × Option OsError
  | [] => ([], none)
  | name :: rest =>
    let loc := base ++ [name]
    match t.get? loc with
    | some .directory => missingDirectories t loc rest
    | some _ => ([], some (if rest = [] then .alreadyExists else .notDirectory))
    | none =>
      if Location.maxName < name.utf8ByteSize then ([], some .nameTooLong)
      else
        let (changes, failure) := missingDirectories t loc rest
        (.makeDirectory loc :: changes, failure)

/-- The changes that make sure of a directory below another one, and why it cannot be had. -/
def makeDirectories (t : FileTree) (base : Location) (names : List String) :
    List Change × Option OsError :=
  if Location.isTooLong (base ++ names) then ([], some .nameTooLong)
  else t.missingDirectories base names

/-- Why no file can be opened for writing at a location whose directory is there. -/
def openFailure? (t : FileTree) (loc : Location) : Option OsError :=
  if Location.isTooLong loc then some .nameTooLong
  else if Location.maxName < (loc.getLast?.getD "").utf8ByteSize then some .nameTooLong
  else if t.isDirectory loc then some .isDirectory
  else none

end FileTree

end CodeSurvey
