import CodeSurvey.FileTree.Basic

/-!
# Workspaces

An archive is unpacked into a directory of its own among the temporary files, under a name that is not
taken yet.
-/

namespace CodeSurvey.Workspace

/-- Where workspaces are made. -/
def parent : Location := ["tmp"]

/-- The `n`th name a workspace may have. -/
def name (n : Nat) : String :=
  let digits := Nat.toDigits 10 n
  "archlens-" ++ String.ofList (List.replicate (6 - digits.length) '0' ++ digits)

/-- A place for a workspace where nothing is yet, nor below. -/
def location (t : FileTree) : Location :=
  let places := (List.range (t.nodes.size + 1)).map fun n => parent ++ [name n]
  (places.find? fun loc => t.get? loc = none && (t.below loc).isEmpty).getD (parent ++ [name 0])

end CodeSurvey.Workspace
