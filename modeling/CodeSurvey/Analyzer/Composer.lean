import CodeSurvey.Decimal.Scaled
import CodeSurvey.Json.Reader

/-!
# Composer files

The two dependency files of the Composer package manager: the manifest, which maps required packages to
constraints, and the lock, which lists the packages that were chosen. A file is read only if all of it
fits; otherwise it names no packages.
-/

namespace CodeSurvey.Composer

open Json (Source)

/-- The deepest nesting of arrays and objects that is read, the outermost included. -/
def maxDepth : Nat := 127

/-- A record is an object in which no known field comes twice, or an array that gives the fields in
order. The answer has a place for each known field. -/
def record? (names : List String) : Source → Option (List (Option Source))
  | .object fields =>
    if fields.all fun f => f.1.isSome && (names.all fun n =>
        some n ≠ f.1 || (fields.filter fun g => g.1 = some n).length = 1) then
      some (names.map fun n => (fields.find? fun f => f.1 = some n).map (·.2))
    else none
  | .array xs =>
    if xs.length ≤ names.length then
      some ((List.range names.length).map fun i => xs[i]?)
    else none
  | _ => none

/-- The names in a map of requirements, in order and each once. A field that is absent is an empty map. -/
def requirements? : Option Source → Option (List String)
  | none => some []
  | some value@(.object fields) =>
    if value.depth < maxDepth && value.allAtoms Option.isSome Decimal.scalesFinitely then
      some ((fields.filterMap (·.1)).mergeSort fun a b => a ≤ b).eraseReps
    else none
  | some _ => none

/-- The required packages of a manifest: those that are needed to run, then those to develop. -/
def manifestNames? (text : List Char) : Option (List String) := do
  match ← record? ["require", "require-dev"] (← Json.parse? text) with
  | [run, develop] => return (← requirements? run) ++ (← requirements? develop)
  | _ => none

/-- The name of a package in a lock. -/
def packageName? (package : Source) : Option String := do
  match ← record? ["name"] package with
  | [some (.string (some name))] => some name
  | _ => none

/-- The names in a list of packages. A field that is absent is an empty list. -/
def packages? : Option Source → Option (List String)
  | none => some []
  | some (.array xs) => xs.mapM packageName?
  | some _ => none

/-- The packages of a lock: those that are needed to run, then those to develop. -/
def lockNames? (text : List Char) : Option (List String) := do
  match ← record? ["packages", "packages-dev"] (← Json.parse? text) with
  | [run, develop] => return (← packages? run) ++ (← packages? develop)
  | _ => none

end CodeSurvey.Composer
