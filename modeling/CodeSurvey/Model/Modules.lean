import CodeSurvey.Model.Basic

/-!
# Modules

Packages whose names end in the same segment form a module. The modules of a model follow from its
set of packages alone.
-/

namespace CodeSurvey

/-- The packages whose last segment is `name`: how many, and the one that sorts first. -/
structure Module where
  name : String
  firstPackage : String
  packageCount : Nat
deriving DecidableEq, Repr

/-- The characters between the segments of a package name, in any of the languages. -/
def isSegmentSeparator (c : Char) : Bool := c = '.' || c = '/' || c = '\\' || c = ':'

/-- The last segment of a package name that is not empty. -/
def lastSegment? (package : String) : Option String :=
  ((Text.pieces isSegmentSeparator package.toList).filter (· ≠ [])).getLast?.map String.ofList

namespace Model

/-- Puts a package into the module of its last segment. The first package put there names it. -/
def addToModule (found : SortedMap String Module) (package : String) : SortedMap String Module :=
  match lastSegment? package with
  | none => found
  | some name =>
    found.alter name fun
      | none => ⟨name, package, 1⟩
      | some m => { m with packageCount := m.packageCount + 1 }

/-- The modules in the order of their names. -/
def modules (m : Model) : List Module := (m.packages.keys.foldl addToModule ∅).values

end Model

end CodeSurvey
