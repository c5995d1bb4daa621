import CodeSurvey.Text.Basic

/-!
# Paths

A written path is a text with slashes between its components. Empty components and single dots say
nothing. This module reads written paths without looking at any disk: `components` lists what a path
says, and `Path.normalize` also carries out its double dots.
-/

namespace CodeSurvey

/-- A path in normal form: where it starts, and the names to go down from there. -/
structure Path where
  absolute : Bool
  names : List String
deriving DecidableEq, Repr

namespace Path

/-- Does a written path start at the root? -/
def isAbsolute (raw : String) : Bool := raw.toList.head? = some '/'

/-- The components of a written path, without those that say nothing. -/
def components (raw : String) : List String :=
  ((Text.pieces (· = '/') raw.toList).filter fun p => p ≠ [] && p ≠ ['.']).map String.ofList

/-- The last component of a written path, unless there is none or it leads upwards. -/
def fileName? (raw : String) : Option String := (components raw).getLast?.filter (· ≠ "..")

/-- One component read against the names before it: two dots take back a name, if there is one. -/
def enter (names : List String) (component : String) : List String :=
  if component = ".." then names.dropLast else names ++ [component]

/-- The normal form of a written path, read from left to right. -/
def normalize (raw : String) : Path := ⟨isAbsolute raw, (components raw).foldl enter []⟩

def root : Path := ⟨true, []⟩

/-- The written form: names with slashes between them, after a slash if the path is absolute. -/
def written (p : Path) : String := (if p.absolute then "/" else "") ++ "/".intercalate p.names

/-- Puts a relative path after a base, with one slash between them. -/
def extend (base relative : String) : String :=
  if base = "" || base.toList.getLast? = some '/' then base ++ relative
  else base ++ "/" ++ relative

/-- What `raw` means to someone at `base`: an absolute path stands for itself. -/
def join (base raw : String) : String := if isAbsolute raw then raw else extend base raw

end Path

end CodeSurvey
