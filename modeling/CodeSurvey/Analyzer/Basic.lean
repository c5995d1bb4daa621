import CodeSurvey.Grammar
import CodeSurvey.Model.Basic
import CodeSurvey.SourceUnit
import CodeSurvey.SnakeCase
import CodeSurvey.Pattern.Match

/-!
# Reading units

An analyzer reads one unit and reports facts; it sees no other unit and no model. This module holds
what the analyzers share: catalogues of markers for frameworks and design patterns, and the wording of
tables and routes.
-/

namespace CodeSurvey

/-- What an analyzer makes of one unit. -/
structure Reading where
  fidelity : Fidelity
  facts : List Fact

/-- The packages and types that a text declares, and how they were found. -/
structure Declarations where
  fidelity : Fidelity
  packages : List (List Char)
  typeCount : Nat

/-- Declarations are read off the syntax tree.  Without one, packages and types that patterns have found
stand in for them. -/
def declarationsBy [Grammars] (grammar : Grammar) (query : StructureQuery) (text : List Char)
    (packages : List (List Char)) (typeCount : Nat) : Declarations :=
  match Grammars.structure? grammar query text with
  | some s => ⟨.structured, s.packages, s.typeCount⟩
  | none => ⟨.heuristic, packages, typeCount⟩

/-- Text of which declarations are wanted is not a manifest. -/
theorem fidelity_declarationsBy_ne_manifest [Grammars] {grammar : Grammar} {query : StructureQuery}
    {text : List Char} {packages : List (List Char)} {typeCount : Nat} :
    (declarationsBy grammar query text packages typeCount).fidelity ≠ .manifest := by
  unfold declarationsBy
  split <;> exact nofun

/-- A framework that any of its markers gives away. -/
structure FrameworkRule where
  name : String
  markers : List String

/-- A design pattern that the file name or the text gives away. -/
structure DesignRule where
  name : String
  /-- Parts of file names, in lower case. -/
  nameHints : List String
  markers : List String

/-- The frameworks whose markers the text contains, each once. -/
def frameworksIn (text : List Char) (rules : List FrameworkRule) : List Fact :=
  (rules.filter fun r => Text.containsAny text r.markers).map fun r => .framework r.name

/-- The design patterns that a file name, in any case, or a text shows, each credited to the unit. -/
def designsIn (fileName unitName : String) (text : List Char) (rules : List DesignRule) : List Fact :=
  let fileName := Text.lower fileName.toList
  (rules.filter fun r => Text.containsAny fileName r.nameHints || Text.containsAny text r.markers).map
    fun r => .pattern r.name unitName

namespace Fact

/-- A fact that is learnt only under a condition. -/
def onlyIf (condition : Bool) (fact : Fact) : List Fact := if condition then [fact] else []

def depends (source : String) (target : List Char) (kind : String) : Fact :=
  .dependency ⟨source, String.ofList target, kind⟩

def packageOf (name : List Char) : Fact := .package (String.ofList name)

/-- A database table, and where its name was found. -/
def table (name : List Char) (origin : String) : Fact :=
  .schema s!"Table: {String.ofList name} ({origin})"

/-- A web route: method, path, and the framework or handler that serves it. -/
def route (method path : List Char) (server : String) : Fact :=
  .endpoint s!"{String.ofList method} {String.ofList path} ({server})"

end Fact

/-- ASCII letters in upper case. -/
def upper (s : List Char) : List Char := s.map Char.toUpper

/-- A table for each match of a pattern that captures the name of one. -/
def tablesIn (p : Pattern) (text : List Char) (origin : String) : List Fact :=
  (p.groupIn 1 text).map fun name => .table name origin

/-- A route for each match of a pattern that captures a method and then a path. -/
def methodRoutesIn (p : Pattern) (text : List Char) (framework : String) : List Fact :=
  (p.occurrences text).filterMap fun m => do
    let method ← m.group? 1
    let path ← m.group? 2
    return .route (upper method) path framework

/-- A route for each match of a pattern that captures a path alone. -/
def pathRoutesIn (p : Pattern) (text : List Char) (label framework : String) : List Fact :=
  (p.groupIn 1 text).map fun path => .route label.toList path framework

/-- What a group took in the first match. -/
def firstGroup? (p : Pattern) (number : Nat) (text : List Char) : Option (List Char) :=
  (p.find? text).bind (·.group? number)

namespace Pattern

/-- A dotted name of ASCII letters. -/
def dottedName : Pattern := run (.asciiWord ||| .exactly '.') 1 true

/-- Word characters and dots. -/
def dottedWord : Pattern := run (.word ||| .exactly '.') 1 true

def asciiWord : Pattern := run .asciiWord 1 true

/-- Begins a line, blanks apart. -/
def lineIndent : Pattern := lineStart ++ blanks

/-- `CREATE TABLE`, in either case, and the words that may stand before the name. -/
def createTable : Pattern :=
  anyCase "create" ++ blanks1 ++ anyCase "table" ++ blanks1 ++
    optional (anyCase "if" ++ blanks1 ++ anyCase "not" ++ blanks1 ++ anyCase "exists" ++ blanks1)

end Pattern

end CodeSurvey
