import CodeSurvey.Analyzer.Basic

/-!
# C sharp

Namespace and usings, entities of an object store, and the endpoints of controllers below the route of
their class.
-/

namespace CodeSurvey.CSharp

open Pattern

def namespaceLine : Pattern := lineIndent ++ "namespace" ++ blanks1 ++ group 1 dottedName

def usingLine : Pattern := lineIndent ++ "using" ++ blanks1 ++ group 1 dottedName ++ blanks ++ ";"

def typeDeclaration : Pattern :=
  wordEdge ++ words ["class", "interface", "struct", "enum", "record"] ++ blanks1 ++ word1

def instanceWord : Pattern := wordEdge ++ "Instance" ++ wordEdge

def tableAttribute : Pattern := "[Table(\"" ++ group 1 (runOutside "\"" 1) ++ "\")"

def className : Pattern := wordEdge ++ "class" ++ blanks1 ++ group 1 asciiWord

def classRoute : Pattern := "[Route(\"" ++ group 1 (runOutside "\"" 1) ++ "\")]"

def httpAttribute : Pattern :=
  "[Http" ++ group 1 (words ["Get", "Post", "Put", "Delete", "Patch"]) ++
    optional ("(\"" ++ group 2 (runOutside "\"" 0) ++ "\")") ++ "]"

def typeCharacter : CharClass := .word ||| .among "<>[],".toList

def methodName : Pattern :=
  optional (words ["public", "private", "protected"]) ++ blanks1 ++ run typeCharacter 1 true ++
    blanks1 ++ group 1 word1 ++ blanks ++ "("

def frameworks : List FrameworkRule := [
  ⟨"ASP.NET Core", ["Microsoft.AspNetCore"]⟩,
  ⟨"ASP.NET Core Web API", ["[ApiController]", "[Route"]⟩,
  ⟨"Entity Framework Core", ["Microsoft.EntityFrameworkCore", "DbContext"]⟩,
  ⟨".NET Framework", ["System.Web"]⟩,
  ⟨"Dependency Injection", ["IServiceCollection", "[Inject]"]⟩,
  ⟨"xUnit", ["using Xunit", "[Fact]"]⟩,
  ⟨"NUnit", ["using NUnit", "[Test]"]⟩,
  ⟨"Moq", ["using Moq"]⟩,
  ⟨"Microsoft.Extensions.Logging", ["ILogger"]⟩,
  ⟨"Json.NET (Newtonsoft)", ["Newtonsoft.Json"]⟩,
  ⟨"System.Text.Json", ["System.Text.Json"]⟩]

def designs : List DesignRule := [
  ⟨"Factory", ["factory"], ["Create("]⟩,
  ⟨"Builder", ["builder"], []⟩,
  ⟨"Repository", ["repository"], ["IRepository"]⟩,
  ⟨"Service Layer", ["service"], ["IService"]⟩,
  ⟨"DTO/VO", ["dto", "model"], []⟩,
  ⟨"MVC Controller", ["controller"], ["[ApiController]"]⟩]

/-- Usings of names outside the platform, whose namespaces all begin with `System`. -/
def usings (space text : List Char) : List Fact :=
  ((usingLine.groupIn 1 text).filter fun used => !Text.startsWith used "System").map fun used =>
    .depends (String.ofList space) used "using"

def specialDesigns (unit : String) (text : List Char) : List Fact :=
  Fact.onlyIf (Text.contains text "private static" && instanceWord.occursIn text)
    (.pattern "Singleton" unit)

/-- The table that an attribute names, else the one of the first class. -/
def entityTable (text : List Char) : List Fact :=
  if Text.containsAny text ["DbSet<", "[Table("] then
    match firstGroup? tableAttribute 1 text |>.orElse fun _ => firstGroup? className 1 text with
    | some name => [.table name "EF Core Entity"]
    | none => []
  else []

/-- The text without the slashes at its two ends. -/
def trimSlashes (s : List Char) : List Char :=
  ((s.dropWhile (· = '/')).reverse.dropWhile (· = '/')).reverse

/-- A path below a base path; either may be empty. -/
def joinRoutes (base path : List Char) : List Char :=
  if base = [] then path else if path = [] then base else base ++ '/' :: path

/-- The first method declared behind each of some matches, which come from left to right. `ahead` is the
first one behind an earlier place; it serves until a match ends behind its start. -/
def methodsBehind : (ahead : Option Match) → List Match → List (Option Match)
  | _, [] => []
  | ahead, m :: ms =>
    let ahead := ahead.bind fun found =>
      if m.stop.offset ≤ found.start.offset then some found else methodName.findFrom? m.stop
    ahead :: methodsBehind ahead ms

def endpoints (text : List Char) : List Fact :=
  let base := trimSlashes ((firstGroup? classRoute 1 text).getD [])
  let attributes := httpAttribute.occurrences text
  let methods := methodsBehind (methodName.find? text) attributes
  (attributes.zip methods).filterMap fun (m, declared?) => do
    let method ← m.group? 1
    let path := joinRoutes base (trimSlashes ((m.group? 2).getD []))
    let handler := (declared?.bind (·.group? 1)).getD "unknown".toList
    return .route (upper method) ('/' :: path) (String.ofList handler)

def analyze (unit : SourceUnit) : Reading :=
  let text := unit.text
  let space? := firstGroup? namespaceLine 1 text
  ⟨.heuristic,
    space?.toList.map .packageOf ++
    .classes (typeDeclaration.count text) ::
    space?.toList.flatMap (usings · text) ++
    frameworksIn text frameworks ++
    designsIn unit.fileName unit.unitName text designs ++
    specialDesigns unit.unitName text ++
    entityTable text ++
    endpoints text⟩

end CodeSurvey.CSharp
