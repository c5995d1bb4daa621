import CodeSurvey.Analyzer.Basic

/-!
# Java

Package and imports, entities that are kept in tables, and the endpoints of controllers with the path
that their class puts before them.
-/

namespace CodeSurvey.Java

open Pattern

def packageLine : Pattern :=
  lineIndent ++ "package" ++ blanks1 ++ group 1 dottedName ++ blanks ++ ";"

def importLine : Pattern :=
  lineIndent ++ "import" ++ blanks1 ++ optional ("static" ++ blanks1) ++ group 1 dottedName ++
    optional ".*" ++ blanks ++ ";"

def typeLine : Pattern :=
  lineStart ++ run .inLine 0 true ++ wordEdge ++ words ["class", "interface", "enum", "record"] ++
    blanks1 ++ word1 ++ run .inLine 0 true ++ lineEnd

def tableAnnotation : Pattern :=
  "@Table" ++ blanks ++ "(" ++ blanks ++ "name" ++ blanks ++ "=" ++ blanks ++ "\"" ++
    group 1 (runOutside "\"" 1) ++ "\""

def className : Pattern := wordEdge ++ "class" ++ blanks1 ++ group 1 asciiWord

/-- The name of a table that is created. Letters of either case are meant, and so are the two
characters that fold to one. -/
def createdTable : Pattern :=
  createTable ++ group 1 (run (.asciiWord ||| .among "ſ\u212A".toList) 1 true)

def mapping : Pattern :=
  "@" ++ group 1 (words ["Get", "Post", "Put", "Delete", "Patch", "Request"]) ++ "Mapping" ++
    blanks ++ "(" ++ blanks ++ optional (oneOf ["value" ++ blanks ++ "=" ++ blanks,
      "path" ++ blanks ++ "=" ++ blanks]) ++ quote ++ group 2 (runOutside "\"'" 1) ++ quote

def typeCharacter : CharClass := .word ||| .among "<>[], ?".toList

def methodName : Pattern :=
  optional (words ["public", "private", "protected"]) ++ blanks ++ run typeCharacter 1 true ++
    blanks1 ++ group 1 word1 ++ blanks ++ "("

def structureQuery : StructureQuery where
  typeKinds := ["class_declaration", "interface_declaration", "enum_declaration",
    "record_declaration", "annotation_type_declaration"]
  packageKind? := some "package_declaration"

def frameworks : List FrameworkRule := [
  ⟨"Spring Framework", ["org.springframework"]⟩,
  ⟨"Spring Boot", ["@SpringBootApplication"]⟩,
  ⟨"Spring MVC", ["@RestController", "@Controller"]⟩,
  ⟨"Spring Service", ["@Service"]⟩,
  ⟨"Spring Data", ["@Repository", "JpaRepository"]⟩,
  ⟨"Jakarta Servlet", ["jakarta.servlet"]⟩,
  ⟨"Jakarta Persistence (JPA)", ["jakarta.persistence"]⟩,
  ⟨"Java Servlet", ["javax.servlet"]⟩,
  ⟨"Java Persistence (JPA)", ["javax.persistence"]⟩,
  ⟨"Hibernate", ["org.hibernate"]⟩,
  ⟨"SLF4J", ["org.slf4j"]⟩,
  ⟨"Log4j", ["org.apache.logging.log4j"]⟩,
  ⟨"Java Util Logging", ["java.util.logging"]⟩,
  ⟨"JUnit", ["org.junit"]⟩,
  ⟨"TestNG", ["org.testng"]⟩,
  ⟨"Mockito", ["org.mockito"]⟩,
  ⟨"Jackson", ["com.fasterxml.jackson"]⟩,
  ⟨"Gson", ["com.google.gson"]⟩,
  ⟨"JDBC", ["java.sql"]⟩,
  ⟨"Apache Commons", ["org.apache.commons"]⟩,
  ⟨"Lombok", ["lombok."]⟩]

def designs : List DesignRule := [
  ⟨"Factory", ["factory"], ["createInstance", "create("]⟩,
  ⟨"Builder", ["builder"], ["public Builder", ".builder()"]⟩,
  ⟨"Observer", ["listener", "observer"], ["addListener", "addObserver"]⟩,
  ⟨"Strategy", ["strategy"], []⟩,
  ⟨"Adapter", ["adapter"], []⟩,
  ⟨"Decorator", ["decorator"], []⟩,
  ⟨"Repository", ["repository"], ["@Repository"]⟩,
  ⟨"Service Layer", ["service"], ["@Service"]⟩,
  ⟨"DTO/VO", ["dto", "vo"], []⟩]

/-- The package to which a class belongs by its full name. A name without a dot stands for itself. -/
def owningPackage (name : List Char) : List Char :=
  match Text.splitLast? '.' name with
  | some (owner@(_ :: _), _) => owner
  | _ => name

/-- Imports of classes outside the platform and outside the unit's own package. -/
def imports (package text : List Char) : List Fact :=
  (importLine.groupIn 1 text).filterMap fun imported =>
    if Text.startsWith imported "java." || Text.startsWith imported "javax." then none
    else
      let target := owningPackage imported
      if target = package then none else some (.depends (String.ofList package) target "import")

/-- Design patterns that take two signs together. -/
def specialDesigns (unit : String) (text : List Char) : List Fact :=
  Fact.onlyIf (Text.contains text "private static" && Text.contains text "getInstance()")
      (.pattern "Singleton" unit) ++
    Fact.onlyIf (Text.contains text "interface" && Text.contains (Text.lower text) "execute")
      (.pattern "Strategy" unit)

/-- The table of an entity: the one it names, else the one named after its first class. -/
def entityTable (text : List Char) : List Fact :=
  if Text.contains text "@Entity" then
    match firstGroup? tableAnnotation 1 text with
    | some name => [.table name "JPA Entity"]
    | none =>
      match firstGroup? className 1 text with
      | some name => [.table (snakeCaseFrom false name) "JPA Entity"]
      | none => []
  else []

/-- The HTTP method that a request mapping names in its own line or the two after it; `GET` where it
names none. -/
def requestMethod (window : List (List Char)) : String :=
  (["GET", "POST", "PUT", "DELETE", "PATCH"].find? fun verb =>
    window.any fun l => Text.contains l s!"RequestMethod.{verb}").getD "GET"

/-- The method declared in one of the four lines after a mapping. -/
def handler (following : List (List Char)) : List Char :=
  ((following.take 4).findSome? fun l => firstGroup? methodName 1 (Text.trim l)).getD
    "unknown".toList

/-- The endpoints that the lines of a class body map, each below the path of the class. -/
def mappedEndpoints (base : List Char) : List (List Char) → List Fact
  | [] => []
  | line :: following =>
    let rest := mappedEndpoints base following
    match mapping.find? line with
    | none => rest
    | some m =>
      match m.group? 1, m.group? 2 with
      | some verb, some path =>
        let method :=
          if verb = "Request".toList then (requestMethod (line :: following.take 2)).toList
          else upper verb
        .route method (base ++ path) (String.ofList (handler following)) :: rest
      | _, _ => rest

/-- A request mapping before the first class declaration gives the path of the class. -/
def classPath (header : List (List Char)) : List Char :=
  (header.findSome? fun l => do
    let m ← mapping.find? l
    if (← m.group? 1) = "Request".toList then m.group? 2 else none).getD []

def endpoints (text : List Char) : List Fact :=
  let lines := Text.lines text
  let header := lines.takeWhile fun l => !className.occursIn l
  mappedEndpoints (classPath header) (lines.drop header.length)

section

variable [Grammars]

def declarations (text : List Char) : Declarations :=
  declarationsBy .java structureQuery text (firstGroup? packageLine 1 text).toList (typeLine.count text)

/-- The package is the first one that is declared. -/
def analyze (unit : SourceUnit) : Reading :=
  let text := unit.text
  let declared := declarations text
  let package? := declared.packages.head?
  ⟨declared.fidelity,
    package?.toList.map .packageOf ++
    .classes declared.typeCount ::
    package?.toList.flatMap (imports · text) ++
    frameworksIn text frameworks ++
    designsIn unit.fileName unit.unitName text designs ++
    specialDesigns unit.unitName text ++
    entityTable text ++
    tablesIn createdTable text "SQL DDL" ++
    endpoints text⟩

end

end CodeSurvey.Java
