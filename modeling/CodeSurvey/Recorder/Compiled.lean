import CodeSurvey.Analyzer.CSharp
import CodeSurvey.Analyzer.Cpp
import CodeSurvey.Analyzer.Java
import CodeSurvey.Analyzer.Kotlin
import CodeSurvey.Analyzer.Rust
import CodeSurvey.Recorder.Basic

/-!
# Recorders of compiled languages

Java, C sharp, C, C plus plus, Kotlin and Rust.
-/

namespace CodeSurvey

namespace Java

def recordImports (package text : List Char) : StateM Model Unit :=
  (importLine.groupIn 1 text).forM fun imported =>
    if Text.startsWith imported "java." || Text.startsWith imported "javax." then pure ()
    else
      let target := owningPackage imported
      when (target ≠ package) (tell (.depends (String.ofList package) target "import"))

def recordSpecialDesigns (unit : String) (text : List Char) : StateM Model Unit := do
  when (Text.contains text "private static" && Text.contains text "getInstance()") <|
    tell (.pattern "Singleton" unit)
  when (Text.contains text "interface" && Text.contains (Text.lower text) "execute") <|
    tell (.pattern "Strategy" unit)

def recordSchemas (text : List Char) : StateM Model Unit := do
  when (Text.contains text "@Entity") <|
    match firstGroup? tableAnnotation 1 text with
    | some name => tell (.table name "JPA Entity")
    | none =>
      (firstGroup? className 1 text).forM fun name =>
        tell (.table (snakeCaseFrom false name) "JPA Entity")
  recordTables createdTable text "SQL DDL"

/-- The mappings in the lines of a class body, each with the lines that follow it in sight. -/
def recordMappings (base : List Char) : List (List Char) → StateM Model Unit
  | [] => pure ()
  | line :: following => do
    (mapping.find? line).forM fun m =>
      (m.group? 1).forM fun verb =>
        (m.group? 2).forM fun path =>
          let method :=
            if verb = "Request".toList then (requestMethod (line :: following.take 2)).toList
            else upper verb
          tell (.route method (base ++ path) (String.ofList (handler following)))
    recordMappings base following

def recordEndpoints (text : List Char) : StateM Model Unit :=
  let lines := Text.lines text
  let header := lines.takeWhile fun l => !className.occursIn l
  recordMappings (classPath header) (lines.drop header.length)

def record [Grammars] (unit : SourceUnit) : StateM Model Fidelity := do
  let text := unit.text
  let declared := declarations text
  let package? := declared.packages.head?
  package?.forM fun package => tell (.packageOf package)
  tell (.classes declared.typeCount)
  package?.forM fun package => recordImports package text
  recordFrameworks text frameworks
  recordDesigns unit.fileName unit.unitName text designs
  recordSpecialDesigns unit.unitName text
  recordSchemas text
  recordEndpoints text
  return declared.fidelity

end Java

namespace CSharp

def recordUsings (space text : List Char) : StateM Model Unit :=
  (usingLine.groupIn 1 text).forM fun used =>
    when (!Text.startsWith used "System") <|
      tell (.depends (String.ofList space) used "using")

def recordSchemas (text : List Char) : StateM Model Unit := do
  when (Text.containsAny text ["DbSet<", "[Table("]) <|
    (firstGroup? tableAttribute 1 text |>.orElse fun _ => firstGroup? className 1 text).forM fun name =>
      tell (.table name "EF Core Entity")

def recordEndpoints (text : List Char) : StateM Model Unit :=
  let base := trimSlashes ((firstGroup? classRoute 1 text).getD [])
  let attributes := httpAttribute.occurrences text
  let methods := methodsBehind (methodName.find? text) attributes
  (attributes.zip methods).forM fun (m, declared?) =>
    (m.group? 1).forM fun method =>
      let path := joinRoutes base (trimSlashes ((m.group? 2).getD []))
      let handler := (declared?.bind (·.group? 1)).getD "unknown".toList
      tell (.route (upper method) ('/' :: path) (String.ofList handler))

def record (unit : SourceUnit) : StateM Model Fidelity := do
  let text := unit.text
  let space? := firstGroup? namespaceLine 1 text
  space?.forM fun space => tell (.packageOf space)
  tell (.classes (typeDeclaration.count text))
  space?.forM fun space => recordUsings space text
  recordFrameworks text frameworks
  recordDesigns unit.fileName unit.unitName text designs
  when (Text.contains text "private static" && instanceWord.occursIn text) <|
    tell (.pattern "Singleton" unit.unitName)
  recordSchemas text
  recordEndpoints text
  return .heuristic

end CSharp

namespace C

def recordIncludes (module : String) (text : List Char) : StateM Model Unit :=
  (localInclude.groupIn 1 text).forM fun header => tell (.depends module header "#include")

def recordSpecialDesigns (unit : SourceUnit) (text : List Char) : StateM Model Unit := do
  let name := unit.unitName
  let has := Text.contains text
  when ((has "static " && has "getInstance") || staticInstance.occursIn text) <|
    tell (.pattern "Singleton" name)
  when (createFunction.occursIn text) (tell (.pattern "Factory" name))
  when (functionPointer.occursIn text && !(has "(*callback)" || has "callback_fn")) <|
    tell (.pattern "Observer/Callback" name)
  when (has "switch" && has "state" && stateCase.occursIn text) <|
    tell (.pattern "State Machine" name)
  when (Text.endsWith (Text.lower unit.fileName.toList) ".h" && has "#ifndef" && has "#define") <|
    tell (.pattern "Header Guard / Module" name)

def recordSchemas (text : List Char) : StateM Model Unit := do
  when (Text.containsAny text ["sqlite3_exec", "sqlite3_prepare"]) <|
    recordTables createdTable text "SQLite3"
  when (Text.containsAny text ["mysql_query", "PQexec"]) <|
    recordTables createdTable text "C DB API"

def recordEndpoints (text : List Char) : StateM Model Unit := do
  let has := Text.contains text
  when (has "curl_easy_setopt") <|
    (curlUrl.groupIn 1 text).forM fun url => tell (.endpoint s!"HTTP (libcurl): {String.ofList url}")
  when (has "bind(" && has "listen(") (tell (.endpoint "TCP Socket Server (C Socket API)"))
  when (has "mg_http_listen" || has "mg_listen") (tell (.endpoint "HTTP Server (Mongoose C)"))

def record [Grammars] (unit : SourceUnit) : StateM Model Fidelity := do
  let text := unit.text
  let module := parentModule unit.directory
  let declared := declarations text
  tell (.package module)
  tell (.classes declared.typeCount)
  recordIncludes module text
  recordFrameworks text frameworks
  recordDesigns unit.fileName unit.unitName text designs
  recordSpecialDesigns unit text
  recordSchemas text
  recordEndpoints text
  return declared.fidelity

end C

namespace Cpp

def recordNamespaces (declared : List (List Char)) : StateM Model Unit :=
  declared.forM fun space =>
    when (String.ofList space ∉ ignoredNamespaces) (tell (.packageOf space))

def recordSpecialFrameworks (text : List Char) : StateM Model Unit := do
  when (templateOpening.occursIn text) (tell (.framework "C++ Templates / Metaprogramming"))
  when (Text.contains text "<memory>" && Text.containsAny text ["shared_ptr", "unique_ptr"]) <|
    tell (.framework "C++ Smart Pointers")

def recordSpecialDesigns (unit : SourceUnit) (text : List Char) : StateM Model Unit := do
  let name := unit.unitName
  let file := Text.lower unit.fileName.toList
  let has := Text.contains text
  when (has "static" && has "getInstance" && has "private:") (tell (.pattern "Singleton" name))
  when (!Text.contains file "factory" && createCall.occursIn text) (tell (.pattern "Factory" name))
  when (Text.contains file "command" && has "execute(") (tell (.pattern "Command" name))
  when (has "Impl" && has "unique_ptr" && has "private:") <|
    tell (.pattern "PIMPL (Pointer to Implementation)" name)
  when ((templateBase.occurrences text).any fun m => m.group? 1 = m.group? 2) <|
    tell (.pattern "CRTP (Template Pattern)" name)
  when (Text.endsWith file ".hpp" && has "#ifndef" && has "#define") <|
    tell (.pattern "Header Guard / Module" name)

def recordSchemas (text : List Char) : StateM Model Unit := do
  when (Text.containsAny text ["sqlite3_exec", "sqlite3_prepare"]) <|
    recordTables C.createdTable text "SQLite3"
  when (Text.contains text "pqxx::") (recordTables C.createdTable text "PostgreSQL")

def recordEndpoints (text : List Char) : StateM Model Unit := do
  let has := Text.contains text
  when (has "boost::beast::http" || has "beast::http::") (tell (.endpoint "HTTP Server (Boost.Beast)"))
  when (has "Poco::Net::HTTPServer" || has "Poco::Net::ServerSocket") <|
    tell (.endpoint "HTTP Server (POCO)")
  when (has "grpc::Server" || has "ServerBuilder") (tell (.endpoint "gRPC Server"))
  when (has "bind(" && has "listen(") (tell (.endpoint "TCP Socket Server"))
  recordPathRoutes crowRoute text "GET/POST" "Crow"
  recordMethodRoutes pistacheRoute text "Pistache"

def record [Grammars] (unit : SourceUnit) : StateM Model Fidelity := do
  let text := unit.text
  let declared := declarations text
  recordNamespaces declared.packages
  tell (.classes declared.typeCount)
  C.recordIncludes (parentModule unit.directory) text
  recordFrameworks text frameworks
  recordSpecialFrameworks text
  recordDesigns unit.fileName unit.unitName text designs
  recordSpecialDesigns unit text
  recordSchemas text
  recordEndpoints text
  return declared.fidelity

end Cpp

namespace Kotlin

def recordImports (package : String) (text : List Char) : StateM Model Unit :=
  (importLine.groupIn 1 text).forM fun imported =>
    when (root imported ∉ platformRoots) (tell (.depends package imported "import"))

def recordSpecialDesigns (unit : SourceUnit) (text : List Char) : StateM Model Unit := do
  let name := unit.unitName
  let file := Text.lower unit.fileName.toList
  when (topLevelObject.occursIn text && !Text.contains file "singleton") <|
    tell (.pattern "Singleton (object)" name)
  when (Text.contains file "factory" ||
      (Text.contains text "companion object" && Text.contains text "fun create(")) <|
    tell (.pattern "Factory" name)
  when (Text.contains text "suspend fun" && Text.contains file "service") <|
    tell (.pattern "Coroutine Service" name)

def recordEndpoints (text : List Char) : StateM Model Unit := do
  recordMethodRoutes springMapping text "Spring MVC"
  when (Text.containsAny text ["routing", "io.ktor"]) (recordMethodRoutes ktorRoute text "Ktor")
  recordMethodRoutes retrofitRoute text "Retrofit"

def recordSchemas (text : List Char) : StateM Model Unit := do
  recordTables jpaTable text "JPA Entity"
  recordTables exposedTable text "Exposed"
  when (Text.contains text "androidx.room") (recordTables roomEntity text "Room")

def record (unit : SourceUnit) : StateM Model Fidelity := do
  let text := unit.text
  let package := (firstGroup? packageLine 1 text).elim (parentModule unit.directory) String.ofList
  tell (.package package)
  tell (.classes (typeDeclaration.count text))
  recordImports package text
  recordFrameworks text frameworks
  when (Text.endsWith unit.fileName.toList ".kts" && Text.contains text "plugins \x7b") <|
    tell (.framework "Gradle Kotlin DSL")
  recordDesigns unit.fileName unit.unitName text designs
  recordSpecialDesigns unit text
  recordEndpoints text
  recordSchemas text
  return .heuristic

end Kotlin

namespace Rust

/-- The dependencies named by the lines of a manifest. `inTable` says whether the nearest header before
the line opened a table of dependencies. -/
def recordManifest (inTable : Bool) : List (List Char) → StateM Model Unit
  | [] => pure ()
  | line :: rest => do
    let line := Text.trim line
    match firstGroup? tableHeader 1 line with
    | some header =>
      let header := Text.trim header
      (headerDependency? header).forM fun name => tell (.depends "Cargo.toml" name "dependency")
      recordManifest (String.ofList header ∈ dependencyTables) rest
    | none =>
      when inTable <|
        (firstGroup? manifestKey 1 line).forM fun key => tell (.depends "Cargo.toml" key "dependency")
      recordManifest inTable rest

def recordUses (crate : String) (text : List Char) : StateM Model Unit := do
  (useLine.groupIn 1 text).forM fun root =>
    when (String.ofList root ∉ localRoots) (tell (.depends crate root "use"))
  (externCrate.groupIn 1 text).forM fun name => tell (.depends crate name "extern_crate")

def recordSpecialDesigns (unit : SourceUnit) (text : List Char) : StateM Model Unit := do
  let name := unit.unitName
  let file := Text.lower unit.fileName.toList
  when (Text.contains file "state" || stateEnum.occursIn text) <|
    tell (.pattern "State / Typestate" name)
  when (Text.contains file "factory" ||
      (Text.contains text "fn new(" && Text.contains text "-> Self")) <|
    tell (.pattern "Factory" name)

def recordEndpoints (text : List Char) : StateM Model Unit := do
  recordMethodRoutes attributeRoute text (if Text.contains text "rocket" then "Rocket" else "Actix-Web")
  recordMethodRoutes axumRoute text "Axum"
  (warpPath.groupIn 1 text).forM fun path => tell (.route "PATH".toList ('/' :: path) "Warp")

def recordSchemas (text : List Char) : StateM Model Unit := do
  recordTables dieselTable text "Diesel"
  when (Text.contains text "sqlx::") <|
    (sqlTable.groupIn 1 text).forM fun table =>
      when (String.ofList (Text.lower table) ∉ queryWords) (tell (.table table "SQLx"))

def record [Grammars] (unit : SourceUnit) : StateM Model Fidelity := do
  let text := unit.text
  if Text.lower unit.fileName.toList = "cargo.toml".toList then
    recordManifest false (Text.lines text)
    return .manifest
  else
    let crate := parentModule unit.directory
    let declared := declarations text
    tell (.package (declared.packages.head?.elim crate String.ofList))
    tell (.classes declared.typeCount)
    recordUses crate text
    recordFrameworks text frameworks
    recordDesigns unit.fileName unit.unitName text designs
    recordSpecialDesigns unit text
    recordEndpoints text
    recordSchemas text
    return declared.fidelity

end Rust

end CodeSurvey
