import CodeSurvey.Analyzer.Basic

/-!
# C

The directory is the module. Includes of local headers refer to other files; system headers only show
what libraries are in use.
-/

namespace CodeSurvey.C

open Pattern

def localInclude : Pattern :=
  lineIndent ++ "#" ++ blanks ++ "include" ++ blanks ++ "\"" ++ group 1 (runOutside "\"" 1) ++ "\""

def typeBody : Pattern :=
  wordEdge ++ words ["struct", "enum", "union"] ++ blanks1 ++ word1 ++ blanks ++ "\x7b"

def typedefWord : Pattern := wordEdge ++ "typedef" ++ wordEdge

def staticInstance : Pattern :=
  "static" ++ blanks1 ++ word1 ++ blanks ++ "*" ++ blanks ++ "instance" ++ blanks ++ "="

def createFunction : Pattern :=
  word1 ++ blanks ++ "*" ++ blanks ++ "create_" ++ word1 ++ blanks ++ "("

def functionPointer : Pattern := "void" ++ blanks ++ "(*" ++ word1 ++ ")" ++ blanks ++ "("

def stateCase : Pattern := "case" ++ blanks1 ++ word1 ++ "_STATE"

def createdTable : Pattern := createTable ++ group 1 word1

def curlUrl : Pattern := "CURLOPT_URL," ++ blanks ++ "\"" ++ group 1 (runOutside "\"" 1) ++ "\""

def structureQuery : StructureQuery where
  typeKinds := ["struct_specifier", "enum_specifier", "union_specifier", "type_definition"]
  packageKind? := none

def frameworks : List FrameworkRule := [
  ⟨"C Standard I/O (stdio.h)", ["<stdio.h>"]⟩,
  ⟨"C Standard Library (stdlib.h)", ["<stdlib.h>"]⟩,
  ⟨"C String Library (string.h)", ["<string.h>"]⟩,
  ⟨"C Math Library (math.h)", ["<math.h>"]⟩,
  ⟨"POSIX Threads (pthread)", ["<pthread.h>"]⟩,
  ⟨"POSIX API (unistd.h)", ["<unistd.h>"]⟩,
  ⟨"Socket API", ["<sys/socket.h>", "<winsock2.h>"]⟩,
  ⟨"libcurl", ["libcurl", "<curl/curl.h>"]⟩,
  ⟨"libuv", ["libuv", "<uv.h>"]⟩,
  ⟨"SQLite3", ["<sqlite3.h>"]⟩,
  ⟨"MySQL C API", ["<mysql.h>", "mysql_"]⟩,
  ⟨"PostgreSQL (libpq)", ["<libpq-fe.h>"]⟩,
  ⟨"CUnit", ["CUnit"]⟩,
  ⟨"cmocka", ["cmocka"]⟩,
  ⟨"Check", ["<check.h>", "START_TEST"]⟩,
  ⟨"OpenMP", ["<omp.h>", "#pragma omp"]⟩,
  ⟨"MPI", ["<mpi.h>", "MPI_Init"]⟩,
  ⟨"OpenGL", ["<GL/gl.h>", "<OpenGL/gl.h>"]⟩,
  ⟨"Vulkan", ["<vulkan/vulkan.h>"]⟩]

def designs : List DesignRule := [
  ⟨"Observer/Callback", [], ["(*callback)", "callback_fn"]⟩,
  ⟨"Utility", ["util", "helper"], []⟩,
  ⟨"Test", ["test", "spec"], []⟩]

/-- References to the local headers that a text includes. -/
def includes (module : String) (text : List Char) : List Fact :=
  (localInclude.groupIn 1 text).map fun header => .depends module header "#include"

def specialDesigns (unit : SourceUnit) (text : List Char) : List Fact :=
  let name := unit.unitName
  let has := Text.contains text
  Fact.onlyIf ((has "static " && has "getInstance") || staticInstance.occursIn text)
      (.pattern "Singleton" name) ++
    Fact.onlyIf (createFunction.occursIn text) (.pattern "Factory" name) ++
    Fact.onlyIf (functionPointer.occursIn text && !(has "(*callback)" || has "callback_fn"))
      (.pattern "Observer/Callback" name) ++
    Fact.onlyIf (has "switch" && has "state" && stateCase.occursIn text)
      (.pattern "State Machine" name) ++
    Fact.onlyIf
      (Text.endsWith (Text.lower unit.fileName.toList) ".h" && has "#ifndef" && has "#define")
      (.pattern "Header Guard / Module" name)

def tables (text : List Char) : List Fact :=
  (if Text.containsAny text ["sqlite3_exec", "sqlite3_prepare"] then
    tablesIn createdTable text "SQLite3" else []) ++
  (if Text.containsAny text ["mysql_query", "PQexec"] then
    tablesIn createdTable text "C DB API" else [])

def endpoints (text : List Char) : List Fact :=
  let has := Text.contains text
  (if has "curl_easy_setopt" then
    (curlUrl.groupIn 1 text).map fun url => .endpoint s!"HTTP (libcurl): {String.ofList url}"
    else []) ++
  Fact.onlyIf (has "bind(" && has "listen(") (.endpoint "TCP Socket Server (C Socket API)") ++
  Fact.onlyIf (has "mg_http_listen" || has "mg_listen") (.endpoint "HTTP Server (Mongoose C)")

section

variable [Grammars]

def declarations (text : List Char) : Declarations :=
  declarationsBy .c structureQuery text [] (typeBody.count text + typedefWord.count text)

def analyze (unit : SourceUnit) : Reading :=
  let text := unit.text
  let module := parentModule unit.directory
  let declared := declarations text
  ⟨declared.fidelity,
    .package module ::
    .classes declared.typeCount ::
    includes module text ++
    frameworksIn text frameworks ++
    designsIn unit.fileName unit.unitName text designs ++
    specialDesigns unit text ++
    tables text ++
    endpoints text⟩

end

end CodeSurvey.C
