import CodeSurvey.Analyzer.C

/-!
# C plus plus

Namespaces are packages, apart from those that say nothing about a project. Includes are read as in C.
-/

namespace CodeSurvey.Cpp

open Pattern

/-- Namespaces that say nothing about the architecture of a project. -/
def ignoredNamespaces : List String := ["std", "detail", "impl"]

def namespaceOpening : Pattern :=
  wordEdge ++ "namespace" ++ blanks1 ++ group 1 word1 ++ blanks ++ "\x7b"

def typeDeclaration : Pattern :=
  wordEdge ++ oneOf ["class", "struct", "enum" ++ blanks1 ++ "class", "enum", "union",
    "interface"] ++ blanks1 ++ word1

def templateOpening : Pattern := wordEdge ++ "template" ++ blanks ++ "<"

def createCall : Pattern := wordEdge ++ "Create" ++ word1 ++ blanks ++ "("

/-- A class that derives from an instance of a template. -/
def templateBase : Pattern :=
  "class" ++ blanks1 ++ group 1 word1 ++ blanks ++ ":" ++ blanks ++ "public" ++ blanks1 ++ word1 ++
    "<" ++ group 2 word1 ++ ">"

def crowRoute : Pattern :=
  "CROW_ROUTE" ++ blanks ++ "(" ++ blanks ++ "app," ++ blanks ++ "\"" ++
    group 1 (runOutside "\"" 1) ++ "\")"

def pistacheRoute : Pattern :=
  "Routes::" ++ group 1 (words ["Get", "Post", "Put", "Delete"]) ++ blanks ++ "(" ++ blanks ++
    "router," ++ blanks ++ "\"" ++ group 2 (runOutside "\"" 1) ++ "\""

def structureQuery : StructureQuery where
  typeKinds := ["class_specifier", "struct_specifier", "union_specifier", "enum_specifier"]
  packageKind? := some "namespace_definition"

def frameworks : List FrameworkRule := [
  ⟨"C++ STL (Standard Template Library)", ["<vector>", "<map>", "<unordered_map>", "<list>"]⟩,
  ⟨"C++ I/O Streams", ["<iostream>", "<fstream>"]⟩,
  ⟨"C++ Concurrency (std::thread)", ["<thread>", "<mutex>", "<future>"]⟩,
  ⟨"C++ Algorithms (std::algorithm)", ["<algorithm>"]⟩,
  ⟨"Boost", ["boost/", "boost::"]⟩,
  ⟨"Boost.Asio (Networking)", ["boost::asio"]⟩,
  ⟨"Boost.Filesystem", ["boost::filesystem"]⟩,
  ⟨"Qt Framework", ["#include <Q", "QApplication", "QObject", "Q_OBJECT"]⟩,
  ⟨"Qt Widgets", ["QWidget", "QMainWindow"]⟩,
  ⟨"Qt QML", ["QML", "QQuickView"]⟩,
  ⟨"OpenCV", ["<opencv", "cv::"]⟩,
  ⟨"Eigen", ["<Eigen/", "Eigen::"]⟩,
  ⟨"gRPC", ["<grpc++/", "grpc::"]⟩,
  ⟨"Protocol Buffers", [".proto", "google::protobuf"]⟩,
  ⟨"SQLite3", ["<sqlite3.h>", "sqlite3_"]⟩,
  ⟨"MySQL Connector/C++", ["mysqlx::", "<mysql_driver.h>"]⟩,
  ⟨"libpqxx (PostgreSQL)", ["pqxx::", "<pqxx/"]⟩,
  ⟨"Google Test (gtest)", ["gtest/gtest.h", "TEST(", "EXPECT_"]⟩,
  ⟨"Catch2", ["catch2/", "CATCH_CONFIG_MAIN", "TEST_CASE"]⟩,
  ⟨"doctest", ["doctest.h", "DOCTEST_CONFIG"]⟩,
  ⟨"spdlog", ["spdlog"]⟩,
  ⟨"log4cpp / log4cxx", ["log4cpp", "log4cxx"]⟩,
  ⟨"nlohmann/json", ["nlohmann/json", "nlohmann::json"]⟩,
  ⟨"RapidJSON", ["rapidjson"]⟩,
  ⟨"POCO C++ Libraries", ["Poco::", "<Poco/"]⟩,
  ⟨"CPR (C++ Requests)", ["cpr::", "<cpr/"]⟩,
  ⟨"SFML", ["SFML"]⟩,
  ⟨"SDL2", ["SDL_", "<SDL2/"]⟩,
  ⟨"OGRE 3D", ["Ogre::", "<Ogre/"]⟩,
  ⟨"OpenMP", ["<omp.h>", "#pragma omp"]⟩,
  ⟨"MPI", ["<mpi.h>", "MPI_Init"]⟩,
  ⟨"OpenGL", ["<GL/gl.h>", "glBegin"]⟩,
  ⟨"Vulkan", ["<vulkan/vulkan.h>", "vkCreateInstance"]⟩,
  ⟨"CUDA", ["<cuda_runtime.h>", "__global__"]⟩]

def designs : List DesignRule := [
  ⟨"Factory", ["factory"], []⟩,
  ⟨"Builder", ["builder"], [".build()"]⟩,
  ⟨"Observer", ["observer", "listener"], ["notify(", "subscribe("]⟩,
  ⟨"Strategy", ["strategy", "policy"], []⟩,
  ⟨"Decorator", ["decorator", "wrapper"], []⟩,
  ⟨"Repository", ["repository", "repo"], []⟩,
  ⟨"Service Layer", ["service"], []⟩,
  ⟨"MVC Controller", ["controller"], []⟩]

/-- The namespaces that are packages. -/
def namespaces (declared : List (List Char)) : List Fact :=
  ((declared.map String.ofList).filter (· ∉ ignoredNamespaces)).map .package

def specialFrameworks (text : List Char) : List Fact :=
  Fact.onlyIf (templateOpening.occursIn text) (.framework "C++ Templates / Metaprogramming") ++
    Fact.onlyIf (Text.contains text "<memory>" && Text.containsAny text ["shared_ptr", "unique_ptr"])
      (.framework "C++ Smart Pointers")

def specialDesigns (unit : SourceUnit) (text : List Char) : List Fact :=
  let name := unit.unitName
  let file := Text.lower unit.fileName.toList
  let has := Text.contains text
  Fact.onlyIf (has "static" && has "getInstance" && has "private:") (.pattern "Singleton" name) ++
    Fact.onlyIf (!Text.contains file "factory" && createCall.occursIn text)
      (.pattern "Factory" name) ++
    Fact.onlyIf (Text.contains file "command" && has "execute(") (.pattern "Command" name) ++
    Fact.onlyIf (has "Impl" && has "unique_ptr" && has "private:")
      (.pattern "PIMPL (Pointer to Implementation)" name) ++
    Fact.onlyIf ((templateBase.occurrences text).any fun m => m.group? 1 = m.group? 2)
      (.pattern "CRTP (Template Pattern)" name) ++
    Fact.onlyIf (Text.endsWith file ".hpp" && has "#ifndef" && has "#define")
      (.pattern "Header Guard / Module" name)

def tables (text : List Char) : List Fact :=
  (if Text.containsAny text ["sqlite3_exec", "sqlite3_prepare"] then
    tablesIn C.createdTable text "SQLite3" else []) ++
  (if Text.contains text "pqxx::" then tablesIn C.createdTable text "PostgreSQL" else [])

def endpoints (text : List Char) : List Fact :=
  let has := Text.contains text
  Fact.onlyIf (has "boost::beast::http" || has "beast::http::")
      (.endpoint "HTTP Server (Boost.Beast)") ++
    Fact.onlyIf (has "Poco::Net::HTTPServer" || has "Poco::Net::ServerSocket")
      (.endpoint "HTTP Server (POCO)") ++
    Fact.onlyIf (has "grpc::Server" || has "ServerBuilder") (.endpoint "gRPC Server") ++
    Fact.onlyIf (has "bind(" && has "listen(") (.endpoint "TCP Socket Server") ++
    pathRoutesIn crowRoute text "GET/POST" "Crow" ++
    methodRoutesIn pistacheRoute text "Pistache"

section

variable [Grammars]

def declarations (text : List Char) : Declarations :=
  declarationsBy .cpp structureQuery text (namespaceOpening.groupIn 1 text) (typeDeclaration.count text)

def analyze (unit : SourceUnit) : Reading :=
  let text := unit.text
  let declared := declarations text
  ⟨declared.fidelity,
    namespaces declared.packages ++
    .classes declared.typeCount ::
    C.includes (parentModule unit.directory) text ++
    frameworksIn text frameworks ++
    specialFrameworks text ++
    designsIn unit.fileName unit.unitName text designs ++
    specialDesigns unit text ++
    tables text ++
    endpoints text⟩

end

end CodeSurvey.Cpp
