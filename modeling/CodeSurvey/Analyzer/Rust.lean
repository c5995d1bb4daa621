import CodeSurvey.Analyzer.Basic

/-!
# Rust

The first module that a file declares is its package, and uses name the crates it needs. `Cargo.toml`
is a manifest: its dependency tables are scanned line by line.
-/

namespace CodeSurvey.Rust

open Pattern

/-- Path roots that never name another crate. -/
def localRoots : List String := ["std", "core", "alloc", "self", "super", "crate"]

/-- Tables of a manifest that hold dependencies. -/
def dependencyTables : List String := ["dependencies", "dev-dependencies", "build-dependencies"]

/-- The beginning of a declaration that may be public. -/
def declaration : Pattern :=
  lineIndent ++ optional ("pub" ++ optional ("(" ++ runOutside ")" 0 ++ ")") ++ blanks1)

def useLine : Pattern := declaration ++ "use" ++ blanks1 ++ optional "::" ++ group 1 word1

def externCrate : Pattern :=
  lineIndent ++ "extern" ++ blanks1 ++ "crate" ++ blanks1 ++ group 1 word1

def modLine : Pattern := declaration ++ "mod" ++ blanks1 ++ group 1 word1

def typeDeclaration : Pattern :=
  declaration ++ words ["struct", "enum", "trait", "union"] ++ blanks1 ++ word1

def stateEnum : Pattern := "enum" ++ blanks1 ++ word1 ++ "State" ++ wordEdge

/-- The first segment of a key and what stands before the sign that gives it a value. -/
def manifestKey : Pattern :=
  textStart ++ group 1 (one .asciiWord ++ run (.word ||| .exactly '-') 0 true) ++
    blanks ++ "="

def tableHeader : Pattern := textStart ++ "[" ++ group 1 (runOutside "]" 1) ++ "]"

def verb (number : Nat) : Pattern := group number (words ["get", "post", "put", "patch", "delete"])

def attributeRoute : Pattern :=
  "#[" ++ verb 1 ++ "(" ++ blanks ++ "\"" ++ group 2 (runOutside "\"" 1) ++ "\""

def axumRoute : Pattern :=
  ".route(" ++ blanks ++ "\"" ++ group 2 (runOutside "\"" 1) ++ "\"," ++ blanks ++ verb 1 ++ "("

def warpPath : Pattern :=
  "warp::path(" ++ blanks ++ "\"" ++ group 1 (runOutside "\"" 1) ++ "\"" ++ blanks ++ ")"

def dieselTable : Pattern :=
  lineIndent ++ optional "diesel::" ++ "table!" ++ blanks ++ "\x7b" ++ blanks ++
    optional (dottedWord ++ ".") ++ group 1 word1 ++ blanks ++ "("

def sqlTable : Pattern :=
  wordEdge ++ wordsAnyCase ["from", "into", "update"] ++ blanks1 ++ group 1 word1

def structureQuery : StructureQuery where
  typeKinds := ["struct_item", "enum_item", "trait_item", "union_item"]
  packageKind? := some "mod_item"

def frameworks : List FrameworkRule := [
  ⟨"Tokio (Async Runtime)", ["tokio::", "use tokio", "#[tokio::main]"]⟩,
  ⟨"async-std", ["async_std"]⟩,
  ⟨"Actix-Web", ["actix_web"]⟩,
  ⟨"Axum", ["axum::", "use axum"]⟩,
  ⟨"Rocket", ["rocket::", "#[launch]", "use rocket"]⟩,
  ⟨"Warp", ["warp::"]⟩,
  ⟨"Hyper (HTTP)", ["hyper::"]⟩,
  ⟨"Tide", ["tide::"]⟩,
  ⟨"Serde (Serialization)", ["serde::", "use serde", "derive(Serialize", "derive(Deserialize"]⟩,
  ⟨"serde_json", ["serde_json"]⟩,
  ⟨"Diesel (ORM)", ["diesel::", "use diesel"]⟩,
  ⟨"SQLx", ["sqlx::", "use sqlx"]⟩,
  ⟨"SeaORM", ["sea_orm"]⟩,
  ⟨"Rusqlite (SQLite)", ["rusqlite"]⟩,
  ⟨"MongoDB (Rust)", ["mongodb::"]⟩,
  ⟨"Redis (Rust)", ["redis::"]⟩,
  ⟨"Reqwest (HTTP Client)", ["reqwest"]⟩,
  ⟨"Ureq (HTTP Client)", ["ureq::"]⟩,
  ⟨"Clap (CLI)", ["clap::", "use clap", "derive(Parser"]⟩,
  ⟨"StructOpt (CLI)", ["structopt", "StructOpt"]⟩,
  ⟨"Rayon (Parallelism)", ["rayon::", "use rayon"]⟩,
  ⟨"Crossbeam (Concurrency)", ["crossbeam"]⟩,
  ⟨"Tonic (gRPC)", ["tonic::"]⟩,
  ⟨"Prost (Protocol Buffers)", ["prost::"]⟩,
  ⟨"Rust Built-in Test", ["#[test]", "#[cfg(test)]"]⟩,
  ⟨"Mockall (Mocking)", ["mockall"]⟩,
  ⟨"Proptest (Property Testing)", ["proptest"]⟩,
  ⟨"log (Logging Facade)", ["log::", "use log;"]⟩,
  ⟨"Tracing (Observability)", ["tracing::", "use tracing"]⟩,
  ⟨"env_logger", ["env_logger"]⟩,
  ⟨"Bevy (Game Engine)", ["bevy::"]⟩,
  ⟨"no_std (Embedded/Bare Metal)", ["#![no_std]"]⟩,
  ⟨"embedded-hal", ["embedded_hal"]⟩,
  ⟨"wasm-bindgen (WebAssembly)", ["wasm_bindgen"]⟩,
  ⟨"web-sys", ["web_sys"]⟩]

def designs : List DesignRule := [
  ⟨"Builder", ["builder"], ["fn builder(", "fn build("]⟩,
  ⟨"Strategy (Trait Object)", ["strategy"], ["dyn "]⟩,
  ⟨"Command", ["command", "cmd"], []⟩,
  ⟨"Observer / Event", ["event", "listener"], ["EventEmitter"]⟩,
  ⟨"Singleton (OnceLock/once_cell)", [], ["once_cell", "lazy_static", "OnceCell", "OnceLock"]⟩,
  ⟨"Repository", ["repository", "repo"], []⟩,
  ⟨"Service Layer", ["service"], []⟩,
  ⟨"Middleware", ["middleware"], ["from_fn", "impl<S> Transform"]⟩,
  ⟨"Iterator", [], ["impl Iterator", "fn next("]⟩,
  ⟨"Error Handling (thiserror/anyhow)", [], ["thiserror", "anyhow", "impl std::error::Error",
    "impl Error for"]⟩]

/-- The text without the quotes at its two ends. -/
def trimQuotes (s : List Char) : List Char :=
  ((s.dropWhile (· = '"')).reverse.dropWhile (· = '"')).reverse

/-- A table header that names a dependency by itself, such as `[dependencies.name]`. -/
def headerDependency? (header : List Char) : Option (List Char) :=
  match Text.splitFirst? '.' header with
  | some (table, name) =>
    if String.ofList table ∈ dependencyTables then some (trimQuotes name) else none
  | none => none

/-- The dependencies named by the lines of a manifest. `inTable` says whether the nearest header before
the line opened a table of dependencies. -/
def manifestNames (inTable : Bool) : List (List Char) → List (List Char)
  | [] => []
  | line :: rest =>
    let line := Text.trim line
    match firstGroup? tableHeader 1 line with
    | some header =>
      let header := Text.trim header
      (headerDependency? header).toList ++
        manifestNames (String.ofList header ∈ dependencyTables) rest
    | none =>
      (if inTable then (firstGroup? manifestKey 1 line).toList else []) ++ manifestNames inTable rest

def manifest (text : List Char) : List Fact :=
  (manifestNames false (Text.lines text)).map (Fact.depends "Cargo.toml" · "dependency")

def uses (crate : String) (text : List Char) : List Fact :=
  ((useLine.groupIn 1 text).filter fun root => String.ofList root ∉ localRoots).map
      (Fact.depends crate · "use") ++
    (externCrate.groupIn 1 text).map (Fact.depends crate · "extern_crate")

def specialDesigns (unit : SourceUnit) (text : List Char) : List Fact :=
  let name := unit.unitName
  let file := Text.lower unit.fileName.toList
  Fact.onlyIf (Text.contains file "state" || stateEnum.occursIn text)
      (.pattern "State / Typestate" name) ++
    Fact.onlyIf
      (Text.contains file "factory" ||
        (Text.contains text "fn new(" && Text.contains text "-> Self"))
      (.pattern "Factory" name)

def endpoints (text : List Char) : List Fact :=
  methodRoutesIn attributeRoute text (if Text.contains text "rocket" then "Rocket" else "Actix-Web") ++
    methodRoutesIn axumRoute text "Axum" ++
    (warpPath.groupIn 1 text).map fun path => .route "PATH".toList ('/' :: path) "Warp"

/-- Words of a query language that may follow where a table is expected. -/
def queryWords : List String := ["select", "where", "set"]

def schemas (text : List Char) : List Fact :=
  tablesIn dieselTable text "Diesel" ++
    (if Text.contains text "sqlx::" then
      ((sqlTable.groupIn 1 text).filter fun t => String.ofList (Text.lower t) ∉ queryWords).map
        (Fact.table · "SQLx")
      else [])

section

variable [Grammars]

def declarations (text : List Char) : Declarations :=
  declarationsBy .rust structureQuery text (firstGroup? modLine 1 text).toList (typeDeclaration.count text)

/-- The package is the first module that is declared, or else the directory. -/
def analyze (unit : SourceUnit) : Reading :=
  let text := unit.text
  if Text.lower unit.fileName.toList = "cargo.toml".toList then ⟨.manifest, manifest text⟩
  else
    let crate := parentModule unit.directory
    let declared := declarations text
    ⟨declared.fidelity,
      .package (declared.packages.head?.elim crate String.ofList) ::
      .classes declared.typeCount ::
      uses crate text ++
      frameworksIn text frameworks ++
      designsIn unit.fileName unit.unitName text designs ++
      specialDesigns unit text ++
      endpoints text ++
      schemas text⟩

end

end CodeSurvey.Rust
