import CodeSurvey.Analyzer
import CodeSurvey.Proofs.Pattern.Groups
import CodeSurvey.Proofs.Text.Slices

/-!
# Checked readings

The analyzers once more, with every group that they take for granted and every slice that
they make by numbers.  A reading that would stop the program on the way is `none`; none
is, whatever path and text an analyzer is given.
-/

namespace CodeSurvey

/-- Where there is no syntax tree, packages are read off groups that may be taken for granted. -/
def checkedDeclarationsBy [Grammars] (grammar : Grammar) (query : StructureQuery) (text : List Char)
    (packages : Option (List (List Char))) (typeCount : Nat) : Option Declarations :=
  match Grammars.structure? grammar query text with
  | some s => some ⟨.structured, s.packages, s.typeCount⟩
  | none => packages.map (⟨.heuristic, ·, typeCount⟩)

theorem checkedDeclarationsBy_some [Grammars] (grammar : Grammar) (query : StructureQuery)
    (text : List Char) (packages : List (List Char)) (typeCount : Nat) :
    checkedDeclarationsBy grammar query text (some packages) typeCount =
      some (declarationsBy grammar query text packages typeCount) := by
  rw [checkedDeclarationsBy, declarationsBy]
  cases Grammars.structure? grammar query text <;> rfl

namespace C

def checkedIncludes (module : String) (text : List Char) : Option (List Fact) := do
  let headers ← localInclude.checkedGroupIn 1 text
  return headers.map fun header ↦ .depends module header "#include"

def checkedEndpoints (text : List Char) : Option (List Fact) := do
  let has := Text.contains text
  let urls ← if has "curl_easy_setopt" then curlUrl.checkedGroupIn 1 text else some []
  return urls.map (fun url ↦ .endpoint s!"HTTP (libcurl): {String.ofList url}") ++
    Fact.onlyIf (has "bind(" && has "listen(") (.endpoint "TCP Socket Server (C Socket API)") ++
    Fact.onlyIf (has "mg_http_listen" || has "mg_listen") (.endpoint "HTTP Server (Mongoose C)")

def checkedAnalyze [Grammars] (unit : SourceUnit) : Option Reading := do
  let text := unit.text
  let module := parentModule (← unit.checkedDirectory)
  let includes ← checkedIncludes module text
  let name ← unit.checkedUnitName
  let endpoints ← checkedEndpoints text
  let declared := declarations text
  return ⟨declared.fidelity,
    .package module ::
    .classes declared.typeCount ::
    includes ++
    frameworksIn text frameworks ++
    designsIn unit.fileName name text designs ++
    specialDesigns unit text ++
    tables text ++
    endpoints⟩

variable (text : List Char)

theorem checkedIncludes_eq (module : String) : checkedIncludes module text = some (includes module text) := by
  rw [checkedIncludes, Pattern.checkedGroupIn_eq rfl]
  rfl

theorem checkedEndpoints_eq : checkedEndpoints text = some (endpoints text) := by
  rw [checkedEndpoints, endpoints, Pattern.checkedGroupIn_eq rfl]
  split <;> rfl

theorem checkedAnalyze_eq [Grammars] (u : SourceUnit) : checkedAnalyze u = some (analyze u) := by
  rw [checkedAnalyze, u.checkedDirectory_eq, u.checkedUnitName_eq, checkedEndpoints_eq]
  dsimp only [Option.bind_eq_bind, Option.bind_some]
  rw [checkedIncludes_eq]
  rfl

end C

namespace Cpp

def checkedDeclarations [Grammars] (text : List Char) : Option Declarations :=
  checkedDeclarationsBy .cpp structureQuery text (namespaceOpening.checkedGroupIn 1 text)
    (typeDeclaration.count text)

/-- Does a class derive from an instance of a template with itself? -/
def checkedSelfBase (text : List Char) : Option Bool :=
  (templateBase.occurrences text).anyM fun m ↦ do
    let derived ← m.group? 1
    let argument ← m.group? 2
    return derived = argument

def checkedSpecialDesigns (unit : SourceUnit) (text : List Char) : Option (List Fact) := do
  let name ← unit.checkedUnitName
  let file := Text.lower unit.fileName.toList
  let has := Text.contains text
  let selfBase ← checkedSelfBase text
  return Fact.onlyIf (has "static" && has "getInstance" && has "private:") (.pattern "Singleton" name) ++
    Fact.onlyIf (!Text.contains file "factory" && createCall.occursIn text) (.pattern "Factory" name) ++
    Fact.onlyIf (Text.contains file "command" && has "execute(") (.pattern "Command" name) ++
    Fact.onlyIf (has "Impl" && has "unique_ptr" && has "private:")
      (.pattern "PIMPL (Pointer to Implementation)" name) ++
    Fact.onlyIf selfBase (.pattern "CRTP (Template Pattern)" name) ++
    Fact.onlyIf (Text.endsWith file ".hpp" && has "#ifndef" && has "#define")
      (.pattern "Header Guard / Module" name)

def checkedEndpoints (text : List Char) : Option (List Fact) := do
  let has := Text.contains text
  let paths ← crowRoute.checkedGroupIn 1 text
  let routes ← checkedMethodRoutesIn pistacheRoute text "Pistache"
  return Fact.onlyIf (has "boost::beast::http" || has "beast::http::")
      (.endpoint "HTTP Server (Boost.Beast)") ++
    Fact.onlyIf (has "Poco::Net::HTTPServer" || has "Poco::Net::ServerSocket")
      (.endpoint "HTTP Server (POCO)") ++
    Fact.onlyIf (has "grpc::Server" || has "ServerBuilder") (.endpoint "gRPC Server") ++
    Fact.onlyIf (has "bind(" && has "listen(") (.endpoint "TCP Socket Server") ++
    paths.map (fun path ↦ .route "GET/POST".toList path "Crow") ++
    routes

def checkedAnalyze [Grammars] (unit : SourceUnit) : Option Reading := do
  let text := unit.text
  let declared ← checkedDeclarations text
  let includes ← C.checkedIncludes (parentModule (← unit.checkedDirectory)) text
  let name ← unit.checkedUnitName
  let special ← checkedSpecialDesigns unit text
  let endpoints ← checkedEndpoints text
  return ⟨declared.fidelity,
    namespaces declared.packages ++
    .classes declared.typeCount ::
    includes ++
    frameworksIn text frameworks ++
    specialFrameworks text ++
    designsIn unit.fileName name text designs ++
    special ++
    tables text ++
    endpoints⟩

variable (text : List Char)

theorem checkedDeclarations_eq [Grammars] : checkedDeclarations text = some (declarations text) := by
  rw [checkedDeclarations, Pattern.checkedGroupIn_eq rfl, checkedDeclarationsBy_some]
  rfl

theorem checkedSelfBase_eq : checkedSelfBase text =
    some ((templateBase.occurrences text).any fun m ↦ m.group? 1 = m.group? 2) := by
  refine anyM_eq_any fun m hm ↦ ?_
  obtain ⟨derived, argument, hderived, hargument⟩ := Pattern.exists_groups rfl rfl hm
  rw [hderived, hargument]
  simp

theorem checkedSpecialDesigns_eq (u : SourceUnit) :
    checkedSpecialDesigns u text = some (specialDesigns u text) := by
  rw [checkedSpecialDesigns, u.checkedUnitName_eq, checkedSelfBase_eq]
  rfl

theorem checkedEndpoints_eq : checkedEndpoints text = some (endpoints text) := by
  rw [checkedEndpoints, Pattern.checkedGroupIn_eq rfl, checkedMethodRoutesIn_eq rfl rfl]
  rfl

theorem checkedAnalyze_eq [Grammars] (u : SourceUnit) : checkedAnalyze u = some (analyze u) := by
  rw [checkedAnalyze, checkedDeclarations_eq, u.checkedDirectory_eq, u.checkedUnitName_eq,
    checkedSpecialDesigns_eq, checkedEndpoints_eq]
  dsimp only [Option.bind_eq_bind, Option.bind_some]
  rw [C.checkedIncludes_eq]
  rfl

end Cpp

namespace CSharp

def checkedUsings (space text : List Char) : Option (List Fact) := do
  let names ← usingLine.checkedGroupIn 1 text
  return (names.filter fun used ↦ !Text.startsWith used "System").map fun used ↦
    .depends (String.ofList space) used "using"

/-- The first method declared behind each of some matches, for which the text is cut where
the match ends. -/
def checkedMethodsBehind (text : List Char) : Option Match → List Match → Option (List (Option Match))
  | _, [] => some []
  | ahead, m :: ms => do
    let rest ← Text.dropBytes? (Text.byteLength (text.take m.stop.offset)) text
    let ahead := ahead.bind fun found ↦
      if m.stop.offset ≤ found.start.offset then some found
      else methodName.findFrom? { m.stop with rest }
    let later ← checkedMethodsBehind text ahead ms
    return ahead :: later

def checkedEndpoints (text : List Char) : Option (List Fact) := do
  let base := trimSlashes ((firstGroup? classRoute 1 text).getD [])
  let attributes := httpAttribute.occurrences text
  let methods ← checkedMethodsBehind text (methodName.find? text) attributes
  (attributes.zip methods).mapM fun (m, declared?) ↦ do
    let method ← m.group? 1
    let path := joinRoutes base (trimSlashes ((m.group? 2).getD []))
    let handler := (declared?.bind (·.group? 1)).getD "unknown".toList
    return .route (upper method) ('/' :: path) (String.ofList handler)

def checkedAnalyze (unit : SourceUnit) : Option Reading := do
  let text := unit.text
  let space? := firstGroup? namespaceLine 1 text
  let usings ← space?.toList.mapM (checkedUsings · text)
  let name ← unit.checkedUnitName
  let endpoints ← checkedEndpoints text
  return ⟨.heuristic,
    space?.toList.map .packageOf ++
    .classes (typeDeclaration.count text) ::
    usings.flatten ++
    frameworksIn text frameworks ++
    designsIn unit.fileName name text designs ++
    specialDesigns name text ++
    entityTable text ++
    endpoints⟩

variable (text : List Char)

theorem checkedUsings_eq (space : List Char) : checkedUsings space text = some (usings space text) := by
  rw [checkedUsings, Pattern.checkedGroupIn_eq rfl]
  rfl

theorem checkedMethodsBehind_eq {text : List Char} {ms : List Match} (h : ∀ m ∈ ms, m.stop.IsIn text)
    (ahead : Option Match) :
    checkedMethodsBehind text ahead ms = some (methodsBehind ahead ms) := by
  induction ms generalizing ahead with
  | nil => rfl
  | cons m ms ih =>
    obtain ⟨hm, hms⟩ := List.forall_mem_cons.mp h
    -- The match ends between two characters, so the cut leaves what the search has left there.
    have hcut : Text.dropBytes? (Text.byteLength (text.take m.stop.offset)) text = some m.stop.rest := by
      rw [hm.rest_eq]
      exact (congrArg _ (List.take_append_drop ..).symm).trans (Text.dropBytes?_byteLength ..)
    rw [checkedMethodsBehind, hcut]
    dsimp only [Option.bind_eq_bind, Option.bind_some]
    rw [ih hms]
    rfl

theorem checkedEndpoints_eq : checkedEndpoints text = some (endpoints text) := by
  have hin : ∀ m ∈ httpAttribute.occurrences text, m.stop.IsIn text := fun m hm ↦
    (Match.isIn_of_mem_occurrences hm).2
  rw [checkedEndpoints, checkedMethodsBehind_eq hin]
  refine mapM_eq_filterMap fun pair hpair ↦ ?_
  have hm : pair.1 ∈ httpAttribute.occurrences text := (List.of_mem_zip hpair).1
  have hgroup : httpAttribute.hasGroup 1 = true := rfl
  obtain ⟨method, hmethod⟩ :=
    Option.isSome_iff_exists.mp (Pattern.isSome_group?_of_mem_occurrences hgroup hm)
  dsimp only
  rw [hmethod]
  rfl

theorem checkedAnalyze_eq (u : SourceUnit) : checkedAnalyze u = some (analyze u) := by
  rw [checkedAnalyze, mapM_eq_map (checkedUsings_eq u.text), u.checkedUnitName_eq, checkedEndpoints_eq]
  rfl

end CSharp

namespace Java

def checkedOwningPackage (name : List Char) : Option (List Char) := Text.checkedStem '.' name

/-- What an import says about the unit, if anything. -/
def checkedImport (package imported : List Char) : Option (Option Fact) :=
  if Text.startsWith imported "java." || Text.startsWith imported "javax." then some none
  else do
    let target ← checkedOwningPackage imported
    return if target = package then none else some (.depends (String.ofList package) target "import")

def checkedImports (package text : List Char) : Option (List Fact) := do
  let imported ← importLine.checkedGroupIn 1 text
  let facts ← imported.mapM (checkedImport package)
  return facts.reduceOption

def checkedHandler (window : List (List Char)) : Option (List Char) := do
  let found ← window.findSomeM? fun l ↦ methodName.checkedFirstGroup 1 (Text.trim l)
  return found.getD "unknown".toList

/-- The HTTP method of a mapping in the line with a given number. -/
def checkedMethod (lines : List (List Char)) (i : Nat) (verb : List Char) : Option (List Char) :=
  if verb = "Request".toList then do
    let window ← slice? lines i (min lines.length (i + 3))
    return (requestMethod window).toList
  else some (upper verb)

/-- The endpoint that the line with a given number maps, if it maps one. -/
def checkedMapped (base : List Char) (lines : List (List Char)) (i : Nat) (line : List Char) :
    Option (Option Fact) :=
  match mapping.find? line with
  | none => some none
  | some m => do
    let verb ← m.group? 1
    let method ← checkedMethod lines i verb
    let handler ← checkedHandler (← slice? lines (i + 1) (min lines.length (i + 5)))
    let path ← m.group? 2
    return some (.route method (base ++ path) (String.ofList handler))

/-- The endpoints of the lines from one of them on, of which the number is given. -/
def checkedMappedEndpoints (base : List Char) (lines : List (List Char)) :
    Nat → List (List Char) → Option (List Fact)
  | _, [] => some []
  | i, line :: following => do
    let mapped ← checkedMapped base lines i line
    let rest ← checkedMappedEndpoints base lines (i + 1) following
    return mapped.toList ++ rest

/-- The path that a line before the class gives to it, if it gives one. -/
def checkedClassMapping (line : List Char) : Option (Option (List Char)) :=
  match mapping.find? line with
  | none => some none
  | some m => do
    let verb ← m.group? 1
    if verb = "Request".toList then (m.group? 2).map some else some none

def checkedClassPath (header : List (List Char)) : Option (List Char) := do
  let found ← header.findSomeM? checkedClassMapping
  return found.getD []

def checkedEndpoints (text : List Char) : Option (List Fact) := do
  let lines := Text.lines text
  let classLine := lines.findIdx className.occursIn
  let header ← slice? lines 0 classLine
  let base ← checkedClassPath header
  checkedMappedEndpoints base lines classLine (lines.drop classLine)

def checkedAnalyze [Grammars] (unit : SourceUnit) : Option Reading := do
  let text := unit.text
  let declared := declarations text
  let package? := declared.packages.head?
  let imports ← package?.toList.mapM (checkedImports · text)
  let name ← unit.checkedUnitName
  let endpoints ← checkedEndpoints text
  return ⟨declared.fidelity,
    package?.toList.map .packageOf ++
    .classes declared.typeCount ::
    imports.flatten ++
    frameworksIn text frameworks ++
    designsIn unit.fileName name text designs ++
    specialDesigns name text ++
    entityTable text ++
    tablesIn createdTable text "SQL DDL" ++
    endpoints⟩

variable (text : List Char)

theorem checkedOwningPackage_eq (name : List Char) :
    checkedOwningPackage name = some (owningPackage name) := Text.checkedStem_eq '.' name

theorem checkedImport_eq (package imported : List Char) : checkedImport package imported =
    some (if Text.startsWith imported "java." || Text.startsWith imported "javax." then none
      else if owningPackage imported = package then none
      else some (.depends (String.ofList package) (owningPackage imported) "import")) := by
  rw [checkedImport, checkedOwningPackage_eq]
  split <;> rfl

theorem checkedImports_eq (package : List Char) :
    checkedImports package text = some (imports package text) := by
  rw [checkedImports, Pattern.checkedGroupIn_eq rfl]
  dsimp only [Option.bind_eq_bind, Option.bind_some]
  rw [mapM_eq_map (checkedImport_eq package)]
  exact congrArg some (List.filterMap_map ..)

theorem checkedHandler_eq (following : List (List Char)) :
    checkedHandler (following.take 4) = some (handler following) := by
  have hfirst : (fun l ↦ methodName.checkedFirstGroup 1 (Text.trim l)) =
      fun l ↦ some (firstGroup? methodName 1 (Text.trim l)) :=
    funext fun l ↦ Pattern.checkedFirstGroup_eq rfl
  rw [checkedHandler, hfirst, ← Option.pure_def, List.findSomeM?_pure]
  rfl

/-- What a match of a mapping has taken. -/
theorem exists_mapped {line : List Char} {m : Match} (h : mapping.find? line = some m) :
    ∃ verb path, m.group? 1 = some verb ∧ m.group? 2 = some path :=
  Pattern.exists_groups rfl rfl (Pattern.mem_occurrences_of_find? h)

theorem checkedClassMapping_eq (line : List Char) : checkedClassMapping line = some (do
    let m ← mapping.find? line
    if (← m.group? 1) = "Request".toList then m.group? 2 else none) := by
  rw [checkedClassMapping]
  cases hfind : mapping.find? line with
  | none => rfl
  | some m =>
    obtain ⟨verb, path, hverb, hpath⟩ := exists_mapped hfind
    dsimp only [Option.bind_eq_bind, Option.bind_some]
    rw [hverb, hpath]
    dsimp only [Option.bind_some]
    split <;> rfl

theorem checkedClassPath_eq (header : List (List Char)) :
    checkedClassPath header = some (classPath header) := by
  rw [checkedClassPath, funext checkedClassMapping_eq, ← Option.pure_def, List.findSomeM?_pure]
  rfl

theorem checkedMethod_eq (before following : List (List Char)) (line verb : List Char) :
    checkedMethod (before ++ line :: following) before.length verb =
      some (if verb = "Request".toList then (requestMethod (line :: following.take 2)).toList
        else upper verb) := by
  rw [checkedMethod, slice?_length_append]
  split <;> rfl

/-- The endpoints from one line on, of which the number is that of the lines before. -/
theorem checkedMappedEndpoints_eq (base : List Char) (before following : List (List Char)) :
    checkedMappedEndpoints base (before ++ following) before.length following =
      some (mappedEndpoints base following) := by
  induction following generalizing before with
  | nil => rfl
  | cons line following ih =>
    -- The next line has this one before it as well, and so have the lines that are looked ahead to.
    have hlines : before ++ line :: following = before ++ [line] ++ following := by
      rw [List.append_assoc, List.singleton_append]
    have hlength : (before ++ [line]).length = before.length + 1 := List.length_append
    have hrest := ih (before ++ [line])
    have hwindow := slice?_length_append (before ++ [line]) following 4
    rw [← hlines, hlength] at hrest hwindow
    rw [checkedMappedEndpoints, mappedEndpoints, hrest, checkedMapped]
    cases hfind : mapping.find? line with
    | none => rfl
    | some m =>
      obtain ⟨verb, path, hverb, hpath⟩ := exists_mapped hfind
      dsimp only [Option.bind_eq_bind, Option.bind_some]
      rw [hverb, hpath]
      dsimp only [Option.bind_some]
      rw [checkedMethod_eq, hwindow]
      dsimp only [Option.bind_some]
      rw [checkedHandler_eq]
      rfl

theorem checkedEndpoints_eq : checkedEndpoints text = some (endpoints text) := by
  rw [checkedEndpoints, endpoints]
  generalize Text.lines text = lines
  have hheader : lines.takeWhile (fun l ↦ !className.occursIn l) =
      lines.take (lines.findIdx className.occursIn) := by
    rw [List.takeWhile_eq_take_findIdx_not]
    simp only [Bool.not_not]
  have hle : lines.findIdx className.occursIn ≤ lines.length := List.findIdx_le_length
  generalize lines.findIdx className.occursIn = classLine at hheader hle
  have hlength : (lines.take classLine).length = classLine := List.length_take_of_le hle
  have hmapped := checkedMappedEndpoints_eq (classPath (lines.take classLine)) (lines.take classLine)
    (lines.drop classLine)
  rw [List.take_append_drop, hlength] at hmapped
  rw [hheader, hlength, slice?_zero hle]
  dsimp only [Option.bind_eq_bind, Option.bind_some]
  rw [checkedClassPath_eq]
  exact hmapped

theorem checkedAnalyze_eq [Grammars] (u : SourceUnit) : checkedAnalyze u = some (analyze u) := by
  rw [checkedAnalyze, mapM_eq_map (checkedImports_eq u.text), u.checkedUnitName_eq, checkedEndpoints_eq]
  rfl

end Java

namespace Kotlin

def checkedImports (package : String) (text : List Char) : Option (List Fact) := do
  let names ← importLine.checkedGroupIn 1 text
  return (names.filter fun imported ↦ root imported ∉ platformRoots).map (Fact.depends package · "import")

def checkedEndpoints (text : List Char) : Option (List Fact) := do
  let spring ← checkedMethodRoutesIn springMapping text "Spring MVC"
  let ktor ←
    if Text.containsAny text ["routing", "io.ktor"] then checkedMethodRoutesIn ktorRoute text "Ktor"
    else some []
  let retrofit ← checkedMethodRoutesIn retrofitRoute text "Retrofit"
  return spring ++ ktor ++ retrofit

def checkedAnalyze (unit : SourceUnit) : Option Reading := do
  let text := unit.text
  let declared ← packageLine.checkedFirstGroup 1 text
  let package := declared.elim (parentModule (← unit.checkedDirectory)) String.ofList
  let imports ← checkedImports package text
  let name ← unit.checkedUnitName
  let endpoints ← checkedEndpoints text
  return ⟨.heuristic,
    .package package ::
    .classes (typeDeclaration.count text) ::
    imports ++
    frameworksIn text frameworks ++
    Fact.onlyIf (Text.endsWith unit.fileName.toList ".kts" && Text.contains text "plugins \x7b")
      (.framework "Gradle Kotlin DSL") ++
    designsIn unit.fileName name text designs ++
    specialDesigns unit text ++
    endpoints ++
    tables text⟩

variable (text : List Char)

theorem checkedImports_eq (package : String) :
    checkedImports package text = some (imports package text) := by
  rw [checkedImports, Pattern.checkedGroupIn_eq rfl]
  rfl

theorem checkedEndpoints_eq : checkedEndpoints text = some (endpoints text) := by
  rw [checkedEndpoints, endpoints, checkedMethodRoutesIn_eq rfl rfl, checkedMethodRoutesIn_eq rfl rfl,
    checkedMethodRoutesIn_eq rfl rfl]
  split <;> rfl

theorem checkedAnalyze_eq (u : SourceUnit) : checkedAnalyze u = some (analyze u) := by
  rw [checkedAnalyze, Pattern.checkedFirstGroup_eq rfl, u.checkedDirectory_eq, u.checkedUnitName_eq,
    checkedEndpoints_eq]
  dsimp only [Option.bind_eq_bind, Option.bind_some]
  rw [checkedImports_eq]
  rfl

end Kotlin

namespace Rust

def checkedManifestNames (inTable : Bool) : List (List Char) → Option (List (List Char))
  | [] => some []
  | line :: rest => do
    let line := Text.trim line
    match ← tableHeader.checkedFirstGroup 1 line with
    | some header =>
      let header := Text.trim header
      let later ← checkedManifestNames (String.ofList header ∈ dependencyTables) rest
      return (headerDependency? header).toList ++ later
    | none =>
      let key ← if inTable then manifestKey.checkedFirstGroup 1 line else some none
      let later ← checkedManifestNames inTable rest
      return key.toList ++ later

def checkedManifest (text : List Char) : Option (List Fact) := do
  let names ← checkedManifestNames false (Text.lines text)
  return names.map (Fact.depends "Cargo.toml" · "dependency")

def checkedDeclarations [Grammars] (text : List Char) : Option Declarations :=
  checkedDeclarationsBy .rust structureQuery text ((modLine.checkedFirstGroup 1 text).map Option.toList)
    (typeDeclaration.count text)

def checkedUses (crate : String) (text : List Char) : Option (List Fact) := do
  let roots ← useLine.checkedGroupIn 1 text
  let crates ← externCrate.checkedGroupIn 1 text
  return (roots.filter fun root ↦ String.ofList root ∉ localRoots).map (Fact.depends crate · "use") ++
    crates.map (Fact.depends crate · "extern_crate")

def checkedEndpoints (text : List Char) : Option (List Fact) := do
  let attributes ← checkedMethodRoutesIn attributeRoute text
    (if Text.contains text "rocket" then "Rocket" else "Actix-Web")
  let axum ← checkedMethodRoutesIn axumRoute text "Axum"
  let warp ← warpPath.checkedGroupIn 1 text
  return attributes ++ axum ++ warp.map fun path ↦ .route "PATH".toList ('/' :: path) "Warp"

def checkedSchemas (text : List Char) : Option (List Fact) := do
  let diesel ← dieselTable.checkedGroupIn 1 text
  let queried ← if Text.contains text "sqlx::" then sqlTable.checkedGroupIn 1 text else some []
  return diesel.map (Fact.table · "Diesel") ++
    (queried.filter fun t ↦ String.ofList (Text.lower t) ∉ queryWords).map (Fact.table · "SQLx")

def checkedAnalyze [Grammars] (unit : SourceUnit) : Option Reading := do
  let text := unit.text
  if Text.lower unit.fileName.toList = "cargo.toml".toList then
    return ⟨.manifest, ← checkedManifest text⟩
  else
    let crate := parentModule (← unit.checkedDirectory)
    let declared ← checkedDeclarations text
    let uses ← checkedUses crate text
    let name ← unit.checkedUnitName
    let endpoints ← checkedEndpoints text
    let schemas ← checkedSchemas text
    return ⟨declared.fidelity,
      .package (declared.packages.head?.elim crate String.ofList) ::
      .classes declared.typeCount ::
      uses ++
      frameworksIn text frameworks ++
      designsIn unit.fileName name text designs ++
      specialDesigns unit text ++
      endpoints ++
      schemas⟩

variable (text : List Char)

theorem checkedManifestNames_eq (inTable : Bool) (lines : List (List Char)) :
    checkedManifestNames inTable lines = some (manifestNames inTable lines) := by
  induction lines generalizing inTable with
  | nil => rfl
  | cons line rest ih =>
    rw [checkedManifestNames, manifestNames, Pattern.checkedFirstGroup_eq rfl,
      Pattern.checkedFirstGroup_eq rfl]
    cases firstGroup? tableHeader 1 (Text.trim line) with
    | some header =>
      dsimp only [Option.bind_eq_bind, Option.bind_some]
      rw [ih]
      rfl
    | none =>
      dsimp only [Option.bind_eq_bind, Option.bind_some]
      rw [ih]
      split <;> rfl

theorem checkedManifest_eq : checkedManifest text = some (manifest text) := by
  rw [checkedManifest, checkedManifestNames_eq]
  rfl

theorem checkedDeclarations_eq [Grammars] : checkedDeclarations text = some (declarations text) := by
  rw [checkedDeclarations, Pattern.checkedFirstGroup_eq rfl, Option.map_some, checkedDeclarationsBy_some]
  rfl

theorem checkedUses_eq (crate : String) : checkedUses crate text = some (uses crate text) := by
  rw [checkedUses, Pattern.checkedGroupIn_eq rfl, Pattern.checkedGroupIn_eq rfl]
  rfl

theorem checkedEndpoints_eq : checkedEndpoints text = some (endpoints text) := by
  rw [checkedEndpoints, checkedMethodRoutesIn_eq rfl rfl, checkedMethodRoutesIn_eq rfl rfl,
    Pattern.checkedGroupIn_eq rfl]
  rfl

theorem checkedSchemas_eq : checkedSchemas text = some (schemas text) := by
  rw [checkedSchemas, schemas, Pattern.checkedGroupIn_eq rfl, Pattern.checkedGroupIn_eq rfl]
  split <;> rfl

theorem checkedAnalyze_eq [Grammars] (u : SourceUnit) : checkedAnalyze u = some (analyze u) := by
  rw [checkedAnalyze, analyze, checkedManifest_eq, u.checkedDirectory_eq, checkedDeclarations_eq,
    u.checkedUnitName_eq, checkedEndpoints_eq, checkedSchemas_eq]
  dsimp only [Option.bind_eq_bind, Option.bind_some]
  rw [checkedUses_eq]
  split <;> rfl

end Rust

end CodeSurvey
