import CodeSurvey.Analyzer
import CodeSurvey.Proofs.Pattern.Groups
import CodeSurvey.Proofs.Text.Slices

/-!
# Checked readings of scripts and pages

The analyzers of JavaScript, server pages, PHP, Python and Ruby with every group that they
take for granted and every slice that they make, as for the compiled languages.
-/

namespace CodeSurvey

namespace JavaScript

def checkedReferences (module : String) (p : Pattern) (kind : String) (text : List Char) :
    Option (List Fact) := do
  let targets ← p.checkedGroupIn 1 text
  return (targets.filter fun target ↦
    !Text.startsWith target "." && !Text.startsWith target "@").map fun target ↦
      .depends module target kind

def checkedSchemas (text : List Char) : Option (List Fact) := do
  let collection ←
    if Text.containsAny text ["new Schema(", "mongoose.Schema"] then
      mongooseSchema.checkedFirstGroup 1 text
    else some none
  let entity ← entity.checkedFirstGroup 1 text
  return collection.toList.map (fun name ↦ .schema s!"Collection: {String.ofList name} (Mongoose)") ++
    entity.toList.map (Fact.table · "TypeORM") ++
    Fact.onlyIf (Text.contains text "PrismaClient") (.schema "Database: Prisma Client")

def checkedAnalyze [Grammars] (typed : Bool) (unit : SourceUnit) : Option Reading := do
  let text := unit.text
  let module := parentModule (← unit.checkedDirectory)
  let imports ← checkedReferences module importLine "import" text
  let requires ← checkedReferences module requireCall "require" text
  let name ← unit.checkedUnitName
  let schemas ← checkedSchemas text
  let declared := declarations typed unit.fileName text
  return ⟨declared.fidelity,
    .package module ::
    .classes declared.typeCount ::
    imports ++
    requires ++
    frameworksIn text frameworks ++
    Fact.onlyIf typed (.framework "TypeScript") ++
    designsIn unit.fileName name text designs ++
    specialDesigns unit text ++
    schemas ++
    endpoints text⟩

variable (text : List Char)

theorem checkedReferences_eq {p : Pattern} (h : p.hasGroup 1 = true) (module kind : String) :
    checkedReferences module p kind text = some (references module p kind text) := by
  rw [checkedReferences, Pattern.checkedGroupIn_eq h]
  rfl

theorem checkedSchemas_eq : checkedSchemas text = some (schemas text) := by
  rw [checkedSchemas, schemas, Pattern.checkedFirstGroup_eq rfl, Pattern.checkedFirstGroup_eq rfl]
  split <;> rfl

theorem checkedAnalyze_eq [Grammars] (typed : Bool) (u : SourceUnit) :
    checkedAnalyze typed u = some (analyze typed u) := by
  rw [checkedAnalyze, u.checkedDirectory_eq, u.checkedUnitName_eq, checkedSchemas_eq]
  dsimp only [Option.bind_eq_bind, Option.bind_some]
  rw [checkedReferences_eq u.text rfl, checkedReferences_eq u.text rfl]
  rfl

end JavaScript

namespace Jsp

def checkedImports (page : String) (text : List Char) : Option (List Fact) := do
  let directives ← pageDirective.checkedGroupIn 1 text
  let lists ← directives.mapM (pageImport.checkedGroupIn 1)
  let names := lists.flatten.flatMap fun l ↦ (Text.pieces (· = ',') l).map Text.trim
  return (names.filter fun n ↦ n ≠ [] && !isPlatformClass n).map (Fact.depends page · "jsp-import")

def checkedTaglibs (text : List Char) : Option (List Fact) :=
  taglib.checkedPairsIn (fun uri mark ↦ .dependency
    ⟨"taglib", s!"{String.ofList (Text.lower uri)} (prefix:{String.ofList mark})", "taglib"⟩) text

def checkedPages (text : List Char) : Option (List Fact) := do
  let files ← includeDirective.checkedGroupIn 1 text
  let actions ← action.checkedPairsIn (fun kind page ↦
    .package s!"{String.ofList (Text.lower kind)}:{String.ofList page}") text
  return files.map (fun file ↦ .package s!"include:{String.ofList file}") ++ actions

def checkedEndpoints (text : List Char) : Option (List Fact) := do
  let actions ← formAction.checkedGroupIn 1 text
  return ((actions.map Text.trim).filter fun a ↦ a ≠ [] && !Text.startsWith a "#").map fun a ↦
    .endpoint s!"JSP:{String.ofList a}"

def checkedAnalyze (unit : SourceUnit) : Option Reading := do
  let text := unit.text
  let lowered := Text.lower text
  let page ← unit.checkedUnitName
  let imports ← checkedImports page text
  let taglibs ← checkedTaglibs text
  let pages ← checkedPages text
  let endpoints ← checkedEndpoints text
  return ⟨.heuristic,
    imports ++
    taglibs ++
    pages ++
    frameworksIn lowered frameworks ++
    designs page text lowered ++
    endpoints ++
    schemas text ++
    classes text ++
    expressions page text⟩

variable (text : List Char)

theorem checkedImports_eq (page : String) : checkedImports page text = some (imports page text) := by
  have hlist (directive : List Char) :
      pageImport.checkedGroupIn 1 directive = some (pageImport.groupIn 1 directive) :=
    Pattern.checkedGroupIn_eq rfl
  rw [checkedImports, Pattern.checkedGroupIn_eq rfl]
  dsimp only [Option.bind_eq_bind, Option.bind_some]
  rw [mapM_eq_map hlist]
  rfl

theorem checkedTaglibs_eq : checkedTaglibs text = some (taglibs text) :=
  Pattern.checkedPairsIn_eq rfl rfl

theorem checkedPages_eq : checkedPages text = some (pages text) := by
  rw [checkedPages, Pattern.checkedGroupIn_eq rfl, Pattern.checkedPairsIn_eq rfl rfl]
  rfl

theorem checkedEndpoints_eq : checkedEndpoints text = some (endpoints text) := by
  rw [checkedEndpoints, Pattern.checkedGroupIn_eq rfl]
  rfl

theorem checkedAnalyze_eq (u : SourceUnit) : checkedAnalyze u = some (analyze u) := by
  rw [checkedAnalyze, u.checkedUnitName_eq, checkedTaglibs_eq, checkedPages_eq, checkedEndpoints_eq]
  dsimp only [Option.bind_eq_bind, Option.bind_some]
  rw [checkedImports_eq]
  rfl

end Jsp

namespace Php

def checkedPackages (fileName : String) (text : List Char) : Option (List String) :=
  let names? :=
    if Text.lower fileName.toList = "composer.lock".toList then Composer.lockNames? text
    else Composer.manifestNames? text
  match names? with
  | some names => some names
  | none => (packageEntry.checkedGroupIn 1 text).map (·.map String.ofList)

def checkedManifest (unit : SourceUnit) (text : List Char) : Option (List Fact) := do
  let packages ← checkedPackages unit.fileName text
  return (packages.filter fun n ↦ !isPlatformRequirement n).map
      (fun name ↦ .dependency ⟨unit.fileName, name, "dependency"⟩) ++
    frameworksIn text frameworks

def checkedUses (source : String) (text : List Char) : Option (List Fact) := do
  let names ← useLine.checkedGroupIn 1 text
  return (names.filter fun name ↦
    String.ofList (Text.firstPiece (· = '\\') name) ∉ builtinRoots).map fun name ↦
      .depends source (dotted name) "use"

def checkedEndpoints (text : List Char) : Option (List Fact) := do
  let paths ← [laravelRoute, symfonyRoute, slimRoute].mapM (·.checkedGroupIn 1 text)
  return paths.flatMap fun paths ↦ paths.map fun path ↦ .endpoint s!"PHP:{String.ofList path}"

def checkedTables (text : List Char) : Option (List Fact) := do
  let models ← eloquentModel.checkedGroupIn 1 text
  return tablesIn laravelSchema text "Eloquent Migration" ++
    tablesIn doctrineTable text "Doctrine Entity" ++
    models.map (fun name ↦ .table (snakeCaseFrom false name) "Eloquent Model") ++
    tablesIn createdTable text "Raw SQL"

def checkedAnalyze (unit : SourceUnit) : Option Reading := do
  let text := unit.text
  if unit.isManifest then return ⟨.manifest, ← checkedManifest unit text⟩
  else
    let declared ← namespaceLine.checkedFirstGroup 1 text
    let space? := declared.map dotted
    let name ← unit.checkedUnitName
    let uses ← checkedUses (space?.elim name String.ofList) text
    let endpoints ← checkedEndpoints text
    let tables ← checkedTables text
    return ⟨.heuristic,
      space?.toList.map .packageOf ++
      .classes (typeDeclaration.count text) ::
      uses ++
      frameworksIn text frameworks ++
      designs name text ++
      endpoints ++
      tables⟩

variable (text : List Char)

theorem checkedPackages_eq (fileName : String) :
    checkedPackages fileName text = some (packages fileName text) := by
  rw [checkedPackages, packages, Pattern.checkedGroupIn_eq rfl]
  generalize (if Text.lower fileName.toList = "composer.lock".toList then Composer.lockNames? text
    else Composer.manifestNames? text) = names?
  cases names? <;> rfl

theorem checkedManifest_eq (u : SourceUnit) : checkedManifest u text = some (manifest u text) := by
  rw [checkedManifest, checkedPackages_eq]
  rfl

theorem checkedUses_eq (source : String) : checkedUses source text = some (uses source text) := by
  rw [checkedUses, Pattern.checkedGroupIn_eq rfl]
  rfl

theorem checkedEndpoints_eq : checkedEndpoints text = some (endpoints text) := by
  rw [checkedEndpoints, List.mapM_cons, List.mapM_cons, List.mapM_cons, List.mapM_nil,
    Pattern.checkedGroupIn_eq rfl, Pattern.checkedGroupIn_eq rfl, Pattern.checkedGroupIn_eq rfl]
  rfl

theorem checkedTables_eq : checkedTables text = some (tables text) := by
  rw [checkedTables, Pattern.checkedGroupIn_eq rfl]
  rfl

theorem checkedAnalyze_eq (u : SourceUnit) : checkedAnalyze u = some (analyze u) := by
  rw [checkedAnalyze, analyze, checkedManifest_eq, Pattern.checkedFirstGroup_eq rfl, u.checkedUnitName_eq,
    checkedEndpoints_eq, checkedTables_eq]
  dsimp only [Option.bind_eq_bind, Option.bind_some]
  rw [checkedUses_eq]
  split <;> rfl

end Php

namespace Python

def checkedTableKeys (wanted : List Char → Bool) (inTable : Bool) :
    List (List Char) → Option (List (List Char))
  | [] => some []
  | line :: rest => do
    let line := Text.trim line
    match ← tomlSection.checkedFirstGroup 1 line with
    | some header => checkedTableKeys wanted (wanted header) rest
    | none =>
      let later ← checkedTableKeys wanted inTable rest
      return (if inTable then (firstGroup? tomlKey 1 line).toList else []) ++ later

def checkedPipfilePackages (text : List Char) : Option (List (List Char)) :=
  checkedTableKeys (fun h ↦ h = "packages".toList || h = "dev-packages".toList) false (Text.lines text)

def checkedProjectDependencies (text : List Char) : Option (List (List Char)) := do
  let keys ← checkedTableKeys
    (fun h ↦ Text.startsWith h "tool.poetry" && Text.endsWith h "dependencies") false (Text.lines text)
  return (dependencyArray.groupIn 1 text).flatMap (quotedRequirement.groupIn 1) ++
    keys.filter (· ≠ "python".toList)

/-- The dependencies that a manifest lists.  Only two of them are read table by table. -/
def checkedManifestNames (fileName : String) (text : List Char) : Option (Option (List (List Char))) :=
  let name := String.ofList (Text.lower fileName.toList)
  if name = "pipfile" then (checkedPipfilePackages text).map some
  else if name = "pyproject.toml" then (checkedProjectDependencies text).map some
  else some (manifestNames? fileName text)

def checkedImports (module : String) (p : Pattern) (kind : String) (text : List Char) :
    Option (List Fact) := do
  let names ← p.checkedGroupIn 1 text
  return ((names.map root).filter fun r ↦ r ≠ [] && String.ofList r ∉ standardModules).map
    (Fact.depends module · kind)

def checkedEndpoints (text : List Char) : Option (List Fact) := do
  let flask ← flaskRoute.checkedGroupIn 1 text
  let fastapi ← checkedMethodRoutesIn verbDecorator text "FastAPI"
  let django ← if Text.contains text "urlpatterns" then djangoUrl.checkedGroupIn 1 text else some []
  let aiohttp ← aiohttpRoute.checkedGroupIn 1 text
  return flask.map (fun path ↦ .route "ROUTE".toList path "Flask") ++
    fastapi ++
    django.map (fun path ↦ .route "URL".toList ('/' :: path) "Django") ++
    aiohttp.map fun path ↦ .route "ROUTE".toList path "aiohttp"

def checkedTables (text : List Char) : Option (List Fact) := do
  let queried ← sqlTable.checkedGroupIn 1 text
  return tablesIn djangoModel text "Django Model" ++
    tablesIn alchemyTable text "SQLAlchemy" ++
    tablesIn alembicTable text "Alembic Migration" ++
    (queried.filter fun t ↦ String.ofList (Text.lower t) ∉ queryWords).map (Fact.table · "Raw SQL")

def checkedModuleOf (unit : SourceUnit) : Option String :=
  if unit.fileName = "__init__.py" then unit.checkedDirectory.map parentModule
  else unit.checkedUnitName

def checkedAnalyze [Grammars] (unit : SourceUnit) : Option Reading := do
  let text := unit.text
  match ← checkedManifestNames unit.fileName text with
  | some names =>
    return ⟨.manifest,
      names.map (Fact.depends unit.fileName · "dependency") ++ frameworksIn text frameworks⟩
  | none =>
    let module ← checkedModuleOf unit
    let imports ← checkedImports module importLine "import" text
    let fromImports ← checkedImports module fromImport "from-import" text
    let name ← unit.checkedUnitName
    let endpoints ← checkedEndpoints text
    let tables ← checkedTables text
    let declared := declarations text
    return ⟨declared.fidelity,
      .package module ::
      .classes declared.typeCount ::
      imports ++
      fromImports ++
      frameworksIn text frameworks ++
      designsIn unit.fileName name text designs ++
      specialDesigns unit text ++
      endpoints ++
      tables⟩

variable (text : List Char)

theorem checkedTableKeys_eq (wanted : List Char → Bool) (inTable : Bool) (lines : List (List Char)) :
    checkedTableKeys wanted inTable lines = some (tableKeys wanted inTable lines) := by
  induction lines generalizing inTable with
  | nil => rfl
  | cons line rest ih =>
    rw [checkedTableKeys, tableKeys, Pattern.checkedFirstGroup_eq rfl]
    cases firstGroup? tomlSection 1 (Text.trim line) with
    | some header => exact ih (wanted header)
    | none =>
      dsimp only [Option.bind_eq_bind, Option.bind_some]
      rw [ih]
      rfl

theorem checkedManifestNames_eq (fileName : String) :
    checkedManifestNames fileName text = some (manifestNames? fileName text) := by
  rw [checkedManifestNames, checkedPipfilePackages, checkedProjectDependencies, checkedTableKeys_eq,
    checkedTableKeys_eq]
  split
  next hname =>
    unfold manifestNames?
    rw [hname]
    rfl
  next =>
    split
    next hname =>
      unfold manifestNames?
      rw [hname]
      rfl
    next => rfl

theorem checkedImports_eq {p : Pattern} (h : p.hasGroup 1 = true) (module kind : String) :
    checkedImports module p kind text = some (imports module p kind text) := by
  rw [checkedImports, Pattern.checkedGroupIn_eq h]
  rfl

theorem checkedEndpoints_eq : checkedEndpoints text = some (endpoints text) := by
  rw [checkedEndpoints, endpoints, Pattern.checkedGroupIn_eq rfl, checkedMethodRoutesIn_eq rfl rfl,
    Pattern.checkedGroupIn_eq rfl, Pattern.checkedGroupIn_eq rfl]
  split <;> rfl

theorem checkedTables_eq : checkedTables text = some (tables text) := by
  rw [checkedTables, Pattern.checkedGroupIn_eq rfl]
  rfl

theorem checkedModuleOf_eq (u : SourceUnit) : checkedModuleOf u = some (moduleOf u) := by
  rw [checkedModuleOf, moduleOf, u.checkedDirectory_eq, u.checkedUnitName_eq]
  split <;> rfl

theorem checkedAnalyze_eq [Grammars] (u : SourceUnit) : checkedAnalyze u = some (analyze u) := by
  rw [checkedAnalyze, analyze, checkedManifestNames_eq, checkedModuleOf_eq, u.checkedUnitName_eq,
    checkedEndpoints_eq, checkedTables_eq]
  cases manifestNames? u.fileName u.text with
  | some names => rfl
  | none =>
    dsimp only [Option.bind_eq_bind, Option.bind_some]
    rw [checkedImports_eq u.text rfl, checkedImports_eq u.text rfl]
    rfl

end Python

namespace Ruby

def checkedManifest (text : List Char) : Option (List Fact) := do
  let gems ← gemLine.checkedGroupIn 1 text
  return gems.map (Fact.depends "Gemfile" · "gem") ++ [.framework "Bundler (Dependency Management)"]

def checkedPackageName (directoryModule : String) (text : List Char) : Option String := do
  let opened ← (definition.occurrences text).findM? fun m ↦ do
    let kind ← m.group? 1
    return kind = "module".toList
  match opened with
  | some m => (m.group? 2).map String.ofList
  | none => some directoryModule

def checkedRequires (module : String) (text : List Char) : Option (List Fact) := do
  let targets ← requireLine.checkedGroupIn 1 text
  let relative ← requireRelativeLine.checkedGroupIn 1 text
  return (targets.filter fun target ↦ !Text.startsWith target ".").map (Fact.depends module · "require") ++
    relative.map (Fact.depends module · "require_relative")

def checkedSchemas (text : List Char) : Option (List Fact) := do
  let collection ←
    if Text.contains text "include Mongoid::Document" then mongoidClass.checkedFirstGroup 1 text
    else some none
  return tablesIn createTableLine text "ActiveRecord Migration" ++
    tablesIn sequelTable text "Sequel" ++
    collection.toList.map fun name ↦ .schema s!"Collection: {String.ofList name} (Mongoid)"

def checkedEndpoints (text : List Char) : Option (List Fact) :=
  if Text.contains text "Grape::API" then checkedMethodRoutesIn grapeRoute text "Grape"
  else do
    let framework :=
      if Text.containsAny text ["sinatra", "Sinatra::"] then "Sinatra" else "Rails Route"
    let routes ← checkedMethodRoutesIn verbRoute text framework
    let names ← if Text.contains text "routes.draw" then resources.checkedGroupIn 1 text else some []
    return routes ++ names.map fun name ↦
      .endpoint s!"CRUD /api/{String.ofList name} (Rails resources)"

def checkedAnalyze (unit : SourceUnit) : Option Reading := do
  let text := unit.text
  if Text.lower unit.fileName.toList = "gemfile".toList then
    return ⟨.manifest, ← checkedManifest text⟩
  else
    let module := parentModule (← unit.checkedDirectory)
    let package ← checkedPackageName module text
    let requires ← checkedRequires module text
    let name ← unit.checkedUnitName
    let schemas ← checkedSchemas text
    let endpoints ← checkedEndpoints text
    return ⟨.heuristic,
      .package package ::
      .classes (definition.count text) ::
      requires ++
      frameworksIn text frameworks ++
      Fact.onlyIf (isBuildFile unit text) (.framework "Rake (Build Tool)") ++
      designsIn unit.fileName name text designs ++
      specialDesigns unit text ++
      schemas ++
      endpoints⟩

variable (text : List Char)

theorem checkedManifest_eq : checkedManifest text = some (manifest text) := by
  rw [checkedManifest, Pattern.checkedGroupIn_eq rfl]
  rfl

theorem checkedPackageName_eq (directoryModule : String) :
    checkedPackageName directoryModule text = some (packageName directoryModule text) := by
  have hopened : ((definition.occurrences text).findM? fun m ↦ do
      let kind ← m.group? 1
      return decide (kind = "module".toList)) =
        some ((definition.occurrences text).find? fun m ↦ m.group? 1 = some "module".toList) := by
    refine findM?_eq_find? fun m hm ↦ ?_
    obtain ⟨kind, name, hkind, -⟩ := Pattern.exists_groups rfl rfl hm
    simp only [hkind, Option.some.injEq]
    rfl
  rw [checkedPackageName, hopened, packageName]
  cases hfind : (definition.occurrences text).find? fun m ↦ m.group? 1 = some "module".toList with
  | none => rfl
  | some m =>
    obtain ⟨kind, name, -, hname⟩ := Pattern.exists_groups rfl rfl (List.mem_of_find?_eq_some hfind)
    dsimp only [Option.bind_eq_bind, Option.bind_some]
    rw [hname]
    rfl

theorem checkedRequires_eq (module : String) :
    checkedRequires module text = some (requires module text) := by
  rw [checkedRequires, Pattern.checkedGroupIn_eq rfl, Pattern.checkedGroupIn_eq rfl]
  rfl

theorem checkedSchemas_eq : checkedSchemas text = some (schemas text) := by
  rw [checkedSchemas, schemas, Pattern.checkedFirstGroup_eq rfl]
  split <;> rfl

theorem checkedEndpoints_eq : checkedEndpoints text = some (endpoints text) := by
  rw [checkedEndpoints, endpoints]
  split
  next => exact checkedMethodRoutesIn_eq rfl rfl
  next =>
    dsimp only
    rw [checkedMethodRoutesIn_eq rfl rfl, Pattern.checkedGroupIn_eq rfl]
    cases Text.contains text "routes.draw" <;> rfl

theorem checkedAnalyze_eq (u : SourceUnit) : checkedAnalyze u = some (analyze u) := by
  rw [checkedAnalyze, analyze, checkedManifest_eq, u.checkedDirectory_eq, u.checkedUnitName_eq,
    checkedSchemas_eq, checkedEndpoints_eq]
  dsimp only [Option.bind_eq_bind, Option.bind_some]
  rw [checkedPackageName_eq, checkedRequires_eq]
  split <;> rfl

end Ruby

end CodeSurvey
