import CodeSurvey.Analyzer.JavaScript
import CodeSurvey.Analyzer.Jsp
import CodeSurvey.Analyzer.Php
import CodeSurvey.Analyzer.Python
import CodeSurvey.Analyzer.Ruby
import CodeSurvey.Recorder.Basic

/-!
# Recorders of scripting languages

JavaScript and TypeScript, Ruby, Python, PHP, and Java server pages.
-/

namespace CodeSurvey

namespace JavaScript

def recordReferences (module : String) (p : Pattern) (kind : String) (text : List Char) :
    StateM Model Unit :=
  (p.groupIn 1 text).forM fun target =>
    when (!Text.startsWith target "." && !Text.startsWith target "@") <|
      tell (.depends module target kind)

def recordSpecialDesigns (unit : SourceUnit) (text : List Char) : StateM Model Unit := do
  let name := unit.unitName
  let file := Text.lower unit.fileName.toList
  let has := Text.contains text
  when (has "getInstance" && has "static") (tell (.pattern "Singleton" name))
  when (component.occursIn text && !Text.contains file "component") (tell (.pattern "Component" name))
  when (Text.startsWith (Text.lower name.toList) "use" && (has "useState" || has "useEffect")) <|
    tell (.pattern "Custom Hook" name)
  when (middlewareSignature.occursIn text && !Text.contains file "middleware") <|
    tell (.pattern "Middleware" name)

def recordSchemas (text : List Char) : StateM Model Unit := do
  when (Text.containsAny text ["new Schema(", "mongoose.Schema"]) <|
    (firstGroup? mongooseSchema 1 text).forM fun name =>
      tell (.schema s!"Collection: {String.ofList name} (Mongoose)")
  (firstGroup? entity 1 text).forM fun name => tell (.table name "TypeORM")
  when (Text.contains text "PrismaClient") (tell (.schema "Database: Prisma Client"))

def recordEndpoints (text : List Char) : StateM Model Unit := do
  let has := Text.contains text
  recordMethodRoutes expressRoute text "Express"
  recordMethodRoutes nestRoute text "NestJS"
  when (has "export default" && has "req" && has "res") (tell (.endpoint "API Route (Next.js)"))

def record [Grammars] (typed : Bool) (unit : SourceUnit) : StateM Model Fidelity := do
  let text := unit.text
  let module := parentModule unit.directory
  let declared := declarations typed unit.fileName text
  tell (.package module)
  tell (.classes declared.typeCount)
  recordReferences module importLine "import" text
  recordReferences module requireCall "require" text
  recordFrameworks text frameworks
  when typed (tell (.framework "TypeScript"))
  recordDesigns unit.fileName unit.unitName text designs
  recordSpecialDesigns unit text
  recordSchemas text
  recordEndpoints text
  return declared.fidelity

end JavaScript

namespace Ruby

def recordManifest (text : List Char) : StateM Model Unit := do
  (gemLine.groupIn 1 text).forM fun name => tell (.depends "Gemfile" name "gem")
  tell (.framework "Bundler (Dependency Management)")

def recordRequires (module : String) (text : List Char) : StateM Model Unit := do
  (requireLine.groupIn 1 text).forM fun target =>
    when (!Text.startsWith target ".") (tell (.depends module target "require"))
  (requireRelativeLine.groupIn 1 text).forM fun target => tell (.depends module target "require_relative")

def recordSpecialDesigns (unit : SourceUnit) (text : List Char) : StateM Model Unit := do
  let name := unit.unitName
  let file := Text.lower unit.fileName.toList
  let callable := Text.contains text "def call"
  when (Text.contains file "factory" || selfCreate.occursIn text) (tell (.pattern "Factory" name))
  when (Text.contains file "builder" || buildMethod.occursIn text) (tell (.pattern "Builder" name))
  when (Text.contains file "command" && callable) (tell (.pattern "Command" name))
  when (Text.contains file "service" || (callable && !Text.contains file "controller")) <|
    tell (.pattern "Service Object" name)

def recordSchemas (text : List Char) : StateM Model Unit := do
  recordTables createTableLine text "ActiveRecord Migration"
  recordTables sequelTable text "Sequel"
  when (Text.contains text "include Mongoid::Document") <|
    (firstGroup? mongoidClass 1 text).forM fun name =>
      tell (.schema s!"Collection: {String.ofList name} (Mongoid)")

def recordEndpoints (text : List Char) : StateM Model Unit := do
  if Text.contains text "Grape::API" then recordMethodRoutes grapeRoute text "Grape"
  else
    let framework := if Text.containsAny text ["sinatra", "Sinatra::"] then "Sinatra" else "Rails Route"
    recordMethodRoutes verbRoute text framework
    when (Text.contains text "routes.draw") <|
      (resources.groupIn 1 text).forM fun name =>
        tell (.endpoint s!"CRUD /api/{String.ofList name} (Rails resources)")

def record (unit : SourceUnit) : StateM Model Fidelity := do
  let text := unit.text
  if Text.lower unit.fileName.toList = "gemfile".toList then
    recordManifest text
    return .manifest
  else
    let module := parentModule unit.directory
    tell (.package (packageName module text))
    tell (.classes (definition.count text))
    recordRequires module text
    recordFrameworks text frameworks
    when (isBuildFile unit text) (tell (.framework "Rake (Build Tool)"))
    recordDesigns unit.fileName unit.unitName text designs
    recordSpecialDesigns unit text
    recordSchemas text
    recordEndpoints text
    return .heuristic

end Ruby

namespace Python

def recordImports (module : String) (p : Pattern) (kind : String) (text : List Char) :
    StateM Model Unit :=
  (p.groupIn 1 text).forM fun name =>
    when (root name ≠ [] && String.ofList (root name) ∉ standardModules) <|
      tell (.depends module (root name) kind)

def recordSpecialDesigns (unit : SourceUnit) (text : List Char) : StateM Model Unit := do
  let name := unit.unitName
  let file := Text.lower unit.fileName.toList
  when (text.contains '@' && (Text.contains text "functools.wraps" ||
      Text.contains file "decorator" || Text.contains file "middleware")) <|
    tell (.pattern "Decorator" name)
  when (Text.contains file "template" && Text.contains text "def ") <|
    tell (.pattern "Template Method" name)

def recordEndpoints (text : List Char) : StateM Model Unit := do
  recordPathRoutes flaskRoute text "ROUTE" "Flask"
  recordMethodRoutes verbDecorator text "FastAPI"
  when (Text.contains text "urlpatterns") <|
    (djangoUrl.groupIn 1 text).forM fun path => tell (.route "URL".toList ('/' :: path) "Django")
  recordPathRoutes aiohttpRoute text "ROUTE" "aiohttp"

def recordSchemas (text : List Char) : StateM Model Unit := do
  recordTables djangoModel text "Django Model"
  recordTables alchemyTable text "SQLAlchemy"
  recordTables alembicTable text "Alembic Migration"
  (sqlTable.groupIn 1 text).forM fun table =>
    when (String.ofList (Text.lower table) ∉ queryWords) (tell (.table table "Raw SQL"))

def record [Grammars] (unit : SourceUnit) : StateM Model Fidelity := do
  let text := unit.text
  match manifestNames? unit.fileName text with
  | some names =>
    names.forM fun name => tell (.depends unit.fileName name "dependency")
    recordFrameworks text frameworks
    return .manifest
  | none =>
    let module := moduleOf unit
    let declared := declarations text
    tell (.package module)
    tell (.classes declared.typeCount)
    recordImports module importLine "import" text
    recordImports module fromImport "from-import" text
    recordFrameworks text frameworks
    recordDesigns unit.fileName unit.unitName text designs
    recordSpecialDesigns unit text
    recordEndpoints text
    recordSchemas text
    return declared.fidelity

end Python

namespace Php

def recordManifest (unit : SourceUnit) (text : List Char) : StateM Model Unit := do
  (packages unit.fileName text).forM fun name =>
    when (!isPlatformRequirement name) (tell (.dependency ⟨unit.fileName, name, "dependency"⟩))
  recordFrameworks text frameworks

def recordUses (source : String) (text : List Char) : StateM Model Unit :=
  (useLine.groupIn 1 text).forM fun name =>
    when (String.ofList (Text.firstPiece (· = '\\') name) ∉ builtinRoots) <|
      tell (.depends source (dotted name) "use")

def recordEndpoints (text : List Char) : StateM Model Unit :=
  [laravelRoute, symfonyRoute, slimRoute].forM fun p =>
    (p.groupIn 1 text).forM fun path => tell (.endpoint s!"PHP:{String.ofList path}")

def recordSchemas (text : List Char) : StateM Model Unit := do
  recordTables laravelSchema text "Eloquent Migration"
  recordTables doctrineTable text "Doctrine Entity"
  (eloquentModel.groupIn 1 text).forM fun name =>
    tell (.table (snakeCaseFrom false name) "Eloquent Model")
  recordTables createdTable text "Raw SQL"

def record (unit : SourceUnit) : StateM Model Fidelity := do
  let text := unit.text
  if unit.isManifest then
    recordManifest unit text
    return .manifest
  else
    let space? := (firstGroup? namespaceLine 1 text).map dotted
    space?.forM fun space => tell (.packageOf space)
    tell (.classes (typeDeclaration.count text))
    recordUses (space?.elim unit.unitName String.ofList) text
    recordFrameworks text frameworks
    recordSigns unit.unitName (designSigns text)
    recordEndpoints text
    recordSchemas text
    return .heuristic

end Php

namespace Jsp

def recordImports (page : String) (text : List Char) : StateM Model Unit :=
  (pageDirective.groupIn 1 text).forM fun directive =>
    (pageImport.groupIn 1 directive).forM fun names =>
      ((Text.pieces (· = ',') names).map Text.trim).forM fun name =>
        when (name ≠ [] && !isPlatformClass name) (tell (.depends page name "jsp-import"))

def recordTaglibs (text : List Char) : StateM Model Unit :=
  (taglib.occurrences text).forM fun m =>
    (m.group? 1).forM fun uri =>
      (m.group? 2).forM fun mark =>
        tell (.dependency
          ⟨"taglib", s!"{String.ofList (Text.lower uri)} (prefix:{String.ofList mark})", "taglib"⟩)

def recordPages (text : List Char) : StateM Model Unit := do
  (includeDirective.groupIn 1 text).forM fun file => tell (.package s!"include:{String.ofList file}")
  (action.occurrences text).forM fun m =>
    (m.group? 1).forM fun kind =>
      (m.group? 2).forM fun page =>
        tell (.package s!"{String.ofList (Text.lower kind)}:{String.ofList page}")

def recordEndpoints (text : List Char) : StateM Model Unit :=
  ((formAction.groupIn 1 text).map Text.trim).forM fun action =>
    when (action ≠ [] && !Text.startsWith action "#") <|
      tell (.endpoint s!"JSP:{String.ofList action}")

def recordSchemas (text : List Char) : StateM Model Unit := do
  when (sqlUsage.occursIn text) (tell (.schema "Table: SQL Usage (JSP)"))
  recordTables createdTable text "Raw SQL in JSP"

def record (unit : SourceUnit) : StateM Model Fidelity := do
  let text := unit.text
  let lowered := Text.lower text
  let page := unit.unitName
  recordImports page text
  recordTaglibs text
  recordPages text
  recordFrameworks lowered frameworks
  recordSigns page (designSigns text lowered)
  recordEndpoints text
  recordSchemas text
  when (scriptlet.occursIn text) (tell (.classes 1))
  when (expression.occursIn text) (tell (.package s!"el_usage:{page}"))
  return .heuristic

end Jsp

end CodeSurvey
