import CodeSurvey.Analyzer.Basic

/-!
# JavaScript and TypeScript

The directory is the module. Both languages are read alike, except that TypeScript counts as a
framework of its own.
-/

namespace CodeSurvey.JavaScript

open Pattern

def quoted : Pattern := quote ++ group 1 (runOutside "'\"" 1) ++ quote

def importLine : Pattern :=
  lineIndent ++ "import" ++ blanks1 ++
    optional (run .inLine 0 false ++ blanks1 ++ "from" ++ blanks1) ++ quoted

def requireCall : Pattern := "require(" ++ blanks ++ quoted ++ blanks ++ ")"

def typeDeclaration : Pattern :=
  wordEdge ++ words ["class", "interface", "type", "enum"] ++ blanks1 ++ word1

/-- A name that is bound to a function. -/
def functionValue : Pattern :=
  wordEdge ++ words ["const", "let", "var"] ++ blanks1 ++ word1 ++ blanks ++ "=" ++ blanks ++
    optional ("async" ++ blanks1) ++ oneOf ["function" ++ wordEdge, "("]

/-- An exported function that returns something with angle brackets in it. -/
def component : Pattern :=
  "export" ++ blanks1 ++ optional ("default" ++ blanks1) ++ "function" ++ blanks1 ++ word1 ++
    run .any 0 true ++ "return" ++ run .any 0 true ++ "<" ++ run .any 0 true ++ ">"

def middlewareSignature : Pattern := "(req," ++ blanks ++ "res," ++ blanks ++ "next)"

def mongooseSchema : Pattern :=
  "const" ++ blanks1 ++ group 1 word1 ++ "Schema" ++ blanks ++ "="

def entity : Pattern := "@Entity(" ++ blanks ++ quoted

def expressRoute : Pattern :=
  wordEdge ++ words ["app", "router"] ++ "." ++
    group 1 (words ["get", "post", "put", "delete", "patch"]) ++ "(" ++ blanks ++ quote ++
    group 2 (runOutside "'\"" 1) ++ quote

def nestRoute : Pattern :=
  "@" ++ group 1 (words ["Get", "Post", "Put", "Delete", "Patch"]) ++ "(" ++ blanks ++ quote ++
    group 2 (runOutside "'\"" 1) ++ quote ++ blanks ++ ")"

def structureQuery : StructureQuery where
  typeKinds := ["class_declaration"]
  packageKind? := none

/-- The types that only TypeScript has count too. -/
def typedQuery : StructureQuery where
  typeKinds := ["class_declaration", "abstract_class_declaration", "interface_declaration",
    "enum_declaration", "type_alias_declaration"]
  packageKind? := none

def frameworks : List FrameworkRule := [
  ⟨"React", ["from 'react'", "from \"react\""]⟩,
  ⟨"React Hooks", ["useState", "useEffect"]⟩,
  ⟨"Vue.js", ["from 'vue'", "from \"vue\""]⟩,
  ⟨"Angular", ["@angular/core", "@Component"]⟩,
  ⟨"Express.js", ["from 'express'", "from \"express\"", "require('express')",
    "require(\"express\")"]⟩,
  ⟨"Next.js", ["from 'next", "from \"next", "next/"]⟩,
  ⟨"NestJS", ["@nestjs/"]⟩,
  ⟨"Jest", ["from 'jest'", "describe(", "test("]⟩,
  ⟨"Mocha", ["from 'mocha'"]⟩,
  ⟨"Redux", ["from 'redux'", "useDispatch"]⟩,
  ⟨"Zustand", ["from 'zustand'"]⟩,
  ⟨"Mongoose", ["from 'mongoose'", "require('mongoose')"]⟩,
  ⟨"TypeORM", ["from 'typeorm'"]⟩,
  ⟨"Prisma", ["from 'prisma'", "@prisma/client"]⟩]

def designs : List DesignRule := [
  ⟨"Factory", ["factory"], ["create("]⟩,
  ⟨"Repository", ["repository", "repo"], []⟩,
  ⟨"Service Layer", ["service"], []⟩,
  ⟨"MVC Controller", ["controller"], []⟩,
  ⟨"Component", ["component"], ["@Component"]⟩,
  ⟨"Middleware", ["middleware"], []⟩]

/-- References to packages by their bare names. Paths that begin with a dot are local, and scoped names
are passed over. -/
def references (module : String) (p : Pattern) (kind : String) (text : List Char) : List Fact :=
  ((p.groupIn 1 text).filter fun target =>
    !Text.startsWith target "." && !Text.startsWith target "@").map fun target =>
      .depends module target kind

def specialDesigns (unit : SourceUnit) (text : List Char) : List Fact :=
  let name := unit.unitName
  let file := Text.lower unit.fileName.toList
  let has := Text.contains text
  Fact.onlyIf (has "getInstance" && has "static") (.pattern "Singleton" name) ++
    Fact.onlyIf (component.occursIn text && !Text.contains file "component")
      (.pattern "Component" name) ++
    Fact.onlyIf
      (Text.startsWith (Text.lower name.toList) "use" && (has "useState" || has "useEffect"))
      (.pattern "Custom Hook" name) ++
    Fact.onlyIf (middlewareSignature.occursIn text && !Text.contains file "middleware")
      (.pattern "Middleware" name)

def schemas (text : List Char) : List Fact :=
  (if Text.containsAny text ["new Schema(", "mongoose.Schema"] then
    (firstGroup? mongooseSchema 1 text).toList.map fun name =>
      .schema s!"Collection: {String.ofList name} (Mongoose)"
    else []) ++
  (firstGroup? entity 1 text).toList.map (Fact.table · "TypeORM") ++
  Fact.onlyIf (Text.contains text "PrismaClient") (.schema "Database: Prisma Client")

def endpoints (text : List Char) : List Fact :=
  let has := Text.contains text
  methodRoutesIn expressRoute text "Express" ++
    methodRoutesIn nestRoute text "NestJS" ++
    Fact.onlyIf (has "export default" && has "req" && has "res") (.endpoint "API Route (Next.js)")

section

variable [Grammars]

/-- TypeScript has a grammar of its own for files that may hold markup. -/
def declarations (typed : Bool) (fileName : String) (text : List Char) : Declarations :=
  let grammar : Grammar :=
    if !typed then .javaScript
    else if Text.endsWith (Text.lower fileName.toList) ".tsx" then .tsx
    else .typeScript
  declarationsBy grammar (if typed then typedQuery else structureQuery) text []
    (typeDeclaration.count text + functionValue.count text)

def analyze (typed : Bool) (unit : SourceUnit) : Reading :=
  let text := unit.text
  let module := parentModule unit.directory
  let declared := declarations typed unit.fileName text
  ⟨declared.fidelity,
    .package module ::
    .classes declared.typeCount ::
    references module importLine "import" text ++
    references module requireCall "require" text ++
    frameworksIn text frameworks ++
    Fact.onlyIf typed (.framework "TypeScript") ++
    designsIn unit.fileName unit.unitName text designs ++
    specialDesigns unit text ++
    schemas text ++
    endpoints text⟩

end

end CodeSurvey.JavaScript
