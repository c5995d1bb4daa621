import CodeSurvey.Analyzer.Basic

/-!
# Kotlin

Package and imports, objects that are singletons by declaration, tables of three mapping libraries, and
the routes of three web libraries.
-/

namespace CodeSurvey.Kotlin

open Pattern

/-- Import roots that belong to the platform and not to a project. -/
def platformRoots : List String := ["java", "javax", "kotlin"]

def packageLine : Pattern := lineIndent ++ "package" ++ blanks1 ++ group 1 dottedWord

def importLine : Pattern := lineIndent ++ "import" ++ blanks1 ++ group 1 dottedWord

def typeDeclaration : Pattern :=
  lineIndent ++
    many (words ["public", "private", "protected", "internal", "open", "abstract", "data", "sealed",
      "enum", "annotation", "inline", "value"] ++ blanks1) ++
    words ["class", "interface", "object"] ++ blanks1 ++ word1

def topLevelObject : Pattern := lineIndent ++ "object" ++ blanks1 ++ word1

def springMapping : Pattern :=
  "@" ++ group 1 (words ["Get", "Post", "Put", "Patch", "Delete", "Request"]) ++ "Mapping" ++
    blanks ++ "(" ++ blanks ++ optional (oneOf ["value" ++ blanks ++ "=" ++ blanks,
      "path" ++ blanks ++ "=" ++ blanks]) ++ optional "[" ++ blanks ++ quote ++
    group 2 (runOutside "\"'" 1) ++ quote

def ktorRoute : Pattern :=
  wordEdge ++ group 1 (words ["get", "post", "put", "patch", "delete"]) ++ blanks ++ "(" ++ blanks ++
    "\"" ++ group 2 (runOutside "\"" 1) ++ "\"" ++ blanks ++ ")" ++ blanks ++ "\x7b"

def retrofitRoute : Pattern :=
  "@" ++ group 1 (words ["GET", "POST", "PUT", "PATCH", "DELETE"]) ++ "(" ++ blanks ++ "\"" ++
    group 2 (runOutside "\"" 1) ++ "\"" ++ blanks ++ ")"

def jpaTable : Pattern :=
  "@Table" ++ blanks ++ "(" ++ blanks ++ "name" ++ blanks ++ "=" ++ blanks ++ quote ++
    group 1 word1 ++ quote

def exposedTable : Pattern :=
  lineIndent ++ "object" ++ blanks1 ++ group 1 word1 ++ blanks ++ ":" ++ blanks ++
    optional (words ["Int", "Long", "UUID"]) ++ optional "Id" ++ "Table" ++ wordEdge

def roomEntity : Pattern :=
  "@Entity" ++ run .any 0 false ++ wordEdge ++ "class" ++ blanks1 ++ group 1 word1

def frameworks : List FrameworkRule := [
  ⟨"Spring Boot", ["@SpringBootApplication", "import org.springframework.boot"]⟩,
  ⟨"Spring MVC", ["@RestController", "@Controller", "import org.springframework.web"]⟩,
  ⟨"Spring Service", ["@Service", "import org.springframework.stereotype"]⟩,
  ⟨"Spring Data", ["@Repository", "JpaRepository", "CrudRepository"]⟩,
  ⟨"Jakarta Persistence (JPA)", ["import jakarta.persistence", "import javax.persistence"]⟩,
  ⟨"Hibernate", ["import org.hibernate"]⟩,
  ⟨"Spring Transaction", ["@Transactional"]⟩,
  ⟨"Spring Security", ["import org.springframework.security"]⟩,
  ⟨"Spring WebFlux (Reactive)", ["WebFlux", "Mono<", "Flux<"]⟩,
  ⟨"Ktor", ["import io.ktor", "embeddedServer", "routing \x7b"]⟩,
  ⟨"Vert.x", ["import io.vertx", "Verticle"]⟩,
  ⟨"Exposed (Kotlin ORM)", ["import org.jetbrains.exposed"]⟩,
  ⟨"Kotlin Coroutines", ["suspend fun", "import kotlinx.coroutines", "runBlocking"]⟩,
  ⟨"Arrow (Functional)", ["import arrow."]⟩,
  ⟨"Koin (DI)", ["import org.koin", "startKoin"]⟩,
  ⟨"Dagger/Hilt (DI)", ["import dagger"]⟩,
  ⟨"Android Jetpack", ["import androidx."]⟩,
  ⟨"Jetpack Compose", ["@Composable", "import androidx.compose"]⟩,
  ⟨"Room (Android DB)", ["import androidx.room"]⟩,
  ⟨"Android Architecture Components", ["ViewModel", "LiveData<", "StateFlow<"]⟩,
  ⟨"Retrofit", ["import retrofit2"]⟩,
  ⟨"OkHttp", ["import okhttp3", "OkHttpClient"]⟩,
  ⟨"kotlinx.serialization", ["kotlinx.serialization", "@Serializable"]⟩,
  ⟨"Jackson", ["import com.fasterxml.jackson", "ObjectMapper"]⟩,
  ⟨"Gson", ["import com.google.gson", "Gson()"]⟩,
  ⟨"Kotest", ["import io.kotest", "FunSpec(", "DescribeSpec("]⟩,
  ⟨"MockK", ["import io.mockk", "mockk<"]⟩,
  ⟨"JUnit", ["import org.junit", "@Test"]⟩,
  ⟨"AssertJ", ["import org.assertj"]⟩,
  ⟨"SLF4J", ["import org.slf4j", "LoggerFactory"]⟩,
  ⟨"kotlin-logging", ["import mu.KLogger", "KotlinLogging"]⟩,
  ⟨"GraphQL (Spring for GraphQL)", ["@QueryMapping"]⟩]

def designs : List DesignRule := [
  ⟨"Singleton (object)", ["singleton"], []⟩,
  ⟨"Builder", ["builder"], [".apply \x7b"]⟩,
  ⟨"Strategy", ["strategy", "policy"], []⟩,
  ⟨"Observer / Event", ["event", "listener"], ["EventBus", "SharedFlow"]⟩,
  ⟨"Repository", ["repository", "repo"], []⟩,
  ⟨"Service Layer", ["service"], []⟩,
  ⟨"MVC Controller", ["controller"], ["@RestController", "@Controller"]⟩,
  ⟨"Sealed Class (ADT)", [], ["sealed class", "sealed interface"]⟩,
  ⟨"Delegate / Decorator", ["decorator", "delegate"], ["by lazy"]⟩,
  ⟨"DTO/Data class", [], ["data class"]⟩,
  ⟨"Use Case", ["usecase", "use_case"], []⟩,
  ⟨"ViewModel (MVVM)", ["viewmodel"], ["ViewModel()"]⟩,
  ⟨"Mapper", ["mapper"], []⟩]

/-- The first segment of a dotted name. -/
def root (name : List Char) : String := String.ofList (Text.firstPiece (· = '.') name)

/-- Imports from outside the platform. -/
def imports (package : String) (text : List Char) : List Fact :=
  ((importLine.groupIn 1 text).filter fun imported => root imported ∉ platformRoots).map
    (Fact.depends package · "import")

def specialDesigns (unit : SourceUnit) (text : List Char) : List Fact :=
  let name := unit.unitName
  let file := Text.lower unit.fileName.toList
  Fact.onlyIf (topLevelObject.occursIn text && !Text.contains file "singleton")
      (.pattern "Singleton (object)" name) ++
    Fact.onlyIf
      (Text.contains file "factory" ||
        (Text.contains text "companion object" && Text.contains text "fun create("))
      (.pattern "Factory" name) ++
    Fact.onlyIf (Text.contains text "suspend fun" && Text.contains file "service")
      (.pattern "Coroutine Service" name)

def endpoints (text : List Char) : List Fact :=
  methodRoutesIn springMapping text "Spring MVC" ++
    (if Text.containsAny text ["routing", "io.ktor"] then methodRoutesIn ktorRoute text "Ktor"
      else []) ++
    methodRoutesIn retrofitRoute text "Retrofit"

def tables (text : List Char) : List Fact :=
  tablesIn jpaTable text "JPA Entity" ++
    tablesIn exposedTable text "Exposed" ++
    (if Text.contains text "androidx.room" then tablesIn roomEntity text "Room" else [])

def analyze (unit : SourceUnit) : Reading :=
  let text := unit.text
  let package := (firstGroup? packageLine 1 text).elim (parentModule unit.directory) String.ofList
  ⟨.heuristic,
    .package package ::
    .classes (typeDeclaration.count text) ::
    imports package text ++
    frameworksIn text frameworks ++
    Fact.onlyIf (Text.endsWith unit.fileName.toList ".kts" && Text.contains text "plugins \x7b")
      (.framework "Gradle Kotlin DSL") ++
    designsIn unit.fileName unit.unitName text designs ++
    specialDesigns unit text ++
    endpoints text ++
    tables text⟩

end CodeSurvey.Kotlin
