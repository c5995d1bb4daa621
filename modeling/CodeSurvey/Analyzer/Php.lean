import CodeSurvey.Analyzer.Basic
import CodeSurvey.Analyzer.Composer

/-!
# PHP

Namespace and uses, and the dependency files of Composer. Design patterns are told from the text of a
file, in which classes are named after them.
-/

namespace CodeSurvey.Php

open Pattern

/-- Root namespaces of the classes that come with the language. -/
def builtinRoots : List String :=
  ["Exception", "RuntimeException", "InvalidArgumentException", "LogicException",
    "BadMethodCallException", "OutOfRangeException", "OverflowException",
    "UnexpectedValueException", "DomainException", "LengthException", "ArrayAccess", "Countable",
    "Iterator", "IteratorAggregate", "Serializable", "Stringable", "Throwable", "Traversable",
    "DateTime", "DateTimeImmutable", "DateTimeInterface", "DateInterval", "DateTimeZone",
    "SplStack", "SplQueue", "SplHeap", "SplObjectStorage", "SplFixedArray", "stdClass",
    "Closure", "Generator", "Fiber", "ReflectionClass", "ReflectionMethod", "ReflectionProperty",
    "PDO", "PDOStatement", "PDOException"]

def qualifiedName : Pattern := run (.word ||| .exactly '\\') 1 true

def namespaceLine : Pattern :=
  lineIndent ++ "namespace" ++ blanks1 ++ group 1 qualifiedName ++ blanks ++ ";"

def useLine : Pattern :=
  lineIndent ++ "use" ++ blanks1 ++ optional "\\" ++ group 1 qualifiedName ++
    optional (blanks1 ++ "as" ++ blanks1 ++ word1) ++ blanks ++ ";"

def typeDeclaration : Pattern :=
  lineIndent ++ many (wordsAnyCase ["abstract", "final", "readonly"] ++ blanks1) ++
    wordsAnyCase ["class", "interface", "trait", "enum"] ++ blanks1 ++ word1

def packagePart : Pattern :=
  run (.asciiWord ||| .among ['.', '-']) 1 true

/-- A package and its constraint, wherever they stand in a file. -/
def packageEntry : Pattern :=
  "\"" ++ group 1 (packagePart ++ "/" ++ packagePart) ++ "\"" ++ blanks ++ ":" ++ blanks ++ "\"" ++
    runOutside "\"" 0 ++ "\""

def quotedPath : Pattern := quote ++ group 1 (runOutside "'\"" 1) ++ quote

def laravelRoute : Pattern :=
  anyCase "route" ++ blanks ++ "::" ++ blanks ++
    wordsAnyCase ["get", "post", "put", "patch", "delete", "any", "match", "resource",
      "apiresource"] ++ blanks ++ "(" ++ blanks ++ quotedPath

def symfonyRoute : Pattern :=
  words ["#[Route", "@Route"] ++ "(" ++ blanks ++ optional ("path:" ++ blanks) ++ quotedPath

def slimRoute : Pattern :=
  anyCase "$app" ++ blanks ++ "->" ++ blanks ++
    wordsAnyCase ["get", "post", "put", "patch", "delete", "any"] ++ blanks ++ "(" ++ blanks ++
    quotedPath

def quotedWord : Pattern := quote ++ group 1 word1 ++ quote

def laravelSchema : Pattern :=
  "Schema" ++ blanks ++ "::" ++ blanks ++ "create" ++ blanks ++ "(" ++ blanks ++ quotedWord

def doctrineTable : Pattern :=
  oneOf ["@" ++ optional "ORM\\" ++ "Table", "#[ORM\\Table"] ++ blanks ++ "(" ++ blanks ++ "name" ++
    blanks ++ oneIn ":=" ++ blanks ++ quotedWord

def eloquentModel : Pattern :=
  lineIndent ++ "class" ++ blanks1 ++ group 1 word1 ++ blanks1 ++ "extends" ++ blanks1 ++
    words ["Model", "Eloquent", "Authenticatable"] ++ wordEdge

def createdTable : Pattern := createTable ++ optional (oneIn "`'\"") ++ group 1 word1

def frameworks : List FrameworkRule := [
  ⟨"Laravel", ["laravel/framework", "Illuminate\\", "Route::", "artisan"]⟩,
  ⟨"Symfony", ["symfony/", "Symfony\\", "FrameworkBundle"]⟩,
  ⟨"WordPress", ["wp_enqueue", "add_action(", "add_filter(", "WP_Query", "wp-content"]⟩,
  ⟨"CodeIgniter", ["CodeIgniter\\", "CI_Controller", "CI_Model", "$this->load->"]⟩,
  ⟨"Yii2", ["yii\\", "Yii::$app", "yiisoft/yii2"]⟩,
  ⟨"CakePHP", ["cakephp", "Cake\\"]⟩,
  ⟨"Slim Framework", ["slim/slim", "Slim\\", "$app->get(", "$app->post("]⟩,
  ⟨"Lumen", ["laravel/lumen", "Laravel\\Lumen"]⟩,
  ⟨"Phalcon", ["Phalcon\\"]⟩,
  ⟨"Laminas (Zend)", ["laminas", "Laminas\\", "Zend\\"]⟩,
  ⟨"Eloquent ORM", ["Illuminate\\Database", "extends Model", "HasMany", "BelongsTo"]⟩,
  ⟨"Doctrine ORM", ["doctrine/orm", "Doctrine\\ORM", "#[ORM\\Entity", "@ORM\\Entity",
    "EntityManager"]⟩,
  ⟨"PDO", ["new PDO(", "PDO::FETCH", "PDO::ATTR"]⟩,
  ⟨"MySQLi", ["mysqli_connect", "new mysqli("]⟩,
  ⟨"Redis (PHP)", ["predis/predis", "Predis\\", "new Redis()"]⟩,
  ⟨"MongoDB (PHP)", ["mongodb/mongodb", "MongoDB\\"]⟩,
  ⟨"Twig", ["twig/twig", "Twig\\"]⟩,
  ⟨"Smarty", ["new Smarty", "$smarty->"]⟩,
  ⟨"JWT Auth (PHP)", ["tymon/jwt-auth", "firebase/php-jwt", "Firebase\\JWT"]⟩,
  ⟨"Laravel Sanctum", ["laravel/sanctum", "HasApiTokens"]⟩,
  ⟨"Swoole", ["Swoole\\"]⟩,
  ⟨"ReactPHP", ["react/event-loop", "React\\EventLoop"]⟩,
  ⟨"Guzzle HTTP", ["guzzlehttp/guzzle", "GuzzleHttp\\"]⟩,
  ⟨"API Platform", ["api-platform/core", "ApiPlatform\\", "#[ApiResource"]⟩,
  ⟨"PHPUnit", ["phpunit/phpunit", "PHPUnit\\", "extends TestCase"]⟩,
  ⟨"Pest (PHP)", ["pestphp/pest"]⟩,
  ⟨"Mockery", ["mockery/mockery", "Mockery::"]⟩,
  ⟨"PHP Dotenv", ["vlucas/phpdotenv", "Dotenv\\"]⟩,
  ⟨"Monolog (Logging)", ["monolog/monolog", "Monolog\\"]⟩,
  ⟨"PHPMailer", ["phpmailer/phpmailer", "PHPMailer\\"]⟩,
  ⟨"Carbon (Date)", ["nesbot/carbon", "Carbon\\", "Carbon::"]⟩]

/-! ## Dependency files -/

/-- Requirements on the platform and not on a package. -/
def isPlatformRequirement (name : String) : Bool :=
  name == "php" || Text.startsWith name.toList "ext-" || Text.startsWith name.toList "lib-"

/-- The packages of a dependency file. Where it cannot be read as a whole, whatever looks like a package
with its constraint counts. -/
def packages (fileName : String) (text : List Char) : List String :=
  let names? :=
    if Text.lower fileName.toList = "composer.lock".toList then Composer.lockNames? text
    else Composer.manifestNames? text
  names?.getD ((packageEntry.groupIn 1 text).map String.ofList)

def manifest (unit : SourceUnit) (text : List Char) : List Fact :=
  ((packages unit.fileName text).filter fun n => !isPlatformRequirement n).map
      (fun name => .dependency ⟨unit.fileName, name, "dependency"⟩) ++
    frameworksIn text frameworks

/-! ## Classes -/

def dotted (name : List Char) : List Char := Text.replaceChar '\\' '.' name

/-- Uses of names outside the language's own classes. -/
def uses (source : String) (text : List Char) : List Fact :=
  ((useLine.groupIn 1 text).filter fun name =>
    String.ofList (Text.firstPiece (· = '\\') name) ∉ builtinRoots).map fun name =>
      .depends source (dotted name) "use"

/-- The design patterns, each with what gives it away. -/
def designSigns (text : List Char) : List (String × Bool) :=
  let has := Text.contains text
  let hasWord := Text.contains (Text.lower text)
  let interface := has "interface "
  [("Singleton", has "private static $instance" || has "private static $_instance" ||
      has "getInstance()"),
    ("Factory", has "interface Factory" || (hasWord "factory" && has "create(")),
    ("Repository", has "interface Repository" || hasWord "repository"),
    ("Service Layer", has "interface ServiceInterface" || (hasWord "service" && interface)),
    ("Observer", (has "attach(" && has "notify(") || has "ShouldBroadcast"),
    ("Decorator", has "extends Decorator" || (hasWord "decorator" && interface)),
    ("Strategy", has "interface Strategy" || (hasWord "strategy" && interface)),
    ("Command", (has "interface Command" || hasWord "command") && has "execute("),
    ("Builder", has "interface Builder" || (hasWord "builder" && has "build(")),
    ("Middleware", hasWord "middleware" && has "handle("),
    ("MVC Controller", has "abstract class Controller" || has "extends Controller"),
    ("DTO/Request", has "Request $request" || has "FormRequest"),
    ("Resource/Transformer", has "#[ApiResource" || (hasWord "resource" && has "toArray(")),
    ("Trait/Mixin", has "trait "),
    ("Event/Listener", has "extends Event" || has "ShouldQueue"),
    ("Migration", has "extends Migration")]

def designs (unit : String) (text : List Char) : List Fact :=
  ((designSigns text).filter (·.2)).map fun (name, _) => .pattern name unit

def endpoints (text : List Char) : List Fact :=
  [laravelRoute, symfonyRoute, slimRoute].flatMap fun p =>
    (p.groupIn 1 text).map fun path => .endpoint s!"PHP:{String.ofList path}"

def tables (text : List Char) : List Fact :=
  tablesIn laravelSchema text "Eloquent Migration" ++
    tablesIn doctrineTable text "Doctrine Entity" ++
    (eloquentModel.groupIn 1 text).map
      (fun name => .table (snakeCaseFrom false name) "Eloquent Model") ++
    tablesIn createdTable text "Raw SQL"

def analyze (unit : SourceUnit) : Reading :=
  let text := unit.text
  if unit.isManifest then ⟨.manifest, manifest unit text⟩
  else
    let space? := (firstGroup? namespaceLine 1 text).map dotted
    ⟨.heuristic,
      space?.toList.map .packageOf ++
      .classes (typeDeclaration.count text) ::
      uses (space?.elim unit.unitName String.ofList) text ++
      frameworksIn text frameworks ++
      designs unit.unitName text ++
      endpoints text ++
      tables text⟩

end CodeSurvey.Php
