import CodeSurvey.Analyzer.Basic

/-!
# Python

A file is a module, imports name the packages it needs, and five kinds of packaging manifest list the
dependencies of a project.
-/

namespace CodeSurvey.Python

open Pattern

/-- Modules of the standard library, and the usual short names of numeric packages. -/
def standardModules : List String :=
  ["abc", "argparse", "array", "ast", "asyncio", "atexit", "base64", "binascii", "bisect",
    "builtins", "bz2", "calendar", "cgi", "cmath", "cmd", "code", "codecs", "collections",
    "concurrent", "configparser", "contextlib", "contextvars", "copy", "copyreg", "cProfile",
    "csv", "ctypes", "curses", "dataclasses", "datetime", "dbm", "decimal", "difflib", "dis",
    "distutils", "doctest", "email", "encodings", "enum", "errno", "faulthandler", "fcntl",
    "filecmp", "fileinput", "fnmatch", "fractions", "ftplib", "functools", "gc", "getopt",
    "getpass", "gettext", "glob", "grp", "gzip", "hashlib", "heapq", "hmac", "html", "http",
    "imaplib", "importlib", "inspect", "io", "ipaddress", "itertools", "json", "keyword",
    "linecache", "locale", "logging", "lzma", "mailbox", "marshal", "math", "mimetypes", "mmap",
    "multiprocessing", "netrc", "numbers", "operator", "optparse", "os", "pathlib", "pdb",
    "pickle", "pkgutil", "platform", "plistlib", "poplib", "posix", "pprint", "profile",
    "pstats", "pty", "pwd", "py_compile", "pydoc", "queue", "random", "re", "readline",
    "reprlib", "resource", "runpy", "sched", "secrets", "select", "selectors", "shelve", "shlex",
    "shutil", "signal", "site", "smtplib", "socket", "socketserver", "sqlite3", "ssl", "stat",
    "statistics", "string", "struct", "subprocess", "symtable", "sys", "sysconfig", "syslog",
    "tarfile", "tempfile", "termios", "test", "textwrap", "threading", "time", "timeit",
    "tkinter", "token", "tokenize", "tomllib", "trace", "traceback", "tracemalloc", "tty",
    "types", "typing", "unicodedata", "unittest", "urllib", "uuid", "venv", "warnings", "wave",
    "weakref", "webbrowser", "winreg", "wsgiref", "xml", "xmlrpc", "zipapp", "zipfile",
    "zipimport", "zlib", "zoneinfo", "np", "pd", "tf", "plt"]

def importLine : Pattern := lineIndent ++ "import" ++ blanks1 ++ group 1 dottedWord

def fromImport : Pattern :=
  lineIndent ++ "from" ++ blanks1 ++ group 1 dottedWord ++ blanks1 ++ "import" ++ wordEdge

def classLine : Pattern := lineStart ++ "class" ++ blanks1 ++ word1

/-- The name of a distribution: a letter or digit, and then also dots, hyphens and underscores. -/
def distribution : Pattern :=
  group 1 (one .alphanumeric ++
    run (.asciiWord ||| .among ['.', '-']) 0 true)

def requirementStart : Pattern := textStart ++ distribution

def quotedRequirement : Pattern := quote ++ distribution ++ runOutside "\"'" 0 ++ quote

def tomlKey : Pattern :=
  textStart ++ optional "\"" ++ distribution ++ optional "\"" ++ blanks ++ "="

def tomlSection : Pattern := textStart ++ "[" ++ group 1 (runOutside "]" 1) ++ "]"

def dependencyArray : Pattern :=
  lineIndent ++ "dependencies" ++ blanks ++ "=" ++ blanks ++ "[" ++ group 1 (run .any 0 false) ++
    "]" ++ blanks ++ lineEnd

def requiresList : Pattern :=
  "install_requires" ++ blanks ++ "=" ++ blanks ++ "[" ++ group 1 (runOutside "]" 0) ++ "]"

def flaskRoute : Pattern :=
  "@" ++ word1 ++ ".route(" ++ blanks ++ quote ++ group 1 (runOutside "\"'" 1) ++ quote

def verbDecorator : Pattern :=
  "@" ++ word1 ++ "." ++ group 1 (words ["get", "post", "put", "patch", "delete"]) ++ "(" ++ blanks ++
    quote ++ group 2 (runOutside "\"'" 1) ++ quote

def djangoUrl : Pattern :=
  wordEdge ++ optional "re_" ++ "path(" ++ blanks ++ optional "r" ++ quote ++
    group 1 (runOutside "\"'" 0) ++ quote

def aiohttpRoute : Pattern :=
  "router.add_" ++ words ["get", "post", "put", "patch", "delete", "route"] ++ "(" ++ blanks ++
    quote ++ group 1 (runOutside "\"'" 1) ++ quote

def djangoModel : Pattern :=
  lineStart ++ "class" ++ blanks1 ++ group 1 word1 ++ blanks ++ "(" ++ runOutside ")" 0 ++
    "models.Model" ++ runOutside ")" 0 ++ ")"

def alchemyTable : Pattern :=
  "__tablename__" ++ blanks ++ "=" ++ blanks ++ quote ++ group 1 word1 ++ quote

def alembicTable : Pattern := "op.create_table(" ++ blanks ++ quote ++ group 1 word1 ++ quote

def sqlTable : Pattern :=
  wordEdge ++ words ["FROM", "INTO", "UPDATE"] ++ blanks1 ++ group 1 word1

def structureQuery : StructureQuery where
  typeKinds := ["class_definition"]
  packageKind? := none

def frameworks : List FrameworkRule := [
  ⟨"Django", ["from django", "import django", "django"]⟩,
  ⟨"Flask", ["from flask", "import flask", "Flask(", "flask"]⟩,
  ⟨"FastAPI", ["from fastapi", "FastAPI(", "fastapi"]⟩,
  ⟨"Tornado", ["import tornado", "tornado.web"]⟩,
  ⟨"Sanic", ["from sanic", "Sanic("]⟩,
  ⟨"Starlette", ["from starlette"]⟩,
  ⟨"aiohttp", ["import aiohttp", "from aiohttp"]⟩,
  ⟨"Falcon", ["import falcon"]⟩,
  ⟨"Bottle", ["from bottle", "import bottle"]⟩,
  ⟨"Django REST Framework (DRF)", ["rest_framework", "APIView", "viewsets.ModelViewSet"]⟩,
  ⟨"Pydantic", ["pydantic", "BaseModel"]⟩,
  ⟨"SQLAlchemy", ["sqlalchemy", "SQLAlchemy", "declarative_base", "sessionmaker"]⟩,
  ⟨"Peewee (ORM)", ["peewee"]⟩,
  ⟨"Tortoise ORM", ["from tortoise", "Tortoise.init"]⟩,
  ⟨"Alembic (DB Migration)", ["alembic"]⟩,
  ⟨"PyMongo (MongoDB)", ["pymongo", "MongoClient"]⟩,
  ⟨"Redis-py", ["import redis", "from redis", "redis"]⟩,
  ⟨"psycopg (PostgreSQL)", ["psycopg"]⟩,
  ⟨"asyncio", ["import asyncio", "async def"]⟩,
  ⟨"Celery", ["celery", "Celery("]⟩,
  ⟨"Kafka-python", ["from kafka", "KafkaProducer", "KafkaConsumer"]⟩,
  ⟨"Pika (RabbitMQ)", ["import pika"]⟩,
  ⟨"TensorFlow", ["tensorflow", "tf.keras"]⟩,
  ⟨"PyTorch", ["import torch", "from torch", "torch"]⟩,
  ⟨"scikit-learn", ["sklearn", "scikit-learn"]⟩,
  ⟨"Hugging Face Transformers", ["transformers", "AutoTokenizer"]⟩,
  ⟨"LangChain", ["langchain"]⟩,
  ⟨"OpenAI SDK", ["import openai", "from openai"]⟩,
  ⟨"NumPy", ["numpy"]⟩,
  ⟨"Pandas", ["pandas"]⟩,
  ⟨"Matplotlib", ["matplotlib"]⟩,
  ⟨"Graphene (GraphQL)", ["graphene"]⟩,
  ⟨"Strawberry (GraphQL)", ["strawberry"]⟩,
  ⟨"gRPC (Python)", ["import grpc", "from grpc"]⟩,
  ⟨"Scrapy", ["scrapy"]⟩,
  ⟨"BeautifulSoup", ["from bs4", "BeautifulSoup("]⟩,
  ⟨"Requests (HTTP)", ["import requests", "from requests"]⟩,
  ⟨"HTTPX (Async HTTP)", ["import httpx", "from httpx"]⟩,
  ⟨"Click (CLI)", ["import click", "@click.command"]⟩,
  ⟨"Typer (CLI)", ["import typer", "typer.Typer("]⟩,
  ⟨"argparse", ["import argparse", "ArgumentParser"]⟩,
  ⟨"pytest", ["import pytest", "@pytest.mark", "@pytest.fixture", "pytest"]⟩,
  ⟨"unittest", ["import unittest", "from unittest", "TestCase"]⟩,
  ⟨"Hypothesis (Property Testing)", ["from hypothesis", "@given("]⟩,
  ⟨"logging (stdlib)", ["import logging", "logging.getLogger"]⟩,
  ⟨"structlog", ["structlog"]⟩,
  ⟨"Loguru", ["loguru"]⟩,
  ⟨"python-dotenv", ["load_dotenv", "python-dotenv"]⟩,
  ⟨"dataclasses (stdlib)", ["from dataclasses", "@dataclass"]⟩]

def designs : List DesignRule := [
  ⟨"Singleton", ["singleton"], ["_instance = None", "cls._instance"]⟩,
  ⟨"Factory", ["factory"], ["def create(", "def make("]⟩,
  ⟨"Abstract Factory", ["abstract_factory", "abstractfactory"], []⟩,
  ⟨"Builder", ["builder"], ["def build(", "def with_"]⟩,
  ⟨"Strategy", ["strategy", "policy"], []⟩,
  ⟨"Observer / Event", ["observer", "listener", "event"], ["def notify(", "def subscribe(",
    "def publish("]⟩,
  ⟨"Command", ["command", "cmd"], ["def execute("]⟩,
  ⟨"Repository", ["repository", "repo"], []⟩,
  ⟨"Service Layer", ["service"], []⟩,
  ⟨"MVC Controller / View", ["controller", "view"], ["@app.route", "APIView"]⟩,
  ⟨"Adapter", ["adapter"], []⟩,
  ⟨"Facade", ["facade"], []⟩,
  ⟨"Proxy", ["proxy"], []⟩,
  ⟨"Iterator", [], ["def __iter__(", "def __next__("]⟩,
  ⟨"Context Manager", [], ["def __enter__(", "def __exit__("]⟩,
  ⟨"Mixin", ["mixin"], []⟩,
  ⟨"Use Case", ["usecase", "use_case"], []⟩,
  ⟨"DTO / Schema", ["dto", "schema"], ["@dataclass"]⟩,
  ⟨"Mapper", ["mapper"], []⟩]

/-- Words of a query language that may follow where a table is expected. -/
def queryWords : List String := ["select", "where", "join", "set", "values", "table"]

/-! ## Manifests -/

/-- The name of the distribution that a requirement begins with. -/
def requirementName? (requirement : List Char) : Option (List Char) :=
  firstGroup? requirementStart 1 (Text.trim requirement)

/-- One requirement a line. Comments and options begin with a number sign or a hyphen. -/
def requirementLines (text : List Char) : List (List Char) :=
  (((Text.lines text).map Text.trim).filter fun l =>
    !Text.startsWith l "#" && !Text.startsWith l "-").filterMap requirementName?

/-- The keys of those tables whose header passes a test. `inTable` says whether the nearest header
before the line passed it. -/
def tableKeys (wanted : List Char → Bool) (inTable : Bool) : List (List Char) → List (List Char)
  | [] => []
  | line :: rest =>
    let line := Text.trim line
    match firstGroup? tomlSection 1 line with
    | some header => tableKeys wanted (wanted header) rest
    | none =>
      (if inTable then (firstGroup? tomlKey 1 line).toList else []) ++ tableKeys wanted inTable rest

def pipfilePackages (text : List Char) : List (List Char) :=
  tableKeys (fun h => h = "packages".toList || h = "dev-packages".toList) false (Text.lines text)

/-- The requirements in arrays of dependencies, and the keys of Poetry's tables. -/
def projectDependencies (text : List Char) : List (List Char) :=
  (dependencyArray.groupIn 1 text).flatMap (quotedRequirement.groupIn 1) ++
    (tableKeys (fun h => Text.startsWith h "tool.poetry" && Text.endsWith h "dependencies") false
      (Text.lines text)).filter (· ≠ "python".toList)

/-- The quoted requirements in the first list of required packages. -/
def setupScriptRequires (text : List Char) : List (List Char) :=
  (firstGroup? requiresList 1 text).toList.flatMap (quotedRequirement.groupIn 1)

/-- Requirements in the line of `install_requires` and in the indented lines that follow it. -/
def setupConfigRequires (inBlock : Bool) : List (List Char) → List (List Char)
  | [] => []
  | line :: rest =>
    let trimmed := Text.trim line
    if Text.startsWith trimmed "install_requires" && trimmed.contains '=' then
      let inline := ((Text.splitFirst? '=' trimmed).map (·.2)).getD []
      (requirementName? inline).toList ++ setupConfigRequires true rest
    else if inBlock then
      if trimmed = [] || !(Text.startsWith line " " || Text.startsWith line "\t") then
        setupConfigRequires false rest
      else (requirementName? trimmed).toList ++ setupConfigRequires true rest
    else setupConfigRequires false rest

/-- The dependencies that a manifest lists, or `none` where the name is that of no manifest. -/
def manifestNames? (fileName : String) (text : List Char) : Option (List (List Char)) :=
  match String.ofList (Text.lower fileName.toList) with
  | "requirements.txt" => some (requirementLines text)
  | "pipfile" => some (pipfilePackages text)
  | "pyproject.toml" => some (projectDependencies text)
  | "setup.py" => some (setupScriptRequires text)
  | "setup.cfg" => some (setupConfigRequires false (Text.lines text))
  | _ => none

/-! ## Modules -/

/-- The first segment of a dotted name. -/
def root (name : List Char) : List Char := Text.firstPiece (· = '.') name

/-- Imports of packages outside the standard library. A relative import has an empty root. -/
def imports (module : String) (p : Pattern) (kind : String) (text : List Char) : List Fact :=
  (((p.groupIn 1 text).map root).filter fun r =>
    r ≠ [] && String.ofList r ∉ standardModules).map (Fact.depends module · kind)

def specialDesigns (unit : SourceUnit) (text : List Char) : List Fact :=
  let name := unit.unitName
  let file := Text.lower unit.fileName.toList
  Fact.onlyIf
      (text.contains '@' && (Text.contains text "functools.wraps" ||
        Text.contains file "decorator" || Text.contains file "middleware"))
      (.pattern "Decorator" name) ++
    Fact.onlyIf (Text.contains file "template" && Text.contains text "def ")
      (.pattern "Template Method" name)

def endpoints (text : List Char) : List Fact :=
  pathRoutesIn flaskRoute text "ROUTE" "Flask" ++
    methodRoutesIn verbDecorator text "FastAPI" ++
    (if Text.contains text "urlpatterns" then
      (djangoUrl.groupIn 1 text).map fun path => .route "URL".toList ('/' :: path) "Django"
      else []) ++
    pathRoutesIn aiohttpRoute text "ROUTE" "aiohttp"

def tables (text : List Char) : List Fact :=
  tablesIn djangoModel text "Django Model" ++
    tablesIn alchemyTable text "SQLAlchemy" ++
    tablesIn alembicTable text "Alembic Migration" ++
    ((sqlTable.groupIn 1 text).filter fun t => String.ofList (Text.lower t) ∉ queryWords).map
      (Fact.table · "Raw SQL")

/-- A package is named by the directory of its initialiser, a module by its file. -/
def moduleOf (unit : SourceUnit) : String :=
  if unit.fileName = "__init__.py" then parentModule unit.directory else unit.unitName

section

variable [Grammars]

def declarations (text : List Char) : Declarations :=
  declarationsBy .python structureQuery text [] (classLine.count text)

def analyze (unit : SourceUnit) : Reading :=
  let text := unit.text
  match manifestNames? unit.fileName text with
  | some names =>
    ⟨.manifest, names.map (Fact.depends unit.fileName · "dependency") ++ frameworksIn text frameworks⟩
  | none =>
    let module := moduleOf unit
    let declared := declarations text
    ⟨declared.fidelity,
      .package module ::
      .classes declared.typeCount ::
      imports module importLine "import" text ++
      imports module fromImport "from-import" text ++
      frameworksIn text frameworks ++
      designsIn unit.fileName unit.unitName text designs ++
      specialDesigns unit text ++
      endpoints text ++
      tables text⟩

end

end CodeSurvey.Python
