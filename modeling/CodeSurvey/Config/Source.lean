import CodeSurvey.Config.Reader
import CodeSurvey.FileTree.Lookup

/-!
# Where configurations come from

A configuration is read from the file that is asked for, or else from one of the usual names in a directory,
or else is empty. It is valid if it can be loaded at all.
-/

namespace CodeSurvey.Config

/-- Why a configuration cannot be loaded. -/
inductive LoadError where
  | unreadable (path : String) (cause : OsError)
  | notText (path : String)
  | malformed (path : String) (cause : ReadError)
  | invalid (cause : ConfigError)
deriving DecidableEq, Repr

namespace LoadError

def message : LoadError → String
  | unreadable path cause => "cannot parse config " ++ path ++ ": " ++ cause.message
  | notText path => "cannot parse config " ++ path ++ ": stream did not contain valid UTF-8"
  | malformed path cause => "cannot parse config " ++ path ++ ": " ++ cause.message
  | invalid cause => cause.message

end LoadError

/-- The names under which a configuration is looked for, in this order. -/
def fileNames : List String := ["archlens.yaml", ".archlens.yaml"]

def isFile (t : FileTree) (cwd : Location) (path : String) : Bool :=
  match t.find cwd path with
  | .ok (_, .file _) => true
  | _ => false

/-- The path of a configuration in a directory. -/
def discover (t : FileTree) (cwd : Location) (directory : String) : Option String :=
  (fileNames.map (Path.join directory)).find? (isFile t cwd)

def readFile (t : FileTree) (cwd : Location) (path : String) : Except LoadError Config := do
  let content ← (t.read cwd path).mapError (.unreadable path)
  match String.fromUTF8? content with
  | none => throw (.notText path)
  | some text => (ofYaml text.toList).mapError (.malformed path)

/-- Loads the configuration that is asked for, or one found in the directory, and tells where it is from. -/
def load (t : FileTree) (cwd : Location) (explicit : Option String) (directory : String) :
    Except LoadError (Config × Option String) := do
  let source := explicit <|> discover t cwd directory
  let config ← match source with
    | some path => readFile t cwd path
    | none => .ok ∅
  config.validate.mapError .invalid
  return (config, source)

end CodeSurvey.Config
