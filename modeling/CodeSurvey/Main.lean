import CodeSurvey.Command.Execution

/-!
# The program

Takes the part of the disk that a command can look at into a tree, carries out the command on the tree, and
brings what comes of it to the terminal and to the disk. It is built without grammars, so all sources are
read by patterns.
-/

namespace CodeSurvey.Program

/-- What is shown when help is wanted or a command line is not understood. -/
def usage : String :=
  "Usage: archlens analyze [OPTIONS] <INPUT>\n" ++
    "       archlens limits [OPTIONS]\n\n" ++
    "Commands:\n" ++
    "  analyze  Analyze an archive or directory\n" ++
    "  limits   Print the active resource limits\n" ++
    "  help     Print this message\n\n" ++
    "Options of analyze:\n" ++
    "  -o, --output <OUTPUT>  Directory to write analysis.json into\n" ++
    "  -j, --jobs <JOBS>      Worker threads for analysis\n" ++
    "  -v, --verbose          Log progress to stderr\n" ++
    "      --debug            Log per-file detail and print full error chains\n\n" ++
    "Options of all commands:\n" ++
    "  -f, --format <FORMAT>  Output format: pretty or json\n" ++
    "  -c, --config <CONFIG>  Path to config YAML file (default: auto-discover)\n" ++
    "  -h, --help             Print this message\n" ++
    "  -V, --version          Print the version"

/-! ## From the disk -/

/-- The location of a path without links. -/
def locationOf (path : String) : Location := (Path.normalize path).names

/-- A place on the disk, as an entry of a listing. -/
def onDisk (loc : Location) : IO.FS.DirEntry := ⟨Location.path loc, ""⟩

/-- What is at a location on the disk. The content of a file that cannot be read is empty. -/
def node? (loc : Location) (withContent : Bool) : IO (Option Node) := do
  match ← ((onDisk loc).root.symlinkMetadata).toBaseIO with
  | .error _ => return none
  | .ok data =>
    match data.type with
    | .dir => return some .directory
    | .symlink =>
      match ← (IO.FS.realPath (Location.path loc)).toBaseIO with
      | .ok target => return some (.link target.toString)
      | .error _ => return some (.link (Location.path loc ++ "\x01"))
    | _ =>
      if withContent then
        match ← (IO.FS.readBinFile (Location.path loc)).toBaseIO with
        | .ok content => return some (.file content)
        | .error _ => return some (.file .empty)
      else return some (.file .empty)

/-- Makes sure that a directory and all above it are in a tree. -/
def withDirectory (t : FileTree) (loc : Location) : FileTree :=
  t.applyAll (t.makeDirectories [] loc).1

/-- Takes in what the steps of a path lead past, and gives the location that they lead to. -/
def takePath (t : FileTree) (here : Location) : List String → IO (FileTree × Location)
  | [] => return (t, here)
  | "." :: rest => takePath t here rest
  | ".." :: rest => takePath t here.dropLast rest
  | name :: rest => do
    let loc := here ++ [name]
    match ← node? loc true with
    | none => return (t, loc)
    | some (.link target) =>
      let real := locationOf target
      match ← node? real true with
      | some .directory => takePath (withDirectory (t.insert loc (.link target)) real) real rest
      | some n =>
        return (((withDirectory t real.dropLast).insert loc (.link target)).insert real n, real)
      | none => return (t.insert loc (.link target), loc)
    | some n => takePath (t.insert loc n) loc rest

/-- Takes in everything below a directory. Only files that may be sources need their content. -/
partial def takeBelow (t : FileTree) (here : Location) : IO FileTree := do
  match ← ((onDisk here).root.readDir).toBaseIO with
  | .error _ => return t
  | .ok entries =>
    let mut t := t
    for entry in entries do
      let loc := here ++ [entry.fileName]
      match ← node? loc (Language.ofFileName entry.fileName).isKnown with
      | some .directory => t ← takeBelow (t.insert loc .directory) loc
      | some n => t := t.insert loc n
      | none => pure ()
    return t

/-- Takes in a path as it is understood at a working directory. -/
def takeRaw (t : FileTree) (cwd : Location) (raw : String) : IO (FileTree × Location) :=
  takePath t (if Path.isAbsolute raw then [] else cwd) (FileTree.steps raw)

/-- Takes in what a command can look at. -/
def treeFor (cwd : Location) (c : Command) : IO FileTree := do
  let (config, input, output) := match c with
    | .analyze a => (a.config, some a.input, a.output)
    | .limits a => (a.config, none, none)
  let mut t := withDirectory ∅ cwd
  for raw in config.elim Config.fileNames ([·]) ++ output.toList do
    t := (← takeRaw t cwd raw).1
  if let some raw := input then
    let (withInput, root) ← takeRaw t cwd raw
    t ← if withInput.isDirectory root then takeBelow withInput root else pure withInput
  return t

/-! ## To the disk -/

def carryOut : Change → IO Unit
  | .makeDirectory loc => IO.FS.createDir (Location.path loc)
  | .create loc => IO.FS.writeBinFile (Location.path loc) .empty
  | .append loc chunk => do (← IO.FS.Handle.mk (Location.path loc) .append).write chunk
  | .remove loc => IO.FS.removeFile (Location.path loc)

def main (arguments : List String) : IO UInt32 := do
  let stdout ← IO.getStdout
  let stderr ← IO.getStderr
  match Command.parse arguments with
  | .error .helpWanted => stdout.putStrLn usage; return 0
  | .error .versionWanted => stdout.putStrLn ("archlens " ++ version); return 0
  | .error _ => stderr.putStrLn usage; return 2
  | .ok command =>
    let cwd := locationOf (← IO.currentDir).toString
    let o := command.execute (← treeFor cwd command) cwd (← stdout.isTty)
    o.changes.forM carryOut
    stdout.putStr o.stdout
    stderr.putStr o.stderr
    return UInt32.ofNat o.code

end CodeSurvey.Program

def main (arguments : List String) : IO UInt32 := CodeSurvey.Program.main arguments
