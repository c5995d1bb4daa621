import CodeSurvey.Instances

/-!
# The command line

A command line names a command and its arguments. Arguments are positional, or are announced by a switch: a
word behind two dashes or a letter behind one. Letters may share a dash, and a value may follow its switch
at once, after an equals sign, or as the next argument. Behind two dashes alone all arguments are
positional.

A value is taken in only when the next argument has been looked at, so an unknown switch is reported before
a bad value in front of it.
-/

namespace CodeSurvey

inductive OutputFormat where
  | pretty
  | json
deriving DecidableEq, Repr

namespace OutputFormat

def ofName? (name : String) : Option OutputFormat :=
  if name = "pretty" then some .pretty else if name = "json" then some .json else none

end OutputFormat

structure AnalyzeArguments where
  input : String
  /-- Where a record of the run is to be written. -/
  output : Option String
  format : OutputFormat
  config : Option String
  jobs : Option Nat
  verbose : Bool
  debug : Bool
deriving DecidableEq, Repr

structure LimitsArguments where
  config : Option String
  format : OutputFormat
deriving DecidableEq, Repr

inductive Command where
  /-- Analyze an archive or directory. -/
  | analyze (arguments : AnalyzeArguments)
  /-- Print the active resource limits. -/
  | limits (arguments : LimitsArguments)
deriving DecidableEq, Repr

/-- Why a command line names no command. Asking for help or for the version is among the reasons. -/
inductive UsageError where
  | helpWanted
  | versionWanted
  | nothingAsked
  | unknownCommand
  | unknownArgument
  | missingArgument
  | missingValue
  | impossibleValue
  | malformedValue
  | unwantedValue
  | repeated
deriving DecidableEq, Repr

namespace Arguments

/-- What can be given to a command. -/
inductive Parameter where
  | input
  | output
  | format
  | config
  | jobs
  | verbose
  | debug
  | help
deriving DecidableEq, Repr

namespace Parameter

def takesValue : Parameter → Bool
  | input | output | format | config | jobs => true
  | verbose | debug | help => false

/-- The word that announces it. -/
def word? : Parameter → Option String
  | input => none
  | output => some "output"
  | format => some "format"
  | config => some "config"
  | jobs => some "jobs"
  | verbose => some "verbose"
  | debug => some "debug"
  | help => some "help"

/-- The letter that announces it. -/
def letter? : Parameter → Option Char
  | input | debug => none
  | output => some 'o'
  | format => some 'f'
  | config => some 'c'
  | jobs => some 'j'
  | verbose => some 'v'
  | help => some 'h'

end Parameter

/-- A number of at most 64 bits, perhaps with a plus in front. -/
def jobs? (value : String) : Option Nat :=
  let digits := match value.toList with
    | '+' :: rest => rest
    | digits => digits
  let n := digits.foldl (fun n c => n * 10 + (c.toNat - '0'.toNat)) 0
  if digits ≠ [] && digits.all Char.isDigit && n < 2 ^ 64 then some n else none

/-- What is wrong with a value, if anything. -/
def valueError? (p : Parameter) (value : String) : Option UsageError :=
  match p with
  | .input | .config => if value = "" then some .missingValue else none
  | .format => if (OutputFormat.ofName? value).isNone then some .impossibleValue else none
  | .jobs => if (jobs? value).isNone then some .malformedValue else none
  | _ => none

/-- What a command accepts. -/
structure Grammar where
  switches : List Parameter
  positions : List Parameter

namespace Grammar

def analyze : Grammar := ⟨[.output, .format, .config, .jobs, .verbose, .debug, .help], [.input]⟩

def limits : Grammar := ⟨[.config, .format, .help], []⟩

end Grammar

/-- A command line that is being read. -/
structure Reading where
  /-- Values that have been taken in. -/
  given : List (Parameter × String)
  /-- A parameter that has not been taken in yet, with its value if that has been seen. -/
  waiting : Option (Parameter × Option String)
  /-- Parameters to which positional arguments still belong. -/
  positions : List Parameter
  onlyPositions : Bool

namespace Reading

def start (g : Grammar) : Reading := ⟨[], none, g.positions, false⟩

def has (r : Reading) (p : Parameter) : Bool := r.given.any (·.1 = p)

def value? (r : Reading) (p : Parameter) : Option String := r.given.lookup p

/-- Takes in a parameter, with a value if it needs one. -/
def take (r : Reading) (p : Parameter) (value : Option String) : Except UsageError Reading :=
  if p = .help then .error .helpWanted
  else if p.takesValue && value.isNone then .error .missingValue
  else if r.has p then .error .repeated
  else
    let value := value.getD ""
    match if p.takesValue then valueError? p value else none with
    | some e => .error e
    | none => .ok { r with given := (p, value) :: r.given }

/-- Takes in what is waiting. -/
def settle (r : Reading) : Except UsageError Reading :=
  match r.waiting with
  | none => .ok r
  | some (p, value) => { r with waiting := none }.take p value

/-- Takes in a parameter after what is waiting. -/
def takeNow (r : Reading) (p : Parameter) (value : Option String) : Except UsageError Reading := do
  (← r.settle).take p value

/-- Lets a parameter wait for its value. -/
def await (r : Reading) (p : Parameter) (value : Option String) : Except UsageError Reading := do
  return { ← r.settle with waiting := some (p, value) }

/-- Reads a word behind two dashes. -/
def word (g : Grammar) (r : Reading) (name : String) (value : Option String) :
    Except UsageError Reading :=
  match g.switches.find? (·.word? = some name) with
  | none => .error .unknownArgument
  | some p =>
    if p.takesValue then
      if value.isSome then r.takeNow p value else r.await p none
    else if value.isSome then .error .unwantedValue
    else r.takeNow p none

/-- Reads letters behind one dash. What follows a letter that takes a value is its value. -/
def letters (g : Grammar) (r : Reading) : List Char → Except UsageError Reading
  | [] => .ok r
  | c :: rest =>
    match g.switches.find? (·.letter? = some c) with
    | none => .error .unknownArgument
    | some p =>
      if p.takesValue then
        match rest with
        | [] => r.await p none
        | '=' :: value => r.takeNow p (some (String.ofList value))
        | value => r.takeNow p (some (String.ofList value))
      else do letters g (← r.takeNow p none) rest

def position (r : Reading) (argument : String) : Except UsageError Reading :=
  match r.positions with
  | [] => .error .unknownArgument
  | p :: rest => do return { ← r.await p (some argument) with positions := rest }

/-- A word and the value behind an equals sign, if there is one. -/
def splitValue (s : List Char) : String × Option String :=
  let name := s.takeWhile (· ≠ '=')
  let value := match s.drop name.length with
    | '=' :: value => some (String.ofList value)
    | _ => none
  (String.ofList name, value)

def argument (g : Grammar) (r : Reading) (a : String) : Except UsageError Reading :=
  if r.onlyPositions then r.position a
  else
    match a.toList with
    | ['-', '-'] => .ok { r with onlyPositions := true }
    | '-' :: '-' :: rest =>
      let (name, value) := splitValue rest
      r.word g name value
    | '-' :: c :: rest => r.letters g (c :: rest)
    | _ =>
      match r.waiting with
      | some (p, none) => .ok { r with waiting := some (p, some a) }
      | _ => r.position a

/-- Reads all arguments of a command. -/
def run (g : Grammar) (arguments : List String) : Except UsageError Reading := do
  let r ← arguments.foldlM (argument g) (start g)
  let r ← r.settle
  if g.positions.any fun p => !r.has p then throw .missingArgument
  return r

def format (r : Reading) : OutputFormat := ((r.value? .format).bind OutputFormat.ofName?).getD .pretty

end Reading

def analyze (arguments : List String) : Except UsageError Command := do
  let r ← Reading.run .analyze arguments
  return .analyze {
    input := (r.value? .input).getD ""
    output := r.value? .output
    format := r.format
    config := r.value? .config
    jobs := (r.value? .jobs).bind jobs?
    verbose := r.has .verbose
    debug := r.has .debug }

def limits (arguments : List String) : Except UsageError Command := do
  let r ← Reading.run .limits arguments
  return .limits { config := r.value? .config, format := r.format }

/-- The names of the commands. Help is a command that needs no arguments. -/
def commandNames : List String := ["analyze", "limits", "help"]

/-- What comes of asking for help, perhaps on one command. -/
def help : List String → UsageError
  | [] => .helpWanted
  | [name] => if name ∈ commandNames then .helpWanted else .unknownCommand
  | _ => .unknownCommand

/-- What is wrong with arguments that start with none of the commands. -/
def startError (first : String) (rest : List String) : UsageError :=
  match first.toList with
  | ['-', '-'] =>
    match rest with
    | [] => .nothingAsked
    | name :: _ => if name ∈ commandNames then .unknownArgument else .unknownCommand
  | '-' :: '-' :: word =>
    let (name, value) := Reading.splitValue word
    if name = "help" || name = "version" then
      if value.isSome then .unwantedValue
      else if name = "help" then .helpWanted else .versionWanted
    else .unknownArgument
  | '-' :: 'h' :: _ => .helpWanted
  | '-' :: 'V' :: _ => .versionWanted
  | '-' :: _ :: _ => .unknownArgument
  | _ => .unknownCommand

end Arguments

/-- Reads a command line. -/
def Command.parse : List String → Except UsageError Command
  | [] => .error .nothingAsked
  | "analyze" :: rest => Arguments.analyze rest
  | "limits" :: rest => Arguments.limits rest
  | "help" :: rest => .error (Arguments.help rest)
  | first :: rest => .error (Arguments.startError first rest)

end CodeSurvey
