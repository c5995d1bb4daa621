import CodeSurvey.Config.Basic
import CodeSurvey.Text.Basic
import CodeSurvey.Yaml.Plain

/-!
# Reading configurations

A configuration is a YAML document with a mapping in which every field may be missing. Fields that are not
known are passed over. What does not fit is reported with the way that leads to it.
-/

namespace CodeSurvey

namespace Config

/-- What does not fit in a document. -/
inductive Misfit where
  | unexpected (found : Yaml.Found) (expected : String)
  | duplicateField (name : String)
  /-- Something that is not what its tag says. -/
  | mistagged (text : String) (kind : Yaml.Kind)
deriving DecidableEq, Repr

def Misfit.message : Misfit → String
  | unexpected found expected => "invalid type: " ++ found.describe ++ ", expected " ++ expected
  | duplicateField name => "duplicate field `" ++ name ++ "`"
  | mistagged text kind => "invalid value: string " ++ Text.quoted text ++ ", expected " ++ kind.name

/-- The way to a node in a document, and where it is. -/
structure Spot where
  path : String
  mark : Yaml.Mark
deriving DecidableEq, Repr

namespace Spot

def root : Spot := ⟨"", .start⟩

/-- The way to the value of a field. A field that is named by an alias has no name. -/
def field (s : Spot) (name : Option String) : Spot :=
  let name := name.getD "?"
  { s with path := if s.path = "" then name else s.path ++ "." ++ name }

def item (s : Spot) (n : Nat) : Spot := { s with path := s.path ++ "[" ++ toString n ++ "]" }

def moveTo (s : Spot) (mark : Yaml.Mark) : Spot := { s with mark }

end Spot

/-- Why a text is no configuration. -/
inductive ReadError where
  | syntaxError (e : Yaml.Error)
  | misfit (m : Misfit) (spot : Spot)
  | manyDocuments
deriving DecidableEq, Repr

def ReadError.message : ReadError → String
  | syntaxError e => e.message
  | misfit m spot =>
    (if spot.path = "" then "" else spot.path ++ ": ") ++ m.message ++ spot.mark.text
  | manyDocuments => "deserializing from YAML containing more than one document is not supported"

section

variable (d : Yaml.Document)

/-- The reason that a document is not finished. -/
def unfinished {α : Type} : Except ReadError α :=
  .error (.syntaxError (d.failure.getD (.plain .noContent .start)))

/-- The node that an alias stands for. -/
def resolve (n : Yaml.Node) : Yaml.Node :=
  match n with
  | .reference number => (d.named.lookup number).getD .unfinished
  | n => n

/-- Reports a node that is not what was expected. -/
def unexpected {α : Type} (spot : Spot) (expected : String) (n : Yaml.Node) : Except ReadError α :=
  match n with
  | .scalar mark tag style text =>
    match Yaml.Found.ofScalar tag style text with
    | .ok found => .error (.misfit (.unexpected found expected) (spot.moveTo mark))
    | .error kind => .error (.misfit (.mistagged text kind) (spot.moveTo mark))
  | .sequence mark _ => .error (.misfit (.unexpected .sequence expected) (spot.moveTo mark))
  | .mapping mark _ => .error (.misfit (.unexpected .mapping expected) (spot.moveTo mark))
  | .reference _ | .unfinished => unfinished d

/-- A text, in whatever style it is written. -/
def readText (spot : Spot) (n : Yaml.Node) : Except ReadError String :=
  match resolve d n with
  | .scalar _ _ _ text => .ok text
  | other => unexpected d spot "a string" other

/-- A number of at most 64 bits. It has to be written without quotes, or in a block that is tagged. -/
def readNumber (expected : String) (spot : Spot) (n : Yaml.Node) : Except ReadError UInt64 :=
  match n with
  | .scalar _ tag style text =>
    let mayBeNumber := style = .plain || (style = .literal && tag = some Yaml.Kind.integer.tag)
    match if mayBeNumber then Yaml.natural? text.toList else none with
    | some value =>
      if value < 2 ^ 64 then .ok (UInt64.ofNat value) else unexpected d spot expected n
    | none => unexpected d spot expected n
  | other => unexpected d spot expected other

/-- A number, or nothing. -/
def readOptionalNumber (expected : String) (outer spot : Spot) (n : Yaml.Node) :
    Except ReadError (Option UInt64) :=
  let n := resolve d n
  match n with
  | .scalar _ tag .plain text =>
    if tag = some Yaml.Kind.nothing.tag then
      if Yaml.isNull text then .ok none else .error (.misfit (.mistagged text .nothing) outer)
    else if tag.isNone && (text = "" || Yaml.isNull text) then .ok none
    else (readNumber d expected spot n).map some
  | _ => (readNumber d expected spot n).map some

/-- Texts in a sequence. -/
def readTexts (spot : Spot) (n : Yaml.Node) : Except ReadError (List String) :=
  match resolve d n with
  | .sequence _ items => items.zipIdx.mapM fun (item, i) => readText d (spot.item i) item
  | .scalar mark tag .plain text =>
    if text = "" then .ok [] else unexpected d spot "a sequence" (.scalar mark tag .plain text)
  | other => unexpected d spot "a sequence" other

/-- The entries of a mapping, and where it is. -/
def readEntries (expected : String) (spot : Spot) (n : Yaml.Node) :
    Except ReadError (Spot × List (Yaml.Node × Yaml.Node)) :=
  match resolve d n with
  | .mapping mark entries => .ok (spot.moveTo mark, entries)
  | .scalar mark tag .plain text =>
    if text = "" then .ok (spot.moveTo mark, [])
    else unexpected d spot expected (.scalar mark tag .plain text)
  | other => unexpected d spot expected other

/-- The name of a field, and the way to its value. -/
def readName (spot : Spot) (key : Yaml.Node) : Except ReadError (String × Spot) :=
  match key, resolve d key with
  | .scalar _ _ _ text, _ => .ok (text, spot.field (some text))
  | _, .scalar _ _ _ text => .ok (text, spot.field none)
  | _, other => unexpected d spot "field identifier" other

/-- Goes through the entries of a mapping. Known fields may occur once and are taken in one after the
other; `take` is given the way to the mapping and the way to the value. -/
def readFields {φ α : Type} [DecidableEq φ] (known : String → Option φ)
    (take : α → φ → Spot → Spot → Yaml.Node → Except ReadError α) (here : Spot) :
    List (Yaml.Node × Yaml.Node) → (seen : List φ) → α → Except ReadError α
  | [], _, value => .ok value
  | (key, n) :: entries, seen, value => do
    let (name, spot) ← readName d here key
    match known name with
    | none => readFields known take here entries seen value
    | some field =>
      if field ∈ seen then throw (.misfit (.duplicateField name) here)
      readFields known take here entries (field :: seen) (← take value field here spot n)

def readLimits (spot : Spot) (n : Yaml.Node) : Except ReadError LimitOverrides := do
  let (here, entries) ← readEntries d "struct LimitOverrides" spot n
  let known (name : String) : Option Ceiling := Ceiling.all.find? (·.key = name)
  let expected (c : Ceiling) : String := if c = .fileCount then "usize" else "u64"
  readFields d known (fun limits c outer spot n => do
    return limits.set c (← readOptionalNumber d (expected c) outer spot n)) here entries [] ∅

/-- The fields of a configuration. -/
inductive Field where
  | limits
  | jobs
  | excludedPaths
deriving DecidableEq, Repr

def Field.ofName? (name : String) : Option Field :=
  if name = "limits" then some .limits
  else if name = "jobs" then some .jobs
  else if name = "excluded_paths" then some .excludedPaths
  else none

def readConfig (n : Yaml.Node) : Except ReadError Config := do
  let (here, entries) ← readEntries d "struct Config" .root n
  readFields d Field.ofName? (fun config field outer spot n => do
    match field with
    | .limits => return { config with limits := ← readLimits d spot n }
    | .jobs => return { config with jobs := (← readOptionalNumber d "usize" outer spot n).map (·.toNat) }
    | .excludedPaths => return { config with excludedPaths := ← readTexts d spot n })
    here entries [] ∅

end

/-- The configuration that a document describes. It is the only document of its text. -/
def ofDocument (d : Yaml.Document) : Except ReadError Config := do
  let config ← match d.root with
    | some n => readConfig d n
    | none => .ok ∅
  if d.failure.isSome then unfinished d
  if !d.alone then throw .manyDocuments
  return config

/-- Reads a configuration. A text of blanks is the empty one. -/
def ofYaml (text : List Char) : Except ReadError Config :=
  if (Text.trim text).isEmpty then .ok ∅ else ofDocument (.ofText text)

end Config

end CodeSurvey
