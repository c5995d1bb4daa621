import CodeSurvey.Glob.Reader
import CodeSurvey.Intake.Limits
import CodeSurvey.Survey.Basic
import CodeSurvey.Text.Quoted

/-!
# Configurations

A configuration may lower ceilings, choose the number of workers and exclude files. It can never raise a
ceiling: one that tries to is no valid configuration.
-/

namespace CodeSurvey

/-- Ceilings that take the place of the built-in ones. -/
structure LimitOverrides where
  maxArchiveSize : Option UInt64
  maxTotalBytes : Option UInt64
  maxFileCount : Option UInt64
  maxFileSize : Option UInt64
  maxCompressionRatio : Option UInt64
deriving DecidableEq, Repr

namespace LimitOverrides

def empty : LimitOverrides := ⟨none, none, none, none, none⟩

instance : EmptyCollection LimitOverrides := ⟨empty⟩

def get? (o : LimitOverrides) : Ceiling → Option UInt64
  | .archiveSize => o.maxArchiveSize
  | .totalBytes => o.maxTotalBytes
  | .fileCount => o.maxFileCount
  | .fileSize => o.maxFileSize
  | .compressionRatio => o.maxCompressionRatio

def set (o : LimitOverrides) (c : Ceiling) (n : Option UInt64) : LimitOverrides :=
  match c with
  | .archiveSize => { o with maxArchiveSize := n }
  | .totalBytes => { o with maxTotalBytes := n }
  | .fileCount => { o with maxFileCount := n }
  | .fileSize => { o with maxFileSize := n }
  | .compressionRatio => { o with maxCompressionRatio := n }

@[simp] theorem get?_set (o : LimitOverrides) (c c' : Ceiling) (n : Option UInt64) :
    (o.set c n).get? c' = if c = c' then n else o.get? c' := by
  cases c <;> cases c' <;> rfl

end LimitOverrides

structure Config where
  limits : LimitOverrides
  /-- How many files may be read at the same time. -/
  jobs : Option Nat
  /-- Globs for the files to be left out. -/
  excludedPaths : List String
deriving DecidableEq, Repr

/-- Why a configuration is not valid. -/
inductive ConfigError where
  | zeroLimit (ceiling : Ceiling)
  | raisedLimit (ceiling : Ceiling) (value : UInt64)
  | noJobs
  | badPattern (pattern : String) (cause : GlobError)
deriving DecidableEq, Repr

def ConfigError.message : ConfigError → String
  | zeroLimit ceiling => "limits." ++ ceiling.key ++ " must be greater than zero"
  | raisedLimit ceiling value =>
    "limits." ++ ceiling.key ++ " = " ++ toString value.toNat ++
      " exceeds the built-in ceiling of " ++ toString (Limits.builtin.get ceiling).toNat
  | noJobs => "jobs must be at least 1"
  | badPattern pattern cause =>
    "invalid excluded_paths pattern " ++ Text.quoted pattern ++ ": error parsing glob '" ++ pattern ++
      "': " ++ cause.message

namespace Config

/-- The configuration that changes nothing. -/
def empty : Config := ⟨∅, none, []⟩

instance : EmptyCollection Config := ⟨empty⟩

/-- The built-in ceilings, with those of the configuration in their places. -/
def effectiveLimits (c : Config) : Limits :=
  .ofFn fun ceiling => (c.limits.get? ceiling).getD (Limits.builtin.get ceiling)

/-- What is wrong with the value that a configuration gives to a ceiling, if anything. -/
def limitError? (c : Config) (ceiling : Ceiling) : Option ConfigError :=
  (c.limits.get? ceiling).bind fun value =>
    if value = 0 then some (.zeroLimit ceiling)
    else if Limits.builtin.get ceiling < value then some (.raisedLimit ceiling value)
    else none

def glob (pattern : String) : Except ConfigError Glob :=
  (Glob.parse pattern).mapError (.badPattern pattern)

def globs (c : Config) : Except ConfigError (List Glob) := c.excludedPaths.mapM glob

/-- Checks the ceilings in their order, then the number of workers, then the globs. -/
def validate (c : Config) : Except ConfigError Unit := do
  if let some e := Ceiling.all.findSome? c.limitError? then throw e
  if c.jobs = some 0 then throw .noJobs
  let _ ← c.globs

/-- The options for a survey. A number of workers that is asked for on the spot comes first; if none is asked
for at all, there are as many as the machine has available. There is always at least one. -/
def surveyOptions (c : Config) (jobs : Option Nat) (available : Nat := 1) :
    Except ConfigError SurveyOptions := do
  return {
    maxFileSize := c.effectiveLimits.maxFileSize
    jobs := max 1 ((jobs <|> c.jobs).getD available)
    excluded := ← c.globs }

end Config

end CodeSurvey
