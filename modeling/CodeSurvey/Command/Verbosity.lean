/-!
# How much is logged

The flags of the command line choose one of three levels; each has a directive for the log filter.
-/

namespace CodeSurvey

inductive Verbosity where
  | quiet
  | verbose
  | debug
deriving DecidableEq, Repr

namespace Verbosity

/-- The louder of two flags wins. -/
def ofFlags (verbose debug : Bool) : Verbosity :=
  if debug then .debug else if verbose then .verbose else .quiet

def name : Verbosity → String
  | quiet => "Quiet"
  | verbose => "Verbose"
  | debug => "Debug"

def directive : Verbosity → String
  | quiet => "warn"
  | verbose => "archlens=info,warn"
  | debug => "archlens=debug,info"

end Verbosity

end CodeSurvey
