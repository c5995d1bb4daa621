import CodeSurvey.Archive.Basic
import CodeSurvey.FileTree.Change
import CodeSurvey.Intake.Budget
import CodeSurvey.Intake.EntryName
import CodeSurvey.Intake.Whitelist

/-!
# Unpacking an archive

The entries of an archive are placed one after the other below the root of a workspace. Nothing that an
entry says of itself is trusted: its name is vetted, its declared sizes only ever speak against it, and its
bytes are counted while they are written. A file that could not be written to its end is removed again.
-/

namespace CodeSurvey

/-- What became of one entry. -/
inductive EntryOutcome where
  | directory
  /-- A file of so many bytes. -/
  | written (size : Nat)
  | skipped (reason : EntrySkip)
  /-- A ceiling was reached while the entry was written. -/
  | stopped (reason : StopReason)
deriving DecidableEq, Repr

/-- What became of one entry, and what was done to the tree on the way. -/
structure Placement where
  outcome : EntryOutcome
  changes : List Change

namespace Placement

def skip (reason : EntrySkip) (changes : List Change) : Placement := ⟨.skipped reason, changes⟩

/-- Makes a directory of an entry. -/
def ofDirectory (t : FileTree) (root : Location) (names : List String) : Placement :=
  match t.makeDirectories root names with
  | (changes, none) => ⟨.directory, changes⟩
  | (changes, some _) => skip .writeFailed changes

/-- Writes a file into a directory that is there, under a cap on its size. -/
def ofContent (dest : Location) (cap : Allowance) (reads : List Read) : Placement :=
  let (outcome, chunks) := boundedCopy .unlimited cap.bytes reads 0 #[]
  let writing := .create dest :: chunks.toList.map (.append dest)
  match outcome with
  | .complete size => ⟨.written size, writing⟩
  | .exceeded =>
    let changes := writing ++ [.remove dest]
    if cap.boundedByTotal then ⟨.stopped .totalBytes, changes⟩ else skip .streamTooLarge changes
  | .failed _ => skip .writeFailed (writing ++ [.remove dest])

/-- Writes a file, making the directories above it first. -/
def ofFile (t : FileTree) (root : Location) (names : List String) (cap : Allowance)
    (reads : Thunk (List Read)) : Placement :=
  match t.makeDirectories root names.dropLast with
  | (changes, some _) => skip .writeFailed changes
  | (changes, none) =>
    match t.openFailure? (root ++ names) with
    | some _ => skip .writeFailed changes
    | none =>
      let p := ofContent (root ++ names) cap reads.get
      { p with changes := changes ++ p.changes }

/-- Places an entry below a root. An entry that is refused by its name or by its header is not opened and
leaves no trace. -/
def ofEntry (t : FileTree) (root : Location) (b : Budget) (e : Entry) : Placement :=
  match EntryName.components e.name with
  | .error _ => skip .unsafePath []
  | .ok names =>
    if e.isDirectory then ofDirectory t root names
    else if !isWhitelisted (names.getLast?.getD "") then skip .notWhitelisted []
    else
      match b.screen (some e.declaredSize) (some e.packedSize) with
      | .error reason => skip reason []
      | .ok () => ofFile t root names b.allowance e.reads

end Placement

/-- An unpacking between two entries. -/
structure Extraction where
  tree : FileTree
  budget : Budget
  stats : IntakeStats
  /-- What became of the entries so far, the last first. -/
  history : List Placement

namespace Extraction

def start (tree : FileTree) (limits : Limits) : Extraction := ⟨tree, .start limits, ∅, []⟩

/-- What an outcome means for the budget. -/
def charge (b : Budget) : EntryOutcome → Budget
  | .written size => b.commit size
  | .stopped reason => b.stop reason
  | _ => b

/-- What an outcome means for the tally. -/
def tally (s : IntakeStats) : EntryOutcome → IntakeStats
  | .directory => { s with directoriesCreated := s.directoriesCreated + 1 }
  | .skipped reason => s.recordSkip reason
  | _ => s

/-- Takes note of one more entry. -/
def record (x : Extraction) (p : Placement) : Extraction where
  tree := x.tree.applyAll p.changes
  budget := charge x.budget p.outcome
  stats := tally { x.stats with entriesSeen := x.stats.entriesSeen + 1 } p.outcome
  history := p :: x.history

/-- What becomes of the next entry. One that cannot be opened counts as a failure to write it. -/
def placement (x : Extraction) (root : Location) : Option Entry → Placement
  | none => .skip .writeFailed []
  | some e => .ofEntry x.tree root x.budget e

/-- Unpacks entries until one of them meets a ceiling. -/
def run (root : Location) : Entries → Extraction → Extraction
  | [], x => x
  | e :: rest, x =>
    match x.budget.beginEntry with
    | (.error _, budget) => { x with budget }
    | (.ok (), _) =>
      let p := x.placement root e
      match p.outcome with
      | .stopped _ => x.record p
      | _ => run root rest (x.record p)

/-- The tally, together with what the budget has been charged. -/
def finalStats (x : Extraction) : IntakeStats :=
  { x.stats with
    filesExtracted := x.budget.fileCount
    bytesExtracted := x.budget.totalBytes
    stopped := x.budget.stopped }

/-- Every change made so far, from first to last. -/
def changes (x : Extraction) : List Change := x.history.reverse.flatMap Placement.changes

end Extraction

/-- Unpacks an archive below a root. -/
def extract (tree : FileTree) (root : Location) (limits : Limits) (entries : Entries) : Extraction :=
  .run root entries (.start tree limits)

end CodeSurvey
