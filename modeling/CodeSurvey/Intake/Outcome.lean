import CodeSurvey.SortedMap

/-!
# What becomes of archive entries

Reasons for leaving out an entry, reasons for stopping before the last one, and the tally of a whole
run. None of them is an error: a run that leaves entries out still succeeds.
-/

namespace CodeSurvey

/-- Why an entry was not unpacked. -/
inductive EntrySkip where
  | unsafePath
  | notWhitelisted
  | declaredTooLarge
  | compressionRatio
  | streamTooLarge
  | writeFailed
deriving DecidableEq, Repr

namespace EntrySkip

/-- The name used in records. -/
def key : EntrySkip → String
  | unsafePath => "unsafe_path"
  | notWhitelisted => "not_whitelisted"
  | declaredTooLarge => "declared_too_large"
  | compressionRatio => "compression_ratio"
  | streamTooLarge => "stream_too_large"
  | writeFailed => "write_failed"

/-- The wording used in summaries. -/
def description : EntrySkip → String
  | unsafePath => "unsafe path"
  | notWhitelisted => "not whitelisted"
  | declaredTooLarge => "declared size too large"
  | compressionRatio => "suspicious compression ratio"
  | streamTooLarge => "decompressed size too large"
  | writeFailed => "write failed"

/-- Reasons are listed in the order of their declaration. -/
instance : LT EntrySkip := ⟨fun a b => a.ctorIdx < b.ctorIdx⟩

instance : DecidableLT EntrySkip := fun a b =>
  inferInstanceAs (Decidable (a.ctorIdx < b.ctorIdx))

instance : Trans (α := EntrySkip) (· < ·) (· < ·) (· < ·) := ⟨fun h k => Nat.lt_trans h k⟩

end EntrySkip

/-- Which ceiling ended the unpacking before the last entry. -/
inductive StopReason where
  | fileCount
  | totalBytes
deriving DecidableEq, Repr

namespace StopReason

/-- The name used in records. -/
def key : StopReason → String
  | fileCount => "file_count"
  | totalBytes => "total_bytes"

/-- The wording used in summaries. -/
def description : StopReason → String
  | fileCount => "file count ceiling reached"
  | totalBytes => "total decompressed size ceiling reached"

end StopReason

/-- The tally of one unpacking. -/
structure IntakeStats where
  entriesSeen : Nat
  filesExtracted : Nat
  bytesExtracted : Nat
  directoriesCreated : Nat
  skipped : SortedMap EntrySkip Nat
  stopped : Option StopReason
deriving DecidableEq

namespace IntakeStats

def empty : IntakeStats := ⟨0, 0, 0, 0, ∅, none⟩

instance : EmptyCollection IntakeStats := ⟨empty⟩

def recordSkip (s : IntakeStats) (reason : EntrySkip) : IntakeStats :=
  { s with skipped := s.skipped.alter reason fun old => old.getD 0 + 1 }

def totalSkipped (s : IntakeStats) : Nat := s.skipped.values.sum

/-- Does the workspace hold only a part of the archive? -/
def isPartial (s : IntakeStats) : Bool := s.stopped.isSome

end IntakeStats

end CodeSurvey
