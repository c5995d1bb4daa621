/-!
# Resource ceilings

How much a run may take in. The ceilings are the only defence against archives made to exhaust the
machine, so every stage of a run is handed the same record of them.
-/

namespace CodeSurvey

/-- What has a ceiling. -/
inductive Ceiling where
  | archiveSize
  | totalBytes
  | fileCount
  | fileSize
  | compressionRatio
deriving DecidableEq, Repr

namespace Ceiling

/-- All ceilings, in the order in which they are listed and checked. -/
def all : List Ceiling := [archiveSize, totalBytes, fileCount, fileSize, compressionRatio]

/-- The name used in records and configurations. -/
def key : Ceiling → String
  | archiveSize => "max_archive_size"
  | totalBytes => "max_total_uncompressed_bytes"
  | fileCount => "max_file_count"
  | fileSize => "max_source_file_size"
  | compressionRatio => "max_compression_ratio"

theorem mem_all (c : Ceiling) : c ∈ all := by cases c <;> decide

end Ceiling

/-- The ceilings of one run. -/
structure Limits where
  /-- The size of the largest archive accepted. -/
  maxArchiveSize : UInt64
  /-- How many bytes may be unpacked from one archive. -/
  maxTotalBytes : UInt64
  /-- How many files may be unpacked from one archive. -/
  maxFileCount : UInt64
  /-- The size of the largest source file that is read. -/
  maxFileSize : UInt64
  /-- The largest quotient of unpacked and packed size that is not suspicious. -/
  maxCompressionRatio : UInt64
deriving DecidableEq, Repr

namespace Limits

/-- The built-in ceilings: 500 MiB for an archive, 2 GiB and 10000 files unpacked, 10 MiB for a file,
and a hundredfold compression. -/
def builtin : Limits where
  maxArchiveSize := 500 * 1024 * 1024
  maxTotalBytes := 2 * 1024 * 1024 * 1024
  maxFileCount := 10000
  maxFileSize := 10 * 1024 * 1024
  maxCompressionRatio := 100

instance : Inhabited Limits := ⟨builtin⟩

def get (l : Limits) : Ceiling → UInt64
  | .archiveSize => l.maxArchiveSize
  | .totalBytes => l.maxTotalBytes
  | .fileCount => l.maxFileCount
  | .fileSize => l.maxFileSize
  | .compressionRatio => l.maxCompressionRatio

/-- The limits in which each ceiling is as given. -/
def ofFn (f : Ceiling → UInt64) : Limits where
  maxArchiveSize := f .archiveSize
  maxTotalBytes := f .totalBytes
  maxFileCount := f .fileCount
  maxFileSize := f .fileSize
  maxCompressionRatio := f .compressionRatio

@[simp] theorem get_ofFn (f : Ceiling → UInt64) (c : Ceiling) : (ofFn f).get c = f c := by
  cases c <;> rfl

end Limits

end CodeSurvey
