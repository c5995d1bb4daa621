import CodeSurvey.Intake.BoundedCopy

/-!
# Archives

What an archive offers to those who unpack it, and why a file is not an archive at all.
-/

namespace CodeSurvey

/-- One entry of an archive. Everything in it is a claim of the archive's maker: the sizes need not fit
the bytes. -/
structure Entry where
  name : String
  isDirectory : Bool
  /-- The size of the content as the header declares it. -/
  declaredSize : Nat
  /-- The size of the packed content as the header declares it. -/
  packedSize : Nat
  /-- What reading the content brings. -/
  reads : Thunk (List Read)

/-- The entries of an archive in order; `none` for one that cannot be opened. -/
abbrev Entries := List (Option Entry)

/-- Why a file cannot be read as an archive. -/
inductive ArchiveError where
  | directory
  | unexpectedEnd
  | tooShort
  | noEndRecord
  | directoryPosition
  | directoryOutOfReach
  | directoryHeader
  | noRoomForLongEndRecord
  | noLongEndRecord
  | severalDisks
  | entryOutOfReach
  | noEncryptionField
  | encryptionFieldLength
  | encryptionVendor
  | encryptionVersion
  | encryptionStrength
deriving DecidableEq, Repr

namespace ArchiveError

/-- Is it the reading of the file that failed, and not its content? -/
def isIo : ArchiveError → Bool
  | directory | unexpectedEnd => true
  | _ => false

def message : ArchiveError → String
  | directory => "Is a directory (os error 21)"
  | unexpectedEnd => "failed to fill whole buffer"
  | tooShort => "invalid Zip archive: Invalid zip header"
  | noEndRecord => "invalid Zip archive: Could not find central directory end"
  | directoryPosition => "invalid Zip archive: Invalid central directory size or offset"
  | directoryOutOfReach => "invalid Zip archive: Could not seek to start of central directory"
  | directoryHeader => "invalid Zip archive: Invalid Central Directory header"
  | noRoomForLongEndRecord =>
    "invalid Zip archive: File cannot contain ZIP64 central directory end"
  | noLongEndRecord => "invalid Zip archive: Could not find ZIP64 central directory end"
  | severalDisks => "unsupported Zip archive: Support for multi-disk files is not implemented"
  | entryOutOfReach => "invalid Zip archive: Archive header is too large"
  | noEncryptionField => "invalid Zip archive: AES encryption without AES extra data field"
  | encryptionFieldLength =>
    "unsupported Zip archive: AES extra data field has an unsupported length"
  | encryptionVendor => "invalid Zip archive: Invalid AES vendor"
  | encryptionVersion => "invalid Zip archive: Invalid AES vendor version"
  | encryptionStrength => "invalid Zip archive: Invalid AES encryption strength"

end ArchiveError

end CodeSurvey
