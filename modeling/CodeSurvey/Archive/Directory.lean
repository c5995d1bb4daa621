import CodeSurvey.Archive.Basic
import CodeSurvey.Archive.CodePage
import CodeSurvey.Text.Utf8

/-!
# The directory of an archive

An archive ends with a record that says where its directory is; the directory has a header for each
entry. Archives whose numbers do not fit the end record have a longer one as well. Bytes may stand before
the archive proper: all positions are then shifted, and the place where the end record is found tells by
how much.
-/

namespace CodeSurvey.Archive

/-- The number written in `n` bytes from a position on, lowest byte first. -/
def littleEndian (data : ByteArray) (pos : Nat) : Nat → Except ArchiveError Nat
  | 0 => .ok 0
  | n + 1 =>
    if h : pos < data.size then
      (littleEndian data (pos + 1) n).map (data[pos].toNat + 256 * ·)
    else .error .unexpectedEnd

/-- Some bytes that have to be there. -/
def slice (data : ByteArray) (pos n : Nat) : Except ArchiveError ByteArray :=
  if pos + n ≤ data.size then .ok (data.extract pos (pos + n)) else .error .unexpectedEnd

/-! ## The end record -/

structure EndRecord where
  /-- Where the record starts. -/
  start : Nat
  disk : Nat
  directoryDisk : Nat
  entriesOnDisk : Nat
  entries : Nat
  directorySize : Nat
  directoryOffset : Nat
  commentSize : Nat

/-- The largest numbers of two, four and eight bytes. -/
def max16 : Nat := 0xFFFF
def max32 : Nat := 0xFFFFFFFF
def max64 : Nat := 0xFFFFFFFFFFFFFFFF

/-- Does a field say that its number is to be found elsewhere? -/
def EndRecord.isTooSmall (r : EndRecord) : Bool :=
  r.disk = max16 || r.directoryDisk = max16 || r.entriesOnDisk = max16 || r.entries = max16 ||
    r.directorySize = max32 || r.directoryOffset = max32

def endRecordSize : Nat := 22

/-- The last place at or before `pos`, within `reach` steps, where the mark of an end record stands. -/
def findEndRecord (data : ByteArray) : (reach pos : Nat) → Except ArchiveError Nat
  | reach, pos =>
    match littleEndian data pos 4 with
    | .error e => .error e
    | .ok mark =>
      if mark = 0x06054B50 then .ok pos
      else
        match reach, pos with
        | reach + 1, pos + 1 => findEndRecord data reach pos
        | _, _ => .error .noEndRecord

/-- The end record, searched from the end backwards as far as a comment can be long. -/
def endRecord (data : ByteArray) : Except ArchiveError EndRecord := do
  if data.size < endRecordSize then throw .tooShort
  let start ← findEndRecord data max16 (data.size - endRecordSize)
  let commentSize ← littleEndian data (start + 20) 2
  let _ ← slice data (start + endRecordSize) commentSize
  return {
    start
    disk := ← littleEndian data (start + 4) 2
    directoryDisk := ← littleEndian data (start + 6) 2
    entriesOnDisk := ← littleEndian data (start + 8) 2
    entries := ← littleEndian data (start + 10) 2
    directorySize := ← littleEndian data (start + 12) 4
    directoryOffset := ← littleEndian data (start + 16) 4
    commentSize }

/-- Where the directory is: how far all positions are shifted, its first byte, its number of headers. -/
structure Whereabouts where
  shift : Nat
  start : Nat
  count : Nat

/-- The first place from `pos` on, within `reach` steps, where the mark of a long end record stands. -/
def findLongEndRecord (data : ByteArray) : (reach pos : Nat) → Except ArchiveError Nat
  | reach, pos =>
    match littleEndian data pos 4 with
    | .error e => .error e
    | .ok mark =>
      if mark = 0x06064B50 then .ok pos
      else
        match reach with
        | reach + 1 => findLongEndRecord data reach (pos + 1)
        | 0 => .error .noLongEndRecord

/-- The whereabouts in a long end record, which a locator places at `nominal` before any shift. -/
def longWhereabouts (data : ByteArray) (r : EndRecord) (locator : Nat) :
    Except ArchiveError Whereabouts := do
  let locatorDisk ← littleEndian data (locator + 4) 4
  let nominal ← littleEndian data (locator + 8) 8
  if !r.isTooSmall && r.disk ≠ locatorDisk then throw .severalDisks
  if r.start < 60 then throw .noRoomForLongEndRecord
  if r.start - 60 < nominal then throw .noLongEndRecord
  let start ← findLongEndRecord data (r.start - 60 - nominal) nominal
  let disk ← littleEndian data (start + 16) 4
  let directoryDisk ← littleEndian data (start + 20) 4
  let count ← littleEndian data (start + 32) 8
  let offset ← littleEndian data (start + 48) 8
  if disk ≠ directoryDisk then throw .severalDisks
  if max64 < offset + (start - nominal) then throw .directoryPosition
  return ⟨start - nominal, offset + (start - nominal), count⟩

/-- The whereabouts of the directory. A locator right before the end record calls for the long one. -/
def whereabouts (data : ByteArray) (r : EndRecord) : Except ArchiveError Whereabouts :=
  let before := 20 + endRecordSize + r.commentSize
  let locator := data.size - before
  match if before ≤ data.size then littleEndian data locator 4 else .ok 0 with
  | .ok 0x07064B50 => longWhereabouts data r locator
  | _ =>
    if r.start < r.directorySize + r.directoryOffset then .error .directoryPosition
    else
      let shift := r.start - r.directorySize - r.directoryOffset
      .ok ⟨shift, r.directoryOffset + shift, r.entriesOnDisk⟩

/-! ## Headers -/

/-- What the directory says of one entry. -/
structure Header where
  name : String
  isEncrypted : Bool
  method : Nat
  checksum : Nat
  packedSize : Nat
  size : Nat
  /-- Where the entry itself starts. -/
  start : Nat
  /-- Is the content encrypted by the stronger method? -/
  hasStrongEncryption : Bool

/-- How many bytes a header has before the name. -/
def headerSize : Nat := 46

/-- Is this a number that has to be looked up in the extra fields? -/
def replaceable (n : Nat) : Bool := n = max32

/-- The long numbers of an extra field replace, in this order, those of size, packed size and start that
did not fit the header. Numbers are replaced up to the point where the field ends too early. Gives the
header, and how far the field was read. -/
def withLongNumbers (data : ByteArray) (pos : Nat) (h : Header) : Except Header (Header × Nat) := do
  let long (pos : Nat) (h : Header) : Except Header Nat :=
    (littleEndian data pos 8).mapError fun _ => h
  let (h, pos) ← if replaceable h.size then do
      pure ({ h with size := ← long pos h }, pos + 8) else pure (h, pos)
  let (h, pos) ← if replaceable h.packedSize then do
      pure ({ h with packedSize := ← long pos h }, pos + 8) else pure (h, pos)
  if replaceable h.start then do
    return ({ h with start := ← long pos h }, pos + 8)
  return (h, pos)

/-- How many bytes a field for strong encryption has. -/
def encryptionFieldSize : Nat := 7

/-- The extra field that goes with strong encryption names the real packing method. -/
def withEncryption (data : ByteArray) (pos length : Nat) (h : Header) :
    Except ArchiveError Header := do
  if length ≠ encryptionFieldSize then throw .encryptionFieldLength
  let version ← littleEndian data pos 2
  let vendor ← littleEndian data (pos + 2) 2
  let strength ← littleEndian data (pos + 4) 1
  let method ← littleEndian data (pos + 5) 2
  if vendor ≠ 0x4541 then throw .encryptionVendor
  if version ≠ 1 && version ≠ 2 then throw .encryptionVersion
  if strength = 0 || 3 < strength then throw .encryptionStrength
  return { h with method, hasStrongEncryption := true }

/-- Applies the extra fields from a position on. Fields that end too early are no error. As many bytes as a
field for strong encryption has are passed over after it. -/
def withExtraFields (fields : ByteArray) (pos : Nat) (h : Header) : Except ArchiveError Header :=
  if pos < fields.size then
    match littleEndian fields pos 2, littleEndian fields (pos + 2) 2 with
    | .ok kind, .ok length =>
      let next := pos + 4 + length
      if kind = 1 then
        match withLongNumbers fields (pos + 4) h with
        | .error h => .ok h
        | .ok (h, read) => withExtraFields fields (max next read) h
      else if kind = 0x9901 then
        match withEncryption fields (pos + 4) length h with
        | .error .unexpectedEnd => .ok h
        | .error e => .error e
        | .ok h => withExtraFields fields (next + encryptionFieldSize) h
      else withExtraFields fields next h
    | _, _ => .ok h
  else .ok h
termination_by fields.size - pos
decreasing_by all_goals omega

/-- The method number that stands for strong encryption. -/
def encryptedMethod : Nat := 99

/-- The header at a position, and the position of the next one. -/
def header (data : ByteArray) (shift pos : Nat) : Except ArchiveError (Header × Nat) := do
  if (← littleEndian data pos 4) ≠ 0x02014B50 then throw .directoryHeader
  let flags ← littleEndian data (pos + 8) 2
  let nameSize ← littleEndian data (pos + 28) 2
  let extraSize ← littleEndian data (pos + 30) 2
  let commentSize ← littleEndian data (pos + 32) 2
  let start ← littleEndian data (pos + 42) 4
  let name ← slice data (pos + headerSize) nameSize
  let extra ← slice data (pos + headerSize + nameSize) extraSize
  let _ ← slice data (pos + headerSize + nameSize + extraSize) commentSize
  let h ← withExtraFields extra 0 {
    name := if flags.testBit 11 then Text.ofBytes name else codePageText name
    isEncrypted := flags.testBit 0
    method := ← littleEndian data (pos + 10) 2
    checksum := ← littleEndian data (pos + 16) 4
    packedSize := ← littleEndian data (pos + 20) 4
    size := ← littleEndian data (pos + 24) 4
    start
    hasStrongEncryption := false }
  if h.method = encryptedMethod && !h.hasStrongEncryption then throw .noEncryptionField
  if max64 < h.start + shift then throw .entryOutOfReach
  return ({ h with start := h.start + shift }, pos + headerSize + nameSize + extraSize + commentSize)

/-- So many headers from a position on. -/
def headers (data : ByteArray) (shift : Nat) : (count pos : Nat) → Except ArchiveError (List Header)
  | 0, _ => .ok []
  | count + 1, pos =>
    match header data shift pos with
    | .error e => .error e
    | .ok (h, next) => (headers data shift count next).map (h :: ·)

/-- The directory of an archive. -/
def directory (data : ByteArray) : Except ArchiveError (List Header) := do
  let r ← endRecord data
  if !r.isTooSmall && r.disk ≠ r.directoryDisk then throw .severalDisks
  let w ← whereabouts data r
  if 2 ^ 63 ≤ w.start then throw .directoryOutOfReach
  headers data w.shift w.count w.start

end CodeSurvey.Archive
